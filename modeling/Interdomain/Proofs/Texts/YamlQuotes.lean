import Interdomain.Yaml.Printer
import Interdomain.Yaml.QuotedText
import Mathlib.Data.List.Forall2
import Mathlib.Data.List.TakeWhile
import Mathlib.Tactic.Ring

/-!
# YAML texts between quotes

What stands between quotes is read back: between double quotes every text, since each of its
characters is written as itself or as an escape for it (`escapes_escape`), and between single quotes
every text on one line. In what is written there are no line breaks, so the gaps in it are spaces,
and they are not folded.
-/

namespace Interdomain.Yaml

variable {cs rest : List Char} {c : Char}

/-! ## Characters -/

/-- A text without line breaks. -/
def OnOneLine (cs : List Char) : Prop := ∀ c ∈ cs, isBreak c = false

theorem isMultiline_eq_false_iff : isMultiline cs = false ↔ OnOneLine cs := by
  simp only [isMultiline, OnOneLine, List.any_eq_false, Bool.not_eq_true]

theorem OnOneLine.between {quote : Char} (hquote : isBreak quote = false) (h : OnOneLine cs) :
    OnOneLine (quote :: (cs ++ [quote])) :=
  List.forall_mem_cons.2 ⟨hquote, List.forall_mem_append.2 ⟨h, by simpa using hquote⟩⟩

theorem OnOneLine.not_isBreak_getLast? (h : OnOneLine cs) : ¬cs.getLast?.any isBreak = true := by
  cases hlast : cs.getLast? with
  | none => simp
  | some c => simp [h c (List.mem_of_getLast? hlast)]

/-- A gap that printing leaves as it is consists of spaces. -/
theorem eq_space_of_isGap (hprintable : isPrintable c = true) (hbreak : isBreak c = false)
    (hgap : isGap c = true) : c = ' ' := by
  have hcases : c = ' ' ∨ c = '\t' ∨ c.toNat = 0 := by
    simpa [isGap, isSpacing, hbreak, or_assoc] using hgap
  rcases hcases with h | rfl | h
  · exact h
  · exact absurd hprintable (by decide)
  · rw [isPrintable, h] at hprintable
    exact absurd hprintable (by decide)

/-- A character that a document may have and that is no kind of line break but the usual one. -/
def IsOrdinary (c : Char) : Prop := isAllowed c = true ∧ (c == '\r' || c.toNat == 0x85) = false

instance : DecidablePred IsOrdinary := fun _ ↦ inferInstanceAs (Decidable (_ ∧ _))

theorem isOrdinary_of_isPrintable (h : isPrintable c = true) : IsOrdinary c := by
  have hcases : c.toNat = 0x0A ∨ (0x20 ≤ c.toNat ∧ c.toNat ≤ 0x7E) ∨
      (0xA0 ≤ c.toNat ∧ c.toNat ≤ 0xFFFD) ∨ 0x10000 ≤ c.toNat := by
    simp only [isPrintable, Bool.or_eq_true, Bool.and_eq_true, beq_iff_eq, decide_eq_true_eq] at h
    omega
  have hreturn : c ≠ '\r' := by
    rintro rfl
    exact absurd hcases (by decide)
  have hbreak : c.toNat = 0x0A → c = '\n' := fun h ↦ Char.toNat_inj.1 h
  refine ⟨?_, ?_⟩
  · simp only [isAllowed, Bool.or_eq_true, Bool.and_eq_true, beq_iff_eq, decide_eq_true_eq]
    rcases hcases with h | h | h | h
    · simp [hbreak h]
    · simp [h]
    · simp [h]
    · simp [h]
  · simp only [Bool.or_eq_false_iff, beq_eq_false_iff_ne]
    exact ⟨hreturn, by omega⟩

/-- The bytes of some characters. -/
def byteCount (cs : List Char) : Nat := (cs.map Char.utf8Size).sum

theorem byteCount_cons (c : Char) (cs : List Char) :
    byteCount (c :: cs) = c.utf8Size + byteCount cs := by
  rw [byteCount, byteCount, List.map_cons, List.sum_cons]

theorem byteCount_append (cs rest : List Char) :
    byteCount (cs ++ rest) = byteCount cs + byteCount rest := by
  rw [byteCount, byteCount, byteCount, List.map_append, List.sum_append]

theorem byteCount_toList (s : String) : byteCount s.toList = s.utf8ByteSize := by
  have hofList : ∀ cs, byteCount cs = (String.ofList cs).utf8ByteSize := by
    intro cs
    induction cs with
    | nil => rfl
    | cons c cs ih =>
      rw [byteCount_cons, ih, ← String.utf8ByteSize_singleton, ← String.utf8ByteSize_append,
        ← List.singleton_append, String.ofList_append]
      rfl
  rw [hofList, String.ofList_toList]

/-- What is written for each character takes so many times its bytes. -/
theorem byteCount_flatMap_le {write : Char → List Char} {n : Nat}
    (h : ∀ c, byteCount (write c) ≤ n * c.utf8Size) (cs : List Char) :
    byteCount (cs.flatMap write) ≤ n * byteCount cs := by
  induction cs with
  | nil => exact Nat.zero_le _
  | cons c cs ih =>
    rw [List.flatMap_cons, byteCount_append, byteCount_cons, Nat.mul_add]
    exact Nat.add_le_add (h c) ih

theorem foldGap_of_onOneLine {gap : List Char} (h : OnOneLine gap) : foldGap gap = gap := by
  have hnone : gap.filter isBreak = [] := List.filter_eq_nil_iff.2 fun c hc ↦ by simp [h c hc]
  rw [foldGap, hnone]

namespace QuotedText

/-! ## Parts -/

/-- A part that stands for a character, and is no gap that could be folded. -/
inductive Part.Shows : Part → Char → Prop where
  | char (c : Char) : Shows (.char c) c
  | gap {c : Char} (h : isBreak c = false) : Shows (.gap c) c

theorem Part.shows_ofChar (h : isBreak c = false) : (Part.ofChar c).Shows c := by
  rw [ofChar]
  split
  case isTrue => exact .gap h
  case isFalse => exact .char c

theorem join_eq {parts : List Part} (h : List.Forall₂ Part.Shows parts cs) (gap : List Char)
    (hgap : OnOneLine gap) : join gap false parts = gap ++ cs := by
  have hwritten : ∀ g, OnOneLine g → join.written g false = g := fun g hg ↦ by
    rw [join.written, if_neg (by simp), foldGap_of_onOneLine hg]
  induction h generalizing gap with
  | nil => rw [join, hwritten gap hgap, List.append_nil]
  | cons hpart _ ih =>
    cases hpart with
    | char c =>
      rw [join, hwritten gap hgap, ih [] (by simp [OnOneLine]), List.nil_append]
    | gap hc =>
      rw [join, ih, List.append_assoc, List.singleton_append]
      intro d hd
      rcases List.mem_append.1 hd with hd | hd
      · exact hgap d hd
      · rwa [List.mem_singleton.1 hd]

theorem hasMarker_of_onOneLine (h : OnOneLine cs) : hasMarker cs = false := by
  induction cs with
  | nil => rfl
  | cons c cs ih =>
    rw [hasMarker, h c List.mem_cons_self, Bool.false_and, Bool.false_or]
    exact ih fun d hd ↦ h d (List.mem_cons_of_mem c hd)

theorem ofParts?_eq {quote : Char} {raw : List Char} {parts : List Part}
    (hquote : isBreak quote = false) (hraw : OnOneLine raw)
    (hparts : List.Forall₂ Part.Shows parts cs) :
    scan?.ofParts? quote raw parts = some ⟨cs, quote :: (raw ++ [quote])⟩ := by
  have hmarker : ¬hasMarker (quote :: raw ++ [quote]) = true := by
    rw [List.cons_append, hasMarker_of_onOneLine (hraw.between hquote)]
    exact Bool.false_ne_true
  simp only [scan?.ofParts?, if_neg hmarker, join_eq hparts [] (by simp [OnOneLine])]
  rfl

/-! ## Single quotes -/

/-- Every single quote written twice. -/
def doubled (cs : List Char) : List Char :=
  cs.flatMap fun c ↦ if c == '\'' then ['\'', '\''] else [c]

theorem doubled_cons (c : Char) (cs : List Char) :
    doubled (c :: cs) = (if c == '\'' then ['\'', '\''] else [c]) ++ doubled cs := rfl

theorem singleExtent?_doubled (cs : List Char) (hrest : rest.head? ≠ some '\'') :
    singleExtent? (doubled cs ++ '\'' :: rest) = some (doubled cs) := by
  induction cs with
  | nil =>
    rw [doubled, List.flatMap_nil, List.nil_append, singleExtent?.eq_def]
    cases rest with
    | nil => rfl
    | cons d rest =>
      split
      case h_1 heq =>
        simp only [List.cons.injEq, true_and] at heq
        exact absurd (congrArg some heq.1) hrest
      case h_2 => rfl
      case h_3 hne heq => exact absurd (List.cons.inj heq).1.symm hne
      case h_4 heq => simp at heq
  | cons c cs ih =>
    rw [doubled_cons]
    by_cases hc : c = '\''
    · rw [hc, if_pos (by simp)]
      simp only [List.cons_append, List.nil_append, singleExtent?, ih, Option.map_some]
    · rw [if_neg (by simp [hc]), List.singleton_append, List.cons_append, singleExtent?.eq_def]
      split
      case h_1 heq => exact absurd (List.cons.inj heq).1 hc
      case h_2 heq => exact absurd (List.cons.inj heq).1 hc
      case h_3 heq =>
        obtain ⟨rfl, rfl⟩ := List.cons.inj heq
        rw [ih, Option.map_some]
      case h_4 heq => simp at heq

theorem singleParts_doubled (cs : List Char) : singleParts (doubled cs) = cs.map Part.ofChar := by
  induction cs with
  | nil => rfl
  | cons c cs ih =>
    rw [doubled_cons, List.map_cons]
    by_cases hc : c = '\''
    · rw [hc, if_pos (by simp)]
      simp only [List.cons_append, List.nil_append, singleParts, ih]
      rfl
    · rw [if_neg (by simp [hc]), List.singleton_append, singleParts.eq_def]
      split
      case h_1 heq => exact absurd (List.cons.inj heq).1 hc
      case h_2 heq =>
        obtain ⟨rfl, rfl⟩ := List.cons.inj heq
        rw [ih]
      case h_3 heq => simp at heq

theorem mem_of_mem_doubled (h : c ∈ doubled cs) : c ∈ cs := by
  obtain ⟨d, hd, hmem⟩ := List.mem_flatMap.1 h
  have heq : c = d := by
    split at hmem
    case isTrue hquote =>
      obtain rfl : d = '\'' := by simpa using hquote
      simpa using hmem
    case isFalse => exact List.mem_singleton.1 hmem
  rwa [heq]

theorem onOneLine_doubled (h : OnOneLine cs) : OnOneLine (doubled cs) :=
  fun c hc ↦ h c (mem_of_mem_doubled hc)

theorem byteCount_doubled_le (cs : List Char) : byteCount (doubled cs) ≤ 2 * byteCount cs := by
  refine byteCount_flatMap_le (fun c ↦ ?_) cs
  split
  case isTrue hquote =>
    obtain rfl : c = '\'' := by simpa using hquote
    decide
  case isFalse =>
    rw [byteCount_cons, byteCount, List.map_nil, List.sum_nil]
    omega

/-- A text on one line is read back from between single quotes. -/
theorem scan?_single (h : OnOneLine cs) (hrest : rest.head? ≠ some '\'') :
    scan? ('\'' :: (doubled cs ++ '\'' :: rest))
      = some ⟨cs, '\'' :: (doubled cs ++ ['\''])⟩ := by
  have hparts : List.Forall₂ Part.Shows (cs.map Part.ofChar) cs := by
    rw [List.forall₂_map_left_iff, List.forall₂_same]
    exact fun c hc ↦ Part.shows_ofChar (h c hc)
  rw [scan?, singleExtent?_doubled cs hrest, Option.bind_eq_bind, Option.bind_some,
    singleParts_doubled]
  exact ofParts?_eq (by decide) (onOneLine_doubled h) hparts

/-! ## Double quotes -/

/-- The digits of escapes. -/
def IsHexDigit (c : Char) : Prop := ∃ n < 16, upperHex n = c

/-- How a character may be written between double quotes. -/
inductive Escapes (c : Char) : List Char → Prop where
  | plain (hprintable : isPrintable c = true) (hquote : c ≠ '"') (hslash : c ≠ '\\')
    (hbreak : isBreak c = false) : Escapes c [c]
  | named {letter : Char} (hletter : escaped? letter = some c) : Escapes c ['\\', letter]
  | hex {letter : Char} {digits : List Char}
    (hletter : (letter, digits.length) ∈ [('x', 2), ('u', 4)])
    (hdigits : ∀ d ∈ digits, IsHexDigit d) (hhex : hexChar? digits = some c) :
    Escapes c ('\\' :: letter :: digits)

theorem isHexDigit_of_mem_hexDigits {width n : Nat} (h : c ∈ hexDigits width n) : IsHexDigit c := by
  induction width generalizing n with
  | zero => exact absurd h List.not_mem_nil
  | succ width ih =>
    rcases List.mem_append.1 h with h | h
    · exact ih h
    · exact ⟨n % 16, Nat.mod_lt n (by decide), (List.mem_singleton.1 h).symm⟩

theorem length_hexDigits (width n : Nat) : (hexDigits width n).length = width := by
  induction width generalizing n with
  | zero => rfl
  | succ width ih => rw [hexDigits, List.length_append, ih, List.length_singleton]

theorem hexValue?_upperHex : ∀ n < 16, Json.hexValue? (upperHex n) = some n := by decide

theorem foldlM_hexDigits (width n before : Nat) :
    (hexDigits width n).foldlM (fun n c ↦ (Json.hexValue? c).map (16 * n + ·)) before
      = some (16 ^ width * before + n % 16 ^ width) := by
  induction width generalizing n with
  | zero => simp [hexDigits, Nat.mod_one]
  | succ width ih =>
    have hdigit := hexValue?_upperHex (n % 16) (Nat.mod_lt n (by decide))
    rw [hexDigits, List.foldlM_append, ih]
    simp only [Option.bind_eq_bind, Option.bind_some, List.foldlM_cons, List.foldlM_nil, hdigit,
      Option.map_some, Option.pure_def, Option.some_inj]
    rw [pow_succ, Nat.mul_comm (16 ^ width) 16, Nat.mod_mul]
    ring

theorem hexChar?_hexDigits {width : Nat} (h : c.toNat < 16 ^ width) :
    hexChar? (hexDigits width c.toNat) = some c := by
  rw [hexChar?, foldlM_hexDigits, Nat.mod_eq_of_lt h, Nat.mul_zero, Nat.zero_add,
    Option.bind_eq_bind, Option.bind_some, Json.charOf?,
    if_pos (show c.toNat.isValidChar from c.valid), Char.ofNat_toNat]

/-- Beyond the first plane no character is escaped. -/
theorem isWrittenAsIs_of_lt (h : 0xFFFF < c.toNat) :
    (isPrintable c && !isBreak c && c != '"' && c != '\\') = true := by
  have hne : ∀ d : Char, d.toNat ≤ 0xFFFF → c ≠ d := by
    rintro d hd rfl
    omega
  have hprintable : isPrintable c = true := by
    simp only [isPrintable, Bool.or_eq_true, decide_eq_true_eq]
    exact .inr h
  have hbreak : isBreak c = false := by
    simp only [isBreak, Bool.or_eq_false_iff, beq_eq_false_iff_ne]
    refine ⟨⟨⟨⟨hne _ (by decide), hne _ (by decide)⟩, ?_⟩, ?_⟩, ?_⟩ <;> omega
  simp [hprintable, hbreak, hne '"' (by decide), hne '\\' (by decide)]

theorem escapes_escape (c : Char) : Escapes c (escape c) := by
  have hnamed : ∀ {n : Nat} {letter : Char}, c.toNat = n →
      escaped? letter = some (Char.ofNat n) → Escapes c ['\\', letter] := by
    rintro n letter rfl h
    rw [Char.ofNat_toNat] at h
    exact .named h
  have hhex : ∀ {letter : Char} {width : Nat}, (letter, width) ∈ [('x', 2), ('u', 4)] →
      c.toNat < 16 ^ width → Escapes c ('\\' :: letter :: hexDigits width c.toNat) := by
    intro letter width hletter hsmall
    exact .hex (by rwa [length_hexDigits]) (fun d hd ↦ isHexDigit_of_mem_hexDigits hd)
      (hexChar?_hexDigits hsmall)
  rw [escape]
  split
  case isTrue h =>
    simp only [Bool.and_eq_true, Bool.not_eq_true', bne_iff_ne] at h
    exact .plain h.1.1.1 h.1.2 h.2 h.1.1.2
  case isFalse hescaped =>
    dsimp only
    split
    case h_1 h | h_2 h | h_3 h | h_4 h | h_5 h | h_6 h | h_7 h | h_8 h | h_9 h | h_10 h | h_11 h |
      h_12 h | h_13 h | h_14 h => exact hnamed h rfl
    case h_15 =>
      split
      case isTrue hsmall => exact hhex (by decide) (Nat.lt_of_le_of_lt hsmall (by decide))
      case isFalse =>
        split
        case isTrue hsmall => exact hhex (by decide) (Nat.lt_of_le_of_lt hsmall (by decide))
        case isFalse hlarge =>
          exact absurd (isWrittenAsIs_of_lt (Nat.lt_of_not_le hlarge)) hescaped

/-- The characters that escapes are made of. -/
structure IsEscapeChar (c : Char) : Prop where
  line : isBreak c = false
  ordinary : IsOrdinary c
  bytes : c.utf8Size = 1

instance : DecidablePred IsEscapeChar := fun c ↦
  decidable_of_iff (isBreak c = false ∧ IsOrdinary c ∧ c.utf8Size = 1)
    ⟨fun h ↦ ⟨h.1, h.2.1, h.2.2⟩, fun h ↦ ⟨h.line, h.ordinary, h.bytes⟩⟩

theorem IsHexDigit.isEscapeChar (h : IsHexDigit c) : IsEscapeChar c := by
  obtain ⟨n, hn, rfl⟩ := h
  have hall : ∀ n < 16, IsEscapeChar (upperHex n) := by decide
  exact hall n hn

theorem IsHexDigit.ne (h : IsHexDigit c) : c ≠ '"' ∧ c ≠ '\\' := by
  obtain ⟨n, hn, rfl⟩ := h
  have hall : ∀ n < 16, upperHex n ≠ '"' ∧ upperHex n ≠ '\\' := by decide
  exact hall n hn

theorem isEscapeChar_of_escaped? {letter : Char} (h : escaped? letter = some c) :
    IsEscapeChar letter := by
  rw [escaped?.eq_def] at h
  split at h
  case h_19 => exact absurd h (by simp)
  all_goals decide

theorem ne_of_escaped? {letter : Char} (h : escaped? letter = some c) :
    letter ≠ 'x' ∧ letter ≠ 'u' ∧ letter ≠ 'U' := by
  rw [escaped?.eq_def] at h
  split at h
  case h_19 => exact absurd h (by simp)
  all_goals decide

/-- A character is written as itself or by a few others. -/
theorem Escapes.cases_chars {written : List Char} (h : Escapes c written) :
    (written = [c] ∧ isPrintable c = true ∧ isBreak c = false) ∨
      (written.length ≤ 6 ∧ ∀ d ∈ written, IsEscapeChar d) := by
  have hslash : IsEscapeChar '\\' := by decide
  cases h with
  | plain hprintable _ _ hbreak => exact .inl ⟨rfl, hprintable, hbreak⟩
  | named hletter =>
    exact .inr ⟨Nat.le_add_left 2 4, List.forall_mem_cons.2 ⟨hslash,
      List.forall_mem_cons.2 ⟨isEscapeChar_of_escaped? hletter, by simp⟩⟩⟩
  | @hex letter digits hletter hdigits =>
    have hletters : ∀ p ∈ [('x', 2), ('u', 4)], IsEscapeChar p.1 ∧ p.2 ≤ 4 := by decide
    obtain ⟨hfirst, hlength⟩ := hletters _ hletter
    refine .inr ⟨Nat.succ_le_succ (Nat.succ_le_succ hlength), List.forall_mem_cons.2 ⟨hslash,
      List.forall_mem_cons.2 ⟨hfirst, fun d hd ↦ (hdigits d hd).isEscapeChar⟩⟩⟩

theorem onOneLine_flatMap_escape (cs : List Char) : OnOneLine (cs.flatMap escape) := by
  intro d hd
  obtain ⟨c, -, hmem⟩ := List.mem_flatMap.1 hd
  rcases (escapes_escape c).cases_chars with ⟨hself, -, hbreak⟩ | ⟨-, hchars⟩
  · rw [hself] at hmem
    rwa [List.mem_singleton.1 hmem]
  · exact (hchars d hmem).line

theorem isOrdinary_of_mem_flatMap_escape (hc : c ∈ cs.flatMap escape) : IsOrdinary c := by
  obtain ⟨b, -, hmem⟩ := List.mem_flatMap.1 hc
  rcases (escapes_escape b).cases_chars with ⟨hself, hprintable, -⟩ | ⟨-, hchars⟩
  · rw [hself] at hmem
    rw [List.mem_singleton.1 hmem]
    exact isOrdinary_of_isPrintable hprintable
  · exact (hchars c hmem).ordinary

theorem byteCount_escape_le (c : Char) : byteCount (escape c) ≤ 6 * c.utf8Size := by
  have hpos := c.utf8Size_pos
  rcases (escapes_escape c).cases_chars with ⟨hself, -⟩ | ⟨hlength, hchars⟩
  · rw [hself, byteCount_cons, byteCount, List.map_nil, List.sum_nil]
    omega
  · have hbytes : byteCount (escape c) = (escape c).length := by
      rw [byteCount, List.map_congr_left fun d hd ↦ (hchars d hd).bytes, List.map_const',
        List.sum_replicate_nat, Nat.mul_one]
    omega

theorem doubleExtent?_append (h : ∀ d ∈ cs, d ≠ '"' ∧ d ≠ '\\') (rest : List Char) :
    doubleExtent? (cs ++ rest) = (doubleExtent? rest).map (cs ++ ·) := by
  induction cs with
  | nil => simp
  | cons c cs ih =>
    obtain ⟨hquote, hslash⟩ := h c List.mem_cons_self
    rw [List.cons_append, doubleExtent?.eq_def]
    split
    case h_1 heq => exact absurd (List.cons.inj heq).1 hslash
    case h_2 heq => exact absurd (List.cons.inj heq).1 hquote
    case h_3 heq =>
      obtain ⟨rfl, rfl⟩ := List.cons.inj heq
      rw [ih fun d hd ↦ h d (List.mem_cons_of_mem c hd), Option.map_map]
      rfl
    case h_4 heq => simp at heq

theorem Escapes.doubleExtent?_append {written : List Char} (h : Escapes c written)
    (rest : List Char) :
    doubleExtent? (written ++ rest) = (doubleExtent? rest).map (written ++ ·) := by
  have hslash : ∀ letter cs, doubleExtent? ('\\' :: letter :: cs)
      = (doubleExtent? cs).map fun cs ↦ '\\' :: letter :: cs := fun _ _ ↦ by rw [doubleExtent?]
  cases h with
  | plain _ hquote hslash =>
    exact QuotedText.doubleExtent?_append (by simp [hquote, hslash]) rest
  | named => exact hslash _ _
  | hex _ hdigits =>
    rw [List.cons_append, List.cons_append, hslash,
      QuotedText.doubleExtent?_append (fun d hd ↦ (hdigits d hd).ne),
      Option.map_map]
    rfl

theorem Escapes.exists_doubleParts?_append {written : List Char} (h : Escapes c written) :
    ∃ part, part.Shows c ∧
      ∀ rest, doubleParts? (written ++ rest) = (doubleParts? rest).map (part :: ·) := by
  cases h with
  | plain _ hquote hslash hbreak =>
    refine ⟨.ofChar c, Part.shows_ofChar hbreak, fun rest ↦ ?_⟩
    rw [List.singleton_append, doubleParts?.eq_def]
    split
    case h_1 heq => simp at heq
    case h_6 heq =>
      obtain ⟨rfl, rfl⟩ := List.cons.inj heq
      cases doubleParts? rest <;> rfl
    all_goals exact absurd (List.cons.inj ‹_›).1 hslash
  | @named letter hletter =>
    obtain ⟨hx, hu, hU⟩ := ne_of_escaped? hletter
    have hbreak := (isEscapeChar_of_escaped? hletter).line
    refine ⟨.char c, .char c, fun rest ↦ ?_⟩
    rw [List.cons_append, List.singleton_append, doubleParts?.eq_def]
    split
    case h_1 heq => simp at heq
    case h_2 heq => simp [hx] at heq
    case h_3 heq => simp [hu] at heq
    case h_4 heq => simp [hU] at heq
    case h_5 heq =>
      simp only [List.cons.injEq, true_and] at heq
      obtain ⟨rfl, rfl⟩ := heq
      rw [hbreak, hletter]
      cases doubleParts? rest <;> rfl
    case h_6 hnot heq =>
      simp only [List.cons.injEq] at heq
      exact absurd heq.2.symm (hnot _ _ heq.1.symm)
  | @hex letter digits hletter hdigits hhex =>
    refine ⟨.char c, .char c, fun rest ↦ ?_⟩
    simp only [List.mem_cons, List.not_mem_nil, or_false, Prod.mk.injEq] at hletter
    rcases hletter with ⟨rfl, hlength⟩ | ⟨rfl, hlength⟩
    · obtain ⟨a, b, rfl⟩ := List.length_eq_two.1 hlength
      simp only [List.cons_append, List.nil_append, doubleParts?, hhex]
      cases doubleParts? rest <;> rfl
    · obtain ⟨a, b, d, e, rfl⟩ := List.length_eq_four.1 hlength
      simp only [List.cons_append, List.nil_append, doubleParts?, hhex]
      cases doubleParts? rest <;> rfl

theorem doubleExtent?_flatMap_escape (cs : List Char) :
    doubleExtent? (cs.flatMap escape ++ '"' :: rest) = some (cs.flatMap escape) := by
  induction cs with
  | nil => simp [doubleExtent?]
  | cons c cs ih =>
    rw [List.flatMap_cons, List.append_assoc, (escapes_escape c).doubleExtent?_append, ih,
      Option.map_some]

theorem exists_doubleParts?_flatMap_escape (cs : List Char) :
    ∃ parts, List.Forall₂ Part.Shows parts cs ∧
      doubleParts? (cs.flatMap escape) = some parts := by
  induction cs with
  | nil => exact ⟨[], .nil, rfl⟩
  | cons c cs ih =>
    obtain ⟨part, hpart, happend⟩ := (escapes_escape c).exists_doubleParts?_append
    obtain ⟨parts, hparts, hread⟩ := ih
    refine ⟨part :: parts, .cons hpart hparts, ?_⟩
    rw [List.flatMap_cons, happend, hread, Option.map_some]

/-- Every text is read back from between double quotes. -/
theorem scan?_double (cs rest : List Char) :
    scan? ('"' :: (cs.flatMap escape ++ '"' :: rest))
      = some ⟨cs, '"' :: (cs.flatMap escape ++ ['"'])⟩ := by
  obtain ⟨parts, hparts, hread⟩ := exists_doubleParts?_flatMap_escape cs
  rw [scan?, doubleExtent?_flatMap_escape, Option.bind_eq_bind, Option.bind_some, hread,
    Option.bind_eq_bind, Option.bind_some]
  exact ofParts?_eq (by decide) (onOneLine_flatMap_escape cs) hparts

end QuotedText

end Interdomain.Yaml
