import Interdomain.Proofs.Texts.Identifiers
import Interdomain.Proofs.Texts.YamlQuotes
import Interdomain.Yaml.PlainText

/-!
# YAML texts without quotes

A text is written without quotes if it is on one line, nothing in it can be taken for an indicator
and it says a text, and not a number for example. Such a text is read back word by word, up to what
follows it: the colon after a key, or the next line if that is indented too little to go on with it.
-/

namespace Interdomain.Yaml

variable {cs rest gap : List Char} {c : Char} {bound : Nat} {broke : Bool}

/-! ## Neighbours -/

theorem related_of_anyNeighbours {related : Char → Char → Bool}
    (h : anyNeighbours related cs = false) {before after : List Char} {a b : Char}
    (hcs : cs = before ++ a :: b :: after) : related a b = false := by
  induction before generalizing cs with
  | nil =>
    rw [hcs, List.nil_append, anyNeighbours, Bool.or_eq_false_iff] at h
    exact h.1
  | cons d before ih =>
    have htail : anyNeighbours related (before ++ a :: b :: after) = false := by
      rw [hcs, List.cons_append] at h
      cases before with
      | nil =>
        rw [List.nil_append, anyNeighbours, Bool.or_eq_false_iff] at h
        exact h.2
      | cons e before =>
        rw [List.cons_append, anyNeighbours, Bool.or_eq_false_iff] at h
        exact h.2
    exact ih htail rfl

/-! ## Plain texts -/

/-- A text that can be written without quotes. -/
structure IsPlain (cs : List Char) : Prop where
  printable : ∀ c ∈ cs, isPrintable c = true
  line : OnOneLine cs
  indicator : hasIndicator cs = false
  ne_nil : cs ≠ []
  head : cs.head? ≠ some ' '
  last : cs.getLast? ≠ some ' '

theorem of_styleOf_eq_plain {s : String} (h : styleOf s = .plain) :
    Scalar.isAmbiguous s = false ∧ IsPlain s.toList := by
  rw [styleOf] at h
  split at h
  case isTrue => exact absurd h (by simp)
  case isFalse hescapes =>
    split at h
    case isTrue => split at h <;> exact absurd h (by simp)
    case isFalse =>
      split at h
      case isTrue => exact absurd h (by simp)
      case isFalse =>
        split at h
        case isTrue => exact absurd h (by simp)
        case isFalse hquotes =>
          simp only [Bool.or_eq_true, not_or, Bool.not_eq_true] at hescapes hquotes
          obtain ⟨⟨⟨⟨hambiguous, hhead⟩, hlast⟩, hline⟩, hindicator⟩ := hquotes
          refine ⟨hambiguous, fun c hc ↦ ?_, isMultiline_eq_false_iff.1 hline, hindicator,
            fun hnil ↦ ?_, fun heq ↦ ?_, fun heq ↦ ?_⟩
          · simpa using List.any_eq_false.1 hescapes.1 c hc
          · have hempty : s = "" := String.toList_inj.1 hnil
            rw [hempty] at hambiguous
            exact absurd hambiguous (by decide)
          · rw [heq] at hhead
            exact absurd hhead (by decide)
          · rw [heq] at hlast
            exact absurd hlast (by decide)

/-- The characters that start no plain text. -/
def startIndicators : List Char := "#,[]\x7b\x7d&*!|>'\"%@\x60".toList

theorem IsPlain.indicator_cons (h : IsPlain (c :: cs)) :
    startIndicators.contains c = false ∧
      ((c == '?' || c == ':' || c == '-') = true → atGap cs = false) := by
  have hindicator := h.indicator
  rw [hasIndicator.eq_def] at hindicator
  simp only [Bool.or_eq_false_iff] at hindicator
  obtain ⟨⟨⟨-, hspecial, hgapped⟩, -⟩, -⟩ := hindicator
  refine ⟨hspecial, fun hc ↦ ?_⟩
  rwa [hc, Bool.true_and] at hgapped

theorem IsPlain.ne (h : IsPlain (c :: cs)) {d : Char} (hd : startIndicators.contains d = true) :
    c ≠ d := by
  rintro rfl
  rw [h.indicator_cons.1] at hd
  exact absurd hd (by simp)

theorem IsPlain.not_isGap (h : IsPlain (c :: cs)) : isGap c = false := by
  refine Bool.eq_false_iff.2 fun hgap ↦ h.head (congrArg some ?_)
  exact eq_space_of_isGap (h.printable c List.mem_cons_self) (h.line c List.mem_cons_self) hgap

/-- A plain text starts with no marker of a document. -/
theorem IsPlain.not_marker (h : IsPlain cs) : "---".toList.isPrefixOf cs = false ∧
    "...".toList.isPrefixOf cs = false := by
  have hindicator := h.indicator
  rw [hasIndicator.eq_def] at hindicator
  simp only [Bool.or_eq_false_iff] at hindicator
  exact hindicator.1.1.1

namespace PlainText

/-- What stands behind the first word of a plain text, down to nothing: its gaps are spaces, no
colon stands before one, no number sign behind one, and there is none at the end. -/
structure Inner (cs : List Char) : Prop where
  gaps : ∀ c ∈ cs, isGap c = true → c = ' '
  colon : ∀ before after, cs = before ++ ':' :: after → atGap after = false
  hash : ∀ before c after, cs = before ++ c :: '#' :: after → isGap c = false
  last : cs.getLast? ≠ some ' '

theorem Inner.right {a b : List Char} (h : Inner (a ++ b)) : Inner b := by
  refine ⟨fun c hc ↦ h.gaps c (List.mem_append_right a hc), fun before after heq ↦ ?_,
    fun before c after heq ↦ ?_, fun hlast ↦ h.last ?_⟩
  · exact h.colon (a ++ before) after (by rw [heq, List.append_assoc])
  · exact h.hash (a ++ before) c after (by rw [heq, List.append_assoc])
  · rw [List.getLast?_append, hlast, Option.some_or]

theorem inner_of_isPlain (h : IsPlain cs) : Inner cs := by
  have hindicator := h.indicator
  rw [hasIndicator.eq_def] at hindicator
  simp only [Bool.or_eq_false_iff] at hindicator
  obtain ⟨⟨-, hcolon⟩, hneighbours⟩ := hindicator
  refine ⟨fun c hc hgap ↦ eq_space_of_isGap (h.printable c hc) (h.line c hc) hgap,
    fun before after heq ↦ ?_, fun before c after heq ↦ ?_, h.last⟩
  · cases after with
    | nil =>
      rw [heq, List.getLast?_append] at hcolon
      exact absurd hcolon (by simp)
    | cons d after =>
      have hrelated := related_of_anyNeighbours hneighbours heq
      simp only [beq_self_eq_true, Bool.true_and, Bool.or_eq_false_iff] at hrelated
      exact hrelated.1
  · have hrelated := related_of_anyNeighbours hneighbours heq
    simp only [beq_self_eq_true, Bool.and_true, Bool.or_eq_false_iff] at hrelated
    exact hrelated.2

/-! ## Words -/

theorem atGap_append (h : atGap cs = false) (rest : List Char) : atGap (cs ++ rest) = false := by
  cases cs with
  | nil => exact absurd h (by decide)
  | cons c cs => exact h

theorem word?_append {word : List Char} (hword : ∀ c ∈ word, isGap c = false)
    (h : Inner (word ++ cs)) (hcs : word? false (cs ++ rest) = some []) :
    word? false (word ++ (cs ++ rest)) = some word := by
  induction word with
  | nil => exact hcs
  | cons c word ih =>
    have hgap : ¬isGap c = true := by simp [hword c List.mem_cons_self]
    have hcolon : ¬((c == ':' && atGap (word ++ (cs ++ rest))) || false) = true := by
      intro htrue
      simp only [Bool.or_false, Bool.and_eq_true, beq_iff_eq] at htrue
      obtain ⟨rfl, hat⟩ := htrue
      have hnot := atGap_append (h.colon [] (word ++ cs) rfl) rest
      rw [List.append_assoc, hat] at hnot
      exact absurd hnot (by simp)
    rw [List.cons_append, word?, if_neg hgap, if_neg (by simp), Bool.false_and, if_neg hcolon,
      ih (fun d hd ↦ hword d (List.mem_cons_of_mem c hd)) (h.right (a := [c])), Option.map_some]

/-! ## What follows -/

/-- A text ends a plain text, which passes over the gap at its start. -/
structure Ends (bound : Nat) (rest gap : List Char) (broke : Bool) : Prop where
  word : word? false rest = some []
  more : ∀ fuel place, more? false bound (fuel + 1) place rest = some ([], gap, broke)

theorem ends_colon (h : atGap rest = true) : Ends bound (':' :: rest) [] false := by
  refine ⟨?_, fun fuel place ↦ ?_⟩
  · rw [word?, if_neg (by decide), if_neg (by simp), if_pos (by simp [h])]
  · have hgap : (':' :: rest).takeWhile isGap = [] := List.takeWhile_cons_of_neg (by decide)
    rw [more?, hgap]
    rfl

theorem isGap_space : isGap ' ' = true := by decide

theorem takeWhile_isGap_spaces {n : Nat} (h : ∀ c ∈ rest.head?, isGap c = false) :
    (spaces n ++ rest).takeWhile isGap = spaces n := by
  rw [List.takeWhile_append_of_pos fun c hc ↦ by rw [List.eq_of_mem_replicate hc, isGap_space]]
  cases rest with
  | nil => exact List.append_nil _
  | cons c rest =>
    have hc := h c rfl
    rw [List.takeWhile_cons_of_neg (by simp [hc]), List.append_nil]

theorem after_spaces (p : Place) (n : Nat) :
    p.after (spaces n) = ⟨p.line, p.column + n, p.bytes + n⟩ := by
  induction n generalizing p with
  | zero => rfl
  | succ n ih =>
    have hstep : p.step ' ' = ⟨p.line, p.column + 1, p.bytes + 1⟩ := rfl
    rw [spaces, List.replicate_succ, Place.after, List.foldl_cons, hstep]
    refine (ih _).trans ?_
    simp only [Place.mk.injEq, true_and]
    omega

theorem onOneLine_spaces (n : Nat) : OnOneLine (spaces n) := fun c hc ↦ by
  rw [List.eq_of_mem_replicate hc]
  decide

theorem hasIndentingTab_spaces (indent n : Nat) (column : Option Nat) :
    hasIndentingTab indent column (spaces n) = false := by
  induction n generalizing column with
  | zero => rfl
  | succ n ih =>
    rw [spaces, List.replicate_succ, hasIndentingTab, if_neg (by decide)]
    exact (Bool.or_eq_false_iff).2 ⟨by simp, ih _⟩

theorem ends_line {n : Nat} (hhead : ∀ c ∈ rest.head?, isGap c = false)
    (hcolumn : rest ≠ [] → n < bound) :
    Ends bound ('\n' :: (spaces n ++ rest)) ('\n' :: spaces n) true := by
  refine ⟨by rw [word?, if_pos (by decide)], fun fuel place ↦ ?_⟩
  have hgap : ('\n' :: (spaces n ++ rest)).takeWhile isGap = '\n' :: spaces n := by
    rw [List.takeWhile_cons_of_pos (by decide), takeWhile_isGap_spaces hhead]
  have hdrop : ('\n' :: (spaces n ++ rest)).drop ('\n' :: spaces n).length = rest := by
    rw [← List.cons_append, List.drop_left]
  have hafter : (place.after ('\n' :: spaces n)).column = n := by
    rw [Place.after, List.foldl_cons, ← Place.after, after_spaces]
    exact Nat.zero_add n
  have hbreak : ('\n' :: spaces n).any isBreak = true := rfl
  have hgoes : goesOn false bound (place.after ('\n' :: spaces n)) true rest = false := by
    rw [goesOn, hafter]
    cases rest with
    | nil => rfl
    | cons c rest =>
      have hlt := hcolumn (by simp)
      simp [Nat.not_le.2 hlt]
  have hindent : hasIndentingTab bound none ('\n' :: spaces n) = false := by
    rw [hasIndentingTab, if_pos (by decide)]
    exact hasIndentingTab_spaces bound n (some 0)
  rw [more?]
  simp only [hgap, hdrop, hbreak, hgoes, hindent]
  rfl

/-! ## Reading back -/

theorem after_of_onOneLine (h : OnOneLine cs) (p : Place) :
    p.after cs = ⟨p.line, p.column + cs.length, p.bytes + byteCount cs⟩ := by
  induction cs generalizing p with
  | nil => rfl
  | cons c cs ih =>
    have hstep : p.step c = ⟨p.line, p.column + 1, p.bytes + c.utf8Size⟩ := by
      rw [Place.step, if_neg (by simp [h c List.mem_cons_self])]
    rw [Place.after, List.foldl_cons, hstep]
    refine (ih (fun d hd ↦ h d (List.mem_cons_of_mem c hd)) _).trans ?_
    simp only [Place.mk.injEq, true_and, List.length_cons, byteCount_cons]
    omega

/-- Where a plain text goes on after a gap, there is a word behind some spaces. -/
theorem Inner.exists_word (h : Inner cs) (hne : cs ≠ []) (hhead : ∀ c ∈ cs.head?, isGap c = true) :
    ∃ n d word after, cs = spaces (n + 1) ++ (d :: word ++ after) ∧ d ≠ '#' ∧
      (∀ c ∈ d :: word, isGap c = false) ∧ ∀ c ∈ after.head?, isGap c = true := by
  have hsplit := List.takeWhile_append_dropWhile (p := isGap) (l := cs)
  have hspaces : cs.takeWhile isGap = spaces (cs.takeWhile isGap).length := by
    refine List.eq_replicate_iff.2 ⟨rfl, fun c hc ↦ h.gaps c ?_ (List.mem_takeWhile_imp hc)⟩
    exact List.takeWhile_subset _ hc
  have hpos : (cs.takeWhile isGap).length ≠ 0 := by
    cases cs with
    | nil => exact absurd rfl hne
    | cons c cs => simp [hhead c rfl]
  obtain ⟨n, hn⟩ := Nat.exists_eq_succ_of_ne_zero hpos
  rw [hn] at hspaces
  cases hdrop : cs.dropWhile isGap with
  | nil =>
    -- A text of spaces alone would end with one.
    rw [hdrop, hspaces, List.append_nil] at hsplit
    refine absurd ?_ h.last
    rw [← hsplit, spaces, List.replicate_succ', List.getLast?_concat]
  | cons d tail =>
    have hd : isGap d = false := by
      have hnot := List.head?_dropWhile_not isGap cs
      rw [hdrop] at hnot
      exact hnot
    have htail := List.takeWhile_append_dropWhile (p := fun c ↦ !isGap c) (l := tail)
    rw [hdrop, hspaces] at hsplit
    refine ⟨n, d, tail.takeWhile (!isGap ·), tail.dropWhile (!isGap ·), ?_, ?_, ?_, ?_⟩
    · rw [← hsplit, List.cons_append, htail]
    · rintro rfl
      have hgap := h.hash (spaces n) ' ' tail (by
        rw [← hsplit, spaces, List.replicate_succ', List.append_assoc, List.singleton_append]
        rfl)
      exact absurd hgap (by decide)
    · intro c hc
      rcases List.mem_cons.1 hc with rfl | hc
      · exact hd
      · simpa using List.mem_takeWhile_imp hc
    · intro c hc
      have hnot := List.head?_dropWhile_not (!isGap ·) tail
      rw [hc] at hnot
      simpa using hnot

theorem more?_append (h : Inner cs) (hhead : ∀ c ∈ cs.head?, isGap c = true)
    (hends : Ends bound rest gap broke) (fuel : Nat) (hfuel : cs.length < fuel) (place : Place) :
    more? false bound fuel place (cs ++ rest) = some (cs, cs ++ gap, broke) := by
  induction fuel generalizing cs place with
  | zero => omega
  | succ fuel ih =>
    by_cases hne : cs = []
    · rw [hne]
      exact hends.more fuel place
    obtain ⟨n, d, word, after, rfl, hhash, hword, hafter⟩ := h.exists_word hne hhead
    have hgap : (spaces (n + 1) ++ (d :: word ++ after) ++ rest).takeWhile isGap
        = spaces (n + 1) := by
      rw [List.append_assoc]
      exact takeWhile_isGap_spaces (by simpa using hword d List.mem_cons_self)
    have hdrop : (spaces (n + 1) ++ (d :: word ++ after) ++ rest).drop (spaces (n + 1)).length
        = d :: word ++ (after ++ rest) := by
      rw [List.append_assoc, List.drop_left, List.append_assoc]
    have hbreak : (spaces (n + 1)).any isBreak = false :=
      List.any_eq_false.2 fun c hc ↦ by simp [onOneLine_spaces _ c hc]
    have hgoes : goesOn false bound (place.after (spaces (n + 1))) false
        (d :: word ++ (after ++ rest)) = true := by
      rw [goesOn, after_spaces]
      simp [hhash]
    have hread : word? false (d :: word ++ (after ++ rest)) = some (d :: word) := by
      refine word?_append hword h.right ?_
      cases after with
      | nil => exact hends.word
      | cons c after => rw [List.cons_append, word?, if_pos (hafter c rfl)]
    have hrest : (d :: word ++ (after ++ rest)).drop (d :: word).length = after ++ rest :=
      List.drop_left
    have hmore := ih h.right.right hafter (by simp at hfuel; omega)
      ((place.after (spaces (n + 1))).after (d :: word))
    have hempty : (spaces (n + 1)).isEmpty = false := rfl
    rw [more?]
    simp only [hgap, hdrop, hbreak, hgoes, hasIndentingTab_spaces, hread, hempty,
      Bool.false_eq_true, if_false, if_true, Option.bind_eq_bind, Option.bind_some]
    rw [hrest, hmore, Option.bind_some, foldGap_of_onOneLine (onOneLine_spaces _)]
    simp only [Option.pure_def, List.append_assoc]

theorem scan?_append (h : IsPlain cs) (hends : Ends bound rest gap broke) (place : Place) :
    scan? false bound place (cs ++ rest) = some ⟨cs, cs ++ gap, broke⟩ := by
  have hinner := inner_of_isPlain h
  have hsplit := List.takeWhile_append_dropWhile (p := fun c ↦ !isGap c) (l := cs)
  have hword : ∀ c ∈ cs.takeWhile (!isGap ·), isGap c = false := fun c hc ↦ by
    simpa using List.mem_takeWhile_imp hc
  have hafter : ∀ c ∈ (cs.dropWhile (!isGap ·)).head?, isGap c = true := fun c hc ↦ by
    have hnot := List.head?_dropWhile_not (!isGap ·) cs
    rw [hc] at hnot
    simpa using hnot
  generalize cs.takeWhile (!isGap ·) = word at *
  generalize cs.dropWhile (!isGap ·) = after at *
  subst hsplit
  have hread : word? false (word ++ (after ++ rest)) = some word := by
    refine word?_append hword hinner ?_
    cases after with
    | nil => exact hends.word
    | cons c after => rw [List.cons_append, word?, if_pos (hafter c rfl)]
  have hmore := more?_append hinner.right hafter hends
    ((word ++ after ++ rest).length + 1) (by simp; omega) (place.after word)
  rw [scan?, List.append_assoc, hread, Option.bind_eq_bind, Option.bind_some, List.drop_left,
    ← List.append_assoc, hmore]
  simp only [Option.bind_some, Option.bind_eq_bind, Option.pure_def, List.append_assoc]

end PlainText

/-! ## What plain texts say -/

namespace Scalar

/-- No scalar is read as another text. -/
theorem eq_of_resolve?_eq_text {s t : String} (h : resolve? s = some (.text t)) : t = s := by
  rw [resolve?] at h
  split at h
  case isTrue => exact absurd h (by simp)
  case isFalse =>
    split at h
    case h_1 => exact absurd h (by simp)
    case h_2 =>
      split at h
      case h_1 => split at h <;> exact absurd h (by simp)
      case h_2 =>
        split at h
        case isTrue => exact (Value.text.inj (Option.some.inj h)).symm
        case isFalse =>
          split at h
          case h_1 => exact absurd h (by simp)
          case h_2 => exact (Value.text.inj (Option.some.inj h)).symm

theorem resolve?_of_isAmbiguous {s : String} (h : isAmbiguous s = false) :
    resolve? s = some (.text s) := by
  rw [isAmbiguous, Bool.or_eq_false_iff] at h
  obtain ⟨-, hresolve⟩ := h
  split at hresolve
  case h_1 t heq => rw [heq, eq_of_resolve?_eq_text heq]
  case h_2 => exact absurd hresolve (by simp)

theorem resolve?_null : resolve? "null" = some .null := by
  rw [resolve?]
  exact if_pos (by decide)

theorem resolve?_bool {t : String} {b : Bool} (ht : (t.toList.isEmpty || isNull t) = false)
    (h : bool? t = some b) : resolve? t = some (.bool b) := by
  rw [resolve?, h]
  exact if_neg (by simp [ht])

theorem digitIn?_of_isDigit {c : Char} (h : Decimal.isDigit c = true) :
    digitIn? 10 c = some (Decimal.digitValue c) := by
  have hdigit := Decimal.isDigit_iff.1 h
  have hlt : c.toNat - 48 < 10 := by
    have hle : c.toNat ≤ 57 := Char.le_def.1 hdigit.2
    omega
  rw [digitIn?]
  simp only [if_pos hdigit]
  exact if_pos hlt

theorem digitsIn?_digits (n : Nat) : digitsIn? 10 (Decimal.digits n) = some n := by
  have hfold : ∀ (cs : List Char) (before : Nat), (∀ c ∈ cs, Decimal.isDigit c = true) →
      cs.foldlM (fun n c ↦ (digitIn? 10 c).map (10 * n + ·)) before
        = some (cs.foldl (fun n c ↦ 10 * n + Decimal.digitValue c) before) := by
    intro cs
    induction cs with
    | nil => exact fun _ _ ↦ rfl
    | cons c cs ih =>
      intro before hcs
      rw [List.foldlM_cons, digitIn?_of_isDigit (hcs c List.mem_cons_self), Option.map_some,
        Option.bind_eq_bind, Option.bind_some, ih _ fun d hd ↦ hcs d (List.mem_cons_of_mem c hd)]
      rfl
  rw [digitsIn?.eq_def]
  split
  case h_1 heq => exact absurd heq (Decimal.digits_ne_nil n)
  case h_2 =>
    rw [hfold _ _ (Decimal.isDigit_of_mem_digits n)]
    exact congrArg some (Decimal.value_digits n)

theorem digits_ne_zero_cons (n : Nat) (c : Char) (cs : List Char) :
    Decimal.digits n ≠ '0' :: c :: cs := by
  intro heq
  by_cases hn : n = 0
  · rw [hn, Decimal.digits, if_pos (by decide)] at heq
    exact absurd heq (by simp)
  · have hhead := Decimal.head?_digits_ne hn
    rw [heq] at hhead
    exact absurd rfl hhead

theorem digits_ne_cons {c : Char} (hc : Decimal.isDigit c = false) (n : Nat) (cs : List Char) :
    Decimal.digits n ≠ c :: cs := by
  intro heq
  have hdigit := Decimal.isDigit_of_mem_digits n c (heq ▸ List.mem_cons_self)
  rw [hc] at hdigit
  exact absurd hdigit (by decide)

theorem magnitude?_digits (n : Nat) : magnitude? (Decimal.digits n) = some n := by
  have hpadded : isPadded (Decimal.digits n) = false := by
    rw [isPadded.eq_def]
    split
    case h_1 heq => exact absurd heq (digits_ne_cons (by decide) n _)
    case h_2 heq => exact absurd heq (digits_ne_cons (by decide) n _)
    case h_3 =>
      dsimp only
      split
      case h_1 heq => exact absurd heq (digits_ne_zero_cons n _ _)
      case h_2 => rfl
  rw [magnitude?.eq_def]
  split
  case h_1 heq | h_2 heq | h_3 heq => exact absurd heq (digits_ne_zero_cons n _ _)
  case h_4 => rw [hpadded, if_neg (by simp), digitsIn?_digits]

/-- The numeral of an integer: digits, perhaps after a minus sign. -/
theorem toList_signedText (n : Int) :
    (Decimal.signedText n).toList = if n < 0 then '-' :: Decimal.digits n.natAbs
      else Decimal.digits n.natAbs := by
  rw [Decimal.signedText]
  split <;> simp [Decimal.text]

theorem integer?_signedText (n : Int) : integer? (Decimal.signedText n).toList = some n := by
  rw [toList_signedText]
  split
  case isTrue hneg =>
    have hn : -(n.natAbs : Int) = n := by omega
    rw [integer?, magnitude?_digits]
    exact congrArg some hn
  case isFalse hpos =>
    have hn : (n.natAbs : Int) = n := by omega
    rw [integer?.eq_def]
    split
    case h_1 heq => exact absurd heq (digits_ne_cons (by decide) _ _)
    case h_2 =>
      rw [unsigned?.eq_def]
      split
      case h_1 heq => exact absurd heq (digits_ne_cons (by decide) _ _)
      case h_2 =>
        rw [magnitude?_digits]
        exact congrArg some hn

theorem exists_signedText_eq_cons (n : Int) :
    ∃ c cs, (Decimal.signedText n).toList = c :: cs ∧ (c = '-' ∨ Decimal.isDigit c = true) := by
  rw [toList_signedText]
  split
  case isTrue => exact ⟨_, _, rfl, .inl rfl⟩
  case isFalse =>
    obtain ⟨c, cs, hcs⟩ := List.exists_cons_of_ne_nil (Decimal.digits_ne_nil n.natAbs)
    exact ⟨c, cs, hcs, .inr (Decimal.isDigit_of_mem_digits _ c (hcs ▸ List.mem_cons_self))⟩

/-- An integer that fits 64 bits is read as itself. -/
theorem resolve?_signedText {n : Int} (h : fitsWord n = true) :
    resolve? (Decimal.signedText n) = some (.integer n) := by
  obtain ⟨c, cs, hcs, hc⟩ := exists_signedText_eq_cons n
  have hne : ∀ t : String, (t.toList.head?.any fun c ↦ c != '-' && !Decimal.isDigit c) = true →
      Decimal.signedText n ≠ t := by
    rintro t hhead rfl
    rw [hcs] at hhead
    rcases hc with rfl | hc
    · exact absurd hhead (by simp)
    · simp [hc] at hhead
  have hnull : isNull (Decimal.signedText n) = false := by
    simp only [isNull, Bool.or_eq_false_iff, beq_eq_false_iff_ne]
    exact ⟨⟨⟨hne _ (by decide), hne _ (by decide)⟩, hne _ (by decide)⟩, hne _ (by decide)⟩
  have hbool : bool? (Decimal.signedText n) = none := by
    rw [bool?, if_neg, if_neg]
    · simp only [Bool.or_eq_true, beq_iff_eq, not_or]
      exact ⟨⟨hne _ (by decide), hne _ (by decide)⟩, hne _ (by decide)⟩
    · simp only [Bool.or_eq_true, beq_iff_eq, not_or]
      exact ⟨⟨hne _ (by decide), hne _ (by decide)⟩, hne _ (by decide)⟩
  have hdouble : fitsDoubleWord n = true := by
    simp only [fitsWord, fitsDoubleWord, Bool.and_eq_true, decide_eq_true_eq] at h ⊢
    omega
  have hempty : (Decimal.signedText n).toList.isEmpty = false := by
    rw [hcs]
    rfl
  rw [resolve?]
  simp only [hempty, hnull, hbool, integer?_signedText, Option.filter, hdouble, h, if_true,
    Bool.or_self, Bool.false_eq_true, if_false]

end Scalar

/-! ## Words and numbers -/

theorem anyNeighbours_eq_false {related : Char → Char → Bool}
    (h : ∀ c ∈ cs, ∀ d, related c d = false) : anyNeighbours related cs = false := by
  induction cs with
  | nil => rfl
  | cons c cs ih =>
    cases cs with
    | nil => rfl
    | cons d cs =>
      rw [anyNeighbours, h c List.mem_cons_self, Bool.false_or]
      exact ih fun e he ↦ h e (List.mem_cons_of_mem c he)

theorem eq_digitChar (h : Decimal.isDigit c = true) : ∃ d < 10, c = Decimal.digitChar d := by
  obtain ⟨hlow, hhigh⟩ := Decimal.isDigit_iff.1 h
  have hlow : 48 ≤ c.toNat := Char.le_def.1 hlow
  have hhigh : c.toNat ≤ 57 := Char.le_def.1 hhigh
  refine ⟨c.toNat - 48, by omega, ?_⟩
  rw [Decimal.digitChar, Nat.add_sub_cancel' hlow, Char.ofNat_toNat]

/-- A character that can stand anywhere in a plain text; a dash must not be alone at its start. -/
structure IsHarmless (c : Char) : Prop where
  printable : isPrintable c = true
  line : isBreak c = false
  gap : isGap c = false
  start : startIndicators.contains c = false
  colon : c ≠ ':'
  question : c ≠ '?'
  dot : c ≠ '.'

instance : DecidablePred IsHarmless := fun c ↦
  decidable_of_iff (isPrintable c = true ∧ isBreak c = false ∧ isGap c = false ∧
      startIndicators.contains c = false ∧ c ≠ ':' ∧ c ≠ '?' ∧ c ≠ '.')
    ⟨fun ⟨h₁, h₂, h₃, h₄, h₅, h₆, h₇⟩ ↦ ⟨h₁, h₂, h₃, h₄, h₅, h₆, h₇⟩,
      fun ⟨h₁, h₂, h₃, h₄, h₅, h₆, h₇⟩ ↦ ⟨h₁, h₂, h₃, h₄, h₅, h₆, h₇⟩⟩

theorem isHarmless_of_isDigit (h : Decimal.isDigit c = true) : IsHarmless c := by
  have hdigits : ∀ d < 10, IsHarmless (Decimal.digitChar d) := by decide
  obtain ⟨d, hd, rfl⟩ := eq_digitChar h
  exact hdigits d hd

theorem isPlain_of_isHarmless (h : ∀ d ∈ c :: cs, IsHarmless d)
    (hdash : c = '-' → ∃ d, cs.head? = some d ∧ d ≠ '-') : IsPlain (c :: cs) := by
  have hc := h c List.mem_cons_self
  have hspace : ∀ d ∈ c :: cs, d ≠ ' ' := by
    rintro d hd rfl
    exact absurd (h ' ' hd).gap (by decide)
  have hend : ((c :: cs).getLast? == some ':') = false := by
    rw [beq_eq_false_iff_ne]
    exact fun hx ↦ (h ':' (List.mem_of_getLast? hx)).colon rfl
  have hdashes : "---".toList.isPrefixOf (c :: cs) = false := by
    have hlist : "---".toList = ['-', '-', '-'] := rfl
    rw [hlist, List.isPrefixOf, Bool.and_eq_false_iff, beq_eq_false_iff_ne]
    by_cases hfirst : c = '-'
    · obtain ⟨d, hd, hne⟩ := hdash hfirst
      obtain ⟨ds, rfl⟩ := List.head?_eq_some_iff.1 hd
      exact .inr (by simp [List.isPrefixOf, Ne.symm hne])
    · exact .inl (Ne.symm hfirst)
  have hdots : "...".toList.isPrefixOf (c :: cs) = false := by
    have hlist : "...".toList = ['.', '.', '.'] := rfl
    rw [hlist, List.isPrefixOf, Bool.and_eq_false_iff, beq_eq_false_iff_ne]
    exact .inl (Ne.symm hc.dot)
  have halone : (c == '-' && cs.head?.all isGap) = false := by
    rw [Bool.and_eq_false_iff, beq_eq_false_iff_ne]
    by_cases hfirst : c = '-'
    · obtain ⟨d, hd, -⟩ := hdash hfirst
      have hmem := List.mem_of_mem_head? (Option.mem_def.2 hd)
      exact .inr (by simp [hd, (h d (List.mem_cons_of_mem c hmem)).gap])
    · exact .inl hfirst
  have hneighbours : anyNeighbours
      (fun a b ↦ (a == ':' && isGap b) || (isGap a && b == '#')) (c :: cs) = false :=
    anyNeighbours_eq_false fun d hd e ↦ by simp [(h d hd).gap, (h d hd).colon]
  refine ⟨fun d hd ↦ (h d hd).printable, fun d hd ↦ (h d hd).line, ?_, List.cons_ne_nil c cs,
    fun hx ↦ hspace _ (List.mem_of_mem_head? hx) rfl,
    fun hx ↦ hspace _ (List.mem_of_getLast? hx) rfl⟩
  have hsigns : (c == '?' || c == ':' || c == '-') = (c == '-') := by
    simp [hc.question, hc.colon]
  have hstart := hc.start
  unfold startIndicators at hstart
  rw [hasIndicator.eq_def]
  simp only [hdashes, hdots, hneighbours, hend, hstart, hsigns, halone, Bool.or_self]

theorem isPlain_signedText (n : Int) : IsPlain (Decimal.signedText n).toList := by
  obtain ⟨d, ds, hdigits⟩ := List.exists_cons_of_ne_nil (Decimal.digits_ne_nil n.natAbs)
  have hall := Decimal.isDigit_of_mem_digits n.natAbs
  rw [hdigits] at hall
  have hharmless : ∀ c ∈ d :: ds, IsHarmless c := fun c hc ↦
    isHarmless_of_isDigit (hall c hc)
  have hne : d ≠ '-' := by
    rintro rfl
    exact absurd (hall '-' List.mem_cons_self) (by decide)
  rw [Scalar.toList_signedText, hdigits]
  split
  case isTrue =>
    exact isPlain_of_isHarmless (List.forall_mem_cons.2 ⟨by decide, hharmless⟩)
      fun _ ↦ ⟨d, rfl, hne⟩
  case isFalse => exact isPlain_of_isHarmless hharmless fun h ↦ absurd h hne

end Interdomain.Yaml
