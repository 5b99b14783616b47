import Interdomain.Json.Printer
import Interdomain.Json.Reader
import Mathlib.Data.List.TakeWhile

/-!
# JSON texts and numbers that are read back

A text is read back with every escape, and an integer of 64 bits as itself. The reader looks at an
escape and the six characters behind it at once, in case the two are halves of one character, so
reading what was written for one character does depend on what follows: `readText_unicode` is where
it turns out to make no difference.
-/

namespace Interdomain

namespace Json

/-! ## Texts -/

theorem hexValue?_hexDigit : ∀ n < 16, hexValue? (hexDigit n) = some n := by decide

theorem readText_unicode {a b c d char : Char} {n : Nat} (hn : hexWord? a b c d = some n)
    (hsmall : n < 0xD800) (hchar : charOf? n = some char) (before cs : List Char) :
    readText before ('\\' :: 'u' :: a :: b :: c :: d :: cs) = readText (char :: before) cs := by
  rw [readText.eq_def]
  split
  case h_1 heq => simp at heq
  case h_2 heq =>
    -- Another escape follows, which is no second half of this one.
    simp only [List.cons.injEq, true_and] at heq
    obtain ⟨rfl, rfl, rfl, rfl, rfl⟩ := heq
    rw [hn, Option.bind_eq_bind, Option.bind_some, if_neg (by omega), hchar]
    rfl
  case h_3 heq =>
    simp only [List.cons.injEq, true_and] at heq
    obtain ⟨rfl, rfl, rfl, rfl, rfl⟩ := heq
    simp only [hn, hchar, Option.bind_eq_bind, Option.bind_some]
  case h_4 hnot heq =>
    simp only [List.cons.injEq, true_and] at heq
    exact absurd heq.2.symm (hnot _ _ _ _ _ heq.1.symm)
  case h_5 hnot heq =>
    simp only [List.cons.injEq] at heq
    exact absurd heq.2.symm (hnot _ _ heq.1.symm)
  case h_6 heq => simp at heq

theorem readText_escaped {c char : Char} (hne : c ≠ 'u') (hchar : escaped? c = some char)
    (before cs : List Char) :
    readText before ('\\' :: c :: cs) = readText (char :: before) cs := by
  rw [readText.eq_def]
  split
  case h_1 heq => simp at heq
  case h_2 heq => simp [hne] at heq
  case h_3 heq => simp [hne] at heq
  case h_4 heq =>
    simp only [List.cons.injEq, true_and] at heq
    obtain ⟨rfl, rfl⟩ := heq
    simp only [hchar, Option.bind_eq_bind, Option.bind_some]
  case h_5 hnot heq =>
    simp only [List.cons.injEq] at heq
    exact absurd heq.2.symm (hnot _ _ heq.1.symm)
  case h_6 heq => simp at heq

theorem readText_plain {c : Char} (hquote : c ≠ '"') (hslash : c ≠ '\\') (hbig : 0x20 ≤ c.toNat)
    (before cs : List Char) : readText before (c :: cs) = readText (c :: before) cs := by
  rw [readText.eq_def]
  split
  case h_1 heq => exact absurd (List.cons.inj heq).1 hquote
  case h_2 heq => exact absurd (List.cons.inj heq).1 hslash
  case h_3 heq => exact absurd (List.cons.inj heq).1 hslash
  case h_4 heq => exact absurd (List.cons.inj heq).1 hslash
  case h_5 heq =>
    obtain ⟨rfl, rfl⟩ := List.cons.inj heq
    rw [if_neg (by omega)]
  case h_6 heq => simp at heq

theorem readText_escape (c : Char) (before cs : List Char) :
    readText before (escape c ++ cs) = readText (c :: before) cs := by
  rw [escape.eq_def]
  split
  case h_1 | h_2 | h_3 | h_4 | h_5 | h_6 | h_7 => exact readText_escaped (by decide) rfl _ _
  case h_8 hquote hslash _ _ _ _ _ =>
    split
    case isTrue hsmall =>
      refine readText_unicode (n := c.toNat) ?_ (by omega) ?_ before cs
      · have hhigh := hexValue?_hexDigit (c.toNat / 16) (by omega)
        have hlow := hexValue?_hexDigit (c.toNat % 16) (by omega)
        have hzero : hexValue? '0' = some 0 := rfl
        simp only [hexWord?, hhigh, hlow, hzero, Option.bind_eq_bind, Option.bind_some,
          Option.pure_def, Option.some_inj]
        omega
      · rw [charOf?, if_pos (show c.toNat.isValidChar from c.valid), Char.ofNat_toNat]
    case isFalse hbig => exact readText_plain hquote hslash (by omega) before cs

theorem readText_flatMap_escape (cs before rest : List Char) :
    readText before (cs.flatMap escape ++ '"' :: rest)
      = some (String.ofList (before.reverse ++ cs), rest) := by
  induction cs generalizing before with
  | nil =>
    rw [List.flatMap_nil, List.nil_append, List.append_nil]
    rfl
  | cons c cs ih =>
    rw [List.flatMap_cons, List.append_assoc, readText_escape, ih, List.reverse_cons,
      List.append_assoc, List.singleton_append]

theorem toList_quote (s : String) :
    (quote s).toList = '"' :: (s.toList.flatMap escape ++ ['"']) := by
  simp [quote]

theorem readText_quote (s : String) (rest : List Char) :
    readText [] (s.toList.flatMap escape ++ '"' :: rest) = some (s, rest) := by
  rw [readText_flatMap_escape, List.reverse_nil, List.nil_append, String.ofList_toList]

/-! ## Numbers -/

theorem isNumberChar_of_isDigit {c : Char} (h : Decimal.isDigit c = true) :
    isNumberChar c = true := by
  simp [isNumberChar, h]

/-- A text does not go on with a number. -/
def EndsNumber (cs : List Char) : Prop := ∀ c ∈ cs.head?, isNumberChar c = false

theorem takeWhile_isNumberChar {cs rest : List Char} (h : ∀ c ∈ cs, isNumberChar c = true)
    (hrest : EndsNumber rest) : (cs ++ rest).takeWhile isNumberChar = cs := by
  rw [List.takeWhile_append_of_pos h]
  cases rest with
  | nil => simp
  | cons c rest => simp [hrest c rfl]

theorem dropWhile_isNumberChar {cs rest : List Char} (h : ∀ c ∈ cs, isNumberChar c = true)
    (hrest : EndsNumber rest) : (cs ++ rest).dropWhile isNumberChar = rest := by
  rw [List.dropWhile_append_of_pos h]
  cases rest with
  | nil => rfl
  | cons c rest => simp [hrest c rfl]

/-- The integers that JSON text keeps. -/
def FitsWord (n : Int) : Prop := -0x8000000000000000 ≤ n ∧ n < wordCount

theorem readMagnitude?_digits (negative : Bool) (n : Nat) :
    readMagnitude? negative (Decimal.digits n) =
      if negative then
        if n = 0 ∨ 0x8000000000000000 < n then readFloat? true (Decimal.digits n) [] 0
        else some (.integer (-n))
      else if n < wordCount then some (.integer n)
      else readFloat? false (Decimal.digits n) [] 0 := by
  have hall := Decimal.isDigit_of_mem_digits n
  have hne := Decimal.digits_ne_nil n
  have hzero : ¬((Decimal.digits n).isEmpty = true ∨
      (1 < (Decimal.digits n).length ∧ (Decimal.digits n).head? = some '0')) := by
    rintro (hempty | ⟨hlong, hhead⟩)
    · exact hne (List.isEmpty_iff.1 hempty)
    · by_cases hn : n = 0
      · rw [hn, Decimal.digits, if_pos (by decide)] at hlong
        exact absurd hlong (by decide)
      · exact Decimal.head?_digits_ne hn hhead
  rw [readMagnitude?, List.takeWhile_eq_self_iff.2 hall, List.dropWhile_eq_nil_iff.2 hall]
  dsimp only
  rw [if_neg hzero, Decimal.value_digits]

theorem readNumber?_signedText {n : Int} (h : FitsWord n) :
    readNumber? (Decimal.signedText n).toList = some (.integer n) := by
  obtain ⟨hlow, hhigh⟩ := h
  rw [Decimal.signedText]
  split
  case isTrue hneg =>
    have htext : ("-" ++ Decimal.text n.natAbs).toList = '-' :: Decimal.digits n.natAbs := by
      simp [Decimal.text]
    rw [htext, readNumber?, readMagnitude?_digits, if_pos rfl, if_neg (by omega)]
    congr
    omega
  case isFalse hpos =>
    have hsmall : n.natAbs < wordCount := by omega
    have htext : (Decimal.text n.natAbs).toList = Decimal.digits n.natAbs := by
      simp [Decimal.text]
    rw [htext, readNumber?.eq_def]
    split
    case h_1 cs heq =>
      have hminus := Decimal.isDigit_of_mem_digits n.natAbs '-' (heq ▸ List.mem_cons_self)
      exact absurd hminus (by decide)
    case h_2 =>
      rw [readMagnitude?_digits, if_neg (by decide), if_pos hsmall]
      congr
      omega

theorem isNumberChar_signedText (n : Int) :
    ∀ c ∈ (Decimal.signedText n).toList, isNumberChar c = true := by
  have hdigits : ∀ c ∈ (Decimal.text n.natAbs).toList, isNumberChar c = true := by
    intro c hc
    rw [Decimal.text, String.toList_ofList] at hc
    exact isNumberChar_of_isDigit (Decimal.isDigit_of_mem_digits _ c hc)
  intro c hc
  rw [Decimal.signedText] at hc
  split at hc
  case isTrue =>
    rw [String.toList_append, List.mem_append] at hc
    rcases hc with hc | hc
    · obtain rfl := List.mem_singleton.1 hc
      decide
    · exact hdigits c hc
  case isFalse => exact hdigits c hc

end Json

end Interdomain
