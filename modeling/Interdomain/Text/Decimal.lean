/-!
# Decimal numerals

Natural numbers are written without leading zeros and read with them. `Decimal.value_digits` says
that the two agree, hence that distinct numbers have distinct numerals.
-/

namespace Interdomain.Decimal

/-! ## Writing -/

def digitChar (d : Nat) : Char := Char.ofNat (48 + d)

/-- The numeral of a number, most significant digit first. -/
def digits (n : Nat) : List Char :=
  if n < 10 then [digitChar n] else digits (n / 10) ++ [digitChar (n % 10)]

def text (n : Nat) : String := String.ofList (digits n)

/-- The numeral of an integer: a minus sign goes before a negative one. -/
def signedText (n : Int) : String :=
  if n < 0 then "-" ++ text n.natAbs else text n.natAbs

/-! ## Reading -/

def isDigit (c : Char) : Bool := '0' ≤ c && c ≤ '9'

def digitValue (c : Char) : Nat := c.toNat - 48

/-- What a row of digits is worth. -/
def value (cs : List Char) : Nat := cs.foldl (fun n c ↦ 10 * n + digitValue c) 0

/-- A numeral is one digit or more; leading zeros are fine. -/
def isNumeral (cs : List Char) : Bool := !cs.isEmpty && cs.all isDigit

/-- Read a numeral whose value is at most `limit`. -/
def read? (limit : Nat) (cs : List Char) : Option Nat :=
  if isNumeral cs && value cs ≤ limit then some (value cs) else none

/-- Read a numeral that may follow one plus sign. -/
def readUnsigned? (limit : Nat) : List Char → Option Nat
  | '+' :: cs => read? limit cs
  | cs => read? limit cs

/-! ## Agreement -/

theorem digitValue_digitChar : ∀ d, d < 10 → digitValue (digitChar d) = d := by decide

theorem isDigit_digitChar : ∀ d, d < 10 → isDigit (digitChar d) = true := by decide

theorem value_append (cs : List Char) (c : Char) :
    value (cs ++ [c]) = 10 * value cs + digitValue c := by
  simp [value]

theorem value_digits (n : Nat) : value (digits n) = n := by
  rw [digits]
  split
  · simp [value, digitValue_digitChar n (by assumption)]
  · rw [value_append, value_digits (n / 10), digitValue_digitChar _ (by omega)]
    omega
termination_by n
decreasing_by omega

theorem isDigit_of_mem_digits (n : Nat) : ∀ c ∈ digits n, isDigit c = true := by
  rw [digits]
  split
  · intro c hc
    rw [List.mem_singleton.1 hc]
    exact isDigit_digitChar n (by assumption)
  · intro c hc
    rcases List.mem_append.1 hc with hc | hc
    · exact isDigit_of_mem_digits (n / 10) c hc
    · rw [List.mem_singleton.1 hc]
      exact isDigit_digitChar _ (by omega)
termination_by n
decreasing_by omega

theorem digits_ne_nil (n : Nat) : digits n ≠ [] := by
  rw [digits]
  split <;> simp

theorem isNumeral_digits (n : Nat) : isNumeral (digits n) = true := by
  simpa [isNumeral, digits_ne_nil] using isDigit_of_mem_digits n

theorem digits_inj {m n : Nat} (h : digits m = digits n) : m = n := by
  rw [← value_digits m, h, value_digits]

theorem read?_digits {limit n : Nat} (h : n ≤ limit) : read? limit (digits n) = some n := by
  simp [read?, isNumeral_digits, value_digits, h]

theorem readUnsigned?_digits {limit n : Nat} (h : n ≤ limit) :
    readUnsigned? limit (digits n) = some n := by
  unfold readUnsigned?
  split
  case h_1 cs hcs =>
    -- A plus sign is no digit.
    have hplus := isDigit_of_mem_digits n '+' (hcs ▸ List.mem_cons_self)
    exact absurd hplus (by decide)
  case h_2 => exact read?_digits h

theorem text_inj {m n : Nat} (h : text m = text n) : m = n :=
  digits_inj (String.ofList_injective h)

/-- Only the numeral of zero starts with a zero. -/
theorem head?_digits_ne {n : Nat} (h : n ≠ 0) : (digits n).head? ≠ some '0' := by
  rw [digits]
  split
  case isTrue hlt =>
    have hdigit : ∀ d < 10, d ≠ 0 → digitChar d ≠ '0' := by decide
    rw [List.head?_cons, ne_eq, Option.some_inj]
    exact hdigit n hlt h
  case isFalse hge =>
    have hrest := head?_digits_ne (n := n / 10) (by omega)
    obtain ⟨c, cs, hcs⟩ := List.exists_cons_of_ne_nil (digits_ne_nil (n / 10))
    rw [hcs] at hrest ⊢
    exact hrest
termination_by n
decreasing_by omega

/-- A numeral does not go on where something else than a digit follows. -/
theorem eq_nil_of_digits_eq_append {n : Nat} {cs rest s t : List Char} {c : Char}
    (hc : isDigit c = false) (hn : digits n = cs ++ rest) (h : c :: s = rest ++ t) :
    rest = [] := by
  cases rest with
  | nil => rfl
  | cons d rest =>
    obtain ⟨rfl, -⟩ := List.cons.inj h
    have hdigit := isDigit_of_mem_digits n c (hn ▸ List.mem_append_right cs List.mem_cons_self)
    rw [hc] at hdigit
    exact absurd hdigit (by decide)

/-- A numeral is told from the text behind it if that does not start with a digit. -/
theorem digits_append_cons_inj {m n : Nat} {c d : Char} {s t : List Char}
    (hc : isDigit c = false) (hd : isDigit d = false)
    (h : digits m ++ c :: s = digits n ++ d :: t) : m = n ∧ c :: s = d :: t := by
  rcases List.append_eq_append_iff.1 h with ⟨rest, hn, hrest⟩ | ⟨rest, hm, hrest⟩
  · obtain rfl := eq_nil_of_digits_eq_append hc hn hrest
    rw [List.append_nil] at hn
    exact ⟨(digits_inj hn).symm, hrest⟩
  · obtain rfl := eq_nil_of_digits_eq_append hd hm hrest
    rw [List.append_nil] at hm
    exact ⟨digits_inj hm, hrest.symm⟩

end Interdomain.Decimal
