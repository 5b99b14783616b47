/-!
# Counters

Interface ids and underlay ports are numbers of 16 bits that are handed out in order and never
taken back. A counter knows the next number; once it has passed the last one it stays where it is.
-/

namespace Interdomain

/-- The next number to hand out. -/
structure Counter where
  next : Nat
  deriving DecidableEq

namespace Counter

/-- The last number that is handed out. -/
def last : Nat := 65535

/-- How many numbers are left. -/
def free (c : Counter) : Nat := last + 1 - c.next

/-- Hand out the next number, if there is one left. -/
def take? (c : Counter) : Option (Nat × Counter) :=
  if c.next ≤ last then some (c.next, ⟨c.next + 1⟩) else none

/-- A number is handed out exactly while one is left. -/
theorem isSome_take?_iff (c : Counter) : c.take?.isSome = true ↔ 0 < c.free := by
  by_cases h : c.next ≤ last <;> simp only [take?, free, h, if_true, if_false, Option.isSome] <;>
    simp only [last] at h ⊢ <;> simp <;> omega

/-- Each number that is handed out is the next one, and one less is left. -/
theorem take?_eq_some {c c' : Counter} {n : Nat} (h : c.take? = some (n, c')) :
    n = c.next ∧ n ≤ last ∧ c'.next = c.next + 1 ∧ c'.free + 1 = c.free := by
  simp only [take?] at h
  split at h
  case isTrue hle =>
    obtain ⟨rfl, rfl⟩ := Prod.mk.inj (Option.some.inj h)
    refine ⟨rfl, hle, rfl, ?_⟩
    simp only [free, last] at hle ⊢
    omega
  case isFalse => exact absurd h (by simp)

end Counter

end Interdomain
