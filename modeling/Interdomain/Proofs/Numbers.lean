import Interdomain.Counter
import Mathlib.Data.List.Nodup
import Mathlib.Logic.Function.Basic

/-!
# Numbers from many counters

The ASes hand out interface ids and the routers hand out ports, all in one sequence of events. Seen
from one counter the others do not matter: its numbers follow each other from the next one on,
wherever in the sequence they were taken. `Issues` is such a sequence, `Issues.numbers` is what one
counter sees of it, and `Affords` says that the counters have enough left for what is still to come.
-/

namespace Interdomain

abbrev Counters (κ : Type) := κ → Option Counter

variable {κ : Type}

namespace Counters

/-- How many numbers are left at a key. -/
def left (s : Counters κ) (k : κ) : Nat := ((s k).map Counter.free).getD 0

theorem left_of_eq_some {s : Counters κ} {k : κ} {c : Counter} (h : s k = some c) :
    s.left k = c.free := by
  rw [left, h, Option.map_some, Option.getD_some]

theorem left_of_eq_none {s : Counters κ} {k : κ} (h : s k = none) : s.left k = 0 := by
  rw [left, h, Option.map_none, Option.getD_none]

theorem exists_of_left_pos {s : Counters κ} {k : κ} (h : 0 < s.left k) :
    ∃ c, s k = some c ∧ 0 < c.free := by
  cases hc : s k with
  | none => rw [left_of_eq_none hc] at h; exact absurd h (by decide)
  | some c => exact ⟨c, rfl, left_of_eq_some hc ▸ h⟩

theorem left_le (s : Counters κ) (k : κ) : s.left k ≤ Counter.last + 1 := by
  cases hc : s k with
  | none => rw [left_of_eq_none hc]; exact Nat.zero_le _
  | some c => rw [left_of_eq_some hc]; exact Nat.sub_le _ _

end Counters

variable [DecidableEq κ]

/-! ## Sequences of numbers -/

/-- The numbers of a list are handed out one after another, each by the counter of its key. -/
inductive Issues : Counters κ → List (κ × Nat) → Counters κ → Prop
  /-- Nothing is handed out. -/
  | nil (s : Counters κ) : Issues s [] s
  /-- One number is handed out before the others. -/
  | cons {s s' : Counters κ} {k : κ} {n : Nat} {c c' : Counter} {l : List (κ × Nat)}
      (found : s k = some c) (taken : c.take? = some (n, c'))
      (rest : Issues (Function.update s k (some c')) l s') : Issues s ((k, n) :: l) s'

namespace Issues

variable {s s₁ s₂ : Counters κ} {l l₁ l₂ : List (κ × Nat)}

theorem single {k : κ} {n : Nat} {c c' : Counter} (found : s k = some c)
    (taken : c.take? = some (n, c')) :
    Issues s [(k, n)] (Function.update s k (some c')) :=
  .cons found taken (.nil _)

theorem append (h₁ : Issues s l₁ s₁) (h₂ : Issues s₁ l₂ s₂) : Issues s (l₁ ++ l₂) s₂ := by
  induction h₁ with
  | nil => exact h₂
  | cons found taken _ ih => exact .cons found taken (ih h₂)

/-- Only keys with a counter hand out numbers. -/
theorem isSome_of_mem (h : Issues s l s₁) {x : κ × Nat} (hx : x ∈ l) : (s x.1).isSome = true := by
  induction h with
  | nil => exact absurd hx List.not_mem_nil
  | @cons s s' k n c c' l found taken rest ih =>
    rcases List.mem_cons.1 hx with rfl | hx
    · rw [found, Option.isSome_some]
    · have hsome := ih hx
      by_cases hk : x.1 = k
      · rw [hk, found, Option.isSome_some]
      · rwa [Function.update_of_ne hk] at hsome

theorem isSome_eq (h : Issues s l s₁) (k : κ) : (s₁ k).isSome = (s k).isSome := by
  induction h with
  | nil => rfl
  | @cons s s' k' n c c' l found taken rest ih =>
    by_cases hk : k = k'
    · rw [ih, hk, Function.update_self, found, Option.isSome_some, Option.isSome_some]
    · rw [ih, Function.update_of_ne hk]

theorem isSome_of_single {k : κ} {n : Nat} (h : Issues s [(k, n)] s₁) :
    (s₁ k).isSome = true := by
  rw [h.isSome_eq]
  exact h.isSome_of_mem (List.mem_singleton_self (k, n))

theorem le_last (h : Issues s l s₁) {x : κ × Nat} (hx : x ∈ l) : x.2 ≤ Counter.last := by
  induction h with
  | nil => exact absurd hx List.not_mem_nil
  | cons found taken rest ih =>
    rcases List.mem_cons.1 hx with rfl | hx
    · exact (Counter.take?_eq_some taken).2.1
    · exact ih hx

/-- **The numbers of one counter.** They follow each other from its next number on, and afterwards
the counter stands behind the last of them, whatever else was handed out in between. -/
theorem numbers (h : Issues s l s₁) {k : κ} {c : Counter} (hc : s k = some c) :
    (l.filter (·.1 = k)).map (·.2) = List.range' c.next (l.countP (·.1 = k)) ∧
      s₁ k = some ⟨c.next + l.countP (·.1 = k)⟩ := by
  induction h generalizing c with
  | nil => exact ⟨rfl, hc⟩
  | @cons s s' k' n c₁ c₂ l found taken rest ih =>
    obtain ⟨hn, -, hnext, -⟩ := Counter.take?_eq_some taken
    by_cases hk : k' = k
    · subst hk
      obtain rfl : c₁ = c := Option.some.inj (found.symm.trans hc)
      obtain ⟨hnumbers, hafter⟩ := ih (Function.update_self ..)
      rw [List.filter_cons_of_pos (by simp), List.countP_cons_of_pos (by simp), List.map_cons,
        List.range'_succ, hnumbers, hafter, hnext, hn]
      exact ⟨rfl, by rw [Nat.add_right_comm, Nat.add_assoc]⟩
    -- A number of another counter leaves this one as it is and is not counted.
    · obtain ⟨hnumbers, hafter⟩ := ih ((Function.update_of_ne (Ne.symm hk) _ _).trans hc)
      rw [List.filter_cons_of_neg (by simpa using hk), List.countP_cons_of_neg (by simpa using hk)]
      exact ⟨hnumbers, hafter⟩

theorem mem_range'_of_mem (h : Issues s l s₁) {k : κ} {c : Counter} {n : Nat} (hc : s k = some c)
    (hn : (k, n) ∈ l) : n ∈ List.range' c.next (l.countP (·.1 = k)) := by
  rw [← (h.numbers hc).1]
  exact List.mem_map.2 ⟨(k, n), List.mem_filter.2 ⟨hn, by simp⟩, rfl⟩

/-- A key hands out no number below its next one. -/
theorem next_le (h : Issues s l s₁) {k : κ} {c : Counter} {n : Nat} (hc : s k = some c)
    (hn : (k, n) ∈ l) : c.next ≤ n :=
  List.left_le_of_mem_range' (h.mem_range'_of_mem hc hn)

theorem next_le_next (h : Issues s l s₁) {k : κ} {c c₁ : Counter} (hc : s k = some c)
    (hc₁ : s₁ k = some c₁) : c.next ≤ c₁.next := by
  rw [(h.numbers hc).2] at hc₁
  rw [← Option.some.inj hc₁]
  exact Nat.le_add_right ..

/-- Afterwards all numbers of a key are below its next one. -/
theorem lt_next (h : Issues s l s₁) {k : κ} {c₁ : Counter} {n : Nat} (hc₁ : s₁ k = some c₁)
    (hn : (k, n) ∈ l) : n < c₁.next := by
  obtain ⟨c, hc⟩ := Option.isSome_iff_exists.1 (h.isSome_of_mem hn)
  rw [(h.numbers hc).2] at hc₁
  rw [← Option.some.inj hc₁]
  exact (List.mem_range'_1.1 (h.mem_range'_of_mem hc hn)).2

theorem nodup (h : Issues s l s₁) : l.Nodup := by
  induction h with
  | nil => exact List.nodup_nil
  | @cons s s' k n c c' l found taken rest ih =>
    -- The counter has moved past the first number, and it never goes back.
    refine List.nodup_cons.2 ⟨fun hmem ↦ ?_, ih⟩
    obtain ⟨hn, -, hnext, -⟩ := Counter.take?_eq_some taken
    have hle : c'.next ≤ n := rest.next_le (Function.update_self ..) hmem
    omega

/-- The keys decide which numbers are handed out. -/
theorem unique (h₁ : Issues s l₁ s₁) (h₂ : Issues s l₂ s₂)
    (hkeys : l₁.map (·.1) = l₂.map (·.1)) : l₁ = l₂ ∧ s₁ = s₂ := by
  induction h₁ generalizing l₂ with
  | nil s =>
    obtain rfl : l₂ = [] := List.map_eq_nil_iff.1 hkeys.symm
    cases h₂
    exact ⟨rfl, rfl⟩
  | @cons s s' k n c c' l found taken rest ih =>
    cases h₂ with
    | nil => exact absurd hkeys (by simp)
    | @cons _ _ k₂ n₂ c₂ c₂' l₂ found₂ taken₂ rest₂ =>
      rw [List.map_cons, List.map_cons] at hkeys
      obtain ⟨hkey, hrest⟩ := List.cons.inj hkeys
      obtain rfl : k = k₂ := hkey
      obtain rfl : c = c₂ := Option.some.inj (found.symm.trans found₂)
      obtain ⟨rfl, rfl⟩ := Prod.mk.inj (Option.some.inj (taken.symm.trans taken₂))
      obtain ⟨rfl, rfl⟩ := ih rest₂ hrest
      exact ⟨rfl, rfl⟩

theorem swap {x y : κ × Nat} (h : Issues s (x :: y :: l) s₁) (hne : x.1 ≠ y.1) :
    Issues s (y :: x :: l) s₁ := by
  cases h with
  | @cons _ _ k n c c' _ found taken rest =>
    cases rest with
    | @cons _ _ k₂ n₂ c₂ c₂' _ found₂ taken₂ rest =>
      rw [Function.update_of_ne hne.symm] at found₂
      rw [Function.update_comm hne] at rest
      exact .cons found₂ taken₂ (.cons (by rw [Function.update_of_ne hne, found]) taken rest)

/-- What is left of a counter is what it had less what it handed out. -/
theorem left_add_count (h : Issues s l s₁) (k : κ) :
    s₁.left k + (l.map (·.1)).count k = s.left k := by
  induction h with
  | nil => rw [List.map_nil, List.count_nil, Nat.add_zero]
  | @cons s s' k' n c c' l found taken rest ih =>
    obtain ⟨-, -, -, hfree⟩ := Counter.take?_eq_some taken
    rw [List.map_cons, List.count_cons, ← Nat.add_assoc, ih]
    by_cases hk : k' = k
    · subst hk
      rw [Counters.left_of_eq_some (Function.update_self ..), Counters.left_of_eq_some found]
      simpa using hfree
    · have hne : k ≠ k' := Ne.symm hk
      rw [Counters.left, Counters.left, Function.update_of_ne hne]
      simp [hk]

/-! ### Things that are numbered -/

section Things

variable {α : Type} {key : α → κ} {number : α → Nat} {xs : List α}

theorem numbers_of_map (h : Issues s (xs.map fun x ↦ (key x, number x)) s₁) {k : κ} {c : Counter}
    (hc : s k = some c) :
    (xs.filter (key · = k)).map number = List.range' c.next (xs.countP (key · = k)) ∧
      s₁ k = some ⟨c.next + xs.countP (key · = k)⟩ := by
  have hnumbers := h.numbers hc
  rw [List.filter_map, List.map_map, List.countP_map] at hnumbers
  exact hnumbers

/-- A thing has the number that its place among the things of its key tells. -/
theorem exists_of_getElem? (h : Issues s (xs.map fun x ↦ (key x, number x)) s₁) {k : κ} {i : Nat}
    {x : α} (hx : (xs.filter (key · = k))[i]? = some x) :
    ∃ c, s k = some c ∧ number x = c.next + i := by
  obtain ⟨hmem, hkey⟩ := List.mem_filter.1 (List.mem_of_getElem? hx)
  obtain rfl : key x = k := of_decide_eq_true hkey
  obtain ⟨c, hc⟩ := Option.isSome_iff_exists.1 (h.isSome_of_mem (List.mem_map_of_mem hmem))
  have hget : ((xs.filter (key · = key x)).map number)[i]? = some (number x) := by
    rw [List.getElem?_map, hx, Option.map_some]
  rw [(h.numbers_of_map hc).1] at hget
  obtain ⟨hi, heq⟩ := List.getElem?_eq_some_iff.1 hget
  rw [List.getElem_range', Nat.one_mul] at heq
  exact ⟨c, hc, heq.symm⟩

end Things

end Issues

/-! ## Enough for what is to come -/

/-- The counters have enough left to serve the keys of a list. -/
def Affords (s : Counters κ) (ks : List κ) : Prop := ∀ k, ks.count k ≤ s.left k

theorem Issues.affords {s s₁ : Counters κ} {l : List (κ × Nat)} (h : Issues s l s₁) :
    Affords s (l.map (·.1)) := by
  intro k
  rw [← h.left_add_count k]
  exact Nat.le_add_left ..

namespace Affords

variable {s s₁ : Counters κ} {k : κ} {ks : List κ}

theorem exists_take (h : Affords s (k :: ks)) :
    ∃ c n c', s k = some c ∧ c.take? = some (n, c') := by
  have hpos : 0 < s.left k :=
    Nat.lt_of_lt_of_le (List.count_pos_iff.2 List.mem_cons_self) (h k)
  obtain ⟨c, hc, hfree⟩ := Counters.exists_of_left_pos hpos
  obtain ⟨⟨n, c'⟩, htake⟩ := Option.isSome_iff_exists.1 ((Counter.isSome_take?_iff c).2 hfree)
  exact ⟨c, n, c', hc, htake⟩

/-- A number for the first key leaves enough for the others. -/
theorem of_issues {n : Nat} (h : Affords s (k :: ks)) (hn : Issues s [(k, n)] s₁) :
    Affords s₁ ks := by
  intro k'
  have hk := h k'
  have hleft : s₁.left k' + [k].count k' = s.left k' := hn.left_add_count k'
  rw [List.count_singleton] at hleft
  rw [List.count_cons] at hk
  omega

end Affords

end Interdomain
