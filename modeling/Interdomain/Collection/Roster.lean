/-!
# Maps in the order of insertion

A `Roster` holds one value per key and lists its entries in the order in which their keys first
came. A value put at a key that is there takes the place of the old one.
-/

namespace Interdomain

/-- A map whose entries are listed in the order of insertion. -/
@[ext] structure Roster (κ ν : Type) where
  /-- The entries in order. -/
  entries : List (κ × ν)
  /-- No two entries have the same key. -/
  nodup : (entries.map (·.1)).Nodup

namespace Roster

variable {κ ν : Type}

def empty : Roster κ ν := ⟨[], .nil⟩

instance : EmptyCollection (Roster κ ν) := ⟨empty⟩

instance : Inhabited (Roster κ ν) := ⟨empty⟩

/-- The keys in order. -/
def keys (r : Roster κ ν) : List κ := r.entries.map (·.1)

/-- The values in the order of their keys. -/
def values (r : Roster κ ν) : List ν := r.entries.map (·.2)

variable [DecidableEq κ]

def get? (r : Roster κ ν) (k : κ) : Option ν := (r.entries.find? (·.1 = k)).map (·.2)

def contains (r : Roster κ ν) (k : κ) : Bool := r.keys.contains k

/-- Replace the value at a key by a function of it. -/
def modify (r : Roster κ ν) (k : κ) (f : ν → ν) : Roster κ ν where
  entries := r.entries.map fun e ↦ if e.1 = k then (e.1, f e.2) else e
  nodup := by
    have : (r.entries.map fun e ↦ if e.1 = k then (e.1, f e.2) else e).map (·.1)
        = r.entries.map (·.1) := by
      rw [List.map_map]
      refine List.map_congr_left fun e _ ↦ ?_
      simp only [Function.comp]
      split <;> rfl
    rw [this]
    exact r.nodup

/-- Put a value at a key: in place of the old one, or at the end. -/
def insert (r : Roster κ ν) (k : κ) (v : ν) : Roster κ ν :=
  if h : k ∈ r.keys then r.modify k fun _ ↦ v
  else
    { entries := r.entries ++ [(k, v)]
      nodup := by
        rw [List.map_append, List.nodup_append]
        refine ⟨r.nodup, by simp, fun a ha b hb ↦ ?_⟩
        rintro rfl
        rw [List.map_singleton, List.mem_singleton] at hb
        have hk : k = a := hb.symm
        exact h (hk ▸ ha) }

/-- Put a value at a key that has none. -/
def insertNew (r : Roster κ ν) (k : κ) (v : ν) : Roster κ ν :=
  if r.contains k then r else r.insert k v

/-! ## Keys and look-up after a change -/

theorem contains_iff (r : Roster κ ν) (k : κ) : r.contains k = true ↔ k ∈ r.keys := by
  simp [contains]

theorem keys_modify (r : Roster κ ν) (k : κ) (f : ν → ν) : (r.modify k f).keys = r.keys := by
  simp only [keys, modify, List.map_map]
  refine List.map_congr_left fun e _ ↦ ?_
  simp only [Function.comp]
  split <;> rfl

theorem entries_insert_of_not_mem (r : Roster κ ν) {k : κ} (v : ν) (h : k ∉ r.keys) :
    (r.insert k v).entries = r.entries ++ [(k, v)] := by
  simp [insert, h]

theorem keys_insert_of_not_mem (r : Roster κ ν) {k : κ} (v : ν) (h : k ∉ r.keys) :
    (r.insert k v).keys = r.keys ++ [k] := by
  rw [keys, entries_insert_of_not_mem r v h, List.map_append, List.map_singleton, keys]

theorem values_insert_of_not_mem (r : Roster κ ν) {k : κ} (v : ν) (h : k ∉ r.keys) :
    (r.insert k v).values = r.values ++ [v] := by
  rw [values, entries_insert_of_not_mem r v h, List.map_append, List.map_singleton, values]

theorem mem_keys_insert (r : Roster κ ν) {k k' : κ} (v : ν) :
    k' ∈ (r.insert k v).keys ↔ k' ∈ r.keys ∨ k' = k := by
  by_cases h : k ∈ r.keys
  · have hinsert : (r.insert k v).keys = r.keys := by
      rw [insert, dif_pos h, keys_modify]
    rw [hinsert]
    constructor
    · exact .inl
    · rintro (hk | rfl)
      · exact hk
      · exact h
  · rw [keys_insert_of_not_mem r v h, List.mem_append, List.mem_singleton]

/-- The keys of a roster that a list fills are those of the list, beside the ones it had. -/
theorem mem_keys_foldl_insert {α : Type} (key : α → κ) (value : α → ν) (l : List α)
    (r : Roster κ ν) {k : κ} :
    k ∈ (l.foldl (fun r x ↦ r.insert (key x) (value x)) r).keys ↔ k ∈ r.keys ∨ k ∈ l.map key := by
  induction l generalizing r with
  | nil => simp
  | cons x l ih => rw [List.foldl_cons, ih, mem_keys_insert, List.map_cons, List.mem_cons, or_assoc]

theorem get?_modify (r : Roster κ ν) (k k' : κ) (f : ν → ν) :
    (r.modify k f).get? k' = if k' = k then (r.get? k').map f else r.get? k' := by
  obtain ⟨entries, hnodup⟩ := r
  simp only [get?, modify]
  clear hnodup
  induction entries with
  | nil => simp
  | cons e rest ih =>
    by_cases he : e.1 = k <;> by_cases he' : e.1 = k' <;> grind

theorem get?_isSome_iff (r : Roster κ ν) (k : κ) : (r.get? k).isSome = true ↔ k ∈ r.keys := by
  simp only [get?, keys, Option.isSome_map, List.find?_isSome, List.mem_map, decide_eq_true_eq]

theorem get?_eq_some_iff (r : Roster κ ν) {k : κ} {v : ν} :
    r.get? k = some v ↔ (k, v) ∈ r.entries := by
  obtain ⟨entries, hnodup⟩ := r
  simp only [get?]
  induction entries with
  | nil => simp
  | cons e rest ih =>
    rw [List.map_cons, List.nodup_cons] at hnodup
    by_cases he : e.1 = k
    · have hrest : (k, v) ∉ rest := fun h ↦ hnodup.1 (he ▸ List.mem_map_of_mem h)
      rw [List.find?_cons_of_pos (by simpa using he), List.mem_cons]
      constructor
      · intro h
        exact .inl (Prod.ext he.symm (Option.some.inj h).symm)
      · rintro (rfl | h)
        · rfl
        · exact absurd h hrest
    · rw [List.find?_cons_of_neg (by simpa using he), ih hnodup.2, List.mem_cons]
      constructor
      · exact .inr
      · rintro (rfl | h)
        · exact absurd rfl he
        · exact h

theorem mem_values_iff (r : Roster κ ν) {v : ν} : v ∈ r.values ↔ ∃ k, r.get? k = some v := by
  simp only [values, List.mem_map, Prod.exists, exists_eq_right, get?_eq_some_iff]

theorem get?_insert (r : Roster κ ν) (k k' : κ) (v : ν) :
    (r.insert k v).get? k' = if k' = k then some v else r.get? k' := by
  unfold insert
  split
  case isTrue hmem =>
    obtain ⟨w, hw⟩ := Option.isSome_iff_exists.1 ((get?_isSome_iff r k).2 hmem)
    rw [get?_modify]
    split
    case isTrue heq => rw [heq, hw, Option.map_some]
    case isFalse => rfl
  case isFalse hmem =>
    have hnone : r.get? k = none := by
      rw [← Option.not_isSome_iff_eq_none, get?_isSome_iff]
      exact hmem
    simp only [get?, List.find?_append] at hnone ⊢
    split
    case isTrue heq =>
      rw [heq, Option.map_eq_none_iff.1 hnone]
      simp
    case isFalse hne => simp [Ne.symm hne]

/-- Of the values that a list puts at a key the last one stays. -/
theorem get?_foldl_insert {α : Type} (key : α → κ) (value : α → ν) (l : List α) (r : Roster κ ν)
    (k : κ) :
    (l.foldl (fun r x ↦ r.insert (key x) (value x)) r).get? k
      = ((l.reverse.find? (key · = k)).map value).or (r.get? k) := by
  induction l generalizing r with
  | nil => rfl
  | cons x l ih =>
    rw [List.foldl_cons, ih, get?_insert, List.reverse_cons, List.find?_append]
    cases l.reverse.find? (key · = k) with
    | some y => rfl
    | none =>
      by_cases hx : key x = k
      · rw [if_pos hx.symm, List.find?_cons_of_pos (by simpa using hx)]
        rfl
      · rw [if_neg (Ne.symm hx), List.find?_cons_of_neg (by simpa using hx)]
        rfl

theorem exists_of_get?_foldl_insert {α : Type} {key : α → κ} {value : α → ν} {l : List α}
    {k : κ} {v : ν}
    (h : (l.foldl (fun (r : Roster κ ν) x ↦ r.insert (key x) (value x)) ∅).get? k = some v) :
    ∃ x ∈ l, key x = k ∧ value x = v := by
  have hempty : (∅ : Roster κ ν).get? k = none := rfl
  rw [get?_foldl_insert, hempty, Option.or_none] at h
  obtain ⟨x, hx, hvalue⟩ := Option.map_eq_some_iff.1 h
  exact ⟨x, List.mem_reverse.1 (List.mem_of_find?_eq_some hx), by simpa using List.find?_some hx,
    hvalue⟩

end Roster

end Interdomain
