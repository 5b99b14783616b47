/-!
# Maps in key order

A `SortedMap` holds one value per key and lists its entries by key. It is one strictly sorted
list, so two maps with the same entries are equal, and a statement about a map is a statement about
a list.

The list starts with the greatest key. Interface ids are handed out in increasing order, and in
this direction each new id goes to the front.
-/

namespace Interdomain

/-! ## Lists with descending keys -/

section Entries

variable {κ ν : Type} [Ord κ]

/-- Put an entry into a list with descending keys, in place of one with the same key. -/
def insertDescending (k : κ) (v : ν) : List (κ × ν) → List (κ × ν)
  | [] => [(k, v)]
  | e :: rest =>
    match compare e.1 k with
    | .lt => (k, v) :: e :: rest
    | .eq => (k, v) :: rest
    | .gt => e :: insertDescending k v rest

/-- The keys are strictly descending. -/
def Descending (entries : List (κ × ν)) : Prop :=
  entries.Pairwise fun a b ↦ compare b.1 a.1 = .lt

theorem mem_insertDescending {k : κ} {v : ν} {e : κ × ν} {entries : List (κ × ν)}
    (h : e ∈ insertDescending k v entries) : e = (k, v) ∨ e ∈ entries := by
  induction entries with
  | nil => exact .inl (List.mem_singleton.1 h)
  | cons e' rest ih =>
    unfold insertDescending at h
    split at h
    · exact List.mem_cons.1 h
    · exact (List.mem_cons.1 h).imp id (List.mem_cons_of_mem _)
    · rcases List.mem_cons.1 h with rfl | h
      · exact .inr List.mem_cons_self
      · exact (ih h).imp id (List.mem_cons_of_mem _)

theorem Descending.insert [Std.TransOrd κ] [Std.LawfulEqOrd κ] {k : κ} {v : ν}
    {entries : List (κ × ν)} (h : Descending entries) :
    Descending (insertDescending k v entries) := by
  induction entries with
  | nil => exact List.pairwise_singleton _ _
  | cons e rest ih =>
    obtain ⟨hhead, hrest⟩ := List.pairwise_cons.1 h
    unfold insertDescending
    split
    case h_1 hlt =>
      refine List.pairwise_cons.2 ⟨fun e' he' ↦ ?_, h⟩
      rcases List.mem_cons.1 he' with rfl | he'
      · exact hlt
      · exact Std.TransCmp.lt_trans (hhead e' he') hlt
    case h_2 heq =>
      have hk : e.1 = k := Std.LawfulEqCmp.eq_of_compare heq
      exact List.pairwise_cons.2 ⟨fun e' he' ↦ hk ▸ hhead e' he', hrest⟩
    case h_3 hgt =>
      refine List.pairwise_cons.2 ⟨fun e' he' ↦ ?_, ih hrest⟩
      rcases mem_insertDescending he' with rfl | he'
      · exact Std.OrientedCmp.gt_iff_lt.1 hgt
      · exact hhead e' he'

end Entries

/-! ## Maps -/

/-- A map whose entries are listed by key. -/
@[ext] structure SortedMap (κ ν : Type) [Ord κ] where
  /-- The entries, greatest key first. -/
  descending : List (κ × ν)
  /-- No two entries have the same key, and the keys are in order. -/
  sorted : Descending descending

namespace SortedMap

variable {κ ν : Type} [Ord κ]

def empty : SortedMap κ ν := ⟨[], .nil⟩

instance : EmptyCollection (SortedMap κ ν) := ⟨empty⟩

instance : Inhabited (SortedMap κ ν) := ⟨empty⟩

instance [DecidableEq κ] [DecidableEq ν] : DecidableEq (SortedMap κ ν) :=
  fun _ _ ↦ decidable_of_iff' _ SortedMap.ext_iff

/-- The entries, least key first. -/
def toList (m : SortedMap κ ν) : List (κ × ν) := m.descending.reverse

def keys (m : SortedMap κ ν) : List κ := m.toList.map (·.1)

/-- The values in the order of their keys. -/
def values (m : SortedMap κ ν) : List ν := m.toList.map (·.2)

def size (m : SortedMap κ ν) : Nat := m.descending.length

def isEmpty (m : SortedMap κ ν) : Bool := m.descending.isEmpty

def get? (m : SortedMap κ ν) (k : κ) : Option ν :=
  (m.descending.find? fun e ↦ compare e.1 k == .eq).map (·.2)

def contains (m : SortedMap κ ν) (k : κ) : Bool := (m.get? k).isSome

/-- Put a value at a key, in place of one that is there. -/
def insert [Std.TransOrd κ] [Std.LawfulEqOrd κ] (m : SortedMap κ ν) (k : κ) (v : ν) :
    SortedMap κ ν :=
  ⟨insertDescending k v m.descending, m.sorted.insert⟩

def erase (m : SortedMap κ ν) (k : κ) : SortedMap κ ν :=
  ⟨m.descending.filter fun e ↦ compare e.1 k != .eq, m.sorted.filter _⟩

def modify (m : SortedMap κ ν) (k : κ) (f : ν → ν) : SortedMap κ ν where
  descending := m.descending.map fun e ↦ if compare e.1 k == .eq then (e.1, f e.2) else e
  sorted := by
    refine List.pairwise_map.2 (m.sorted.imp fun {a b} h ↦ ?_)
    split <;> split <;> exact h

/-- The map with the entries of a list; of two entries with one key the later stays. -/
def ofList [Std.TransOrd κ] [Std.LawfulEqOrd κ] (entries : List (κ × ν)) : SortedMap κ ν :=
  entries.foldl (fun m e ↦ m.insert e.1 e.2) empty

/-! ### Look-up after a change -/

theorem get?_insert_self [Std.TransOrd κ] [Std.LawfulEqOrd κ] (m : SortedMap κ ν) (k : κ) (v : ν) :
    (m.insert k v).get? k = some v := by
  obtain ⟨entries, hsorted⟩ := m
  simp only [get?, insert]
  clear hsorted
  induction entries with
  | nil => simp [insertDescending]
  | cons e rest ih =>
    unfold insertDescending
    split
    · simp
    · simp
    · rename_i hgt
      simpa [hgt] using ih

theorem get?_insert_of_ne [Std.TransOrd κ] [Std.LawfulEqOrd κ] (m : SortedMap κ ν) {k k' : κ}
    (v : ν) (h : k ≠ k') : (m.insert k v).get? k' = m.get? k' := by
  obtain ⟨entries, hsorted⟩ := m
  have hne : compare k k' ≠ .eq := fun heq ↦ h (Std.LawfulEqCmp.eq_of_compare heq)
  simp only [get?, insert]
  clear hsorted
  induction entries with
  | nil => simp [insertDescending, hne]
  | cons e rest ih =>
    unfold insertDescending
    split
    · simp [hne]
    · rename_i heq
      have hk : e.1 = k := Std.LawfulEqCmp.eq_of_compare heq
      simp [hne, hk]
    · by_cases he : compare e.1 k' = .eq
      · simp [he]
      · simpa [he] using ih

theorem keys_modify (m : SortedMap κ ν) (k : κ) (f : ν → ν) : (m.modify k f).keys = m.keys := by
  simp only [keys, toList, modify, ← List.map_reverse, List.map_map]
  refine List.map_congr_left fun e _ ↦ ?_
  simp only [Function.comp]
  split <;> rfl

theorem get?_modify_self (m : SortedMap κ ν) (k : κ) (f : ν → ν) :
    (m.modify k f).get? k = (m.get? k).map f := by
  obtain ⟨entries, hsorted⟩ := m
  simp only [get?, modify]
  clear hsorted
  induction entries with
  | nil => rfl
  | cons e rest ih =>
    by_cases he : compare e.1 k = .eq
    · simp [he]
    · simpa [he] using ih

theorem get?_modify_of_ne [Std.LawfulEqOrd κ] (m : SortedMap κ ν) {k k' : κ} (f : ν → ν)
    (h : k ≠ k') : (m.modify k f).get? k' = m.get? k' := by
  obtain ⟨entries, hsorted⟩ := m
  simp only [get?, modify]
  clear hsorted
  induction entries with
  | nil => rfl
  | cons e rest ih =>
    by_cases he' : compare e.1 k' = .eq
    · have hk : e.1 = k' := Std.LawfulEqCmp.eq_of_compare he'
      have he : compare e.1 k ≠ .eq := fun he ↦ h ((Std.LawfulEqCmp.eq_of_compare he).symm.trans hk)
      rw [hk] at he
      simp [hk, he]
    · by_cases he : compare e.1 k = .eq
      · simpa [he, he'] using ih
      · simpa [he, he'] using ih

theorem get?_eq_some_iff [Std.TransOrd κ] [Std.LawfulEqOrd κ] (m : SortedMap κ ν) {k : κ} {v : ν} :
    m.get? k = some v ↔ (k, v) ∈ m.descending := by
  obtain ⟨entries, hsorted⟩ := m
  simp only [get?]
  induction entries with
  | nil => simp
  | cons e rest ih =>
    obtain ⟨hhead, hrest⟩ := List.pairwise_cons.1 hsorted
    by_cases he : compare e.1 k = .eq
    · have hk : e.1 = k := Std.LawfulEqCmp.eq_of_compare he
      have hmem : (k, v) ∉ rest := by
        intro h
        have hlt : compare k e.1 = .lt := hhead _ h
        have hself : compare k k = .eq := Std.ReflCmp.compare_self
        rw [hk, hself] at hlt
        exact absurd hlt (by decide)
      rw [List.find?_cons_of_pos (by simp [he]), List.mem_cons]
      constructor
      · intro h
        exact .inl (Prod.ext hk.symm (Option.some.inj h).symm)
      · rintro (rfl | h)
        · rfl
        · exact absurd h hmem
    · rw [List.find?_cons_of_neg (by simp [he]), ih hrest, List.mem_cons]
      constructor
      · exact .inr
      · rintro (rfl | h)
        · exact absurd Std.ReflCmp.compare_self he
        · exact h

theorem get?_insert [DecidableEq κ] [Std.TransOrd κ] [Std.LawfulEqOrd κ] (m : SortedMap κ ν)
    (k k' : κ) (v : ν) : (m.insert k v).get? k' = if k' = k then some v else m.get? k' := by
  split
  case isTrue h => rw [h, get?_insert_self]
  case isFalse h => exact get?_insert_of_ne m v (Ne.symm h)

/-! ### Keys -/

theorem mem_keys_iff [Std.TransOrd κ] [Std.LawfulEqOrd κ] (m : SortedMap κ ν) {k : κ} :
    k ∈ m.keys ↔ ∃ v, m.get? k = some v := by
  simp only [keys, toList, List.mem_map, List.mem_reverse, Prod.exists, exists_and_right,
    exists_eq_right, get?_eq_some_iff]

theorem mem_toList_iff [Std.TransOrd κ] [Std.LawfulEqOrd κ] (m : SortedMap κ ν) {e : κ × ν} :
    e ∈ m.toList ↔ m.get? e.1 = some e.2 := by
  rw [toList, List.mem_reverse, get?_eq_some_iff]

theorem mem_values_iff [Std.TransOrd κ] [Std.LawfulEqOrd κ] (m : SortedMap κ ν) {v : ν} :
    v ∈ m.values ↔ ∃ k, m.get? k = some v := by
  simp only [values, toList, List.mem_map, List.mem_reverse, Prod.exists, exists_eq_right,
    get?_eq_some_iff]

theorem mem_keys_insert [DecidableEq κ] [Std.TransOrd κ] [Std.LawfulEqOrd κ] (m : SortedMap κ ν)
    {k k' : κ} (v : ν) : k' ∈ (m.insert k v).keys ↔ k' ∈ m.keys ∨ k' = k := by
  rw [mem_keys_iff, mem_keys_iff, get?_insert]
  by_cases h : k' = k <;> simp [h]

theorem pairwise_keys (m : SortedMap κ ν) : m.keys.Pairwise fun k k' ↦ compare k k' = .lt := by
  rw [keys, toList, List.pairwise_map, List.pairwise_reverse]
  exact m.sorted

theorem nodup_keys [Std.ReflOrd κ] (m : SortedMap κ ν) : m.keys.Nodup := by
  refine m.pairwise_keys.imp fun {k k'} hlt heq ↦ ?_
  have hself : compare k' k' = .eq := Std.ReflCmp.compare_self
  rw [heq, hself] at hlt
  exact absurd hlt (by decide)

/-! ### Maps of lists -/

variable [Std.TransOrd κ] [Std.LawfulEqOrd κ]

theorem get?_ofList [DecidableEq κ] {l : List (κ × ν)} (h : (l.map (·.1)).Nodup) {k : κ} {v : ν} :
    (ofList l).get? k = some v ↔ (k, v) ∈ l := by
  suffices hfold : ∀ m : SortedMap κ ν, (∀ e ∈ l, m.get? e.1 = none) →
      ((l.foldl (fun m e ↦ m.insert e.1 e.2) m).get? k = some v ↔
        (k, v) ∈ l ∨ m.get? k = some v) by
    have hempty := hfold empty fun _ _ ↦ rfl
    rw [← ofList] at hempty
    rw [hempty]
    exact or_iff_left (by simp [get?, empty])
  induction l with
  | nil => simp
  | cons e l ih =>
    intro m hm
    rw [List.map_cons, List.nodup_cons] at h
    -- The keys of the rest are still free after the first entry.
    have hrest : ∀ e' ∈ l, (m.insert e.1 e.2).get? e'.1 = none := by
      intro e' he'
      have hne : e'.1 ≠ e.1 := fun heq ↦ h.1 (heq ▸ List.mem_map_of_mem he')
      rw [get?_insert, if_neg hne]
      exact hm e' (List.mem_cons_of_mem _ he')
    rw [List.foldl_cons, ih h.2 _ hrest, get?_insert, List.mem_cons]
    by_cases hk : k = e.1
    · have hnone : m.get? k = none := hk ▸ hm e List.mem_cons_self
      rw [if_pos hk, hnone, Prod.ext_iff]
      simp [hk, or_comm, eq_comm]
    · rw [if_neg hk, Prod.ext_iff]
      simp [hk]

theorem mem_keys_ofList [DecidableEq κ] {l : List (κ × ν)} (h : (l.map (·.1)).Nodup) {k : κ} :
    k ∈ (ofList l).keys ↔ k ∈ l.map (·.1) := by
  simp only [mem_keys_iff, get?_ofList h, List.mem_map, Prod.exists, exists_and_right,
    exists_eq_right]

end SortedMap

/-! ## Sets -/

/-- A set whose members are listed in order. -/
abbrev SortedSet (κ : Type) [Ord κ] := SortedMap κ Unit

namespace SortedSet

variable {κ : Type} [Ord κ]

/-- The set of the members of a list. -/
def ofList [Std.TransOrd κ] [Std.LawfulEqOrd κ] (members : List κ) : SortedSet κ :=
  SortedMap.ofList (members.map fun k ↦ (k, ()))

end SortedSet

end Interdomain
