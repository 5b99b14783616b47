import Interdomain.Collection.Roster
import Interdomain.Collection.SortedMap
import Mathlib.Data.List.Sort

/-!
# When two maps are equal

A map in key order is known from what it holds at each key, a roster from this and the order of its
keys. So the map of a list has the entries of the list, and listing a map and putting it together
again changes nothing.
-/

namespace Interdomain

/-! ## Rosters -/

section Rosters

variable {κ ν : Type}

theorem Roster.entries_eq_filterMap [DecidableEq κ] (r : Roster κ ν) :
    r.entries = r.keys.filterMap fun k ↦ (r.get? k).map fun v ↦ (k, v) := by
  rw [keys, List.filterMap_map]
  conv_lhs => rw [← List.filterMap_some (l := r.entries)]
  refine List.filterMap_congr fun x hx ↦ ?_
  have hget : r.get? x.1 = some x.2 := r.get?_eq_some_iff.2 hx
  rw [Function.comp_apply, hget, Option.map_some]

theorem Roster.ext_get? [DecidableEq κ] {r r' : Roster κ ν} (hkeys : r.keys = r'.keys)
    (h : ∀ k, r.get? k = r'.get? k) : r = r' := by
  apply Roster.ext
  rw [r.entries_eq_filterMap, r'.entries_eq_filterMap, hkeys]
  simp only [h]

/-- Writing the value that is there changes nothing. -/
theorem Roster.modify_eq_self [DecidableEq κ] {r : Roster κ ν} {k : κ} {v : ν}
    (h : r.get? k = some v) : (r.modify k fun _ ↦ v) = r := by
  refine Roster.ext_get? (r.keys_modify k _) fun k' ↦ ?_
  rw [r.get?_modify]
  split
  case isTrue hk => rw [hk, h, Option.map_some]
  case isFalse => rfl

end Rosters

/-! ## Maps in key order -/

namespace SortedMap

variable {κ ν : Type} [Ord κ] [Std.TransOrd κ] [Std.LawfulEqOrd κ]

theorem ext_get? {m m' : SortedMap κ ν}
    (h : ∀ k, m.get? k = m'.get? k) : m = m' := by
  let before (x y : κ × ν) : Prop := compare y.1 x.1 = .lt
  have hirrefl : ∀ x, ¬before x x := by
    intro x hx
    have hself : compare x.1 x.1 = .eq := Std.ReflCmp.compare_self
    exact absurd (hself.symm.trans hx) (by decide)
  have : Std.Irrefl before := ⟨hirrefl⟩
  have : Std.Antisymm before :=
    ⟨fun x y hxy hyx ↦ absurd (Std.TransCmp.lt_trans hxy hyx) (hirrefl y)⟩
  apply SortedMap.ext
  refine List.Pairwise.eq_of_mem_iff (r := before) m.sorted m'.sorted fun x ↦ ?_
  rw [← m.get?_eq_some_iff, ← m'.get?_eq_some_iff, h]

/-- Writing the value that is there changes nothing. -/
theorem modify_eq_self {m : SortedMap κ ν} {k : κ} {v : ν} (h : m.get? k = some v) :
    (m.modify k fun _ ↦ v) = m := by
  refine ext_get? fun k' ↦ ?_
  by_cases hk : k = k'
  · rw [← hk, m.get?_modify_self, h, Option.map_some]
  · rw [m.get?_modify_of_ne _ hk]

variable [DecidableEq κ]

/-- The entries of the map of a list with distinct keys are those of the list. -/
theorem toList_ofList_perm {l : List (κ × ν)} (h : (l.map (·.1)).Nodup) :
    (ofList l).toList.Perm l := by
  have hkeys : ((ofList l).toList.map (·.1)).Nodup := nodup_keys _
  refine (List.perm_ext_iff_of_nodup (.of_map _ hkeys) (.of_map _ h)).2 fun e ↦ ?_
  rw [mem_toList_iff, get?_ofList h]

theorem ofList_toList (m : SortedMap κ ν) : ofList m.toList = m := by
  refine ext_get? fun k ↦ Option.ext fun v ↦ ?_
  rw [get?_ofList m.nodup_keys, mem_toList_iff]

end SortedMap

end Interdomain
