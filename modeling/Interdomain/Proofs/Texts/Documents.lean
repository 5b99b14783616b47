import Interdomain.MapEntries
import Interdomain.Proofs.Maps
import Interdomain.Proofs.Texts.Json

/-!
# Values as documents

A record is written as an object and read from a document whose scalars have their types. The
lemmas here follow an object both ways: an entry is found under its name, and a reader finds in the
typed document what the writer has put there. Whether a map is numbered or named, its entries are
listed in order and give back the same map.
-/

namespace Interdomain

/-! ## Parts of a value -/

namespace Value

/-- The part of a value at a path of names. -/
def at? (v : Value) (path : List String) : Option Value := path.foldlM get? v

theorem at?_cons (v : Value) (name : String) (path : List String) :
    v.at? (name :: path) = (v.get? name).bind (·.at? path) := by
  rw [at?, List.foldlM_cons]
  rfl

theorem get?_object (fields : List (String × Value)) (name : String) :
    (object fields).get? name = fields.lookup name := by
  rw [object, get?, List.findSome?_map]
  induction fields with
  | nil => rfl
  | cons f fields ih =>
    rw [List.findSome?_cons, List.lookup_cons, Function.comp_apply]
    by_cases h : f.1 = name
    · simp [h]
    · simp [h, ih, beq_false_of_ne (Ne.symm h)]

def text? : Value → Option String
  | .text s => some s
  | _ => none

def names? : Value → Option (List String)
  | .mapping entries => (entries.map (·.1)).mapM text?
  | _ => none

/-- The names of the object at a path. -/
def namesAt? (v : Value) (path : List String) : Option (List String) := (v.at? path).bind names?

end Value

/-- With distinct keys, looking up a key finds the entry that has it. -/
theorem lookup_eq_some_iff_mem {κ ν : Type} [BEq κ] [LawfulBEq κ] {l : List (κ × ν)}
    (h : (l.map (·.1)).Nodup) {k : κ} {v : ν} : l.lookup k = some v ↔ (k, v) ∈ l := by
  induction l with
  | nil => exact iff_of_false (by simp) List.not_mem_nil
  | cons e l ih =>
    obtain ⟨hnot, hrest⟩ := List.nodup_cons.1 h
    rw [List.lookup_cons, List.mem_cons]
    by_cases hk : k = e.1
    · subst hk
      have hfar : (e.1, v) ∉ l := fun hmem ↦ hnot (List.mem_map.2 ⟨_, hmem, rfl⟩)
      simp only [beq_self_eq_true, Option.some_inj, hfar, or_false]
      exact ⟨fun heq ↦ Prod.ext rfl heq.symm, fun heq ↦ (congrArg Prod.snd heq).symm⟩
    · have hne : (k, v) ≠ e := fun heq ↦ hk (congrArg Prod.fst heq)
      simp only [beq_false_of_ne hk, ih hrest, hne, false_or]

namespace SortedMap

variable {κ ν : Type} [Ord κ] [Std.LawfulEqOrd κ] {name : κ → String}

theorem nodup_names (hname : Function.Injective name) (write : ν → Value) (m : SortedMap κ ν) :
    ((m.toList.map fun e ↦ (name e.1, write e.2)).map (·.1)).Nodup := by
  have hnames : (m.keys.map name).Nodup := m.nodup_keys.map hname
  rw [keys, List.map_map] at hnames
  rwa [List.map_map]

/-- The object of a map has the entries of the map and no others. -/
theorem get?_object_eq_some_iff [Std.TransOrd κ] (hname : Function.Injective name)
    {write : ν → Value} {m : SortedMap κ ν} {s : String} {w : Value} :
    (Value.object (m.toList.map fun e ↦ (name e.1, write e.2))).get? s = some w ↔
      ∃ k v, m.get? k = some v ∧ name k = s ∧ write v = w := by
  rw [Value.get?_object, lookup_eq_some_iff_mem (nodup_names hname write m), List.mem_map]
  constructor
  · rintro ⟨⟨k, v⟩, hmem, heq⟩
    obtain ⟨hk, hv⟩ := Prod.mk.inj heq
    exact ⟨k, v, m.mem_toList_iff.1 hmem, hk, hv⟩
  · rintro ⟨k, v, hv, rfl, rfl⟩
    exact ⟨(k, v), m.mem_toList_iff.2 hv, rfl⟩

theorem get?_object [Std.TransOrd κ] (hname : Function.Injective name) (write : ν → Value)
    (m : SortedMap κ ν) (k : κ) :
    (Value.object (m.toList.map fun e ↦ (name e.1, write e.2))).get? (name k)
      = (m.get? k).map write := by
  refine Option.ext fun w ↦ ?_
  rw [get?_object_eq_some_iff hname, Option.map_eq_some_iff]
  constructor
  · rintro ⟨k', v, hv, hk, hw⟩
    exact ⟨v, hname hk ▸ hv, hw⟩
  · rintro ⟨v, hv, hw⟩
    exact ⟨k, v, hv, rfl, hw⟩

end SortedMap

/-! ## Legible objects -/

namespace Json

theorem legible_list_iff {items : List Value} : Legible (.list items) ↔ ∀ v ∈ items, Legible v := by
  rw [Legible]
  induction items with
  | nil => exact iff_of_true trivial fun _ hv ↦ absurd hv List.not_mem_nil
  | cons v items ih => rw [AreItemsLegible, ih, List.forall_mem_cons]

theorem areEntriesLegible_entriesOf_iff {fields : List (String × Value)} :
    AreEntriesLegible (entriesOf fields) ↔ ∀ f ∈ fields, Legible f.2 := by
  induction fields with
  | nil => exact iff_of_true trivial fun _ hf ↦ absurd hf List.not_mem_nil
  | cons f fields ih =>
    rw [entriesOf, List.map_cons, AreEntriesLegible, ← entriesOf, ih, List.forall_mem_cons]
    exact and_iff_right ⟨f.1, rfl⟩

theorem legible_object {fields : List (String × Value)} (hdistinct : (fields.map (·.1)).Nodup)
    (hparts : ∀ f ∈ fields, Legible f.2) : Legible (.object fields) := by
  rw [Value.object, Legible]
  refine ⟨?_, areEntriesLegible_entriesOf_iff.2 hparts⟩
  have hkeys : ((fields.map (·.1)).map Value.text).Nodup :=
    hdistinct.map fun _ _ ↦ Value.text.inj
  rw [List.map_map] at hkeys
  rwa [List.map_map]

theorem legible_texts (items : List String) : Legible (.texts items) := by
  refine legible_list_iff.2 fun v hv ↦ ?_
  obtain ⟨s, -, rfl⟩ := List.mem_map.1 hv
  trivial

theorem legible_append_field {α : Type} {base : List (String × Value)} {name : String}
    {write : α → Value} {o : Option α} (hbase : ∀ f ∈ base, Legible f.2)
    (hfield : ∀ a ∈ o, Legible (write a)) :
    ∀ f ∈ base ++ Value.field name write o, Legible f.2 := by
  intro f hf
  rcases List.mem_append.1 hf with hf | hf
  · exact hbase f hf
  · cases o with
    | none => exact absurd hf List.not_mem_nil
    | some a =>
      obtain rfl := List.mem_singleton.1 hf
      exact hfield a rfl

theorem legible_entries {κ ν : Type} [Ord κ] [Std.LawfulEqOrd κ] {name : κ → String}
    (hname : Function.Injective name) {write : ν → Value} {m : SortedMap κ ν}
    (h : ∀ v ∈ m.values, Legible (write v)) :
    Legible (.object (m.toList.map fun e ↦ (name e.1, write e.2))) := by
  refine legible_object (SortedMap.nodup_names hname write m) fun f hf ↦ ?_
  obtain ⟨e, he, rfl⟩ := List.mem_map.1 hf
  exact h e.2 (List.mem_map_of_mem he)

theorem legible_natural {n : Nat} (h : n < wordCount) : Legible (.natural n) :=
  ⟨by omega, by omega⟩

theorem legible_word32 (n : UInt32) : Legible (.word32 n) :=
  legible_natural (n.toNat_lt.trans (by decide))

end Json

/-! ## Typed documents -/

namespace Document

variable {α : Type}

theorem natural?_natural {limit n : Nat} (h : n ≤ limit) :
    (Document.typed (.natural n)).natural? limit = some n := by
  have hbounds : (0 : Int) ≤ n ∧ (n : Int) ≤ limit := by omega
  exact (if_pos hbounds).trans (congrArg some (Int.toNat_natCast n))

theorem word32?_word32 (n : UInt32) : (Document.typed (.word32 n)).word32? = some n := by
  rw [word32?, Value.word32, natural?_natural (Nat.le_of_lt_succ n.toNat_lt)]
  exact congrArg some n.ofNat_toNat

theorem mapM_eq_some {β : Type} {read : β → Option α} {l : List α} {write : α → β}
    (h : ∀ a ∈ l, read (write a) = some a) : (l.map write).mapM read = some l := by
  induction l with
  | nil => rfl
  | cons a l ih =>
    obtain ⟨hfirst, hrest⟩ := List.forall_mem_cons.1 h
    rw [List.map_cons, List.mapM_cons, hfirst, ih hrest]
    rfl

theorem list?_typed {read : Document → Option α} {write : α → Value} {items : List α}
    (h : ∀ a ∈ items, read (.typed (write a)) = some a) :
    (Document.typed (.list (items.map write))).list? read = some items := by
  rw [list?, items?, Option.bind_some, List.map_map]
  exact mapM_eq_some h

theorem list?_texts (items : List String) :
    (Document.typed (.texts items)).list? text? = some items := list?_typed fun _ _ ↦ rfl

theorem eraseDups_of_nodup [BEq α] [LawfulBEq α] {l : List α} (h : l.Nodup) :
    l.eraseDups = l := by
  induction l with
  | nil => rfl
  | cons x xs ih =>
    obtain ⟨hx, hxs⟩ := List.nodup_cons.1 h
    have hothers : xs.filter (fun y ↦ !y == x) = xs := by
      refine List.filter_eq_self.2 fun y hy ↦ ?_
      simpa using fun heq : y = x ↦ hx (heq ▸ hy)
    rw [List.eraseDups_cons, hothers, ih hxs]

/-- The record of the entries of an object. -/
def recordOf (fields : List (String × Value)) : Record :=
  ⟨fields.map fun f ↦ (f.1, .typed f.2), false⟩

/-- A record is read from an object with some of its names. -/
theorem record?_object {names : List String} {fields : List (String × Value)}
    (hknown : ∀ f ∈ fields, f.1 ∈ names) (hdistinct : (fields.map (·.1)).Nodup) :
    (Document.typed (.object fields)).record? names
      = some (recordOf fields) := by
  have hentries : (Document.typed (.object fields)).entries?
      = some (fields.map fun f ↦ (.typed (.text f.1), .typed f.2)) := by
    rw [Value.object, entries?, List.map_map]
    rfl
  have hfields : (fields.map fun f ↦ (Document.typed (.text f.1), Document.typed f.2)).mapM
      (fun e ↦ e.1.text?.map fun name ↦ (name, e.2))
      = some (fields.map fun f ↦ (f.1, .typed f.2)) := by
    have hpairs : fields.map (fun f ↦ (Document.typed (.text f.1), Document.typed f.2))
        = (fields.map fun f ↦ (f.1, Document.typed f.2)).map fun e ↦ (.typed (.text e.1), e.2) := by
      rw [List.map_map]
      rfl
    rw [hpairs]
    exact mapM_eq_some fun _ _ ↦ rfl
  have hknown : (fields.map fun f ↦ (f.1, Document.typed f.2)).filter
      (fun f ↦ names.contains f.1) = fields.map fun f ↦ (f.1, Document.typed f.2) := by
    refine List.filter_eq_self.2 fun e he ↦ ?_
    obtain ⟨f, hf, rfl⟩ := List.mem_map.1 he
    exact List.contains_iff_mem.2 (hknown f hf)
  have hrecord : (Document.typed (.object fields)).record? names
      = (Document.typed (.object fields)).named? names := rfl
  have hall : ((fields.map fun f ↦ (f.1, Document.typed f.2)).map (·.1)).eraseDups
      = (fields.map fun f ↦ (f.1, Document.typed f.2)).map (·.1) := by
    refine eraseDups_of_nodup ?_
    rwa [List.map_map]
  rw [hrecord, named?, hentries, Option.bind_eq_bind, Option.bind_some, hfields]
  dsimp only [Option.bind_eq_bind, Option.bind_some]
  rw [hknown, hall, List.length_map, if_pos rfl, recordOf]

variable {fields : List (String × Value)} {name : String} {v : Value} {a : α}
  {read : Document → Option α}

theorem lookup_recordOf (fields : List (String × Value)) (name : String) :
    (recordOf fields).fields.lookup name = (fields.lookup name).map .typed := by
  induction fields with
  | nil => rfl
  | cons f fields ih =>
    rw [recordOf] at ih ⊢
    rw [List.map_cons, List.lookup_cons, List.lookup_cons, ih]
    split <;> rfl

theorem required_recordOf (hfield : fields.lookup name = some v)
    (hread : read (.typed v) = some a) : (recordOf fields).required name read = some a := by
  rw [Record.required, lookup_recordOf, hfield]
  exact hread

/-- An optional field is read as it was written, also where it was left out. -/
theorem withDefault_field {write : α → Value} {o : Option α} (hfresh : fields.lookup name = none)
    (hread : ∀ a ∈ o, (Document.typed (write a)).isAbsent = false ∧
      read (.typed (write a)) = some a) :
    (recordOf (fields ++ Value.field name write o)).withDefault name none (option? read)
      = some o := by
  rw [Record.withDefault, lookup_recordOf, List.lookup_append, hfresh, Option.none_or]
  cases o with
  | none => rfl
  | some a =>
    obtain ⟨hpresent, hread⟩ := hread a rfl
    have hlookup : (Value.field name write (some a)).lookup name = some (write a) := by
      simp [Value.field]
    rw [hlookup, Option.map_some]
    dsimp only
    rw [option?, hpresent, if_neg Bool.false_ne_true, hread]
    rfl

/-- A map is read back from the object that lists it. -/
theorem readSorted?_object {κ ν : Type} [Ord κ] [Std.TransOrd κ] [Std.LawfulEqOrd κ]
    [DecidableEq κ] {key : Document → Option κ} (name : κ → String)
    {value : Document → Option ν} {write : ν → Value} {m : SortedMap κ ν}
    (hkey : ∀ k ∈ m.keys, key (.typed (.text (name k))) = some k)
    (hvalue : ∀ v ∈ m.values, value (.typed (write v)) = some v) :
    readSorted? key value (.typed (.object (m.toList.map fun e ↦ (name e.1, write e.2))))
      = some m := by
  have hentries : (Document.typed (.object (m.toList.map fun e ↦ (name e.1, write e.2)))).entries?
      = some (m.toList.map fun e ↦ (.typed (.text (name e.1)), .typed (write e.2))) := by
    rw [Value.object, entries?, List.map_map, List.map_map]
    rfl
  have hread : (m.toList.map fun e ↦
        (Document.typed (.text (name e.1)), Document.typed (write e.2))).mapM
      (fun e ↦ do return (← key e.1, ← value e.2)) = some m.toList := by
    refine mapM_eq_some fun e he ↦ ?_
    rw [hkey e.1 (List.mem_map_of_mem he), hvalue e.2 (List.mem_map_of_mem he)]
    rfl
  rw [readSorted?, hentries, Option.bind_eq_bind, Option.bind_some, hread]
  exact congrArg some m.ofList_toList

end Document

/-! ## Numbered and named entries -/

section Maps

variable {ν : Type} {write : ν → Value}

theorem names?_object (fields : List (String × Value)) :
    (Value.object fields).names? = some (fields.map (·.1)) := by
  have hkeys : (fields.map fun f ↦ (Value.text f.1, f.2)).map (·.1)
      = (fields.map (·.1)).map .text := by
    rw [List.map_map, List.map_map]
    rfl
  rw [Value.object, Value.names?, hkeys]
  exact Document.mapM_eq_some fun _ _ ↦ rfl

theorem names?_numbered (write : ν → Value) (m : SortedMap Nat ν) :
    (numbered write m).names? = some (m.keys.map Decimal.text) := by
  rw [numbered, names?_object, SortedMap.keys, List.map_map, List.map_map]
  rfl

theorem names?_namedEntries (write : ν → Value) (m : SortedMap String ν) :
    (namedEntries write m).names? = some m.keys := by
  rw [namedEntries, names?_object, SortedMap.keys, List.map_map]
  rfl

theorem get?_numbered (write : ν → Value) (m : SortedMap Nat ν) (id : Nat) :
    (numbered write m).get? (Decimal.text id) = (m.get? id).map write :=
  SortedMap.get?_object (fun _ _ ↦ Decimal.text_inj) write m id

theorem get?_numbered_eq_some_iff {m : SortedMap Nat ν} {s : String} {w : Value} :
    (numbered write m).get? s = some w ↔
      ∃ id v, m.get? id = some v ∧ Decimal.text id = s ∧ write v = w :=
  SortedMap.get?_object_eq_some_iff fun _ _ ↦ Decimal.text_inj

theorem get?_namedEntries (write : ν → Value) (m : SortedMap String ν) (name : String) :
    (namedEntries write m).get? name = (m.get? name).map write :=
  SortedMap.get?_object Function.injective_id write m name

theorem legible_numbered {m : SortedMap Nat ν}
    (h : ∀ v ∈ m.values, Json.Legible (write v)) : Json.Legible (numbered write m) :=
  Json.legible_entries (fun _ _ ↦ Decimal.text_inj) h

theorem legible_namedEntries {m : SortedMap String ν}
    (h : ∀ v ∈ m.values, Json.Legible (write v)) : Json.Legible (namedEntries write m) :=
  Json.legible_entries Function.injective_id h

theorem readIdKey?_text {id : Nat} (h : id ≤ 65535) :
    readIdKey? (.typed (.text (Decimal.text id))) = some id := by
  have hread : Decimal.read? Counter.last (Decimal.text id).toList = some id := by
    rw [Decimal.text, String.toList_ofList]
    exact Decimal.read?_digits h
  simp [readIdKey?, Document.text?, hread]

theorem readSorted?_numbered {value : Document → Option ν} {m : SortedMap Nat ν}
    (hids : ∀ id ∈ m.keys, id ≤ 65535)
    (hvalue : ∀ v ∈ m.values, value (.typed (write v)) = some v) :
    readSorted? readIdKey? value (.typed (numbered write m)) = some m :=
  Document.readSorted?_object Decimal.text (fun id hid ↦ readIdKey?_text (hids id hid)) hvalue

theorem readSorted?_namedEntries {value : Document → Option ν} {m : SortedMap String ν}
    (hvalue : ∀ v ∈ m.values, value (.typed (write v)) = some v) :
    readSorted? Document.text? value (.typed (namedEntries write m)) = some m :=
  Document.readSorted?_object id (fun _ _ ↦ rfl) hvalue

end Maps

end Interdomain
