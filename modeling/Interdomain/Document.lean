import Interdomain.Yaml.Scalar

/-!
# Documents and typed reading

A declaration comes as a document. In a written document a plain scalar has no type until the place
where it stands asks for one: `007` is a name where a name is expected and no number where a number
is. In a typed document the scalars have their types, and the place has to ask for just that type.
The readers here serve both, and each gives the part of the document in the type that is asked for,
or nothing.
-/

namespace Interdomain

/-- A document before its scalars are given the types of their places. -/
inductive Document where
  /-- A scalar without quotes. -/
  | plain (text : String)
  /-- A scalar in quotes or in a block of its own. -/
  | quoted (text : String)
  | list (items : List Document)
  | mapping (entries : List (Document × Document))
  /-- A part whose scalars have their types. -/
  | typed (value : Value)
  deriving Inhabited

namespace Document

/-! ## Scalars -/

/-- A text: every written scalar is one. -/
def text? : Document → Option String
  | .plain t => some t
  | .quoted t => some t
  | .typed (.text t) => some t
  | _ => none

/-- A text that another function can read. -/
def parsed? {α : Type} (read : String → Option α) (d : Document) : Option α := d.text?.bind read

/-- A natural number up to a limit. -/
def natural? (limit : Nat) : Document → Option Nat
  | .plain t => (Yaml.Scalar.unsigned? t.toList).filter (· ≤ limit)
  | .typed (.integer n) => if 0 ≤ n ∧ n ≤ limit then some n.toNat else none
  | _ => none

def word16? (d : Document) : Option UInt16 := (d.natural? 65535).map UInt16.ofNat

def word32? (d : Document) : Option UInt32 := (d.natural? 4294967295).map UInt32.ofNat

def bool? : Document → Option Bool
  | .plain t => Yaml.Scalar.bool? t
  | .typed (.bool b) => some b
  | _ => none

def isAbsent : Document → Bool
  | .plain t => t.isEmpty || Yaml.Scalar.isNull t
  | .typed .null => true
  | _ => false

/-- An optional part: the absent value is none. -/
def option? {α : Type} (read : Document → Option α) (d : Document) : Option (Option α) :=
  if d.isAbsent then some none else (read d).map some

/-! ## Lists and mappings -/

/-- The items of a list. Nothing at all is an empty list. -/
def items? : Document → Option (List Document)
  | .list items => some items
  | .plain "" => some []
  | .typed (.list items) => some (items.map .typed)
  | _ => none

/-- A list of parts that another function can read. -/
def list? {α : Type} (read : Document → Option α) (d : Document) : Option (List α) :=
  d.items?.bind (·.mapM read)

/-- The entries of a mapping. Nothing at all is an empty mapping. -/
def entries? : Document → Option (List (Document × Document))
  | .mapping entries => some entries
  | .plain "" => some []
  | .typed (.mapping entries) => some (entries.map fun e ↦ (.typed e.1, .typed e.2))
  | _ => none

/-- One of the names of a table. In a typed document the name may also be the only key of a mapping,
with the absent value. -/
def choice? {α : Type} (table : List (String × α)) (d : Document) : Option α :=
  match d with
  | .typed (.mapping [(.text name, .null)]) => List.lookup name table
  | d => d.text?.bind (List.lookup · table)

/-! ## Values -/

/-- How many written lists and mappings may stand inside each other where values are read. -/
def deepest : Nat := 128

mutual

/-- The value of a document where nothing else decides, if no more than so many written lists and
mappings stand inside each other in it. Where keys have to be unique, no two entries of a mapping
have the same key. -/
def value? (uniqueKeys : Bool) (levels : Nat) : Document → Option Value
  | .plain t => Yaml.Scalar.resolve? t
  | .quoted t => some (.text t)
  | .list items =>
    if levels = 0 then none else (itemValues? uniqueKeys (levels - 1) items).map .list
  | .mapping entries =>
    if levels = 0 then none else (entryValues? uniqueKeys (levels - 1) entries).map .mapping
  | .typed v => some v

def itemValues? (uniqueKeys : Bool) (levels : Nat) : List Document → Option (List Value)
  | [] => some []
  | d :: rest => do
    let v ← value? uniqueKeys levels d
    return v :: (← itemValues? uniqueKeys levels rest)

def entryValues? (uniqueKeys : Bool) (levels : Nat) :
    List (Document × Document) → Option (List (Value × Value))
  | [] => some []
  | (k, d) :: rest => do
    let k ← value? uniqueKeys levels k
    let v ← value? uniqueKeys levels d
    let entries ← entryValues? uniqueKeys levels rest
    if uniqueKeys && entries.any (fun e ↦ e.1.same k) then none
    else return (k, v) :: entries

end

/-! ## Records -/

/-- The fields of a record, by name. In a typed document a list gives the fields in their order; it
may leave out fields at the end, but only those that have a default. -/
structure Record where
  /-- The fields that are there. -/
  fields : List (String × Document)
  /-- Whether the fields came as a list. -/
  positional : Bool

/-- The fields of a record with the given names. Other keys are passed over; a name that comes twice
is refused. -/
def named? (names : List String) (d : Document) : Option Record := do
  let entries ← d.entries?
  let fields ← entries.mapM fun e ↦ e.1.text?.map fun name ↦ (name, e.2)
  let known := fields.filter fun f ↦ names.contains f.1
  if (known.map (·.1)).eraseDups.length = known.length then some ⟨known, false⟩ else none

/-- The fields of a record with the given names, or in their order. -/
def record? (names : List String) (d : Document) : Option Record :=
  match d with
  | .typed (.list items) =>
    if items.length ≤ names.length then some ⟨names.zip (items.map .typed), true⟩ else none
  | d => d.named? names

namespace Record

variable {α : Type}

/-- A field that has to be there. -/
def required (r : Record) (name : String) (read : Document → Option α) : Option α :=
  (List.lookup name r.fields).bind read

/-- A field that may be absent. -/
def optional (r : Record) (name : String) (read : Document → Option α) : Option (Option α) :=
  match List.lookup name r.fields with
  | some d => d.option? read
  | none => if r.positional then none else some none

/-- A field with a default. -/
def withDefault (r : Record) (name : String) (default : α) (read : Document → Option α) :
    Option α :=
  match List.lookup name r.fields with
  | some d => read d
  | none => some default

end Record

end Document

end Interdomain
