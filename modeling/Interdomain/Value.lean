/-!
# Values

A value is what a document says once its scalars have their types. Beacon policies are kept as
values, because only the control service knows what they mean, and the files that describe an AS
are written as values before they become text.
-/

namespace Interdomain

/-- A value of a document. A mapping keeps the order of its entries. -/
inductive Value where
  /-- The absent value. -/
  | null
  /-- A truth value. -/
  | bool (b : Bool)
  /-- A whole number. -/
  | integer (n : Int)
  /-- A number with a point or an exponent. -/
  | float (x : Float)
  | text (s : String)
  /-- A list of values. -/
  | list (items : List Value)
  /-- A mapping from values to values. -/
  | mapping (entries : List (Value × Value))
  deriving Inhabited

namespace Value

/-- A mapping whose keys are texts. -/
def object (fields : List (String × Value)) : Value :=
  .mapping (fields.map fun f ↦ (.text f.1, f.2))

def natural (n : Nat) : Value := .integer n

def word32 (n : UInt32) : Value := natural n.toNat

def texts (items : List String) : Value := .list (items.map .text)

/-- A field of an object, or none for an absent value. -/
def field {α : Type} (name : String) (write : α → Value) : Option α → List (String × Value)
  | none => []
  | some a => [(name, write a)]

/-- The entry of an object under a name. -/
def get? (v : Value) (name : String) : Option Value :=
  match v with
  | .mapping entries => entries.findSome? fun
    | (.text key, value) => if key = name then some value else none
    | _ => none
  | _ => none

/-! ## Equality

Two floating point numbers are the same value when they are equal or both no number. Two mappings
are the same when they have as many entries and each entry of one is an entry of the other, in
whatever order. -/

mutual

/-- Whether two values are the same. -/
def same : Value → Value → Bool
  | .null, .null => true
  | .bool a, .bool b => a == b
  | .integer a, .integer b => a == b
  | .float a, .float b => a == b || (a.isNaN && b.isNaN)
  | .text a, .text b => a == b
  | .list as, .list bs => sameItems as bs
  | .mapping as, .mapping bs => as.length == bs.length && entriesAmong as bs
  | _, _ => false

/-- Whether two lists hold the same values in the same order. -/
def sameItems : List Value → List Value → Bool
  | [], [] => true
  | a :: as, b :: bs => same a b && sameItems as bs
  | _, _ => false

/-- Whether each entry of a list is among those of another. -/
def entriesAmong : List (Value × Value) → List (Value × Value) → Bool
  | [], _ => true
  | (k, a) :: rest, entries =>
    entries.any (fun e ↦ same k e.1 && same a e.2) && entriesAmong rest entries

end

end Value

end Interdomain
