import Interdomain.Text.ShortestDecimal
import Interdomain.Value

/-!
# Plain scalars

A scalar without quotes may be a null, a truth value, an integer, a floating point number or a
text. Where a field has a type of its own the field decides; elsewhere `Scalar.resolve?` does, and
the same rules tell the printer which texts have to be quoted.
-/

namespace Interdomain.Yaml.Scalar

/-! ## Null and truth values -/

def isNull (t : String) : Bool := t == "null" || t == "Null" || t == "NULL" || t == "~"

def bool? (t : String) : Option Bool :=
  if t == "true" || t == "True" || t == "TRUE" then some true
  else if t == "false" || t == "False" || t == "FALSE" then some false
  else none

/-! ## Integers -/

/-- The value of a digit in some base up to sixteen. -/
def digitIn? (base : Nat) (c : Char) : Option Nat :=
  let d :=
    if '0' ≤ c ∧ c ≤ '9' then c.toNat - 48
    else if 'a' ≤ c ∧ c ≤ 'f' then c.toNat - 87
    else if 'A' ≤ c ∧ c ≤ 'F' then c.toNat - 55
    else base
  if d < base then some d else none

/-- The value of one digit or more in some base. -/
def digitsIn? (base : Nat) : List Char → Option Nat
  | [] => none
  | cs => cs.foldlM (fun n c ↦ (digitIn? base c).map (base * n + ·)) 0

/-- A zero in front of more digits makes a text of them. -/
def isPadded (t : List Char) : Bool :=
  let ds := match t with
    | '-' :: cs => cs
    | '+' :: cs => cs
    | cs => cs
  match ds with
  | '0' :: c :: cs => (c :: cs).all Decimal.isDigit
  | _ => false

/-- A magnitude: digits in base ten, or in base sixteen, eight or two after `0x`, `0o` or `0b`. -/
def magnitude? : List Char → Option Nat
  | '0' :: 'x' :: ds => digitsIn? 16 ds
  | '0' :: 'o' :: ds => digitsIn? 8 ds
  | '0' :: 'b' :: ds => digitsIn? 2 ds
  | ds => if isPadded ds then none else digitsIn? 10 ds

def unsigned? : List Char → Option Nat
  | '+' :: cs => magnitude? cs
  | cs => magnitude? cs

def integer? : List Char → Option Int
  | '-' :: cs => (magnitude? cs).map fun n ↦ -(n : Int)
  | cs => (unsigned? cs).map fun n ↦ (n : Int)

/-- An integer that fits 64 bits, with a sign or without. -/
def fitsWord (n : Int) : Bool := -0x8000000000000000 ≤ n && n < 0x10000000000000000

/-- An integer that fits 128 bits, with a sign or without. -/
def fitsDoubleWord (n : Int) : Bool := 
  -0x80000000000000000000000000000000 ≤ n && n < 0x100000000000000000000000000000000

/-! ## Floating point numbers -/

/-- A floating point number: a finite decimal, an infinity, or no number. -/
def float? (t : List Char) : Option Float :=
  let unsigned := match t with
    | '+' :: cs => cs
    | cs => cs
  let infinity := [".inf".toList, ".Inf".toList, ".INF".toList]
  let notANumber := [".nan".toList, ".NaN".toList, ".NAN".toList]
  if infinity.contains unsigned then some (1.0 / 0.0)
  else if infinity.any (fun i ↦ t == '-' :: i) then some (-1.0 / 0.0)
  else if notANumber.contains t then some (0.0 / 0.0)
  else if t.head? = some '+' ∧ (unsigned.head? = some '+' ∨ unsigned.head? = some '-') then none
  else match ShortestDecimal.read? unsigned with
    | some x => if x.isFinite then some x else none
    | none => none

/-! ## Resolution -/

/-- What a plain scalar says where nothing else decides. An integer beyond 64 bits is refused; one
beyond 128 bits is read as a floating point number. -/
def resolve? (t : String) : Option Value :=
  let cs := t.toList
  if cs.isEmpty || isNull t then some .null
  else match bool? t with
    | some b => some (.bool b)
    | none =>
      match (integer? cs).filter fitsDoubleWord with
      | some n => if fitsWord n then some (.integer n) else none
      | none =>
        if isPadded cs then some (.text t)
        else match float? cs with
          | some x => some (.float x)
          | none => some (.text t)

/-- Whether a text would not be read back as a text if it were written plain. -/
def isAmbiguous (t : String) : Bool :=
  isPadded t.toList || match resolve? t with
    | some (.text _) => false
    | _ => true

end Interdomain.Yaml.Scalar
