import Interdomain.Collection.SortedMap
import Interdomain.Counter
import Interdomain.Document
import Interdomain.Text.Decimal

/-!
# Maps as objects

A map with keys in order is written as an object that lists its entries. The keys are names, or
numbers of 16 bits that are written as numerals.
-/

namespace Interdomain

/-- Read the number that is the key of an entry: its numeral, without leading zeros. -/
def readIdKey? (d : Document) : Option Nat := do
  let name ← d.text?
  let id ← Decimal.read? Counter.last name.toList
  if Decimal.text id = name then some id else none

/-- Read a mapping with keys in order. -/
def readSorted? {κ ν : Type} [Ord κ] [Std.TransOrd κ] [Std.LawfulEqOrd κ]
    (key : Document → Option κ) (value : Document → Option ν) (d : Document) :
    Option (SortedMap κ ν) := do
  let entries ← (← d.entries?).mapM fun e ↦ do return (← key e.1, ← value e.2)
  return .ofList entries

/-- The numbered entries of a map as a value. -/
def numbered {ν : Type} (write : ν → Value) (m : SortedMap Nat ν) : Value :=
  .object (m.toList.map fun e ↦ (Decimal.text e.1, write e.2))

/-- The named entries of a map as a value. -/
def namedEntries {ν : Type} (write : ν → Value) (m : SortedMap String ν) : Value :=
  .object (m.toList.map fun e ↦ (e.1, write e.2))

end Interdomain
