import Interdomain.Text.Decimal

/-!
# Durations

A duration is a whole number of nanoseconds below `2 ^ 64` seconds. The control service reads it
as one integer with one unit, and `Duration.exactText` writes it with the largest unit that
represents it exactly.
-/

namespace Interdomain

def nanosecondsPerSecond : Nat := 1000000000

/-- A length of time. -/
@[ext] structure Duration where
  nanoseconds : Nat
  /-- The whole seconds fit in 64 bits. -/
  nanoseconds_lt : nanoseconds < 0x10000000000000000 * nanosecondsPerSecond
  deriving DecidableEq

namespace Duration

def zero : Duration := ⟨0, by decide⟩

/-- The duration of so many seconds and nanoseconds, if it is short enough. -/
def ofParts? (seconds nanoseconds : Nat) : Option Duration :=
  if h : seconds * nanosecondsPerSecond + nanoseconds <
      0x10000000000000000 * nanosecondsPerSecond then
    some ⟨_, h⟩
  else none

def seconds (d : Duration) : Nat := d.nanoseconds / nanosecondsPerSecond

/-- The nanoseconds beyond the whole seconds. -/
def subsecond (d : Duration) : Nat := d.nanoseconds % nanosecondsPerSecond

/-! ## One integer, one unit -/

/-- The units by size, largest first, with their length in nanoseconds. -/
def units : List (String × Nat) :=
  [("h", 3600000000000), ("m", 60000000000), ("s", 1000000000), ("ms", 1000000), ("us", 1000),
    ("ns", 1)]

/-- A duration as one integer and the largest unit that divides it; the empty one is `0s`. -/
def exactText (d : Duration) : String :=
  if d.nanoseconds = 0 then "0s"
  else match units.find? (fun u ↦ d.nanoseconds % u.2 == 0) with
    | some (name, size) => Decimal.text (d.nanoseconds / size) ++ name
    | none => Decimal.text d.nanoseconds ++ "ns"

end Duration

end Interdomain
