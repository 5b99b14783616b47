import Interdomain.Duration
import Interdomain.Text.Blank

/-!
# Durations as sums of spans

In declarations a duration is a sum of spans such as `1h 30m` or `1.5s`. Reading goes through the
characters once with a small state, `Spans.Scan`; what does not fit 64 bits on the way is refused,
and so is a fraction that is no whole number of the unit's steps. Writing breaks a duration into
years, months, days and smaller parts and leaves out the empty ones.
-/

namespace Interdomain.Spans

/-! ## Units -/

/-- The unit of a span: how long it is, and in which steps a fraction of it is counted. -/
structure Timescale where
  steps : Nat
  /-- Whether a step is a second; otherwise it is a nanosecond. -/
  inSeconds : Bool
  /-- The length in steps of a fraction, or `0` where no fraction is allowed. -/
  fractionSteps : Nat
  /-- Whether the steps of a fraction are seconds. -/
  fractionInSeconds : Bool

/-- The units by name. A month is 30.44 days and a year 365.25 days. -/
def timescale? : String → Option Timescale
  | "nanos" | "nsec" | "ns" => some ⟨1, false, 0, false⟩
  | "usec" | "us" | "µs" => some ⟨1000, false, 1000, false⟩
  | "millis" | "msec" | "ms" => some ⟨1000000, false, 1000000, false⟩
  | "seconds" | "second" | "secs" | "sec" | "s" => some ⟨1, true, 1000000000, false⟩
  | "minutes" | "minute" | "min" | "mins" | "m" => some ⟨60, true, 60000000000, false⟩
  | "hours" | "hour" | "hr" | "hrs" | "h" => some ⟨3600, true, 3600, true⟩
  | "days" | "day" | "d" => some ⟨86400, true, 86400, true⟩
  | "weeks" | "week" | "wk" | "wks" | "w" => some ⟨604800, true, 604800, true⟩
  | "months" | "month" | "M" => some ⟨2630016, true, 2630016, true⟩
  | "years" | "year" | "yr" | "yrs" | "y" => some ⟨31557600, true, 31557600, true⟩
  | _ => none

/-! ## Reading -/

def word? (n : Nat) : Option Nat := if n < 0x10000000000000000 then some n else none

/-- A fraction: the digits after the point and the power of ten below them. -/
structure Fraction where
  /-- The digits after the point. -/
  numerator : Nat
  /-- The power of ten. -/
  denominator : Nat

/-- Where the reader is between two characters. -/
inductive Scan where
  /-- Before the first span. -/
  | start
  /-- After a span. -/
  | between
  /-- In a number. -/
  | whole (n : Nat)
  /-- After the point of a number. -/
  | fraction (n : Nat) (f : Fraction)
  /-- In the name of a unit, kept with its last letter first. -/
  | unit (n : Nat) (f : Option Fraction) (letters : List Char)

/-- The letters that names of units have. -/
def isUnitLetter (c : Char) : Bool :=
  ('a' ≤ c && c ≤ 'z') || ('A' ≤ c && c ≤ 'Z') || c == 'µ'

/-- Add steps to a sum; nanoseconds, seconds and their carry each have to fit 64 bits. -/
def addSteps (sum : Duration) (steps : Nat) (inSeconds : Bool) : Option Duration := do
  let nanoseconds ← word? (sum.subsecond + if inSeconds then 0 else steps)
  Duration.ofParts? (sum.seconds + if inSeconds then steps else 0) nanoseconds

/-- Add a span to a sum. A fraction has to be a whole number of steps. -/
def addSpan (sum : Duration) (n : Nat) (f : Option Fraction) (letters : List Char) :
    Option Duration := do
  let unit ← timescale? (String.ofList letters.reverse)
  let sum ← addSteps sum (← word? (n * unit.steps)) unit.inSeconds
  match f with
  | none => return sum
  | some f =>
    let steps ← word? (f.numerator * unit.fractionSteps)
    if unit.fractionSteps = 0 ∨ steps % f.denominator ≠ 0 then none
    else addSteps sum (steps / f.denominator) unit.fractionInSeconds

/-- One character more. -/
def advance (state : Duration × Scan) (c : Char) : Option (Duration × Scan) :=
  let (sum, scan) := state
  let digit := Decimal.digitValue c
  match scan with
  | .start | .between =>
    if Decimal.isDigit c then some (sum, .whole digit)
    else if isBlank c then some (sum, scan)
    else none
  | .whole n =>
    if Decimal.isDigit c then (word? (10 * n + digit)).map fun n ↦ (sum, .whole n)
    else if isBlank c then some (sum, scan)
    else if isUnitLetter c then some (sum, .unit n none [c])
    else if c = '.' then some (sum, .fraction n ⟨0, 1⟩)
    else none
  | .fraction n f =>
    if Decimal.isDigit c then do
      let denominator ← word? (10 * f.denominator)
      let numerator ← word? (10 * f.numerator + digit)
      return (sum, .fraction n ⟨numerator, denominator⟩)
    else if isBlank c then some (sum, scan)
    else if isUnitLetter c ∧ f.denominator ≠ 1 then some (sum, .unit n (some f) [c])
    else none
  | .unit n f letters =>
    if isUnitLetter c then some (sum, .unit n f (c :: letters))
    else if Decimal.isDigit c then (addSpan sum n f letters).map fun sum ↦ (sum, .whole digit)
    else if isBlank c then (addSpan sum n f letters).map fun sum ↦ (sum, .between)
    else none

/-- The sum at the end of the text. -/
def finish : Duration × Scan → Option Duration
  | (sum, .between) => some sum
  | (sum, .unit n f letters) => addSpan sum n f letters
  | _ => none

/-- Read a sum of spans. A lone `0` needs no unit. -/
def read? (s : String) : Option Duration :=
  if s = "0" then some .zero
  else (s.toList.foldlM advance (.zero, .start)).bind finish

/-! ## Writing -/

/-- A part that is left out when it is zero. -/
def part (n : Nat) (name : String) : List String :=
  if n = 0 then [] else [Decimal.text n ++ name]

/-- A part whose name takes an `s` in the plural. -/
def pluralPart (n : Nat) (name : String) : List String :=
  part n (if n = 1 then name else name ++ "s")

/-- The sum of spans of a duration, largest first. -/
def text (d : Duration) : String :=
  if d.nanoseconds = 0 then "0s"
  else
    let inYear := d.seconds % 31557600
    let inMonth := inYear % 2630016
    let inDay := inMonth % 86400
    String.intercalate " " <|
      pluralPart (d.seconds / 31557600) "year" ++ pluralPart (inYear / 2630016) "month" ++
      pluralPart (inMonth / 86400) "day" ++ part (inDay / 3600) "h" ++
      part (inDay % 3600 / 60) "m" ++ part (inDay % 60) "s" ++
      part (d.subsecond / 1000000) "ms" ++ part (d.subsecond / 1000 % 1000) "us" ++
      part (d.subsecond % 1000) "ns"

end Interdomain.Spans
