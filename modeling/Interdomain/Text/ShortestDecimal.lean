import Interdomain.Text.Decimal

/-!
# Shortest decimals of binary floating point numbers

A finite number of double precision is `m * 2 ^ q`. The decimals that read back as it fill an
interval around it, and the text of the number is the shortest decimal of that interval, the one
nearest to the number where there are two. All arithmetic is on natural numbers: the interval and
the decimal grid are compared after multiplying out the powers of two and of ten.
-/

namespace Interdomain.ShortestDecimal

/-! ## The interval of a number -/

/-- A positive finite number with the interval of the reals that round to it. All three bounds are
in units of `num / den`. -/
structure Interval where
  /-- The lower end. -/
  low : Nat
  /-- The number itself. -/
  mid : Nat
  /-- The upper end. -/
  high : Nat
  /-- The numerator of the unit. -/
  num : Nat
  /-- The denominator of the unit. -/
  den : Nat
  /-- Whether the ends round to the number. -/
  closed : Bool

/-- The interval of the number with the given exponent and fraction fields. Below a power of two the
neighbours are half as far apart. -/
def Interval.ofFields (exponent fraction : Nat) : Interval :=
  let m := if exponent = 0 then fraction else fraction + 0x10000000000000
  let e := if exponent = 0 then 1 else exponent
  { low := if fraction = 0 ∧ 1 < exponent then 4 * m - 1 else 4 * m - 2
    mid := 4 * m
    high := 4 * m + 2
    num := Nat.pow 2 (e - 1077)
    den := Nat.pow 2 (1077 - e)
    closed := m % 2 = 0 }

/-! ## The decimal grid -/

/-- The numerator and the denominator of a power of ten. -/
def powerOfTen (e : Int) : Nat × Nat := (Nat.pow 10 e.toNat, Nat.pow 10 (-e).toNat)

/-- Whether a decimal `digits * 10 ^ e` lies in the interval. -/
def Interval.holds (i : Interval) (digits : Nat) (e : Int) : Bool :=
  let (up, down) := powerOfTen e
  let x := digits * up * i.den
  let low := i.low * i.num * down
  let high := i.high * i.num * down
  if i.closed then low ≤ x && x ≤ high else low < x && x < high

/-- The exponent of the leading decimal digit of the number. -/
def Interval.magnitude (i : Interval) : Int :=
  let whole := i.mid * i.num / i.den
  if whole = 0 then
    match (List.range 400).find? (fun t ↦ i.den ≤ i.mid * i.num * Nat.pow 10 t) with
    | some t => -t
    | none => -400
  else ((Decimal.digits whole).length : Int) - 1

/-- The decimal with a given number of digits in the interval, if there is one: of the neighbours of
the number on the grid the nearer one, and at equal distance the even one. -/
def Interval.withDigits? (i : Interval) (n : Nat) : Option (Nat × Int) :=
  let e := i.magnitude - (n : Int) + 1
  let (up, down) := powerOfTen e
  let x := i.mid * i.num * down
  let step := up * i.den
  let below := x / step
  let rest := x % step
  let nearer := if 2 * rest < step ∨ (2 * rest = step ∧ below % 2 = 0) then below else below + 1
  let farther := if nearer = below then below + 1 else below
  if i.holds nearer e then some (nearer, e)
  else if i.holds farther e then some (farther, e)
  else none

/-- The same decimal without zeros at the end of its digits. -/
def strip (digits : Nat) (e : Int) : Nat × Int :=
  if h : digits = 0 ∨ digits % 10 ≠ 0 then (digits, e) else strip (digits / 10) (e + 1)
termination_by digits
decreasing_by omega

/-- The shortest decimal of the interval, as digits and a power of ten. Seventeen digits always
suffice; a neighbour on the grid may be a power of ten. -/
def Interval.shortest (i : Interval) : Nat × Int :=
  match (List.range 17).findSome? (fun n ↦ i.withDigits? (n + 1)) with
  | some (digits, e) => strip digits e
  | none => (0, 0)

/-! ## Text -/

/-- A decimal as a text. From `10 ^ -5` up to `10 ^ 16` the digits stand in their places, with `.0`
after a whole number; beyond, they are followed by an exponent. `plus` stands before a positive
exponent. -/
def place (plus : List Char) (digits : Nat) (e : Int) : String :=
  let ds := Decimal.digits digits
  let point := (ds.length : Int) + e
  let zeros (n : Int) : List Char := List.replicate n.toNat '0'
  String.ofList <|
    if 0 ≤ e ∧ point ≤ 16 then ds ++ zeros e ++ ['.', '0']
    else if 0 < point ∧ point ≤ 16 then
      ds.take point.toNat ++ '.' :: ds.drop point.toNat
    else if -5 < point ∧ point ≤ 0 then '0' :: '.' :: (zeros (-point) ++ ds)
    else
      let sign := if 0 < point then plus else []
      let exponent := 'e' :: (sign ++ (Decimal.signedText (point - 1)).toList)
      match ds with
      | [d] => d :: exponent
      | d :: rest => d :: '.' :: (rest ++ exponent)
      | [] => exponent

/-- The text of a finite number, with some sign before positive exponents. -/
def text (plus : List Char) (x : Float) : String :=
  let bits := x.toBits.toNat
  let sign := if bits / 0x8000000000000000 = 1 then "-" else ""
  let exponent := bits / 0x10000000000000 % 0x800
  let fraction := bits % 0x10000000000000
  if exponent = 0 ∧ fraction = 0 then sign ++ "0.0"
  else
    let (digits, e) := (Interval.ofFields exponent fraction).shortest
    sign ++ place plus digits e

/-! ## Reading -/

/-- The number nearest to `mantissa * 10 ^ e`. Far outside the range of exponents the power is not
formed. -/
def scale (mantissa : Nat) (e : Int) : Float :=
  if mantissa = 0 then 0.0
  else if 400 < e then 1.0 / 0.0
  else if e + (Decimal.digits mantissa).length < -400 then 0.0
  else Float.ofScientific mantissa (e < 0) e.natAbs

/-- The exponent part of a number: nothing, or `e` with an optional sign and digits. -/
def readExponent? : List Char → Option Int
  | [] => some 0
  | c :: cs =>
    if c = 'e' ∨ c = 'E' then
      let magnitude (ds : List Char) : Option Nat :=
        if Decimal.isNumeral ds then some (Decimal.value ds) else none
      match cs with
      | '-' :: ds => (magnitude ds).map fun n ↦ -(n : Int)
      | '+' :: ds => (magnitude ds).map fun n ↦ (n : Int)
      | ds => (magnitude ds).map fun n ↦ (n : Int)
    else none

/-- Read digits with an optional point among or around them and an optional exponent. -/
def readMagnitude? (cs : List Char) : Option Float :=
  let whole := cs.takeWhile Decimal.isDigit
  let rest := cs.dropWhile Decimal.isDigit
  let (fraction, rest) :=
    match rest with
    | '.' :: r => (r.takeWhile Decimal.isDigit, r.dropWhile Decimal.isDigit)
    | r => ([], r)
  if whole.isEmpty ∧ fraction.isEmpty then none
  else do
    let e ← readExponent? rest
    return scale (Decimal.value (whole ++ fraction)) (e - fraction.length)

/-- Read a number with an optional sign. The result may be infinite. -/
def read? : List Char → Option Float
  | '-' :: cs => (readMagnitude? cs).map fun x ↦ -x
  | '+' :: cs => readMagnitude? cs
  | cs => readMagnitude? cs

end Interdomain.ShortestDecimal
