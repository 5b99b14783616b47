import Interdomain.Text.ShortestDecimal
import Interdomain.Value

/-!
# Reading JSON

A JSON text is one value with blanks around it. A number with a point or an exponent is a floating
point number, and so is one beyond 64 bits and minus zero; every other number is an integer. A
floating point number is made of its digits and a power of ten in one step, which gives the nearest
number for up to fifteen digits and powers up to the twenty-second, and one close to it otherwise.
Of two entries of an object with one name the later value stays, at the place of the earlier.
-/

namespace Interdomain.Json

def isSpace (c : Char) : Bool := c == ' ' || c == '\t' || c == '\n' || c == '\r'

def skipSpace (cs : List Char) : List Char := cs.dropWhile isSpace

/-! ## Texts -/

def hexValue? (c : Char) : Option Nat :=
  if '0' ≤ c ∧ c ≤ '9' then some (c.toNat - 48)
  else if 'a' ≤ c ∧ c ≤ 'f' then some (c.toNat - 87)
  else if 'A' ≤ c ∧ c ≤ 'F' then some (c.toNat - 55)
  else none

/-- The value of four hexadecimal digits. -/
def hexWord? (a b c d : Char) : Option Nat := do
  return (((← hexValue? a) * 16 + (← hexValue? b)) * 16 + (← hexValue? c)) * 16 + (← hexValue? d)

/-- The character of a code point, unless it is half of a surrogate pair. -/
def charOf? (n : Nat) : Option Char := if n.isValidChar then some (Char.ofNat n) else none

/-- What a backslash and a letter stand for. -/
def escaped? : Char → Option Char
  | '"' => some '"'
  | '\\' => some '\\'
  | '/' => some '/'
  | 'b' => some '\x08'
  | 'f' => some '\x0c'
  | 'n' => some '\n'
  | 'r' => some '\r'
  | 't' => some '\t'
  | _ => none

/-- Read a text up to its closing quote, with the characters before it in reverse. A character
outside the first plane is a pair of escapes. -/
def readText (before : List Char) : List Char → Option (String × List Char)
  | '"' :: rest => some (String.ofList before.reverse, rest)
  | '\\' :: 'u' :: a :: b :: c :: d :: '\\' :: 'u' :: a' :: b' :: c' :: d' :: rest => do
    let n ← hexWord? a b c d
    if 0xD800 ≤ n ∧ n < 0xDC00 then
      let n' ← hexWord? a' b' c' d'
      if 0xDC00 ≤ n' ∧ n' < 0xE000 then
        let char ← charOf? (0x10000 + (n - 0xD800) * 0x400 + (n' - 0xDC00))
        readText (char :: before) rest
      else none
    else
      let char ← charOf? n
      readText (char :: before) ('\\' :: 'u' :: a' :: b' :: c' :: d' :: rest)
  | '\\' :: 'u' :: a :: b :: c :: d :: rest => do
    let char ← charOf? (← hexWord? a b c d)
    readText (char :: before) rest
  | '\\' :: c :: rest => do
    let char ← escaped? c
    readText (char :: before) rest
  | c :: rest => if c.toNat < 0x20 then none else readText (c :: before) rest
  | [] => none

/-! ## Numbers -/

def isNumberChar (c : Char) : Bool :=
  Decimal.isDigit c || c == '-' || c == '+' || c == '.' || c == 'e' || c == 'E'

/-- How many words of 64 bits there are. -/
def wordCount : Nat := 0x10000000000000000

/-- A number with more digits behind it, as many as fit a word, and the digits that are left. -/
def fitDigits (n : Nat) : List Char → Nat × List Char
  | [] => (n, [])
  | c :: cs =>
    let m := 10 * n + Decimal.digitValue c
    if m < wordCount then fitDigits m cs else (n, c :: cs)

/-- The nearest number to a power of ten, for a power up to the largest that is finite. -/
def powerOfTen (n : Nat) : Float := ShortestDecimal.scale 1 n

/-- The largest finite power of ten. -/
def lastPower : Nat := 308

/-- The number `digits * 10 ^ e`, in one multiplication or division where the power is finite. It
need not be the nearest number if the digits or the power are not exact. A result beyond the largest
number is refused. -/
def approximate? (digits : Nat) (e : Int) : Option Float :=
  let x := ShortestDecimal.scale digits 0
  let y :=
    if digits = 0 then 0.0
    else if 0 ≤ e then x * (if e ≤ lastPower then powerOfTen e.toNat else 1.0 / 0.0)
    else if -e ≤ lastPower then x / powerOfTen (-e).toNat
    else if -e ≤ 2 * lastPower then x / powerOfTen lastPower / powerOfTen (-e - lastPower).toNat
    else 0.0
  if y.isFinite then some y else none

/-- Read a floating point number: the digits before and after its point, as many as fit a word, and
its exponent. -/
def readFloat? (negative : Bool) (whole fraction : List Char) (e : Int) : Option Value := do
  let (before, more) := fitDigits 0 whole
  let (digits, rest) := fitDigits before fraction
  let x ← approximate? digits (e + more.length + rest.length - fraction.length)
  return .float (if negative then -x else x)

/-- Read digits without a leading zero, an optional point with digits, and an optional exponent. -/
def readMagnitude? (negative : Bool) (cs : List Char) : Option Value :=
  let whole := cs.takeWhile Decimal.isDigit
  let rest := cs.dropWhile Decimal.isDigit
  if whole.isEmpty ∨ (1 < whole.length ∧ whole.head? = some '0') then none
  else
    let magnitude := Decimal.value whole
    match rest with
    | [] =>
      if negative then
        if magnitude = 0 ∨ 0x8000000000000000 < magnitude then readFloat? true whole [] 0
        else some (.integer (-magnitude))
      else if magnitude < wordCount then some (.integer magnitude)
      else readFloat? false whole [] 0
    | '.' :: r =>
      let fraction := r.takeWhile Decimal.isDigit
      if fraction.isEmpty then none
      else do
        let e ← ShortestDecimal.readExponent? (r.dropWhile Decimal.isDigit)
        readFloat? negative whole fraction e
    | r => do readFloat? negative whole [] (← ShortestDecimal.readExponent? r)

def readNumber? : List Char → Option Value
  | '-' :: cs => readMagnitude? true cs
  | cs => readMagnitude? false cs

/-! ## Values -/

/-- Put an entry into the entries of an object, in place of one with the same name. -/
def putEntry (entries : List (String × Value)) (name : String) (v : Value) :
    List (String × Value) :=
  if entries.any (·.1 == name) then entries.map fun e ↦ if e.1 == name then (name, v) else e
  else entries ++ [(name, v)]

mutual

/-- Read a value; every call uses up some fuel. -/
def readValue : Nat → List Char → Option (Value × List Char)
  | 0, _ => none
  | fuel + 1, cs =>
    match skipSpace cs with
    | 'n' :: 'u' :: 'l' :: 'l' :: rest => some (.null, rest)
    | 't' :: 'r' :: 'u' :: 'e' :: rest => some (.bool true, rest)
    | 'f' :: 'a' :: 'l' :: 's' :: 'e' :: rest => some (.bool false, rest)
    | '"' :: rest => (readText [] rest).map fun (s, rest) ↦ (.text s, rest)
    | '[' :: rest =>
      match skipSpace rest with
      | ']' :: rest => some (.list [], rest)
      | rest => readItems fuel [] rest
    | '{' :: rest =>
      match skipSpace rest with
      | '}' :: rest => some (.mapping [], rest)
      | rest => readEntries fuel [] rest
    | cs => do
      let v ← readNumber? (cs.takeWhile isNumberChar)
      return (v, cs.dropWhile isNumberChar)

/-- Read the items of a list after those that are there, in reverse. -/
def readItems : Nat → List Value → List Char → Option (Value × List Char)
  | 0, _, _ => none
  | fuel + 1, before, cs =>
    match readValue fuel cs with
    | none => none
    | some (v, rest) =>
      match skipSpace rest with
      | ',' :: rest => readItems fuel (v :: before) rest
      | ']' :: rest => some (.list (v :: before).reverse, rest)
      | _ => none

/-- Read the entries of an object after those that are there. -/
def readEntries : Nat → List (String × Value) → List Char → Option (Value × List Char)
  | 0, _, _ => none
  | fuel + 1, before, cs =>
    match skipSpace cs with
    | '"' :: rest =>
      match readText [] rest with
      | none => none
      | some (name, rest) =>
        match skipSpace rest with
        | ':' :: rest =>
          match readValue fuel rest with
          | none => none
          | some (v, rest) =>
            let entries := putEntry before name v
            match skipSpace rest with
            | ',' :: rest => readEntries fuel entries rest
            | '}' :: rest => some (.object entries, rest)
            | _ => none
        | _ => none
    | _ => none

end

/-- Read a text that is one JSON value. Every call reads a character or more, so the length of the
text is fuel enough. -/
def read? (s : String) : Option Value :=
  let cs := s.toList
  match readValue (2 * cs.length + 1) cs with
  | some (v, rest) => if (skipSpace rest).isEmpty then some v else none
  | none => none

end Interdomain.Json
