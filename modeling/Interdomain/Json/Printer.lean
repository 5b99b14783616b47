import Interdomain.Text.ShortestDecimal
import Interdomain.Value

/-!
# JSON text of values

A value is written on one line or, for files, on many: two spaces per level, one entry per line,
and nothing between the brackets of an empty list or mapping. Both printers append to a text, so a
long list costs no more than its length.
-/

namespace Interdomain.Json

/-! ## Scalars -/

def hexDigit (n : Nat) : Char := if n < 10 then Char.ofNat (48 + n) else Char.ofNat (87 + n)

/-- A character of a quoted text. Only the quote, the backslash and control characters are
escaped. -/
def escape (c : Char) : List Char :=
  match c with
  | '"' => ['\\', '"']
  | '\\' => ['\\', '\\']
  | '\x08' => ['\\', 'b']
  | '\x0c' => ['\\', 'f']
  | '\n' => ['\\', 'n']
  | '\r' => ['\\', 'r']
  | '\t' => ['\\', 't']
  | c =>
    if c.toNat < 0x20 then ['\\', 'u', '0', '0', hexDigit (c.toNat / 16), hexDigit (c.toNat % 16)]
    else [c]

/-- A text between quotes. -/
def quote (s : String) : String := "\"" ++ String.ofList (s.toList.flatMap escape) ++ "\""

/-- A finite number as its shortest decimal, with a sign before every exponent; what is no finite
number is written `null`. -/
def floatText (x : Float) : String := if x.isFinite then ShortestDecimal.text ['+'] x else "null"

/-- The text of a key: names of objects are texts, and a scalar in their place is quoted. Other
values are no keys, see `isWritable`. -/
def keyText : Value → String
  | .text s => quote s
  | .bool b => if b then "\"true\"" else "\"false\""
  | .integer n => "\"" ++ Decimal.signedText n ++ "\""
  | .float x => "\"" ++ floatText x ++ "\""
  | _ => "\"\""

/-- Whether a value may be a key: a text, a truth value or a finite number. -/
def isKey : Value → Bool
  | .text _ => true
  | .bool _ => true
  | .integer _ => true
  | .float x => x.isFinite
  | _ => false

mutual

/-- Whether all keys in a value may be keys. -/
def isWritable : Value → Bool
  | .list items => areItemsWritable items
  | .mapping entries => areEntriesWritable entries
  | _ => true

def areItemsWritable : List Value → Bool
  | [] => true
  | v :: rest => isWritable v && areItemsWritable rest

/-- Whether all keys of some entries, and in their values, may be keys. -/
def areEntriesWritable : List (Value × Value) → Bool
  | [] => true
  | (k, v) :: rest => isKey k && isWritable v && areEntriesWritable rest

end

/-! ## One line -/

mutual

/-- Append a value to a text. -/
def append (out : String) : Value → String
  | .null => out ++ "null"
  | .bool b => out ++ if b then "true" else "false"
  | .integer n => out ++ Decimal.signedText n
  | .float x => out ++ floatText x
  | .text s => out ++ quote s
  | .list items => appendItems (out ++ "[") "" items ++ "]"
  | .mapping entries => appendEntries (out ++ "\x7b") "" entries ++ "\x7d"

/-- Append the items of a list, each after a separator. -/
def appendItems (out sep : String) : List Value → String
  | [] => out
  | v :: rest => appendItems (append (out ++ sep) v) "," rest

/-- Append the entries of a mapping, each after a separator. -/
def appendEntries (out sep : String) : List (Value × Value) → String
  | [] => out
  | (k, v) :: rest => appendEntries (append (out ++ sep ++ keyText k ++ ":") v) "," rest

end

def text (v : Value) : String := append "" v

/-! ## Many lines -/

/-- The start of a line at some depth. -/
def lineBreak (depth : Nat) : String := "\n" ++ String.ofList (List.replicate (2 * depth) ' ')

mutual

/-- Append a value at some depth. -/
def appendPretty (depth : Nat) (out : String) : Value → String
  | .list [] => out ++ "[]"
  | .list items => appendPrettyItems (depth + 1) (out ++ "[") "" items ++ lineBreak depth ++ "]"
  | .mapping [] => out ++ "\x7b\x7d"
  | .mapping entries =>
    appendPrettyEntries (depth + 1) (out ++ "\x7b") "" entries ++ lineBreak depth ++ "\x7d"
  | .null => append out .null
  | .bool b => append out (.bool b)
  | .integer n => append out (.integer n)
  | .float x => append out (.float x)
  | .text s => append out (.text s)

/-- Append the items of a list, one per line. -/
def appendPrettyItems (depth : Nat) (out sep : String) : List Value → String
  | [] => out
  | v :: rest =>
    appendPrettyItems depth (appendPretty depth (out ++ sep ++ lineBreak depth) v) "," rest

/-- Append the entries of a mapping, one per line. -/
def appendPrettyEntries (depth : Nat) (out sep : String) : List (Value × Value) → String
  | [] => out
  | (k, v) :: rest =>
    let start := out ++ sep ++ lineBreak depth ++ keyText k ++ ": "
    appendPrettyEntries depth (appendPretty depth start v) "," rest

end

/-- A value on many lines, without a line break at the end. -/
def pretty (v : Value) : String := appendPretty 0 "" v

end Interdomain.Json
