import Interdomain.Yaml.Lines
import Interdomain.Yaml.Scalar

/-!
# YAML text of values

Values are written in block style: one entry per line, two spaces per level, and lists at the
indentation of the key above them. A text is written plain where it would be read back as the same
text, between single quotes where those are enough, and between double quotes with escapes
otherwise; a text of several lines is written as a literal block. Lines are never folded. A mapping
of one entry is not written as the key of a mapping of one entry, so values in which that happens
have no text.
-/

namespace Interdomain.Yaml

/-! ## Characters -/

/-- The characters that need no escape: all but the control characters, the byte order mark and the
two noncharacters at the end of the first plane. -/
def isPrintable (c : Char) : Bool :=
  let n := c.toNat
  n == 0x0A || (0x20 ≤ n && n ≤ 0x7E) || (0xA0 ≤ n && n ≤ 0xFFFD && n != 0xFEFF) || 0x10000 ≤ n

/-- Whether some neighbours in a text are so related. -/
def anyNeighbours (related : Char → Char → Bool) : List Char → Bool
  | a :: b :: rest => related a b || anyNeighbours related (b :: rest)
  | _ => false

/-! ## Styles -/

/-- Whether a text has a part that would be an indicator if the text were written plain. -/
def hasIndicator (cs : List Char) : Bool :=
  let gapAfter (rest : List Char) : Bool := rest.head?.all isGap
  let first : Bool := match cs with
    | c :: rest =>
      "#,[]\x7b\x7d&*!|>'\"%@\x60".toList.contains c ||
        ((c == '?' || c == ':' || c == '-') && gapAfter rest)
    | [] => false
  "---".toList.isPrefixOf cs || "...".toList.isPrefixOf cs || first ||
    cs.getLast? == some ':' ||
    anyNeighbours (fun a b ↦ (a == ':' && isGap b) || (isGap a && b == '#')) cs

/-- How a scalar is written. -/
inductive Style where
  | plain
  | singleQuoted
  | doubleQuoted
  | literal
  deriving DecidableEq

/-- Whether a text has several lines, which the key of an entry on one line must not have. -/
def isMultiline (cs : List Char) : Bool := cs.any isBreak

/-- The style of a text. A space before a line break, and a character that needs an escape, can only
be written between double quotes; so can a space after a break, outside literal blocks. -/
def styleOf (s : String) : Style :=
  let cs := s.toList
  let edge (c : Char) : Bool := c == ' ' || isBreak c
  let escapes := cs.any (!isPrintable ·) || anyNeighbours (fun a b ↦ a == ' ' && isBreak b) cs
  if escapes then .doubleQuoted
  else if cs.contains '\n' then
    if cs.getLast? == some ' ' then .doubleQuoted else .literal
  else if anyNeighbours (fun a b ↦ isBreak a && b == ' ') cs then .doubleQuoted
  else if Scalar.isAmbiguous s || cs.head?.any edge || cs.getLast?.any edge || isMultiline cs ||
      hasIndicator cs then .singleQuoted
  else .plain

/-! ## Scalars -/

def spaces (n : Nat) : List Char := List.replicate n ' '

/-- A digit in base sixteen, in upper case. -/
def upperHex (n : Nat) : Char := if n < 10 then Char.ofNat (48 + n) else Char.ofNat (55 + n)

def hexDigits : Nat → Nat → List Char
  | 0, _ => []
  | width + 1, n => hexDigits width (n / 16) ++ [upperHex (n % 16)]

/-- A character between double quotes. -/
def escape (c : Char) : List Char :=
  if isPrintable c && !isBreak c && c != '"' && c != '\\' then [c]
  else
    let n := c.toNat
    let named (letter : Char) : List Char := ['\\', letter]
    match n with
    | 0x00 => named '0'
    | 0x07 => named 'a'
    | 0x08 => named 'b'
    | 0x09 => named 't'
    | 0x0A => named 'n'
    | 0x0B => named 'v'
    | 0x0C => named 'f'
    | 0x0D => named 'r'
    | 0x1B => named 'e'
    | 0x22 => named '"'
    | 0x5C => named '\\'
    | 0x85 => named 'N'
    | 0x2028 => named 'L'
    | 0x2029 => named 'P'
    | n =>
      if n ≤ 0xFF then '\\' :: 'x' :: hexDigits 2 n
      else if n ≤ 0xFFFF then '\\' :: 'u' :: hexDigits 4 n
      else '\\' :: 'U' :: hexDigits 8 n

/-- The lines of a text, each after some spaces. -/
def indented (indent : Nat) (atStart : Bool) : List Char → List Char
  | [] => []
  | c :: rest =>
    if isBreak c then c :: indented indent true rest
    else (if atStart then spaces indent else []) ++ c :: indented indent false rest

/-- A text between single quotes, with every single quote doubled. -/
def singleQuoted (indent : Nat) (cs : List Char) : List Char :=
  let doubled := cs.flatMap fun c ↦ if c == '\'' then ['\'', '\''] else [c]
  let edge := if cs.getLast?.any isBreak then spaces indent else []
  '\'' :: indented indent false doubled ++ edge ++ ['\'']

/-- The sign after the bar of a literal block that tells how its last line ends. -/
def chomping (cs : List Char) : List Char :=
  match cs.reverse with
  | [] => ['-']
  | c :: before =>
    if !isBreak c then ['-']
    else match before with
      | [] => ['+']
      | d :: _ => if isBreak d then ['+'] else []

def literal (indent : Nat) (cs : List Char) : List Char :=
  let hint := if cs.head?.any fun c ↦ c == ' ' || isBreak c then ['2'] else []
  '|' :: hint ++ chomping cs ++ '\n' :: indented indent true cs

def scalarText (indent : Nat) (s : String) : List Char :=
  let cs := s.toList
  match styleOf s with
  | .plain => cs
  | .singleQuoted => singleQuoted indent cs
  | .doubleQuoted => '"' :: cs.flatMap escape ++ ['"']
  | .literal => literal indent cs

/-- The text of a floating point number. A positive exponent has no sign. -/
def floatText (x : Float) : String :=
  if x.isNaN then ".nan"
  else if x.isInf then if x < 0 then "-.inf" else ".inf"
  else ShortestDecimal.text [] x

/-- A value that is written in one piece, or nothing for one that is written entry by entry. -/
def piece? (indent : Nat) : Value → Option (List Char)
  | .null => some "null".toList
  | .bool b => some (if b then "true" else "false").toList
  | .integer n => some (Decimal.signedText n).toList
  | .float x => some (floatText x).toList
  | .text s => some (scalarText indent s)
  | .list [] => some ['[', ']']
  | .mapping [] => some ['\x7b', '\x7d']
  | .list _ => none
  | .mapping _ => none

/-- A piece with the end of its last line. -/
def endLine (piece : List Char) : String :=
  String.ofList (if piece.getLast?.any isBreak then piece else piece ++ ['\n'])

/-! ## Blocks -/

/-- Whether a key stands on the line of its value: a piece of one line that is not too long. -/
def isSimpleKey : Value → Bool
  | .text s => !isMultiline s.toList && s.utf8ByteSize ≤ 128
  | .list (_ :: _) => false
  | .mapping (_ :: _) => false
  | _ => true

/-- The start of a line: nothing where the line has begun, and else its indentation. -/
def lineStart (indent : Nat) (begun : Bool) : String :=
  if begun then "" else String.ofList (spaces indent)

mutual

/-- A value on a line that has begun; its further lines have some indentation. -/
def block (indent : Nat) : Value → String
  | .list (v :: rest) => blockItems indent true (v :: rest)
  | .mapping (e :: rest) => blockEntries indent true (e :: rest)
  | v => endLine ((piece? indent v).getD [])

/-- A value after its key and a colon. -/
def afterKey (indent : Nat) : Value → String
  | .list (v :: rest) => "\n" ++ blockItems indent false (v :: rest)
  | .mapping (e :: rest) => "\n" ++ blockEntries (indent + 2) false (e :: rest)
  | v => " " ++ endLine ((piece? (indent + 2) v).getD [])

/-- The items of a list, each from a line of its own. -/
def blockItems (indent : Nat) (begun : Bool) : List Value → String
  | [] => ""
  | v :: rest =>
    lineStart indent begun ++ "- " ++ block (indent + 2) v ++ blockItems indent false rest

/-- The entries of a mapping, each from a line of its own. -/
def blockEntries (indent : Nat) (begun : Bool) : List (Value × Value) → String
  | [] => ""
  | (k, v) :: rest =>
    let written :=
      if isSimpleKey k then
        String.ofList ((piece? indent k).getD []) ++ ":" ++ afterKey indent v
      else
        "? " ++ block (indent + 2) k ++ lineStart indent false ++ ": " ++ block (indent + 2) v
    lineStart indent begun ++ written ++ blockEntries indent false rest

end

def text (v : Value) : String :=
  match piece? 2 v with
  | some piece => endLine piece
  | none => block 0 v

/-! ## Values without a text -/

def isSingle : Value → Bool
  | .mapping [_] => true
  | _ => false

/-- Whether entries are one entry whose key is one entry. -/
def isSingleInSingle : List (Value × Value) → Bool
  | [(k, _)] => isSingle k
  | _ => false

mutual

/-- Whether nowhere in a value a mapping of one entry is the key of a mapping of one entry. -/
def isWritable : Value → Bool
  | .list items => areItemsWritable items
  | .mapping entries => !isSingleInSingle entries && areEntriesWritable entries
  | _ => true

def areItemsWritable : List Value → Bool
  | [] => true
  | v :: rest => isWritable v && areItemsWritable rest

/-- Whether all keys and values of entries can be written. -/
def areEntriesWritable : List (Value × Value) → Bool
  | [] => true
  | (k, v) :: rest => isWritable k && isWritable v && areEntriesWritable rest

end

/-- A value as a document, if it can be written. -/
def text? (v : Value) : Option String := if isWritable v then some (text v) else none

end Interdomain.Yaml
