import Interdomain.Text.Decimal
import Interdomain.Yaml.Lines

/-!
# Block texts

A text in a block of lines starts after a bar or a greater-than sign. The indentation of the block
is given in its header or found from its first line. After a bar the line breaks stay; after a
greater-than sign a break between two lines that do not start with a blank is folded. The header
tells what happens to the breaks at the end: they are all dropped, all kept, or all but one dropped.
-/

namespace Interdomain.Yaml

namespace BlockText

/-- What happens to the line breaks at the end. -/
inductive Chomping where
  | strip
  | clip
  | keep
  deriving DecidableEq

structure Header where
  /-- What happens to the line breaks at the end. -/
  chomping : Chomping
  /-- How many columns the block is indented below its parent, if it is given. -/
  increment : Option Nat

/-! ## Headers -/

/-- The sign that tells what happens to the line breaks at the end. -/
def chomping? : Char → Option Chomping
  | '+' => some .keep
  | '-' => some .strip
  | _ => none

/-- The digit that gives the indentation; zero is refused later. -/
def increment? (c : Char) : Option Nat :=
  if Decimal.isDigit c then some (Decimal.digitValue c) else none

/-- Read the sign and the digit of a header in either order. -/
def readHeader : List Char → Header × List Char
  | [] => (⟨.clip, none⟩, [])
  | c :: rest =>
    match chomping? c, increment? c with
    | some chomping, _ =>
      match rest.head?.bind increment? with
      | some n => (⟨chomping, some n⟩, rest.drop 1)
      | none => (⟨chomping, none⟩, rest)
    | none, some n =>
      match rest.head?.bind chomping? with
      | some chomping => (⟨chomping, some n⟩, rest.drop 1)
      | none => (⟨.clip, some n⟩, rest)
    | none, none => (⟨.clip, none⟩, c :: rest)

/-- A text without the rest of its first line, which has only blanks and a comment, and without the
break at its end. -/
def dropLine? (cs : List Char) : Option (List Char) :=
  let cs := cs.dropWhile isSpacing
  let cs := if cs.head? = some '#' then cs.dropWhile (!isBreak ·) else cs
  match cs with
  | [] => some []
  | c :: rest => if isBreak c then some rest else none

/-! ## Lines -/

/-- A line of a block without its indentation. -/
structure Line where
  /-- The characters; there are none on an empty line. -/
  content : List Char
  /-- The break at its end; the last line of a document may have none. -/
  ending : List Char

/-- The indentation that a block finds for itself: the most spaces on its empty lines and on the
line after them. A tab must not follow these spaces. -/
def detect? (most : Nat) : Nat → List Char → Option Nat
  | 0, _ => none
  | fuel + 1, cs =>
    let spaces := (cs.takeWhile (· == ' ')).length
    let most := max most spaces
    match cs.drop spaces with
    | [] => some most
    | c :: rest =>
      if c == '\t' then none else if isBreak c then detect? most fuel rest else some most

/-- The lines of a block and the text after it. A line that is indented less, and is not empty, ends
the block. -/
def lines? (indent : Nat) : Nat → List Char → Option (List Line × List Char)
  | 0, _ => none
  | fuel + 1, cs =>
    let spaces := min indent (cs.takeWhile (· == ' ')).length
    let rest := cs.drop spaces
    let content := rest.takeWhile (!isBreak ·)
    let ending := (rest.drop content.length).take 1
    if content.isEmpty then
      if ending.isEmpty then some ([], [])
      else do
        let (lines, after) ← lines? indent fuel (rest.drop 1)
        return (⟨[], ending⟩ :: lines, after)
    else if spaces = indent then do
      let (lines, after) ← lines? indent fuel (rest.drop (content.length + ending.length))
      return (⟨content, ending⟩ :: lines, after)
    else if content.head? = some '\t' then none
    else some ([], cs)

/-! ## Texts -/

/-- What comes before a line in the middle of a text: a single break between two lines that do not
start with a blank is folded. -/
def between (folds : Bool) (ending empties : List Char) (plain : Bool) : List Char :=
  if folds && ending == ['\n'] && plain then
    if empties.isEmpty then [' '] else empties
  else ending ++ empties

/-- What is kept of the breaks at the end. -/
def kept (ending empties : List Char) : Chomping → List Char
  | .strip => []
  | .clip => ending
  | .keep => ending ++ empties

/-- The text of the lines after a line. That line has the break `ending`, the empty lines since then
have the breaks `empties`, and `blank` tells whether it started with a blank. -/
def textAfter (folds : Bool) (chomping : Chomping) (ending empties : List Char) (blank : Bool) :
    List Line → List Char
  | [] => kept ending empties chomping
  | l :: lines =>
    match l.content with
    | [] => textAfter folds chomping ending (empties ++ l.ending) blank lines
    | c :: _ =>
      between folds ending empties (!blank && !isSpacing c) ++
        (l.content ++ textAfter folds chomping l.ending [] (isSpacing c) lines)

end BlockText

structure BlockText where
  /-- What it says. -/
  text : List Char
  /-- The text after it, at the start of a line. -/
  rest : List Char

/-- The block text after the sign that starts it. The parent is indented by one column less than
`bound`, or not at all. -/
def BlockText.scan? (folds : Bool) (bound : Nat) (cs : List Char) : Option BlockText := do
  let (header, cs) := readHeader cs
  let cs ← dropLine? cs
  let fuel := cs.length + 1
  let indent ←
    match header.increment with
    | some 0 => none
    | some n => some (bound - 1 + n)
    | none => (detect? 0 fuel cs).map fun n ↦ max n (max bound 1)
  let (lines, rest) ← lines? indent fuel cs
  return ⟨textAfter folds header.chomping [] [] false lines, rest⟩

end Interdomain.Yaml
