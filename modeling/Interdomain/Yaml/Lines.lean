/-!
# Lines and gaps

A YAML text is a text of lines. Five characters end a line; three of them are the same to a reader
and are made one at the start. Between the words of a scalar stand gaps of spaces, tabs and line
breaks, and a gap is folded: one break is a space, and of several breaks the first is dropped.
-/

namespace Interdomain.Yaml

/-! ## Characters -/

/-- The characters that end a line. -/
def isBreak (c : Char) : Bool :=
  c == '\n' || c == '\r' || c.toNat == 0x85 || c.toNat == 0x2028 || c.toNat == 0x2029

def isSpacing (c : Char) : Bool := c == ' ' || c == '\t'

/-- A space, a tab, the end of a line, or the character zero. -/
def isGap (c : Char) : Bool := isSpacing c || isBreak c || c.toNat == 0

/-- Whether the next character, if there is one, belongs to a gap. -/
def atGap (cs : List Char) : Bool := cs.head?.all isGap

/-- The characters that a document may have: no control characters but tabs and line breaks. -/
def isAllowed (c : Char) : Bool :=
  let n := c.toNat
  c == '\t' || c == '\n' || c == '\r' || (0x20 ≤ n && n ≤ 0x7E) || n == 0x85 ||
    (0xA0 ≤ n && n ≤ 0xFFFD) || 0x10000 ≤ n

/-- The same text with one kind of line break for the three that mean the same. -/
def unifyBreaks : List Char → List Char
  | [] => []
  | '\r' :: '\n' :: rest => '\n' :: unifyBreaks rest
  | c :: rest => (if c == '\r' || c.toNat == 0x85 then '\n' else c) :: unifyBreaks rest

/-! ## Gaps -/

/-- What a gap between two words of a scalar stands for. -/
def foldGap (gap : List Char) : List Char :=
  match gap.filter isBreak with
  | [] => gap
  | ['\n'] => [' ']
  | '\n' :: breaks => breaks
  | breaks => breaks

/-- Whether a line starts with the marker of the start or of the end of a document. -/
def startsMarker (marker : String) (cs : List Char) : Bool :=
  marker.toList.isPrefixOf cs && atGap (cs.drop marker.length)

/-- Whether a line starts with either marker. -/
def startsAnyMarker (cs : List Char) : Bool := startsMarker "---" cs || startsMarker "..." cs

/-! ## Places -/

/-- A place in a text: the number of its line, and how far it is into that line. -/
structure Place where
  /-- The number of line breaks before the place. -/
  line : Nat := 0
  /-- The number of characters before the place on its line. -/
  column : Nat := 0
  /-- The number of bytes that these characters take. -/
  bytes : Nat := 0
  deriving DecidableEq

def Place.step (p : Place) (c : Char) : Place :=
  if isBreak c then ⟨p.line + 1, 0, 0⟩ else ⟨p.line, p.column + 1, p.bytes + c.utf8Size⟩

def Place.after (p : Place) (cs : List Char) : Place := cs.foldl step p

end Interdomain.Yaml
