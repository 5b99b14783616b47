import Interdomain.Yaml.BlockText
import Interdomain.Yaml.PlainText
import Interdomain.Yaml.QuotedText

/-!
# YAML tokens

The lexer turns a text into tokens. Indentation becomes tokens too: a block starts where a line is
indented more than the block around it and ends where a line is indented less. A key is known as one
only when its colon comes, so the lexer remembers where the last text or bracket stood that may be a
key, and puts the token for it there later. Such a key stands on one line and is not long.

Anchors are passed over. Tags, aliases and directives are not part of declarations and are refused.
-/

namespace Interdomain.Yaml

inductive Token where
  /-- The marker of the start of a document. -/
  | documentStart
  /-- The marker of the end of a document. -/
  | documentEnd
  /-- The start of a block of items. -/
  | blockSequence
  /-- The start of a block of entries. -/
  | blockMapping
  /-- The end of a block. -/
  | blockEnd
  /-- A dash before an item. -/
  | item
  /-- What comes before a key. -/
  | key
  /-- What comes before the value of a key. -/
  | value
  | openBracket
  | closeBracket
  | openBrace
  | closeBrace
  | comma
  /-- The name of a part, which nothing refers to. -/
  | anchor
  /-- A text without quotes. -/
  | plain (text : String)
  /-- A text in quotes or in a block of its own. -/
  | quoted (text : String)
  deriving DecidableEq

/-- A place where a key may have started. -/
structure Candidate where
  /-- The number of tokens before it. -/
  tokensBefore : Nat
  /-- Its place in the text. -/
  place : Place
  /-- Whether it must turn out to be a key, because it stands where one has to. -/
  required : Bool

/-- How many bytes there may be from the start of a key to its colon. -/
def longestKey : Nat := 1024

/-- Where the lexer is. -/
structure Lexer where
  /-- The text that is left. -/
  rest : List Char
  /-- The place of the text that is left. -/
  place : Place := {}
  /-- The columns of the open blocks, innermost first. -/
  blocks : List Nat := []
  /-- Where the next key may have started. -/
  candidate : Option Candidate := none
  /-- The same outside each open bracket, innermost first. -/
  outer : List (Option Candidate) := []
  /-- Whether a key may start here. -/
  keyAllowed : Bool := true
  /-- The tokens so far. -/
  tokens : Array Token := #[]

namespace Lexer

/-! ## Moves -/

def inFlow (l : Lexer) : Bool := !l.outer.isEmpty

/-- The least column of what belongs to the innermost block. -/
def bound (l : Lexer) : Nat :=
  match l.blocks with
  | [] => 0
  | column :: _ => column + 1

/-- Pass over characters at the start of the text that is left. -/
def pass (l : Lexer) (taken : List Char) : Lexer :=
  { l with rest := l.rest.drop taken.length, place := l.place.after taken }

def push (l : Lexer) (t : Token) : Lexer := { l with tokens := l.tokens.push t }

/-- The byte order mark, which may stand before what is on a line. -/
def byteOrderMark : Char := '\ufeff'

/-- Pass over blanks, comments, line breaks and byte order marks at the start of a line. In blocks a
tab is no indentation, and a key may start on every line. -/
def skipFrom (l : Lexer) (inComment : Bool) : List Char → Lexer
  | [] => { l with rest := [] }
  | c :: cs =>
    let passed := { l with place := l.place.step c }
    if isBreak c then
      skipFrom { passed with keyAllowed := l.keyAllowed || !l.inFlow } false cs
    else if inComment || c == ' ' || (c == '\t' && (l.inFlow || !l.keyAllowed)) ||
        (c == byteOrderMark && l.place.column == 0) then
      skipFrom passed inComment cs
    else if c == '#' then skipFrom passed true cs
    else { l with rest := c :: cs }

/-- Pass over what is between two tokens. -/
def skip (l : Lexer) : Lexer := l.skipFrom false l.rest

/-! ## Keys -/

/-- Give up a candidate that is no key; a required one is an error. -/
def giveUp? : Option Candidate → Option (Option Candidate)
  | some c => if c.required then none else some none
  | none => some none

/-- Give up a candidate that is out of reach. -/
def giveUpStale? (place : Place) : Option Candidate → Option (Option Candidate)
  | some c =>
    if c.place.line < place.line || c.place.bytes + longestKey < place.bytes then giveUp? (some c)
    else some (some c)
  | none => some none

/-- Give up all candidates that are out of reach. -/
def dropStale? (l : Lexer) : Option Lexer := do
  return { l with
    candidate := ← giveUpStale? l.place l.candidate
    outer := ← l.outer.mapM (giveUpStale? l.place) }

/-- Give up the candidate and say whether a key may start after the next token. -/
def noKey? (l : Lexer) (keyAllowed : Bool) : Option Lexer := do
  return { l with candidate := ← giveUp? l.candidate, keyAllowed }

/-- Remember that a key may start here. -/
def remember? (l : Lexer) : Option Lexer :=
  if l.keyAllowed then do
    let _ ← giveUp? l.candidate
    let required := !l.inFlow && l.blocks.head? == some l.place.column
    return { l with candidate := some ⟨l.tokens.size, l.place, required⟩ }
  else some l

/-! ## Blocks -/

/-- Close the blocks that are indented more than a column. -/
def closeTo (column : Nat) (l : Lexer) : List Nat → Lexer
  | [] => { l with blocks := [] }
  | b :: bs =>
    if column < b then closeTo column (l.push .blockEnd) bs else { l with blocks := b :: bs }

/-- Close the blocks that a token at this place is outside of. -/
def closeBlocks (l : Lexer) : Lexer := if l.inFlow then l else l.closeTo l.place.column l.blocks

/-- Close all blocks. -/
def closeAllBlocks (l : Lexer) : Lexer :=
  if l.inFlow then l
  else { l with blocks := [], tokens := l.tokens ++ l.blocks.map fun _ ↦ Token.blockEnd }

/-- Open a block at a column, before the token of some number, unless the block around is as far
in. -/
def openBlock (l : Lexer) (column number : Nat) (t : Token) : Lexer :=
  if l.inFlow || column < l.bound then l
  else { l with
    blocks := column :: l.blocks
    tokens := l.tokens.insertIdxIfInBounds number t }

/-- Open a block with the next token, which has to stand where a key may start. -/
def openBlockHere? (l : Lexer) (t : Token) : Option Lexer :=
  if l.inFlow then some l
  else if l.keyAllowed then some (l.openBlock l.place.column l.tokens.size t)
  else none

/-! ## Tokens -/

def take (l : Lexer) (n : Nat) (t : Token) : Lexer := (l.pass (l.rest.take n)).push t

/-- The marker of the start or of the end of a document. -/
def marker? (l : Lexer) (t : Token) : Option Lexer := do
  return (← l.closeAllBlocks.noKey? false).take 3 t

def open? (l : Lexer) (t : Token) : Option Lexer := do
  let l ← l.remember?
  return { l.take 1 t with outer := l.candidate :: l.outer, candidate := none, keyAllowed := true }

def close? (l : Lexer) (t : Token) : Option Lexer := do
  let l ← l.noKey? false
  return match l.outer with
    | [] => l.take 1 t
    | candidate :: outer => { l.take 1 t with candidate, outer }

def item? (l : Lexer) : Option Lexer := do
  return (← (← l.openBlockHere? .blockSequence).noKey? true).take 1 .item

def key? (l : Lexer) : Option Lexer := do
  return (← (← l.openBlockHere? .blockMapping).noKey? (!l.inFlow)).take 1 .key

/-- A colon before a value: the candidate is a key, or else the key is missing. -/
def value? (l : Lexer) : Option Lexer :=
  match l.candidate with
  | some c =>
    let tokens := l.tokens.insertIdxIfInBounds c.tokensBefore .key
    let l := { l with tokens, candidate := none, keyAllowed := false }
    some ((l.openBlock c.place.column c.tokensBefore .blockMapping).take 1 .value)
  | none => do
    let l ← l.openBlockHere? .blockMapping
    return { l with keyAllowed := !l.inFlow }.take 1 .value

/-- The characters of the name of an anchor. -/
def isAnchorChar (c : Char) : Bool := c.isAlphanum || c == '-' || c == '_'

def anchor? (l : Lexer) : Option Lexer := do
  let l ← l.remember?
  let name := (l.rest.drop 1).takeWhile isAnchorChar
  let after := l.rest.drop (name.length + 1)
  let ends := atGap after || after.head?.any ("?:,]\x7d%@\x60".toList.contains ·)
  if name.isEmpty || !ends then none
  else return { l with keyAllowed := false }.take (name.length + 1) .anchor

def block? (l : Lexer) (folds : Bool) : Option Lexer := do
  let text ← BlockText.scan? folds l.bound (l.rest.drop 1)
  let taken := l.rest.take (l.rest.length - text.rest.length)
  return ((← l.noKey? true).pass taken).push (.quoted (String.ofList text.text))

def quoted? (l : Lexer) : Option Lexer := do
  let text ← QuotedText.scan? l.rest
  let l ← l.remember?
  return ({ l with keyAllowed := false }.pass text.taken).push (.quoted (String.ofList text.text))

/-- A plain text. After one that ends with its line a key may start. -/
def plain? (l : Lexer) : Option Lexer := do
  let text ← PlainText.scan? l.inFlow l.bound l.place l.rest
  let l ← l.remember?
  return ({ l with keyAllowed := text.brokeLine }.pass text.taken).push
    (.plain (String.ofList text.text))

/-- Whether a character that is no token of its own starts a plain text. -/
def startsPlain (c : Char) : Bool :=
  !("|>'\"%@\x60&*!#".toList.contains c || PlainText.isFlowIndicator c || isGap c)

/-- The next token, of a text that is not at its end. -/
def token? (l : Lexer) : Option Lexer :=
  match l.rest with
  | [] => none
  | c :: rest =>
    if l.place.column == 0 && startsMarker "---" l.rest then l.marker? .documentStart
    else if l.place.column == 0 && startsMarker "..." l.rest then l.marker? .documentEnd
    else if l.place.column == 0 && c == '%' then none
    else match c with
      | '[' => l.open? .openBracket
      | '\x7b' => l.open? .openBrace
      | ']' => l.close? .closeBracket
      | '\x7d' => l.close? .closeBrace
      | ',' => do return (← l.noKey? true).take 1 .comma
      | '&' => l.anchor?
      | '\'' | '"' => l.quoted?
      | _ =>
        if c == '-' && atGap rest then l.item?
        else if c == '?' && (l.inFlow || atGap rest) then l.key?
        else if c == ':' && (l.inFlow || atGap rest) then l.value?
        else if c == '|' && !l.inFlow then l.block? false
        else if c == '>' && !l.inFlow then l.block? true
        else if startsPlain c then l.plain?
        else none

/-- All tokens; every token uses up some fuel. -/
def run? : Nat → Lexer → Option (Array Token)
  | 0, _ => none
  | fuel + 1, l => do
    let l := (← l.skip.dropStale?).closeBlocks
    if l.rest.isEmpty then return (← l.closeAllBlocks.noKey? false).tokens
    else run? fuel (← l.token?)

end Lexer

/-- The tokens of a text. -/
def tokens? (cs : List Char) : Option (List Token) := do
  if cs.all isAllowed then
    let text := unifyBreaks cs
    return (← Lexer.run? (text.length + 1) { rest := text }).toList
  else none

end Interdomain.Yaml
