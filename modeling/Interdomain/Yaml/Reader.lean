import Interdomain.Document
import Interdomain.Yaml.Token

/-!
# Reading YAML

The tokens of a text are read as the document that they stand for. There is exactly one document in
a text, and something that is left out, such as a value after its key, is a plain empty text.

The functions here read one part from the front of the tokens and give what is left. Every call uses
up some fuel, and four calls at most are made between two tokens.
-/

namespace Interdomain.Yaml

def missing : Document := .plain ""

/-- Where a part stands, which decides what it may be. -/
inductive Position where
  /-- Inside brackets: no blocks. -/
  | inFlow
  /-- In a block. -/
  | inBlock
  /-- As a key or value of a block mapping, where items need no indentation of their own. -/
  | inMapping
  deriving DecidableEq

/-- Whether a token in a block mapping cannot start a key or a value. -/
def endsMappingPart : Option Token → Bool
  | some .key => true
  | some .value => true
  | some .blockEnd => true
  | _ => false

/-- Whether a token ends a key or value inside brackets. -/
def endsFlowPart (close : Token) (t : Option Token) : Bool := t == some .comma || t == some close

/-- Whether a token starts a part. -/
def startsPart (position : Position) : Option Token → Bool
  | some (.plain _) => true
  | some (.quoted _) => true
  | some .openBracket => true
  | some .openBrace => true
  | some .blockSequence => position != .inFlow
  | some .blockMapping => position != .inFlow
  | some .item => position == .inMapping
  | _ => false

def afterComma? : List Token → Option (List Token)
  | .comma :: ts => some ts
  | _ => none

mutual

/-- Read a part. After an anchor it may be left out. -/
def readPart : Nat → Position → List Token → Option (Document × List Token)
  | 0, _, _ => none
  | fuel + 1, position, .anchor :: ts =>
    if startsPart position ts.head? then readContent fuel position ts else some (missing, ts)
  | fuel + 1, position, ts => readContent fuel position ts

/-- Read a part that has no anchor. -/
def readContent : Nat → Position → List Token → Option (Document × List Token)
  | 0, _, _ => none
  | fuel + 1, position, ts =>
    match ts with
    | .plain text :: ts => some (.plain text, ts)
    | .quoted text :: ts => some (.quoted text, ts)
    | .openBracket :: ts => readFlowItems fuel true [] ts
    | .openBrace :: ts => readFlowEntries fuel true [] ts
    | .blockSequence :: ts => if position = .inFlow then none else readBlockItems fuel [] ts
    | .blockMapping :: ts => if position = .inFlow then none else readBlockEntries fuel [] ts
    | .item :: _ => if position = .inMapping then readBareItems fuel [] ts else none
    | _ => none

/-- Read the items of a block, behind those that are there, in reverse. -/
def readBlockItems : Nat → List Document → List Token → Option (Document × List Token)
  | 0, _, _ => none
  | fuel + 1, before, .item :: ts =>
    if ts.head? = some .item ∨ ts.head? = some .blockEnd then
      readBlockItems fuel (missing :: before) ts
    else
      match readPart fuel .inBlock ts with
      | some (d, ts) => readBlockItems fuel (d :: before) ts
      | none => none
  | _ + 1, before, .blockEnd :: ts => some (.list before.reverse, ts)
  | _ + 1, _, _ => none

/-- Read items that stand at the indentation of their key, behind those that are there, in
reverse. -/
def readBareItems : Nat → List Document → List Token → Option (Document × List Token)
  | 0, _, _ => none
  | fuel + 1, before, .item :: ts =>
    if ts.head? = some .item ∨ endsMappingPart ts.head? then
      readBareItems fuel (missing :: before) ts
    else
      match readPart fuel .inBlock ts with
      | some (d, ts) => readBareItems fuel (d :: before) ts
      | none => none
  | _ + 1, before, ts => some (.list before.reverse, ts)

/-- Read a key or a value of a block mapping. -/
def readMappingPart : Nat → List Token → Option (Document × List Token)
  | 0, _ => none
  | fuel + 1, ts =>
    if endsMappingPart ts.head? then some (missing, ts) else readPart fuel .inMapping ts

/-- Read the entries of a block, behind those that are there, in reverse. -/
def readBlockEntries :
    Nat → List (Document × Document) → List Token → Option (Document × List Token)
  | 0, _, _ => none
  | fuel + 1, before, .key :: ts =>
    match readMappingPart fuel ts with
    | none => none
    | some (k, .value :: ts) =>
      match readMappingPart fuel ts with
      | some (v, ts) => readBlockEntries fuel ((k, v) :: before) ts
      | none => none
    | some (k, ts) => readBlockEntries fuel ((k, missing) :: before) ts
  | _ + 1, before, .blockEnd :: ts => some (.mapping before.reverse, ts)
  | _ + 1, _, _ => none

/-- Read a key or a value inside brackets that some token closes. -/
def readFlowPart : Nat → Token → List Token → Option (Document × List Token)
  | 0, _, _ => none
  | fuel + 1, close, ts =>
    if endsFlowPart close ts.head? then some (missing, ts) else readPart fuel .inFlow ts

/-- Read a key that is marked, inside brackets that some token closes. Between square brackets the
mark of a missing key takes the token behind it along, whichever that is. -/
def readFlowKey : Nat → Token → List Token → Option (Document × List Token)
  | 0, _, _ => none
  | fuel + 1, close, ts =>
    if ts.head? = some .value ∨ endsFlowPart close ts.head? then
      some (missing, if close = .closeBracket then ts.tail else ts)
    else readPart fuel .inFlow ts

/-- Read an entry whose key is marked, inside brackets that some token closes. -/
def readFlowEntry : Nat → Token → List Token → Option ((Document × Document) × List Token)
  | 0, _, _ => none
  | fuel + 1, close, ts =>
    match readFlowKey fuel close ts with
    | none => none
    | some (k, .value :: ts) => (readFlowPart fuel close ts).map fun (v, ts) ↦ ((k, v), ts)
    | some (k, ts) => some ((k, missing), ts)

/-- Read the items inside brackets, behind those that are there, in reverse. A comma stands between
two items and may stand after the last; an entry by itself is a mapping of one. -/
def readFlowItems : Nat → Bool → List Document → List Token → Option (Document × List Token)
  | 0, _, _, _ => none
  | _ + 1, _, before, .closeBracket :: ts => some (.list before.reverse, ts)
  | fuel + 1, atStart, before, ts =>
    match if atStart then some ts else afterComma? ts with
    | none => none
    | some (.closeBracket :: ts) => some (.list before.reverse, ts)
    | some (.key :: ts) =>
      match readFlowEntry fuel .closeBracket ts with
      | some (e, ts) => readFlowItems fuel false (.mapping [e] :: before) ts
      | none => none
    | some ts =>
      match readPart fuel .inFlow ts with
      | some (d, ts) => readFlowItems fuel false (d :: before) ts
      | none => none

/-- Read the entries inside braces, behind those that are there, in reverse. A part by itself is a
key without a value. -/
def readFlowEntries :
    Nat → Bool → List (Document × Document) → List Token → Option (Document × List Token)
  | 0, _, _, _ => none
  | _ + 1, _, before, .closeBrace :: ts => some (.mapping before.reverse, ts)
  | fuel + 1, atStart, before, ts =>
    match if atStart then some ts else afterComma? ts with
    | none => none
    | some (.closeBrace :: ts) => some (.mapping before.reverse, ts)
    | some (.key :: ts) =>
      match readFlowEntry fuel .closeBrace ts with
      | some (e, ts) => readFlowEntries fuel false (e :: before) ts
      | none => none
    | some ts =>
      match readPart fuel .inFlow ts with
      | some (k, ts) => readFlowEntries fuel false ((k, missing) :: before) ts
      | none => none

end

/-- Whether the tokens after a document are only the marker of its end. -/
def isEnd : List Token → Bool
  | [] => true
  | .documentEnd :: ts => isEnd ts
  | _ => false

/-- Read the content of a document: nothing is a missing text. -/
def readBody? (ts : List Token) : Option (Document × List Token) :=
  match ts.head? with
  | none => some (missing, ts)
  | some .documentStart => some (missing, ts)
  | some .documentEnd => some (missing, ts)
  | some _ => readPart (4 * ts.length + 4) .inBlock ts

/-- Read tokens that stand for exactly one document. -/
def ofTokens? (ts : List Token) : Option Document := do
  let body ← match ts with
    | [] => none
    | .documentStart :: ts => some ts
    | ts => some ts
  let (d, rest) ← readBody? body
  if isEnd rest then return d else none

/-- Read a text that is one document. -/
def read? (s : String) : Option Document := do ofTokens? (← tokens? s.toList)

end Interdomain.Yaml
