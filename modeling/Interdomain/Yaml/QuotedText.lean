import Interdomain.Json.Reader
import Interdomain.Yaml.Lines

/-!
# Quoted texts

Between single quotes everything stands for itself, and a quote is written twice. Between double
quotes a backslash starts an escape; before the end of a line it joins the line with the next. In
both, gaps that have line breaks are folded.
-/

namespace Interdomain.Yaml

namespace QuotedText

inductive Part where
  /-- A character that stands for itself. -/
  | char (c : Char)
  /-- A character of a gap. -/
  | gap (c : Char)
  /-- The end of a line that is joined with the next. -/
  | joint

/-- A character as a part of its own. -/
def Part.ofChar (c : Char) : Part := if isGap c then gap c else char c

/-- What parts stand for, after a gap that may start with a joint. At a joint the breaks of the gap
stay and nothing takes their place. -/
def join (gap : List Char) (joined : Bool) : List Part → List Char
  | [] => written
  | .gap c :: rest => join (gap ++ [c]) joined rest
  | .joint :: rest => written ++ join [] true rest
  | .char c :: rest => written ++ c :: join [] false rest
where
  /-- What the gap stands for. -/
  written : List Char := if joined then gap.filter isBreak else foldGap gap

/-! ## Single quotes -/

/-- The characters up to a single quote that is not doubled. -/
def singleExtent? : List Char → Option (List Char)
  | '\'' :: '\'' :: rest => (singleExtent? rest).map fun cs ↦ '\'' :: '\'' :: cs
  | '\'' :: _ => some []
  | c :: rest => (singleExtent? rest).map (c :: ·)
  | [] => none

/-- The parts between single quotes. -/
def singleParts : List Char → List Part
  | '\'' :: '\'' :: rest => .char '\'' :: singleParts rest
  | c :: rest => .ofChar c :: singleParts rest
  | [] => []

/-! ## Double quotes -/

/-- The characters up to a double quote that is not escaped. -/
def doubleExtent? : List Char → Option (List Char)
  | '\\' :: c :: rest => (doubleExtent? rest).map fun cs ↦ '\\' :: c :: cs
  | '"' :: _ => some []
  | c :: rest => (doubleExtent? rest).map (c :: ·)
  | [] => none

def escaped? (c : Char) : Option Char :=
  match c with
  | '0' => some '\x00'
  | 'a' => some '\x07'
  | 'b' => some '\x08'
  | 't' => some '\t'
  | '\t' => some '\t'
  | 'n' => some '\n'
  | 'v' => some '\x0b'
  | 'f' => some '\x0c'
  | 'r' => some '\r'
  | 'e' => some '\x1b'
  | ' ' => some ' '
  | '"' => some '"'
  | '/' => some '/'
  | '\\' => some '\\'
  | 'N' => some '\u0085'
  | '_' => some '\u00a0'
  | 'L' => some '\u2028'
  | 'P' => some '\u2029'
  | _ => none

/-- The character with a code point in base sixteen. -/
def hexChar? (digits : List Char) : Option Char := do
  let n ← digits.foldlM (fun n c ↦ (Json.hexValue? c).map (16 * n + ·)) 0
  Json.charOf? n

/-- The parts between double quotes. -/
def doubleParts? : List Char → Option (List Part)
  | [] => some []
  | '\\' :: 'x' :: a :: b :: rest => do
    return .char (← hexChar? [a, b]) :: (← doubleParts? rest)
  | '\\' :: 'u' :: a :: b :: c :: d :: rest => do
    return .char (← hexChar? [a, b, c, d]) :: (← doubleParts? rest)
  | '\\' :: 'U' :: a :: b :: c :: d :: e :: f :: g :: h :: rest => do
    return .char (← hexChar? [a, b, c, d, e, f, g, h]) :: (← doubleParts? rest)
  | '\\' :: c :: rest => do
    let part ← if isBreak c then some Part.joint else (escaped? c).map .char
    return part :: (← doubleParts? rest)
  | c :: rest => do return .ofChar c :: (← doubleParts? rest)

end QuotedText

structure QuotedText where
  /-- What it says. -/
  text : List Char
  /-- All its characters, with both quotes. -/
  taken : List Char

namespace QuotedText

/-- Whether a line of a text after the first starts with the marker of a document. -/
def hasMarker : List Char → Bool
  | [] => false
  | c :: rest => (isBreak c && startsAnyMarker rest) || hasMarker rest

/-- The quoted text at the start of a text. The marker of a document must not start one of its
lines. -/
def scan? : List Char → Option QuotedText
  | '\'' :: rest => do
    let raw ← singleExtent? rest
    ofParts? '\'' raw (singleParts raw)
  | '"' :: rest => do
    let raw ← doubleExtent? rest
    ofParts? '"' raw (← doubleParts? raw)
  | _ => none
where
  /-- The text with some parts, which are written between two quotes. -/
  ofParts? (quote : Char) (raw : List Char) (parts : List Part) : Option QuotedText :=
    let taken := quote :: raw ++ [quote]
    if hasMarker taken then none else some ⟨join [] false parts, taken⟩

end QuotedText

end Interdomain.Yaml
