import Interdomain.Yaml.Lines

/-!
# Plain texts

A scalar without quotes is a row of words with gaps between them. It ends at a colon before a gap,
at a comment after a gap, at a bracket or comma inside brackets, where a line is indented too
little, and at the marker of a document. A gap that leads nowhere is passed over with it.
-/

namespace Interdomain.Yaml

namespace PlainText

/-- The brackets and the comma, which end a word inside brackets. -/
def isFlowIndicator (c : Char) : Bool := ",[]\x7b\x7d".toList.contains c

/-- The word at the start of a text. Inside brackets a colon right before a bracket, a comma or a
question mark is refused. -/
def word? (inFlow : Bool) : List Char → Option (List Char)
  | [] => some []
  | c :: rest =>
    if isGap c then some []
    else if inFlow && c == ':' && rest.head?.any (fun d ↦ d == '?' || isFlowIndicator d) then none
    else if (c == ':' && atGap rest) || (inFlow && isFlowIndicator c) then some []
    else (word? inFlow rest).map (c :: ·)

/-- Whether a gap has a tab in the indentation of one of its lines. The column is that of the next
character, or none on the first line. -/
def hasIndentingTab (indent : Nat) : Option Nat → List Char → Bool
  | _, [] => false
  | column, c :: rest =>
    if isBreak c then hasIndentingTab indent (some 0) rest
    else (c == '\t' && column.any (· < indent)) || hasIndentingTab indent (column.map (· + 1)) rest

/-- Whether a text goes on after a gap. -/
def goesOn (inFlow : Bool) (indent : Nat) (place : Place) (brokeLine : Bool) (rest : List Char) :
    Bool :=
  !rest.isEmpty && (inFlow || !brokeLine || indent ≤ place.column) &&
    !(place.column == 0 && startsAnyMarker rest) && rest.head? != some '#'

/-- The words after a first one: their text with the gaps before them, all characters up to the end,
and whether the last gap ends a line. Every word uses up some fuel. -/
def more? (inFlow : Bool) (indent : Nat) :
    Nat → Place → List Char → Option (List Char × List Char × Bool)
  | 0, _, _ => none
  | fuel + 1, place, cs =>
    let gap := cs.takeWhile isGap
    let rest := cs.drop gap.length
    let brokeLine := gap.any isBreak
    let after := place.after gap
    if gap.isEmpty then some ([], [], false)
    else if hasIndentingTab indent none gap then none
    else if goesOn inFlow indent after brokeLine rest then do
      match ← word? inFlow rest with
      | [] => return ([], gap, brokeLine)
      | word =>
        let (text, taken, brokeLast) ←
          more? inFlow indent fuel (after.after word) (rest.drop word.length)
        return (foldGap gap ++ word ++ text, gap ++ word ++ taken, brokeLast)
    else some ([], gap, brokeLine)

end PlainText

structure PlainText where
  /-- What it says. -/
  text : List Char
  /-- All its characters, with the gap at its end. -/
  taken : List Char
  /-- Whether the gap at its end ends a line. -/
  brokeLine : Bool

/-- The plain text at the start of a text, of which further lines are indented by some columns. -/
def PlainText.scan? (inFlow : Bool) (indent : Nat) (place : Place) (cs : List Char) :
    Option PlainText := do
  let word ← word? inFlow cs
  let (text, taken, brokeLine) ←
    more? inFlow indent (cs.length + 1) (place.after word) (cs.drop word.length)
  return ⟨word ++ text, word ++ taken, brokeLine⟩

end Interdomain.Yaml
