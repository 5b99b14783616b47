import Interdomain.Link.Resolution
import Interdomain.Topology

/-!
# Static information

An AS that wants it gets a file that tells for each of its interfaces what kind of line is behind
it. A cross-connect is a line of its own; the fabric of an exchange is switched.
-/

namespace Interdomain

/-- What kind of line is behind an interface. -/
inductive LineType where
  | direct
  | multihop
  | opennet
  deriving DecidableEq

namespace LineType

def text : LineType → String
  | direct => "direct"
  | multihop => "multihop"
  | opennet => "opennet"

def names : List (String × LineType) := [direct, multihop, opennet].map fun t ↦ (t.text, t)

/-- The kind of line of a medium. -/
def ofMedium : Medium → LineType
  | .crossConnect => direct
  | .exchange _ => multihop

end LineType

/-- What is known of the interfaces of an AS. -/
structure StaticInfo where
  /-- The kinds of lines by interface id. -/
  lineTypes : SortedMap Nat LineType
  /-- A remark. -/
  note : Option String

namespace StaticInfo

/-- The ends of resolved links on an AS, in order, with the kinds of their lines. -/
def endsOn (asn : Asn) (links : List ResolvedLink) : List (Nat × LineType) :=
  links.flatMap fun l ↦
    ([l.a, l.b].filter fun e ↦ e.ia.asn = asn).map fun e ↦ (e.id, .ofMedium l.medium)

def read? (d : Document) : Option StaticInfo := do
  let r ← d.record? ["LinkType", "Note"]
  return {
    lineTypes := ←
      r.required "LinkType" (readSorted? readIdKey? (Document.choice? LineType.names))
    note := ← r.withDefault "Note" none (Document.option? Document.text?) }

def toValue (s : StaticInfo) : Value :=
  .object ([("LinkType", numbered (fun t ↦ .text t.text) s.lineTypes)] ++
    Value.field "Note" .text s.note)

def text (s : StaticInfo) : String := Json.pretty s.toValue

def fileName : String := "staticInfoConfig.json"

end StaticInfo

/-- The static information of an AS, if it is wanted. -/
def AutonomousSystem.staticInformation? (a : AutonomousSystem) (links : List ResolvedLink) :
    Option StaticInfo :=
  if a.staticInfo then some ⟨.ofList (StaticInfo.endsOn a.asn links), a.note⟩ else none

end Interdomain
