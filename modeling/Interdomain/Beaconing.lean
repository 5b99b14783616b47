import Interdomain.Document
import Interdomain.Duration.Spans

/-!
# Beaconing settings

How often an AS originates, propagates and registers beacons, and the kinds of policy that select
them. An interval that is not set leaves the control service to its default.
-/

namespace Interdomain

/-! ## Intervals -/

/-- The beaconing intervals of an AS. -/
structure Intervals where
  /-- Between two originations. -/
  origination : Option Duration := none
  /-- Between two propagations. -/
  propagation : Option Duration := none
  /-- Between two registrations. -/
  registration : Option Duration := none
  deriving DecidableEq

namespace Intervals

/-- The names of the intervals in declarations. -/
def names : List String := ["origination", "propagation", "registration"]

/-- The three intervals in order. -/
def toList (i : Intervals) : List (Option Duration) :=
  [i.origination, i.propagation, i.registration]

/-- Read one interval: a sum of spans in a text, or the absent value. A typed number is no text. -/
def readOne? (d : Document) : Option (Option Duration) := d.option? (Document.parsed? Spans.read?)

/-- Read the intervals of a record. -/
def ofRecord? (r : Document.Record) : Option Intervals := do
  return {
    origination := ← r.withDefault "origination" none readOne?
    propagation := ← r.withDefault "propagation" none readOne?
    registration := ← r.withDefault "registration" none readOne? }

def read? (d : Document) : Option Intervals := (d.record? names).bind ofRecord?

def fields (i : Intervals) : List (String × Value) :=
  let write (d : Duration) : Value := .text (Spans.text d)
  Value.field "origination" write i.origination ++ Value.field "propagation" write i.propagation ++
    Value.field "registration" write i.registration

end Intervals

/-! ## Policies -/

/-- What a beacon policy selects beacons for. -/
inductive PolicyKind where
  | propagation
  | coreRegistration
  | upRegistration
  | downRegistration
  deriving DecidableEq

namespace PolicyKind

def all : List PolicyKind := [propagation, coreRegistration, upRegistration, downRegistration]

def index : PolicyKind → Nat
  | propagation => 0
  | coreRegistration => 1
  | upRegistration => 2
  | downRegistration => 3

def text : PolicyKind → String
  | propagation => "propagation"
  | coreRegistration => "core_registration"
  | upRegistration => "up_registration"
  | downRegistration => "down_registration"

theorem text_inj {kind kind' : PolicyKind} (h : kind.text = kind'.text) : kind = kind' := by
  cases kind <;> cases kind' <;> first | rfl | exact absurd h (by decide)

/-- All kinds by name. -/
def names : List (String × PolicyKind) := all.map fun k ↦ (k.text, k)

/-- Kinds are ordered by their places. -/
instance : Ord PolicyKind := ⟨fun a b ↦ compare a.index b.index⟩

instance : Std.LawfulEqOrd PolicyKind where
  compare_self {a} := by cases a <;> rfl
  eq_of_compare {a b} h := by cases a <;> cases b <;> first | rfl | exact absurd h (by decide)

instance : Std.TransOrd PolicyKind where
  eq_swap {a b} := by cases a <;> cases b <;> rfl
  isLE_trans {a b c} h₁ h₂ :=
    @Std.TransCmp.isLE_trans Nat compare _ a.index b.index c.index h₁ h₂

end PolicyKind

end Interdomain
