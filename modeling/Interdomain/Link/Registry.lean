import Interdomain.Change
import Interdomain.Fault

/-!
# Declared links

A registry holds the declared links with their repeat counts: those over cross-connects and those
over exchanges, each in the order of declaration. A link between an AS and itself, a link repeated
zero times and a link that is declared already are refused.
-/

namespace Interdomain

structure LinkRegistry where
  /-- The links over cross-connects. -/
  crossConnects : List (LinkEnds × UInt32) := []
  /-- The links over exchanges. -/
  exchangeLinks : List (ExchangeId × LinkEnds × UInt32) := []
  deriving DecidableEq

namespace LinkRegistry

def empty : LinkRegistry := {}

/-- The links over cross-connects with what tells them apart. -/
def crossConnectDeclarations (r : LinkRegistry) : List (LinkKey × UInt32) :=
  r.crossConnects.map fun (ends, count) ↦ (⟨.crossConnect, ends⟩, count)

/-- The links over exchanges with what tells them apart. -/
def exchangeDeclarations (r : LinkRegistry) : List (LinkKey × UInt32) :=
  r.exchangeLinks.map fun (id, ends, count) ↦ (⟨.exchange id, ends⟩, count)

/-- All links in the order in which they are resolved. -/
def declarations (r : LinkRegistry) : List (LinkKey × UInt32) :=
  r.crossConnectDeclarations ++ r.exchangeDeclarations

/-- The number of links, not counting repetitions. -/
def size (r : LinkRegistry) : Nat := r.crossConnects.length + r.exchangeLinks.length

def contains (r : LinkRegistry) (k : LinkKey) : Bool := (r.declarations.map (·.1)).contains k

/-- Put a link after the others of its medium. -/
def push (r : LinkRegistry) (k : LinkKey) (count : UInt32) : LinkRegistry :=
  match k.medium with
  | .crossConnect => { r with crossConnects := r.crossConnects ++ [(k.ends, count)] }
  | .exchange id => { r with exchangeLinks := r.exchangeLinks ++ [(id, k.ends, count)] }

/-- Refuse a link that cannot be declared. -/
def check (r : LinkRegistry) (k : LinkKey) (count : UInt32) : Except Fault Unit :=
  if k.ends.a.asn = k.ends.b.asn then .error (.selfLink k.ends.a.asn)
  else if count = 0 then .error (.invalidLinkCount k)
  else if r.contains k then .error (.duplicateLink k)
  else .ok ()

def add (k : LinkKey) (count : UInt32) : Change LinkRegistry Fault Unit := do
  Change.look (·.check k count)
  Change.write (·.push k count)

/-- The registries that come about by declaring links one after another. -/
inductive Declared : LinkRegistry → Prop
  /-- No link is declared. -/
  | empty : Declared empty
  /-- One more link is declared. -/
  | add {r r' : LinkRegistry} {k : LinkKey} {count : UInt32} (rest : Declared r)
      (added : (LinkRegistry.add k count).after r = .ok r') : Declared r'

/-- The line of a declared link. -/
def line (d : LinkKey × UInt32) : String :=
  let times := if 1 < d.2 then " (" ++ Decimal.text d.2.toNat ++ " times)" else ""
  "    " ++ d.1.text ++ times ++ "\n"

/-- The listing of all links, those over exchanges first. -/
def text (r : LinkRegistry) : String :=
  "ScionLayer:\n" ++ String.join ((r.exchangeDeclarations ++ r.crossConnectDeclarations).map line)

/-! ## What can be declared -/

variable {r r' : LinkRegistry} {k : LinkKey} {count : UInt32} {d : LinkKey × UInt32}

theorem mem_declarations_push :
    d ∈ (r.push k count).declarations ↔ d ∈ r.declarations ∨ d = (k, count) := by
  obtain ⟨medium, ends⟩ := k
  cases medium with
  | crossConnect =>
    simp only [push, declarations, crossConnectDeclarations, exchangeDeclarations, List.map_append,
      List.map_cons, List.map_nil, List.mem_append, List.mem_singleton]
    exact or_right_comm
  | exchange id =>
    simp only [push, declarations, crossConnectDeclarations, exchangeDeclarations, List.map_append,
      List.map_cons, List.map_nil, List.mem_append, List.mem_singleton, or_assoc]

theorem add_eq_ok_iff :
    (add k count).after r = .ok r' ↔
      k.ends.a.asn ≠ k.ends.b.asn ∧ count ≠ 0 ∧ r.contains k = false ∧ r.push k count = r' := by
  rw [add, Change.after_look_bind, check]
  split
  case isTrue hself => exact iff_of_false nofun fun h ↦ h.1 hself
  case isFalse hself =>
    split
    case isTrue hzero => exact iff_of_false nofun fun h ↦ h.2.1 hzero
    case isFalse hzero =>
      split
      case isTrue hdup => exact iff_of_false nofun fun h ↦ by simp [hdup] at h
      case isFalse hdup =>
        have hafter : (Except.ok () >>= fun _ ↦ (Change.write (·.push k count)).after r)
            = (.ok (r.push k count) : Except Fault LinkRegistry) := rfl
        rw [hafter, Except.ok.injEq]
        simp only [hself, hzero, hdup, ne_eq, not_false_eq_true, true_and]

theorem Declared.asn_ne (h : r.Declared) (hd : d ∈ r.declarations) :
    d.1.ends.a.asn ≠ d.1.ends.b.asn := by
  induction h with
  | empty => exact absurd hd List.not_mem_nil
  | add rest added ih =>
    obtain ⟨hne, -, -, rfl⟩ := add_eq_ok_iff.1 added
    rcases mem_declarations_push.1 hd with hd | rfl
    · exact ih hd
    · exact hne

theorem Declared.count_ne_zero (h : r.Declared) (hd : d ∈ r.declarations) : d.2 ≠ 0 := by
  induction h with
  | empty => exact absurd hd List.not_mem_nil
  | add rest added ih =>
    obtain ⟨-, hcount, -, rfl⟩ := add_eq_ok_iff.1 added
    rcases mem_declarations_push.1 hd with hd | rfl
    · exact ih hd
    · exact hcount

end LinkRegistry

end Interdomain
