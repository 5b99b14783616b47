/-!
# Link types and relationships

A link between two ASes has a type, and each end of the link sees the other in a relationship.
Core and peering links look the same from both ends; on a transit link the first end has a child
and the second a parent.
-/

namespace Interdomain

inductive LinkType where
  /-- A link between core ASes. -/
  | core
  /-- A link between a provider, the first end, and a customer, the second. -/
  | transit
  /-- A peering link. -/
  | peer
  deriving DecidableEq

/-- An end of a link, in the order of its declaration. -/
inductive End where
  | first
  | second
  deriving DecidableEq

/-- What the AS at the far end is to the AS at the near end. -/
inductive Relationship where
  | core
  | child
  | parent
  | peer
  deriving DecidableEq

namespace LinkType

def text : LinkType → String
  | core => "Core"
  | transit => "Transit"
  | peer => "Peer"

def names : List (String × LinkType) := [core, transit, peer].map fun t ↦ (t.text, t)

/-- The relationship that the descriptor at an end of the link carries. -/
def relationship : LinkType → End → Relationship
  | core, _ => .core
  | peer, _ => .peer
  | transit, .first => .child
  | transit, .second => .parent

end LinkType

namespace Relationship

def text : Relationship → String
  | core => "CORE"
  | child => "CHILD"
  | parent => "PARENT"
  | peer => "PEER"

def names : List (String × Relationship) := [core, child, parent, peer].map fun r ↦ (r.text, r)

end Relationship

end Interdomain
