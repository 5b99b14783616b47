import Interdomain.Identifier
import Interdomain.LinkType

/-!
# Ends of links

A declared link has two ends, each an AS and perhaps one of its routers, and a type. It runs over a
cross-connect or over an internet exchange.
-/

namespace Interdomain

/-- What a link runs over. -/
inductive Medium where
  /-- A cross-connect between two routers. -/
  | crossConnect
  | exchange (id : ExchangeId)
  deriving DecidableEq

def Medium.text : Medium → String
  | crossConnect => "XC"
  | exchange id => "IX" ++ asnText id

/-- The two ends of a link and its type. -/
structure LinkEnds where
  /-- The AS at the first end. -/
  a : IsdAsn
  /-- The AS at the second end. -/
  b : IsdAsn
  /-- The router at the first end, if it is named. -/
  aRouter : Option String
  /-- The router at the second end, if it is named. -/
  bRouter : Option String
  /-- The type. -/
  linkType : LinkType
  deriving DecidableEq

namespace LinkEnds

/-- The name of a router in a declaration. The empty name leaves the choice open. -/
def routerOfName (name : String) : Option String := if name.isEmpty then none else some name

/-- Ends with routers that may have empty names. -/
def named (a b : IsdAsn) (linkType : LinkType) (aRouter bRouter : String) : LinkEnds :=
  ⟨a, b, routerOfName aRouter, routerOfName bRouter, linkType⟩

def endText (ia : IsdAsn) : Option String → String
  | some router => "AS" ++ ia.text ++ "_" ++ router
  | none => "AS" ++ ia.text

def text (ends : LinkEnds) : String :=
  endText ends.a ends.aRouter ++ " -(" ++ ends.linkType.text ++ ")-> " ++
    endText ends.b ends.bRouter

/-- The same link declared from the other end. -/
def swap (ends : LinkEnds) : LinkEnds :=
  ⟨ends.b, ends.a, ends.bRouter, ends.aRouter, ends.linkType⟩

end LinkEnds

/-- What tells declared links apart: the medium and the ends. -/
structure LinkKey where
  medium : Medium
  ends : LinkEnds
  deriving DecidableEq

def LinkKey.text (k : LinkKey) : String := k.medium.text ++ ": " ++ k.ends.text

end Interdomain
