import Interdomain.Identifier
import Interdomain.Ipv4

/-!
# Networks

A network is known by its name within a scope: the inside of one AS, the internet exchanges, or the
cross-connects. An interface is the attachment of a node to a network, and it refers to the network
by scope and name.
-/

namespace Interdomain

/-- Where the name of a network is known. -/
inductive Scope where
  /-- Inside an AS. -/
  | inside (asn : Asn)
  /-- Among the internet exchanges. -/
  | exchange
  /-- Among the cross-connects. -/
  | crossConnect
  deriving DecidableEq

def Scope.text : Scope → String
  | inside asn => "AS" ++ asnText asn
  | exchange => "ix"
  | crossConnect => "xc"

structure Network where
  /-- The name in its scope. -/
  name : String
  /-- The scope of the name. -/
  scope : Scope
  /-- The addresses. -/
  subnet : Ipv4.Subnet
  /-- The size of the largest packet. -/
  mtu : UInt32
  deriving DecidableEq

/-- The size of the largest packet where none is declared. -/
def defaultMtu : UInt32 := 1500

/-- The attachment of a node to a network. -/
structure Interface where
  /-- The scope of the network. -/
  scope : Scope
  /-- The name of the network. -/
  network : String
  /-- The address of the node there. -/
  address : Ipv4.Address
  deriving DecidableEq

/-- Whether an interface is attached to a network. -/
def Interface.AttachesTo (i : Interface) (n : Network) : Prop :=
  i.scope = n.scope ∧ i.network = n.name

instance (i : Interface) (n : Network) : Decidable (i.AttachesTo n) :=
  inferInstanceAs (Decidable (_ ∧ _))

/-! ## Names -/

/-- The name of the network of an exchange: `ix` and its number. -/
def exchangeNetworkName (id : ExchangeId) : String := "ix" ++ asnText id

/-- The exchange that a network name refers to. -/
def exchangeOfName? (name : String) : Option ExchangeId :=
  match name.toList with
  | 'i' :: 'x' :: cs => (Decimal.readUnsigned? 4294967295 cs).map UInt32.ofNat
  | _ => none

/-- An end of a cross-connect: an AS and one of its routers. -/
abbrev Port := Asn × String

/-- Whether a port comes before another: by AS number, then by the name of the router. -/
def Port.before (a b : Port) : Bool := ((compare a.1 b.1).then (compare a.2 b.2)).isLE

def Port.text (p : Port) : String := asnText p.1 ++ "_" ++ p.2

/-- The name of the network between two ports where none is declared, the same from both ends. -/
def crossConnectNetworkName (a b : Port) : String :=
  if Port.before a b then "xc_" ++ Port.text a ++ "_" ++ Port.text b
  else "xc_" ++ Port.text b ++ "_" ++ Port.text a

end Interdomain
