import Interdomain.Link.Ends

/-!
# Faults

Why a network cannot be set up as it was declared. A fault names its cause, and `Fault.message` is
the only place that puts causes into words.
-/

namespace Interdomain

/-- Why two routers cannot be found for a cross-connect. -/
inductive UnresolvedReason where
  /-- No router of the first AS has a cross-connect to the second. -/
  | noRouter
  /-- A router has no cross-connect to a router of an AS. -/
  | notConnected (router peer : String) (peerIa : IsdAsn)
  deriving DecidableEq

/-- Why a network cannot be set up. -/
inductive Fault where
  /-- A link joins an AS with itself. -/
  | selfLink (asn : Asn)
  /-- A link is declared twice. -/
  | duplicateLink (link : LinkKey)
  /-- A link is declared zero times. -/
  | invalidLinkCount (link : LinkKey)
  /-- An AS is missing. -/
  | unknownAs (asn : Asn)
  /-- An AS has no router of this name. -/
  | unknownRouter (ia : IsdAsn) (router : String)
  /-- There are no routers for a cross-connect. -/
  | unresolvedLink (a b : IsdAsn) (reason : UnresolvedReason)
  /-- The two ends of a cross-connect name different networks. -/
  | asymmetricLink (a b : IsdAsn) (aNetwork bNetwork : String)
  /-- An AS is not at an exchange. -/
  | exchangeMembership (ia : IsdAsn) (exchange : ExchangeId)
  /-- A cross-connect network is missing. -/
  | unknownNetwork (name : String)
  /-- An AS has no room for a gateway. -/
  | capacity (asn : Asn) (limit : Nat)
  /-- A port is taken on a host. -/
  | portConflict (host : String) (port : Nat)
  /-- An AS has no host of this name with an address. -/
  | unknownHost (asn : Asn) (host : String)
  /-- A name is taken in an AS. -/
  | duplicateNode (asn : Asn) (name : String)
  /-- An AS has no keys yet. -/
  | notConfigured (asn : Asn)
  /-- An AS has its keys already. -/
  | alreadyConfigured (asn : Asn)
  /-- An AS has no networks. -/
  | noInternalNetworks (asn : Asn)
  /-- There is no gateway of this name. -/
  | gatewayNotFound (name : String)
  /-- An AS has no interface ids left. -/
  | interfaceIdsExhausted (asn : Asn)
  /-- A router has no ports left. -/
  | portsExhausted (asn : Asn) (router : String)
  deriving DecidableEq

/-- A reason in words, for a link between two given ASes. -/
def UnresolvedReason.message (a b : IsdAsn) : UnresolvedReason → String
  | noRouter => "no router of AS" ++ a.text ++ " has a cross-connect to AS" ++ b.text
  | notConnected router peer peerIa =>
    "router " ++ router ++ " has no cross-connect to router " ++ peer ++ " of AS" ++ peerIa.text

def Fault.message : Fault → String
  | selfLink asn => "cannot link AS " ++ asnText asn ++ " to itself"
  | duplicateLink link => "link " ++ link.text ++ " is already declared"
  | invalidLinkCount link => "link " ++ link.text ++ " must be repeated at least once"
  | unknownAs asn => "AS " ++ asnText asn ++ " does not exist"
  | unknownRouter ia router => "cannot find router " ++ router ++ " in AS " ++ ia.text
  | unresolvedLink a b reason =>
    "cannot find a cross-connect to configure link " ++ a.text ++ " -> " ++ b.text ++ ": " ++
      reason.message a b
  | asymmetricLink a b aNetwork bNetwork =>
    "link " ++ a.text ++ " -> " ++ b.text ++ " is asymmetric: " ++ a.text ++ " reports network " ++
      aNetwork ++ ", " ++ b.text ++ " reports " ++ bNetwork
  | exchangeMembership ia exchange =>
    "cannot resolve SCION link: AS " ++ ia.text ++ " has no router in ix" ++ asnText exchange
  | unknownNetwork name => "network " ++ name ++ " does not exist in scope xc"
  | capacity asn limit =>
    "AS " ++ asnText asn ++ " already has " ++ Decimal.text limit ++
      " gateway(s) configured, which is the supported maximum"
  | portConflict host port =>
    "port " ++ Decimal.text port ++ " is already used by a gateway on host " ++ host
  | unknownHost asn host => "host " ++ host ++ " does not exist in AS " ++ asnText asn
  | duplicateNode asn name => "node " ++ name ++ " already exists in AS " ++ asnText asn
  | notConfigured asn => "AS " ++ asnText asn ++ " is not configured yet"
  | alreadyConfigured asn => "AS " ++ asnText asn ++ " is already configured"
  | noInternalNetworks asn =>
    "AS " ++ asnText asn ++ " has no internal networks to derive an MTU from"
  | gatewayNotFound name => "gateway " ++ name ++ " not found"
  | interfaceIdsExhausted asn => "AS " ++ asnText asn ++ " ran out of interface identifiers"
  | portsExhausted asn router =>
    "router " ++ router ++ " in AS " ++ asnText asn ++ " ran out of underlay ports"

end Interdomain
