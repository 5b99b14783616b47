import Interdomain.Config

/-!
# Validation of configurations

A configuration is checked before anything is built from it: the domains, the exchanges, the ASes
one by one, and the links. The checks run in a fixed order and stop at the first defect. Where one
item must differ from the others of its list it is compared with those before it, so the later of
two equal items is the defect.
-/

namespace Interdomain

/-! ## Defects -/

/-- What a default address or a packet size belongs to. -/
inductive Subject where
  | exchange (id : ExchangeId)
  /-- A network of an AS. -/
  | network (name : String) (asn : Asn)
  /-- A connection of a router of an AS to another AS. -/
  | crossConnect (router : String) (asn peerAsn : Asn)
  deriving DecidableEq

def Subject.text : Subject → String
  | exchange id => "IX" ++ asnText id
  | network name asn => "network " ++ name ++ " of AS " ++ asnText asn
  | crossConnect router asn peerAsn =>
    "cross-connect " ++ router ++ " of AS " ++ asnText asn ++ " to AS " ++ asnText peerAsn

/-- What an AS declares under a name. -/
inductive DeclaredName where
  | membership (isd : Isd)
  /-- A network or a node. -/
  | named (name : String)
  deriving DecidableEq

def DeclaredName.text : DeclaredName → String
  | membership isd => "ISD " ++ isdText isd
  | named name => name

inductive LinkDefect where
  /-- It is repeated zero times. -/
  | zeroCount
  /-- It runs over an exchange and names none. -/
  | missingExchange
  /-- It names an exchange that is not declared. -/
  | undeclaredExchange (id : ExchangeId)
  /-- It runs over a cross-connect and names an exchange. -/
  | strayExchange
  deriving DecidableEq

def LinkDefect.message : LinkDefect → String
  | zeroCount => "count must be at least 1"
  | missingExchange => "exchange links need an exchange id"
  | undeclaredExchange id => "internet exchange " ++ asnText id ++ " is not declared"
  | strayExchange => "cross-connect links cannot name an exchange"

inductive Defect where
  /-- A domain is declared twice. -/
  | duplicateIsd (isd : Isd)
  /-- An AS is declared twice. -/
  | duplicateAs (asn : Asn)
  /-- An exchange is declared twice. -/
  | duplicateExchange (id : ExchangeId)
  /-- An AS is in no domain. -/
  | noMembership (asn : Asn)
  /-- An AS is in a domain that is not declared. -/
  | undeclaredIsd (asn : Asn) (isd : Isd)
  /-- An AS declares something twice. -/
  | duplicateName (asn : Asn) (name : DeclaredName)
  /-- A node joins a network that it cannot join. -/
  | unknownNetwork (asn : Asn) (node network : String)
  /-- There are no default addresses. -/
  | addressTemplate (subject : Subject)
  /-- The size of packets is zero. -/
  | invalidMtu (subject : Subject)
  /-- A link is malformed. -/
  | invalidLink (index : Nat) (reason : LinkDefect)
  deriving DecidableEq

def Defect.message : Defect → String
  | duplicateIsd isd => "ISD " ++ isdText isd ++ " is declared more than once"
  | duplicateAs asn => "AS " ++ asnText asn ++ " is declared more than once"
  | duplicateExchange id => "internet exchange " ++ asnText id ++ " is declared more than once"
  | noMembership asn => "AS " ++ asnText asn ++ " is not a member of any ISD"
  | undeclaredIsd asn isd => "AS " ++ asnText asn ++ " joins undeclared ISD " ++ isdText isd
  | duplicateName asn name =>
    "AS " ++ asnText asn ++ " declares " ++ name.text ++ " more than once"
  | unknownNetwork asn node network =>
    "node " ++ node ++ " of AS " ++ asnText asn ++ " joins unknown network " ++ network
  | addressTemplate subject =>
    "cannot derive a default prefix for " ++ subject.text ++ "; set one explicitly"
  | invalidMtu subject => "invalid MTU for " ++ subject.text
  | invalidLink index reason =>
    "invalid link " ++ Decimal.text index ++ ": " ++ reason.message

/-! ## Checks -/

/-- Refuse something unless a condition holds. -/
def require (p : Prop) [Decidable p] (d : Defect) : Except Defect Unit :=
  if p then .ok () else .error d

/-- Check every item of a list against the items before it. -/
def checkEach {α : Type} (check : List α → α → Except Defect Unit) (before : List α) :
    List α → Except Defect Unit
  | [] => .ok ()
  | x :: rest => do
    check before x
    checkEach check (before ++ [x]) rest

/-- The largest number that fits the second or third octet of a default address. -/
def lastTemplateNumber : Nat := 255

namespace Config

/-- A domain is declared once. -/
def checkIsd (before : List Isd) (isd : Isd) : Except Defect Unit :=
  require (isd ∉ before) (.duplicateIsd isd)

/-- An exchange is declared once, has addresses, and carries packets. -/
def checkExchange (before : List ExchangeDecl) (x : ExchangeDecl) : Except Defect Unit := do
  require (x.id ∉ before.map (·.id)) (.duplicateExchange x.id)
  require (x.subnet.isSome ∨ x.id.toNat ≤ lastTemplateNumber) (.addressTemplate (.exchange x.id))
  require (x.mtu ≠ some 0) (.invalidMtu (.exchange x.id))

/-- A membership is in a declared domain, once. -/
def checkMembership (isds : List Isd) (asn : Asn) (before : List MembershipDecl)
    (m : MembershipDecl) : Except Defect Unit := do
  require (m.isd ∈ isds) (.undeclaredIsd asn m.isd)
  require (m.isd ∉ before.map (·.isd)) (.duplicateName asn (.membership m.isd))

/-- A network is declared once, has addresses, and carries packets. -/
def checkNetwork (asn : Asn) (before : List NetworkDecl) (n : NetworkDecl) :
    Except Defect Unit := do
  require (n.name ∉ before.map (·.name)) (.duplicateName asn (.named n.name))
  require
    (n.subnet.isSome ∨ (asn.toNat ≤ lastTemplateNumber ∧ before.length ≤ lastTemplateNumber))
    (.addressTemplate (.network n.name asn))
  require (n.mtu ≠ some 0) (.invalidMtu (.network n.name asn))

/-- The name of a node is declared once. -/
def checkNodeName (asn : Asn) (before : List String) (name : String) : Except Defect Unit :=
  require (name ∉ before) (.duplicateName asn (.named name))

/-- Whether a network name refers to a declared exchange. -/
def namesExchange (c : Config) (network : String) : Prop :=
  ∃ id ∈ exchangeOfName? network, id ∈ c.exchanges.map (·.id)

instance (c : Config) (network : String) : Decidable (c.namesExchange network) :=
  match h : exchangeOfName? network with
  | none => isFalse fun ⟨_, hid, _⟩ ↦ by simp [h] at hid
  | some id =>
    decidable_of_iff (id ∈ c.exchanges.map (·.id))
      ⟨fun hid ↦ ⟨id, h, hid⟩, fun ⟨_, hid', hmem⟩ ↦ by
        rw [h] at hid'
        exact Option.some.inj hid' ▸ hmem⟩

/-- A node joins networks of its AS. -/
def checkNodeNetwork (a : AsDecl) (joined : String × String) : Except Defect Unit :=
  require (joined.2 ∈ a.networks.map (·.name)) (.unknownNetwork a.asn joined.1 joined.2)

/-- A router joins networks of its AS and of exchanges. -/
def checkRouterNetwork (c : Config) (a : AsDecl) (joined : String × String) :
    Except Defect Unit :=
  require (joined.2 ∈ a.networks.map (·.name) ∨ c.namesExchange joined.2)
    (.unknownNetwork a.asn joined.1 joined.2)

/-- A connection carries packets. -/
def checkCrossConnect (a : AsDecl) (router : String) (x : CrossConnectDecl) :
    Except Defect Unit :=
  require (x.mtu ≠ some 0) (.invalidMtu (.crossConnect router a.asn x.peerAsn))

/-- An AS is declared once, and each of its parts is right. -/
def checkAs (c : Config) (before : List AsDecl) (a : AsDecl) : Except Defect Unit := do
  require (a.asn ∉ before.map (·.asn)) (.duplicateAs a.asn)
  require (a.isds.isEmpty = false) (.noMembership a.asn)
  checkEach (checkMembership c.isds a.asn) [] a.isds
  checkEach (checkNetwork a.asn) [] a.networks
  checkEach (checkNodeName a.asn) [] a.nodeNames
  a.nodeNetworks.forM (checkNodeNetwork a)
  a.routerNetworks.forM (c.checkRouterNetwork a)
  a.routers.forM fun r ↦ r.crossConnects.forM (checkCrossConnect a r.name)

/-- What is wrong with a link, if anything. -/
def linkDefect? (c : Config) (l : LinkDecl) : Option LinkDefect :=
  if l.count = 0 then some .zeroCount
  else match l.kind, l.exchange with
    | .exchange, none => some .missingExchange
    | .exchange, some id =>
      if id ∈ c.exchanges.map (·.id) then none else some (.undeclaredExchange id)
    | .crossConnect, some _ => some .strayExchange
    | .crossConnect, none => none

/-- A link is well-formed. -/
def checkLink (c : Config) (before : List LinkDecl) (l : LinkDecl) : Except Defect Unit :=
  match c.linkDefect? l with
  | some reason => .error (.invalidLink before.length reason)
  | none => .ok ()

/-- Check a configuration. -/
def validate (c : Config) : Except Defect Unit := do
  checkEach checkIsd [] c.isds
  checkEach checkExchange [] c.exchanges
  checkEach c.checkAs [] c.ases
  checkEach c.checkLink [] c.links

end Config

end Interdomain
