import Interdomain.Emulation
import Interdomain.Link.Registry

/-!
# Resolution of links

A declared link names two ASes, and resolution finds the routers, addresses, ids and ports. It goes
in three steps. Planning finds the routers and addresses of every link and reads only. The capacity
check adds up how many ids and ports the plan needs. Committing takes them, link by link and
repetition by repetition, and attaches the descriptors. A commit that failed would leave behind what
it had taken; after the check none of its steps can fail, so a failed resolution leaves the network
as it was.

Links over cross-connects come before links over exchanges, and the ids follow this order.
-/

namespace Interdomain

structure ResolverOptions where
  /-- Whether both ends of a peering link tell the id of the other. -/
  peerRemoteIds : Bool := true
  deriving DecidableEq

/-! ## Results -/

/-- One end of a resolved link. -/
structure ResolvedEnd where
  /-- The AS. -/
  ia : IsdAsn
  router : String
  id : Nat
  /-- The address and the port. -/
  underlay : Ipv4.Endpoint
  deriving DecidableEq

/-- One repetition of a declared link. -/
structure ResolvedLink where
  /-- What it runs over. -/
  medium : Medium
  /-- Its type. -/
  linkType : LinkType
  /-- The first end. -/
  a : ResolvedEnd
  /-- The second end. -/
  b : ResolvedEnd
  deriving DecidableEq

structure PlannedEnd where
  /-- The AS. -/
  ia : IsdAsn
  router : String
  address : Ipv4.Address
  deriving DecidableEq

structure PlannedLink where
  /-- What it runs over. -/
  medium : Medium
  /-- Its type. -/
  linkType : LinkType
  /-- The first end. -/
  a : PlannedEnd
  /-- The second end. -/
  b : PlannedEnd
  /-- The size of the largest packet. -/
  mtu : UInt32
  /-- How often it is repeated. -/
  count : UInt32
  deriving DecidableEq

/-- The router that gives the port of an end. -/
def PlannedEnd.port (x : PlannedEnd) : Port := (x.ia.asn, x.router)

def PlannedLink.ends (l : PlannedLink) : List PlannedEnd := [l.a, l.b]

namespace Resolution

/-! ## Planning -/

def checkAs (e : Emulation) (ia : IsdAsn) : Except Fault Unit :=
  if (e.as? ia.asn).isSome then .ok () else .error (.unknownAs ia.asn)

def namedRouter (e : Emulation) (ia : IsdAsn) (name : String) : Except Fault (String × Router) :=
  match e.router? ia.asn name with
  | some r => .ok (name, r)
  | none => .error (.unknownRouter ia name)

/-- Refuse a named router that is missing. -/
def checkNamed (e : Emulation) (ia : IsdAsn) : Option String → Except Fault Unit
  | some name => do let _ ← namedRouter e ia name
  | none => .ok ()

/-- Whether a router may be chosen where one may be named. -/
def admits (name : Option String) (router : String) : Bool := name.all (· = router)

/-- The first router with a connection to the AS at the other end and, in the order of its
connections, the first router there; named routers only, where they are named. -/
def discover? (e : Emulation) (ends : LinkEnds) : Option ((String × Router) × (String × Router)) :=
  (e.routers ends.a.asn).findSome? fun a ↦
    if admits ends.aRouter a.1 then
      a.2.crossConnects.keys.findSome? fun (asn, name) ↦
        if asn = ends.b.asn ∧ admits ends.bRouter name then
          (e.router? asn name).map fun r ↦ (a, (name, r))
        else none
    else none

/-- The two routers of a cross-connect. -/
def crossConnectRouters (e : Emulation) (ends : LinkEnds) :
    Except Fault ((String × Router) × (String × Router)) :=
  match ends.aRouter, ends.bRouter with
  | some a, some b => do return (← namedRouter e ends.a a, ← namedRouter e ends.b b)
  | a, b => do
    checkNamed e ends.a a
    checkNamed e ends.b b
    match discover? e ends with
    | some pair => return pair
    | none => .error (.unresolvedLink ends.a ends.b .noRouter)

/-- The connection of a router to a router of another AS. -/
def connection (ends : LinkEnds) (own : String × Router) (peer : String) (peerIa : IsdAsn) :
    Except Fault CrossConnect :=
  match own.2.crossConnects.get? (peerIa.asn, peer) with
  | some c => .ok c
  | none => .error (.unresolvedLink ends.a ends.b (.notConnected own.1 peer peerIa))

/-- Plan a link over a cross-connect: the routers have to be connected with each other, over one
network that exists. -/
def planCrossConnect (e : Emulation) (ends : LinkEnds) (count : UInt32) :
    Except Fault PlannedLink := do
  checkAs e ends.a
  checkAs e ends.b
  let (a, b) ← crossConnectRouters e ends
  let aSide ← connection ends a b.1 ends.b
  let bSide ← connection ends b a.1 ends.a
  if aSide.network ≠ bSide.network then
    .error (.asymmetricLink ends.a ends.b aSide.network bSide.network)
  else match e.network? .crossConnect aSide.network with
    | none => .error (.unknownNetwork aSide.network)
    | some network =>
      return {
        medium := .crossConnect
        linkType := ends.linkType
        a := ⟨ends.a, a.1, aSide.address.address⟩
        b := ⟨ends.b, b.1, bSide.address.address⟩
        mtu := network.mtu
        count }

/-- The routers of an AS that may be the end of a link: the named one, or all. -/
def candidates (e : Emulation) (ia : IsdAsn) : Option String → Except Fault (List (String × Router))
  | some name => do return [← namedRouter e ia name]
  | none => .ok (e.routers ia.asn)

/-- A router as the end of a link over a network, if it is attached there. -/
def attachedEnd? (ia : IsdAsn) (network : Network) (router : String × Router) :
    Option PlannedEnd :=
  (router.2.interfaces.find? (·.AttachesTo network)).map fun i ↦ ⟨ia, router.1, i.address⟩

/-- The end of a link at an exchange: the first router that is attached to its network. -/
def exchangeEnd (e : Emulation) (ia : IsdAsn) (router : Option String) (id : ExchangeId) :
    Except Fault PlannedEnd :=
  match e.network? .exchange (exchangeNetworkName id) with
  | none => .error (.exchangeMembership ia id)
  | some network => do
    match (← candidates e ia router).findSome? (attachedEnd? ia network) with
    | some planned => return planned
    | none => .error (.exchangeMembership ia id)

/-- Plan a link over an exchange: both ASes need a router there. -/
def planExchangeLink (e : Emulation) (id : ExchangeId) (ends : LinkEnds) (count : UInt32) :
    Except Fault PlannedLink := do
  checkAs e ends.a
  checkAs e ends.b
  let a ← exchangeEnd e ends.a ends.aRouter id
  let b ← exchangeEnd e ends.b ends.bRouter id
  match e.network? .exchange (exchangeNetworkName id) with
  | none => .error (.exchangeMembership ends.a id)
  | some network =>
    return { medium := .exchange id, linkType := ends.linkType, a, b, mtu := network.mtu, count }

def planLink (e : Emulation) (d : LinkKey × UInt32) : Except Fault PlannedLink :=
  match d.1.medium with
  | .crossConnect => planCrossConnect e d.1.ends d.2
  | .exchange id => planExchangeLink e id d.1.ends d.2

/-! ## Capacity -/

/-- One end of a planned link with its repetitions. -/
abbrev Demand := PlannedEnd × UInt32

/-- The ends of a plan in the order in which they are served. -/
def demands (plan : List PlannedLink) : List Demand :=
  plan.flatMap fun l ↦ l.ends.map fun x ↦ (x, l.count)

/-- Running totals by key. They have 64 bits, which no check that goes on can fill. -/
abbrev Totals (κ : Type) := Roster κ UInt64

namespace Totals

variable {κ : Type} [DecidableEq κ]

def of (t : Totals κ) (k : κ) : UInt64 := (t.get? k).getD 0

def add (t : Totals κ) (k : κ) (n : UInt32) : Totals κ := t.insert k (t.of k + n.toUInt64)

end Totals

/-- What the ends that have been checked need. -/
structure Needs where
  /-- Interface ids, by AS. -/
  ids : Totals Asn := ∅
  /-- Ports, by router. -/
  ports : Totals Port := ∅

/-- Check one end: with it, what has been needed so far has to be there. -/
def Needs.serve (e : Emulation) (needs : Needs) (d : Demand) : Except Fault Needs :=
  let asn := d.1.ia.asn
  let ids := needs.ids.add asn d.2
  if e.freeInterfaceIds asn < (ids.of asn).toNat then .error (.interfaceIdsExhausted asn)
  else
    let ports := needs.ports.add d.1.port d.2
    if e.freePorts asn d.1.router < (ports.of d.1.port).toNat then
      .error (.portsExhausted asn d.1.router)
    else .ok ⟨ids, ports⟩

/-- Check that a plan can be committed. -/
def checkCapacity (e : Emulation) (plan : List PlannedLink) : Except Fault Unit := do
  let _ ← (demands plan).foldlM (Needs.serve e) {}

def plan (e : Emulation) (links : LinkRegistry) : Except Fault (List PlannedLink) := do
  let plan ← links.declarations.mapM (planLink e)
  checkCapacity e plan
  return plan

/-! ## Commitment -/

/-- The descriptor at an end of a link. -/
def descriptor (l : PlannedLink) (role : End) (near far : ResolvedEnd) (remoteIds : Bool) :
    Descriptor where
  underlay := ⟨near.underlay, far.underlay⟩
  isdAs := far.ia
  linkTo := l.linkType.relationship role
  mtu := l.mtu
  remoteInterfaceId := if remoteIds ∧ l.linkType = .peer then some far.id else none

/-- Commit one repetition of a planned link: two ids, two ports, two descriptors. -/
def commit (options : ResolverOptions) (l : PlannedLink) :
    Change Emulation Fault ResolvedLink := do
  let aId ← Emulation.allocateInterfaceId l.a.ia.asn
  let bId ← Emulation.allocateInterfaceId l.b.ia.asn
  let aPort ← Emulation.allocatePort l.a.ia.asn l.a.router
  let bPort ← Emulation.allocatePort l.b.ia.asn l.b.router
  let a : ResolvedEnd := ⟨l.a.ia, l.a.router, aId, ⟨l.a.address, aPort⟩⟩
  let b : ResolvedEnd := ⟨l.b.ia, l.b.router, bId, ⟨l.b.address, bPort⟩⟩
  let aDescriptor := descriptor l .first a b options.peerRemoteIds
  let bDescriptor := descriptor l .second b a options.peerRemoteIds
  Emulation.attach a.ia.asn a.router a.id aDescriptor
  Emulation.attach b.ia.asn b.router b.id bDescriptor
  return ⟨l.medium, l.linkType, a, b⟩

/-- The repetitions of a plan. -/
def repetitions (plan : List PlannedLink) : List PlannedLink :=
  plan.flatMap fun l ↦ List.replicate l.count.toNat l

/-- Resolve all declared links. -/
def resolve (options : ResolverOptions) (links : LinkRegistry) :
    Change Emulation Fault (List ResolvedLink) := do
  let plan ← Change.look (plan · links)
  (repetitions plan).mapM (commit options)

end Resolution

end Interdomain
