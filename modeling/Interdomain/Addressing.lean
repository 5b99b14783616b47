import Interdomain.Change
import Interdomain.Collection.Roster
import Interdomain.Network

/-!
# Addressing

Inside an AS the networks hand out their addresses from both sides: hosts and control services take
offsets from 71 upward, routers from 254 or the last host downward, until the two meet. On an
exchange a router has the offset of its AS number. Where no addresses are declared they follow a
template, `10.<second>.<third>.0/24`.
-/

namespace Interdomain

/-! ## Offsets -/

/-- The offsets of a network that are free: all from `low` to `high`. -/
structure Offsets where
  /-- The next offset for hosts. -/
  low : Nat
  /-- The next offset for routers. -/
  high : Nat
  deriving DecidableEq

namespace Offsets

/-- The first offset for hosts. -/
def firstHost : Nat := 71

/-- The first offset for routers, in a network that is large enough. -/
def firstRouter : Nat := 254

/-- The free offsets of a subnet before any is taken. -/
def ofSubnet (n : Ipv4.Subnet) : Offsets := ⟨firstHost, min (n.size - 2) firstRouter⟩

/-- Take an offset for a host. -/
def takeLow? (o : Offsets) : Option (Nat × Offsets) :=
  if o.high < o.low then none else some (o.low, { o with low := o.low + 1 })

/-- Take an offset for a router. -/
def takeHigh? (o : Offsets) : Option (Nat × Offsets) :=
  if o.high < o.low ∨ o.high = 0 then none else some (o.high, { o with high := o.high - 1 })

end Offsets

/-! ## Templates -/

/-- The default addresses `10.<second>.<third>.0/24`, where both numbers fit an octet. -/
def defaultSubnet? (second third : Nat) : Option Ipv4.Subnet :=
  if second ≤ 255 ∧ third ≤ 255 then
    some ⟨.ofOctets 10 (UInt8.ofNat second) (UInt8.ofNat third) 0, 24, by decide⟩
  else none

/-- The loopback address of a router: one after another from `10.0.0.1`. -/
def loopback (index : Nat) : Ipv4.Address :=
  ⟨((Ipv4.Address.ofOctets 10 0 0 1).value + index) % 0x100000000, Nat.mod_lt _ (by decide)⟩

/-! ## Interfaces -/

/-- Why a node cannot be attached to a network. -/
inductive AddressFault where
  /-- The network has no address left. -/
  | exhausted (network : String)
  /-- The node cannot join a network of this name. -/
  | unknownNetwork (asn : Asn) (node network : String)
  deriving DecidableEq

/-- The state of address allocation inside an AS. -/
structure Addressing where
  /-- The AS. -/
  asn : Asn
  /-- The networks of the AS by name, with their free offsets. -/
  networks : Roster String (Network × Offsets)
  /-- The networks of the exchanges by name. -/
  exchanges : Roster String Network

namespace Addressing

/-- The interface at an offset of a network, if the offset belongs to a host. -/
def interfaceAt (scope : Scope) (n : Network) (offset : Nat) : Except AddressFault Interface :=
  match n.subnet.hostAddress? offset with
  | some address => .ok ⟨scope, n.name, address⟩
  | none => .error (.exhausted n.name)

/-- Attach a node to a network of the AS at the offset that `take?` yields. The offset is taken even
if it does not belong to a host. -/
def attachInside (n : Network) (o : Offsets) (take? : Offsets → Option (Nat × Offsets)) :
    Change Addressing AddressFault Interface := do
  let (offset, o) ← Change.look fun _ ↦ (take? o).elim (.error (.exhausted n.name)) .ok
  Change.write fun s ↦ { s with networks := s.networks.modify n.name fun _ ↦ (n, o) }
  Change.look fun _ ↦ interfaceAt n.scope n offset

/-- Attach a host or a control service to a network of the AS. -/
def attachHost (node network : String) : Change Addressing AddressFault Interface := do
  let (n, o) ← Change.look fun s ↦
    (s.networks.get? network).elim (.error (.unknownNetwork s.asn node network)) .ok
  attachInside n o Offsets.takeLow?

/-- Attach a router to a network of the AS, or to an exchange if there is no such network. -/
def attachRouter (router network : String) : Change Addressing AddressFault Interface := do
  match ← Change.look (.ok <| ·.networks.get? network) with
  | some (n, o) => attachInside n o Offsets.takeHigh?
  | none =>
    Change.look fun s ↦
      match s.exchanges.get? network with
      | some n => interfaceAt .exchange n s.asn.toNat
      | none => .error (.unknownNetwork s.asn router network)

end Addressing

end Interdomain
