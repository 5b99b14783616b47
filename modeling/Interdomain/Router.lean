import Interdomain.Change
import Interdomain.Collection.Roster
import Interdomain.Collection.SortedMap
import Interdomain.Counter
import Interdomain.Link.Descriptor
import Interdomain.Network

/-!
# Nodes and routers

Hosts and control services are nodes: all that matters of them is where they are attached. A border
router is also one side of cross-connects, hands out underlay ports, and holds the descriptors of
the links that end on it. The name of a node or router is the key under which its AS holds it.
-/

namespace Interdomain

structure Node where
  /-- The attachments in order. -/
  interfaces : List Interface
  deriving DecidableEq

/-- The address of the first attachment, to which services are bound. -/
def Node.address? (n : Node) : Option Ipv4.Address := n.interfaces.head?.map (·.address)

/-- One side of a connection between two routers. -/
structure CrossConnect where
  /-- The address on this side, with the mask of the network between. -/
  address : Ipv4.Subnet
  /-- The name of the network between. -/
  network : String
  deriving DecidableEq

structure Router where
  /-- The address inside the AS. -/
  loopback : Ipv4.Address
  /-- The attachments in order. -/
  interfaces : List Interface := []
  /-- The connections by the port at the other side, in the order of their declaration. -/
  crossConnects : Roster Port CrossConnect := ∅
  ports : Counter := ⟨50000⟩
  /-- The descriptors of the links that end here, by interface id. -/
  attached : SortedMap Nat Descriptor := ∅

namespace Router

def join (r : Router) (i : Interface) : Router := { r with interfaces := r.interfaces ++ [i] }

/-- Record a connection, in place of an earlier one to the same port. -/
def connect (r : Router) (peer : Port) (c : CrossConnect) : Router :=
  { r with crossConnects := r.crossConnects.insert peer c }

/-- Hand out an underlay port, or fail as it is said where none is left. -/
def takePort {ε : Type} (none : ε) : Change Router ε Nat := do
  let (port, ports) ← Change.look fun r ↦ r.ports.take?.elim (.error none) .ok
  Change.write fun r ↦ { r with ports }
  return port

/-- Attach the descriptor of a link under an interface id. -/
def attach (r : Router) (id : Nat) (d : Descriptor) : Router :=
  { r with attached := r.attached.insert id d }

end Router

end Interdomain
