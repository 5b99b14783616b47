import Interdomain.Text.Decimal
import Interdomain.Text.Split

/-!
# IPv4 addresses and subnets

Addresses are numbers below `2 ^ 32`, and a subnet is an address with the length of its mask. The
host bits of the address are kept; the base of the subnet clears them and the broadcast address
sets them. `Subnet.hostAddress?` hands out the addresses strictly between the two.
-/

namespace Interdomain.Ipv4

/-! ## Addresses -/

@[ext] structure Address where
  /-- The four octets as one number. -/
  value : Nat
  /-- An address has 32 bits. -/
  value_lt : value < 0x100000000
  deriving DecidableEq

/-- The address with four given octets. -/
def Address.ofOctets (a b c d : UInt8) : Address where
  value := a.toNat * 0x1000000 + b.toNat * 0x10000 + c.toNat * 0x100 + d.toNat
  value_lt := by
    have := a.toNat_lt; have := b.toNat_lt; have := c.toNat_lt; have := d.toNat_lt
    omega

def Address.text (a : Address) : String :=
  Decimal.text (a.value / 0x1000000) ++ "." ++ Decimal.text (a.value / 0x10000 % 0x100) ++ "." ++
    Decimal.text (a.value / 0x100 % 0x100) ++ "." ++ Decimal.text (a.value % 0x100)

/-! ## Subnets -/

/-- An address together with the length of its network mask. -/
structure Subnet where
  /-- The address, host bits included. -/
  address : Address
  /-- The number of network bits. -/
  length : Nat
  /-- An address has 32 bits. -/
  length_le : length ≤ 32
  deriving DecidableEq

namespace Subnet

/-- The address of some octets with a network mask of some length, of all bits at most. -/
def ofOctets (a b c d : UInt8) (length : Nat) : Subnet :=
  ⟨.ofOctets a b c d, Nat.min length 32, Nat.min_le_right length 32⟩

def size (n : Subnet) : Nat := Nat.pow 2 (32 - n.length)

theorem size_pos (n : Subnet) : 0 < n.size := Nat.two_pow_pos _

theorem size_dvd (n : Subnet) : n.size ∣ 0x100000000 :=
  Nat.pow_dvd_pow 2 (show 32 - n.length ≤ 32 by omega)

/-- The network address: the host bits are cleared. -/
def base (n : Subnet) : Address where
  value := n.address.value / n.size * n.size
  value_lt := Nat.lt_of_le_of_lt (Nat.div_mul_le_self _ _) n.address.value_lt

theorem base_add_size_le (n : Subnet) : n.base.value + n.size ≤ 0x100000000 := by
  obtain ⟨k, hk⟩ := n.size_dvd
  have hlt : n.address.value / n.size < k := by
    rw [Nat.div_lt_iff_lt_mul n.size_pos, Nat.mul_comm, ← hk]
    exact n.address.value_lt
  calc n.base.value + n.size = (n.address.value / n.size + 1) * n.size := by
        simp [base, Nat.add_mul]
    _ ≤ k * n.size := Nat.mul_le_mul_right _ hlt
    _ = 0x100000000 := by rw [hk, Nat.mul_comm]

/-- The broadcast address: the host bits are set. -/
def broadcast (n : Subnet) : Address where
  value := n.base.value + (n.size - 1)
  value_lt := by have := n.base_add_size_le; have := n.size_pos; omega

/-- The subnet with its host bits cleared. -/
def truncate (n : Subnet) : Subnet := { n with address := n.base }

def Contains (n : Subnet) (a : Address) : Prop :=
  n.base.value ≤ a.value ∧ a.value ≤ n.broadcast.value

instance (n : Subnet) (a : Address) : Decidable (n.Contains a) :=
  inferInstanceAs (Decidable (_ ∧ _))

theorem contains_address (n : Subnet) : n.Contains n.address := by
  have hsplit : n.address.value / n.size * n.size + n.address.value % n.size = n.address.value :=
    Nat.div_add_mod' ..
  have hmod := Nat.mod_lt n.address.value n.size_pos
  have hbroadcast : n.broadcast.value = n.base.value + (n.size - 1) := rfl
  have hbase : n.base.value = n.address.value / n.size * n.size := rfl
  rw [Contains, hbroadcast]
  omega

theorem contains_truncate (n : Subnet) : n.truncate.Contains = n.Contains := by
  have hbase : n.truncate.base.value = n.base.value :=
    congrArg (· * n.size) (Nat.mul_div_cancel _ n.size_pos)
  have hbroadcast : n.truncate.broadcast.value = n.broadcast.value :=
    congrArg (· + (n.size - 1)) hbase
  funext a
  rw [Contains, Contains, hbase, hbroadcast]

/-- The address at an offset from the base, where a host may have it: not the base itself, and
below the broadcast address. -/
def hostAddress? (n : Subnet) (offset : Nat) : Option Address :=
  if h : n.base.value + offset < 0x100000000 then
    let address : Address := ⟨n.base.value + offset, h⟩
    if offset = 0 ∨ n.broadcast.value ≤ address.value then none else some address
  else none

/-- Hosts have the addresses strictly between the base and the broadcast address. -/
theorem hostAddress?_eq_some_iff {n : Subnet} {offset : Nat} {a : Address} :
    n.hostAddress? offset = some a ↔
      a.value = n.base.value + offset ∧ 0 < offset ∧ a.value < n.broadcast.value := by
  obtain ⟨value, hvalue⟩ := a
  rw [hostAddress?]
  dsimp only
  split
  case isTrue hlt =>
    split
    case isTrue hout =>
      refine iff_of_false (by simp) fun ⟨heq, hpos, hbelow⟩ ↦ ?_
      omega
    case isFalse hin =>
      rw [Option.some_inj, Address.mk.injEq]
      omega
  case isFalse hge =>
    refine iff_of_false (by simp) fun ⟨heq, _, _⟩ ↦ ?_
    omega

def text (n : Subnet) : String := n.address.text ++ "/" ++ Decimal.text n.length

end Subnet

/-! ## Endpoints -/

structure Endpoint where
  address : Address
  port : Nat
  deriving DecidableEq

def Endpoint.text (e : Endpoint) : String := e.address.text ++ ":" ++ Decimal.text e.port

/-! ## Reading -/

/-- An octet has up to three digits. Leading zeros are allowed in subnets and not in addresses. -/
def readOctet? (leadingZeros : Bool) (cs : List Char) : Option UInt8 :=
  if 3 < cs.length ∨ (!leadingZeros ∧ 1 < cs.length ∧ cs.head? = some '0') then none
  else (Decimal.read? 255 cs).map UInt8.ofNat

/-- Read four octets with points between them. -/
def readOctets? (leadingZeros : Bool) (cs : List Char) : Option Address :=
  match splitAll '.' cs with
  | [a, b, c, d] => do
    return .ofOctets (← readOctet? leadingZeros a) (← readOctet? leadingZeros b)
      (← readOctet? leadingZeros c) (← readOctet? leadingZeros d)
  | _ => none

/-- Read a dotted address. -/
def Address.read? (s : String) : Option Address := readOctets? false s.toList

/-- Read `<address>/<length>`; the length has one digit or two. -/
def Subnet.read? (s : String) : Option Subnet :=
  match splitAll '/' s.toList with
  | [octets, length] => do
    let address ← readOctets? true octets
    let bits ← Decimal.read? 32 length
    if h : length.length ≤ 2 ∧ bits ≤ 32 then some ⟨address, bits, h.2⟩ else none
  | _ => none

/-- Read `<address>:<port>`. -/
def Endpoint.read? (s : String) : Option Endpoint :=
  match splitAll ':' s.toList with
  | [octets, port] => do
    return ⟨← readOctets? false octets, ← Decimal.read? 65535 port⟩
  | _ => none

end Interdomain.Ipv4
