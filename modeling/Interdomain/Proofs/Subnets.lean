import Interdomain.Ipv4
import Mathlib.Algebra.Group.Nat.Defs

/-!
# The host addresses of a subnet

A subnet of length `l` has `2 ^ (32 - l)` addresses, and hosts may have all of them but the first
and the last. So the offsets from `1` to `2 ^ (32 - l) - 2` are those with an address, one each, and
where `l` is 31 or 32 there is none.

The base and the broadcast address are numbers here, by a division and a product. A machine has them
as words of 32 bits, by a mask: the base keeps the bits under it, and the broadcast address sets all
others. Bit by bit this is the same (`testBit_base`, `testBit_broadcast`). It adds an offset to the
base with a check that the sum fits. A subnet ends where the next one starts, or with the last of
all addresses, so a sum that does not fit is past the broadcast address, and the check refuses none
that a host may have (`hostWord?_eq`).
-/

namespace Interdomain.Ipv4

def Address.word (a : Address) : BitVec 32 := .ofNatLT a.value a.value_lt

@[simp] theorem Address.toNat_word (a : Address) : a.word.toNat = a.value := rfl

namespace Subnet

variable {n : Subnet} {k k' : Nat} {a : Address}

/-! ## Bits -/

theorem size_eq (n : Subnet) : n.size = 2 ^ (32 - n.length) := rfl

theorem base_eq_shift (n : Subnet) :
    n.base.value = n.address.value >>> (32 - n.length) <<< (32 - n.length) := by
  rw [Nat.shiftLeft_eq, Nat.shiftRight_eq_div_pow]
  rfl

theorem broadcast_eq (n : Subnet) : n.broadcast.value = n.base.value + (n.size - 1) := rfl

/-- The base keeps the network bits and clears the host bits. -/
theorem testBit_base (n : Subnet) (i : Nat) :
    n.base.value.testBit i = (decide (32 - n.length ≤ i) && n.address.value.testBit i) := by
  rw [base_eq_shift, Nat.testBit_shiftLeft, Nat.testBit_shiftRight]
  by_cases hi : 32 - n.length ≤ i
  · rw [Nat.add_sub_cancel' hi]
  · rw [decide_eq_false hi, Bool.false_and, Bool.false_and]

theorem testBit_broadcast (n : Subnet) (i : Nat) :
    n.broadcast.value.testBit i = (decide (i < 32 - n.length) || n.address.value.testBit i) := by
  -- The base has no host bits, so adding them is setting them.
  have hor : n.broadcast.value = n.base.value ||| (2 ^ (32 - n.length) - 1) := by
    have hlast : 2 ^ (32 - n.length) - 1 < 2 ^ (32 - n.length) :=
      Nat.sub_one_lt_of_lt (Nat.two_pow_pos _)
    rw [broadcast_eq, size_eq, base_eq_shift, Nat.shiftLeft_add_eq_or_of_lt hlast]
  rw [hor, Nat.testBit_or, testBit_base, Nat.testBit_two_pow_sub_one]
  by_cases hi : i < 32 - n.length
  · rw [decide_eq_true hi, Bool.or_true, Bool.true_or]
  · rw [decide_eq_false hi, decide_eq_true (Nat.le_of_not_lt hi), Bool.true_and, Bool.or_false,
      Bool.false_or]

/-! ## Words -/

/-- The network mask: as many bits as the length says, from the top. -/
def mask (n : Subnet) : BitVec 32 := BitVec.allOnes 32 <<< (32 - n.length)

theorem getLsbD_mask (n : Subnet) {i : Nat} (hi : i < 32) :
    n.mask.getLsbD i = decide (32 - n.length ≤ i) := by
  have hshifted : i - (32 - n.length) < 32 := by omega
  rw [mask, BitVec.getLsbD_shiftLeft, BitVec.getLsbD_allOnes, decide_eq_true hi,
    decide_eq_true hshifted, Bool.true_and, Bool.and_true, ← decide_not]
  simp only [Nat.not_lt]

theorem word_base (n : Subnet) : n.base.word = n.address.word &&& n.mask := by
  apply BitVec.eq_of_getLsbD_eq
  intro i hi
  rw [BitVec.getLsbD_and, n.getLsbD_mask hi, ← BitVec.testBit_toNat, ← BitVec.testBit_toNat,
    Address.toNat_word, Address.toNat_word, testBit_base, Bool.and_comm]

theorem word_broadcast (n : Subnet) : n.broadcast.word = n.address.word ||| ~~~n.mask := by
  apply BitVec.eq_of_getLsbD_eq
  intro i hi
  rw [BitVec.getLsbD_or, BitVec.getLsbD_not, n.getLsbD_mask hi, ← BitVec.testBit_toNat,
    ← BitVec.testBit_toNat, Address.toNat_word, Address.toNat_word, testBit_broadcast,
    decide_eq_true hi, Bool.true_and, Bool.or_comm, ← decide_not]
  simp only [Nat.not_le]

/-- The host address at an offset in words of 32 bits: none if the sum does not fit, and none at the
base or from the broadcast address on. -/
def hostWord? (n : Subnet) (offset : BitVec 32) : Option (BitVec 32) :=
  let base := n.address.word &&& n.mask
  if base.uaddOverflow offset then none
  else if offset = 0 ∨ n.address.word ||| ~~~n.mask ≤ base + offset then none
  else some (base + offset)

/-- Words of 32 bits lead to the same host addresses. -/
theorem hostWord?_eq (n : Subnet) (offset : BitVec 32) :
    n.hostWord? offset = (n.hostAddress? offset.toNat).map Address.word := by
  have hoverflow : n.base.word.uaddOverflow offset = true ↔
      ¬n.base.value + offset.toNat < 0x100000000 := by
    rw [BitVec.uaddOverflow, decide_eq_true_iff, Nat.not_lt]
    rfl
  rw [hostWord?, ← word_base, ← word_broadcast, hostAddress?]
  dsimp only
  by_cases hfits : n.base.value + offset.toNat < 0x100000000
  · have hno : ¬n.base.word.uaddOverflow offset = true := fun h ↦ hoverflow.1 h hfits
    have hsum : n.base.word + offset = Address.word ⟨n.base.value + offset.toNat, hfits⟩ :=
      BitVec.eq_of_toNat_eq (BitVec.toNat_add_of_not_uaddOverflow hno)
    have hout : offset = 0 ∨ n.broadcast.word ≤ n.base.word + offset ↔
        offset.toNat = 0 ∨ n.broadcast.value ≤ n.base.value + offset.toNat := by
      rw [hsum, BitVec.le_def, ← BitVec.toNat_inj]
      rfl
    rw [if_neg hno, dif_pos hfits]
    by_cases h : offset.toNat = 0 ∨ n.broadcast.value ≤ n.base.value + offset.toNat
    · rw [if_pos (hout.2 h), if_pos h, Option.map_none]
    · rw [if_neg (mt hout.1 h), if_neg h, Option.map_some, hsum]
  · rw [if_pos (hoverflow.2 hfits), dif_neg hfits, Option.map_none]

/-! ## Offsets -/

/-- There is a host address at each offset but the first and the last. -/
theorem exists_hostAddress?_iff :
    (∃ a, n.hostAddress? k = some a) ↔ 0 < k ∧ k + 1 < n.size := by
  have hsize := n.base_add_size_le
  have hbroadcast := n.broadcast_eq
  constructor
  · rintro ⟨a, ha⟩
    obtain ⟨hvalue, hpos, hbelow⟩ := hostAddress?_eq_some_iff.1 ha
    omega
  · rintro ⟨hpos, hk⟩
    refine ⟨⟨n.base.value + k, by omega⟩, hostAddress?_eq_some_iff.2 ⟨rfl, hpos, ?_⟩⟩
    dsimp only
    omega

theorem isSome_hostAddress?_iff :
    (n.hostAddress? k).isSome ↔ 1 ≤ k ∧ k ≤ 2 ^ (32 - n.length) - 2 := by
  rw [Option.isSome_iff_exists, exists_hostAddress?_iff, size_eq]
  omega

theorem value_of_hostAddress? (h : n.hostAddress? k = some a) : a.value = n.base.value + k :=
  (hostAddress?_eq_some_iff.1 h).1

theorem between_of_hostAddress? (h : n.hostAddress? k = some a) :
    n.base.value < a.value ∧ a.value < n.broadcast.value := by
  obtain ⟨hvalue, hpos, hbelow⟩ := hostAddress?_eq_some_iff.1 h
  omega

/-- Each address there is one that a host may have. -/
theorem exists_offset_of_between (habove : n.base.value < a.value)
    (hbelow : a.value < n.broadcast.value) : ∃ k, n.hostAddress? k = some a := by
  refine ⟨a.value - n.base.value, hostAddress?_eq_some_iff.2 ⟨?_, ?_, hbelow⟩⟩
  · rw [Nat.add_sub_cancel' (Nat.le_of_lt habove)]
  · exact Nat.sub_pos_of_lt habove

theorem hostAddress?_inj (h : n.hostAddress? k = some a) (h' : n.hostAddress? k' = some a) :
    k = k' := by
  have hsum : n.base.value + k = n.base.value + k' := by
    rw [← value_of_hostAddress? h, ← value_of_hostAddress? h']
  exact Nat.add_left_cancel hsum

/-- One or two addresses leave none for a host. -/
theorem hostAddress?_eq_none (h : 31 ≤ n.length) (k : Nat) : n.hostAddress? k = none := by
  have hsize : n.size ≤ 2 := Nat.pow_le_pow_right (by decide) (show 32 - n.length ≤ 1 by omega)
  rw [← Option.not_isSome_iff_eq_none, Option.isSome_iff_exists, exists_hostAddress?_iff]
  omega

/-- **Host addresses.** The base of a subnet is its address under the mask and the broadcast address
has all bits outside the mask, whatever the length of the mask and the host bits. In words of 32
bits, with a sum that is checked, the host addresses are the same. There is one at the offsets from
`1` to `2 ^ (32 - length) - 2` and at no others: the base plus the offset, strictly between the base
and the broadcast address. Each address between these two is at some offset, and different offsets
lead to different addresses. A subnet of length 31 or 32 has no host addresses. -/
theorem hostAddresses_exact (n : Subnet) :
    (n.base.word = n.address.word &&& n.mask ∧
      n.broadcast.word = n.address.word ||| ~~~n.mask) ∧
    (∀ offset : BitVec 32,
      n.hostWord? offset = (n.hostAddress? offset.toNat).map Address.word) ∧
    (∀ k, (n.hostAddress? k).isSome ↔ 1 ≤ k ∧ k ≤ 2 ^ (32 - n.length) - 2) ∧
    (∀ k a, n.hostAddress? k = some a →
      a.value = n.base.value + k ∧ n.base.value < a.value ∧ a.value < n.broadcast.value) ∧
    (∀ a : Address, n.base.value < a.value → a.value < n.broadcast.value →
      ∃ k, n.hostAddress? k = some a) ∧
    (∀ k k' a a', n.hostAddress? k = some a → n.hostAddress? k' = some a' →
      k ≠ k' → a ≠ a') ∧
    (31 ≤ n.length → ∀ k, n.hostAddress? k = none) := by
  refine ⟨⟨n.word_base, n.word_broadcast⟩, n.hostWord?_eq, fun k ↦ isSome_hostAddress?_iff, ?_,
    fun a ↦ exists_offset_of_between, ?_, hostAddress?_eq_none⟩
  · intro k a ha
    exact ⟨value_of_hostAddress? ha, between_of_hostAddress? ha⟩
  · rintro k k' a a' ha ha' hne rfl
    exact hne (hostAddress?_inj ha ha')

/-- The last four addresses, with a host bit. -/
def lastFour : Subnet := .ofOctets 255 255 255 254 30

/-- The offset behind the last one does not fit into 32 bits. The last two addresses alone are not
for hosts. -/
theorem lastFour_hostAddresses :
    lastFour.hostAddress? 2 = some (.ofOctets 255 255 255 254) ∧
      (lastFour.base.value < (Address.ofOctets 255 255 255 254).value ∧
        (Address.ofOctets 255 255 255 254).value < lastFour.broadcast.value) ∧
      lastFour.hostAddress? 1 ≠ lastFour.hostAddress? 2 ∧
      (lastFour.hostAddress? 3).isSome = false ∧
      lastFour.hostWord? 4 = none ∧
      (ofOctets 255 255 255 255 31).hostAddress? 1 = none := by
  obtain ⟨-, hword, hrange, hsound, -, hinj, -⟩ := hostAddresses_exact lastFour
  obtain ⟨-, -, -, -, -, -, hnone⟩ := hostAddresses_exact (ofOctets 255 255 255 255 31)
  refine ⟨rfl, (hsound 2 _ rfl).2, fun h ↦ ?_, ?_, hword 4, hnone (by decide) 1⟩
  · exact hinj 1 2 _ _ rfl rfl (by decide) (Option.some.inj h)
  · rw [← Bool.not_eq_true, hrange]
    decide

end Subnet

end Interdomain.Ipv4
