import Interdomain.Ipv4
import Mathlib.Algebra.Group.Nat.Defs

/-!
# Addresses that are read back

An address is written as four numerals with points between them, and each octet has the numeral
that a reader of addresses asks for: three digits at most and no zero in front. So endpoints and
subnets are read back from their texts.
-/

namespace Interdomain

/-- A number below a power of ten has no more digits than the power has zeros. -/
theorem Decimal.length_digits_le {k n : Nat} (h : n < 10 ^ (k + 1)) :
    (digits n).length ≤ k + 1 := by
  induction k generalizing n with
  | zero =>
    rw [digits, if_pos (by omega)]
    simp
  | succ k ih =>
    rw [digits]
    split
    case isTrue => simp
    case isFalse =>
      have hrest := ih (n := n / 10) (by rw [pow_succ] at h; omega)
      rw [List.length_append, List.length_singleton]
      omega

theorem Decimal.not_mem_digits {c : Char} (hc : isDigit c = false) (n : Nat) : c ∉ digits n := by
  intro hmem
  rw [isDigit_of_mem_digits n c hmem] at hc
  exact absurd hc (by decide)

namespace Ipv4

theorem readOctet?_digits (leadingZeros : Bool) {n : Nat} (h : n < 256) :
    readOctet? leadingZeros (Decimal.digits n) = some (UInt8.ofNat n) := by
  have hlength := Decimal.length_digits_le (show n < 10 ^ (2 + 1) by omega)
  have hzero : ¬(1 < (Decimal.digits n).length ∧ (Decimal.digits n).head? = some '0') := by
    rintro ⟨hlong, hhead⟩
    by_cases hn : n = 0
    · rw [hn, Decimal.digits, if_pos (by decide)] at hlong
      exact absurd hlong (by decide)
    · exact Decimal.head?_digits_ne hn hhead
  rw [readOctet?, if_neg, Decimal.read?_digits (by omega)]
  · rfl
  · rintro (hlong | ⟨-, hhead⟩)
    · omega
    · exact hzero hhead

namespace Address

theorem ofOctets_octets (a : Address) :
    ofOctets (.ofNat (a.value / 0x1000000)) (.ofNat (a.value / 0x10000 % 0x100))
      (.ofNat (a.value / 0x100 % 0x100)) (.ofNat (a.value % 0x100)) = a := by
  obtain ⟨value, hvalue⟩ := a
  simp only [ofOctets, UInt8.toNat_ofNat', mk.injEq]
  omega

theorem toList_text (a : Address) :
    a.text.toList = Decimal.digits (a.value / 0x1000000) ++ '.' ::
      (Decimal.digits (a.value / 0x10000 % 0x100) ++ '.' ::
        (Decimal.digits (a.value / 0x100 % 0x100) ++ '.' :: Decimal.digits (a.value % 0x100))) := by
  simp [text, Decimal.text]

theorem not_mem_text (a : Address) {c : Char} (hdigit : Decimal.isDigit c = false)
    (hdot : c ≠ '.') :
    c ∉ a.text.toList := by
  rw [toList_text]
  simp only [List.mem_append, List.mem_cons, Decimal.not_mem_digits hdigit, hdot, or_self,
    not_false_eq_true]

theorem readOctets?_text (leadingZeros : Bool) (a : Address) :
    readOctets? leadingZeros a.text.toList = some a := by
  have hdot : ∀ n, '.' ∉ Decimal.digits n := Decimal.not_mem_digits (by decide)
  have hlt := a.value_lt
  rw [readOctets?, toList_text, splitAll_append, splitAll_append, splitAll_append]
  simp only [splitAll_of_not_mem (hdot _), List.singleton_append]
  rw [readOctet?_digits _ (by omega), readOctet?_digits _ (by omega),
    readOctet?_digits _ (by omega), readOctet?_digits _ (by omega)]
  exact congrArg some a.ofOctets_octets

end Address

theorem Subnet.read?_text (n : Subnet) : Subnet.read? n.text = some n := by
  have hslash : '/' ∉ n.address.text.toList := n.address.not_mem_text (by decide) (by decide)
  have hlength : '/' ∉ Decimal.digits n.length := Decimal.not_mem_digits (by decide) _
  have htext : n.text.toList = n.address.text.toList ++ '/' :: Decimal.digits n.length := by
    simp [text, Decimal.text]
  have hle := n.length_le
  have hdigits := Decimal.length_digits_le (show n.length < 10 ^ (1 + 1) by omega)
  rw [read?, htext, splitAll_append, splitAll_of_not_mem hslash, splitAll_of_not_mem hlength]
  simp only [List.singleton_append, Address.readOctets?_text, Decimal.read?_digits hle]
  simp [hdigits, hle]

theorem Endpoint.read?_text {e : Endpoint} (h : e.port ≤ 65535) :
    Endpoint.read? e.text = some e := by
  have haddress : ':' ∉ e.address.text.toList := e.address.not_mem_text (by decide) (by decide)
  have hport : ':' ∉ Decimal.digits e.port := Decimal.not_mem_digits (by decide) _
  have htext : e.text.toList = e.address.text.toList ++ ':' :: Decimal.digits e.port := by
    simp [text, Decimal.text]
  rw [read?, htext, splitAll_append, splitAll_of_not_mem haddress, splitAll_of_not_mem hport]
  simp [Address.readOctets?_text, Decimal.read?_digits h]

end Ipv4

end Interdomain
