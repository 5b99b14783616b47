import Interdomain.AutonomousSystem
import Interdomain.Proofs.Changes
import Interdomain.Proofs.Outcome
import Mathlib.Order.Bounds.Defs

/-!
# Configuration of one AS

Configuration settles the size of the largest packet and the keys, from the networks that the AS has
at that moment and from the source. It checks everything before it draws, and it settles nothing a
second time.
-/

namespace Interdomain

namespace AutonomousSystem

/-- The least packet size of the networks; there is none without networks. -/
def leastMtu? (a : AutonomousSystem) : Option UInt32 := (a.networks.values.map (·.mtu)).min?

theorem leastMtu?_eq_some_iff {a : AutonomousSystem} {mtu : UInt32} :
    a.leastMtu? = some mtu ↔ IsLeast {m | m ∈ a.networks.values.map (·.mtu)} mtu :=
  List.min?_eq_some_iff

variable {σ : Type} [WordSource σ] {a a' : AutonomousSystem} {source source' : σ}

theorem pendingMtu_eq_ok_iff {mtu : UInt32} :
    a.pendingMtu = .ok mtu ↔ a.mtu = none ∧ a.leastMtu? = some mtu := by
  rw [pendingMtu, ← leastMtu?]
  cases a.mtu with
  | some _ => simp
  | none => cases a.leastMtu? <;> simp

/-- What configuration does once it has found the size of the largest packet. -/
theorem after_configure (a : AutonomousSystem) (source : σ) :
    configure.after (a, source) = a.pendingMtu >>= fun mtu ↦
      .ok ({ a with mtu := some mtu, keys := some (MasterKeys.generate source).1 },
        (MasterKeys.generate source).2) := by
  rw [configure, Change.after_look_bind]
  rfl

theorem configure_eq_ok_iff :
    configure.after (a, source) = .ok (a', source') ↔
      a.mtu = none ∧ ∃ mtu, a.leastMtu? = some mtu ∧
        a' = { a with mtu := some mtu, keys := some (MasterKeys.generate source).1 } ∧
        source' = (MasterKeys.generate source).2 := by
  rw [after_configure, bind_eq_ok_iff]
  simp only [pendingMtu_eq_ok_iff, Except.ok.injEq, Prod.mk.injEq]
  constructor
  · rintro ⟨mtu, ⟨hbefore, hmtu⟩, rfl, rfl⟩
    exact ⟨hbefore, mtu, hmtu, rfl, rfl⟩
  · rintro ⟨hbefore, mtu, hmtu, rfl, rfl⟩
    exact ⟨mtu, ⟨hbefore, hmtu⟩, rfl, rfl⟩

theorem configure_of_mtu {mtu : UInt32} (h : a.mtu = some mtu) (source : σ) :
    configure.after (a, source) = .error (.alreadyConfigured a.asn) := by
  rw [after_configure, pendingMtu, h, Option.isSome_some, if_pos rfl]
  rfl

theorem cause_of_configure_eq_error {f : Fault} (h : configure.after (a, source) = .error f) :
    f = .alreadyConfigured a.asn ∨ f = .noInternalNetworks a.asn := by
  rw [after_configure, pendingMtu] at h
  split at h
  case isTrue => exact .inl (Except.error.inj h).symm
  case isFalse =>
    split at h
    case h_1 => exact absurd h nofun
    case h_2 => exact .inr (Except.error.inj h).symm

/-- A configuration that fails leaves the AS and the source as they were. -/
theorem atomic_configure : (configure (σ := σ)).Atomic :=
  Change.atomic_look_bind _ fun _ ↦
    ((Change.total_write _).bind fun _ ↦ Change.total_write _).atomic

end AutonomousSystem

end Interdomain
