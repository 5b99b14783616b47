import Interdomain.Config.Build
import Interdomain.Proofs.Outcome

/-!
# Attaching nodes

Attaching a node to its networks takes addresses and leaves the names of the networks as they are,
so the next node finds the same networks. It fails where a network has no address left, or where a
name is not that of a network the node can join.
-/

namespace Interdomain

/-- A node is not attached to its networks: one of them has no address left, or is not known. -/
inductive Unattached (asn : Asn) (node : String) (networks : List String)
    (known : String → Prop) : AddressFault → Prop
  | exhausted (network : String) : Unattached asn node networks known (.exhausted network)
  | unknown {network : String} (joined : network ∈ networks) (stranger : ¬known network) :
    Unattached asn node networks known (.unknownNetwork asn node network)

theorem Unattached.mono {asn : Asn} {node : String} {networks networks' : List String}
    {known known' : String → Prop} {f : AddressFault} (h : Unattached asn node networks known f)
    (hnetworks : networks ⊆ networks') (hknown : ∀ name, known' name → known name) :
    Unattached asn node networks' known' f := by
  cases h with
  | exhausted network => exact .exhausted network
  | unknown joined stranger => exact .unknown (hnetworks joined) fun h ↦ stranger (hknown _ h)

namespace Addressing

structure SameNames (s s' : Addressing) : Prop where
  asn : s'.asn = s.asn
  inside : s'.networks.keys = s.networks.keys
  exchanges : s'.exchanges = s.exchanges

theorem SameNames.refl (s : Addressing) : SameNames s s := ⟨rfl, rfl, rfl⟩

variable {s s₁ s₂ : Addressing} {known : String → Prop}

theorem SameNames.trans (h₁ : SameNames s s₁) (h₂ : SameNames s₁ s₂) : SameNames s s₂ :=
  ⟨h₂.asn.trans h₁.asn, h₂.inside.trans h₁.inside, h₂.exchanges.trans h₁.exchanges⟩

/-! ## One attachment -/

theorem outcome_attachInside (s : Addressing) (n : Network) (o : Offsets)
    (take? : Offsets → Option (Nat × Offsets)) :
    (attachInside n o take?).outcome s =
      match take? o with
      | none => .error (.exhausted n.name)
      | some (offset, o') =>
        match n.subnet.hostAddress? offset with
        | none => .error (.exhausted n.name)
        | some address => .ok (⟨n.scope, n.name, address⟩,
            { s with networks := s.networks.modify n.name fun _ ↦ (n, o') }) := by
  rw [attachInside, Change.outcome_look_bind]
  cases take? o with
  | none => rfl
  | some r =>
    rw [Option.elim_some, ok_bind]
    dsimp only
    rw [Change.outcome_write_bind, Change.outcome_look, interfaceAt]
    cases n.subnet.hostAddress? r.1 <;> rfl

theorem outcome_attachHost (s : Addressing) (node network : String) :
    (attachHost node network).outcome s =
      match s.networks.get? network with
      | some (n, o) => (attachInside n o Offsets.takeLow?).outcome s
      | none => .error (.unknownNetwork s.asn node network) := by
  rw [attachHost, Change.outcome_look_bind]
  cases s.networks.get? network <;> rfl

theorem outcome_attachRouter (s : Addressing) (router network : String) :
    (attachRouter router network).outcome s =
      match s.networks.get? network with
      | some (n, o) => (attachInside n o Offsets.takeHigh?).outcome s
      | none =>
        match s.exchanges.get? network with
        | none => .error (.unknownNetwork s.asn router network)
        | some n =>
          match n.subnet.hostAddress? s.asn.toNat with
          | none => .error (.exhausted n.name)
          | some address => .ok (⟨.exchange, n.name, address⟩, s) := by
  rw [attachRouter, Change.outcome_look_bind, ok_bind]
  cases s.networks.get? network with
  | some r => rfl
  | none =>
    dsimp only
    rw [Change.outcome_look]
    cases s.exchanges.get? network with
    | none => rfl
    | some n =>
      dsimp only
      rw [interfaceAt]
      cases n.subnet.hostAddress? s.asn.toNat <;> rfl
theorem attachInside_yields (s : Addressing) (n : Network) (o : Offsets)
    (take? : Offsets → Option (Nat × Offsets)) :
    Yields ((attachInside n o take?).outcome s) (fun r ↦ SameNames s r.2)
      (· = .exhausted n.name) := by
  rw [outcome_attachInside]
  split
  case h_1 => exact rfl
  case h_2 =>
    split
    case h_1 => exact rfl
    case h_2 => exact ⟨rfl, Roster.keys_modify .., rfl⟩

/-- A host joins the networks of its AS. -/
theorem attachHost_yields (s : Addressing) (node network : String) :
    Yields ((attachHost node network).outcome s) (fun r ↦ SameNames s r.2)
      (Unattached s.asn node [network] (· ∈ s.networks.keys)) := by
  rw [outcome_attachHost]
  split
  case h_1 n o _ =>
    refine (attachInside_yields s n o _).imp_cause fun f hf ↦ ?_
    rw [hf]
    exact .exhausted n.name
  case h_2 hnone =>
    refine .unknown (List.mem_singleton_self network) ?_
    rw [← Roster.get?_isSome_iff, hnone]
    exact Bool.false_ne_true

theorem attachRouter_yields (s : Addressing) (router network : String) :
    Yields ((attachRouter router network).outcome s) (fun r ↦ SameNames s r.2)
      (Unattached s.asn router [network]
        fun name ↦ name ∈ s.networks.keys ∨ name ∈ s.exchanges.keys) := by
  rw [outcome_attachRouter]
  split
  case h_1 n o _ =>
    refine (attachInside_yields s n o _).imp_cause fun f hf ↦ ?_
    rw [hf]
    exact .exhausted n.name
  case h_2 hinside =>
    split
    case h_1 hexchange =>
      refine .unknown (List.mem_singleton_self network) ?_
      rw [← Roster.get?_isSome_iff, ← Roster.get?_isSome_iff, hinside, hexchange]
      rintro (h | h) <;> exact Bool.false_ne_true h
    case h_2 n _ =>
      split
      case h_1 => exact .exhausted n.name
      case h_2 => exact .refl s

/-! ## Several attachments -/

/-- What one attachment does, each of several does to what the others have left. -/
theorem mapM_attach_yields {attach : String → Change Addressing AddressFault Interface} {asn : Asn}
    {node : String} {networks : List String}
    (h : ∀ s' network, SameNames s s' →
      Yields ((attach network).outcome s') (fun r ↦ SameNames s' r.2)
        (Unattached asn node [network] known)) :
    Yields ((networks.mapM attach).outcome s) (fun r ↦ SameNames s r.2)
      (Unattached asn node networks known) := by
  induction networks generalizing s with
  | nil => exact .refl s
  | cons network networks ih =>
    rw [Change.outcome_mapM_cons]
    have hfirst : Yields ((attach network).outcome s) (fun r ↦ SameNames s r.2)
        (Unattached asn node (network :: networks) known) :=
      (h s network (.refl s)).imp_cause fun _ hf ↦ hf.mono (by simp) fun _ hname ↦ hname
    refine hfirst.bind fun r hr ↦ ?_
    have hrest := (ih fun s' name hs' ↦ h s' name (hr.trans hs')).imp_cause fun _ hf ↦
      hf.mono (List.subset_cons_self network networks) fun _ hname ↦ hname
    exact hrest.bind fun r' hr' ↦ hr.trans hr'

end Addressing

end Interdomain
