import Interdomain.Proofs.Allocation
import Interdomain.Proofs.Building.System
import Interdomain.Proofs.History
import Interdomain.Proofs.Systems.Gateways
import Interdomain.Proofs.Systems.Settings

/-!
# An AS after any history

Everything that changes an AS is a call of one of a dozen operations. They come in any order and any
number, each with the arguments of its own, and the source of the keys may be used elsewhere in
between. What matters of a call is its `Effect` on four things: the names of the nodes, the
gateways, the settings and the interface ids. A call adds one node, or one gateway, or the settings,
or takes one id, or it leaves all four alone, and this is all that the invariants ask for.
-/

namespace Interdomain

namespace AutonomousSystem

variable {σ : Type}

/-! ## Calls -/

/-- A call of one of the operations on an AS. -/
inductive Call (σ : Type) where
  | addNetwork (n : Network)
  | addRouter (name : String) (r : Router)
  /-- A router is changed, and keeps its name. -/
  | modifyRouter (name : String) (f : Router → Router)
  | addHost (name : String) (n : Node)
  | addControlService (name : String) (n : Node)
  | setAttributes (isd : Isd) (attributes : List String)
  | setIntervals (intervals : Intervals)
  | setPolicy (kind : PolicyKind) (policy : Option Value)
  | setNote (note : String)
  | setStaticInfo (wanted : Bool)
  | addGateway (g : Gateway)
  | configure
  | takeInterfaceId
  /-- The source has been used elsewhere. -/
  | replaceSource (source : σ)

/-- An AS beside the source that its keys are drawn from. -/
abbrev WithSource (σ : Type) := AutonomousSystem × σ

/-- Change the AS and leave the source. -/
def onSystem {α : Type} (c : Change AutonomousSystem Fault α) : Change (WithSource σ) Fault α :=
  .part (.ok ·.1) (fun s a ↦ (a, s.2)) c

/-- Change the AS and hand nothing out. -/
def quietly (c : Change AutonomousSystem Fault Unit) :
    Change (WithSource σ) Fault (Option Nat) := do
  onSystem c
  return none

/-- Make a call. The result is the interface id that it hands out, if any. -/
def perform [WordSource σ] : Call σ → Change (WithSource σ) Fault (Option Nat)
  | .addNetwork n => quietly (addNetwork n)
  | .addRouter name r => quietly (addRouter name r)
  | .modifyRouter name f => quietly (.write (·.modifyRouter name f))
  | .addHost name n => quietly (addHost name n)
  | .addControlService name n => quietly (addControlService name n)
  | .setAttributes isd attributes => quietly (.write (·.setAttributes isd attributes))
  | .setIntervals intervals => quietly (.write ({ · with intervals }))
  | .setPolicy kind policy => quietly (.write (·.setPolicy kind policy))
  | .setNote note => quietly (.write ({ · with note := some note }))
  | .setStaticInfo wanted => quietly (.write ({ · with staticInfo := wanted }))
  | .addGateway g => quietly (addGateway g)
  | .configure => do
    AutonomousSystem.configure
    return none
  | .takeInterfaceId => do return some (← onSystem AutonomousSystem.takeInterfaceId)
  | .replaceSource source => do
    Change.write fun s ↦ (s.1, source)
    return none

theorem outcome_quietly (c : Change AutonomousSystem Fault Unit) (s : WithSource σ) :
    (quietly c).outcome s = (c.after s.1).map fun a ↦ (none, a, s.2) := by
  rw [quietly, Change.outcome_seq_pure, onSystem, Change.after_part, ok_bind]
  cases c.after s.1 <;> rfl

theorem outcome_perform_takeInterfaceId [WordSource σ] (s : WithSource σ) :
    (perform .takeInterfaceId).outcome s
      = (takeInterfaceId.outcome s.1).map fun r ↦ (some r.1, r.2, s.2) := by
  rw [perform, Change.outcome_bind_pure, onSystem, Change.outcome_part, ok_bind]
  cases takeInterfaceId.outcome s.1 <;> rfl

theorem outcome_perform_configure [WordSource σ] (s : WithSource σ) :
    (perform .configure).outcome s
      = (AutonomousSystem.configure.after s).map fun s' ↦ (none, s') := by
  rw [perform, Change.outcome_seq_pure]

/-! ### Calls that are refused -/

theorem atomic_check_write {f : AutonomousSystem → Except Fault Unit}
    {g : AutonomousSystem → AutonomousSystem} :
    (Change.look f >>= fun _ ↦ Change.write g).Atomic :=
  Change.atomic_look_bind f fun _ ↦ (Change.total_write g).atomic

theorem atomic_addGateway (g : Gateway) : (addGateway g).Atomic :=
  Change.atomic_look_bind _ fun _ ↦ Change.atomic_look_bind _ fun asn ↦
    (GatewayTable.atomic_offer (asn, g)).part fun a t h ↦ by rw [← Except.ok.inj h]

theorem atomic_takeInterfaceId : takeInterfaceId.Atomic :=
  Change.atomic_look_bind _ fun _ ↦
    ((Change.total_write _).bind fun _ ↦ Change.total_pure _).atomic

theorem atomic_onSystem {α : Type} {c : Change AutonomousSystem Fault α} (hc : c.Atomic) :
    (onSystem (σ := σ) c).Atomic :=
  hc.part fun s a h ↦ by rw [← Except.ok.inj h]

theorem atomic_quietly {c : Change AutonomousSystem Fault Unit} (hc : c.Atomic) :
    (quietly (σ := σ) c).Atomic :=
  (atomic_onSystem hc).bind_total fun _ ↦ Change.total_pure _

/-- **A refused call.** Each of the operations checks before it writes, so a call that is refused
leaves the AS and the source as they were. -/
theorem atomic_perform [WordSource σ] (call : Call σ) : (perform call).Atomic := by
  cases call with
  | addNetwork | addRouter | addHost | addControlService => exact atomic_quietly atomic_check_write
  | modifyRouter | setAttributes | setIntervals | setPolicy | setNote | setStaticInfo =>
    exact atomic_quietly (Change.total_write _).atomic
  | addGateway g => exact atomic_quietly (atomic_addGateway g)
  | configure => exact atomic_configure.bind_total fun _ ↦ Change.total_pure _
  | takeInterfaceId =>
    exact (atomic_onSystem atomic_takeInterfaceId).bind_total fun _ ↦ Change.total_pure _
  | replaceSource =>
    exact ((Change.total_write _).bind fun _ ↦ Change.total_pure _).atomic

def history [WordSource σ] (asn : Asn) (source : σ) (calls : List (Call σ)) :
    History (Call σ) (WithSource σ) Fault (Option Nat) :=
  .record perform ({ asn }, source) calls

/-! ## Effects -/

/-- An AS has the gateways, settings and interface ids of another. -/
structure Keeps (a a' : AutonomousSystem) : Prop where
  gateways : a'.gateways = a.gateways
  mtu : a'.mtu = a.mtu
  keys : a'.keys = a.keys
  interfaceIds : a'.interfaceIds = a.interfaceIds

/-- What a call that is granted has done, with the interface id that it handed out. -/
inductive Effect (a a' : AutonomousSystem) : Call σ → Option Nat → Prop
  /-- A node came under a new name. -/
  | node {call : Call σ} {name : String} (free : name ∉ a.nodeNames)
      (names : a'.nodeNames.Perm (name :: a.nodeNames)) (hosts : a.hosts.keys ⊆ a'.hosts.keys)
      (keeps : a.Keeps a') : Effect a a' call none
  /-- A gateway came on one of the hosts. -/
  | gateway {call : Call σ} {g : Gateway} {gateways : GatewayTable} (host : g.host ∈ a.hosts.keys)
      (inserted : (GatewayTable.insert a.asn g).after a.gateways = .ok gateways)
      (after : a' = { a with gateways }) :
      Effect a a' call none
  /-- The settings came, both of them. -/
  | settings {mtu : UInt32} {keys : MasterKeys} (before : a.mtu = none)
      (after : a' = { a with mtu := some mtu, keys := some keys }) : Effect a a' .configure none
  /-- An interface id was handed out. -/
  | interfaceId {call : Call σ} {id : Nat} {interfaceIds : Counter}
      (taken : a.interfaceIds.take? = some (id, interfaceIds))
      (after : a' = { a with interfaceIds }) : Effect a a' call (some id)
  /-- Nothing of this happened. -/
  | other {call : Call σ} (names : a'.nodeNames = a.nodeNames) (hosts : a'.hosts = a.hosts)
      (keeps : a.Keeps a') : Effect a a' call none

variable {a a' : AutonomousSystem} {s s' : WithSource σ} {call : Call σ} {name : String}

theorem addRouter_effect {r : Router} (h : (addRouter name r).after a = .ok a') :
    Effect a a' call none := by
  rw [addRouter, Change.after_look_bind] at h
  obtain ⟨hname, h⟩ := seq_eq_ok_iff.1 h
  obtain rfl := Except.ok.inj h
  have hfree := (a.checkName_yields name).good_of_ok hname
  have hkey : name ∉ a.routers.keys := fun hmem ↦
    hfree (List.mem_append_left _ (List.mem_append_left _ hmem))
  refine .node hfree ?_ (List.Subset.refl _) ⟨rfl, rfl, rfl, rfl⟩
  simp only [nodeNames, Roster.keys_insert_of_not_mem _ r hkey, List.append_assoc,
    List.singleton_append]
  exact List.perm_middle

theorem addHost_effect {n : Node} (h : (addHost name n).after a = .ok a') :
    Effect a a' call none := by
  rw [addHost, Change.after_look_bind] at h
  obtain ⟨hname, h⟩ := seq_eq_ok_iff.1 h
  obtain rfl := Except.ok.inj h
  have hfree := (a.checkName_yields name).good_of_ok hname
  have hkey : name ∉ a.hosts.keys := fun hmem ↦
    hfree (List.mem_append_left _ (List.mem_append_right _ hmem))
  refine .node hfree ?_ (fun k hk ↦ (Roster.mem_keys_insert ..).2 (.inl hk)) ⟨rfl, rfl, rfl, rfl⟩
  simp only [nodeNames, Roster.keys_insert_of_not_mem _ n hkey, ← List.append_assoc]
  rw [List.append_assoc _ [name], List.singleton_append]
  exact List.perm_middle

theorem addControlService_effect {n : Node} (h : (addControlService name n).after a = .ok a') :
    Effect a a' call none := by
  rw [addControlService, Change.after_look_bind] at h
  obtain ⟨hname, h⟩ := seq_eq_ok_iff.1 h
  obtain rfl := Except.ok.inj h
  have hfree := (a.checkName_yields name).good_of_ok hname
  have hkey : name ∉ a.controlServices.keys := fun hmem ↦ hfree (List.mem_append_right _ hmem)
  refine .node hfree ?_ (List.Subset.refl _) ⟨rfl, rfl, rfl, rfl⟩
  simp only [nodeNames, Roster.keys_insert_of_not_mem _ n hkey, ← List.append_assoc]
  exact List.perm_append_singleton ..

theorem addGateway_effect {g : Gateway} (h : (addGateway g).after a = .ok a') :
    Effect a a' call none := by
  rw [after_addGateway, bind_eq_ok_iff] at h
  obtain ⟨⟨⟩, hhost, h⟩ := h
  obtain ⟨gateways, hinserted, rfl⟩ := map_eq_ok_iff.1 h
  exact .gateway (checkHost_eq_ok_iff.1 hhost) hinserted rfl

theorem takeInterfaceId_effect {id : Nat} (h : takeInterfaceId.outcome a = .ok (id, a')) :
    Effect a a' call (some id) := by
  obtain ⟨c, taken, after⟩ := takeInterfaceId_eq_ok_iff.1 h
  exact .interfaceId taken after

/-- **One call.** A call that is granted has one of the effects. -/
theorem perform_effect [WordSource σ] {r : Option Nat}
    (h : (perform call).outcome s = .ok (r, s')) :
    Effect s.1 s'.1 call r := by
  cases call with
  | addNetwork n =>
    obtain ⟨a, ha, h⟩ := map_eq_ok_iff.1 ((outcome_quietly ..).symm.trans h)
    obtain ⟨rfl, rfl⟩ := Prod.mk.inj h
    obtain ⟨networks, rfl, -⟩ := (s.1.addNetwork_yields n).good_of_ok ha
    exact .other rfl rfl ⟨rfl, rfl, rfl, rfl⟩
  | addRouter name r =>
    obtain ⟨a, ha, h⟩ := map_eq_ok_iff.1 ((outcome_quietly ..).symm.trans h)
    obtain ⟨rfl, rfl⟩ := Prod.mk.inj h
    exact addRouter_effect ha
  | modifyRouter name f =>
    obtain ⟨rfl, rfl⟩ := Prod.mk.inj (Except.ok.inj h)
    refine .other ?_ rfl ⟨rfl, rfl, rfl, rfl⟩
    simp only [nodeNames, AutonomousSystem.modifyRouter, Roster.keys_modify]
  | addHost name n =>
    obtain ⟨a, ha, h⟩ := map_eq_ok_iff.1 ((outcome_quietly ..).symm.trans h)
    obtain ⟨rfl, rfl⟩ := Prod.mk.inj h
    exact addHost_effect ha
  | addControlService name n =>
    obtain ⟨a, ha, h⟩ := map_eq_ok_iff.1 ((outcome_quietly ..).symm.trans h)
    obtain ⟨rfl, rfl⟩ := Prod.mk.inj h
    exact addControlService_effect ha
  | setPolicy kind policy =>
    obtain ⟨rfl, rfl⟩ := Prod.mk.inj (Except.ok.inj h)
    cases policy <;> exact .other rfl rfl ⟨rfl, rfl, rfl, rfl⟩
  | addGateway g =>
    obtain ⟨a, ha, h⟩ := map_eq_ok_iff.1 ((outcome_quietly ..).symm.trans h)
    obtain ⟨rfl, rfl⟩ := Prod.mk.inj h
    exact addGateway_effect ha
  | configure =>
    obtain ⟨⟨a, source⟩, hconfigure, h⟩ :=
      map_eq_ok_iff.1 ((outcome_perform_configure s).symm.trans h)
    obtain ⟨rfl, rfl⟩ := Prod.mk.inj h
    obtain ⟨hbefore, mtu, -, rfl, -⟩ := configure_eq_ok_iff.1 hconfigure
    exact .settings hbefore rfl
  | takeInterfaceId =>
    obtain ⟨⟨id, a⟩, htake, h⟩ :=
      map_eq_ok_iff.1 ((outcome_perform_takeInterfaceId s).symm.trans h)
    obtain ⟨rfl, rfl⟩ := Prod.mk.inj h
    exact takeInterfaceId_effect htake
  | setAttributes | setIntervals | setNote | setStaticInfo | replaceSource =>
    obtain ⟨rfl, rfl⟩ := Prod.mk.inj (Except.ok.inj h)
    exact .other rfl rfl ⟨rfl, rfl, rfl, rfl⟩

/-! ## Invariants -/

/-- An AS as it should be: no name for two nodes, no gateway without its host, and no packet size
without keys or the other way round. -/
structure Sound (a : AutonomousSystem) : Prop where
  distinct : a.nodeNames.Nodup
  hosted : ∀ g ∈ a.gateways.gateways, g.host ∈ a.hosts.keys
  settled : a.mtu.isSome = a.keys.isSome

theorem Keeps.settled (hk : a.Keeps a') (h : a.mtu.isSome = a.keys.isSome) :
    a'.mtu.isSome = a'.keys.isSome := by
  rw [hk.mtu, hk.keys, h]

namespace Effect

variable {r : Option Nat}

theorem sound (he : Effect a a' call r) (h : a.Sound) : a'.Sound := by
  cases he with
  | node free names hosts keeps =>
    refine ⟨names.nodup_iff.2 (List.nodup_cons.2 ⟨free, h.distinct⟩), fun g hg ↦ ?_,
      keeps.settled h.settled⟩
    rw [keeps.gateways] at hg
    exact hosts (h.hosted g hg)
  | @gateway _ g gateways host inserted after =>
    obtain ⟨-, -, rfl⟩ := GatewayTable.insert_eq_ok_iff.1 inserted
    subst after
    refine ⟨h.distinct, fun other hother ↦ ?_, h.settled⟩
    rcases List.mem_append.1 hother with hother | hother
    · exact h.hosted other hother
    · rw [List.mem_singleton.1 hother]
      exact host
  | settings before after =>
    subst after
    exact ⟨h.distinct, h.hosted, rfl⟩
  | interfaceId taken after =>
    subst after
    exact ⟨h.distinct, h.hosted, h.settled⟩
  | other names hosts keeps =>
    refine ⟨names ▸ h.distinct, fun g hg ↦ ?_, keeps.settled h.settled⟩
    rw [keeps.gateways] at hg
    rw [hosts]
    exact h.hosted g hg

/-- Settings come by configuration and never go. -/
theorem settings_eq (he : Effect a a' call r) :
    (a'.mtu = a.mtu ∧ a'.keys = a.keys) ∨ call = .configure ∧ a.mtu = none := by
  cases he with
  | node _ _ _ keeps | other _ _ keeps => exact .inl ⟨keeps.mtu, keeps.keys⟩
  | gateway _ _ after | interfaceId _ after =>
    exact .inl ⟨congrArg (·.mtu) after, congrArg (·.keys) after⟩
  | settings before _ => exact .inr ⟨rfl, before⟩

/-- A call hands out the next interface id or leaves the counter alone. -/
theorem interfaceId_eq (he : Effect a a' call r) :
    (r = none ∧ a'.interfaceIds = a.interfaceIds) ∨
      (r = some a.interfaceIds.next ∧ a'.interfaceIds = ⟨a.interfaceIds.next + 1⟩) := by
  cases he with
  | node _ _ _ keeps => exact .inl ⟨rfl, keeps.interfaceIds⟩
  | gateway _ _ after => exact .inl ⟨rfl, congrArg (·.interfaceIds) after⟩
  | settings before after => exact .inl ⟨rfl, congrArg (·.interfaceIds) after⟩
  | @interfaceId _ id interfaceIds taken after =>
    subst after
    obtain ⟨rfl, -, hnext, -⟩ := Counter.take?_eq_some taken
    exact .inr ⟨rfl, congrArg Counter.mk hnext⟩
  | other _ _ keeps => exact .inl ⟨rfl, keeps.interfaceIds⟩

end Effect

/-! ## Histories -/

variable [WordSource σ] {asn : Asn} {source : σ} {calls before : List (Call σ)}

theorem sound_history (asn : Asn) (source : σ) (calls : List (Call σ)) :
    (history asn source calls).state.1.Sound := by
  have hnew : (history asn source []).state.1.Sound :=
    ⟨.nil, fun _ hg ↦ absurd hg List.not_mem_nil, rfl⟩
  exact History.lasting atomic_perform (fun _ _ _ _ h hcall ↦ (perform_effect hcall).sound h) hnew
    calls

theorem settings_history_append {mtu : UInt32} {keys : Option MasterKeys}
    (hmtu : (history asn source before).state.1.mtu = some mtu)
    (hkeys : (history asn source before).state.1.keys = keys) (rest : List (Call σ)) :
    (history asn source (before ++ rest)).state.1.mtu = some mtu ∧
      (history asn source (before ++ rest)).state.1.keys = keys := by
  refine History.lasting (P := fun (s : WithSource σ) ↦ s.1.mtu = some mtu ∧ s.1.keys = keys)
    atomic_perform ?_ ⟨hmtu, hkeys⟩ rest
  rintro s call r s' ⟨hmtu, hkeys⟩ hcall
  rcases (perform_effect hcall).settings_eq with ⟨hsame, hsame'⟩ | ⟨-, hnone⟩
  · exact ⟨hsame.trans hmtu, hsame'.trans hkeys⟩
  · rw [hnone] at hmtu
    exact absurd hmtu (by simp)

/-- Where configuration succeeded, the size of the largest packet is from then on the least one of
the networks that were there. -/
theorem mtu_of_configured {r : Option Nat × WithSource σ}
    (h : (perform .configure).outcome (history asn source before).state = .ok r)
    (rest : List (Call σ)) :
    (history asn source (before ++ .configure :: rest)).state.1.mtu
      = (history asn source before).state.1.leastMtu? := by
  have hstate : (history asn source (before ++ [.configure])).state = r.2 := by
    rw [history, History.record_concat]
    exact congrArg History.state (History.extend_of_eq_ok h)
  obtain ⟨⟨a, source'⟩, hconfigure, rfl⟩ :=
    map_eq_ok_iff.1 ((outcome_perform_configure _).symm.trans h)
  obtain ⟨-, mtu, hmtu, rfl, -⟩ := configure_eq_ok_iff.1 hconfigure
  obtain ⟨hsettled, -⟩ := settings_history_append (congrArg (·.1.mtu) hstate) rfl rest
  rw [List.append_assoc, List.singleton_append] at hsettled
  rw [hsettled, hmtu]

/-- Settings show that configuration has succeeded. -/
theorem exists_configured (h : (history asn source calls).state.1.mtu.isSome = true) :
    ∃ before rest r, calls = before ++ .configure :: rest ∧
      (perform .configure).outcome (history asn source before).state = .ok r := by
  induction calls using List.reverseRecOn with
  | nil => exact absurd (show (none : Option UInt32).isSome = true from h) (by decide)
  | append_singleton calls call ih =>
    -- Either the settings were there before the last call, or it has brought them.
    have hearlier : (history asn source calls).state.1.mtu.isSome = true →
        ∃ before rest r, calls ++ [call] = before ++ .configure :: rest ∧
          (perform .configure).outcome (history asn source before).state = .ok r := by
      intro hsome
      obtain ⟨before, rest, r, rfl, hr⟩ := ih hsome
      exact ⟨before, rest ++ [call], r, by rw [List.append_assoc]; rfl, hr⟩
    rw [history, History.record_concat, ← history] at h
    cases hcall : (perform call).outcome (history asn source calls).state with
    | error f =>
      rw [History.state_extend_of_eq_error (atomic_perform call) hcall] at h
      exact hearlier h
    | ok r =>
      rw [History.extend_of_eq_ok hcall] at h
      rcases (perform_effect hcall).settings_eq with ⟨hsame, -⟩ | ⟨rfl, -⟩
      · rw [hsame] at h
        exact hearlier h
      · exact ⟨calls, [], r, rfl, hcall⟩

/-- The interface ids of a history, in order. -/
def handedOut (h : History (Call σ) (WithSource σ) Fault (Option Nat)) : List Nat :=
  h.granted.filterMap (·.2)

/-- The ids follow each other from the first on, and the counter stands behind the last of them. -/
theorem handedOut_history (asn : Asn) (source : σ) (calls : List (Call σ)) :
    ∃ n, handedOut (history asn source calls) = List.range' 1 n ∧
      (history asn source calls).state.1.interfaceIds = ⟨n + 1⟩ := by
  refine History.record_induction
    (fun _ (h : History (Call σ) (WithSource σ) Fault (Option Nat)) ↦
      ∃ n, handedOut h = List.range' 1 n ∧ h.state.1.interfaceIds = ⟨n + 1⟩)
    ⟨0, rfl, rfl⟩ ?_ ?_ calls
  · rintro _ call h r s' ⟨n, hids, hcounter⟩ hcall
    rw [handedOut, History.granted_extend_of_eq_ok hcall, List.filterMap_append, ← handedOut, hids,
      History.extend_of_eq_ok hcall]
    rcases (perform_effect hcall).interfaceId_eq with ⟨rfl, hsame⟩ | ⟨rfl, hnext⟩
    · exact ⟨n, List.append_nil _, hsame.trans hcounter⟩
    · rw [hcounter] at hnext ⊢
      refine ⟨n + 1, ?_, hnext⟩
      rw [List.range'_1_concat, Nat.add_comm 1 n]
      rfl
  · rintro _ call h f ⟨n, hids, hcounter⟩ hcall
    rw [handedOut, History.granted_extend_of_eq_error hcall, ← handedOut,
      History.state_extend_of_eq_error (atomic_perform call) hcall]
    exact ⟨n, hids, hcounter⟩

/-- **An AS after any history.** Whatever was called on a new AS, and whatever of it was refused, no
two nodes have one name and every gateway has its host. The size of the largest packet is there
exactly if the keys are, exactly if configuration has succeeded, and then it is the least of the
networks that were there at that moment; neither changes from then on. The interface ids that were
handed out count from one. A call that is refused leaves the AS and the source as they were. -/
theorem history_invariant (asn : Asn) (source : σ) (calls : List (Call σ)) :
    let h := history asn source calls
    let a := h.state.1
    h.answers.map (·.1) = calls ∧ a.Sound ∧ a.mtu.isSome = a.keys.isSome ∧
      (a.mtu.isSome = true → ∃ before rest r, calls = before ++ .configure :: rest ∧
        (perform .configure).outcome (history asn source before).state = .ok r) ∧
      (∀ before rest r, calls = before ++ .configure :: rest →
        (perform .configure).outcome (history asn source before).state = .ok r →
        ∃ mtu, a.mtu = some mtu ∧ IsLeast
          {m | m ∈ (history asn source before).state.1.networks.values.map (·.mtu)} mtu) ∧
      (∀ before rest mtu keys, calls = before ++ rest →
        (history asn source before).state.1.mtu = some mtu →
        (history asn source before).state.1.keys = some keys →
        a.mtu = some mtu ∧ a.keys = some keys) ∧
      (∃ n, handedOut h = List.range' 1 n) ∧
      ∀ call f, (perform call).outcome h.state = .error f →
        (history asn source (calls ++ [call])).state = h.state := by
  intro h a
  have hsound : a.Sound := sound_history asn source calls
  refine ⟨History.map_fst_answers_record .., hsound, hsound.settled, exists_configured, ?_, ?_, ?_,
    ?_⟩
  · rintro before rest r rfl hr
    obtain ⟨r, hconfigure, -⟩ := map_eq_ok_iff.1 ((outcome_perform_configure _).symm.trans hr)
    obtain ⟨-, mtu, hmtu, -⟩ := configure_eq_ok_iff.1 hconfigure
    exact ⟨mtu, (mtu_of_configured hr rest).trans hmtu, leastMtu?_eq_some_iff.1 hmtu⟩
  · rintro before rest mtu keys rfl hmtu hkeys
    exact settings_history_append hmtu hkeys rest
  · obtain ⟨n, hids, -⟩ := handedOut_history asn source calls
    exact ⟨n, hids⟩
  · intro call f hcall
    exact History.state_record_concat_of_eq_error (atomic_perform call) hcall

/-! ### A network that comes too late -/

/-- A network inside AS 150. -/
def packetNetwork (name : String) (mtu : UInt32) : Network :=
  ⟨name, .inside 150, .ofOctets 10 0 0 0 24, mtu⟩

/-- The calls before and after configuration. A router wants the name of a host, the network with
the smallest packets comes too late to matter, and configuration is called again. -/
def lateNetwork : List (Call Stepper) × List (Call Stepper) :=
  ([.addNetwork (packetNetwork "net0" 1500), .addNetwork (packetNetwork "net1" 1280),
      .addHost "sig" ⟨[]⟩, .addRouter "sig" { loopback := .ofOctets 10 0 0 1 },
      .addGateway (GatewayTable.gatewayAt "sig0" "sig" 30000)],
    [.addNetwork (packetNetwork "net2" 576), .takeInterfaceId, .configure, .takeInterfaceId])

theorem exists_configured_lateNetwork :
    ∃ r, (perform .configure).outcome (history 150 (⟨0, 1⟩ : Stepper) lateNetwork.1).state
      = .ok r := by
  have hconfigure : ∃ r, AutonomousSystem.configure.after
      (history 150 (⟨0, 1⟩ : Stepper) lateNetwork.1).state = .ok r := by
    refine ⟨_, configure_eq_ok_iff.2 ⟨?_, 1280, ?_, rfl, rfl⟩⟩ <;> rfl
  obtain ⟨r, hr⟩ := hconfigure
  exact ⟨_, (outcome_perform_configure _).trans (map_eq_ok_iff.2 ⟨r, hr, rfl⟩)⟩

/-- The packet size is the least of the first two networks, the ids count on across the call that
was refused, and a third configuration changes nothing either. -/
theorem lateNetwork_invariant :
    let calls := lateNetwork.1 ++ .configure :: lateNetwork.2
    let h := history 150 (⟨0, 1⟩ : Stepper) calls
    h.state.1.Sound ∧ (∃ mtu, h.state.1.mtu = some mtu ∧ IsLeast {m | m ∈ [1500, 1280]} mtu) ∧
      handedOut h = [1, 2] ∧
      (history 150 (⟨0, 1⟩ : Stepper) (calls ++ [.configure])).state = h.state := by
  obtain ⟨-, hsound, -, -, hleast, -, -, hrefused⟩ :=
    history_invariant 150 (⟨0, 1⟩ : Stepper) (lateNetwork.1 ++ .configure :: lateNetwork.2)
  obtain ⟨r, hr⟩ := exists_configured_lateNetwork
  exact ⟨hsound, hleast _ _ r rfl hr, rfl, hrefused .configure (.alreadyConfigured 150) rfl⟩

end AutonomousSystem

end Interdomain
