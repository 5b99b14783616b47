import Interdomain.Proofs.Building.System

/-!
# Building the whole network

The exchanges come first and the ASes after them, one by one in the order of their declaration. The
network has exactly the declared ASes, each as it was declared, and a build that fails shows a flaw
of the configuration.
-/

namespace Interdomain

namespace Config

/-- The names of the exchange networks. -/
def exchangeNames (c : Config) : List String := c.exchanges.map (exchangeNetworkName ·.id)

structure Describes (c : Config) (e : Emulation) : Prop where
  distinct : (c.ases.map (·.asn)).Nodup
  declared : ∀ d ∈ c.ases, ∃ a, e.as? d.asn = some a ∧ d.Describes a
  only : ∀ asn a, e.as? asn = some a → ∃ d ∈ c.ases, d.asn = asn ∧ d.Describes a

/-- What makes it impossible to build the network of a configuration. -/
inductive Flaw (c : Config) : BuildFault → Prop
  /-- An exchange without addresses is not one that the template serves. -/
  | addresses {x : ExchangeDecl} (declared : x ∈ c.exchanges) (undeclared : x.subnet = none)
      (outside : defaultSubnet? x.id.toNat 0 = none) :
      Flaw c (.addressTemplate (.exchange x.id))
  | system {d : AsDecl} {f : BuildFault} (declared : d ∈ c.ases) (flaw : d.Flaw c.exchangeNames f) :
      Flaw c f
  | conflict (network : String) (address : Ipv4.Address) : Flaw c (.addressConflict network address)
  | asTwice (asn : Asn) (twice : ¬(c.ases.map (·.asn)).Nodup) : Flaw c (.duplicateAs asn)

variable {c : Config}

/-! ## Exchanges -/

/-- The exchanges of a list are those of a network, under the names of their networks. -/
structure HasExchanges (l : List ExchangeDecl) (e : Emulation) : Prop where
  ases : e.ases = ∅
  ids : ∀ id, id ∈ e.exchanges.keys ↔ id ∈ l.map (·.id)
  named : ∀ id n, e.exchanges.get? id = some n → n.name = exchangeNetworkName id

theorem exchangeBuild_yields (x : ExchangeDecl) :
    Yields x.build (fun n ↦ n.name = exchangeNetworkName x.id)
      fun f ↦ x.subnet = none ∧ defaultSubnet? x.id.toNat 0 = none ∧
        f = .addressTemplate (.exchange x.id) :=
  (subnetOf_yields ..).bind fun _ _ ↦ rfl

theorem addExchanges_yields {e : Emulation} (he : HasExchanges [] e) :
    Yields (c.exchanges.foldlM addExchange e) (HasExchanges c.exchanges) c.Flaw := by
  refine Yields.foldlM HasExchanges he fun before x after e hsplit he ↦ ?_
  have hmem : x ∈ c.exchanges := hsplit ▸ List.mem_append_right _ List.mem_cons_self
  refine ((exchangeBuild_yields x).imp_cause ?_).bind fun n hn ↦ ?_
  · rintro _ ⟨hundeclared, houtside, rfl⟩
    exact .addresses hmem hundeclared houtside
  · refine ⟨he.ases, fun id ↦ ?_, fun id n' hn' ↦ ?_⟩
    · rw [Emulation.setExchange, Roster.mem_keys_insert, he.ids, List.map_append,
        List.map_singleton, List.mem_append, List.mem_singleton]
    · rw [Emulation.setExchange, Roster.get?_insert] at hn'
      split at hn'
      case isTrue hid =>
        obtain rfl := Option.some.inj hn'
        rw [hid, hn]
      case isFalse => exact he.named id n' hn'

theorem HasExchanges.names {l : List ExchangeDecl} {e : Emulation} (he : HasExchanges l e)
    (name : String) :
    name ∈ (e.exchanges.values.foldl (fun ns n ↦ ns.insert n.name n) ∅ : Roster String Network).keys
      ↔ name ∈ l.map (exchangeNetworkName ·.id) := by
  rw [Roster.mem_keys_foldl_insert, List.mem_map, List.mem_map]
  constructor
  · rintro (hempty | ⟨n, hn, rfl⟩)
    · exact absurd hempty List.not_mem_nil
    · obtain ⟨id, hid⟩ := (Roster.mem_values_iff ..).1 hn
      have hkey : id ∈ e.exchanges.keys := by
        rw [← Roster.get?_isSome_iff, hid, Option.isSome_some]
      obtain ⟨x, hx, rfl⟩ := List.mem_map.1 ((he.ids id).1 hkey)
      exact ⟨x, hx, (he.named _ n hid).symm⟩
  · rintro ⟨x, hx, rfl⟩
    have hkey := (he.ids x.id).2 (List.mem_map_of_mem hx)
    obtain ⟨n, hn⟩ := Option.isSome_iff_exists.1 ((Roster.get?_isSome_iff ..).2 hkey)
    exact .inr ⟨n, (Roster.mem_values_iff ..).2 ⟨x.id, hn⟩, he.named x.id n hn⟩

/-! ## Autonomous systems -/

theorem claim_yields (taken l : List (String × Ipv4.Address)) :
    Yields (Construction.claim taken l) (fun _ ↦ True) c.Flaw := by
  induction l generalizing taken with
  | nil => exact trivial
  | cons x l ih =>
    rw [Construction.claim]
    split
    case isTrue => exact .conflict x.1 x.2
    case isFalse => exact ih (x :: taken)

theorem ases_foldl_addConnectionNetwork (l : List Network) (e : Emulation) :
    (l.foldl Construction.addConnectionNetwork e).ases = e.ases := by
  induction l generalizing e with
  | nil => rfl
  | cons n l ih =>
    rw [List.foldl_cons, ih, Construction.addConnectionNetwork]
    split
    case isTrue => rfl
    case isFalse => rfl

/-- One more AS is there after it was added, and the others are as before. -/
theorem Describes.addAs {before : List AsDecl} {e e' : Emulation} {d : AsDecl}
    {a : AutonomousSystem} (h : ({ c with ases := before } : Config).Describes e)
    (ha : d.Describes a) (hnew : e.as? a.asn = none) (he' : e'.ases = e.ases.insert a.asn a) :
    ({ c with ases := before ++ [d] } : Config).Describes e' := by
  have hlookup : ∀ asn, e'.as? asn = if asn = d.asn then some a else e.as? asn := by
    intro asn
    rw [Emulation.as?, he', SortedMap.get?_insert, ha.asn]
    rfl
  rw [ha.asn] at hnew
  have hother : ∀ d' ∈ before, d'.asn ≠ d.asn := by
    intro d' hd' heq
    obtain ⟨a', ha', -⟩ := h.declared d' hd'
    rw [heq, hnew] at ha'
    exact absurd ha' (by simp)
  refine ⟨?_, fun d' hd' ↦ ?_, fun asn a' ha' ↦ ?_⟩
  · rw [List.map_append, List.map_singleton, ← List.concat_eq_append, List.nodup_concat]
    refine ⟨fun hmem ↦ ?_, h.distinct⟩
    obtain ⟨d', hd', heq⟩ := List.mem_map.1 hmem
    exact hother d' hd' heq
  · rcases List.mem_append.1 hd' with hd' | hd'
    · rw [hlookup, if_neg (hother d' hd')]
      exact h.declared d' hd'
    · obtain rfl := List.mem_singleton.1 hd'
      exact ⟨a, by rw [hlookup, if_pos rfl], ha⟩
  · rw [hlookup] at ha'
    split at ha'
    case isTrue heq =>
      obtain rfl := Option.some.inj ha'
      exact ⟨d, List.mem_append_right _ (List.mem_singleton_self d), heq.symm, ha⟩
    case isFalse =>
      obtain ⟨d', hd', hasn, hdescribes⟩ := h.only asn a' ha'
      exact ⟨d', List.mem_append_left _ hd', hasn, hdescribes⟩

theorem addAses_yields {exchanges : Roster String Network}
    (hexchanges : ∀ name, name ∈ exchanges.keys ↔ name ∈ c.exchangeNames) {k : Construction}
    (hk : ({ c with ases := [] } : Config).Describes k.emulation) :
    Yields (c.ases.foldlM (Construction.addAs exchanges) k) (fun k' ↦ c.Describes k'.emulation)
      c.Flaw := by
  refine Yields.foldlM
    (fun before (k : Construction) ↦ ({ c with ases := before } : Config).Describes k.emulation) hk
     fun before d after k hsplit hk ↦ ?_
  have hmem : d ∈ c.ases := hsplit ▸ List.mem_append_right _ List.mem_cons_self
  have hbuild := (d.build_yields exchanges k.loopbacks).imp_cause fun f hf ↦
    Flaw.system hmem (hf.mono fun name hname ↦ (hexchanges name).2 hname)
  refine hbuild.bind fun site hsite ↦ (claim_yields ..).bind fun taken _ ↦ ?_
  rw [Emulation.addAs?]
  split
  case h_1 hadd =>
    split at hadd
    case isFalse => exact absurd hadd (by simp)
    case isTrue hcontains =>
      -- The AS that is there already was declared before.
      obtain ⟨a, ha⟩ := Option.isSome_iff_exists.1 hcontains
      obtain ⟨d', hd', hasn, -⟩ := hk.only _ a ha
      refine .asTwice d.asn fun hdistinct ↦ ?_
      rw [nodup_map_iff_not_mem_before] at hdistinct
      refine hdistinct before d after hsplit (List.mem_map.2 ⟨d', hd', ?_⟩)
      rw [hasn, hsite.asn]
  case h_2 e hadd =>
    split at hadd
    case isTrue => exact absurd hadd (by simp)
    case isFalse hcontains =>
      obtain rfl := Option.some.inj hadd
      refine hk.addAs hsite ?_ (ases_foldl_addConnectionNetwork ..)
      exact Option.not_isSome_iff_eq_none.1 hcontains

/-! ## The whole network -/

theorem hasExchanges_foldl_addIsd (l : List Isd) {e : Emulation} (he : HasExchanges [] e) :
    HasExchanges [] (l.foldl Emulation.addIsd e) := by
  induction l generalizing e with
  | nil => exact he
  | cons isd l ih => exact ih ⟨he.ases, he.ids, he.named⟩

/-- **Building the network.** A build that succeeds gives the declared ASes, and one that fails
shows a flaw of the configuration. -/
theorem build_yields (c : Config) : Yields c.build c.Describes c.Flaw := by
  have hempty : HasExchanges [] Emulation.empty := by
    exact ⟨rfl, fun _ ↦ Iff.rfl, fun _ _ hn ↦ nomatch hn⟩
  have hexchanges := addExchanges_yields (c := c) (hasExchanges_foldl_addIsd c.isds hempty)
  refine hexchanges.bind fun e he ↦ ?_
  refine (addAses_yields he.names ⟨List.nodup_nil, ?_, fun asn a ha ↦ ?_⟩).bind fun _ h ↦ h
  · exact fun d hd ↦ absurd hd List.not_mem_nil
  · rw [Emulation.as?, he.ases] at ha
    exact nomatch ha

end Config

end Interdomain
