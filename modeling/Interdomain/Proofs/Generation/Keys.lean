import Interdomain.Proofs.Generation.Files
import Interdomain.Proofs.Generation.Neighbours

/-!
# Master keys of a generation

An AS draws its keys when its turn comes, and the turns follow the numbers of the ASes. Nothing else
draws from the source, and nothing after the draw touches the keys, so the keys that a generation
holds and writes are a function of the source and of the declared numbers. Two generations from one
source therefore agree on them, however else their configurations differ.
-/

namespace Interdomain

/-! ## The order of the draws -/

structure Config.HasOrder (c : Config) (order : List Asn) : Prop where
  ascending : order.Pairwise (· < ·)
  mem_iff : ∀ n, n ∈ order ↔ n ∈ c.ases.map (·.asn)

theorem Config.HasOrder.unique {c c' : Config} {order order' : List Asn} (h : c.HasOrder order)
    (h' : c'.HasOrder order') (hsame : ∀ n, n ∈ c.ases.map (·.asn) ↔ n ∈ c'.ases.map (·.asn)) :
    order = order' :=
  h.ascending.eq_of_mem_iff h'.ascending fun n ↦ by rw [h.mem_iff, h'.mem_iff, hsame]

theorem Config.Describes.hasOrder {c : Config} {e : Emulation} (h : c.Describes e) :
    c.HasOrder e.ases.keys := by
  refine ⟨e.pairwise_numbers, fun n ↦ ?_⟩
  rw [e.ases.mem_keys_iff, List.mem_map]
  constructor
  · rintro ⟨a, ha⟩
    obtain ⟨d, hd, hasn, -⟩ := h.only n a ha
    exact ⟨d, hd, hasn⟩
  · rintro ⟨d, hd, rfl⟩
    obtain ⟨a, ha, -⟩ := h.declared d hd
    exact ⟨a, ha⟩

/-! ## Keys in the network and in the files -/

namespace Generation

/-- Every declared AS has the keys of its number, and so have the two files in each of its domains
and no other files of their names. -/
structure HasKeys (g : Generation) (c : Config) (keys : Asn → MasterKeys) : Prop where
  held : ∀ d ∈ c.ases, ∃ a, g.emulation.as? d.asn = some a ∧ a.keys = some (keys d.asn)
  written0 : ∀ ia contents, ⟨memberPath ia "keys/master0.key", contents⟩ ∈ g.artifacts ↔
    c.HasMember ia ∧ contents = (keys ia.asn).text0
  written1 : ∀ ia contents, ⟨memberPath ia "keys/master1.key", contents⟩ ∈ g.artifacts ↔
    c.HasMember ia ∧ contents = (keys ia.asn).text1

variable {σ : Type} [WordSource σ] {c : Config} {options : ResolverOptions} {source : σ}
  {g : Generation}

theorem keys_of_generate (h : generate c options source = .ok g) :
    ∃ order, c.HasOrder order ∧ ∀ n a, g.emulation.as? n = some a →
      a.keys = some (MasterKeys.dealt source order n) := by
  obtain ⟨built, settled, hbuild, -, ⟨source', hsettled⟩, hresolve, -⟩ := phases_of_generate h
  obtain ⟨p, -, hcommitted⟩ := Resolution.plan_of_resolve hresolve
  refine ⟨built.ases.keys, (c.build_yields.good_of_ok hbuild).hasOrder, fun n a ha ↦ ?_⟩
  have hbare := congrArg (·.as? n) hcommitted.bare
  simp only [Emulation.as?_bare, ha, Option.map_some] at hbare
  obtain ⟨b, hb, hsame⟩ := Option.map_eq_some_iff.1 hbare.symm
  have hkeys : a.keys = b.keys := congrArg (·.keys) hsame.symm
  have hn : n ∈ built.ases.keys := by
    by_contra hnot
    rw [hsettled.others n hnot] at hb
    exact hnot ((built.ases.mem_keys_iff).2 ⟨b, hb⟩)
  obtain ⟨before, mtu, -, -, -, hafter⟩ := hsettled.settled n hn
  obtain rfl := Option.some.inj (hb.symm.trans hafter)
  exact hkeys

/-- Where the file of a name holds what is made of the settled keys, it is there for each member and
holds what is made of the keys of its number. -/
theorem Linked.mem_artifacts_key_iff (h : g.Linked c)
    (hrender : render g.emulation g.links g.resolved = .ok g.artifacts) {keys : Asn → MasterKeys}
    (hheld : ∀ n a, g.emulation.as? n = some a → a.keys = some (keys n)) {path : String}
    {text : MasterKeys → String}
    (hfile : ∀ a isd files, AutonomousSystem.files a g.resolved isd = .ok files →
      ∃ held, a.keys = some held ∧ ∀ contents, ⟨path, contents⟩ ∈ files ↔ contents = text held)
    (ia : IsdAsn) (contents : String) :
    ⟨memberPath ia path, contents⟩ ∈ g.artifacts ↔
      c.HasMember ia ∧ contents = text (keys ia.asn) := by
  have hkeys : ∀ a files, g.emulation.as? ia.asn = some a →
      a.files g.resolved ia.isd = .ok files →
      (⟨path, contents⟩ ∈ files ↔ contents = text (keys ia.asn)) := by
    intro a files ha hfiles
    obtain ⟨held, hkeys, hmem⟩ := hfile a ia.isd files hfiles
    rw [hmem, Option.some.inj (hkeys.symm.trans (hheld ia.asn a ha))]
  rw [mem_artifacts_memberPath_iff hrender, h.hasMember_iff]
  constructor
  · rintro ⟨a, files, hmember, hasn, hfiles, hmem⟩
    obtain ⟨ha, hisd⟩ := h.mem_memberships_iff_as?.1 ⟨hmember, hasn⟩
    exact ⟨⟨a, ha, hisd⟩, (hkeys a files ha hfiles).1 hmem⟩
  · rintro ⟨⟨a, ha, hisd⟩, hcontents⟩
    obtain ⟨hmember, hasn⟩ := h.mem_memberships_iff_as?.2 ⟨ha, hisd⟩
    obtain ⟨files, hfiles⟩ := exists_files_of_render hrender hmember
    exact ⟨a, files, hmember, hasn, hfiles, (hkeys a files ha hfiles).2 hcontents⟩

theorem hasKeys_of_generate (h : generate c options source = .ok g) :
    ∃ order, c.HasOrder order ∧ g.HasKeys c (MasterKeys.dealt source order) := by
  obtain ⟨order, horder, hheld⟩ := keys_of_generate h
  have hlinked := linked_of_generate h
  obtain ⟨-, -, -, -, -, -, hrender⟩ := phases_of_generate h
  refine ⟨order, horder, fun d hd ↦ ?_, ?_, ?_⟩
  · obtain ⟨a, ha, -⟩ := hlinked.declared d hd
    exact ⟨a, ha, hheld d.asn a ha⟩
  · refine hlinked.mem_artifacts_key_iff hrender hheld fun a isd files hfiles ↦ ?_
    obtain ⟨held, hkeys, hmem, -⟩ := AutonomousSystem.mem_files_key_iff hfiles
    exact ⟨held, hkeys, hmem⟩
  · refine hlinked.mem_artifacts_key_iff hrender hheld fun a isd files hfiles ↦ ?_
    obtain ⟨held, hkeys, -, hmem⟩ := AutonomousSystem.mem_files_key_iff hfiles
    exact ⟨held, hkeys, hmem⟩

end Generation

/-- **Keys depend on the source and the numbers only.** Where two configurations declare ASes of the
same numbers and both can be generated from one state of the source, there is one pair of keys for
each number, and in both generations it is what the AS holds and what stands in its files, in each
of its domains. -/
theorem keys_of_same_numbers {σ : Type} [WordSource σ] {c c' : Config}
    {options options' : ResolverOptions} {source : σ} {g g' : Generation}
    (hsame : ∀ n, n ∈ c.ases.map (·.asn) ↔ n ∈ c'.ases.map (·.asn))
    (h : generate c options source = .ok g) (h' : generate c' options' source = .ok g') :
    ∃ keys, g.HasKeys c keys ∧ g'.HasKeys c' keys := by
  obtain ⟨order, horder, hkeys⟩ := Generation.hasKeys_of_generate h
  obtain ⟨order', horder', hkeys'⟩ := Generation.hasKeys_of_generate h'
  obtain rfl := horder.unique horder' hsame
  exact ⟨_, hkeys, hkeys'⟩

/-! ### The same two ASes elsewhere -/

/-- The ASes of the crossroads in the opposite order, in another domain and without links. -/
def elsewhere : Config where
  isds := [3]
  ases := [
    { asn := 2, isds := [{ isd := 3 }], networks := [{ name := "net0", mtu := some 1280 }] },
    { asn := 1, isds := [{ isd := 3 }], networks := [{ name := "lan" }, { name := "wan" }] }]

theorem exists_generate_elsewhere :
    ∃ g, generate elsewhere { peerRemoteIds := false } (⟨0, 1⟩ : Stepper) = .ok g ∧
      g.artifacts.length = 7 :=
  exists_eq_ok_of_map_toOption (by decide +kernel)

/-- The first AS has the same first key in all its domains, here and there. -/
theorem elsewhere_keys :
    ∃ g g' contents, generate crossroads {} (⟨0, 1⟩ : Stepper) = .ok g ∧
      generate elsewhere { peerRemoteIds := false } (⟨0, 1⟩ : Stepper) = .ok g' ∧
      ⟨memberPath ⟨1, 1⟩ "keys/master0.key", contents⟩ ∈ g.artifacts ∧
      ⟨memberPath ⟨2, 1⟩ "keys/master0.key", contents⟩ ∈ g.artifacts ∧
      ⟨memberPath ⟨3, 1⟩ "keys/master0.key", contents⟩ ∈ g'.artifacts := by
  obtain ⟨g, hg, -⟩ := exists_generate_crossroads
  obtain ⟨g', hg', -⟩ := exists_generate_elsewhere
  have hsame : ∀ n, n ∈ crossroads.ases.map (·.asn) ↔ n ∈ elsewhere.ases.map (·.asn) := by
    intro n
    simp [crossroads, elsewhere, or_comm]
  obtain ⟨keys, hkeys, hkeys'⟩ := keys_of_same_numbers hsame hg hg'
  refine ⟨g, g', (keys 1).text0, hg, hg', ?_, ?_, ?_⟩
  · exact (hkeys.written0 _ _).2 ⟨by decide, rfl⟩
  · exact (hkeys.written0 _ _).2 ⟨by decide, rfl⟩
  · exact (hkeys'.written0 _ _).2 ⟨by decide, rfl⟩

end Interdomain
