import Interdomain.Proofs.Generation.Phases

/-!
# Generated files

Apart from the graph, every file belongs to an AS in one of its domains. Its path starts with their
identifier, and an identifier has no slash in it, so the path tells the AS, the domain and the path
in their directory. There the topology and the keys come first, and the other files have names that
begin differently.
-/

namespace Interdomain

/-! ## Paths -/

/-- The path of a file of an AS in a domain, by its path in their directory. -/
def memberPath (ia : IsdAsn) (path : String) : String := ia.text ++ "/" ++ path

theorem toList_memberPath (ia : IsdAsn) (path : String) :
    (memberPath ia path).toList = Decimal.digits ia.isd.toNat ++
      '-' :: (Decimal.digits ia.asn.toNat ++ '/' :: path.toList) := by
  rw [memberPath, String.toList_append, String.toList_append, IsdAsn.text, String.toList_ofList,
    IsdAsn.chars]
  simp

theorem memberPath_inj {ia ia' : IsdAsn} {path path' : String} :
    memberPath ia path = memberPath ia' path' ↔ ia = ia' ∧ path = path' := by
  constructor
  · intro h
    have hchars := String.toList_inj.2 h
    rw [toList_memberPath, toList_memberPath] at hchars
    obtain ⟨hisd, hrest⟩ := Decimal.digits_append_cons_inj (by decide) (by decide) hchars
    obtain ⟨hasn, hpath⟩ :=
      Decimal.digits_append_cons_inj (by decide) (by decide) (List.cons.inj hrest).2
    obtain ⟨isd, asn⟩ := ia
    obtain rfl := UInt16.toNat_inj.1 hisd
    obtain rfl := UInt32.toNat_inj.1 hasn
    exact ⟨rfl, String.toList_inj.1 (List.cons.inj hpath).2⟩
  · rintro ⟨rfl, rfl⟩
    rfl

def topologyPath (ia : IsdAsn) : String := ia.text ++ "/topology.json"

theorem topologyPath_eq (ia : IsdAsn) : topologyPath ia = memberPath ia "topology.json" := by
  rw [topologyPath, memberPath, String.append_assoc]
  rfl

theorem memberPath_ne_graphFile (ia : IsdAsn) (path : String) : memberPath ia path ≠ graphFile := by
  intro h
  have hslash : '/' ∈ (memberPath ia path).toList := by
    rw [toList_memberPath]
    simp
  rw [h] at hslash
  exact absurd hslash (by decide)

/-! ## The files of a directory -/

namespace AutonomousSystem

variable {a : AutonomousSystem} {links : List ResolvedLink} {isd : Isd} {files : List Artifact}

theorem settled_eq_ok_iff {α : Type} {o : Option α} {x : α} :
    a.settled o = .ok x ↔ o = some x := by
  cases o <;> simp [settled]

/-- The files beside the topology and the keys. -/
def otherFiles (a : AutonomousSystem) (links : List ResolvedLink) (policies : List Artifact) :
    List Artifact :=
  a.staticInfoFiles links ++ policies ++ a.controlFiles ++ a.gatewayFiles

theorem files_eq_ok_iff :
    a.files links isd = .ok files ↔
      ∃ topology keys policies, a.topology isd = .ok topology ∧ a.keys = some keys ∧
        a.policyFiles = .ok policies ∧
        files = topologyFiles topology keys ++ a.otherFiles links policies := by
  simp only [AutonomousSystem.files, bind_eq_ok_iff, mapError_eq_ok_iff, settled_eq_ok_iff]
  constructor
  · rintro ⟨topology, htopology, keys, hkeys, policies, hpolicies, h⟩
    refine ⟨topology, keys, policies, htopology, hkeys, hpolicies, ?_⟩
    rw [← Except.ok.inj h, otherFiles]
    simp only [List.append_assoc]
  · rintro ⟨topology, keys, policies, htopology, hkeys, hpolicies, rfl⟩
    refine ⟨topology, htopology, keys, hkeys, policies, hpolicies, ?_⟩
    rw [otherFiles]
    simp only [List.append_assoc]
    rfl

theorem path_of_mem_policyFiles {policies : List Artifact} (h : a.policyFiles = .ok policies)
    {f : Artifact} (hf : f ∈ policies) : ∃ kind, f.path = policyFile kind := by
  obtain ⟨entry, -, hentry⟩ := exists_of_mem_of_forall₂ (mapM_eq_ok_iff.1 h).flip hf
  split at hentry
  · exact ⟨entry.1, (congrArg Artifact.path (Except.ok.inj hentry)).symm⟩
  · exact absurd hentry (by simp)

theorem head?_of_mem_otherFiles {policies : List Artifact} (h : a.policyFiles = .ok policies)
    {f : Artifact} (hf : f ∈ a.otherFiles links policies) : f.path.toList.head? ≠ some 'k' := by
  simp only [otherFiles, List.mem_append] at hf
  rcases hf with ((hf | hf) | hf) | hf
  · rw [staticInfoFiles] at hf
    split at hf
    · obtain rfl := List.mem_singleton.1 hf
      exact (by decide : StaticInfo.fileName.toList.head? ≠ some 'k')
    · exact absurd hf List.not_mem_nil
  · obtain ⟨kind, hpath⟩ := path_of_mem_policyFiles h hf
    rw [hpath]
    change ("beacon_policy/" ++ kind.text ++ ".yaml").toList.head? ≠ some 'k'
    simp
  · obtain ⟨name, -, rfl⟩ := List.mem_map.1 hf
    simp
  · obtain ⟨g, -, rfl⟩ := List.mem_map.1 hf
    simp

theorem mem_files_key_iff (h : a.files links isd = .ok files) :
    ∃ keys, a.keys = some keys ∧
      (∀ contents, ⟨"keys/master0.key", contents⟩ ∈ files ↔ contents = keys.text0) ∧
      ∀ contents, ⟨"keys/master1.key", contents⟩ ∈ files ↔ contents = keys.text1 := by
  obtain ⟨topology, keys, policies, -, hkeys, hpolicies, rfl⟩ := files_eq_ok_iff.1 h
  have hother : ∀ path contents, path.toList.head? = some 'k' →
      ⟨path, contents⟩ ∉ a.otherFiles links policies :=
    fun path contents hk hmem ↦ head?_of_mem_otherFiles hpolicies hmem hk
  refine ⟨keys, hkeys, fun contents ↦ ?_, fun contents ↦ ?_⟩
  · rw [List.mem_append, or_iff_left (hother _ contents (by decide)), topologyFiles]
    simp
  · rw [List.mem_append, or_iff_left (hother _ contents (by decide)), topologyFiles]
    simp

end AutonomousSystem

/-! ## All files -/

theorem Emulation.mem_memberships_iff {e : Emulation} {a : AutonomousSystem} {isd : Isd} :
    (a, isd) ∈ e.memberships ↔ (∃ n, e.as? n = some a) ∧ isd ∈ a.isds := by
  rw [memberships, List.mem_flatMap]
  constructor
  · rintro ⟨a', ha', hmem⟩
    obtain ⟨isd', hisd, heq⟩ := List.mem_map.1 hmem
    obtain ⟨rfl, rfl⟩ := Prod.mk.inj heq
    exact ⟨(SortedMap.mem_values_iff ..).1 ha', hisd⟩
  · rintro ⟨ha, hisd⟩
    exact ⟨a, (SortedMap.mem_values_iff ..).2 ha, List.mem_map_of_mem hisd⟩

theorem exists_files_of_render {e : Emulation} {links : LinkRegistry}
    {resolved : List ResolvedLink} {artifacts : List Artifact}
    (h : render e links resolved = .ok artifacts) {a : AutonomousSystem} {isd : Isd}
    (hmember : (a, isd) ∈ e.memberships) : ∃ files, a.files resolved isd = .ok files := by
  obtain ⟨all, hall, -⟩ := bind_eq_ok_iff.1 h
  obtain ⟨fs, -, hrender⟩ := exists_of_mem_of_forall₂ (mapM_eq_ok_iff.1 hall) hmember
  obtain ⟨files, hfiles, -⟩ := bind_eq_ok_iff.1 hrender
  exact ⟨files, hfiles⟩

/-- A file in the directory of an AS in a domain is one of the files of the AS there. -/
theorem mem_artifacts_memberPath_iff {e : Emulation} {links : LinkRegistry}
    {resolved : List ResolvedLink} {artifacts : List Artifact}
    (h : render e links resolved = .ok artifacts) {ia : IsdAsn} {path contents : String} :
    ⟨memberPath ia path, contents⟩ ∈ artifacts ↔
      ∃ a files, (a, ia.isd) ∈ e.memberships ∧ a.asn = ia.asn ∧
        a.files resolved ia.isd = .ok files ∧ ⟨path, contents⟩ ∈ files := by
  obtain ⟨all, hall, h⟩ := bind_eq_ok_iff.1 h
  obtain rfl := Except.ok.inj h
  have hmembers := mapM_eq_ok_iff.1 hall
  have hgraph : (⟨memberPath ia path, contents⟩ : Artifact)
      ∉ [⟨graphFile, (Graph.ofLinks links e).text⟩] := fun hmem ↦
    memberPath_ne_graphFile ia path (congrArg Artifact.path (List.mem_singleton.1 hmem))
  rw [List.mem_append, or_iff_left hgraph, List.mem_flatten]
  constructor
  · rintro ⟨fs, hfs, hmem⟩
    obtain ⟨⟨a, isd⟩, hmember, hrender⟩ := exists_of_mem_of_forall₂ hmembers.flip hfs
    obtain ⟨files, hfiles, hrender⟩ := bind_eq_ok_iff.1 hrender
    obtain rfl := Except.ok.inj hrender
    obtain ⟨f, hf, heq⟩ := List.mem_map.1 hmem
    obtain ⟨hpath, rfl⟩ := Artifact.mk.inj heq
    obtain ⟨rfl, rfl⟩ := memberPath_inj.1 hpath
    exact ⟨a, files, hmember, rfl, hfiles, hf⟩
  · rintro ⟨a, files, hmember, hasn, hfiles, hmem⟩
    obtain ⟨fs, hfs, hrender⟩ := exists_of_mem_of_forall₂ hmembers hmember
    refine ⟨fs, hfs, ?_⟩
    rw [renderMember, hfiles] at hrender
    obtain rfl := Except.ok.inj hrender
    refine List.mem_map.2 ⟨⟨path, contents⟩, hmem, ?_⟩
    rw [AutonomousSystem.directory, hasn, memberPath]

theorem exists_topology_of_render {e : Emulation} {links : LinkRegistry}
    {resolved : List ResolvedLink} {artifacts : List Artifact}
    (h : render e links resolved = .ok artifacts) {a : AutonomousSystem} {isd : Isd}
    (hmember : (a, isd) ∈ e.memberships) :
    ∃ t, a.topology isd = .ok t ∧
      ⟨topologyPath ⟨isd, a.asn⟩, t.text ++ "\n"⟩ ∈ artifacts := by
  obtain ⟨files, hfiles⟩ := exists_files_of_render h hmember
  obtain ⟨t, keys, policies, ht, -, -, hsplit⟩ := AutonomousSystem.files_eq_ok_iff.1 hfiles
  refine ⟨t, ht, ?_⟩
  rw [topologyPath_eq, mem_artifacts_memberPath_iff h]
  exact ⟨a, files, hmember, rfl, hfiles, by simp [hsplit, AutonomousSystem.topologyFiles]⟩

end Interdomain
