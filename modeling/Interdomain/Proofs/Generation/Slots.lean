import Interdomain.Proofs.Files.Room
import Interdomain.Proofs.Generation.Files

/-!
# Slots

Every file of an AS has a slot of its own in the directory of the AS: the topology, a key, the
static information, the policy of a kind, the settings of a control service of some name or the
traffic policy of a gateway of some name. The path of a slot is made of that name as it is. Without
a slash in it, different slots are at different locations and none is in another.
-/

namespace Interdomain

open FileSystem (names IsPlain Apart)

/-! ## Slots -/

/-- Which file of an AS it is. -/
inductive Slot where
  | topology
  /-- The first or the second of the keys. -/
  | key (second : Bool)
  | staticInfo
  | policy (kind : PolicyKind)
  /-- The settings of a control service. -/
  | control (name : String)
  /-- The traffic policy of a gateway. -/
  | gateway (name : String)
  deriving DecidableEq

namespace Slot

def path : Slot → String
  | topology => "topology.json"
  | key false => "keys/master0.key"
  | key true => "keys/master1.key"
  | staticInfo => StaticInfo.fileName
  | policy kind => policyFile kind
  | control name => "control/" ++ name ++ ".toml"
  | gateway name => "gateways/" ++ name ++ ".json"

/-- The first name of a path. -/
def front : Slot → String
  | topology => "topology.json"
  | key _ => "keys"
  | staticInfo => StaticInfo.fileName
  | policy _ => "beacon_policy"
  | control _ => "control"
  | gateway _ => "gateways"

/-- The other names of a path without more slashes than it should have. -/
def rest : Slot → Location
  | topology | staticInfo => []
  | key false => ["master0.key"]
  | key true => ["master1.key"]
  | policy kind => [kind.text ++ ".yaml"]
  | control name => [name ++ ".toml"]
  | gateway name => [name ++ ".json"]

def location (s : Slot) : Location := s.front :: s.rest

/-- A slot with a name in which there is no slash, or with no name. -/
def HasNoSlash : Slot → Prop
  | control name => '/' ∉ name.toList
  | gateway name => '/' ∉ name.toList
  | _ => True

theorem names_filed (front name ending : String) (hfront : '/' ∉ front.toList)
    (hname : '/' ∉ name.toList) (hending : '/' ∉ ending.toList) :
    names (front ++ "/" ++ name ++ ending) = [front, name ++ ending] := by
  have hlast : '/' ∉ (name ++ ending).toList := by
    rw [String.toList_append, List.mem_append]
    exact fun h ↦ h.elim hname hending
  rw [String.append_assoc, FileSystem.names_append_slash, FileSystem.names_of_not_mem hfront,
    FileSystem.names_of_not_mem hlast, List.singleton_append]

theorem names_path {s : Slot} (h : s.HasNoSlash) : names s.path = s.location := by
  cases s with
  | topology => decide
  | key second => cases second <;> decide
  | staticInfo => decide
  | policy kind =>
    have hkind : '/' ∉ kind.text.toList := by cases kind <;> decide
    have hnames := names_filed "beacon_policy" kind.text ".yaml" (by decide) hkind (by decide)
    rwa [(by decide : "beacon_policy" ++ "/" = "beacon_policy/")] at hnames
  | control name =>
    have hnames := names_filed "control" name ".toml" (by decide) h (by decide)
    rwa [(by decide : "control" ++ "/" = "control/")] at hnames
  | gateway name =>
    have hnames := names_filed "gateways" name ".json" (by decide) h (by decide)
    rwa [(by decide : "gateways" ++ "/" = "gateways/")] at hnames

/-- A name that ends with three characters is neither empty nor a dot nor two of them. -/
theorem isPlain_append {name ending : String} (h : 3 ≤ ending.toList.length) :
    IsPlain (name ++ ending) := by
  have hlength : ∀ short : String, short.toList.length ≤ 2 → name ++ ending ≠ short := by
    rintro short hshort rfl
    rw [String.toList_append, List.length_append] at hshort
    omega
  exact ⟨hlength _ (by decide), hlength _ (by decide), hlength _ (by decide)⟩

theorem isPlain_front (s : Slot) : IsPlain s.front := by
  cases s <;> simp [IsPlain, front, StaticInfo.fileName]

theorem isPlain_of_mem_location {s : Slot} {name : String} (h : name ∈ s.location) :
    IsPlain name := by
  rcases List.mem_cons.1 h with rfl | h
  · exact s.isPlain_front
  cases s with
  | topology => exact absurd h List.not_mem_nil
  | key second => cases second <;> exact List.mem_singleton.1 h ▸ (by decide)
  | staticInfo => exact absurd h List.not_mem_nil
  | policy kind => exact List.mem_singleton.1 h ▸ isPlain_append (by decide)
  | control name => exact List.mem_singleton.1 h ▸ isPlain_append (by decide)
  | gateway name => exact List.mem_singleton.1 h ▸ isPlain_append (by decide)

end Slot

theorem PolicyKind.text_append_ne {kind kind' : PolicyKind} (h : kind ≠ kind') (ending : String) :
    kind.text ++ ending ≠ kind'.text ++ ending := by
  rw [Ne, String.append_left_inj]
  exact mt PolicyKind.text_inj h

namespace Slot

theorem apart_rest {s s' : Slot} (hfront : s.front = s'.front) (h : s ≠ s') :
    Apart s.rest s'.rest := by
  -- Slots of two kinds differ in their first names.
  cases s <;> cases s' <;>
    first
    | exact absurd rfl h
    | simp [front, StaticInfo.fileName] at hfront; done
    | skip
  case key.key second second' =>
    cases second <;> cases second' <;>
      first | exact absurd rfl h | exact FileSystem.apart_of_ne (by decide) [] []
  case policy.policy kind kind' =>
    have hne : kind ≠ kind' := fun heq ↦ h (congrArg policy heq)
    exact FileSystem.apart_of_ne (PolicyKind.text_append_ne hne ".yaml") [] []
  case control.control name name' =>
    refine FileSystem.apart_of_ne (fun heq ↦ h ?_) [] []
    exact congrArg control ((String.append_left_inj ..).1 heq)
  case gateway.gateway name name' =>
    refine FileSystem.apart_of_ne (fun heq ↦ h ?_) [] []
    exact congrArg gateway ((String.append_left_inj ..).1 heq)

/-- No slot is at the location of another one or in it. -/
theorem apart {s s' : Slot} (h : s ≠ s') : Apart s.location s'.location := by
  by_cases hfront : s.front = s'.front
  · rw [location, location, hfront]
    exact (apart_rest hfront h).cons s'.front
  · exact FileSystem.apart_of_ne hfront s.rest s'.rest

end Slot

/-! ## The files of an AS -/

namespace AutonomousSystem

variable {a : AutonomousSystem} {links : List ResolvedLink} {isd : Isd} {files : List Artifact}

def slots (a : AutonomousSystem) (links : List ResolvedLink) : List Slot :=
  [.topology, .key false, .key true] ++
    (a.staticInformation? links).toList.map (fun _ ↦ .staticInfo) ++
    a.policies.keys.map .policy ++ a.controlServices.keys.map .control ++
    a.gateways.gateways.map (.gateway ·.name)

theorem paths_of_policyFiles {policies : List Artifact} (h : a.policyFiles = .ok policies) :
    policies.map (·.path) = a.policies.keys.map policyFile := by
  rw [SortedMap.keys, List.map_map, ← List.forall₂_eq_eq_eq, List.forall₂_map_left_iff,
    List.forall₂_map_right_iff]
  refine (mapM_eq_ok_iff.1 h).flip.imp fun f e hf ↦ ?_
  split at hf
  case h_1 => exact (congrArg Artifact.path (Except.ok.inj hf)).symm
  case h_2 => exact absurd hf (by simp)

theorem paths_of_files (h : a.files links isd = .ok files) :
    files.map (·.path) = (a.slots links).map Slot.path := by
  obtain ⟨topology, keys, policies, -, -, hpolicies, rfl⟩ := files_eq_ok_iff.1 h
  have hstatic : (a.staticInfoFiles links).map (·.path)
      = (a.staticInformation? links).toList.map fun _ ↦ StaticInfo.fileName := by
    rw [staticInfoFiles]
    cases a.staticInformation? links <;> rfl
  rw [otherFiles, slots]
  simp only [List.map_append, paths_of_policyFiles hpolicies, hstatic, List.append_assoc,
    controlFiles, gatewayFiles, List.map_map]
  rfl

theorem nodup_slots (hgateways : (a.gateways.gateways.map (·.name)).Nodup) :
    (a.slots links).Nodup := by
  have hstatic : ((a.staticInformation? links).toList.map fun _ ↦ Slot.staticInfo).Nodup := by
    cases a.staticInformation? links with
    | none => exact .nil
    | some info => exact List.nodup_singleton _
  have hpolicies : (a.policies.keys.map Slot.policy).Nodup :=
    a.policies.nodup_keys.map fun _ _ heq ↦ Slot.policy.inj heq
  have hcontrol : (a.controlServices.keys.map Slot.control).Nodup :=
    a.controlServices.nodup.map fun _ _ heq ↦ Slot.control.inj heq
  have hgateway : (a.gateways.gateways.map (Slot.gateway ·.name)).Nodup := by
    have hmap := hgateways.map fun _ _ heq ↦ Slot.gateway.inj heq
    rwa [List.map_map] at hmap
  -- Slots of two kinds are never the same.
  simp only [slots, List.append_assoc, List.nodup_append, hstatic, hpolicies, hcontrol, hgateway]
  simp [or_imp, forall_and]

end AutonomousSystem

/-- Every file has the path of its slot, in the directory of its AS in a domain. -/
theorem Emulation.paths_of_render {e : Emulation} {links : LinkRegistry}
    {resolved : List ResolvedLink} {artifacts : List Artifact}
    (h : render e links resolved = .ok artifacts) :
    artifacts.map (·.path) = e.memberships.flatMap (fun x ↦
      (x.1.slots resolved).map fun s ↦ memberPath ⟨x.2, x.1.asn⟩ s.path) ++ [graphFile] := by
  obtain ⟨all, hall, h⟩ := bind_eq_ok_iff.1 h
  obtain rfl := Except.ok.inj h
  have hmembers : all.map (·.map (·.path)) = e.memberships.map fun x ↦
      (x.1.slots resolved).map fun s ↦ memberPath ⟨x.2, x.1.asn⟩ s.path := by
    rw [← List.forall₂_eq_eq_eq, List.forall₂_map_left_iff, List.forall₂_map_right_iff]
    refine (mapM_eq_ok_iff.1 hall).flip.imp ?_
    rintro _ ⟨a, isd⟩ hrender
    obtain ⟨files, hfiles, hrender⟩ := bind_eq_ok_iff.1 hrender
    obtain rfl := Except.ok.inj hrender
    have hpaths := congrArg (List.map (memberPath ⟨isd, a.asn⟩))
      (AutonomousSystem.paths_of_files hfiles)
    rw [List.map_map, List.map_map] at hpaths
    rw [List.map_map]
    exact hpaths
  rw [List.map_append, List.map_flatten, hmembers, List.flatMap_def, List.map_singleton]

end Interdomain
