import Interdomain.Config.Build
import Interdomain.Configuration
import Interdomain.ControlConfig
import Interdomain.Graph
import Interdomain.StaticInfo
import Interdomain.Yaml.Printer

/-!
# Generation

From a configuration to the contents of all files, in phases: the network is built, the links are
declared, the network is configured, and everything is rendered. Nothing is written before the last
phase is done, so a fault in any of them leaves no files.
-/

namespace Interdomain

/-- A file that is to be written, by its path below the output directory. -/
structure Artifact where
  path : String
  contents : String
  deriving DecidableEq

/-! ## Rendering -/

namespace AutonomousSystem

/-- The directory of an AS in a domain. -/
def directory (a : AutonomousSystem) (isd : Isd) : String := (IsdAsn.mk isd a.asn).text

def topologyFiles (topology : Topology) (keys : MasterKeys) : List Artifact :=
  [⟨"topology.json", topology.text ++ "\n"⟩, ⟨"keys/master0.key", keys.text0⟩,
    ⟨"keys/master1.key", keys.text1⟩]

/-- The static information, if it is wanted. -/
def staticInfoFiles (a : AutonomousSystem) (links : List ResolvedLink) : List Artifact :=
  match a.staticInformation? links with
  | some info => [⟨StaticInfo.fileName, info.text ++ "\n"⟩]
  | none => []

/-- The beacon policies, or the first kind of policy that has no text. -/
def policyFiles (a : AutonomousSystem) : Except PolicyKind (List Artifact) :=
  a.policies.toList.mapM fun e ↦
    match Yaml.text? e.2 with
    | some text => .ok ⟨policyFile e.1, text⟩
    | none => .error e.1

def controlFiles (a : AutonomousSystem) : List Artifact :=
  a.controlServices.keys.map fun name ↦
    ⟨"control/" ++ name ++ ".toml", (a.controlConfig name).text⟩

def gatewayFiles (a : AutonomousSystem) : List Artifact :=
  a.gateways.gateways.map fun g ↦
    ⟨"gateways/" ++ g.name ++ ".json", Json.pretty g.trafficPolicy.toValue ++ "\n"⟩

end AutonomousSystem

/-! ## Phases -/

inductive Phase where
  /-- Building the network. -/
  | build
  /-- Declaring the links. -/
  | declare
  /-- Configuring the ASes and resolving the links. -/
  | configure
  /-- Describing the topology of an AS. -/
  | topology (ia : IsdAsn)
  deriving DecidableEq

def Phase.message : Phase → String
  | build => "Failed to build the emulated network"
  | declare => "Failed to declare SCION links"
  | configure => "SCION configuration failed"
  | topology ia => "Failed to build topology of AS " ++ ia.text

inductive GenerationFault where
  /-- A phase failed for some cause. -/
  | phase (p : Phase) (cause : BuildFault)
  /-- What is rendered is not there. -/
  | part (f : Fault)
  /-- A policy of an AS has no text. -/
  | policy (kind : PolicyKind) (asn : Asn)
  deriving DecidableEq

def GenerationFault.message : GenerationFault → String
  | phase p cause => p.message ++ ": " ++ cause.message
  | part f => f.message
  | policy kind asn => "Failed to serialize " ++ kind.text ++ " policy of AS " ++ asnText asn

/-- The files of an AS in a domain, by their paths in its directory. -/
def AutonomousSystem.files (a : AutonomousSystem) (links : List ResolvedLink) (isd : Isd) :
    Except GenerationFault (List Artifact) := do
  let topology ← (a.topology isd).mapError fun f ↦ .phase (.topology ⟨isd, a.asn⟩) (.part f)
  let keys ← (a.settled a.keys).mapError .part
  let policies ← a.policyFiles.mapError (.policy · a.asn)
  return topologyFiles topology keys ++ a.staticInfoFiles links ++ policies ++
    a.controlFiles ++ a.gatewayFiles

/-- The files of an AS in a domain, by their paths below the output directory. -/
def renderMember (links : List ResolvedLink) (member : AutonomousSystem × Isd) :
    Except GenerationFault (List Artifact) := do
  let files ← member.1.files links member.2
  return files.map fun f ↦ { f with path := member.1.directory member.2 ++ "/" ++ f.path }

/-- Every AS with each of its domains, in order. -/
def Emulation.memberships (e : Emulation) : List (AutonomousSystem × Isd) :=
  e.ases.values.flatMap fun a ↦ a.isds.map fun isd ↦ (a, isd)

def graphFile : String := "scion_links.dot"

/-- All files of a configured network with resolved links. -/
def render (e : Emulation) (links : LinkRegistry) (resolved : List ResolvedLink) :
    Except GenerationFault (List Artifact) := do
  let files ← e.memberships.mapM (renderMember resolved)
  return files.flatten ++ [⟨graphFile, (Graph.ofLinks links e).text⟩]

/-- What generation yields. -/
structure Generation where
  /-- The configured network. -/
  emulation : Emulation
  links : LinkRegistry
  resolved : List ResolvedLink
  /-- The files. -/
  artifacts : List Artifact

/-- Run all phases. -/
def generate {σ : Type} [WordSource σ] (c : Config) (options : ResolverOptions) (source : σ) :
    Except GenerationFault Generation := do
  let built ← c.build.mapError (.phase .build ·)
  let links ← c.declareLinks.mapError (.phase .declare ·)
  let outcome := built.configure links options source
  let resolved ← outcome.result.mapError fun f ↦ .phase .configure (.part f)
  let artifacts ← render outcome.emulation links resolved
  return { emulation := outcome.emulation, links, resolved, artifacts }

end Interdomain
