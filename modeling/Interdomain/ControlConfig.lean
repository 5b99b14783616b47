import Interdomain.AutonomousSystem
import Interdomain.Toml

/-!
# Settings of control services

The settings of a control service name the service and, where the AS has any, its beaconing
intervals and the files of its beacon policies. A policy is named by its path in the directory from
which the service reads.
-/

namespace Interdomain

/-- The file of the policies of a kind, in the directory of the AS. -/
def policyFile (kind : PolicyKind) : String := "beacon_policy/" ++ kind.text ++ ".yaml"

/-- What the settings say about beaconing. -/
structure BeaconingSection where
  origination : Option String := none
  propagation : Option String := none
  registration : Option String := none
  /-- The paths of the beacon policies by the names of their kinds. -/
  policies : SortedMap String String := {}
  deriving DecidableEq

structure ControlConfig where
  /-- The name of the service. -/
  id : String
  /-- The directory from which it reads. -/
  directory : String
  /-- Without it the service keeps its defaults. -/
  beaconing : Option BeaconingSection

/-! ## Text -/

namespace BeaconingSection

/-- The lines of the intervals that are set. -/
def intervalLines (b : BeaconingSection) : List String :=
  [("origination_interval", b.origination), ("propagation_interval", b.propagation),
    ("registration_interval", b.registration)].flatMap fun f ↦ f.2.toList.map (Toml.assign f.1)

/-- The sections: the intervals, unless there are only policies, and the policies if there are
any. -/
def sections (b : BeaconingSection) : List String :=
  let intervals :=
    if b.intervalLines.isEmpty && !b.policies.isEmpty then []
    else ["[beaconing]\n" ++ String.join b.intervalLines]
  let policies :=
    if b.policies.isEmpty then []
    else
      let lines := b.policies.toList.map fun e ↦ Toml.assign e.1 e.2
      ["[beaconing.policies]\n" ++ String.join lines]
  intervals ++ policies

end BeaconingSection

namespace ControlConfig

/-- The directory from which control services read. -/
def standardDirectory : String := "/etc/scion"

/-- The section of the service itself. -/
def general (c : ControlConfig) : String :=
  "[general]\n" ++ Toml.assign "id" c.id ++ Toml.assign "config_dir" c.directory

/-- The contents of the file: the sections with empty lines between them. -/
def text (c : ControlConfig) : String :=
  String.intercalate "\n" (c.general :: c.beaconing.elim [] (·.sections))

end ControlConfig

/-! ## The settings of an AS -/

namespace AutonomousSystem

/-- The intervals and policies of an AS. -/
def beaconingSection (a : AutonomousSystem) : BeaconingSection where
  origination := a.intervals.origination.map Duration.exactText
  propagation := a.intervals.propagation.map Duration.exactText
  registration := a.intervals.registration.map Duration.exactText
  policies := .ofList <| a.policies.keys.map fun kind ↦
    (kind.text, ControlConfig.standardDirectory ++ "/" ++ policyFile kind)

/-- The settings of a control service of an AS. Nothing is said about beaconing if there is neither
an interval nor a policy. -/
def controlConfig (a : AutonomousSystem) (service : String) : ControlConfig where
  id := service
  directory := ControlConfig.standardDirectory
  beaconing := if a.beaconingSection = {} then none else some a.beaconingSection

end AutonomousSystem

end Interdomain
