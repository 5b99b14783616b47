import Interdomain.Config.Reader
import Interdomain.Config.Validation
import Interdomain.Yaml.Reader

/-!
# Loading configurations

The text of a configuration is read and checked, so what is loaded is always well-formed.
-/

namespace Interdomain

inductive LoadFault where
  /-- The text is no configuration. -/
  | unreadable
  /-- The configuration is not well-formed. -/
  | invalid (d : Defect)
  deriving DecidableEq

namespace Config

/-- Read the text of a configuration, without any check. -/
def ofText? (text : String) : Option Config := (Yaml.read? text).bind Config.read?

/-- Load the text of a configuration. -/
def load (text : String) : Except LoadFault Config :=
  match ofText? text with
  | none => .error .unreadable
  | some c =>
    match c.validate with
    | .ok () => .ok c
    | .error d => .error (.invalid d)

end Config

end Interdomain
