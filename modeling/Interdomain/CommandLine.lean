import Interdomain.Config.Loading
import Interdomain.FileStore
import Interdomain.Generation
import Interdomain.Random.ChaCha
import Interdomain.Text.Quoted

/-!
# The command line

The program reads a configuration, runs all phases, and writes the files to a directory, in place of
what was there. The arguments are read from left to right, and the first that asks for the version
or for help ends the reading, as does the first error. Errors in the arguments have exit code 2, all
others 1; a failed generation leaves the output directory as it was.
-/

namespace Interdomain.CommandLine

/-! ## Arguments -/

structure Options where
  /-- The path of the configuration. -/
  config : String
  /-- The path of the output directory. -/
  output : String
  /-- The seed of the keys; without one the keys are random. -/
  seed : Option UInt64
  /-- Whether peering links do not tell the id of the far interface. -/
  noPeerRemoteIds : Bool
  /-- Whether nothing is written. -/
  dryRun : Bool
  deriving DecidableEq

/-- What the arguments ask for. -/
inductive Request where
  | showHelp
  | showVersion
  | run (options : Options)
  deriving DecidableEq

/-- A setting that takes a value. -/
inductive Setting where
  | config
  | output
  | seed
  deriving DecidableEq

/-- A switch, which takes no value. -/
inductive Switch where
  | noPeerRemoteIds
  | dryRun
  | help
  | version
  deriving DecidableEq

inductive UsageError where
  /-- There is no such argument. -/
  | unknown (argument : String)
  /-- A setting has no value. -/
  | missingValue (s : Setting)
  /-- A setting has a value that it cannot have. -/
  | invalidValue (s : Setting) (value : String)
  /-- A switch has a value. -/
  | strayValue (argument : String)
  /-- A setting or switch is given twice. -/
  | repeated (name : String)
  /-- There is no configuration. -/
  | missingConfig
  deriving DecidableEq

/-- The long name of a setting. -/
def Setting.name : Setting → String
  | config => "config"
  | output => "output"
  | seed => "seed"

def Switch.name : Switch → String
  | noPeerRemoteIds => "no-peer-remote-ifid"
  | dryRun => "dry-run"
  | help => "help"
  | version => "version"

/-- A setting or a switch. -/
abbrev Parameter := Setting ⊕ Switch

/-- All settings and switches by their long names. -/
def longNames : List (String × Parameter) :=
  [Setting.config, .output, .seed].map (fun s ↦ (s.name, .inl s)) ++
    [Switch.noPeerRemoteIds, .dryRun, .help, .version].map fun s ↦ (s.name, .inr s)

/-- The settings and switches that have short names. -/
def shortNames : List (Char × Parameter) :=
  [('c', .inl .config), ('o', .inl .output), ('h', .inr .help), ('V', .inr .version)]

/-- What has been read of the arguments. -/
structure Draft where
  /-- The path of the configuration. -/
  config : Option String := none
  /-- The path of the output directory. -/
  output : Option String := none
  seed : Option UInt64 := none
  /-- Whether peering links do not tell the id of the far interface. -/
  noPeerRemoteIds : Bool := false
  /-- Whether nothing is written. -/
  dryRun : Bool := false

/-- How reading goes on: another argument, the value of a setting, or no more. -/
inductive Progress where
  | next (d : Draft)
  | await (d : Draft) (s : Setting)
  | stop (r : Request)

namespace Draft

/-- Give a setting that has no value yet a value. -/
def set (d : Draft) (s : Setting) (value : String) : Except UsageError Draft :=
  let given := match s with
    | .config => d.config.isSome
    | .output => d.output.isSome
    | .seed => d.seed.isSome
  if given then .error (.repeated s.name)
  else if value.isEmpty then .error (.invalidValue s value)
  else match s with
    | .config => .ok { d with config := some value }
    | .output => .ok { d with output := some value }
    | .seed =>
      match Decimal.readUnsigned? 0xFFFFFFFFFFFFFFFF value.toList with
      | some n => .ok { d with seed := some (UInt64.ofNat n) }
      | none => .error (.invalidValue s value)

/-- Turn a switch on, once. -/
def turnOn (d : Draft) : Switch → Except UsageError Progress
  | .help => .ok (.stop .showHelp)
  | .version => .ok (.stop .showVersion)
  | .dryRun =>
    if d.dryRun then .error (.repeated "dry-run")
    else .ok (.next { d with dryRun := true })
  | .noPeerRemoteIds =>
    if d.noPeerRemoteIds then .error (.repeated "no-peer-remote-ifid")
    else .ok (.next { d with noPeerRemoteIds := true })

/-- Read an argument with a long name, which may have a value behind an equal sign. -/
def readLong (d : Draft) (argument : String) (cs : List Char) : Except UsageError Progress :=
  let name := String.ofList (cs.takeWhile (· != '='))
  let value := match cs.dropWhile (· != '=') with
    | [] => none
    | _ :: value => some (String.ofList value)
  match List.lookup name longNames, value with
  | none, _ => .error (.unknown argument)
  | some (.inl s), none => .ok (.await d s)
  | some (.inl s), some value => do return .next (← d.set s value)
  | some (.inr s), none => d.turnOn s
  | some (.inr _), some _ => .error (.strayValue argument)

/-- Read an argument with short names. What stands behind the name of a setting is its value, and an
equal sign between the two is dropped. -/
def readShort (d : Draft) (argument : String) : List Char → Except UsageError Progress
  | [] => .ok (.next d)
  | c :: rest =>
    match List.lookup c shortNames with
    | none => .error (.unknown argument)
    | some (.inl s) =>
      match rest with
      | [] => .ok (.await d s)
      | '=' :: value => do return .next (← d.set s (String.ofList value))
      | value => do return .next (← d.set s (String.ofList value))
    | some (.inr s) => do
      match ← d.turnOn s with
      | .next d => d.readShort argument rest
      | progress => return progress

def read (d : Draft) (argument : String) : Except UsageError Progress :=
  match argument.toList with
  | '-' :: '-' :: cs => d.readLong argument cs
  | '-' :: c :: cs => d.readShort argument (c :: cs)
  | _ => .error (.unknown argument)

/-- What is asked for at the end of the arguments. -/
def finish (d : Draft) : Except UsageError Request :=
  match d.config with
  | none => .error .missingConfig
  | some config =>
    .ok (.run ⟨config, d.output.getD "scion_output", d.seed, d.noPeerRemoteIds, d.dryRun⟩)

end Draft

/-- Whether an argument cannot be the value of a setting. -/
def isDashed (argument : String) : Bool :=
  match argument.toList with
  | '-' :: _ :: _ => true
  | _ => false

/-- Read arguments, of which the first may be the value of a setting. -/
def parseFrom (d : Draft) : Option Setting → List String → Except UsageError Request
  | none, [] => d.finish
  | some s, [] => .error (.missingValue s)
  | some s, value :: rest => do
    if isDashed value then .error (.missingValue s)
    else parseFrom (← d.set s value) none rest
  | none, argument :: rest => do
    if argument = "--" then
      match rest with
      | [] => d.finish
      | stray :: _ => .error (.unknown stray)
    else
      match ← d.read argument with
      | .next d => parseFrom d none rest
      | .await d s => parseFrom d (some s) rest
      | .stop request => return request

def parse (arguments : List String) : Except UsageError Request := parseFrom {} none arguments

def UsageError.message : UsageError → String
  | unknown argument => "unexpected argument " ++ Quoted.text argument
  | missingValue s => "--" ++ s.name ++ " needs a value"
  | invalidValue s value => Quoted.text value ++ " is no value for --" ++ s.name
  | strayValue argument => "unexpected value in " ++ Quoted.text argument
  | repeated name => "--" ++ name ++ " is given more than once"
  | missingConfig => "--config is missing"

/-! ## Running -/

inductive Failure where
  /-- There is no configuration at a path. -/
  | missingFile (path : String)
  /-- The configuration cannot be loaded. -/
  | load (f : LoadFault)
  /-- A phase of generation fails. -/
  | generation (f : GenerationFault)
  /-- The output directory cannot be removed. -/
  | removal (path : String)
  /-- A file cannot be written. -/
  | writing (path : String)
  deriving DecidableEq

def Failure.message : Failure → String
  | missingFile path => "Failed to open " ++ Quoted.text path
  | load .unreadable => "Failed to parse the configuration"
  | load (.invalid d) => d.message
  | generation f => f.message
  | removal path => "Failed to remove output directory " ++ Quoted.text path
  | writing path => "Failed to write " ++ Quoted.text path

/-- What a run leaves behind besides files. -/
structure Report where
  exitCode : UInt8 := 0
  /-- What is printed. -/
  output : String := ""
  /-- What is complained about. -/
  complaint : String := ""
  deriving DecidableEq

def versionText : String := "sciontopo 0.1.0\n"

def helpText : String :=
  "Usage: sciontopo --config <CONFIG> [--output <OUTPUT>] [--seed <SEED>] " ++
    "[--no-peer-remote-ifid] [--dry-run]\n"

/-- The listing of a dry run. -/
def listing (g : Generation) : String :=
  g.links.text ++ Decimal.text g.resolved.length ++ " link(s) resolved, " ++
    Decimal.text g.artifacts.length ++ " file(s) rendered\n"

/-- The summary of a run that wrote files. -/
def summary (output : String) (g : Generation) : String :=
  let line (name : String) (n : Nat) : String := "  - " ++ name ++ ": " ++ Decimal.text n ++ "\n"
  "Generated SCION configuration at " ++ Quoted.text output ++ "\n" ++
    line "ISDs" g.emulation.isds.size ++ line "ASes" g.emulation.ases.size ++
    line "Link declarations" g.links.size ++ line "Resolved links" g.resolved.length ++
    line "Files written" g.artifacts.length

/-- A path below a directory. -/
def below (directory path : String) : String :=
  if directory.toList.getLast? = some '/' then directory ++ path else directory ++ "/" ++ path

variable {m : Type → Type} [Monad m] [FileStore m]

/-- Write files below a directory, up to the first that cannot be written. -/
def writeAll (directory : String) : List Artifact → ExceptT Failure m Unit
  | [] => return ()
  | a :: rest => do
    let path := below directory a.path
    if ← (FileStore.write path a.contents : m Bool) then writeAll directory rest
    else throw (.writing path)

/-- Run with some options and a seed for random keys; the result is what is printed. -/
def execute (options : Options) (randomSeed : UInt64) : ExceptT Failure m String := do
  let some text ← (FileStore.read? options.config : m (Option String))
    | throw (.missingFile options.config)
  let c ← ExceptT.mk (pure ((Config.load text).mapError .load))
  let resolver : ResolverOptions := { peerRemoteIds := c.peerRemoteIds && !options.noPeerRemoteIds }
  let source := ChaCha.Stream.ofSeed (options.seed.getD randomSeed)
  let g ← ExceptT.mk (pure ((generate c resolver source).mapError .generation))
  if options.dryRun then return listing g
  if ← (FileStore.isThere options.output : m Bool) then
    unless ← (FileStore.remove options.output : m Bool) do throw (.removal options.output)
  writeAll options.output g.artifacts
  return summary options.output g

/-- Run with some arguments and a seed for random keys. -/
def run (arguments : List String) (randomSeed : UInt64) : m Report :=
  match parse arguments with
  | .error e => return { exitCode := 2, complaint := e.message ++ "\n" ++ helpText }
  | .ok .showHelp => return { output := helpText }
  | .ok .showVersion => return { output := versionText }
  | .ok (.run options) => do
    match ← (execute options randomSeed).run with
    | .ok output => return { output }
    | .error f => return { exitCode := 1, complaint := f.message ++ "\n" }

end Interdomain.CommandLine
