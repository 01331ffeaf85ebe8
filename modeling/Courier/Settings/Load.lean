import Courier.Decimal.Shortest
import Courier.Settings.Environment
import Courier.Settings.Record
import Courier.Text.Quoted
import Courier.Toml.Document

/-!
# Loading settings

Settings come in layers: the standard ones, a settings file above them, and the environment on top. A
higher layer takes the place of a lower one, but tables of several layers are put together. Of the
settings that are not of their type the first one in the order of names is reported, with the layer it
comes from.
-/
namespace Courier.Settings

/-- Where a value comes from. -/
inductive Origin
  /-- A settings file of a name. -/
  | file (name : String)
  | environment
deriving DecidableEq

/-- What several layers give for one thing, the highest first. -/
abbrev Layers := List (Origin × SettingValue)

/-- The layers of a name inside tables. A layer that is no table hides those below it. -/
def Layers.inside (name : String) : Layers → Layers
  | (origin, .table entries) :: lower =>
    match SettingValue.named name entries with
    | some v => (origin, v) :: inside name lower
    | none => inside name lower
  | _ => []

def Layers.names : Layers → List String
  | (_, .table entries) :: lower => entries.map Prod.fst ++ names lower
  | _ => []

def least : List String → Option String
  | [] => none
  | name :: rest =>
    match least rest with
    | none => some name
    | some other => if other < name then some other else some name

/-! ## Faults -/

/-- The variables of the environment start with this. -/
def lead : String := "HERALD_"

/-- The key of a path and the layer that it comes from. -/
def Origin.place (origin : Origin) (path : List String) : String :=
  match origin with
  | .file name => "\"" ++ ".".intercalate ("default" :: path) ++ "\" in " ++ name ++ " TOML file"
  | .environment =>
    "\"" ++ (".".intercalate path).toUpper ++ "\" in `" ++ lead ++ "` environment variable(s)"

/-- The text of a binary fraction without a power of ten. -/
def fractionText (f : Float) : String :=
  let sign := if Decimal.isNegative f.toBits then "-" else ""
  if f.isNaN then "NaN"
  else if f.isInf then sign ++ "inf"
  else
    let d := (Decimal.Binary.ofBits f.toBits).shortest .up
    let ds := Nat.toDigits 10 d.digits
    if 0 ≤ d.exponent then sign ++ String.ofList (ds ++ List.replicate d.exponent.toNat '0')
    else
      let places := d.exponent.natAbs
      let padded := List.replicate (places + 1 - ds.length) '0' ++ ds
      let whole := padded.length - places
      sign ++ String.ofList (padded.take whole) ++ "." ++ String.ofList (padded.drop whole)

/-- What a value looks like in the wording of a fault. -/
def foundText : SettingValue → String
  | .bool b => "bool " ++ (if b then "true" else "false")
  | .unsigned n => "unsigned int `" ++ toString n ++ "`"
  | .signed i => "signed int `" ++ toString i ++ "`"
  | .float f => "float `" ++ fractionText f ++ "`"
  | .char c => "string " ++ Text.quoted (String.singleton c)
  | .text s => "string " ++ Text.quoted s
  | .list _ => "sequence"
  | .table _ => "map"

/-- What is wrong with a value. -/
inductive Misfit
  | wrongType (found : SettingValue) (wanted : String)
  | outOfRange (found : SettingValue) (wanted : String)
  | unknownName (name : String) (known : List String)

def alternatives (known : List String) : String :=
  let quoted := known.map (fun name => "`" ++ name ++ "`")
  match quoted with
  | [a, b] => a ++ " or " ++ b
  | _ => "one of " ++ ", ".intercalate quoted

def Misfit.text : Misfit → String
  | .wrongType found wanted => "invalid type: found " ++ foundText found ++ ", expected " ++ wanted
  | .outOfRange found wanted => "invalid value " ++ foundText found ++ ", expected " ++ wanted
  | .unknownName name known =>
    "unknown variant: found `" ++ name ++ "`, expected `" ++ alternatives known ++ "`"

/-- A misfit and where it is. -/
structure Fault where
  misfit : Misfit
  origin : Origin
  path : List String

def Fault.message (f : Fault) : String :=
  "failed to load configuration: " ++ f.misfit.text ++ " for key " ++ f.origin.place f.path

/-! ## Reading -/

def natural (limit : Nat) (wanted : String) (v : SettingValue) : Except Misfit Nat :=
  match v with
  | .unsigned n => if n < limit then .ok n else .error (.outOfRange v wanted)
  | .signed i => if 0 ≤ i ∧ i < limit then .ok i.toNat else .error (.outOfRange v wanted)
  | _ => .error (.wrongType v wanted)

def word (v : SettingValue) : Except Misfit UInt32 := do return (← natural 0x100000000 "u32" v).toUInt32

def longWord (v : SettingValue) : Except Misfit UInt64 := do
  return (← natural 0x10000000000000000 "u64" v).toUInt64

def size : SettingValue → Except Misfit Nat := natural 0x10000000000000000 "usize"

def fraction (v : SettingValue) : Except Misfit Float :=
  match v with
  | .unsigned n => .ok (Float.ofNat n)
  | .signed i => .ok (Float.ofInt i)
  | .float f => .ok f
  | _ => .error (.wrongType v "f64")

def scalar {α : Type} (read : SettingValue → Except Misfit α) (path : List String) (origin : Origin)
    (v : SettingValue) (_ : Layers) : Except Fault α :=
  match read v with
  | .ok a => .ok a
  | .error misfit => .error ⟨misfit, origin, path⟩

def choiceNamed {α : Type} (known : List (String × α)) (path : List String) (origin : Origin)
    (name : String) : Except Fault α :=
  match known.find? (fun p => p.1 == name) with
  | some p => .ok p.2
  | none => .error ⟨.unknownName name (known.map Prod.fst), origin, path⟩

/-- One of several alternatives, by its name. A table stands for the alternative of its first name, but
no value of it is right. -/
def choice {α : Type} (title : String) (known : List (String × α)) (path : List String)
    (origin : Origin) (v : SettingValue) (layers : Layers) : Except Fault α :=
  match v with
  | .text name => choiceNamed known path origin name
  | .table _ =>
    match least layers.names with
    | none => .error ⟨.wrongType v "enum", origin, path⟩
    | some name => do
      let a ← choiceNamed known path origin name
      match layers.inside name with
      | (inner, held) :: _ => throw ⟨.wrongType held "unit", inner, path ++ [name]⟩
      | [] => return a
  | _ => .error ⟨.wrongType v ("enum " ++ title), origin, path⟩

/-- A setting: its name, and how the layers that give a value for it change the settings. -/
structure Entry where
  name : String
  apply : Layers → Settings → Except Fault Settings

/-- A setting that is read from the highest layer. -/
def entry {α : Type} (name : String)
    (read : List String → Origin → SettingValue → Layers → Except Fault α)
    (set : α → Settings → Settings) : Entry where
  name := name
  apply layers s :=
    match layers with
    | [] => .ok s
    | (origin, v) :: _ => do return set (← read [name] origin v layers) s

/-- All settings in the order of their names. -/
def entries : List Entry := [
  entry "connection_loss_threshold_seconds" (scalar longWord) (fun a s => { s with lossThresholdSeconds := a }),
  entry "consumer_count" (scalar size) (fun a s => { s with consumerCount := a }),
  entry "delay_lock_timeout_seconds" (scalar longWord) (fun a s => { s with lockTimeoutSeconds := a }),
  entry "executor_max_pending" (scalar size) (fun a s => { s with maxPending := a }),
  entry "executor_workers" (scalar size) (fun a s => { s with workers := a }),
  entry "health_check_interval_seconds" (scalar longWord)
    (fun a s => { s with healthCheckIntervalSeconds := a }),
  entry "poll_batch_size" (scalar size) (fun a s => { s with pollBatchSize := a }),
  entry "poll_interval_seconds" (scalar longWord) (fun a s => { s with pollIntervalSeconds := a }),
  entry "retry_backoff_seconds" (scalar longWord) (fun a s => { s with retryBackoffSeconds := a }),
  entry "retry_jitter_factor" (scalar fraction) (fun a s => { s with retryJitter := a }),
  entry "retry_max_count" (scalar word) (fun a s => { s with retryMaxCount := a }),
  entry "retry_max_delay_seconds" (scalar longWord) (fun a s => { s with retryMaxDelaySeconds := a }),
  entry "retry_route" (choice "RetryRouteKind" RetryRoute.named) (fun a s => { s with retryRoute := a }),
  entry "retry_strategy" (choice "BackoffStrategy" Growth.named) (fun a s => { s with retryGrowth := a }),
  entry "shutdown_timeout_seconds" (scalar longWord) (fun a s => { s with shutdownTimeoutSeconds := a })]

/-- The settings that layers give, the highest first. -/
def ofLayers (layers : Layers) : Except Fault Settings :=
  entries.foldlM (fun s e => e.apply (layers.inside e.name) s) standard

/-! ## Sources -/

/-- Why settings could not be loaded. -/
inductive LoadError
  /-- The settings file is not well-formed. -/
  | malformedFile
  | refused (why : DeliveryError)

/-- The name of a file in the directory of the program, without a mark that says so. -/
def plainName (path : String) : String :=
  String.ofList (withoutMark path.toList)
where
  /-- A path without the marks of the present directory in front of it. -/
  withoutMark : List Char → List Char
    | '.' :: '/' :: rest => withoutMark rest
    | cs => cs

/-- The file that a path names, among those of the directory. -/
def findFile (files : List (String × String)) (path : String) : Option (String × String) :=
  files.find? (fun f => plainName f.1 == plainName path)

/-- The layer of a settings file, if there is one. -/
def fileLayers (files : List (String × String)) (path : String) : Except LoadError Layers :=
  match findFile files path with
  | none => .ok []
  | some (_, text) =>
    match Toml.ofString? text with
    | none => .error .malformedFile
    | some entries => .ok [(.file (plainName path), .table entries)]

/-- The layers of the environment: of two variables the one with the later name is higher. -/
def environmentLayers (environment : List (String × String)) : Layers :=
  let sorted := environment.mergeSort (fun a b => compare b.1 a.1 != .gt)
  (sorted.filterMap (fun v => Environment.given? lead v.1 v.2)).map (fun v => (.environment, v))

/-- The file that is looked at if no other one is named. -/
def standardPath : String := "herald.toml"

/-- The settings of a file, if it is there, and the environment. They have to be allowed. -/
def load (files : List (String × String)) (path : String) (environment : List (String × String)) :
    Except LoadError Settings := do
  let below ← fileLayers files path
  match ofLayers (environmentLayers environment ++ below) with
  | .error fault => throw (.refused (.configuration fault.message))
  | .ok s =>
    match s.validate with
    | .error why => throw (.refused why)
    | .ok () => return s

end Courier.Settings
