import FactViews.Settings
import FactViews.Toml.Parser

/-! # Reading settings

Settings are read from tables with one field for every setting. Fields that are not known are
inspected but not used, and fields that are missing keep their standard value. A list in place of
a table gives the fields in their order; items beyond the last field are not looked at. -/

namespace FactViews.Settings
open Toml

/-- Reads a text. -/
def text : Value → Except Fault String
  | .string s => .ok s
  | _ => .error .wrongType

/-- Reads a truth value. -/
def flag : Value → Except Fault Bool
  | .boolean b => .ok b
  | _ => .error .wrongType

/-- Reads one of several names; a table with the name as its only key, and nothing under it, is
accepted as well. -/
def choice (ofName? : String → Option α) : Value → Except Fault α
  | .string s => (ofName? s).elim (.error .wrongType) .ok
  | .table [(s, .table [])] => (ofName? s).elim (.error .wrongType) .ok
  | .table [(s, .array [])] => (ofName? s).elim (.error .wrongType) .ok
  | _ => .error .wrongType

/-- How a field changes a record. -/
abbrev Field (σ : Type) := String × (σ → Value → Except Fault σ)

/-- Reads a record. -/
def record (fields : List (Field σ)) (start : σ) : Value → Except Fault σ
  | .table entries =>
    entries.foldlM (fun acc e =>
      match fields.find? (·.1 = e.1) with
      | some field => field.2 acc e.2
      | none => e.2.inspect.map fun () => acc) start
  | .array items => (fields.zip items).foldlM (fun acc p => p.1.2 acc p.2) start
  | .datetime _ => .ok start
  | _ => .error .wrongType

/-- Reads the settings of the compilation. -/
def compileSettings : Value → Except Fault CompileSettings :=
  record [
    ("model", fun s v => (text v).map fun x => { s with model := x }),
    ("output_dir", fun s v => (text v).map fun x => { s with outputDir := x }),
    ("validate", fun s v => (flag v).map fun x => { s with validate := x }),
    ("parallel", fun s v => (flag v).map fun x => { s with parallel := x }),
    ("dialect", fun s v => (choice Dialect.ofName? v).map fun x => { s with dialect := x })] {}

/-- Reads the settings of the emission. -/
def emitOptions : Value → Except Fault EmitOptions :=
  record [
    ("wrap_view", fun s v => (flag v).map fun x => { s with wrapView := x }),
    ("terminator", fun s v => (flag v).map fun x => { s with terminator := x }),
    ("manifest", fun s v => (flag v).map fun x => { s with manifest := x }),
    ("facts_subdir", fun s v => (text v).map fun x => { s with factsSubdir := x })] {}

/-- Reads operators for single measures. -/
def overrides : Value → Except Fault (List (String × Aggregate))
  | .table entries => entries.mapM fun e => (choice Aggregate.ofName? e.2).map fun op => (e.1, op)
  | _ => .error .wrongType

/-- Reads the settings of the aggregation. -/
def aggregationSettings : Value → Except Fault AggregationSettings :=
  record [
    ("default", fun s v => (choice Aggregate.ofName? v).map fun x => { s with fallback := x }),
    ("overrides", fun s v => (overrides v).map fun x => { s with overrides := .ofList x })] {}

/-- Reads the settings of the log. -/
def loggingSettings : Value → Except Fault LoggingSettings :=
  record [
    ("level", fun s v => (text v).map fun x => { s with level := x }),
    ("format", fun s v => (choice LogFormat.ofName? v).map fun x => { s with format := x })] {}

/-- Reads all settings from the entries of a file. -/
def ofEntries (entries : List (String × Value)) : Except Fault Settings :=
  record [
    ("compile", fun s v => (compileSettings v).map fun x => { s with compile := x }),
    ("emit", fun s v => (emitOptions v).map fun x => { s with emit := x }),
    ("aggregation", fun s v => (aggregationSettings v).map fun x => { s with aggregation := x }),
    ("logging", fun s v => (loggingSettings v).map fun x => { s with logging := x })] {}
    (.table entries)

/-- Reads the text of a configuration file. -/
def ofText (s : String) : Except SettingsError Settings :=
  match parse s with
  | .error fault => .error (.toml fault)
  | .ok entries => (ofEntries entries).mapError .toml

/-- Loads a configuration file. -/
def ofFile (disk : Disk) (path : String) : Except SettingsError Settings :=
  if !disk.contains path then .error (.fileNotFound path)
  else
    match disk.readText path with
    | .error fault => .error (.disk fault)
    | .ok s => ofText s

/-- The variable that names a configuration file. -/
def configVariable : String := "SEMVIEW_CONFIG"

/-- The configuration file in the working directory. -/
def localFile : String := "semview.toml"

/-- The directory of a user's configuration files: an absolute path in `XDG_CONFIG_HOME`, or else
a directory in the home directory. -/
def userDirectory? (env : Environment) : Option String :=
  match (env.get? "XDG_CONFIG_HOME").filter Path.isAbsolute with
  | some directory => some directory
  | none => ((env.get? "HOME").filter (· ≠ "")).map fun home => Path.join home ".config"

/-- The user's configuration file. -/
def userFile? (env : Environment) : Option String :=
  (userDirectory? env).map fun directory => Path.join (Path.join directory "semview") "config.toml"

/-- Finds and loads the configuration: the file that a variable names, the file in the working
directory, the user's file, or none. -/
def load (disk : Disk) (env : Environment) : Except SettingsError Settings :=
  match env.get? configVariable with
  | some path => ofFile disk path
  | none =>
    if disk.contains localFile then ofFile disk localFile
    else
      match (userFile? env).filter disk.contains with
      | some path => ofFile disk path
      | none => .ok {}

end FactViews.Settings
