import FactViews.CommandLine.Arguments
import FactViews.Document.File
import FactViews.Document.Violation
import FactViews.LogFilter
import FactViews.Model.Lowering
import FactViews.Settings.Reader

/-! # Commands

A command is a function of the disk and the environment: it gives an exit code, what is printed,
and the disk afterwards. -/

namespace FactViews.CommandLine
open Text

/-- A line of diagnostics. -/
structure Notice where
  text : String
  /-- Wording of the system or of a format that follows the text. -/
  detail : Option String := none
deriving DecidableEq, Repr

/-- What a command did. -/
structure Outcome where
  exit : Nat
  stdout : String := ""
  notices : List Notice := []
  disk : Disk

/-- What a command sees. -/
structure Context where
  disk : Disk
  env : Environment := {}

/-- The result of a command that changes no file. -/
def Context.finish (c : Context) (exit : Nat) (notices : List Notice := [])
    (stdout : String := "") : Outcome :=
  { exit, stdout, notices, disk := c.disk }

/-- Text with a line break after it. -/
def line (s : String) : String := s ++ "\n"

/-- The notice of a model file that cannot be loaded. -/
def loadNotice (path : String) (e : LoadError) : Notice :=
  ⟨"Error loading model '" ++ path ++ "': " ++ e.message, e.detail?⟩

/-- The notice of settings that cannot be used. -/
def settingsNotice (e : SettingsError) : Notice := ⟨"Configuration error: " ++ e.message, e.detail?⟩

/-- The notices of a document that breaks rules. -/
def violationNotices (vs : List Violation) : List Notice :=
  ⟨"Validation failed:", none⟩ :: vs.map fun v => ⟨"  " ++ v.message, none⟩

/-- The variable that overrides the configured log filter. -/
def filterVariable : String := "RUST_LOG"

/-- A warning if no log filter can be used; the command goes on without one. -/
def logNotices (c : Context) (s : LoggingSettings) : List Notice :=
  match LogFilter.choose s.level (c.env.get? filterVariable) with
  | .ok _ => []
  | .error e => [⟨"Warning: " ++ e.message, some LogFilter.Invalid.detail⟩]

/-- The settings with the arguments applied. -/
def applyArguments (s : Settings) (a : CompileArguments) : Settings :=
  { s with compile := { s.compile with
      dialect := a.dialect.getD s.compile.dialect
      parallel := s.compile.parallel || a.parallel
      validate := s.compile.validate && !a.noValidate } }

/-- The statements of a report as they are printed. -/
def printStatements (r : Report) : String :=
  String.join (r.compiled.map fun f => line ("-- " ++ f.name) ++ line f.sql ++ line "")

/-- The exit code after a compilation. -/
def reportExit (r : Report) : Nat := if r.isSuccess then 0 else 1

/-- The notice of a fact that failed. -/
def failureNotice (f : FactFailure) : Notice := ⟨"Compilation error: " ++ f.text, none⟩

/-- Writes the statements of a report. -/
def writeReport (c : Context) (e : Emitter) (r : Report) (notices : List Notice) : Outcome :=
  match e.write c.disk r with
  | (disk, .error err) =>
    { exit := 1, notices := notices ++ [⟨"Emit error: " ++ err.message, err.detail?⟩], disk }
  | (disk, .ok m) =>
    let written := m.artifacts.map fun a => ⟨"  wrote " ++ Path.join e.outDir a.path, none⟩
    { exit := reportExit r, notices := notices ++ written, disk }

/-- The path of the output directory that the arguments or the settings name. -/
def outputPathFor (c : Context) (s : Settings) (a : CompileArguments) :
    Except SettingsError String :=
  match a.out with
  | some path => .ok path
  | none => s.compile.outputPath c.env

/-- Prints or writes the statements of a report. -/
def deliver (c : Context) (s : Settings) (a : CompileArguments) (r : Report) : Outcome :=
  let notices := r.failures.map failureNotice
  if a.stdout then c.finish (reportExit r) notices (printStatements r)
  else
    match outputPathFor c s a with
    | .error e => c.finish 1 (notices ++ [settingsNotice e])
    | .ok out => writeReport c (s.emitter out) r notices

/-- Compiles a document. -/
def compileDocument (c : Context) (s : Settings) (a : CompileArguments) (d : Document) : Outcome :=
  if s.compile.validate && !d.violations.isEmpty then c.finish 1 (violationNotices d.violations)
  else
    match d.toModel with
    | .error e => c.finish 1 [⟨"Lowering error: " ++ e.message, none⟩]
    | .ok m => deliver c s a (m.compile s.compileOptions)

/-- The path of the model file that the arguments or the settings name. -/
def modelPathFor (c : Context) (s : Settings) (a : CompileArguments) :
    Except SettingsError String :=
  match a.model with
  | some path => .ok path
  | none => s.compile.modelPath c.env

/-- A way to load the document in a file of a disk. -/
abbrev Loader := Disk → String → Except LoadError Document

/-- Compiles the model file that the arguments or the settings name. -/
def compileWith (load : Loader) (c : Context) (s : Settings) (a : CompileArguments) : Outcome :=
  let s := applyArguments s a
  match modelPathFor c s a with
  | .error e => c.finish 1 [settingsNotice e]
  | .ok path =>
    match load c.disk path with
    | .error e => c.finish 1 [loadNotice path e]
    | .ok d => compileDocument c s a d

/-- The settings in force: those of the file that the arguments name, or else those found. -/
def settingsFor (c : Context) (a : CompileArguments) : Except SettingsError Settings :=
  match a.config with
  | some path => Settings.ofFile c.disk path
  | none => Settings.load c.disk c.env

/-- The command that compiles. -/
def compile (load : Loader) (c : Context) (a : CompileArguments) : Outcome :=
  match settingsFor c a with
  | .error e => c.finish 1 [settingsNotice e]
  | .ok s =>
    let o := compileWith load c s a
    { o with notices := logNotices c s.logging ++ o.notices }

/-- The command that checks a model file. -/
def validate (c : Context) (path : String) : Outcome :=
  let before := logNotices c {}
  match c.disk.loadDocument path with
  | .error e => c.finish 1 (before ++ [loadNotice path e])
  | .ok d =>
    if d.violations.isEmpty then
      c.finish 0 before (line ("Model is valid: " ++ path) ++
        line ("  " ++ decimal d.facts.size ++ " facts, " ++ decimal d.dimensions.size ++
          " dimensions"))
    else c.finish 1 (before ++ violationNotices d.violations)

/-- The line that describes a fact. -/
def factLine (name : String) (f : FactSpec) : String :=
  line ("  " ++ name ++ " (grain: " ++ joinWith ", " f.grain ++ "; foreign keys: " ++
    joinWith ", " f.foreignKeys ++ "; measures: " ++ joinWith ", " f.measures ++ ")")

/-- The line that describes a dimension. -/
def dimensionLine (name : String) (d : DimensionSpec) : String :=
  line ("  " ++ name ++ " (key: " ++ d.key.getD "<none>" ++ ")")

/-- The list of the facts and dimensions of a document. -/
def listing (path : String) (d : Document) : String :=
  let facts :=
    if d.facts.isEmpty then ""
    else line "Facts:" ++ String.join (d.facts.entries.map fun e => factLine e.1 e.2) ++ line ""
  let dimensions :=
    if d.dimensions.isEmpty then ""
    else line "Dimensions:" ++ String.join (d.dimensions.entries.map fun e => dimensionLine e.1 e.2)
  line ("File: " ++ path) ++ line "" ++ facts ++ dimensions

/-- The command that lists a model file. -/
def list (c : Context) (path : String) : Outcome :=
  match c.disk.loadDocument path with
  | .error e => c.finish 1 [loadNotice path e]
  | .ok d => c.finish 0 [] (listing path d)

/-- The name and version of the program. -/
def versionText : String := line "semview 0.1.0"

/-- How the program is called. -/
def usage : String :=
  line "Usage: semview compile [MODEL] [--config FILE] [--out DIR] [--dialect DIALECT]" ++
    line "                       [--no-validate] [--stdout] [--parallel]" ++
    line "       semview validate MODEL" ++
    line "       semview list MODEL"

/-- Runs a command. -/
def Command.run (c : Context) : Command → Outcome
  | .version => c.finish 0 [] versionText
  | .help => c.finish 0 [] usage
  | .compile a => CommandLine.compile Disk.loadDocument c a
  | .validate path => CommandLine.validate c path
  | .list path => CommandLine.list c path

/-- Runs the program on its arguments. A command line that is not understood has exit code 2. -/
def run (c : Context) (args : List String) : Outcome :=
  match Command.read args with
  | none => c.finish 2 [⟨usage, none⟩]
  | some command => command.run c

end FactViews.CommandLine
