import FactViews.Artifact.Emitter
import FactViews.Report
import FactViews.Settings.Variables
import FactViews.Toml.Value

/-! # Settings

What a configuration file can say, with the values that hold where it is silent. -/

namespace FactViews

/-- The forms of log lines. -/
inductive LogFormat where
  | pretty
  | compact
  | json
deriving DecidableEq, Repr, Inhabited

namespace LogFormat

/-- The name of a form. -/
def name : LogFormat → String
  | .pretty => "pretty"
  | .compact => "compact"
  | .json => "json"

/-- The form with the given name. -/
def ofName? : String → Option LogFormat
  | "pretty" => some .pretty
  | "compact" => some .compact
  | "json" => some .json
  | _ => none

end LogFormat

/-- What is compiled, and how. -/
structure CompileSettings where
  /-- The model file; may refer to variables. -/
  model : String := "semantic/model.contract.yml"
  /-- The output directory; may refer to variables. -/
  outputDir : String := "output/sql"
  /-- Whether the document is checked first. -/
  validate : Bool := true
  /-- Whether facts are compiled side by side; the result does not depend on it. -/
  parallel : Bool := false
  dialect : Dialect := .generic
deriving DecidableEq, Repr, Inhabited

/-- The operators of measures. -/
structure AggregationSettings where
  /-- The operator of measures that are not listed. -/
  fallback : Aggregate := .sum
  /-- The operators of single measures. -/
  overrides : Catalog Aggregate := .empty
deriving DecidableEq, Repr, Inhabited

namespace AggregationSettings

/-- The plan that the settings ask for: their fallback is set and then their operators. -/
def binder (s : AggregationSettings) : AggregationPlan :=
  (AggregationPlan.withFallback {} s.fallback).withOverrides s.overrides.entries

/-- The operator of a measure under the settings. -/
def operatorFor (s : AggregationSettings) (measure : String) : Aggregate :=
  s.binder.operatorFor measure

end AggregationSettings

/-- What is logged, and how. -/
structure LoggingSettings where
  level : String := "info"
  format : LogFormat := .compact
deriving DecidableEq, Repr, Inhabited

/-- All settings. -/
structure Settings where
  compile : CompileSettings := {}
  emit : EmitOptions := {}
  aggregation : AggregationSettings := {}
  logging : LoggingSettings := {}
deriving DecidableEq, Repr, Inhabited

/-- Why there are no settings, or why one of them cannot be used. -/
inductive SettingsError where
  | fileNotFound (path : String)
  /-- The file cannot be read. -/
  | disk (fault : DiskFault)
  /-- The content is no configuration. -/
  | toml (fault : Toml.Fault)
  /-- A reference cannot be replaced. -/
  | reference (fault : Reference.Fault)
deriving DecidableEq, Repr

namespace SettingsError

/-- The text shown for a failure, without the wording of the system or of the format. -/
def message : SettingsError → String
  | .fileNotFound path => "Config file not found: " ++ path
  | .disk _ => "Failed to read config file:"
  | .toml _ => "Failed to parse config file:"
  | .reference (.missing name) => "Missing environment variable: " ++ name
  | .reference (.unclosed text) => "Unclosed variable reference in: " ++ text

/-- The wording of the system or of the format that follows the text. -/
def detail? : SettingsError → Option String
  | .disk fault => some fault.message
  | .toml fault => some fault.message
  | _ => none

end SettingsError

/-- A text with its references replaced. -/
def Environment.expand (env : Environment) (text : String) : Except SettingsError String :=
  (Reference.expand env text).mapError .reference

/-- The path of the model file. -/
def CompileSettings.modelPath (s : CompileSettings) (env : Environment) :
    Except SettingsError String :=
  env.expand s.model

/-- The path of the output directory. -/
def CompileSettings.outputPath (s : CompileSettings) (env : Environment) :
    Except SettingsError String :=
  env.expand s.outputDir

/-- The options of a compilation. -/
def Settings.compileOptions (s : Settings) : CompileOptions :=
  { dialect := s.compile.dialect, plan := s.aggregation.binder }

/-- The emitter that writes into a directory. -/
def Settings.emitter (s : Settings) (outDir : String) : Emitter :=
  { outDir, dialect := s.compile.dialect, options := s.emit }

end FactViews
