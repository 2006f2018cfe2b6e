import FactViews.Artifact.Manifest
import FactViews.Digest.Sha256
import FactViews.Files.Disk

/-! # Emission

An emitter writes one file for every compiled fact below an output directory, and a manifest.
All names are checked before anything is written, so an unusable name leaves the disk as it
was. A fault while writing keeps what was written before it. -/

namespace FactViews
open Text

/-- How artifacts are shaped and placed. -/
structure EmitOptions where
  /-- Whether a statement becomes the definition of a view. -/
  wrapView : Bool := false
  /-- Whether a statement ends with a semicolon. -/
  terminator : Bool := false
  /-- Whether a manifest is written. -/
  manifest : Bool := true
  /-- The directory of the artifacts below the output directory. -/
  factsSubdir : String := "facts"
deriving DecidableEq, Repr, Inhabited

/-- The failures of emission. -/
inductive EmitError where
  /-- A path cannot be created or written. -/
  | disk (path : String) (fault : DiskFault)
  /-- A view name is longer than the dialect allows. -/
  | nameTooLong (name : String) (dialect : Dialect) (max : Nat)
  /-- A fact name is no plain file name. -/
  | badFileName (name : String)
deriving DecidableEq, Repr

namespace EmitError

/-- The text shown for a failure, without the wording of the system. -/
def message : EmitError → String
  | .disk path _ => "Failed to write '" ++ path ++ "':"
  | .nameTooLong name dialect max =>
    "View name '" ++ name ++ "' exceeds the " ++ dialect.name ++ " identifier limit of " ++
      decimal max
  | .badFileName name => "Fact name '" ++ name ++ "' cannot be used as an artifact file name"

/-- The wording of the system that follows the text. -/
def detail? : EmitError → Option String
  | .disk _ fault => some fault.message
  | _ => none

end EmitError

/-- Where and how artifacts are written. -/
structure Emitter where
  outDir : String
  dialect : Dialect := .generic
  options : EmitOptions := {}
deriving DecidableEq, Repr

/-- A name without a separator of paths that is a single normal component of a path. -/
def isPlainFileName (name : String) : Bool :=
  if name.toList.any fun c => c = '/' || c = '\\' then false
  else
    match Path.components name with
    | [.normal _] => true
    | _ => false

namespace Emitter

/-- The content of the artifact of a fact. -/
def content (e : Emitter) (f : CompiledFact) : String :=
  let body :=
    if e.options.wrapView then
      e.dialect.viewKeyword ++ " " ++ e.dialect.quote f.name ++ " AS\n" ++ f.sql
    else f.sql
  if e.options.terminator then body ++ ";" else body

/-- The path of the artifact of a fact below the output directory. -/
def relativePath (e : Emitter) (fact : String) : String :=
  if e.options.factsSubdir = "" then fact ++ ".sql"
  else e.options.factsSubdir ++ "/" ++ fact ++ ".sql"

/-- The path of the artifact of a fact. -/
def path (e : Emitter) (fact : String) : String := Path.join e.outDir (e.relativePath fact)

/-- The path of the manifest. -/
def manifestPath (e : Emitter) : String := Path.join e.outDir Manifest.fileName

/-- The manifest entry of a fact. -/
def entry (e : Emitter) (f : CompiledFact) : ArtifactEntry :=
  ⟨f.name, e.relativePath f.name, Digest.sha256 (e.content f)⟩

/-- The length limit of view names, where views are written and the dialect has one. -/
def nameLimit? (e : Emitter) : Option Nat :=
  if e.options.wrapView then e.dialect.maxLength? else none

/-- The first view name that is too long. -/
def overlong? (e : Emitter) (fs : List CompiledFact) : Option EmitError :=
  match e.nameLimit? with
  | none => none
  | some max =>
    (fs.find? fun f => max < e.dialect.length f.name).map fun f =>
      .nameTooLong f.name e.dialect max

/-- The first unusable name: any name that is no file name comes before one that is too long. -/
def nameError? (e : Emitter) (fs : List CompiledFact) : Option EmitError :=
  match fs.find? fun f => !isPlainFileName f.name with
  | some f => some (.badFileName f.name)
  | none => e.overlong? fs

/-- Creates a directory and its ancestors. -/
def makeDirectories (d : Disk) (path : String) : Disk × Except EmitError Unit :=
  match d.makeDirectories path with
  | (d', .error fault) => (d', .error (.disk path fault))
  | (d', .ok ()) => (d', .ok ())

/-- Writes a file into a directory, which is created if it is missing. -/
def writeFile (d : Disk) (directory path text : String) : Disk × Except EmitError Unit :=
  match makeDirectories d directory with
  | (d', .error e) => (d', .error e)
  | (d', .ok ()) =>
    match d'.writeText path text with
    | .error fault => (d', .error (.disk path fault))
    | .ok d'' => (d'', .ok ())

/-- Writes the artifact of one fact. -/
def writeFact (e : Emitter) (d : Disk) (f : CompiledFact) : Disk × Except EmitError Unit :=
  let path := e.path f.name
  writeFile d ((Path.parent? path).getD "") path (e.content f)

/-- Writes artifacts one after another, up to the first failure. -/
def writeFacts (e : Emitter) (d : Disk) : List CompiledFact → Disk × Except EmitError Unit
  | [] => (d, .ok ())
  | f :: fs =>
    match e.writeFact d f with
    | (d', .error err) => (d', .error err)
    | (d', .ok ()) => e.writeFacts d' fs

/-- The manifest of a report. -/
def manifestFor (e : Emitter) (r : Report) : Manifest where
  dialect := e.dialect
  artifacts := r.compiled.map e.entry
  failures := r.failures.map FactFailure.entry

/-- Writes the manifest, if one is wanted. -/
def writeManifest (e : Emitter) (d : Disk) (m : Manifest) : Disk × Except EmitError Unit :=
  if e.options.manifest then writeFile d e.outDir e.manifestPath m.text else (d, .ok ())

/-- Writes the artifacts of a report and then the manifest. -/
def write (e : Emitter) (d : Disk) (r : Report) : Disk × Except EmitError Manifest :=
  match e.nameError? r.compiled with
  | some err => (d, .error err)
  | none =>
    match e.writeFacts d r.compiled with
    | (d', .error err) => (d', .error err)
    | (d', .ok ()) =>
      let m := e.manifestFor r
      match e.writeManifest d' m with
      | (d'', .error err) => (d'', .error err)
      | (d'', .ok ()) => (d'', .ok m)

/-- What is reported for a written artifact. -/
def writtenEvent (e : Emitter) (f : CompiledFact) : Trace.Event where
  level := .debug
  target := "semview::emit"
  message := "wrote artifact"
  fields := [("fact", f.name), ("path", e.path f.name)]

/-- What is reported at the end of an emission. -/
def emittedEvent (e : Emitter) (m : Manifest) : Trace.Event where
  level := .info
  target := "semview::emit"
  message := "emitted artifacts"
  fields := [
    ("out_dir", e.outDir),
    ("artifacts", decimal m.artifacts.length),
    ("failures", decimal m.failures.length)]

/-- What is reported for the artifacts up to the first failure. -/
def writtenEvents (e : Emitter) (d : Disk) : List CompiledFact → List Trace.Event
  | [] => []
  | f :: fs =>
    match e.writeFact d f with
    | (_, .error _) => []
    | (d', .ok ()) => e.writtenEvent f :: e.writtenEvents d' fs

/-- What an emission reports. -/
def events (e : Emitter) (d : Disk) (r : Report) : List Trace.Event :=
  match e.nameError? r.compiled with
  | some _ => []
  | none =>
    e.writtenEvents d r.compiled ++
      match (e.write d r).2 with
      | .error _ => []
      | .ok m => [e.emittedEvent m]

end Emitter
end FactViews
