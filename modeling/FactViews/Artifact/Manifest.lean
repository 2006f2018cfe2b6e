import FactViews.Dialect
import FactViews.Json
import FactViews.Report

/-! # Manifests

A manifest lists the artifacts of a run with their hashes, and the facts that have none. -/

namespace FactViews

/-- One written artifact; the path is relative to the output directory. -/
structure ArtifactEntry where
  fact : String
  path : String
  sha256 : String
deriving DecidableEq, Repr

/-- One fact without an artifact. -/
structure FailureEntry where
  fact : String
  stage : String
  error : String
deriving DecidableEq, Repr

/-- What was written and what was not, in fact order. -/
structure Manifest where
  dialect : Dialect := .generic
  artifacts : List ArtifactEntry := []
  failures : List FailureEntry := []
deriving DecidableEq, Repr, Inhabited

/-- The entry of a fact that failed. -/
def FactFailure.entry (f : FactFailure) : FailureEntry :=
  ⟨f.fact, f.stage.name, f.cause.message⟩

/-- An artifact as JSON. -/
def ArtifactEntry.toJson (a : ArtifactEntry) : Json :=
  .object [("fact", .string a.fact), ("path", .string a.path), ("sha256", .string a.sha256)]

/-- A failure as JSON. -/
def FailureEntry.toJson (f : FailureEntry) : Json :=
  .object [("fact", .string f.fact), ("stage", .string f.stage), ("error", .string f.error)]

namespace Manifest

/-- A manifest as JSON. -/
def toJson (m : Manifest) : Json :=
  .object [
    ("dialect", .string m.dialect.name),
    ("artifacts", .array (m.artifacts.map ArtifactEntry.toJson)),
    ("failures", .array (m.failures.map FailureEntry.toJson))]

/-- The content of a manifest file. -/
def text (m : Manifest) : String := m.toJson.text

/-- The name of a manifest file. -/
def fileName : String := "manifest.json"

end Manifest
end FactViews
