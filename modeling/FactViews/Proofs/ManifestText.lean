import FactViews.Proofs.Emission
import FactViews.Proofs.JsonReading

/-! # Reading manifests

The text of a manifest is written for its JSON value, and decoding it gives the manifest. An
emission that writes a manifest leaves this text on the disk, so the manifest that it returns can be
read there. -/

namespace FactViews

namespace Json

def string? : Json → Option String
  | .string s => some s
  | _ => none

def items? : Json → Option (List Json)
  | .array items => some items
  | _ => none

/-- The value of a field that occurs once. -/
def field? (fields : List (String × Json)) (name : String) : Option Json :=
  match fields.filter fun field => field.1 = name with
  | [(_, value)] => some value
  | _ => none

/-- The values of a record with the given fields. They are named and then in any order, among other
fields perhaps, or they are listed in this order. -/
def record? (names : List String) : Json → Option (List Json)
  | .string _ => none
  | .array items => if items.length = names.length then some items else none
  | .object fields => names.mapM (field? fields)

end Json

def ArtifactEntry.ofJson? (j : Json) : Option ArtifactEntry :=
  match j.record? ["fact", "path", "sha256"] with
  | some [fact, path, sha256] => do return ⟨← fact.string?, ← path.string?, ← sha256.string?⟩
  | _ => none

def FailureEntry.ofJson? (j : Json) : Option FailureEntry :=
  match j.record? ["fact", "stage", "error"] with
  | some [fact, stage, error] => do return ⟨← fact.string?, ← stage.string?, ← error.string?⟩
  | _ => none

namespace Manifest

def ofJson? (j : Json) : Option Manifest :=
  match j.record? ["dialect", "artifacts", "failures"] with
  | some [dialect, artifacts, failures] => do
    return ⟨← Dialect.ofName? (← dialect.string?),
      ← (← artifacts.items?).mapM ArtifactEntry.ofJson?,
      ← (← failures.items?).mapM FailureEntry.ofJson?⟩
  | _ => none

/-- The manifest in a text. -/
def decode (text : String) : Option Manifest := (Json.read text).bind ofJson?

theorem decode_eq_some_iff {text : String} {m : Manifest} :
    decode text = some m ↔ ∃ j : Json, j.Written text ∧ ofJson? j = some m := by
  simp only [decode, Option.bind_eq_some_iff, Json.read_eq_some_iff]

end Manifest

theorem Dialect.ofName?_name (d : Dialect) : ofName? d.name = some d := by
  cases d <;> rfl

theorem ArtifactEntry.ofJson?_toJson (a : ArtifactEntry) : ofJson? a.toJson = some a := rfl

theorem FailureEntry.ofJson?_toJson (f : FailureEntry) : ofJson? f.toJson = some f := rfl

theorem mapM_map_of_forall {α β : Type} {f : β → Option α} {g : α → β}
    (h : ∀ a, f (g a) = some a) (as : List α) : (as.map g).mapM f = some as := by
  induction as with
  | nil => rfl
  | cons a as ih => simp [h, ih]

namespace Manifest
variable {m m' : Manifest}

theorem ofJson?_toJson (m : Manifest) : ofJson? m.toJson = some m := by
  have hrecord : m.toJson.record? ["dialect", "artifacts", "failures"] =
      some [.string m.dialect.name, .array (m.artifacts.map ArtifactEntry.toJson),
        .array (m.failures.map FailureEntry.toJson)] := rfl
  simp [ofJson?, hrecord, Json.string?, Json.items?, Dialect.ofName?_name,
    mapM_map_of_forall ArtifactEntry.ofJson?_toJson, mapM_map_of_forall FailureEntry.ofJson?_toJson]

theorem decode_text (m : Manifest) : decode m.text = some m :=
  decode_eq_some_iff.2 ⟨m.toJson, Json.written_text m.toJson, ofJson?_toJson m⟩

theorem text_injective (h : m.text = m'.text) : m = m' := by
  have hdecode := decode_text m
  rw [h, decode_text m'] at hdecode
  exact (Option.some.inj hdecode).symm

end Manifest

/-! ## The manifest on the disk -/

theorem Text.fromUTF8?_toUTF8 (s : String) : String.fromUTF8? s.toUTF8 = some s := by
  have hvalid : s.toUTF8.IsValidUTF8 := s.isValidUTF8
  rw [String.fromUTF8?, dif_pos hvalid]
  rfl

theorem Disk.readText_of_entryAt {d : Disk} {path text : String}
    (h : d.entryAt path = .ok (.file text.toUTF8)) : d.readText path = .ok text := by
  simp only [readText, h, Text.fromUTF8?_toUTF8]

namespace Emitter
variable {e : Emitter} {d d' : Disk} {r : Report} {m : Manifest}

/-- The manifest is written last, so it is there whatever the facts are called. -/
theorem onDisk_manifestFile (h : e.write d r = (d', .ok m)) (hwanted : e.options.manifest = true) :
    (e.manifestFile m).OnDisk d' := by
  obtain ⟨-, rfl, hwrite⟩ := write_eq_ok_iff.1 h
  rw [files, if_pos hwanted, OutputFile.writeAll_append] at hwrite
  split at hwrite
  · cases hwrite
  · obtain ⟨d₁, hlast, hend⟩ := OutputFile.writeAll_cons_eq_ok hwrite
    cases hend
    exact (OutputFile.writeFile_eq_ok hlast).2

theorem readText_manifestPath (h : e.write d r = (d', .ok m))
    (hwanted : e.options.manifest = true) : d'.readText e.manifestPath = .ok m.text :=
  Disk.readText_of_entryAt
    ((onDisk_manifestFile h hwanted).entryAt e.inside_manifestPath isName_fileName)

end Emitter

namespace Manifest

/-- The text of a manifest is written for one value, the manifest is decoded from it, and an emission
leaves it in the file of the manifest. -/
structure Legible (m : Manifest) : Prop where
  written : m.toJson.Written m.text
  unique : ∀ j : Json, j.Written m.text → j = m.toJson
  decoded : decode m.text = some m
  injective : ∀ m' : Manifest, m'.text = m.text → m' = m
  stored : ∀ (e : Emitter) (d : Disk) (r : Report) (d' : Disk), e.write d r = (d', .ok m) →
    e.options.manifest = true → d'.readText e.manifestPath = .ok m.text

theorem legible (m : Manifest) : m.Legible where
  written := Json.written_text m.toJson
  unique _ hj := hj.unique (Json.written_text m.toJson)
  decoded := decode_text m
  injective _ h := text_injective h
  stored _ _ _ _ h hwanted := Emitter.readText_manifestPath h hwanted

/-- A fact with marks and a control character in its name, and one that was not compiled. -/
def margins : Report where
  compiled := [⟨"say \"é\"\n\x01", "SELECT 1"⟩]
  failures := [⟨"stock", .build, .build ⟨"stock"⟩⟩]

theorem margins_legible :
    ∃ d m, Emitter.write ⟨"out", .tsql, {}⟩ Emitter.workingTree margins = (d, .ok m) ∧
      d.readText "out/manifest.json" = .ok m.text ∧ decode m.text = some m := by
  have hok : (Emitter.write ⟨"out", .tsql, {}⟩ Emitter.workingTree margins).2.isOk = true := by
    decide +kernel
  obtain ⟨d, m, hwrite⟩ := Emitter.exists_eq_ok hok
  have hpath : Emitter.manifestPath ⟨"out", .tsql, {}⟩ = "out/manifest.json" := by decide +kernel
  have hread := (legible m).stored _ _ _ _ hwrite rfl
  rw [hpath] at hread
  exact ⟨d, m, hwrite, hread, (legible m).decoded⟩

end Manifest

end FactViews
