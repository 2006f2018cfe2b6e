import FactViews.Document.Reader
import FactViews.Files.Disk

/-! # Model files

A model file is a YAML file. Whether it exists is asked first, then its extension, then its
content. -/

namespace FactViews

/-- Why a model file gives no document. -/
inductive LoadError where
  | fileNotFound (path : String)
  | unsupportedExtension (extension : String)
  /-- The file cannot be read. -/
  | disk (fault : DiskFault)
  /-- The content is not YAML, or not of the shape of a document. -/
  | yaml (file : String) (fault : Yaml.Fault)
  /-- The file holds no model. -/
  | empty (path : String)
deriving DecidableEq, Repr

namespace LoadError

/-- The text shown for a failure, without the wording of the system or of the format. -/
def message : LoadError → String
  | .fileNotFound path => "File not found: " ++ path
  | .unsupportedExtension extension =>
    "Unsupported file extension: " ++ extension ++ ". Supported: .yml, .yaml"
  | .disk _ => "IO error:"
  | .yaml file _ => "Invalid YAML in " ++ file ++ ":"
  | .empty path => "Model file is empty: " ++ path

/-- The wording of the system or of the format that follows the text. -/
def detail? : LoadError → Option String
  | .disk fault => some fault.message
  | .yaml _ fault => some fault.message
  | _ => none

end LoadError

/-- Reads a document from the text of a named file. -/
def Document.ofText (text file : String) : Except LoadError Document :=
  match Document.read text with
  | .ok d => .ok d
  | .error .empty => .error (.empty file)
  | .error (.yaml fault) => .error (.yaml file fault)

/-- Loads the document in a model file. -/
def Disk.loadDocument (disk : Disk) (path : String) : Except LoadError Document :=
  if !disk.contains path then .error (.fileNotFound path)
  else
    let extension := (Path.extension? path).getD ""
    if extension = "yml" || extension = "yaml" then
      match disk.readText path with
      | .error fault => .error (.disk fault)
      | .ok text => Document.ofText text path
    else .error (.unsupportedExtension extension)

end FactViews
