import FactViews.Files.Path

/-! # Files and directories

A disk is a tree of directories and files together with a working directory. Paths are resolved
part by part from the working directory, or from the root if they are absolute; there are no
links. Operations return the changed disk, or the reason why they cannot be done. -/

namespace FactViews
open Text

/-- The names from the root down to an object. -/
abbrev Location := List String

/-- A file, or a directory with an object under each of its names. -/
inductive FileTree where
  | file (content : ByteArray)
  | directory (entries : List (String × FileTree))
deriving Inhabited

/-- What stands at a location. -/
inductive DiskEntry where
  | directory
  | file (content : ByteArray)

namespace FileTree

/-- An object without what is in it. -/
def entry : FileTree → DiskEntry
  | .file content => .file content
  | .directory _ => .directory

/-- The object under a name. -/
def child? (t : FileTree) (name : String) : Option FileTree :=
  match t with
  | .file _ => none
  | .directory entries => (entries.find? (·.1 = name)).map Prod.snd

/-- The object at a location. -/
def find? (t : FileTree) : Location → Option FileTree
  | [] => some t
  | name :: loc =>
    match t.child? name with
    | none => none
    | some child => child.find? loc

/-- Puts an object under a name of a directory. -/
def putChild (t : FileTree) (name : String) (child : FileTree) : FileTree :=
  match t with
  | .file content => .file content
  | .directory entries =>
    if entries.any (·.1 = name) then
      .directory (entries.map fun e => if e.1 = name then (name, child) else e)
    else .directory ((name, child) :: entries)

/-- Puts an object at a location. Nothing changes if there is no directory for it. -/
def put (t new : FileTree) : Location → FileTree
  | [] => new
  | [name] => t.putChild name new
  | name :: loc =>
    match t.child? name with
    | none => t
    | some child => t.putChild name (child.put new loc)

mutual

/-- The objects in a tree, given its own location; a directory comes before what is in it. -/
def entriesAt (loc : Location) : FileTree → List (Location × DiskEntry)
  | .file content => [(loc, .file content)]
  | .directory entries => (loc, .directory) :: entriesIn loc entries

/-- The objects in a directory, given its location. -/
def entriesIn (loc : Location) : List (String × FileTree) → List (Location × DiskEntry)
  | [] => []
  | (name, t) :: rest => entriesAt (loc ++ [name]) t ++ entriesIn loc rest

end

end FileTree

/-- Why an operation on a path cannot be done. -/
inductive DiskFault where
  | notFound
  | notDirectory
  | isDirectory
  | alreadyExists
  /-- A name or a path is too long. -/
  | tooLong
  /-- A path holds the character NUL. -/
  | nulInPath
  /-- The content is not UTF-8. -/
  | notText
deriving DecidableEq, Repr

/-- The text shown for a fault. -/
def DiskFault.message : DiskFault → String
  | .notFound => "No such file or directory (os error 2)"
  | .notDirectory => "Not a directory (os error 20)"
  | .isDirectory => "Is a directory (os error 21)"
  | .alreadyExists => "File exists (os error 17)"
  | .tooLong => "File name too long (os error 36)"
  | .nulInPath => "file name contained an unexpected NUL byte"
  | .notText => "stream did not contain valid UTF-8"

/-- All objects, and the working directory. -/
structure Disk where
  root : FileTree := .directory []
  here : Location := []

/-- The objects on the way from the root to an object, the last first, with their names. -/
abbrev Trail := List (String × FileTree)

/-- The location to which a trail leads. -/
def Trail.location (trail : Trail) : Location := (trail.map Prod.fst).reverse

namespace Disk

/-- The object at a location. -/
def find? (d : Disk) (loc : Location) : Option DiskEntry := (d.root.find? loc).map FileTree.entry

/-- Puts a file or an empty directory at a location. -/
def put (d : Disk) (loc : Location) (entry : DiskEntry) : Disk :=
  let new := match entry with
    | .file content => .file content
    | .directory => .directory []
  { d with root := d.root.put new loc }

/-- All objects with their locations. -/
def entries (d : Disk) : List (Location × DiskEntry) := d.root.entriesAt []

/-- The greatest number of bytes in a name. -/
def maxName : Nat := 255

/-- The greatest number of bytes in a path. -/
def maxPath : Nat := 4095

/-- The object at the end of a trail. -/
def last (d : Disk) (trail : Trail) : FileTree :=
  match trail with
  | [] => d.root
  | (_, t) :: _ => t

/-- Follows parts from the end of a trail. Every step needs a directory to start from. -/
def follow (d : Disk) (trail : Trail) : List String → Except DiskFault Trail
  | [] => .ok trail
  | part :: rest =>
    match d.last trail with
    | .file _ => .error .notDirectory
    | .directory entries =>
      if part = "" || part = "." then d.follow trail rest
      else if part = ".." then d.follow trail.tail rest
      else if maxName < part.utf8ByteSize then .error .tooLong
      else
        match (FileTree.directory entries).child? part with
        | none => .error .notFound
        | some t => d.follow ((part, t) :: trail) rest

/-- Where a path starts. -/
def start (d : Disk) (path : String) : Location := if Path.isAbsolute path then [] else d.here

/-- Refuses texts that are no path at all. -/
def checkPath (path : String) : Except DiskFault Unit :=
  if path.toList.contains '\x00' then .error .nulInPath
  else if path = "" then .error .notFound
  else if maxPath < path.utf8ByteSize then .error .tooLong
  else .ok ()

/-- The object to which the parts of a path lead from a location. -/
def treeAlong (d : Disk) (start : Location) (parts : List String) : Except DiskFault FileTree :=
  (d.follow [] (start ++ parts)).map d.last

/-- The object at a path. -/
def treeAt (d : Disk) (path : String) : Except DiskFault FileTree :=
  match checkPath path with
  | .error e => .error e
  | .ok () => d.treeAlong (d.start path) (splitOn '/' path)

/-- What stands at a path. -/
def entryAt (d : Disk) (path : String) : Except DiskFault DiskEntry :=
  (d.treeAt path).map FileTree.entry

/-- Whether there is an object at a path. -/
def contains (d : Disk) (path : String) : Bool := (d.entryAt path).toOption.isSome

/-- The text of the file at a path. -/
def readText (d : Disk) (path : String) : Except DiskFault String :=
  match d.entryAt path with
  | .error e => .error e
  | .ok .directory => .error .isDirectory
  | .ok (.file content) =>
    match String.fromUTF8? content with
    | none => .error .notText
    | some text => .ok text

/-- The location that the parts of a path name inside an existing directory, whether or not
something is there; `none` if they end in dots or name the root. -/
def locateAlong (d : Disk) (start : Location) (parts : List String) :
    Except DiskFault (Option Location) :=
  match parts.reverse.dropWhile (· = "") with
  | [] => .ok none
  | name :: before =>
    match d.follow [] (start ++ before.reverse) with
    | .error e => .error e
    | .ok trail =>
      match d.last trail with
      | .file _ => .error .notDirectory
      | .directory _ =>
        if name = "." || name = ".." then .ok none
        else if maxName < name.utf8ByteSize then .error .tooLong
        else .ok (some (trail.location ++ [name]))

/-- The location that a path names inside an existing directory. -/
def locateNew (d : Disk) (path : String) : Except DiskFault (Option Location) :=
  match checkPath path with
  | .error e => .error e
  | .ok () => d.locateAlong (d.start path) (splitOn '/' path)

/-- Creates one directory. -/
def makeDirectory (d : Disk) (start : Location) (parts : List String) : Except DiskFault Disk :=
  match d.locateAlong start parts with
  | .error e => .error e
  | .ok none => .error .alreadyExists
  | .ok (some loc) =>
    if (d.find? loc).isSome then .error .alreadyExists else .ok (d.put loc .directory)

/-- Whether the parts of a path lead to a directory. -/
def isDirectory (d : Disk) (start : Location) (parts : List String) : Bool :=
  match d.treeAlong start parts with
  | .ok (.directory _) => true
  | _ => false

/-- Creates the first directory of a list, and if its parent is missing, the following ones
before it. Directories that were created stay when a later step fails. -/
def makeDirectoriesAlong (d : Disk) (start : Location) :
    List (List String) → Disk × Except DiskFault Unit
  | [] => (d, .ok ())
  | parts :: parents =>
    match d.makeDirectory start parts with
    | .ok d' => (d', .ok ())
    | .error .notFound =>
      match d.makeDirectoriesAlong start parents with
      | (d', .error e) => (d', .error e)
      | (d', .ok ()) =>
        match d'.makeDirectory start parts with
        | .ok d'' => (d'', .ok ())
        | .error e => if d'.isDirectory start parts then (d', .ok ()) else (d', .error e)
    | .error e => if d.isDirectory start parts then (d, .ok ()) else (d, .error e)

/-- Creates a directory and its missing ancestors. An empty path needs none. -/
def makeDirectories (d : Disk) (path : String) : Disk × Except DiskFault Unit :=
  if path = "" then (d, .ok ())
  else
    match checkPath path with
    | .error e => (d, .error e)
    | .ok () =>
      d.makeDirectoriesAlong (d.start path) (splitOn '/' path :: Path.ancestors path)

/-- Writes a file, replacing its content if it exists. -/
def writeText (d : Disk) (path text : String) : Except DiskFault Disk :=
  match d.locateNew path with
  | .error e => .error e
  | .ok none => .error .isDirectory
  | .ok (some loc) =>
    match d.find? loc with
    | some .directory => .error .isDirectory
    | _ => .ok (d.put loc (.file text.toUTF8))

end Disk
end FactViews
