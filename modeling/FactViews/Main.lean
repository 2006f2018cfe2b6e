import FactViews.CommandLine

/-! # The program

Commands are functions of a disk. The program looks up the files that a command reads and the
places where it would write, runs the command on what it found, and carries the changes out. -/

namespace FactViews.Main
open CommandLine

/-- Notes what stands at a path whose directory is known, unless it is known as well. -/
def look (disk : Disk) (path : String) : IO Disk := do
  match disk.locateNew path with
  | .ok (some loc) =>
    if (disk.find? loc).isSome then return disk
    try
      return disk.put loc (.file (← IO.FS.readBinFile path))
    catch
      | .inappropriateType .. => return disk.put loc .directory
      | _ => return disk
  | _ => return disk

/-- Notes what stands at a path and at its ancestors. -/
def lookAlong (disk : Disk) (path : String) : IO Disk :=
  ((Path.parents path).reverse ++ [path]).foldlM look disk

/-- The disk of which only the working directory is known. -/
def startDisk : IO Disk := do
  let here := (Text.splitOn '/' (toString (← IO.currentDir))).filter (· ≠ "")
  return (List.range here.length).foldl (fun d n => d.put (here.take (n + 1)) .directory) { here }

/-- Adds the variables with the given names. -/
def readVariables (env : Environment) (names : List String) : IO Environment :=
  names.foldlM (fun env name => do
    match ← IO.getEnv name with
    | some value => return ⟨env.bindings ++ [(name, value)]⟩
    | none => return env) env

/-- The variables that a text needs. -/
def referencedNames (text : String) : List String :=
  (Reference.pieces text.toList).filterMap fun
    | .variable name => some (Environment.variableOf name)
    | _ => none

/-- Looks up what the command that compiles reads. -/
def compileContext (c : Context) (a : CompileArguments) : IO Context := do
  let files := a.config.toList ++ (c.env.get? Settings.configVariable).toList ++
    Settings.localFile :: (Settings.userFile? c.env).toList
  let c := { c with disk := ← files.foldlM lookAlong c.disk }
  match settingsFor c a with
  | .error _ => return c
  | .ok s =>
    let names := referencedNames s.compile.model ++ referencedNames s.compile.outputDir
    let c := { c with env := ← readVariables c.env names }
    match modelPathFor c s a with
    | .error _ => return c
    | .ok path => return { c with disk := ← lookAlong c.disk path }

/-- Looks up what a command reads. -/
def contextFor (args : List String) : IO Context := do
  let names := ["HOME", "XDG_CONFIG_HOME", Settings.configVariable, filterVariable]
  let c : Context := { disk := ← startDisk, env := ← readVariables {} names }
  match Command.read args with
  | some (.compile a) => compileContext c a
  | some (.validate path) => return { c with disk := ← lookAlong c.disk path }
  | some (.list path) => return { c with disk := ← lookAlong c.disk path }
  | _ => return c

/-- The path of a location. -/
def pathOf (loc : Location) : String := "/" ++ Text.joinWith "/" loc

/-- Whether two entries are the same. -/
def same : DiskEntry → DiskEntry → Bool
  | .directory, .directory => true
  | .file a, .file b => a.data == b.data
  | _, _ => false

/-- The entries of a disk that another one does not have. -/
def newEntries (before after : Disk) : List (Location × DiskEntry) :=
  after.entries.filter fun e => !(before.find? e.1).any (same e.2)

/-- Carries out one change. -/
def carryOut (change : Location × DiskEntry) : IO Unit :=
  match change.2 with
  | .directory => IO.FS.createDirAll (pathOf change.1)
  | .file content => IO.FS.writeBinFile (pathOf change.1) content

/-- Prints a notice. -/
def printNotice (n : Notice) : IO Unit :=
  IO.eprintln (n.text ++ (n.detail.map (" " ++ ·)).getD "")

/-- Runs the program. The first run shows where it would write; the second one knows what is
there. -/
def execute (args : List String) : IO UInt32 := do
  let c ← contextFor args
  let planned := newEntries c.disk (CommandLine.run c args).disk
  let disk ← (planned.map fun e => pathOf e.1).foldlM lookAlong c.disk
  let outcome := CommandLine.run { c with disk } args
  (newEntries disk outcome.disk).forM carryOut
  IO.print outcome.stdout
  outcome.notices.forM printNotice
  return outcome.exit.toUInt32

end FactViews.Main

/-- The entry point. -/
def main (args : List String) : IO UInt32 := FactViews.Main.execute args
