import FactViews.Dialect
import FactViews.Text.Basic

/-! # Arguments of the command line

Arguments are options with a value, flags, and positional arguments. An option's value stands in
the next argument or is attached to the option; the next argument counts only if it does not look
like an option itself. After `--` all arguments are positional. No option or flag may be given
twice, and no path may be empty. -/

namespace FactViews.CommandLine
open Text

/-- The options and flags that a command knows. -/
structure Known where
  /-- Options with a value: their names and letters. -/
  options : List (String × Char) := []
  flags : List String := []

/-- One argument, understood. -/
inductive Given where
  | option (name value : String)
  | flag (name : String)
  | positional (text : String)
  /-- A question for help, which ends the reading. -/
  | help
deriving DecidableEq, Repr

/-- Whether an argument looks like an option. -/
def looksLikeOption (arg : String) : Bool := arg.toList.head? = some '-' && arg ≠ "-"

/-- What begins with two hyphens: a name, and a value if there is an equals sign. -/
def longParts (arg : String) : String × Option String :=
  let body := arg.toList.drop 2
  let name := body.takeWhile (· ≠ '=')
  match body.drop name.length with
  | [] => (String.ofList name, none)
  | _ :: value => (String.ofList name, some (String.ofList value))

/-- What an argument that looks like an option says. -/
inductive Reading where
  /-- It stands alone. -/
  | complete (given : Given)
  /-- It is an option whose value is the next argument. -/
  | needsValue (option : String)
  | refused

/-- Reads an argument that looks like an option. -/
def readOption (known : Known) (arg : String) : Reading :=
  match arg.toList with
  | '-' :: '-' :: _ =>
    let (name, value) := longParts arg
    match value with
    | none =>
      if known.flags.contains name then .complete (.flag name)
      else if known.options.any (·.1 = name) then .needsValue name
      else if name = "help" then .complete .help
      else .refused
    | some value =>
      if known.options.any (·.1 = name) then .complete (.option name value) else .refused
  | '-' :: letter :: attached =>
    match known.options.find? (·.2 = letter) with
    | some (name, _) =>
      match attached with
      | [] => .needsValue name
      | '=' :: value => .complete (.option name (String.ofList value))
      | value => .complete (.option name (String.ofList value))
    | none => if letter = 'h' then .complete .help else .refused
  | _ => .refused

/-- Reads arguments. -/
def readArguments (known : Known) : List String → Option (List Given)
  | [] => some []
  | arg :: rest =>
    if arg = "--" then some (rest.map .positional)
    else if looksLikeOption arg then
      match readOption known arg with
      | .refused => none
      | .complete .help => some [.help]
      | .complete given => (readArguments known rest).map (given :: ·)
      | .needsValue name =>
        match rest with
        | [] => none
        | value :: rest =>
          if looksLikeOption value then none
          else (readArguments known rest).map (.option name value :: ·)
    else (readArguments known rest).map (.positional arg :: ·)

/-- The arguments of the command that compiles. -/
structure CompileArguments where
  model : Option String := none
  config : Option String := none
  out : Option String := none
  dialect : Option Dialect := none
  noValidate : Bool := false
  stdout : Bool := false
  parallel : Bool := false
deriving DecidableEq, Repr, Inhabited

/-- What is to be done. -/
inductive Command where
  | version
  | help
  | compile (args : CompileArguments)
  | validate (model : String)
  | list (model : String)
deriving DecidableEq, Repr

/-- A path that is given for the first time and not empty. -/
def newPath (before : Option String) (path : String) : Option (Option String) :=
  if before.isSome || path = "" then none else some (some path)

/-- Adds one argument to those of the command that compiles. -/
def CompileArguments.add (a : CompileArguments) : Given → Option CompileArguments
  | .positional path => (newPath a.model path).map fun p => { a with model := p }
  | .option "config" path => (newPath a.config path).map fun p => { a with config := p }
  | .option "out" path => (newPath a.out path).map fun p => { a with out := p }
  | .option "dialect" name =>
    if a.dialect.isSome then none
    else (Dialect.ofName? name).map fun d => { a with dialect := some d }
  | .flag "no-validate" => if a.noValidate then none else some { a with noValidate := true }
  | .flag "stdout" => if a.stdout then none else some { a with stdout := true }
  | .flag "parallel" => if a.parallel then none else some { a with parallel := true }
  | _ => none

/-- What the command that compiles knows. -/
def compileKnown : Known where
  options := [("config", 'c'), ("out", 'o'), ("dialect", 'd')]
  flags := ["no-validate", "stdout", "parallel"]

/-- Adds arguments one after another. A question for help counts if all is well before it. -/
def CompileArguments.addAll (a : CompileArguments) : List Given → Option Command
  | [] => some (.compile a)
  | .help :: _ => some .help
  | g :: gs =>
    match a.add g with
    | none => none
    | some a => a.addAll gs

/-- Reads the arguments of the command that compiles. -/
def readCompile (args : List String) : Option Command :=
  (readArguments compileKnown args).bind (CompileArguments.addAll {})

/-- Reads the arguments of a command on one model file. -/
def readModelCommand (command : String → Command) (args : List String) : Option Command :=
  match readArguments {} args with
  | some [.help] => some .help
  | some [.positional path] => if path = "" then none else some (command path)
  | some [.positional path, .help] => if path = "" then none else some .help
  | _ => none

/-- The names of the commands. -/
def commandNames : List String := ["compile", "validate", "list", "help"]

/-- Reads a command line; `none` if it is not understood. -/
def Command.read : List String → Option Command
  | "compile" :: args => readCompile args
  | "validate" :: args => readModelCommand .validate args
  | "list" :: args => readModelCommand .list args
  | ["help"] => some .help
  | ["help", topic] => if commandNames.contains topic then some .help else none
  | "--version" :: _ => some .version
  | "--help" :: _ => some .help
  | arg :: _ =>
    match arg.toList with
    | '-' :: 'V' :: _ => some .version
    | '-' :: 'h' :: _ => some .help
    | _ => none
  | [] => none

end FactViews.CommandLine
