import LiveSnippet.CommandLine.Reader

/-!
# Command lines

## Main definitions

* `Command`, `Arguments`
* `Arguments.parse`: what a command line asks for
-/

namespace LiveSnippet.CommandLine

/-- A command with its arguments. -/
inductive Command
  /-- Compiles template files, or those of the template directory if there are none. -/
  | check (files : List Text)
  /-- Lists the templates of all languages, or those that one can use. -/
  | list (language : Option Text)
  /-- Expands the template whose trigger stands at the end of a text. -/
  | expand (language text : Text) (fills : List Text) (selection : Text) (scopes : List Text)
deriving DecidableEq, Repr

/-- What a command line asks for. -/
structure Arguments where
  /-- The file with the settings. -/
  config : Option Text
  /-- The template directory. -/
  dir : Option Text
  verbose : Bool
  command : Command
deriving DecidableEq, Repr

namespace Arguments

/-- Reads all arguments of a level. -/
def readAll (level : Level) (r : Reading) : List Text → Except ArgumentError Reading
  | [] => r.settle
  | argument :: rest => do readAll level (← r.read level argument) rest

/-- The request for help on a command: its name may follow. -/
def helpError : List Text → ArgumentError
  | [] => .helpRequested
  | [name] => if isCommandName name then .helpRequested else .invalidCommand
  | _ => .invalidCommand

/-- Reads what follows the name of a command. -/
def readCommand (level : Level) (arguments : List Text) : Except ArgumentError Reading := do
  let r ← readAll level .start arguments
  if level.required.all r.isGiven then return r else .error .missingArgument

/-- The command of a level. -/
def commandOf (level : Level) (r : Reading) : Command :=
  match level with
  | .expand =>
    .expand ((r.values .language).headD []) ((r.values .text).headD []) (r.values .fill)
      ((r.values .selection).headD []) (r.values .scopes)
  | .list => .list (r.values .language).head?
  | _ => .check (r.values .files)

/-- What two levels ask for. An option that is given at both counts as it is given behind the
command. -/
def ofReadings (top : Reading) (level : Level) (r : Reading) : Arguments :=
  { config := (r.values .config).head?.or (top.values .config).head?
    dir := (r.values .dir).head?.or (top.values .dir).head?
    verbose := r.isGiven .verbose || top.isGiven .verbose
    command := commandOf level r }

/-- Reads arguments up to the name of a command, then what follows it. -/
def readTop (top : Reading) : List Text → Except ArgumentError Arguments
  | [] => do
    let top ← top.settle
    .error (if top.taken.isEmpty then .helpForNothing else .missingCommand)
  | argument :: rest =>
    if top.escaped || top.expectsValue then do readTop (← top.read .top argument) rest
    else if argument = helpCommand then .error (helpError rest)
    else match Level.ofName? argument with
      | none => do readTop (← top.read .top argument) rest
      | some level => do
        let r ← readCommand level rest
        return ofReadings (← top.settle) level r

/-- What a command line asks for. Its first argument is the name of the program. -/
def parse (arguments : List Text) : Except ArgumentError Arguments :=
  readTop .start arguments.tail

end Arguments

end LiveSnippet.CommandLine
