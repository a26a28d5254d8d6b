import LiveSnippet.CommandLine.Report
import LiveSnippet.CommandLine.Usage
import LiveSnippet.Settings.Basic

/-!
# The command line program

Reads the settings and runs a command on the files of the machine. The exit code is 0, or 1 if
something is wrong with a template file or the command failed, or 2 if the command line is wrong.
-/

namespace LiveSnippet.CommandLine

/-- The files of the machine. -/
def machineFiles : FileSystem IO where
  list path := do
    try
      if ← (← IO.FS.realPath (String.ofList path)).isDir then
        try
          let entries ← (← IO.FS.realPath (String.ofList path)).readDir
          return .names (entries.toList.map (·.fileName.toList))
        catch _ => return .unreadable
      else return .missing
    catch _ => return .missing
  read? path := do
    try return some (← IO.FS.readFile (String.ofList path)).toList
    catch _ => return none
  isFile path := do
    try return (← (← IO.FS.realPath (String.ofList path)).metadata).type == .file
    catch _ => return false

/-- The environment of the program. -/
def machineEnvironment : IO Environment := do
  let lookUp := fun name => do return (← IO.getEnv name).map (·.toList)
  return ⟨← lookUp "HOME", ← lookUp "XDG_CONFIG_HOME", ← lookUp "HSNIP_CONFIG"⟩

/-- Tells the user that the program failed. -/
def failWith (message : String) : IO UInt32 := do
  IO.eprintln s!"Error: {message}"
  return 1

/-- Runs a command with a template directory. -/
def runCommand (dir : Text) (lookbackLines : Nat) : Command → IO Report
  | .check files => checkTemplates machineFiles dir files
  | .list language => listTemplates machineFiles dir language
  | .expand language text fills selection scopes =>
    expandTemplate machineFiles dir ⟨language, text, fills, selection, scopes, lookbackLines⟩

/-- Writes a report. -/
def showReport (r : Report) : IO UInt32 := do
  for d in r.warnings do
    IO.eprintln s!"warning: {d.render}"
  IO.print (String.ofList r.out)
  match r.result with
  | .ok wrong => return if wrong then 1 else 0
  | .error e => failWith e.message

/-- Does what a command line asks for. -/
def obey (a : Arguments) : IO UInt32 := do
  let environment ← machineEnvironment
  let settings ← match a.config with
    | some path => Settings.load machineFiles path
    | none => Settings.discover machineFiles environment
  match settings with
  | .error e => failWith e.message
  | .ok settings =>
    match a.dir.or (settings.templateDirectory? environment) with
    | none => failWith "no template directory configured; pass --dir"
    | some dir => showReport (← runCommand dir settings.lookbackLines a.command)

/-- Runs the program with the arguments behind its name. -/
def run (arguments : List String) : IO UInt32 := do
  match Arguments.parse ((programName :: arguments).map (·.toList)) with
  | .ok a => obey a
  | .error e =>
    if e.isRequested then
      IO.println e.message
      return 0
    else
      IO.eprintln e.message
      return 2

end LiveSnippet.CommandLine

/-- The program. -/
def main (arguments : List String) : IO UInt32 := LiveSnippet.CommandLine.run arguments
