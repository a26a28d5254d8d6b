import LiveSnippet.CommandLine.Arguments

/-!
# What the command line tells a user

## Main definitions

* `usage`, `versionLine`
* `ArgumentError.message`, `ArgumentError.isRequested`
-/

namespace LiveSnippet.CommandLine

/-- The name of the program. -/
def programName : String := "hsnip"

/-- The line that names the version. -/
def versionLine : String := programName ++ " 0.1.0"

/-- How the program is used. -/
def usage : String := "\n".intercalate [
  "Compile, list and try out live snippet templates",
  "",
  "Usage: hsnip [OPTIONS] <COMMAND>",
  "",
  "Commands:",
  "  check [FILES]...        Compile template files and report every error",
  "  list [LANGUAGE]         List templates, highest priority first",
  "  expand LANGUAGE TEXT    Expand the template triggered at the end of TEXT",
  "  help [COMMAND]          Print this message",
  "",
  "Options:",
  "  -c, --config <PATH>     Configuration file",
  "  -d, --dir <DIR>         Template directory, overriding the configured one",
  "  -v, --verbose           Verbose logging",
  "  -h, --help              Print help",
  "  -V, --version           Print version",
  "",
  "Options of expand:",
  "  -f, --fill <TEXT>       Text typed into each tabstop, in navigation order",
  "  -s, --selection <TEXT>  Text substituted for $\x7bVISUAL\x7d",
  "      --scopes <SCOPES>   Scope names visible to context filters (comma-separated)"]

namespace ArgumentError

/-- The answer to a command line that is not obeyed. -/
def message : ArgumentError → String
  | unknownArgument => "error: unexpected argument found"
  | invalidCommand => "error: unrecognized subcommand"
  | missingCommand => "error: a subcommand is required"
  | missingArgument => "error: required arguments were not provided"
  | argumentConflict => "error: an argument cannot be used multiple times"
  | invalidValue => "error: a value is required"
  | tooManyValues => "error: unexpected value for an argument"
  | versionRequested => versionLine
  | helpRequested | helpForNothing => usage

/-- Whether the answer is what the user asked for. -/
def isRequested : ArgumentError → Bool
  | helpRequested | versionRequested => true
  | _ => false

end ArgumentError

end LiveSnippet.CommandLine
