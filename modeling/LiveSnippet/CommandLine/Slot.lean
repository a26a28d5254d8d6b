import LiveSnippet.Text.Basic

/-!
# Commands and their slots

The command line names one of three commands. The options and the positional arguments that a level
of the command line knows are its slots.

## Main definitions

* `Slot`: its names, and what values it takes
* `Level`, `Level.options`, `Level.positionals`
-/

namespace LiveSnippet.CommandLine

/-- What an argument can be meant for. -/
inductive Slot
  | config
  | dir
  | verbose
  | help
  | version
  | fill
  | selection
  | scopes
  | files
  | language
  | text
deriving DecidableEq, Repr

namespace Slot

/-- The name behind two dashes. -/
def longName? : Slot → Option Text
  | config => some "config".toList
  | dir => some "dir".toList
  | verbose => some "verbose".toList
  | help => some "help".toList
  | version => some "version".toList
  | fill => some "fill".toList
  | selection => some "selection".toList
  | scopes => some "scopes".toList
  | files | language | text => none

/-- The letter behind one dash. -/
def letter? : Slot → Option Char
  | config => some 'c'
  | dir => some 'd'
  | verbose => some 'v'
  | help => some 'h'
  | version => some 'V'
  | fill => some 'f'
  | selection => some 's'
  | scopes | files | language | text => none

/-- Whether the slot takes a value. -/
def takesValue : Slot → Bool
  | verbose | help | version => false
  | _ => true

/-- Whether the slot may be given several times. -/
def repeats : Slot → Bool
  | fill | scopes | files => true
  | _ => false

/-- Whether the values are paths, which are never empty. -/
def isPath : Slot → Bool
  | config | dir | files => true
  | _ => false

/-- The character that separates several values in one argument. -/
def separator? : Slot → Option Char
  | scopes => some ','
  | _ => none

end Slot

/-- A part of the command line: what stands before the command, or what follows it. -/
inductive Level
  | top
  | check
  | list
  | expand
deriving DecidableEq, Repr

namespace Level

/-- The options that a level knows. Those of the top level are known below it, too, but for the
version. -/
def options : Level → List Slot
  | top => [.config, .dir, .verbose, .help, .version]
  | check | list => [.config, .dir, .verbose, .help]
  | expand => [.config, .dir, .verbose, .help, .fill, .selection, .scopes]

/-- The positional arguments in their order. -/
def positionals : Level → List Slot
  | top => []
  | check => [.files]
  | list => [.language]
  | expand => [.language, .text]

/-- The positional arguments that must be given. -/
def required : Level → List Slot
  | expand => [.language, .text]
  | _ => []

/-- The option with a name. -/
def findLong? (l : Level) (name : Text) : Option Slot :=
  l.options.find? (·.longName? == some name)

/-- The option with a letter. -/
def findLetter? (l : Level) (letter : Char) : Option Slot :=
  l.options.find? (·.letter? == some letter)

/-- The command with a name. -/
def ofName? (name : Text) : Option Level :=
  if name = "check".toList then some check
  else if name = "list".toList then some list
  else if name = "expand".toList then some expand
  else none

end Level

/-- The command that explains the others. -/
def helpCommand : Text := "help".toList

/-- Whether a text is the name of a command. -/
def isCommandName (name : Text) : Bool := (Level.ofName? name).isSome || name = helpCommand

end LiveSnippet.CommandLine
