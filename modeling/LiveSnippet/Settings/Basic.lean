import LiveSnippet.Files.FileSystem
import LiveSnippet.Files.Path
import LiveSnippet.Settings.Toml

/-!
# Settings

The settings of a user are two entries of a file: the number of lines that multi-line patterns see,
and the directory of the template files. The file that a variable of the environment names comes
before the one in the user's configuration directory; without either, defaults hold.

## Main definitions

* `Settings`, `Settings.parse`, `Settings.load`
* `Environment`, `Environment.searchPaths`, `Environment.templateDirectory?`
* `Settings.discover`: the settings that hold for a user
-/

namespace LiveSnippet

/-- The settings of a user. -/
structure Settings where
  /-- The number of lines before the cursor that multi-line patterns see. -/
  lookbackLines : Nat
  /-- The directory of the template files. -/
  templateDirectory : Option Text
deriving DecidableEq, Repr

/-- Why settings could not be loaded. -/
inductive SettingsError
  /-- The text is not well-formed, or has an entry that is none of settings. -/
  | malformed
  /-- The file cannot be read. -/
  | unreadable (path : Text)
deriving DecidableEq, Repr

namespace SettingsError

/-- The error as shown to a user. -/
def message : SettingsError → String
  | malformed => "TOML parse error"
  | unreadable path => s!"I/O error reading {String.ofList path}"

end SettingsError

namespace Settings

/-- The settings that hold without a file. -/
def default : Settings := ⟨20, none⟩

/-- The largest number of lines that settings may name. -/
def maxLookbackLines : Nat := Nat.pow 2 64 - 1

/-- Adds an entry. The first entry of a name holds a value of its type, and there is no second. -/
def addEntry (seen : List Text) (s : Settings) : Text × Toml.Scalar → Option Settings
  | (key, value) =>
    if seen.contains key then none
    else if key = "multiline_context".toList then
      match value with
      | .integer n =>
        if 0 ≤ n ∧ n ≤ maxLookbackLines then some { s with lookbackLines := n.toNat } else none
      | .string _ => none
    else if key = "snippet_dir".toList then
      match value with
      | .string dir => some { s with templateDirectory := some dir }
      | .integer _ => none
    else none

/-- Adds entries, after those with the names in `seen`. -/
def addEntries (seen : List Text) (s : Settings) : List (Text × Toml.Scalar) → Option Settings
  | [] => some s
  | e :: rest => (addEntry seen s e).bind fun s => addEntries (e.1 :: seen) s rest

/-- The settings that a text spells. -/
def parse (text : Text) : Except SettingsError Settings :=
  match (Toml.parse? text).bind (addEntries [] default) with
  | some s => .ok s
  | none => .error .malformed

/-- The settings of a file, in which a directory is given relative to the file. -/
def locate (path : Text) (s : Settings) : Settings :=
  { s with templateDirectory := s.templateDirectory.map (Path.join (Path.parent path)) }

end Settings

/-- What the environment of a program says about settings. -/
structure Environment where
  /-- The user's home directory. -/
  home : Option Text
  /-- The user's configuration directory. -/
  configHome : Option Text
  /-- The file with the settings. -/
  settingsFile : Option Text
deriving DecidableEq, Repr

namespace Environment

/-- The value of a variable, if it is not empty. -/
def nonempty? (value : Option Text) : Option Text := value.filter (!·.isEmpty)

/-- The configuration directory. -/
def configDirectory? (e : Environment) : Option Text :=
  (nonempty? e.configHome).or
    ((nonempty? e.home).map fun home => Path.join home ".config".toList)

/-- A path below the configuration directory of this program. -/
def ownPath? (e : Environment) (name : Text) : Option Text :=
  e.configDirectory?.map fun dir => Path.join (Path.join dir "hsnip".toList) name

/-- Where settings are looked for. -/
def searchPaths (e : Environment) : List Text :=
  (nonempty? e.settingsFile).toList ++ (e.ownPath? "hsnip.toml".toList).toList

/-- The directory of template files that holds without settings. -/
def templateDirectory? (e : Environment) : Option Text := e.ownPath? "snippets".toList

end Environment

namespace Settings

/-- The directory of the template files. -/
def templateDirectory? (s : Settings) (e : Environment) : Option Text :=
  s.templateDirectory.or e.templateDirectory?

section Load

variable {m : Type → Type} [Monad m]

/-- Loads the settings of a file. -/
def load (fs : FileSystem m) (path : Text) : m (Except SettingsError Settings) := do
  match ← fs.read? path with
  | none => pure (.error (.unreadable path))
  | some text => pure ((parse text).map (locate path))

/-- Loads the first file that exists. -/
def loadFirst (fs : FileSystem m) : List Text → m (Except SettingsError Settings)
  | [] => pure (.ok default)
  | path :: rest => do if ← fs.isFile path then load fs path else loadFirst fs rest

/-- Loads the settings that hold in an environment. -/
def discover (fs : FileSystem m) (e : Environment) : m (Except SettingsError Settings) :=
  loadFirst fs e.searchPaths

end Load

end Settings

end LiveSnippet
