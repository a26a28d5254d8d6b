import LiveSnippet.CommandLine.Slot
import LiveSnippet.Text.Search

/-!
# Reading the arguments of a level

Arguments are read from left to right. The values for a slot are collected until the next slot
begins and are only then taken, so that what is wrong with them is found late.

## Main definitions

* `ArgumentError`
* `Reading`, `Reading.settle`: what has been read, and the taking of collected values
* `Reading.read`: one argument of a level
-/

namespace LiveSnippet.CommandLine

/-- Why a command line is not obeyed. -/
inductive ArgumentError
  | unknownArgument
  | invalidCommand
  | missingCommand
  | missingArgument
  | argumentConflict
  | invalidValue
  | tooManyValues
  | helpRequested
  | versionRequested
  /-- No argument was given at all. -/
  | helpForNothing
deriving DecidableEq, Repr

/-- What has been read of a level. -/
structure Reading where
  /-- The values taken, in order; an option without values is there with none. -/
  taken : List (Slot × List Text)
  /-- The values collected for the slot that was begun last. -/
  pending : Option (Slot × List Text)
  /-- Whether the next argument is the value of the slot begun last. -/
  expectsValue : Bool
  /-- The number of positional arguments passed. -/
  place : Nat
  /-- Whether two dashes have been read, after which every argument is positional. -/
  escaped : Bool
deriving DecidableEq, Repr

namespace Reading

/-- Nothing read. -/
def start : Reading := ⟨[], none, false, 0, false⟩

/-- Whether a slot has been given. -/
def isGiven (r : Reading) (slot : Slot) : Bool := r.taken.any (·.1 == slot)

/-- All values of a slot. -/
def values (r : Reading) (slot : Slot) : List Text :=
  (r.taken.filter (·.1 == slot)).flatMap (·.2)

/-- The values in arguments for a slot. -/
def splitValues (slot : Slot) (arguments : List Text) : List Text :=
  match slot.separator? with
  | some c => arguments.flatMap (Text.splitOn [c])
  | none => arguments

/-- Takes arguments for a slot. -/
def take (r : Reading) (slot : Slot) (arguments : List Text) : Except ArgumentError Reading :=
  if slot.takesValue && arguments.isEmpty then .error .invalidValue
  else if slot = .help then .error .helpRequested
  else if slot = .version then .error .versionRequested
  else if !slot.repeats && r.isGiven slot then .error .argumentConflict
  else
    let values := splitValues slot arguments
    if slot.isPath && values.any List.isEmpty then .error .invalidValue
    else .ok { r with taken := r.taken ++ [(slot, values)] }

/-- Takes the values collected. -/
def settle (r : Reading) : Except ArgumentError Reading :=
  match r.pending with
  | none => .ok r
  | some (slot, arguments) => { r with pending := none }.take slot arguments

/-- An option, with the value that is attached to it if there is one. -/
def readOption (r : Reading) (slot : Slot) (value : Option Text) :
    Except ArgumentError Reading := do
  let r ← r.settle
  match slot.takesValue, value with
  | true, none => return { r with pending := some (slot, []), expectsValue := true }
  | _, _ => return { ← r.take slot value.toList with expectsValue := false }

/-- Options by their letters. What follows the letter of an option that takes a value is the value,
with or without an equals sign in front of it. -/
def readLetters (level : Level) (r : Reading) : Text → Except ArgumentError Reading
  | [] => .ok r
  | c :: rest =>
    match level.findLetter? c with
    | none => .error .unknownArgument
    | some slot =>
      if slot.takesValue then
        r.readOption slot (match rest with
          | [] => none
          | '=' :: value => some value
          | value => some value)
      else do readLetters level (← r.readOption slot none) rest

/-- An option by its name; what follows an equals sign is its value. -/
def readLong (level : Level) (r : Reading) (argument : Text) : Except ArgumentError Reading :=
  match level.findLong? (argument.takeWhile (· ≠ '=')) with
  | none => .error .unknownArgument
  | some slot =>
    match argument.dropWhile (· ≠ '=') with
    | _ :: value =>
      if slot.takesValue then r.readOption slot (some value) else .error .tooManyValues
    | [] => r.readOption slot none

/-- The value of the option begun last. -/
def readValue (r : Reading) (argument : Text) : Reading :=
  { r with
    pending := r.pending.map fun (slot, arguments) => (slot, arguments ++ [argument])
    expectsValue := false }

/-- A positional argument. -/
def readPositional (level : Level) (r : Reading) (argument : Text) :
    Except ArgumentError Reading :=
  match level.positionals[r.place]? with
  | none =>
    if level = .top && !(r.escaped && isCommandName argument) then .error .invalidCommand
    else .error .unknownArgument
  | some slot => do
    let place := if slot.repeats then r.place else r.place + 1
    match r.pending with
    | some (pending, arguments) =>
      if pending = slot then
        return { r with pending := some (slot, arguments ++ [argument]), expectsValue := false, place }
      else
        return { ← r.settle with pending := some (slot, [argument]), expectsValue := false, place }
    | none => return { r with pending := some (slot, [argument]), expectsValue := false, place }

/-- One argument of a level. -/
def read (level : Level) (r : Reading) (argument : Text) : Except ArgumentError Reading :=
  if r.escaped then r.readPositional level argument
  else match argument with
    | ['-', '-'] => .ok { r with escaped := true }
    | '-' :: '-' :: long => r.readLong level long
    | '-' :: c :: letters => r.readLetters level (c :: letters)
    | _ => if r.expectsValue then .ok (r.readValue argument) else r.readPositional level argument

end Reading

end LiveSnippet.CommandLine
