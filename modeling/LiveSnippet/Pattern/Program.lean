import LiveSnippet.Pattern.Footprint

/-!
# Programs of patterns

A plain pattern is matched by an automaton. A hard one is compiled to a program for a machine that
keeps choices open and returns to the last one when it fails. The plain parts of a hard pattern stay
automata: each finds its first match only, so a part stands in an automaton only where no other match
of it could be asked for.

## Main definitions

* `Instruction`, `Program`
* `Program.ofRegex?`
-/

namespace LiveSnippet.Pattern

/-- An instruction of the machine. Addresses are indices of instructions. -/
inductive Instruction
  /-- Consumes a character of the set. -/
  | one (s : CharSet)
  | assert (a : Assertion)
  /-- Goes on at `first`, and leaves `second` as a choice. -/
  | split (first second : Nat)
  | jump (target : Nat)
  /-- Notes the place in a slot. -/
  | save (slot : Nat)
  /-- Goes back to the place in a slot. -/
  | restore (slot : Nat)
  /-- Goes back by a number of characters. -/
  | back (count : Nat)
  /-- Consumes the first match of an automaton, which sets the groups. -/
  | run (a : Automaton) (groups : List Nat)
  /-- Goes back to the start of the first match of `a`, which reads backward. The groups are set by
  `forward` from there on, if there are any. -/
  | runBack (a forward : Automaton) (groups : List Nat)
  /-- Consumes the text of a group again. -/
  | backref (group : Nat) (ignoreCase : Bool)
  /-- Goes on if a group has begun. -/
  | groupSet (group : Nat)
  /-- Marks the choices that are open. -/
  | beginAtomic
  /-- Gives up the choices opened since the last mark, and removes it. -/
  | endAtomic
  /-- Fails, and gives up the choices up to the one that goes on at the next address. -/
  | refuse
  /-- Sets a counter to zero. -/
  | reset (counter : Nat)
  /-- Goes into a round, or on at `exit`. -/
  | round (least : Nat) (most : Option Nat) (greedy : Bool) (counter exit : Nat)
  /-- Goes into a round that may be empty, or on at `exit`; an empty round is the last one. The place
  where the round began is noted in the slot `start`. -/
  | emptyRound (least : Nat) (greedy : Bool) (counter start exit : Nat)
  | accept
deriving Repr

/-- A program for the machine. -/
structure Machine where
  code : Array Instruction
  /-- The number of slots. -/
  slots : Nat
  /-- The number of groups. -/
  groups : Nat
deriving Repr

/-- How a pattern is matched. -/
inductive Program
  | plain (a : Automaton) (groups : Nat)
  | hard (m : Machine)
deriving Repr

/-! ### Construction -/

/-- A program under construction. -/
structure Draft where
  code : Array Instruction
  /-- The number of slots in use. -/
  slots : Nat

/-- A construction that appends instructions. It fails where an automaton cannot be built. -/
abbrev Compile := StateT Draft Option

namespace Compile

/-- The address of the next instruction. -/
def here : Compile Nat := return (← get).code.size

/-- Appends an instruction. -/
def push (i : Instruction) : Compile Unit := modify fun d => { d with code := d.code.push i }

/-- Puts another instruction at an address. -/
def patch (address : Nat) (i : Instruction) : Compile Unit :=
  modify fun d => { d with code := d.code.setIfInBounds address i }

/-- Leaves room for an instruction, and gives its address. -/
def reserve : Compile Nat := do
  let address ← here
  push (.jump address)
  return address

/-- A slot that is not in use. -/
def newSlot : Compile Nat := do
  let slot := (← get).slots
  modify fun d => { d with slots := slot + 1 }
  return slot

/-- A choice between going on at `inside` and at `outside`. -/
def choice (greedy : Bool) (inside outside : Nat) : Instruction :=
  if greedy then .split inside outside else .split outside inside

/-- Appends plain expressions one after the other, as one automaton. -/
def delegate : List Regex → Compile Unit
  | [] => return
  | [.set s] => push (.one s)
  | [.assert a] => push (.assert a)
  | rs => do
    let r := Regex.concat rs
    unless r.fits do
      failure
    push (.run (Automaton.ofRegex false r) r.groups)

/-- Appends a choice between two expressions. -/
def either (first second : Compile Unit) : Compile Unit := do
  let fork ← reserve
  first
  let leave ← reserve
  patch fork (.split (fork + 1) (leave + 1))
  second
  patch leave (.jump (← here))

/-- Appends an expression that may be left out. -/
def optional (body : Compile Unit) (greedy : Bool) : Compile Unit := do
  let fork ← reserve
  body
  patch fork (choice greedy (fork + 1) (← here))

/-- Appends one or more rounds. -/
def plus (body : Compile Unit) (greedy : Bool) : Compile Unit := do
  let start ← here
  body
  push (choice greedy start ((← here) + 1))

/-- Appends rounds that begin with an instruction, which knows where the rounds are left. -/
def loop (body : Compile Unit) (entry : (exit : Nat) → Instruction) : Compile Unit := do
  let start ← reserve
  body
  push (.jump start)
  patch start (entry (← here))

/-- Appends any number of rounds, none of which is empty. -/
def star (body : Compile Unit) (greedy : Bool) : Compile Unit := do
  let start ← here
  loop body fun exit => choice greedy (start + 1) exit

/-- Appends rounds between two bounds. -/
def counted (body : Compile Unit) (least : Nat) (most : Option Nat) (greedy : Bool) :
    Compile Unit := do
  let counter ← newSlot
  push (.reset counter)
  loop body fun exit => .round least most greedy counter exit

/-- Appends at least a number of rounds, which may be empty. -/
def nullable (body : Compile Unit) (least : Nat) (greedy : Bool) : Compile Unit := do
  let counter ← newSlot
  let start ← newSlot
  push (.reset counter)
  loop body fun exit => .emptyRound least greedy counter start exit

/-- Appends rounds between two bounds; no bound may be exceeded by an empty round if `mayBeEmpty` says
that a round can be empty. -/
def rounds (mayBeEmpty : Bool) (body : Compile Unit) (least : Nat) (most : Option Nat)
    (greedy : Bool) : Compile Unit :=
  match least, most, mayBeEmpty with
  | 0, some 1, _ => optional body greedy
  | least, none, true => nullable body least greedy
  | 0, none, false => star body greedy
  | 1, none, false => plus body greedy
  | least, most, _ => counted body least most greedy

/-- Appends what must match or, if `negated` says so, must not match; nothing is consumed. -/
def look (negated : Bool) (body : Compile Unit) : Compile Unit := do
  if negated then
    let fork ← reserve
    body
    push .refuse
    patch fork (.split (fork + 1) (← here))
  else
    let slot ← newSlot
    push (.save slot)
    body
    push (.restore slot)

/-- Appends an expression that ends here, which `body` matches from its start on. -/
def behind (references : List Nat) (r : Regex) (body : Compile Unit) : Compile Unit := do
  if r.extent.fixed then
    push (.back r.extent.least)
    body
  else if r.isHard references || !r.fits then failure
  else push (.runBack (Automaton.ofRegex true r) (Automaton.ofRegex false r) r.groups)

end Compile

namespace Regex

/-- Whether an expression is plain and all of its matches have the same length. -/
def isRigid (references : List Nat) (r : Regex) : Bool := r.extent.fixed && !r.isHard references

open Compile

mutual

/-- Appends an expression. If `strict` holds, all of its matches may be asked for. -/
def compile (references : List Nat) (strict : Bool) (r : Regex) : Compile Unit :=
  if !strict && !r.isHard references then delegate [r]
  else match r with
    | empty => return
    | set s => push (.one s)
    | assert a => push (.assert a)
    | concat rs => do
      delegate (rs.takeWhile (isRigid references))
      compileAll references strict true rs
    | alt rs => compileAny references strict rs
    | .repeat r least most greedy =>
      let isOption := least == 0 && most == some 1
      rounds (r.extent.least == 0)
        (compile references (strict || !isOption && r.isHard references) r) least most greedy
    | group i r => do
      push (.save (2 * i))
      compile references strict r
      push (.save (2 * i + 1))
    | backref i ignoreCase _ => push (.backref i ignoreCase)
    | look false negated r => Compile.look negated (compile references false r)
    | look true negated (alt rs) =>
      if (alt rs).extent.fixed then
        Compile.look negated (behind references (alt rs) (compile references false (alt rs)))
      else if negated then behindNone references rs
      else behindAny references rs
    | look true negated r =>
      Compile.look negated (behind references r (compile references false r))
    | atomic r => do
      push .beginAtomic
      compile references false r
      push .endAtomic
    | keepOut => push (.save 0)
    | groupSet i => push (.groupSet i)
    | conditional r yes no => do
      push .beginAtomic
      either
        (do
          compile references strict r
          push .endAtomic
          compile references strict yes)
        (compile references strict no)

/-- Appends expressions one after the other, but not the rigid ones in front if `leading` holds. The
plain ones at the end stand in one automaton, the rigid ones if all matches may be asked for. -/
def compileAll (references : List Nat) (strict leading : Bool) : List Regex → Compile Unit
  | [] => return
  | r :: rs =>
    if leading && r.isRigid references then compileAll references strict true rs
    else if (r :: rs).all fun r => !r.isHard references && (!strict || r.extent.fixed) then
      delegate (r :: rs)
    else do
      compile references true r
      compileAll references strict false rs

/-- Appends alternatives. -/
def compileAny (references : List Nat) (strict : Bool) : List Regex → Compile Unit
  | [] => return
  | [r] => compile references strict r
  | r :: rs => either (compile references strict r) (compileAny references strict rs)

/-- Appends a look at what is behind for each of the alternatives, of which one must match. -/
def behindAny (references : List Nat) : List Regex → Compile Unit
  | [] => return
  | [r] => Compile.look false (behind references r (compile references false r))
  | r :: rs =>
    either (Compile.look false (behind references r (compile references false r)))
      (behindAny references rs)

/-- Appends a look at what is behind for each of the alternatives, of which none may match. -/
def behindNone (references : List Nat) : List Regex → Compile Unit
  | [] => return
  | r :: rs => do
    Compile.look true (behind references r (compile references false r))
    behindNone references rs

end

/-- Whether an expression begins with the start of the text. -/
def isAnchored : Regex → Bool
  | assert .textStart | concat (assert .textStart :: _) => true
  | _ => false

end Regex

namespace Machine

open Compile

/-- The program of an expression with a number of groups: it tries every start from the first on,
unless the expression begins with the start of the text. -/
def ofRegex? (r : Regex) (groups : Nat) : Option Machine := do
  let build : Compile Unit := do
    unless r.isAnchored do
      push (.split 3 1)
      push (.one CharSet.any)
      push (.jump 0)
    push (.save 0)
    r.compile r.references false
    push (.save 1)
    push .accept
  let (_, d) ← build ⟨#[], 2 * (groups + 1)⟩
  return ⟨d.code, d.slots, groups⟩

end Machine

namespace Program

/-- The program of an expression with a number of groups; `none` if it cannot be built. The groups of
a plain expression behind the last one that a match may set do not count. -/
def ofRegex? (r : Regex) (groups : Nat) : Option Program :=
  if r.isHard r.references then (Machine.ofRegex? r groups).map hard
  else if r.fits then
    some (plain (Automaton.ofRegex false (.group 0 r)) (r.liveGroups.foldl max 0))
  else none

end Program

end LiveSnippet.Pattern
