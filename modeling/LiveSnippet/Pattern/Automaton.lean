import LiveSnippet.Pattern.Syntax

/-!
# Automata for plain expressions

A plain expression is matched by an automaton that tries choices in order and visits no state twice
at one place, so that the work is bounded by the size of the automaton and of the text. There a loop
whose body may be empty is entered through a choice of its own, so that an empty first round counts.

An automaton reads towards the end of the text or, to find where a match must begin so as to end at
a given place, towards its start.

## Main definitions

* `Step`, `Automaton`, `Automaton.ofRegex`
* `Automaton.run`: the first match from a place, in the order of the choices
-/

namespace LiveSnippet.Pattern

/-- A state of an automaton. Addresses are indices of states. -/
inductive Step
  /-- Consumes a character of the set. -/
  | one (s : CharSet)
  | assert (a : Assertion)
  /-- Goes on at `first`, and at `second` if that fails. -/
  | split (first second : Nat)
  | jump (target : Nat)
  /-- Notes the place in a slot. -/
  | save (slot : Nat)
  | accept
deriving Repr

/-- The states of an automaton. -/
structure Automaton where
  code : Array Step
  /-- Whether it reads towards the start of the text. -/
  backward : Bool
deriving Repr

/-! ### Construction -/

/-- A construction that appends states. -/
abbrev Build := StateM (Array Step)

namespace Build

/-- The address of the next state. -/
def here : Build Nat := return (← get).size

/-- Appends a state. -/
def push (step : Step) : Build Unit := modify (·.push step)

/-- Puts another state at an address. -/
def patch (address : Nat) (step : Step) : Build Unit := modify (·.setIfInBounds address step)

/-- A choice between going into `inside` and going on at `outside`. -/
def choice (greedy : Bool) (inside outside : Nat) : Step :=
  if greedy then .split inside outside else .split outside inside

/-- Appends `count` copies, one after the other. -/
def copies (body : Build Unit) : (count : Nat) → Build Unit
  | 0 => return
  | n + 1 => do
    body
    copies body n

/-- Appends up to `count` rounds, each of which is a choice within the one before; gives the
addresses of the choices. -/
def optionalRounds (body : Build Unit) (entries : List Nat) : (count : Nat) → Build (List Nat)
  | 0 => return entries
  | n + 1 => do
    let entry ← here
    push (.jump entry)
    body
    optionalRounds body (entry :: entries) n

/-- Appends up to `count` rounds. -/
def optional (body : Build Unit) (greedy : Bool) (count : Nat) : Build Unit := do
  let entries ← optionalRounds body [] count
  let outside ← here
  for entry in entries do
    patch entry (choice greedy (entry + 1) outside)

/-- Appends one or more rounds. -/
def plus (body : Build Unit) (greedy : Bool) : Build Unit := do
  let start ← here
  body
  let back ← here
  push (choice greedy start (back + 1))

/-- Appends any number of rounds, none of which is empty. -/
def star (body : Build Unit) (greedy : Bool) : Build Unit := do
  let entry ← here
  push (.jump entry)
  body
  push (.jump entry)
  patch entry (choice greedy (entry + 1) (← here))

/-- Appends rounds between two bounds. -/
def rounds (nullable : Bool) (body : Build Unit) (least : Nat) (most : Option Nat)
    (greedy : Bool) : Build Unit :=
  match least, most with
  | least, some most => do
    copies body least
    optional body greedy (most - least)
  | 0, none => if nullable then optional (plus body greedy) greedy 1 else star body greedy
  | least + 1, none => do
    copies body least
    plus body greedy

end Build

namespace Regex

mutual

/-- Whether a plain expression consumes nothing in any match. -/
def alwaysEmpty : Regex → Bool
  | set _ => false
  | concat rs | alt rs => allEmpty rs
  | .repeat r _ most _ => r.alwaysEmpty || most == some 0
  | group _ r => r.alwaysEmpty
  | _ => true

/-- Whether expressions consume nothing in any match. -/
def allEmpty : List Regex → Bool
  | [] => true
  | r :: rs => r.alwaysEmpty && allEmpty rs

end

/-- The bounds of a loop: one round is enough for a body that consumes nothing. -/
def plainBounds (r : Regex) (least : Nat) (most : Option Nat) : Nat × Option Nat :=
  if r.alwaysEmpty then (min least 1, some (min (most.getD 1) 1)) else (least, most)

mutual

/-- Appends the states of a plain expression. -/
def build (backward : Bool) : Regex → Build Unit
  | set s => Build.push (.one s)
  | assert a => Build.push (.assert a)
  | concat rs => buildAll backward rs
  | alt rs => buildAny backward rs
  | .repeat r least most greedy =>
    let (least, most) := r.plainBounds least most
    Build.rounds (r.extent.least == 0) (build backward r) least most greedy
  | group i r => do
    Build.push (.save (if backward then 2 * i + 1 else 2 * i))
    build backward r
    Build.push (.save (if backward then 2 * i else 2 * i + 1))
  | _ => return

/-- Appends the states of expressions one after the other, in the direction of reading. -/
def buildAll (backward : Bool) : List Regex → Build Unit
  | [] => return
  | r :: rs =>
    if backward then do
      buildAll backward rs
      build backward r
    else do
      build backward r
      buildAll backward rs

/-- Appends the states of alternatives. -/
def buildAny (backward : Bool) : List Regex → Build Unit
  | [] => return
  | [r] => build backward r
  | r :: rs => do
    let fork ← Build.here
    Build.push (.jump fork)
    build backward r
    let leave ← Build.here
    Build.push (.jump leave)
    Build.patch fork (.split (fork + 1) (leave + 1))
    buildAny backward rs
    Build.patch leave (.jump (← Build.here))

end

mutual

/-- The groups of a plain expression that a match may set: loops that allow no round have none. -/
def liveGroups : Regex → List Nat
  | concat rs | alt rs => liveGroupsAll rs
  | .repeat r _ most _ => if most = some 0 then [] else r.liveGroups
  | group i r => i :: r.liveGroups
  | _ => []

/-- The groups of expressions that a match may set. -/
def liveGroupsAll : List Regex → List Nat
  | [] => []
  | r :: rs => r.liveGroups ++ liveGroupsAll rs

end

end Regex

/-- The automaton of a plain expression. -/
def Automaton.ofRegex (backward : Bool) (r : Regex) : Automaton :=
  ⟨(((r.build backward).run #[]).2).push .accept, backward⟩

/-! ### Runs -/

/-- The places noted in slots: the start and the end of each group. -/
abbrev Slots := Array (Option Nat)

/-- Whether an assertion holds at a place of a text, for a search that began at `origin`. -/
def Assertion.holds (text : Array Char) (origin place : Nat) (a : Assertion) : Bool :=
  let wordAhead := text[place]?.any isWordChar
  let wordBehind := place != 0 && text[place - 1]?.any isWordChar
  match a with
  | textStart => place == 0
  | textEnd => place == text.size
  | textEndLoose => (text.toList.drop place).all (· = '\n')
  | lineStart => place == 0 || text[place - 1]? == some '\n'
  | lineEnd => place == text.size || text[place]? == some '\n'
  | wordBoundary => wordAhead != wordBehind
  | notWordBoundary => wordAhead == wordBehind
  | wordStart => wordAhead && !wordBehind
  | wordEnd => wordBehind && !wordAhead
  | wordStartHalf => !wordBehind
  | wordEndHalf => !wordAhead
  | searchStart => place ≤ origin

namespace Automaton

/-- Where a run goes on. -/
structure Thread where
  /-- The address of the next state. -/
  address : Nat
  /-- The place in the text. -/
  place : Nat
  slots : Slots

/-- What is left to do: where the run goes on, the open choices with the last one first, and the
states visited, by place and address. -/
structure Progress where
  threads : List Thread
  visited : ByteArray

/-- The threads to go on with behind a step, the last one opened first, if the automaton reads up to
`limit`. -/
def next (text : Array Char) (limit : Nat) (backward : Bool) (t : Thread) : Step → List Thread
  | .one s =>
    let place := if backward then t.place - 1 else t.place
    let inside := if backward then t.place != 0 else decide (t.place < limit)
    match text[place]?, inside with
    | some c, true =>
      if s.contains c then
        [{ t with address := t.address + 1, place := if backward then place else place + 1 }]
      else []
    | _, _ => []
  | .assert a =>
    if a.holds text 0 t.place then [{ t with address := t.address + 1 }] else []
  | .split first second => [{ t with address := first }, { t with address := second }]
  | .jump target => [{ t with address := target }]
  | .save slot =>
    [{ t with address := t.address + 1, slots := t.slots.setIfInBounds slot (some t.place) }]
  | .accept => []

/-- Makes steps, at most as many as `fuel` says: the thread that accepts, if there is one, and what
is left to do. -/
def steps (a : Automaton) (text : Array Char) (limit : Nat) (fuel : Nat) (p : Progress) :
    Option Thread × Progress :=
  match fuel, p.threads with
  | 0, _ | _, [] => (none, p)
  | fuel + 1, t :: threads =>
    let state := t.place * a.code.size + t.address
    if p.visited[state]?.getD 1 ≠ 0 then steps a text limit fuel { p with threads }
    else
      let visited := p.visited.set! state 1
      match a.code[t.address]? with
      | none => steps a text limit fuel ⟨threads, visited⟩
      | some .accept => (some t, ⟨threads, visited⟩)
      | some step =>
        steps a text limit fuel ⟨next text limit a.backward t step ++ threads, visited⟩

/-- The number of the states at all places of a text. -/
def stateCount (a : Automaton) (text : Array Char) : Nat := a.code.size * (text.size + 1)

/-- No state is visited. -/
def unvisited (a : Automaton) (text : Array Char) : ByteArray :=
  ⟨Array.replicate (a.stateCount text) 0⟩

/-- The first match from a place on in the order of the choices, with the slots that it sets, and the
states visited. Every state opens two threads at most. -/
def run (a : Automaton) (text : Array Char) (limit place : Nat) (slots : Slots)
    (visited : ByteArray) : Option Thread × ByteArray :=
  let (found, p) := a.steps text limit (2 * a.stateCount text + 2) ⟨[⟨0, place, slots⟩], visited⟩
  (found, p.visited)

/-- The first match from a place on in the order of the choices. -/
def runAt (a : Automaton) (text : Array Char) (limit place : Nat) (slots : Slots) :
    Option Thread :=
  (a.run text limit place slots (a.unvisited text)).1

end Automaton

end LiveSnippet.Pattern
