import LiveSnippet.Pattern.Program
import LiveSnippet.Text.Basic

/-!
# Searching with patterns

An automaton tries every start and visits no state twice. The machine of a hard pattern keeps its
choices open: when it fails it returns to the last one, and it gives up when too many choices are open
at once or were returned to.

## Main definitions

* `Captures`: the spans of a match and of its groups
* `Machine.step`, `Machine.search?`
* `Program.search?`
-/

namespace LiveSnippet.Pattern

/-- The spans of the whole match and of the groups. -/
abbrev Captures := List (Option (Nat × Nat))

/-- The spans that the slots of a number of groups note. -/
def Slots.captures (slots : Slots) (groups : Nat) : Captures :=
  (List.range (groups + 1)).map fun i =>
    match slots[2 * i]?.join, slots[2 * i + 1]?.join with
    | some first, some last => some (first, last)
    | _, _ => none

/-- No slot of a number of slots notes a place. -/
def Slots.cleared (count : Nat) : Slots := Array.replicate count none

/-- The slots without those of the groups. -/
def Slots.without (slots : Slots) (groups : List Nat) : Slots :=
  groups.foldl (fun slots i =>
    (slots.setIfInBounds (2 * i) none).setIfInBounds (2 * i + 1) none) slots

/-! ### Back-references -/

/-- Whether two characters differ in case at most. -/
def sameFold (a b : Char) : Bool := fold a == fold b

/-- Whether `part` stands somewhere in a text, without regard to case. -/
def occursFolded (part : Text) : Text → Bool
  | [] => part.isEmpty
  | c :: rest =>
    let front := (c :: rest).take part.length
    front.length == part.length && (part.zip front).all (fun (a, b) => sameFold a b)
      || occursFolded part rest

/-- The characters in front that take up a number of bytes. -/
def takeBytes? (bytes : Nat) : Text → Option Text
  | [] => if bytes = 0 then some [] else none
  | c :: rest =>
    if bytes = 0 then some []
    else if c.utf8Size ≤ bytes then (takeBytes? (bytes - c.utf8Size) rest).map (c :: ·)
    else none

/-- Whether a text of the same size stands for `part` again without regard to case. Outside ASCII it
is enough that `part` occurs in it. -/
def matchesFolded (part text : Text) : Bool :=
  if text.all (·.toNat < 0x80) then part.map Char.toLower == text.map Char.toLower
  else occursFolded part text

/-- The number of characters in front of `rest` that are `part` again. -/
def repeated? (ignoreCase : Bool) (part rest : Text) : Option Nat :=
  if part.isPrefixOf rest then some part.length
  else if ignoreCase then
    ((takeBytes? part.byteSize rest).filter (matchesFolded part)).map List.length
  else none

/-! ### The machine -/

namespace Machine

/-- Where the machine goes on. -/
structure Point where
  /-- The address of the next instruction. -/
  address : Nat
  /-- The place in the text. -/
  place : Nat
  slots : Slots
  /-- The numbers of choices that were open at the marks, the last one first. -/
  marks : List Nat

/-- What an instruction leads to. -/
inductive Effect
  | next (p : Point)
  /-- Goes on at the point, and leaves a choice open. -/
  | fork (p choice : Point)
  /-- Goes on at the point, with a number of choices left open. -/
  | cut (p : Point) (choices : Nat)
  /-- Gives up the choices up to the one with an address, and returns to the one before. -/
  | refuse (address : Nat)
  | fail
  | accept

/-- Goes on behind the instruction, at a place. -/
def Point.move (p : Point) (place : Nat) : Point := { p with address := p.address + 1, place }

/-- Goes on at an address. -/
def Point.goTo (p : Point) (address : Nat) : Point := { p with address }

/-- Notes a number in a slot. -/
def Point.note (p : Point) (slot n : Nat) : Point :=
  { p with slots := p.slots.setIfInBounds slot (some n) }

/-- The number in a slot. -/
def Point.noted? (p : Point) (slot : Nat) : Option Nat := p.slots[slot]?.join

/-- Goes into a round or on at `exit`; either stays open as a choice if `free` holds. -/
def Point.enter (p : Point) (greedy free : Bool) (exit : Nat) : Effect :=
  match free, greedy with
  | false, _ => .next (p.move p.place)
  | true, true => .fork (p.move p.place) (p.goTo exit)
  | true, false => .fork (p.goTo exit) (p.move p.place)

/-- What an instruction does at a point, in a search that began at `origin`, with a number of choices
open. -/
def effect (text : Array Char) (origin opened : Nat) (p : Point) : Instruction → Effect
  | .one s => if text[p.place]?.any s.contains then .next (p.move (p.place + 1)) else .fail
  | .assert a => if a.holds text origin p.place then .next (p.move p.place) else .fail
  | .split first second => .fork (p.goTo first) (p.goTo second)
  | .jump target => .next (p.goTo target)
  | .save slot => .next ((p.note slot p.place).move p.place)
  | .restore slot => .next (p.move ((p.noted? slot).getD p.place))
  | .back count => if count ≤ p.place then .next (p.move (p.place - count)) else .fail
  | .run a groups =>
    match a.runAt text text.size p.place (p.slots.without groups) with
    | some t => .next ({ p with slots := t.slots }.move t.place)
    | none => .fail
  | .runBack a forward groups =>
    match a.runAt text text.size p.place p.slots with
    | none => .fail
    | some t =>
      if groups.isEmpty then .next (p.move t.place)
      else
        let slots := (forward.runAt text p.place t.place (p.slots.without groups)).elim
          p.slots (·.slots)
        .next ({ p with slots }.move t.place)
  | .backref group ignoreCase =>
    match p.noted? (2 * group), p.noted? (2 * group + 1) with
    | some first, some last =>
      if last < first then .fail
      else
        match repeated? ignoreCase (text.extract first last).toList (text.toList.drop p.place) with
        | some count => .next (p.move (p.place + count))
        | none => .fail
    | _, _ => .fail
  | .groupSet group =>
    if (p.noted? (2 * group)).isSome then .next (p.move p.place) else .fail
  | .beginAtomic => .next ({ p with marks := opened :: p.marks }.move p.place)
  | .endAtomic =>
    match p.marks with
    | [] => .fail
    | mark :: marks => .cut ({ p with marks }.move p.place) mark
  | .refuse => .refuse (p.address + 1)
  | .reset counter => .next ((p.note counter 0).move p.place)
  | .round least most greedy counter exit =>
    let count := (p.noted? counter).getD 0
    if most = some count then .next (p.goTo exit)
    else (p.note counter (count + 1)).enter greedy (least ≤ count) exit
  | .emptyRound least greedy counter start exit =>
    let count := (p.noted? counter).getD 0
    if least < count && p.noted? start = some p.place then .next (p.goTo exit)
    else
      let p' := p.note counter (count + 1)
      if least ≤ count then (p'.note start p.place).enter greedy true exit
      else p'.enter greedy false exit
  | .accept => .accept

/-- What a search found. -/
inductive Outcome
  | found (slots : Slots)
  | nothing
  /-- Too much was tried. -/
  | givenUp

/-- The most choices that may be open at once. -/
def maxChoices : Nat := 1000000

/-- How often the machine may return to a choice. -/
def maxReturns : Nat := 1000000

/-- The state of a search. -/
structure State where
  point : Point
  /-- The open choices, the last one first. -/
  choices : List Point
  /-- The number of open choices. -/
  opened : Nat
  /-- How often the machine may still return to a choice. -/
  returns : Nat

/-- Returns to the last choice. -/
def State.back (s : State) : Except Outcome State :=
  match s.choices, s.returns with
  | [], _ => .error .nothing
  | _, 0 => .error .givenUp
  | point :: choices, returns + 1 => .ok ⟨point, choices, s.opened - 1, returns⟩

/-- Gives up the choices up to the one that goes on at an address, and returns to the one before. -/
def State.refuse (address : Nat) (s : State) : Except Outcome State :=
  let count := (s.choices.takeWhile (·.address ≠ address)).length + 1
  { s with choices := s.choices.drop count, opened := s.opened - count }.back

/-- One step of the machine. -/
def step (m : Machine) (text : Array Char) (origin : Nat) (s : State) : Except Outcome State :=
  match m.code[s.point.address]? with
  | none => .error .nothing
  | some i =>
    match effect text origin s.opened s.point i with
    | .next p => .ok { s with point := p }
    | .fork p choice =>
      if s.opened < maxChoices then
        .ok { s with point := p, choices := choice :: s.choices, opened := s.opened + 1 }
      else .error .givenUp
    | .cut p choices =>
      .ok { s with point := p, choices := s.choices.drop (s.opened - choices), opened := choices }
    | .refuse address => s.refuse address
    | .fail => s.back
    | .accept => .error (.found s.point.slots)

/-- Makes steps, at most as many as `fuel` says. -/
def steps (m : Machine) (text : Array Char) (origin : Nat) : (fuel : Nat) → State → Outcome
  | 0, _ => .givenUp
  | fuel + 1, s =>
    match m.step text origin s with
    | .error outcome => outcome
    | .ok s => steps m text origin fuel s

/-- More steps than a search makes before it has opened or returned to too many choices: between two
of them every instruction is executed at most once for each round that a loop counts. -/
def maxSteps : Nat := Nat.pow 2 60

/-- The first match that begins at `origin` or behind. A match that was to begin behind its end is
empty. -/
def search? (m : Machine) (text : Array Char) (origin : Nat) : Option Captures :=
  let start : Point := ⟨0, origin, .cleared m.slots, []⟩
  match m.steps text origin maxSteps ⟨start, [], 0, maxReturns⟩ with
  | .found slots =>
    match slots.captures m.groups with
    | some (first, last) :: groups => some (some (min first last, last) :: groups)
    | captures => some captures
  | _ => none

end Machine

/-! ### Automata -/

namespace Automaton

/-- The first match that begins at one of the places from `place` on. -/
def searchFrom? (a : Automaton) (text : Array Char) (slots : Slots) :
    (places place : Nat) → (visited : ByteArray) → Option Slots
  | 0, _, _ => none
  | places + 1, place, visited =>
    match a.run text text.size place slots visited with
    | (some t, _) => some t.slots
    | (none, visited) => searchFrom? a text slots places (place + 1) visited

/-- The first match that begins at `origin` or behind. -/
def search? (a : Automaton) (groups : Nat) (text : Array Char) (origin : Nat) : Option Captures :=
  (a.searchFrom? text (.cleared (2 * (groups + 1))) (text.size + 1 - origin) origin
    (a.unvisited text)).map (·.captures groups)

end Automaton

/-- The first match that begins at `origin` or behind. -/
def Program.search? (p : Program) (text : Array Char) (origin : Nat) : Option Captures :=
  match p with
  | .plain a groups => a.search? groups text origin
  | .hard m => m.search? text origin

end LiveSnippet.Pattern
