import LiveSnippet.Text.Basic

/-!
# Searching in texts

Occurrences of a text in another are found from left to right and do not overlap. Each scan walks
the text once; after a hit it passes over the rest of the occurrence by counting down `skip`.

## Main definitions

* `Text.indexOf?`, `Text.holds`: the first occurrence
* `Text.occurrences`: the number of occurrences
* `Text.splitOn`: the pieces between occurrences
* `Text.replaceAll`, `Text.replaceFirst`
* `Text.join`: pieces with a separator between them
-/

namespace LiveSnippet.Text

/-- The index of the first occurrence of `needle`, counted on from `index`. -/
def indexFrom (needle : Text) (index : Nat) : Text → Option Nat
  | [] => if needle.isEmpty then some index else none
  | c :: rest =>
    if needle.isPrefixOf (c :: rest) then some index else indexFrom needle (index + 1) rest

/-- The index of the first occurrence of `needle`. The empty text occurs at 0. -/
def indexOf? (needle text : Text) : Option Nat := indexFrom needle 0 text

/-- Whether `needle` occurs in `text`. -/
def holds (needle text : Text) : Bool := (indexOf? needle text).isSome

/-- Counts occurrences, on from `count`, after passing over `skip` characters. -/
def occurrencesFrom (needle : Text) (count skip : Nat) : Text → Nat
  | [] => count
  | c :: rest =>
    match skip with
    | skip + 1 => occurrencesFrom needle count skip rest
    | 0 =>
      if needle.isPrefixOf (c :: rest) then
        occurrencesFrom needle (count + 1) (needle.length - 1) rest
      else occurrencesFrom needle count 0 rest

/-- The number of occurrences of `needle`. The empty text occurs before every character and at the
end. -/
def occurrences (needle text : Text) : Nat :=
  if needle.isEmpty then text.length + 1 else occurrencesFrom needle 0 0 text

/-- Splits at occurrences of `needle`, after passing over `skip` characters; `piece` is the piece
begun and `done` the pieces closed, both last first. -/
def splitFrom (needle : Text) (done : List Text) (piece : Text) (skip : Nat) : Text → List Text
  | [] => (piece.reverse :: done).reverse
  | c :: rest =>
    match skip with
    | skip + 1 => splitFrom needle done piece skip rest
    | 0 =>
      if needle.isPrefixOf (c :: rest) then
        splitFrom needle (piece.reverse :: done) [] (needle.length - 1) rest
      else splitFrom needle done (c :: piece) 0 rest

/-- The pieces of `text` between the occurrences of a separator that is not empty. -/
def splitOn (separator text : Text) : List Text := splitFrom separator [] [] 0 text

/-- Replaces occurrences of `needle`, after passing over `skip` characters; `done` is the result so
far, last character first. -/
def replaceFrom (needle replacement : Text) (done : Text) (skip : Nat) : Text → Text
  | [] => done.reverse
  | c :: rest =>
    match skip with
    | skip + 1 => replaceFrom needle replacement done skip rest
    | 0 =>
      if needle.isPrefixOf (c :: rest) then
        replaceFrom needle replacement (replacement.reverse ++ done) (needle.length - 1) rest
      else replaceFrom needle replacement (c :: done) 0 rest

/-- Replaces every occurrence of `needle`. -/
def replaceAll (needle replacement text : Text) : Text :=
  if needle.isEmpty then replacement ++ text.flatMap (fun c => c :: replacement)
  else replaceFrom needle replacement [] 0 text

/-- Replaces the first occurrence of `needle`. -/
def replaceFirst (needle replacement text : Text) : Text :=
  match indexOf? needle text with
  | some i => text.take i ++ replacement ++ text.drop (i + needle.length)
  | none => text

/-- The pieces one after another with `separator` between neighbours. -/
def join (separator : Text) (pieces : List Text) : Text := separator.intercalate pieces

end LiveSnippet.Text
