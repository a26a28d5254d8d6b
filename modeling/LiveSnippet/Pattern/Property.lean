import LiveSnippet.Pattern.CharSet
import LiveSnippet.Pattern.Property.Age
import LiveSnippet.Pattern.Property.Segmentation
import LiveSnippet.Text.Search

/-!
# Properties by name

A pattern names a class of characters by a property that holds of them, or by a property and its
value. Case, blanks, underscores and hyphens do not matter in names, nor does `is` in front.

## Main definitions

* `normalName`: the form in which names are compared
* `propertySet?`: the class with a name
-/

namespace LiveSnippet.Pattern

/-- The normal form of a name: its ASCII characters in small letters, without separators and without
`is` in front. The name `isc` stands for itself. -/
def normalName (name : Text) : String :=
  let plain := fun (text : Text) =>
    (text.filter fun c => c.toNat < 128 && c ≠ ' ' && c ≠ '_' && c ≠ '-').map Char.toLower
  match name with
  | i :: s :: rest =>
    if i.toLower = 'i' && s.toLower = 's' then
      if plain rest = ['c'] then "isc" else String.ofList (plain rest)
    else String.ofList (plain name)
  | name => String.ofList (plain name)

/-- The characters of the general category that is called `name`. -/
def categorySet? (name : String) : Option CharSet :=
  match name with
  | "any" => some CharSet.any
  | "assigned" => some (categoryRanges ["Cn"]).compl
  | "ascii" => some (CharSet.range '\x00' '\x7f')
  | name => (categoryCodes? name).map categoryRanges

/-- The characters with the property that is called `name`, or of the general category or script of
that name. -/
def namedSet? (name : String) : Option CharSet :=
  binaryRanges? name <|> categorySet? name <|> (scriptCode? name).map scriptRanges

/-- The characters for which the property that is called `name` has the value `value`. -/
def valuedSet? (name value : String) : Option CharSet :=
  match name with
  | "generalcategory" | "gc" => categorySet? value
  | "script" | "sc" => (scriptCode? value).map scriptRanges
  | "scriptextensions" | "scx" => (scriptCode? value).map scriptExtensionRanges
  | "age" => ageRanges? value
  | "graphemeclusterbreak" | "gcb" => graphemeBreakRanges? value
  | "wordbreak" | "wb" => wordBreakRanges? value
  | "sentencebreak" | "sb" => sentenceBreakRanges? value
  | _ => none

/-- What stands before and behind the first place where `mark` stands. -/
def cutAt? (mark text : Text) : Option (Text × Text) :=
  (Text.indexOf? mark text).map fun i => (text.take i, text.drop (i + mark.length))

/-- The class of characters that a description stands for: a name, or a name and a value with an
equals sign, a colon or, for all other characters, an exclamation mark and an equals sign between
them. Tells besides whether it is the class of all other characters. -/
def propertySet? (description : Text) : Option (CharSet × Bool) :=
  match cutAt? ['!', '='] description with
  | some (name, value) => (valuedSet? (normalName name) (normalName value)).map (·, true)
  | none =>
    let set := match cutAt? [':'] description <|> cutAt? ['='] description with
      | some (name, value) => valuedSet? (normalName name) (normalName value)
      | none => namedSet? (normalName description)
    set.map (·, false)

end LiveSnippet.Pattern
