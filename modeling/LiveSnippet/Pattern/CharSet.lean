import LiveSnippet.Pattern.Property.Binary
import LiveSnippet.Pattern.Property.CaseFolding

/-!
# Sets of characters in patterns

What one step of a pattern may consume.

## Main definitions

* `CharSet`
* `CharSet.ascii?`: the classes of ASCII characters by their names
-/

namespace LiveSnippet.Pattern

/-- A set of characters. -/
abbrev CharSet := Unicode.RangeTable

namespace CharSet

/-- The set without a member. -/
def none : CharSet := []

/-- The characters from `first` to `last`. -/
def range (first last : Char) : CharSet := [(first.toNat, last.toNat)]

/-- The set of one character. -/
def single (c : Char) : CharSet := range c c

/-- The set of all characters. -/
def any : CharSet := Unicode.RangeTable.compl none

/-- The set of all characters that do not end a line. -/
def notLineFeed : CharSet := Unicode.RangeTable.compl (single '\n')

/-- The union of sets. -/
def unions (sets : List CharSet) : CharSet := Unicode.RangeTable.ofRanges sets.flatten

/-- The set, with all case variants of its members if `ignoreCase` says so. -/
def withCase (ignoreCase : Bool) (a : CharSet) : CharSet := if ignoreCase then closeCase a else a

/-- The set or, if `negated` says so, all other characters. -/
def negateIf (negated : Bool) (a : CharSet) : CharSet := if negated then a.compl else a

/-- The decimal digits. -/
def digit : CharSet := categoryRanges ["Nd"]

/-- The blanks. -/
def space : CharSet := Unicode.whiteSpaceRanges

/-- The word characters: letters and their like, marks, digits, connectors and joiners. -/
def word : CharSet :=
  unions [Binary.alphabetic, categoryRanges ["Mc", "Me", "Mn", "Nd", "Pc"], [(0x200C, 0x200D)]]

/-- The hexadecimal digits. -/
def hexDigits : CharSet := Binary.asciiHexDigit

/-- The ASCII class that is called `name` between colons. -/
def ascii? (name : String) : Option CharSet :=
  let alpha := unions [range 'A' 'Z', range 'a' 'z']
  let digit := range '0' '9'
  [("alnum", unions [alpha, digit]), ("alpha", alpha), ("ascii", range '\x00' '\x7f'),
    ("blank", unions [single '\t', single ' ']),
    ("cntrl", unions [range '\x00' '\x1f', single '\x7f']), ("digit", digit),
    ("graph", range '!' '~'), ("lower", range 'a' 'z'), ("print", range ' ' '~'),
    ("punct", (range '!' '~').diff (unions [alpha, digit])),
    ("space", unions [range '\t' '\r', single ' ']), ("upper", range 'A' 'Z'),
    ("word", unions [alpha, digit, single '_']), ("xdigit", hexDigits)].lookup name

end CharSet

/-- Whether a character is a word character of patterns. -/
def isWordChar (c : Char) : Bool := CharSet.word.contains c

end LiveSnippet.Pattern
