import LiveSnippet.Unicode.Alphabetic
import LiveSnippet.Unicode.Numeric

/-!
# Letters and numbers

Identifiers and trigger words are made of alphanumeric characters.

## Main definitions

* `isAlphanumeric`
-/

namespace LiveSnippet.Unicode

/-- Whether `c` is alphabetic or a number character. -/
def isAlphanumeric (c : Char) : Bool := isAlphabetic c || isNumeric c

end LiveSnippet.Unicode
