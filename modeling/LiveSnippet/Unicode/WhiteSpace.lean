import LiveSnippet.Unicode.RangeTable

/-!
# White space

White space is the property `White_Space`; it includes every line break.

## Main definitions

* `isWhiteSpace`
-/

namespace LiveSnippet.Unicode

/-- The ranges of `White_Space`. -/
def whiteSpaceRanges : RangeTable := [
  (0x9, 0xD), (0x20, 0x20), (0x85, 0x85), (0xA0, 0xA0), (0x1680, 0x1680), (0x2000, 0x200A),
  (0x2028, 0x2029), (0x202F, 0x202F), (0x205F, 0x205F), (0x3000, 0x3000)]

/-- Whether `c` is white space. -/
def isWhiteSpace (c : Char) : Bool := whiteSpaceRanges.contains c

end LiveSnippet.Unicode
