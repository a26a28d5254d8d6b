import LiveSnippet.Unicode.WhiteSpace

/-!
# Texts

A text is a list of characters, so that positions in it count characters and never bytes. The byte
size is a measure of a text; lines and trimming are the operations by which template files are
read.

## Main definitions

* `Text`, `Text.byteSize`
* `Text.trimStart`, `Text.trimEnd`, `Text.trim`
* `Text.lines`: the lines of a file, without their breaks
* `Text.ofNat`, `Text.ofInt`: decimal numerals
-/

namespace LiveSnippet

/-- A sequence of characters. -/
abbrev Text := List Char

namespace Text

/-- The size of the text in UTF-8. -/
def byteSize (text : Text) : Nat := text.foldr (fun c size => c.utf8Size + size) 0

/-- The text without leading white space. -/
def trimStart (text : Text) : Text := text.dropWhile Unicode.isWhiteSpace

/-- The text without trailing white space. -/
def trimEnd (text : Text) : Text := (text.reverse.dropWhile Unicode.isWhiteSpace).reverse

/-- The text without white space at either end. -/
def trim (text : Text) : Text := text.trimStart.trimEnd

/-- Whether the text has no character that is not white space. -/
def isBlank (text : Text) : Bool := text.all Unicode.isWhiteSpace

/-- The line whose characters, last first, stand before a line feed; a carriage return belongs to
the break. -/
def closeLine : Text → Text
  | '\r' :: line => line.reverse
  | line => line.reverse

/-- The lines of `line.reverse` followed by the given text, where `line` holds the characters since
the last break, last first. -/
def linesFrom (line : Text) : Text → List Text
  | [] => if line.isEmpty then [] else [line.reverse]
  | c :: rest => if c = '\n' then closeLine line :: linesFrom [] rest else linesFrom (c :: line) rest

/-- The lines of a file. LF and CRLF end a line; a last line without a break counts when it is not
empty. -/
def lines (text : Text) : List Text := linesFrom [] text

/-- The decimal numeral of a natural number. -/
def ofNat (n : Nat) : Text := Nat.toDigits 10 n

/-- The decimal numeral of an integer, with a minus sign if it is negative. -/
def ofInt : Int → Text
  | .ofNat n => ofNat n
  | .negSucc n => '-' :: ofNat (n + 1)

/-- The value of a text of ASCII digits; `none` for the empty text and for any other character. -/
def toNat? (text : Text) : Option Nat :=
  if text.isEmpty || !text.all Char.isDigit then none
  else some (text.foldl (fun n c => 10 * n + (c.toNat - '0'.toNat)) 0)

end Text

end LiveSnippet
