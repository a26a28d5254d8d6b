import LiveSnippet.Text.Basic
import LiveSnippet.Unicode.GraphemeExtend
import LiveSnippet.Unicode.Printable

/-!
# Quoted texts

A text between double quotes in which quotes, backslashes, control characters and characters that
would not show are written as escapes.

## Main definitions

* `Text.quoteChar`, `Text.quote`
-/

namespace LiveSnippet.Text

/-- The escape that names a character by its code point. -/
def codeEscape (c : Char) : Text := "\\u\x7b".toList ++ Nat.toDigits 16 c.toNat ++ ['\x7d']

/-- One character as it stands between quotes. -/
def quoteChar (c : Char) : Text :=
  if c = '"' then ['\\', '"']
  else if c = '\\' then ['\\', '\\']
  else if c = '\n' then ['\\', 'n']
  else if c = '\r' then ['\\', 'r']
  else if c = '\t' then ['\\', 't']
  else if c = '\x00' then ['\\', '0']
  else if Unicode.isGraphemeExtend c || !Unicode.isPrintable c then codeEscape c
  else [c]

/-- The text between double quotes. -/
def quote (text : Text) : Text := '"' :: text.flatMap quoteChar ++ ['"']

end LiveSnippet.Text
