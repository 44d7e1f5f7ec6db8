import TemplateLint.Text.Basic
import TemplateLint.Text.Printable

/-!
# Quoted texts

In a message a text stands between single quotes, or between double quotes if it holds a single
quote and no double quote. The quote in use and the backslash are written behind a backslash,
three control characters by a letter, and other characters that are not printable by their code
point in hexadecimal.
-/

namespace TemplateLint.Text

/-- The quote to put around a text. -/
def quoteFor (s : Text) : Char := if s.contains '\'' && !s.contains '"' then '"' else '\''

/-- A code point in hexadecimal, two, four or eight digits wide. -/
def escapeCode (n : Nat) : Text :=
  if n < 0x100 then '\\' :: 'x' :: ofHex 2 n
  else if n < 0x10000 then '\\' :: 'u' :: ofHex 4 n
  else '\\' :: 'U' :: ofHex 8 n

/-- A character between quotes. -/
def quoteChar (quote c : Char) : Text :=
  if c = quote ∨ c = '\\' then ['\\', c]
  else if c = '\n' then ['\\', 'n']
  else if c = '\r' then ['\\', 'r']
  else if c = '\t' then ['\\', 't']
  else if isPrintable c then [c]
  else escapeCode c.toNat

/-- A text between quotes. -/
def quoted (s : Text) : Text :=
  let quote := quoteFor s
  quote :: s.flatMap (quoteChar quote) ++ [quote]

end TemplateLint.Text
