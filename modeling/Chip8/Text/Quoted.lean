import Chip8.Text.Printable

/-!
# Quoted text

A text is shown in messages between quotes.  Single quotes are used unless the text holds one and
no double quote.  The quote in use and the backslash are marked by a backslash, line ends and
tabulators have letters of their own, and any other character that is not printable is shown by
its code point in two, four or eight lower-case hexadecimal digits.
-/
namespace Chip8.Text

def singleQuote : Char := '\x27'
def doubleQuote : Char := '\x22'
def backslash : Char := '\x5c'

/-- The quote that surrounds a text. -/
def quoteFor (s : List Char) : Char :=
  if s.contains singleQuote && !s.contains doubleQuote then doubleQuote else singleQuote

/-- The last `width` lower-case hexadecimal digits of `n`. -/
def codeDigits : Nat → Nat → List Char
  | 0, _ => []
  | width + 1, n => codeDigits width (n / 16) ++ [Nat.digitChar (n % 16)]

/-- How one character is shown between quotes. -/
def escape (quote c : Char) : List Char :=
  if c = quote || c = backslash then [backslash, c]
  else if c = '\n' then [backslash, 'n']
  else if c = '\r' then [backslash, 'r']
  else if c = '\t' then [backslash, 't']
  else if printable.contains c then [c]
  else if c.toNat < 0x100 then backslash :: 'x' :: codeDigits 2 c.toNat
  else if c.toNat < 0x10000 then backslash :: 'u' :: codeDigits 4 c.toNat
  else backslash :: 'U' :: codeDigits 8 c.toNat

/-- The text between quotes. -/
def quoted (s : String) : String :=
  let quote := quoteFor s.toList
  String.ofList (quote :: s.toList.flatMap (escape quote) ++ [quote])

end Chip8.Text
