/- # Quoted texts

The quoted form in which messages show a text: between apostrophes, or between double quotes when
the text holds an apostrophe and no double quote.  The quote in use and the backslash are written
after a backslash, tab, line feed and carriage return by their letters, and each other code point that
is no printable character by its code.  So a quoted text consists of characters.
-/
import SchemaScript.Text.Basic
import SchemaScript.Text.Numeral
import SchemaScript.Text.Printable

namespace SchemaScript.Text

/-- The quote around a text: the double quote if only the apostrophe occurs in it. -/
def quoteFor (t : Text) : Char :=
  if t.contains (.char '\x27') && !t.contains (.char '"') then '"' else '\x27'

/-- The escape of a code point by its code, in two, four or eight hexadecimal digits. -/
def codeEscape (code : Nat) : List Char :=
  if code < 0x100 then '\\' :: 'x' :: numeral 16 2 code
  else if code < 0x10000 then '\\' :: 'u' :: numeral 16 4 code
  else '\\' :: 'U' :: numeral 16 8 code

/-- One character inside quotes; `shown` says which characters appear as they are. -/
def quotedChar (shown : Char → Bool) (quote c : Char) : List Char :=
  if c = quote || c = '\\' then ['\\', c]
  else if c = '\t' then ['\\', 't']
  else if c = '\n' then ['\\', 'n']
  else if c = '\r' then ['\\', 'r']
  else if shown c then [c]
  else codeEscape c.toNat

/-- One code point inside quotes; a half never appears as it is. -/
def quotedPoint (shown : Char → Bool) (quote : Char) : Point → List Char
  | .char c => quotedChar shown quote c
  | .half i => codeEscape (Point.half i).code

/-- The quoted form, with the characters in `shown` as they are. -/
def quotedWith (shown : Char → Bool) (t : Text) : String :=
  let quote := quoteFor t
  String.ofList (quote :: t.flatMap (quotedPoint shown quote) ++ [quote])

/-- Whether a character is printable and of ASCII. -/
def isPrintableAscii (c : Char) : Bool := isPrintable c && decide (c.toNat < 128)

/-- The quoted form of a text. -/
def quoted (t : Text) : String := quotedWith isPrintable t

/-- The quoted form of a text in ASCII characters only. -/
def quotedAscii (t : Text) : String := quotedWith isPrintableAscii t

end SchemaScript.Text
