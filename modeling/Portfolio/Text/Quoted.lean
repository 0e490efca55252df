/-
  File:      Portfolio/Text/Quoted.lean
  Subject:   A text between quotes, on one line and readable back.

  * Single quotes, or double quotes when the text holds a single quote and
    no double one.
  * A backslash before the quote in use, before a backslash, and in the
    short forms for newline, carriage return and tab.
  * Any other character that is not printable by its code point, in two,
    four or eight hexadecimal digits.
-/
import Portfolio.Text.Case
import Portfolio.Text.PrintableTable

namespace Portfolio.Text

/-- A character that can be shown as it is. -/
def isPrintable (c : Char) : Bool :=
  if c.toNat < 0x80 then 0x20 ≤ c.toNat && c.toNat ≤ 0x7e
  else inRanges printableRanges c.toNat

/-- A number in hexadecimal, filled up with zeros to a width. -/
def hex (width n : Nat) : List Char :=
  let digits := Nat.toDigits 16 n
  List.replicate (width - digits.length) '0' ++ digits

/-- A character between quotes of the given kind. -/
def quotedChar (quote c : Char) : List Char :=
  if c = quote || c = '\\' then ['\\', c]
  else if c = '\n' then ['\\', 'n']
  else if c = '\r' then ['\\', 'r']
  else if c = '\t' then ['\\', 't']
  else if isPrintable c then [c]
  else if c.toNat < 0x100 then '\\' :: 'x' :: hex 2 c.toNat
  else if c.toNat < 0x10000 then '\\' :: 'u' :: hex 4 c.toNat
  else '\\' :: 'U' :: hex 8 c.toNat

/-- The kind of quote for a text. -/
def quoteFor (s : List Char) : Char :=
  if s.contains '\'' && !s.contains '"' then '"' else '\''

/-- A text between quotes. -/
def quoted (s : String) : String :=
  let quote := quoteFor s.toList
  String.ofList (quote :: s.toList.flatMap (quotedChar quote) ++ [quote])

end Portfolio.Text
