/-
A text between quotes, as error messages show it: single quotes, unless
the text holds a single quote and no double one; what cannot be printed
as it stands is escaped.
-/
import TestDraft.Text.Printable

namespace TestDraft.Text

def singleQuote : Char := '\x27'

def doubleQuote : Char := '\x22'

/-- The number in lower-case hexadecimal, with zeros in front up to the
given width. -/
def hex (width n : Nat) : List Char :=
  (Nat.toDigits 16 n).leftpad width '0'

/-- The escape of a character by its code point: two, four or eight
hexadecimal digits, the shortest form that holds it. -/
def escapeCode (c : Char) : List Char :=
  if c.toNat < 0x100 then '\\' :: 'x' :: hex 2 c.toNat
  else if c.toNat < 0x10000 then '\\' :: 'u' :: hex 4 c.toNat
  else '\\' :: 'U' :: hex 8 c.toNat

/-- How a character stands inside the given quotes. -/
def escape (quote c : Char) : List Char :=
  if c = quote ∨ c = '\\' then ['\\', c]
  else if c = '\t' then ['\\', 't']
  else if c = '\n' then ['\\', 'n']
  else if c = '\r' then ['\\', 'r']
  else if isPrintable c then [c]
  else escapeCode c

/-- The quote that a text is put between. -/
def quoteFor (l : List Char) : Char :=
  if singleQuote ∈ l ∧ doubleQuote ∉ l then doubleQuote else singleQuote

def quoted (s : String) : String :=
  let quote := quoteFor s.toList
  String.ofList (quote :: s.toList.flatMap (escape quote) ++ [quote])

example : quoted "a\tb\u00ad" = "'a\\tb\\xad'" := by decide +kernel

end TestDraft.Text
