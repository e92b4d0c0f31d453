/-
  StyleCheck.Text.Quoted — a text in quotes, as messages show it.

  The quotes are single ones, unless the text holds a single quote and no double quote. The quote,
  the backslash and characters that cannot be printed are escaped.
-/

import StyleCheck.Text.Basic
import StyleCheck.Text.Printable

namespace StyleCheck.Text

namespace Quoted

def hexDigit (n : Nat) : Char := Nat.digitChar (n % 16)

/-- `n` in hexadecimal notation, with `places` digits. -/
def hex (n : Nat) : (places : Nat) → Text
  | 0 => []
  | places + 1 => hex (n / 16) places ++ [hexDigit n]

def escape (quote c : Char) : Text :=
  if c == quote || c == '\\' then ['\\', c]
  else if c == '\t' then ['\\', 't']
  else if c == '\n' then ['\\', 'n']
  else if c == '\r' then ['\\', 'r']
  else if isPrintable c then [c]
  else if c.toNat < 0x100 then '\\' :: 'x' :: hex c.toNat 2
  else if c.toNat < 0x10000 then '\\' :: 'u' :: hex c.toNat 4
  else '\\' :: 'U' :: hex c.toNat 8

def quoteFor (s : Text) : Char := if s.contains '\'' && !s.contains '"' then '"' else '\''

end Quoted

def quoted (s : Text) : Text :=
  let quote := Quoted.quoteFor s
  quote :: s.flatMap (Quoted.escape quote) ++ [quote]

/-- A list of quoted texts in square brackets. -/
def quotedList (ss : List Text) : Text :=
  '[' :: joinWith ", ".toList (ss.map quoted) ++ [']']

end StyleCheck.Text
