/-
  StyleCheck.Text.LineBreak — where a text is cut into lines.

  There are three customs: lines end at a line feed only (`feedLines`), at a line feed or a return
  (`plainLines`), or at any character that ends a line or a page (`brokenLines`), which then stays
  at the end of its line. A return and a line feed after it are one line end; where blank lines do
  not matter they may also be taken for two.
-/

import StyleCheck.Text.Basic

namespace StyleCheck.Text

def feedLines (s : Text) : List Text := pieces ['\n'] s

/-- Lines that end at a line feed or a return. Between the two there is an empty line. -/
def plainLines (s : Text) : List Text := s.splitOnP fun c => c == '\n' || c == '\r'

def endsLine (c : Char) : Bool :=
  (10 ≤ c.toNat && c.toNat ≤ 13) || (0x1C ≤ c.toNat && c.toNat ≤ 0x1E) || c == '\u0085'
    || c == '\u2028' || c == '\u2029'

/-- The lines of a text with the characters that end them; `line` is the current one, last
character first. -/
def brokenLines (s : Text) : List Text := go [] s
where
  go : Text → Text → List Text
    | [], [] => []
    | line, [] => [line.reverse]
    | line, '\r' :: '\n' :: cs => ('\n' :: '\r' :: line).reverse :: go [] cs
    | line, c :: cs => if endsLine c then (c :: line).reverse :: go [] cs else go (c :: line) cs

end StyleCheck.Text
