/-
  StyleCheck.Text.Width — how many columns a line takes.

  In the composed form of the line a wide character takes two columns, a combining mark none and
  any other character one.
-/

import StyleCheck.Text.Composed
import StyleCheck.Text.Wide

namespace StyleCheck.Text

def columns (c : Char) : Nat :=
  if isWide c then 2 else if combiningClass c == 0 then 1 else 0

def width (s : Text) : Nat := (composed s).foldl (fun n c => n + columns c) 0

end StyleCheck.Text
