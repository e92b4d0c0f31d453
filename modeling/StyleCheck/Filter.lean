/-
  StyleCheck.Filter — which categories are wanted.

  A filter is a sign and the beginning of category names: a minus sign hides the categories whose
  names begin so, a plus sign shows them again. Of the filters that speak of a category the last
  one decides. A filter without a sign is an error; it is kept as it was written, and a category
  that is judged by a list with such a filter in it cannot be judged.
-/

import StyleCheck.Finding
import StyleCheck.Text.Blank

namespace StyleCheck

inductive Filter where
  | hide (stem : Text)
  | allow (stem : Text)
  | unsigned (text : Text)
  deriving DecidableEq, Repr

namespace Filter

def ofText : Text → Filter
  | '-' :: stem => hide stem
  | '+' :: stem => allow stem
  | text => unsigned text

def text : Filter → Text
  | hide stem => '-' :: stem
  | allow stem => '+' :: stem
  | unsigned text => text

/-- Filters are separated by commas; blanks around them and empty ones do not count. -/
def read (s : Text) : List Filter :=
  (((Text.pieces [','] s).map Text.strip).filter fun t => !t.isEmpty).map ofText

/-- The first filter without a sign. -/
def unsigned? : List Filter → Option Text
  | [] => none
  | unsigned text :: _ => some text
  | _ :: rest => unsigned? rest

def defaults : List Filter := [hide Category.buildIncludeAlpha.name]

/-- Is the named category hidden by the filters, if it was `hidden` before them? -/
def hides (name : Text) (hidden : Bool) : List Filter → Except Failure Bool
  | [] => .ok hidden
  | hide stem :: rest => hides name (hidden || Text.startsWith name stem) rest
  | allow stem :: rest => hides name (hidden && !Text.startsWith name stem) rest
  | unsigned _ :: _ => .error .filterWithoutSign

end Filter

end StyleCheck
