/-
  StyleCheck.Failure — why an operation could not be carried out.

  A failure ends what is going on, be it the reading of the settings or the check of a file.
  `message` is what there is to tell about it.
-/

import StyleCheck.Text.Quoted

namespace StyleCheck

/-- Why an operation could not be carried out. -/
inductive Failure where
  /-- A filter begins with neither a plus nor a minus sign. -/
  | unsignedFilter (text : Text)
  /-- A category was to be judged by a filter that has no sign. -/
  | filterWithoutSign
  | notAnInteger (text : Text)
  | malformedPattern
  /-- The text looked for does not end in an opening bracket. -/
  | noOpeningBracket
  /-- A place beyond the end of a line, a list or the file. -/
  | outOfRange
  /-- Every directory up to the root, and the root itself, belongs to the checkout. -/
  | endlessCheckout
  deriving DecidableEq, Repr

namespace Failure

def message : Failure → String
  | unsignedFilter text =>
    "Every filter in --filters must start with + or - (" ++ String.ofList text ++ " does not)"
  | notAnInteger text =>
    "invalid literal for int() with base 10: " ++ String.ofList ((Text.quoted text).take 200)
  | noOpeningBracket => "start_pattern must ends with an opening punctuation."
  | filterWithoutSign | malformedPattern | outOfRange | endlessCheckout => ""

end Failure

end StyleCheck
