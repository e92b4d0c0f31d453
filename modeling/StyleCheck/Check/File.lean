/-
  StyleCheck.Check.File — all rules for one file.

  First come the rules that need nothing but the lines, then the header guard, then the lines one
  after another, and last what can be told only at the end of the file. The lines stand between two
  marks, and comments over whole lines are blanked before any other view of them is made.
-/

import StyleCheck.Check.Line
import StyleCheck.HeaderGuard.Check
import StyleCheck.Include.OwnHeader
import StyleCheck.Include.Required
import StyleCheck.Rule.WholeFile
import StyleCheck.Session

namespace StyleCheck.Check

/-- What can be told at the end of the file. -/
def ending (c : Context) (s : Source) (p : Progress) (lines : List Text) : Outcome :=
  let own : Outcome :=
    if isSourceExtension c.extension then
      match OwnHeader.findings c.tree c.file p.includes with
      | .ok found => found
      | .error e => ⟨[], some e⟩
    else .nothing
  .sequence
    [p.nesting.incomplete,
     Required.outcome c.tree c.file s p.includes,
     own,
     Rule.WholeFile.badCharacters lines,
     Rule.WholeFile.finalLineFeed lines]

/-- All that is said about a file with the given lines. -/
def file (c : Context) (given : List Text) : Outcome :=
  let marked := Source.marked given
  let (blanked, unclosed) := Comment.blankAll marked
  let s := Source.ofLines blanked
  let guard : Outcome := if c.isHeader then HeaderGuard.outcome c.tree c.settings c.file s else .nothing
  let (p, said) := lines c s {} 0 s.size
  .sequence
    [Rule.WholeFile.copyright marked,
     ⟨[.suppressFile marked], none⟩,
     unclosed,
     guard,
     said,
     ending c s p blanked]

end StyleCheck.Check
