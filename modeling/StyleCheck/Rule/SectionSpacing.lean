/-
  StyleCheck.Rule.SectionSpacing — a blank line before the sections of a long class.

  Classes of up to 25 lines are exempt, and so is the first section of a class, whose head may
  take several lines.
-/

import StyleCheck.Nesting.State

namespace StyleCheck.Rule.SectionSpacing

open Pattern

def classWord : Pattern := edge ++ group 1 (oneOf ["class", "struct"]) ++ edge

def endsInCurly : Pattern := "\x7b" ++ blanks ++ finish

/-- The line on which the head of a class ends, among the `count` lines from `start` on. -/
def headEnd (s : Source) (first : Nat) (count : Nat) : Nat :=
  ((List.range' first count).find? fun n => endsInCurly.occursIn (s.code n)).getD first

def findings (s : Source) (b : Block) (head : ClassHead) (n : Nat) : List Finding :=
  if head.lastLine ≤ b.start + 24 || n ≤ b.start then []
  else
    match sectionLabel.match? (s.code n) with
    | none => []
    | some m =>
      let above := s.code (n - 1)
      Finding.when
        (!Text.allBlank above && !classWord.occursIn above && !continued.occursIn above
          && headEnd s b.start (n - b.start) + 1 < n)
        ⟨n, .whitespaceBlankLine, 3,
          "\"" ++ String.ofList (m.group 1) ++ ":\" should be preceded by a blank line"⟩

end StyleCheck.Rule.SectionSpacing
