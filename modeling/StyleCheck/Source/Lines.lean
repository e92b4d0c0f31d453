/-
  StyleCheck.Source.Lines — a source file as the rules see it.

  Every line is kept in four views, from the text as it was read to the bare code: `raw`; `plain`,
  with raw strings emptied; `code`, also without comments; and `elided`, without comments and with
  all literals emptied.
-/

import StyleCheck.Source.Comment
import StyleCheck.Source.RawString

namespace StyleCheck

structure Line where
  raw : Text
  plain : Text
  code : Text
  elided : Text
  deriving DecidableEq, Repr

def Line.ofTexts (raw plain : Text) : Line :=
  ⟨raw, plain, Comment.drop plain, Comment.drop (Literal.collapse plain)⟩

structure Source where
  lines : Array Line

namespace Source

def ofLines (raws : List Text) : Source :=
  ⟨(raws.zipWith Line.ofTexts (RawString.emptyAll raws)).toArray⟩

def size (s : Source) : Nat := s.lines.size

/-- A line that does not exist is empty in every view. -/
def line (s : Source) (n : Nat) : Line := s.lines.getD n ⟨[], [], [], []⟩

def raw (s : Source) (n : Nat) : Text := (s.line n).raw

def plain (s : Source) (n : Nat) : Text := (s.line n).plain

def code (s : Source) (n : Nat) : Text := (s.line n).code

def elided (s : Source) (n : Nat) : Text := (s.line n).elided

/-- The line above line `n`; above the first line stands the last one. -/
def above (s : Source) (n : Nat) : Nat := if n == 0 then s.size - 1 else n - 1

/-- The lines from `start` on, `count` of them, as `view` shows them. -/
def textFrom (s : Source) (view : Line → Text) (start count : Nat) : List Text :=
  (List.range' start count).map fun n => view (s.line n)

/-- The nearest line above line `n` that is not blank when comments and literals are left out. -/
def visibleAbove? (s : Source) : (n : Nat) → Option Nat
  | 0 => none
  | n + 1 => if Text.allBlank (s.elided n) then s.visibleAbove? n else some n

/-- The text of that line, or nothing. -/
def textAbove (s : Source) (n : Nat) : Text :=
  match s.visibleAbove? n with
  | some k => s.elided k
  | none => []

/-- The lines of a file stand between two marks, so that the first one has the number 1. -/
def marked (lines : List Text) : List Text :=
  "// marker so line numbers and indices both start at 1".toList
    :: lines ++ ["// marker so line numbers end in a known way".toList]

end Source

open Pattern in
/-- The line goes on below. -/
def continued : Pattern := "\\" ++ finish

end StyleCheck
