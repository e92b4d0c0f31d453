/-
  StyleCheck.Suppression — comments that keep findings from being shown.

  1. A comment with the suppression word speaks of its own line, or of the next one, and of every
     category or of the one it names. Only the first such word of a line counts.
  2. A mark for a whole file, in any line of it, suppresses the categories that make no sense for
     files of that kind.
  3. `Suppressions` is what has been collected so far. A finding is hidden by what was collected
     before it was reported (`Suppressions.hides`).
-/

import StyleCheck.Finding
import StyleCheck.Pattern.Search

namespace StyleCheck

/-- What a suppression comment speaks of. -/
inductive Scope where
  | everything
  | only (c : Category)
  /-- A category that is no longer in use. -/
  | retired
  | unknown (name : Text)
  deriving DecidableEq, Repr

structure Suppression where
  nextLine : Bool
  scope : Scope
  deriving DecidableEq, Repr

namespace Suppression

open Pattern in
def comment : Pattern :=
  edge ++ "NOLINT" ++ opt (group 1 "NEXTLINE") ++ edge
    ++ opt (group 2 ("(" ++ some1 (noneOf ")") ++ ")"))

def scopeOf (name : Text) : Scope :=
  if name == ['*'] then .everything
  else
    match Category.ofName? name with
    | some c => .only c
    | none => if Category.retired.contains name then .retired else .unknown name

/-- The first suppression comment of a line. -/
def ofLine? (line : Text) : Option Suppression :=
  (comment.search? line).map fun m =>
    { nextLine := (m.group? 1).isSome
      scope :=
        match m.group? 2 with
        | none => .everything
        | some c => scopeOf ((c.text.drop 1).dropLast) }

open Pattern in
/-- A file in C. -/
def plainCMark : Pattern :=
  edge ++
    ("LINT_C_FILE" |||
      "vi" ++ opt "m" ++ ":" ++ blanks ++ anything ++ group 1 (blanks ||| ":") ++ "filetype=c"
        ++ group 2 (blanks ||| ":" ||| finish))

open Pattern in
/-- A file of an operating system kernel. -/
def kernelMark : Pattern := edge ++ "LINT_KERNEL_FILE"

end Suppression

structure Suppressions where
  /-- A category, or all of them, and the line on which it is suppressed. -/
  onLine : List (Option Category × Int) := []
  wholeFile : List Category := []
  deriving DecidableEq, Repr

namespace Suppressions

def addLine (s : Suppressions) (c : Option Category) (line : Int) : Suppressions :=
  if s.onLine.contains (c, line) then s else { s with onLine := s.onLine ++ [(c, line)] }

def addFile (s : Suppressions) (c : Category) : Suppressions :=
  if s.wholeFile.contains c then s else { s with wholeFile := s.wholeFile ++ [c] }

def add (s : Suppressions) (one : Suppression) (line : Int) : Suppressions :=
  let line := if one.nextLine then line + 1 else line
  match one.scope with
  | .everything => s.addLine none line
  | .only c => s.addLine (some c) line
  | .retired | .unknown _ => s

/-- Reads the suppression comment of a line, if there is one. -/
def readLine (s : Suppressions) (text : Text) (line : Int) : Suppressions :=
  match Suppression.ofLine? text with
  | none => s
  | some one => s.add one line

/-- The category a suppression comment names although there is none of this name. -/
def unknown? (text : Text) : Option Text :=
  match Suppression.ofLine? text with
  | some ⟨_, .unknown name⟩ => some name
  | _ => none

def unknownMessage (name : Text) : String := "Unknown NOLINT error category: " ++ String.ofList name

def readMarks (s : Suppressions) (line : Text) : Suppressions :=
  let s := if Suppression.plainCMark.occursIn line then s.addFile .readabilityCasting else s
  if Suppression.kernelMark.occursIn line then s.addFile .whitespaceTab else s

/-- Reads the marks for whole files. -/
def readAllMarks (s : Suppressions) (lines : List Text) : Suppressions := lines.foldl readMarks s

/-- A finding of the named category on the line is not to be shown. -/
def hides (s : Suppressions) (name : Text) (line : Int) : Bool :=
  s.wholeFile.any (fun c => c.name == name)
    || s.onLine.any fun (c, n) => n == line && (c.map (fun c => c.name == name)).getD true

end Suppressions

end StyleCheck
