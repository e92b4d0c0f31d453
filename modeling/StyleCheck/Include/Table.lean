/-
  StyleCheck.Include.Table — the headers included so far, and their order.

  1. The table is a list of groups. A conditional opens a group, and its alternatives empty the
     last one; the end of a conditional leaves the groups as they are.
  2. Headers come in sections: the file's own header, headers of C, headers of C++, all others. The
     section moves forward only; a system header that comes too late is out of order and leaves the
     section where it is.
  3. Within a section the headers are in alphabetical order. The last header is forgotten whenever
     the section changes.
-/

import StyleCheck.Include.Kind
import StyleCheck.Source.Directive
import StyleCheck.Source.Lines
import StyleCheck.Text.Lowercase

namespace StyleCheck

inductive HeaderSection where
  | initial
  | own
  | c
  | cpp
  | other
  deriving DecidableEq, Repr

namespace HeaderSection

def rank : HeaderSection → Nat
  | initial => 0
  | own => 1
  | c => 2
  | cpp => 3
  | other => 4

def title : HeaderSection → String
  | initial => "... nothing. (This can't be an error.)"
  | own => "a header this file implements"
  | c => "C system header"
  | cpp => "C++ system header"
  | other => "other header"

/-- The section after a header of the given kind, unless the header comes too late. -/
def next? (s : HeaderSection) : HeaderKind → Option HeaderSection
  | .cSystem => if s.rank ≤ c.rank then some c else none
  | .cppSystem => if s.rank ≤ cpp.rank then some cpp else none
  | .own | .perhapsOwn => some (if s.rank ≤ own.rank then own else other)
  | .other => some other

end HeaderSection

/-- A header and the line on which it is included. -/
structure IncludeEntry where
  path : Text
  line : Int
  deriving DecidableEq, Repr

structure IncludeTable where
  /-- The groups before the last one, in order. -/
  earlier : List (List IncludeEntry) := []
  current : List IncludeEntry := []
  «section» : HeaderSection := .initial
  /-- The last header of the section, as it is compared. -/
  last : Text := []
  deriving DecidableEq, Repr

namespace IncludeTable

def groups (t : IncludeTable) : List (List IncludeEntry) := t.earlier ++ [t.current]

def entries (t : IncludeTable) : List IncludeEntry := t.groups.flatten

/-- The line on which a header was included. -/
def lineOf? (t : IncludeTable) (path : Text) : Option Int :=
  (t.entries.find? fun e => e.path == path).map (·.line)

def add (t : IncludeTable) (path : Text) (line : Int) : IncludeTable :=
  { t with current := t.current ++ [⟨path, line⟩] }

/-- Begins the order anew. -/
def restart (t : IncludeTable) : IncludeTable := { t with «section» := .initial, last := [] }

/-- A conditional directive. -/
def condition (t : IncludeTable) : Directive.Condition → IncludeTable
  | .opening => { t.restart with earlier := t.earlier ++ [t.current], current := [] }
  | .alternative => { t.restart with current := [] }
  | .closing => t.restart

def setLast (t : IncludeTable) (path : Text) : IncludeTable := { t with last := path }

/-- The path by which a header is compared. -/
def sortKey (path : Text) : Text :=
  Text.lowercase
    (Text.substitute ['-'] ['_'] (Text.substitute "-inl.h".toList ".h".toList path))

/-- Takes the next header in; the message tells that it is out of order. -/
def proceed (t : IncludeTable) (kind : HeaderKind) : IncludeTable × Option String :=
  match t.section.next? kind with
  | none =>
    ({ t with last := [] }, some ("Found " ++ kind.title ++ " after " ++ t.section.title))
  | some s => (if s = t.section then t else { t with «section» := s, last := [] }, none)

/-- A header, given by its key, may follow the last one. The order does not matter if the line
above includes nothing. -/
def inOrder (t : IncludeTable) (s : Source) (n : Nat) (key : Text) : Bool :=
  !(decide (key < t.last) && Directive.name? (s.elided (s.above n)) == some "include".toList)

end IncludeTable

end StyleCheck
