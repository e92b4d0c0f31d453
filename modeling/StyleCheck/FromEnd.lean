/-
  StyleCheck.FromEnd — places that may be counted from the end.

  A negative position counts from the end: -1 is the last one. A search that begins at a negative
  position goes on to the end, and then over everything once more from position nought. The
  positions of the first round are negative in the answer, too.
-/

import StyleCheck.Bracket.Match
import StyleCheck.Source.Comment

namespace StyleCheck.FromEnd

variable {α : Type}

def get? (xs : List α) (i : Int) : Option α :=
  if 0 ≤ i then xs[i.toNat]?
  else if -i ≤ xs.length then xs[(xs.length + i).toNat]?
  else none

/-- The elements with their positions, that of the first one being `first`. -/
def numbered (first : Int) (xs : List α) : List (Int × α) := xs.mapIdx fun k x => (first + k, x)

/-- What a search from `i` on meets, with the positions. -/
def onwards (xs : List α) (i : Int) : Except Failure (List (Int × α)) :=
  if 0 ≤ i then .ok (numbered i (xs.drop i.toNat))
  else if -i ≤ xs.length then
    .ok (numbered i (xs.drop (xs.length + i).toNat) ++ numbered 0 xs)
  else .error .outOfRange

/-! ## Comments over whole lines -/

/-- The first line from `i` on that meets `test`; the number of lines if there is none. -/
def nextLine (test : Text → Bool) (lines : List Text) (i : Int) : Except Failure Int :=
  (onwards lines i).map fun met =>
    ((met.find? fun l => test l.2).map (·.1)).getD lines.length

def nextOpening (lines : List Text) (i : Int) : Except Failure Int :=
  nextLine Comment.opensBlock lines i

def nextClosing (lines : List Text) (i : Int) : Except Failure Int :=
  nextLine Comment.closesBlock lines i

/-- Blanks the lines at all positions from `first` up to `stop`. -/
def blankRange (lines : List Text) (first stop : Int) : Except Failure (List Text) :=
  let size : Int := lines.length
  if first < stop && (first < -size || size < stop) then .error .outOfRange
  else
    let within (i : Int) : Bool := first ≤ i && i < stop
    .ok (lines.mapIdx fun i line =>
      if within i || within (i - size) then Comment.blankLine else line)

/-! ## Brackets -/

/-- How the search for a closing bracket ends on one line. -/
inductive Scan where
  | found (column : Int)
  | broken
  | unfinished (stack : Bracket.Stack)
  deriving DecidableEq, Repr

/-- Reads the characters that a search meets. In the first round, and at column nought, nothing
stands before a character. -/
def scanOver (line : Text) (stack : Bracket.Stack) : List (Int × Char) → Scan
  | [] => .unfinished stack
  | (i, c) :: rest =>
    match Bracket.effect (line.take i.toNat).reverse c stack with
    | .complete => .found (i + 1)
    | .broken => .broken
    | .proceed stack => scanOver line stack rest

/-- Reads `line` forwards from `column` on. -/
def scan (stack : Bracket.Stack) (line : Text) (column : Int) : Except Failure Scan :=
  (onwards line column).map (scanOver line stack)

/-- Reads `line` backwards from `column` on; before the line there is nothing to read. -/
def scanBack (stack : Bracket.Stack) (line : Text) (column : Int) : Except Failure Bracket.Scan :=
  if column < 0 then .ok (.unfinished stack)
  else if line.length ≤ column.toNat then .error .outOfRange
  else .ok (Bracket.scanBackFrom stack line column.toNat)

/-! ### Within something that no bracket closes

Below the open brackets there is something else, so the search is never completed. A round bracket
at the bottom stands for it: if that one is closed, the brackets do not fit. -/

def scanWithin (stack : Bracket.Stack) (line : Text) (column : Int) : Except Failure Scan :=
  (scan (stack ++ [.round]) line column).map fun
    | .found _ | .broken => .broken
    | .unfinished stack => .unfinished stack.dropLast

def scanBackWithin (stack : Bracket.Stack) (line : Text) (column : Int) :
    Except Failure Bracket.Scan :=
  (scanBack (stack ++ [.round]) line column).map fun
    | .found _ | .broken => .broken
    | .unfinished stack => .unfinished stack.dropLast

/-- The end of a search: the text of the last line that was read, and the line and column found. -/
structure Reach where
  text : Text
  place : Option (Int × Int)
  deriving DecidableEq, Repr

def Reach.ofPlain (r : StyleCheck.Reach) : Reach := ⟨r.text, r.place.map fun p => (p.line, p.column)⟩

/-- Goes on over the given lines. -/
def closeBelow (text : Text) (stack : Bracket.Stack) : List (Int × Text) → Reach
  | [] => ⟨text, none⟩
  | (line, next) :: below =>
    if stack.isEmpty then ⟨text, none⟩
    else
      match Bracket.scan stack [] 0 next with
      | .found column => ⟨next, some (line, column)⟩
      | .broken => ⟨next, none⟩
      | .unfinished stack => closeBelow next stack below

/-- The line on which a search begins, and the character at which it does. -/
def start (s : Source) (line column : Int) : Except Failure (Text × Char) := do
  let some text := get? (s.lines.toList.map Line.elided) line | throw .outOfRange
  let some c := get? text column | throw .outOfRange
  return (text, c)

/-- The place after the bracket that closes the one at the given place. -/
def findClose (s : Source) (line column : Int) : Except Failure Reach := do
  let (text, _) ← start s line column
  let start := if 0 ≤ column then column.toNat else (text.length + column).toNat
  if Bracket.canOpen (text.drop start) then
    match ← scan [] text column with
    | .found stop => return ⟨text, if 0 ≤ stop then some (line, stop) else none⟩
    | .broken => return ⟨text, none⟩
    | .unfinished stack => return closeBelow text stack (← onwards (s.lines.toList.map Line.elided) (line + 1))
  else return ⟨text, none⟩

/-- The place of the bracket that the one at the given place closes. -/
def findOpen (s : Source) (line column : Int) : Except Failure Reach := do
  let (text, c) ← start s line column
  if Bracket.canClose c then
    match ← scanBack [] text column with
    | .found start => return ⟨text, some (line, start)⟩
    | .broken => return ⟨text, none⟩
    | .unfinished stack => return .ofPlain (Bracket.openAbove s line.toNat text stack)
  else return ⟨text, none⟩

end StyleCheck.FromEnd
