/-
  StyleCheck.Source.Comment — comments.

  1. A block comment that fills whole lines is blanked: every line of it becomes an empty block
     comment. Such a comment begins on a line that opens with the comment mark and does not hold
     the closing mark, and it ends on the first line from there on that ends in the closing mark.
     If there is no such line, the rest of the file is left alone and the comment is reported.
  2. `dropLineComment` cuts a line at a line comment, unless the mark stands in a string.
  3. `dropBlockComments` takes out the block comments that begin and end on the line, with the
     blanks on both sides at the end of the line, otherwise with the blanks that follow, or with
     those before if what follows is no word.
-/

import StyleCheck.Finding
import StyleCheck.Source.Literal

namespace StyleCheck.Comment

/-! ## Comments over whole lines -/

/-- The line opens a block comment that goes beyond it. -/
def opensBlock (line : Text) : Bool :=
  let s := Text.strip line
  Text.startsWith s "/*".toList && (Text.locateFrom? "*/".toList 2 s).isNone

def closesBlock (line : Text) : Bool := Text.endsWith (Text.strip line) "*/".toList

def blankLine : Text := "/**/".toList

/-- The lines with every block comment blanked, and the number of the line, counted from
`number`, of the comment that is never closed. -/
def blankBlocks (number : Nat) (lines : List Text) : List Text × Option Nat :=
  match lines with
  | [] => ([], none)
  | line :: rest =>
    if opensBlock line then
      match (line :: rest).findIdx? closesBlock with
      | none => (line :: rest, some number)
      | some i =>
        let (after, unclosed) := blankBlocks (number + i + 1) (rest.drop i)
        (List.replicate (i + 1) blankLine ++ after, unclosed)
    else
      let (after, unclosed) := blankBlocks (number + 1) rest
      (line :: after, unclosed)
termination_by lines.length
decreasing_by all_goals (simp only [List.length_drop, List.length_cons]; omega)

def unclosed (number : Nat) : Finding :=
  ⟨number, .readabilityMultilineComment, 5, "Could not find end of multi-line comment"⟩

/-- The lines with their block comments blanked, and what is to be said about them. -/
def blankAll (lines : List Text) : List Text × List Finding :=
  let (blanked, open?) := blankBlocks 1 lines
  (blanked, open?.toList.map unclosed)

/-! ## Comments within a line -/

def dropLineComment (line : Text) : Text :=
  match Text.locate? "//".toList line with
  | none => line
  | some i =>
    if Literal.endsInString (line.take i) then line else Text.stripRight (line.take i)

/-- What follows the first closing mark in `s`. -/
def afterClosing? : Text → Option Text
  | [] => none
  | c :: rest =>
    if c == '*' && rest.head? == some '/' then some (rest.drop 1) else afterClosing? rest

/-- What follows the block comment that begins at `s`. -/
def afterBlock? : Text → Option Text
  | '/' :: '*' :: body => afterClosing? body
  | _ => none

def startsWord (s : Text) : Bool :=
  match s with
  | [] => false
  | c :: _ => Text.isWord c

/-- If a block comment is to be taken out at `s`, what is left after it. -/
def cutBlock? (s : Text) : Option Text :=
  match afterBlock? (s.dropWhile Text.isBlank) with
  | none => none
  | some rest =>
    if rest.all Text.isBlank then some []
    else if !(s.takeWhile Text.isBlank).isEmpty then
      if startsWord rest then none else some rest
    else some (rest.dropWhile Text.isBlank)

theorem afterClosing?_length {s t : Text} (h : afterClosing? s = some t) : t.length < s.length := by
  fun_induction afterClosing? s with
  | case1 => cases h
  | case2 c rest =>
    cases h
    simp only [List.length_drop, List.length_cons]
    omega
  | case3 c rest _ ih =>
    have := ih h
    simp only [List.length_cons]
    omega

theorem afterBlock?_length {s t : Text} (h : afterBlock? s = some t) : t.length < s.length := by
  fun_cases afterBlock? s with
  | case1 body =>
    have := afterClosing?_length (by simpa [afterBlock?] using h)
    simp; omega
  | case2 => simp_all [afterBlock?]

theorem cutBlock?_length {s t : Text} (h : cutBlock? s = some t) : t.length < s.length := by
  have hd := Text.length_dropWhile_le Text.isBlank s
  simp only [cutBlock?] at h
  split at h
  · cases h
  · rename_i rest heq
    have hr := afterBlock?_length heq
    have hb := Text.length_dropWhile_le Text.isBlank rest
    split at h
    · cases h; simp; omega
    · split at h
      · split at h <;> cases h; omega
      · cases h; omega

def dropBlockComments (s : Text) : Text :=
  match _hc : cutBlock? s with
  | some rest => dropBlockComments rest
  | none =>
    match s with
    | [] => []
    | c :: cs => c :: dropBlockComments cs
termination_by s.length
decreasing_by
  · exact cutBlock?_length _hc
  · simp

/-- The line without its comments. -/
def drop (line : Text) : Text := dropBlockComments (dropLineComment line)

end StyleCheck.Comment
