/-
  StyleCheck.Source.RawString — raw string literals.

  A raw string opens with a raw mark, a quote, a delimiter and a round bracket, and ends at the
  next closing bracket that is followed by the delimiter and a quote, on the same line or on a
  later one. `emptyAll` replaces every raw string by an empty string; a line that lies within one
  becomes an empty string of its own. An opener after a line comment mark is no opener, and the
  search on that line ends there.

  Emptying a raw string on one line makes the line shorter, so the search for the next opener
  ends (`opener?_length`).
-/

import StyleCheck.Source.Literal

namespace StyleCheck.RawString

/-- A line at the opener of a raw string: the text before it, the delimiter, and the text after
the round bracket. -/
structure Opener where
  before : Text
  delimiter : Text
  body : Text
  deriving DecidableEq

def marks : List Text := ["R\"".toList, "u8R\"".toList, "uR\"".toList, "UR\"".toList, "LR\"".toList]

def isDelimiterChar (c : Char) : Bool := !Text.isBlank c && c != '\\' && c != '(' && c != ')'

/-- Reads the raw mark, the delimiter and the bracket of an opener at the beginning of `s`. -/
def openerAt? (s : Text) : Option (Text × Text) :=
  match marks.find? fun mark => mark.isPrefixOf s with
  | none => none
  | some mark =>
    let after := s.drop mark.length
    match after.dropWhile isDelimiterChar with
    | '(' :: body => some (after.takeWhile isDelimiterChar, body)
    | _ => none

/-- Finds the first opener in `s`; `before` is what has been passed, last character first. A mark
in the middle of a word opens nothing. -/
def findOpener? (before : Text) (s : Text) : Option Opener :=
  let inWord := (before.head?.map Text.isWord).getD false
  match if inWord then none else openerAt? s with
  | some (delimiter, body) => some ⟨before.reverse, delimiter, body⟩
  | none =>
    match s with
    | [] => none
    | c :: cs => findOpener? (c :: before) cs

def opener? (line : Text) : Option Opener := (Text.restOfLine? line).bind (findOpener? [])

def closing (delimiter : Text) : Text := ')' :: delimiter ++ ['"']

/-- A line comment mark outside of all literals. -/
def lineComment : Pattern :=
  open Pattern in
  start
    ++ many (group 1
      (noneOf "'\""
        ||| "'" ++ many (group 2 ("\\" ++ any ||| noneOf "'")) ++ "'"
        ||| "\"" ++ many (group 3 ("\\" ++ any ||| noneOf "\"")) ++ "\""))
    ++ "//"

theorem openerAt?_length {s d b : Text} (h : openerAt? s = some (d, b)) : b.length < s.length := by
  simp only [openerAt?] at h
  split at h
  · cases h
  · rename_i mark _
    have hd := Text.length_dropWhile_le isDelimiterChar (s.drop mark.length)
    split at h
    · rename_i heq
      cases h
      rw [heq] at hd
      simp only [List.length_cons, List.length_drop] at hd
      omega
    · cases h

theorem findOpener?_length {before s : Text} {o : Opener} (h : findOpener? before s = some o) :
    before.length ≤ o.before.length ∧ o.before.length + o.body.length < before.length + s.length := by
  fun_induction findOpener? before s with
  | case1 s before inWord d b heq =>
    cases h
    have : openerAt? s = some (d, b) := by
      cases hw : inWord <;> simp_all
    have := openerAt?_length this
    simp; omega
  | case2 => cases h
  | case3 before inWord c cs _ ih =>
    have := ih h
    simp only [List.length_cons] at this ⊢
    omega

theorem opener?_length {line : Text} {o : Opener} (h : opener? line = some o) :
    o.before.length + o.body.length < line.length := by
  obtain ⟨body, hb, ho⟩ := Option.bind_eq_some_iff.1 h
  have h1 := Text.restOfLine?_length hb
  have h2 := (findOpener?_length ho).2
  simp only [List.length_nil] at h2
  omega

/-- Empties the raw strings that open on the line. The second component is the closing text of the
one that does not end on it. -/
def emptyOpeners (line : Text) : Text × Option Text :=
  match _ho : opener? line with
  | none => (line, none)
  | some o =>
    if lineComment.opens o.before then (line, none)
    else
      match _hi : Text.locate? (closing o.delimiter) o.body with
      | some i =>
        emptyOpeners
          (o.before ++ Literal.emptyString ++ o.body.drop (i + (closing o.delimiter).length))
      | none => (o.before ++ Literal.emptyString, some (closing o.delimiter))
termination_by line.length
decreasing_by
  have := opener?_length _ho
  have := Text.locate?_length _hi
  simp only [closing, List.length_append, List.length_cons, List.length_nil] at this
  simp only [List.length_append, List.length_drop, Literal.emptyString, closing, List.length_cons,
    List.length_nil]
  omega

/-- One line, given the closing text of the raw string it begins in. -/
def emptyLine (pending : Option Text) (line : Text) : Text × Option Text :=
  match pending with
  | none => emptyOpeners line
  | some close =>
    match Text.locate? close line with
    | some i =>
      emptyOpeners (line.takeWhile Text.isBlank ++ Literal.emptyString ++ line.drop (i + close.length))
    | none => (Literal.emptyString, some close)

def emptyFrom (pending : Option Text) : List Text → List Text
  | [] => []
  | line :: rest =>
    let (emptied, pending) := emptyLine pending line
    emptied :: emptyFrom pending rest

/-- The lines with every raw string emptied. -/
def emptyAll (lines : List Text) : List Text := emptyFrom none lines

end StyleCheck.RawString
