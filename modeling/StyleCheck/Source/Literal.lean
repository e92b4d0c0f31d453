/-
  StyleCheck.Source.Literal — string and character literals.

  1. `endsInString` decides by counting quotes whether the text after a piece of code stands in a
     string: escaped quotes and the character literal of a quote do not count.
  2. `dropEscapes` takes escape sequences out.
  3. `collapse` empties the literals of a line. It goes from quote to quote: a literal that is
     closed on the line keeps its quotes only, a single quote between digits is dropped with the
     number kept, and from a quote that is never closed on, the line is left as it is. Include
     lines are not touched.
-/

import StyleCheck.Pattern.Search
import StyleCheck.Source.Directive

namespace StyleCheck.Literal

/-- Is the character after `s` inside a string? -/
def endsInString (s : Text) : Bool :=
  let s := Text.substitute "\\\\".toList "XX".toList s
  let quotes := Text.occurrences "\"".toList s
  let escaped := Text.occurrences "\\\"".toList s
  let quoted := Text.occurrences "'\"'".toList s
  (quotes + escaped + quoted) % 2 == 1

def isHexDigit (c : Char) : Bool :=
  ('0' ≤ c && c ≤ '9') || ('a' ≤ c && c ≤ 'f') || ('A' ≤ c && c ≤ 'F')

/-- The length of the escape sequence whose backslash stands before `s`. -/
def escapeLength? (s : Text) : Option Nat :=
  match s with
  | [] => none
  | c :: rest =>
    if "abfnrtv?\"\\'".toList.contains c then some 1
    else if Text.isDecimal c then some (s.takeWhile Text.isDecimal).length
    else if c == 'x' then
      match (rest.takeWhile isHexDigit).length with
      | 0 => none
      | n + 1 => some (n + 2)
    else none

def dropEscapes (s : Text) : Text := go 0 s
where
  go : (skip : Nat) → Text → Text
    | _, [] => []
    | skip + 1, _ :: cs => go skip cs
    | 0, c :: cs =>
      if c == '\\' then
        match escapeLength? cs with
        | some n => go n cs
        | none => c :: go 0 cs
      else c :: go 0 cs

/-- A number at the end of the text, as far as its base can be told from its first digits. -/
def numberAtEnd : Pattern :=
  open Pattern in
  edge ++ ("0" ++ opt (anyOf "bBxX") ||| one (.range '1' '9'))
    ++ many (one (.union [.range '0' '9', .range 'a' 'f', .range 'A' 'F'])) ++ finish

def isNumberPart (c : Char) : Bool := c.isAlphanum || c == '_'

/-- The digits of a number and what follows them; a single quote before a digit is left out. -/
def takeDigits : Text → Text × Text
  | [] => ([], [])
  | c :: rest =>
    if isNumberPart c then
      let (digits, after) := takeDigits rest
      (c :: digits, after)
    else if c == '\'' then
      match rest with
      | d :: rest' =>
        if isNumberPart d then
          let (digits, after) := takeDigits rest'
          (d :: digits, after)
        else ([], c :: rest)
      | [] => ([], [c])
    else ([], c :: rest)

theorem takeDigits_length (s : Text) : (takeDigits s).2.length ≤ s.length := by
  fun_induction takeDigits s <;> simp_all <;> omega

def isQuote (c : Char) : Bool := c == '"' || c == '\''

/-- What follows the first `c` in `s`. -/
def after? (c : Char) (s : Text) : Option Text :=
  match s.dropWhile (· != c) with
  | [] => none
  | _ :: rest => some rest

theorem after?_length {c : Char} {s t : Text} (h : after? c s = some t) : t.length < s.length := by
  have := Text.length_dropWhile_le (· != c) s
  simp only [after?] at h
  split at h
  · cases h
  · rename_i heq
    cases h
    rw [heq] at this
    simp only [List.length_cons] at this
    omega

/-- A line at its first quote: the text before it, the quote, and the text after it. -/
structure AtQuote where
  head : Text
  quote : Char
  tail : Text

def atQuote? (s : Text) : Option AtQuote :=
  match s.dropWhile fun c => !isQuote c with
  | [] => none
  | quote :: after => (Text.restOfLine? after).map fun tail => ⟨s.takeWhile fun c => !isQuote c, quote, tail⟩

theorem length_takeWhile_add_dropWhile (p : Char → Bool) (s : Text) :
    (s.takeWhile p).length + (s.dropWhile p).length = s.length := by
  rw [← List.length_append, List.takeWhile_append_dropWhile]

theorem atQuote?_length {s : Text} {q : AtQuote} (h : atQuote? s = some q) :
    q.head.length + q.tail.length < s.length := by
  have hl := length_takeWhile_add_dropWhile (fun c => !isQuote c) s
  simp only [atQuote?] at h
  split at h
  · cases h
  · rename_i quote after heq
    obtain ⟨tail, ht, rfl⟩ := Option.map_eq_some_iff.1 h
    have := Text.restOfLine?_length ht
    rw [heq] at hl
    simp only [List.length_cons] at hl
    simp only
    omega

def emptyString : Text := ['"', '"']

def emptyChar : Text := ['\'', '\'']

/-- Empties the literals of a text that holds no escape sequence. -/
def collapseQuotes (s : Text) : Text :=
  match _hq : atQuote? s with
  | none => s
  | some q =>
    if q.quote == '"' then
      match _ha : after? '"' q.tail with
      | some rest => q.head ++ emptyString ++ collapseQuotes rest
      | none => s
    else if _hn : !q.head.isEmpty && numberAtEnd.occursIn q.head then
      let digits := takeDigits ('\'' :: q.tail)
      q.head ++ digits.1 ++ collapseQuotes digits.2
    else
      match _ha : after? '\'' q.tail with
      | some rest => q.head ++ emptyChar ++ collapseQuotes rest
      | none => s
termination_by s.length
decreasing_by
  · have := atQuote?_length _hq
    have := after?_length _ha
    omega
  · have := atQuote?_length _hq
    have hd := takeDigits_length ('\'' :: q.tail)
    have : 0 < q.head.length := by
      cases hh : q.head with
      | nil => simp [hh] at _hn
      | cons => simp
    simp only [List.length_cons] at hd
    omega
  · have := atQuote?_length _hq
    have := after?_length _ha
    omega

/-- The line with every string and character literal emptied. -/
def collapse (line : Text) : Text :=
  if (Include.ofLine? line).isSome then line else collapseQuotes (dropEscapes line)

end StyleCheck.Literal
