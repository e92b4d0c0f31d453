/-
  StyleCheck.Pattern.Run — how a pattern is matched.

  `run p next` places `p` at a cursor and hands every place where `p` can end to `next`, in
  order, until `next` accepts one. It recurses on the pattern. A round of a repetition that takes no
  character is the last one, so there is at most one round more than characters that are left. Of
  a repetition with a fixed number of rounds no more rounds than that are done either: one of them
  takes no character, and can stand for those left out.
-/

import StyleCheck.Pattern.Basic

namespace StyleCheck.Pattern

/-- A remembered piece of text: where it starts, how long it is, and the text from its start on. -/
structure Capture where
  start : Nat
  length : Nat
  source : Text

def Capture.text (c : Capture) : Text := c.source.take c.length

def Capture.stop (c : Capture) : Nat := c.start + c.length

/-- A place in a text: the character before it, the text after it, its column, and what has been
remembered on the way, the latest first. -/
structure Cursor where
  before : Option Char
  rest : Text
  column : Nat
  captures : List (Nat × Capture)

namespace Cursor

def ofText (s : Text) : Cursor := ⟨none, s, 0, []⟩

/-- Past the characters of `taken`, `rest` being what follows them. -/
def advance (c : Cursor) (taken rest : Text) : Cursor :=
  { c with
    before := (taken.getLast?).or c.before
    rest := rest
    column := c.column + taken.length }

def step (c : Cursor) (x : Char) (rest : Text) : Cursor :=
  { c with before := some x, rest := rest, column := c.column + 1 }

def capture? (c : Cursor) (n : Nat) : Option Capture := c.captures.lookup n

def isWordAt (c : Option Char) : Bool :=
  match c with
  | some x => Text.isWord x
  | none => false

def atEdge (c : Cursor) : Bool := isWordAt c.before != isWordAt c.rest.head?

def atFinish (c : Cursor) : Bool :=
  match c.rest with
  | [] => true
  | ['\n'] => true
  | _ => false

def atLineStart (c : Cursor) : Bool :=
  match c.before with
  | none => true
  | some x => x == '\n'

def atLineEnd (c : Cursor) : Bool :=
  match c.rest with
  | [] => true
  | x :: _ => x == '\n'

/-- Remembers the text between `c` and the later cursor `d` under the number `n`. -/
def remember (c d : Cursor) (n : Nat) : Cursor :=
  { d with captures := (n, ⟨c.column, d.column - c.column, c.rest⟩) :: d.captures }

end Cursor

/-- A matcher: the cursors it can reach are offered to the continuation in order. -/
abbrev Matcher := (Cursor → Option Cursor) → Cursor → Option Cursor

/-- Exactly `rounds` times. -/
def repeatTimes (body : Matcher) : (rounds : Nat) → Matcher
  | 0, next, c => next c
  | rounds + 1, next, c => body (repeatTimes body rounds next) c

/-- At most `rounds` times, more rounds first. -/
def repeatMany (body : Matcher) : (rounds : Nat) → Matcher
  | 0, next, c => next c
  | rounds + 1, next, c =>
    match body (fun d => if c.column < d.column then repeatMany body rounds next d else next d) c with
    | some d => some d
    | none => next c

/-- At most `rounds` times, fewer rounds first. -/
def repeatFew (body : Matcher) : (rounds : Nat) → Matcher
  | 0, next, c => next c
  | rounds + 1, next, c =>
    match next c with
    | some d => some d
    | none =>
      body (fun d => if c.column < d.column then repeatFew body rounds next d else next d) c

/-- The rounds that a repetition of `n` rounds needs at the cursor. -/
def rounds (n : Nat) (c : Cursor) : Nat := min n (c.rest.length + 1)

theorem rounds_succ (n : Nat) (c : Cursor) : rounds (n + 1) c = min n c.rest.length + 1 :=
  Nat.succ_min_succ n c.rest.length

def run : Pattern → Matcher
  | empty, next, c => next c
  | one s, next, c =>
    match c.rest with
    | [] => none
    | x :: xs => if s.has x then next (c.step x xs) else none
  | seq p q, next, c => p.run (q.run next) c
  | alt p q, next, c =>
    match p.run next c with
    | some d => some d
    | none => q.run next c
  | many p, next, c => repeatMany p.run (c.rest.length + 1) next c
  | few p, next, c => repeatFew p.run (c.rest.length + 1) next c
  | times n p, next, c => repeatTimes p.run (rounds n c) next c
  | upTo n p, next, c => repeatMany p.run (rounds n c) next c
  | fewTo n p, next, c => repeatFew p.run (rounds n c) next c
  | once p, next, c =>
    match p.run some c with
    | some d => next d
    | none => none
  | group n p, next, c => p.run (fun d => next (c.remember d n)) c
  | again n, next, c =>
    match c.capture? n with
    | none => none
    | some taken =>
      let text := taken.text
      if text.isPrefixOf c.rest then next (c.advance text (c.rest.drop text.length)) else none
  | edge, next, c => if c.atEdge then next c else none
  | start, next, c => if c.column == 0 then next c else none
  | finish, next, c => if c.atFinish then next c else none
  | lineStart, next, c => if c.atLineStart then next c else none
  | lineEnd, next, c => if c.atLineEnd then next c else none
  | ahead p, next, c =>
    match p.run some c with
    | some d => next { c with captures := d.captures }
    | none => none
  | notAhead p, next, c =>
    match p.run some c with
    | some _ => none
    | none => next c

end StyleCheck.Pattern
