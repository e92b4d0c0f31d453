/-
  StyleCheck.Pattern.Token — the pieces a written pattern is made of.

  A written pattern is cut into tokens from the left. Where a token ends can be told from the text
  alone, so nothing has to be known here about groups. A reader gets the characters after the one
  that begins the token and says how many of them belong to it.

  Some forms are not read: assertions about what stands before a place (`(?<=`, `(?<!`), groups with a
  name (`(?P<`, `(?P=`), comments (`(?#`), conditions on a group (`(?(`), and the flags other than `i`,
  `m` and `s`. A pattern that holds one of them is refused here, as a malformed one is.
-/

import StyleCheck.Pattern.Basic

namespace StyleCheck.Pattern

/-- What stands inside square brackets, or a single character. Only the characters that are named
one by one or as a range can be taken without regard to case. -/
structure Class where
  negated : Bool := false
  named : List CharSet := []
  kinds : List CharSet := []
  deriving Repr, DecidableEq

namespace Class

def ofChar (c : Char) : Class := { named := [.among [c]] }

def toSet (k : Class) (caseless : Bool) : CharSet :=
  let named := if caseless then k.named.map .caseless else k.named
  let all := CharSet.union (named ++ k.kinds)
  if k.negated then .other all else all

end Class

/-- How a pattern is to be taken. -/
structure Flags where
  caseless : Bool := false
  /-- `^` and `$` stand for the ends of every line. -/
  lines : Bool := false
  /-- The point stands for the line feed too. -/
  feeds : Bool := false
  deriving Repr, DecidableEq

namespace Flags

/-- The flags on in `f` or in `g`. -/
def union (f g : Flags) : Flags :=
  ⟨f.caseless || g.caseless, f.lines || g.lines, f.feeds || g.feeds⟩

/-- The flags of `f` that are not on in `g`. -/
def without (f g : Flags) : Flags :=
  ⟨f.caseless && !g.caseless, f.lines && !g.lines, f.feeds && !g.feeds⟩

/-- Some flag is on in both. -/
def meets (f g : Flags) : Bool := f != f.without g

def ofLetter? : Char → Option Flags
  | 'i' => some { caseless := true }
  | 'm' => some { lines := true }
  | 's' => some { feeds := true }
  | _ => none

def ofLetters? (s : Text) : Option Flags :=
  (s.mapM ofLetter?).map fun fs => fs.foldl union {}

end Flags

/-- What a pair of round brackets is for. -/
inductive Bracketing where
  /-- What is matched inside is remembered. -/
  | capture
  /-- The inside is taken with some flags put on and others put off. -/
  | plain (on off : Flags)
  | ahead
  | notAhead
  /-- The inside is matched in the first way only. -/
  | once
  deriving Repr, DecidableEq

/-- In which order the numbers of rounds of a repetition are tried. -/
inductive Manner where
  | moreFirst
  | fewerFirst
  /-- As many rounds as there can be and no other number, each in its first way only. -/
  | mostOnly
  deriving Repr, DecidableEq

inductive Token where
  | set (k : Class)
  | point
  | caret
  | dollar
  | textStart
  | textEnd
  | edge
  | notEdge
  | again (n : Nat)
  | times (least : Nat) (most : Option Nat) (manner : Manner)
  | bar
  | opening (b : Bracketing)
  | closing
  /-- Flags for the whole pattern. -/
  | flags (f : Flags)
  deriving Repr, DecidableEq

namespace Token

def char (c : Char) : Token := .set (.ofChar c)

/-! ## Escapes -/

def kind? : Char → Option CharSet
  | 'd' => some .decimal
  | 'D' => some (.other .decimal)
  | 's' => some .blank
  | 'S' => some (.other .blank)
  | 'w' => some .word
  | 'W' => some (.other .word)
  | _ => none

def control? : Char → Option Char
  | 'a' => some '\x07'
  | 'f' => some '\x0c'
  | 'n' => some '\n'
  | 'r' => some '\r'
  | 't' => some '\t'
  | 'v' => some '\x0b'
  | _ => none

def octalDigit? (c : Char) : Option Nat := if '0' ≤ c && c ≤ '7' then some (c.toNat - 48) else none

def hexDigit? (c : Char) : Option Nat :=
  if c.isDigit then some (c.toNat - 48)
  else if 'a' ≤ c && c ≤ 'f' then some (c.toNat - 87)
  else if 'A' ≤ c && c ≤ 'F' then some (c.toNat - 55)
  else none

def number (base : Nat) (digits : List Nat) : Nat := digits.foldl (fun n d => base * n + d) 0

def ofCode? (n : Nat) : Option Char := if n.isValidChar then some (Char.ofNat n) else none

/-- The character written with exactly `places` hexadecimal digits. -/
def hexChar? (places : Nat) (rest : Text) : Option (Char × Nat) :=
  let digits := (rest.take places).filterMap hexDigit?
  if digits.length == places then (ofCode? (number 16 digits)).map (·, places) else none

/-- The character written with `first` and at most two more octal digits. -/
def octalChar? (first : Nat) (rest : Text) : Option (Char × Nat) :=
  let digits := ((rest.take 2).takeWhile fun c => (octalDigit? c).isSome).filterMap octalDigit?
  let code := number 8 (first :: digits)
  if code < 256 then (ofCode? code).map (·, digits.length) else none

/-- The character a backslash before `c` stands for, inside and outside square brackets. -/
def escapedChar? (c : Char) (rest : Text) : Option (Char × Nat) :=
  match control? c with
  | some x => some (x, 0)
  | none =>
    if c == 'x' then hexChar? 2 rest
    else if c == 'u' then hexChar? 4 rest
    else if c == 'U' then hexChar? 8 rest
    else if c.isAlphanum then none
    else some (c, 0)

/-- A reference to a group, or a character in octal digits. -/
def numbered? (c : Char) (rest : Text) : Option (Token × Nat) :=
  let plain : Option (Token × Nat) :=
    match rest with
    | d :: _ =>
      if d.isDigit then some (.again (number 10 [c.toNat - 48, d.toNat - 48]), 1)
      else some (.again (c.toNat - 48), 0)
    | [] => some (.again (c.toNat - 48), 0)
  match octalDigit? c, (rest.take 2).filterMap octalDigit? with
  | some a, [_, _] => (octalChar? a rest).map fun (x, n) => (char x, n)
  | some 0, _ => (octalChar? 0 rest).map fun (x, n) => (char x, n)
  | _, _ => plain

/-- The token after a backslash. -/
def escape? (c : Char) (rest : Text) : Option (Token × Nat) :=
  match kind? c with
  | some s => some (.set { kinds := [s] }, 0)
  | none =>
    match c with
    | 'A' => some (.textStart, 0)
    | 'Z' => some (.textEnd, 0)
    | 'b' => some (.edge, 0)
    | 'B' => some (.notEdge, 0)
    | _ =>
      if c.isDigit then numbered? c rest
      else (escapedChar? c rest).map fun (x, n) => (char x, n)

/-! ## Square brackets -/

/-- One member of a class. -/
inductive Member where
  | char (c : Char)
  | kind (s : CharSet)

namespace Member

def read? (c : Char) (rest : Text) : Option (Member × Nat) :=
  if c != '\\' then some (.char c, 0)
  else
    match rest with
    | [] => none
    | d :: ds =>
      match kind? d, octalDigit? d with
      | some s, _ => some (.kind s, 1)
      | none, some n => (octalChar? n ds).map fun (x, k) => (.char x, k + 1)
      | none, none =>
        if d == 'b' then some (.char '\x08', 1)
        else (escapedChar? d ds).map fun (x, k) => (.char x, k + 1)

def addTo (m : Member) (k : Class) : Class :=
  match m with
  | .char c => { k with named := .among [c] :: k.named }
  | .kind s => { k with kinds := s :: k.kinds }

def range? : Member → Member → Option CharSet
  | .char a, .char b => if a ≤ b then some (.range a b) else none
  | _, _ => none

end Member

/-- The members up to the closing bracket, and how many characters they take with it. A closing
bracket in the first place is a member. -/
def members? (first : Bool) (s : Text) : Option (Class × Nat) :=
  match s with
  | [] => none
  | c :: cs =>
    if c == ']' && !first then some ({}, 1)
    else
      match Member.read? c cs with
      | none => none
      | some (m, n) =>
        match h : cs.drop n with
        | '-' :: ']' :: _ => some (m.addTo (Class.ofChar '-'), n + 3)
        | '-' :: d :: ds =>
          match Member.read? d ds with
          | none => none
          | some (top, k) =>
            match m.range? top, members? false (ds.drop k) with
            | some r, some (others, used) =>
              some ({ others with named := r :: others.named }, n + 3 + k + used)
            | _, _ => none
        | rest => (members? false rest).map fun (others, used) => (m.addTo others, n + 1 + used)
termination_by s.length
decreasing_by
  all_goals
    have := congrArg List.length h
    simp only [List.length_drop, List.length_cons] at this ⊢
    omega

def class? (rest : Text) : Option (Token × Nat) :=
  match rest with
  | '^' :: cs =>
    (members? true cs).map fun (k, used) => (.set { k with negated := true }, used + 1)
  | cs => (members? true cs).map fun (k, used) => (.set k, used)

/-! ## Repetitions and round brackets -/

/-- The bounds after an opening brace, and how many characters they take with the closing one. -/
def bounds? (s : Text) : Option (Nat × Option Nat × Nat) :=
  let low := s.takeWhile Char.isDigit
  let value (digits : Text) : Nat := number 10 (digits.map fun c => c.toNat - 48)
  match s.drop low.length with
  | '\x7d' :: _ =>
    if low.isEmpty then none else some (value low, some (value low), low.length + 1)
  | ',' :: rest =>
    let high := rest.takeWhile Char.isDigit
    match rest.drop high.length with
    | '\x7d' :: _ =>
      let most := if high.isEmpty then none else some (value high)
      some (value low, most, low.length + high.length + 2)
    | _ => none
  | _ => none

/-- A repetition; a question mark after it asks for few rounds first, a plus sign for as many as
there can be. -/
def repetition (least : Nat) (most : Option Nat) (used : Nat) (rest : Text) : Token × Nat :=
  match rest.drop used with
  | '?' :: _ => (.times least most .fewerFirst, used + 1)
  | '+' :: _ => (.times least most .mostOnly, used + 1)
  | _ => (.times least most .moreFirst, used)

/-- The flags after an opening bracket and a question mark. -/
def flags? (s : Text) : Option (Token × Nat) :=
  let on := s.takeWhile Char.isAlpha
  match Flags.ofLetters? on, s.drop on.length with
  | some f, ')' :: _ => if on.isEmpty then none else some (.flags f, on.length + 1)
  | some f, ':' :: _ => some (.opening (.plain f {}), on.length + 1)
  | some f, '-' :: rest =>
    let off := rest.takeWhile Char.isAlpha
    match Flags.ofLetters? off, rest.drop off.length with
    | some g, ':' :: _ =>
      if off.isEmpty || f.meets g then none
      else some (.opening (.plain f g), on.length + off.length + 2)
    | _, _ => none
  | _, _ => none

def opening? (rest : Text) : Option (Token × Nat) :=
  match rest with
  | '?' :: '=' :: _ => some (.opening .ahead, 2)
  | '?' :: '!' :: _ => some (.opening .notAhead, 2)
  | '?' :: '>' :: _ => some (.opening .once, 2)
  | '?' :: cs => (flags? cs).map fun (t, n) => (t, n + 1)
  | _ => some (.opening .capture, 0)

/-! ## Tokens -/

/-- The token that begins with `c`, and how many characters of `rest` belong to it. -/
def next? (c : Char) (rest : Text) : Option (Token × Nat) :=
  match c with
  | '\\' =>
    match rest with
    | [] => none
    | d :: ds => (escape? d ds).map fun (t, n) => (t, n + 1)
  | '.' => some (.point, 0)
  | '^' => some (.caret, 0)
  | '$' => some (.dollar, 0)
  | '|' => some (.bar, 0)
  | ')' => some (.closing, 0)
  | '(' => opening? rest
  | '[' => class? rest
  | '*' => some (repetition 0 none 0 rest)
  | '+' => some (repetition 1 none 0 rest)
  | '?' => some (repetition 0 (some 1) 0 rest)
  | '\x7b' =>
    match bounds? rest with
    | some (least, most, used) => some (repetition least most used rest)
    | none => some (char c, 0)
  | _ => some (char c, 0)

/-- The tokens of a written pattern. -/
def read? (s : Text) : Option (List Token) :=
  match s with
  | [] => some []
  | c :: cs =>
    match next? c cs with
    | none => none
    | some (t, n) => (read? (cs.drop n)).map (t :: ·)
termination_by s.length
decreasing_by simp only [List.length_drop, List.length_cons]; omega

end Token

end StyleCheck.Pattern
