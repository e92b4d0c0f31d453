/-
  StyleCheck.Bracket.Scan — brackets on one line.

  Round, square and curly brackets always nest. A pair of angle brackets may be a template
  argument list, or its signs may be operators, and only what follows can tell. So an opening
  angle bracket is put on the stack tentatively: a closing angle bracket takes it off again, and a
  closing bracket of another kind or a semicolon shows that it was an operator. `scan` reads a line
  forwards and looks for the end of the expression at the bottom of the stack, `scanBack` reads it
  backwards and looks for the beginning.
-/

import StyleCheck.Text.Blank
import StyleCheck.Text.WordChar

namespace StyleCheck

inductive Bracket where
  | round
  | square
  | curly
  | angle
  deriving DecidableEq, Repr

namespace Bracket

def opening : Bracket → Char
  | round => '('
  | square => '['
  | curly => '{'
  | angle => '<'

def closing : Bracket → Char
  | round => ')'
  | square => ']'
  | curly => '}'
  | angle => '>'

/-- The bracket that a character other than an angle bracket opens. -/
def opens? (c : Char) : Option Bracket :=
  if c == '(' then some round
  else if c == '[' then some square
  else if c == '{' then some curly
  else none

/-- The bracket that a character other than an angle bracket closes. -/
def closes? (c : Char) : Option Bracket :=
  if c == ')' then some round
  else if c == ']' then some square
  else if c == '}' then some curly
  else none

/-- The open brackets, the innermost first. -/
abbrev Stack := List Bracket

/-- What a character does to the stack: it may leave a new one, complete the outermost bracket,
or show that the expression is not closed properly. -/
inductive Effect where
  | proceed (stack : Stack)
  | complete
  | broken
  deriving DecidableEq, Repr

/-- Takes the innermost bracket off. -/
def Effect.ofRest (rest : Stack) : Effect := if rest.isEmpty then .complete else .proceed rest

def dropAngles (stack : Stack) : Stack := stack.dropWhile (· == angle)

/-- Does `before`, written last character first, end in the word `word` and blanks? -/
def endsInWord (word : Text) (before : Text) : Bool :=
  let s := before.dropWhile Text.isBlank
  word.reverse.isPrefixOf s && !((s.drop word.length).head?.map Text.isWord).getD false

def endsInOperator (before : Text) : Bool := endsInWord "operator".toList before

/-- The brackets `b` and the innermost one that is no angle bracket must be of one kind. -/
def pair (b : Bracket) (stack : Stack) : Effect :=
  match dropAngles stack with
  | [] => .broken
  | top :: rest => if top == b then .ofRest rest else .broken

/-- A statement ends here: tentative angle brackets are none. -/
def endStatement (stack : Stack) : Effect :=
  match dropAngles stack with
  | [] => .broken
  | rest => .proceed rest

/-! ## Forwards -/

/-- An opening angle bracket after `before`. The second one of a shift takes the first one off; one
that belongs to the name of an operator does not count. -/
def openAngle (before : Text) (stack : Stack) : Effect :=
  if before.head? == some '<' then
    match stack with
    | angle :: rest => if rest.isEmpty then .broken else .proceed rest
    | _ => .proceed stack
  else if endsInOperator before then .proceed stack
  else .proceed (angle :: stack)

/-- A closing angle bracket after `before`: not one of an arrow or of the name of an operator. -/
def closeAngle (before : Text) (stack : Stack) : Effect :=
  if before.head? == some '-' || endsInOperator (before.drop 1) then .proceed stack
  else
    match stack with
    | angle :: rest => .ofRest rest
    | _ => .proceed stack

/-- The effect of `c` when a line is read forwards; `before` is what stands before it, last
character first. -/
def effect (before : Text) (c : Char) (stack : Stack) : Effect :=
  match opens? c, closes? c with
  | some b, _ => .proceed (b :: stack)
  | none, some b => pair b stack
  | none, none =>
    if c == '<' then openAngle before stack
    else if c == '>' then closeAngle before stack
    else if c == ';' then endStatement stack
    else .proceed stack

/-- How the search ends on one line. -/
inductive Scan where
  | found (column : Nat)
  | broken
  | unfinished (stack : Stack)
  deriving DecidableEq, Repr

/-- Reads `s` forwards from column `column`, `before` being what stands before it, last character
first. The column found is the one after the closing bracket. -/
def scan (stack : Stack) (before : Text) (column : Nat) : Text → Scan
  | [] => .unfinished stack
  | c :: rest =>
    match effect before c stack with
    | .complete => .found (column + 1)
    | .broken => .broken
    | .proceed stack => scan stack (c :: before) (column + 1) rest

/-- Reads `line` forwards from column `column` on. -/
def scanFrom (stack : Stack) (line : Text) (column : Nat) : Scan :=
  scan stack (line.take column).reverse column (line.drop column)

/-! ## Backwards -/

/-- Backwards a character may also take the one before it out of account. -/
inductive BackEffect where
  | plain (e : Effect)
  | skip (stack : Stack)

/-- A greater-or-equal sign with blanks around it, the part from the equals sign on being `after`. -/
def isComparison (before after : Text) : Bool :=
  (before.head?.map Text.isBlank).getD false &&
    match after with
    | '=' :: c :: _ => Text.isBlank c
    | _ => false

def backAngleClosing (before after : Text) (stack : Stack) : BackEffect :=
  if !before.isEmpty &&
      (before.head? == some '-' || isComparison before after || endsInOperator before) then
    .skip stack
  else .plain (.proceed (angle :: stack))

def backAngleOpening (before : Text) (stack : Stack) : BackEffect :=
  if before.head? == some '<' then .skip stack
  else
    match stack with
    | angle :: rest => .plain (.ofRest rest)
    | _ => .plain (.proceed stack)

/-- The effect of `c` when a line is read backwards; `before` is what stands before it, last
character first, and `after` what stands after it. -/
def backEffect (before after : Text) (c : Char) (stack : Stack) : BackEffect :=
  match opens? c, closes? c with
  | some b, _ => .plain (pair b stack)
  | none, some b => .plain (.proceed (b :: stack))
  | none, none =>
    if c == '>' then backAngleClosing before after stack
    else if c == '<' then backAngleOpening before stack
    else if c == ';' then .plain (endStatement stack)
    else .plain (.proceed stack)

/-- Reads backwards what is given last character first, `after` being what stands after it. The
column found is the one of the opening bracket. -/
def scanBack (stack : Stack) (after : Text) : Text → Scan
  | [] => .unfinished stack
  | c :: before =>
    match backEffect before after c stack with
    | .plain .complete => .found before.length
    | .plain .broken => .broken
    | .plain (.proceed stack) => scanBack stack (c :: after) before
    | .skip stack =>
      match before with
      | [] => .unfinished stack
      | b :: before => scanBack stack (b :: c :: after) before

/-- Reads `line` backwards from column `column` on. -/
def scanBackFrom (stack : Stack) (line : Text) (column : Nat) : Scan :=
  scanBack stack (line.drop (column + 1)) (line.take (column + 1)).reverse

end Bracket

end StyleCheck
