/-
  StyleCheck.Rule.FunctionLength — functions should be short.

  1. A function begins on a line without indentation that looks like the head of one and is
     followed by an opening bracket; it ends at a closing bracket alone in the first column. The
     lines between that are not blank are counted.
  2. The limit is a base, higher for tests, doubled for every level of verbosity, and halved for
     every level below nought.
  3. The confidence of the finding is the number of times the base has to be doubled to come
     near the number of lines, or with a minus sign, halved; it is 5 at most.
-/

import StyleCheck.Source.Lines

namespace StyleCheck

structure FunctionLength where
  /-- Between the head of a function and its end. -/
  inside : Bool := false
  lines : Nat := 0
  name : Text := []
  deriving DecidableEq, Repr

namespace FunctionLength

def enter (_ : FunctionLength) (name : Text) : FunctionLength := ⟨true, 0, name⟩

def count (f : FunctionLength) (lines : Nat) : FunctionLength :=
  if f.inside then { f with lines := f.lines + lines } else f

def leave (f : FunctionLength) : FunctionLength := { f with inside := false }

/-- The number of lines allowed at verbosity nought. -/
def base (name : Text) : Nat :=
  if Text.startsWith name "TEST".toList || Text.startsWith name "Test".toList then 400 else 250

/-- More lines than the limit `base * 2 ^ verbosity`. The power is not worked out, as it may be
very large. -/
def exceeds (lines base : Nat) : (verbosity : Int) → Bool
  | .ofNat v => 0 < lines && base ≤ (lines - 1) >>> v
  | .negSucc v => base >>> (v + 1) < lines

theorem exceeds_ofNat (lines base v : Nat) : exceeds lines base (.ofNat v) = true ↔ base <<< v < lines := by
  simp only [exceeds, Nat.shiftRight_eq_div_pow, Nat.shiftLeft_eq, Bool.and_eq_true, decide_eq_true_eq,
    Nat.le_div_iff_mul_le (Nat.two_pow_pos v)]
  omega

theorem exceeds_negSucc (lines base v : Nat) :
    exceeds lines base (.negSucc v) = true ↔ base < lines <<< (v + 1) := by
  simp only [exceeds, Nat.shiftRight_eq_div_pow, Nat.shiftLeft_eq, decide_eq_true_eq,
    Nat.div_lt_iff_lt_mul (Nat.two_pow_pos (v + 1))]

/-- The whole part of the limit. -/
def limit (base : Nat) : (verbosity : Int) → Nat
  | .ofNat v => base <<< v
  | .negSucc v => base >>> (v + 1)

/-- The whole part of the binary logarithm of `lines / base`. -/
def level (lines base : Nat) : Int :=
  if base ≤ lines then (Nat.log2 (lines / base) : Int) else -(Nat.log2 (base / lines) : Int)

def check (f : FunctionLength) (verbosity line : Int) : List Finding :=
  let base := base f.name
  if f.inside && exceeds f.lines base verbosity then
    [⟨line, .readabilityFnSize, min (level f.lines base) 5,
      "Small and focused functions are preferred: " ++ String.ofList f.name ++ " has " ++
        toString f.lines ++ " non-comment lines (error triggered by exceeding " ++
        toString (limit base verbosity) ++ " lines)."⟩]
  else []

/-! ## Lines of a file -/

open Pattern in
/-- The head of a function, up to the bracket of its parameter list. -/
def head : Pattern :=
  group 1 (word ++ many (group 2 (word ||| "::" ||| "*" ||| "&" ||| blank))) ++ "("

open Pattern in
/-- A name in capitals, which is taken for a macro. -/
def macroName : Pattern := some1 (one (.union [.range 'A' 'Z', .among "_".toList])) ++ finish

open Pattern in
def calledName : Pattern := group 1 (many (group 2 (word ||| ":"))) ++ "("

open Pattern in
def parameterList : Pattern := group 1 ("(" ++ anything ++ ")")

/-- The line begins a function: it looks like the head of one and does not call a macro. -/
def isHead (line : Text) : Bool :=
  match head.match? line with
  | none => false
  | some m =>
    let name := (Text.words (m.group 1)).getLast?.getD []
    name == "TEST".toList || name == "TEST_F".toList || !macroName.opens name

/-- The name under which the function of the head `line` is reported; `joined` is all of the head. -/
def title (line joined : Text) : Text :=
  let name := ((calledName.search? line).map (·.group 1)).getD []
  if Text.startsWith name "TEST".toList then
    match parameterList.search? joined with
    | some m => name ++ m.group 1
    | none => name
  else name ++ "()".toList

inductive Body where
  /-- The head is a declaration, or the whole function stands on its lines. -/
  | trivial
  | begins (joined : Text)
  | missing

/-- Looks for the body of a function on `count` lines from `line` on; `joined` is the head so far. -/
def findBody (s : Source) (line : Nat) (joined : Text) : (count : Nat) → Body
  | 0 => .missing
  | count + 1 =>
    let text := s.code line
    let joined := joined ++ ' ' :: Text.stripLeft text
    if text.contains ';' || text.contains '}' then .trivial
    else if text.contains '{' then .begins joined
    else findBody s (line + 1) joined count

/-- A closing bracket in the first column, and nothing else. -/
def isEnd (line : Text) : Bool :=
  match line with
  | '}' :: rest => rest.all Text.isBlank
  | _ => false

def update (verbosity : Int) (s : Source) (f : FunctionLength) (n : Nat) :
    FunctionLength × List Finding :=
  let line := s.code n
  if isHead line then
    match findBody s n [] (s.size - n) with
    | .trivial => (f, [])
    | .begins joined => (f.enter (title line joined), [])
    | .missing =>
      (f, [⟨n, .readabilityFnSize, 5, "Lint failed to find start of function body."⟩])
  else if isEnd line then (f.leave, f.check verbosity n)
  else if Text.allBlank line then (f, [])
  else (f.count 1, [])

end FunctionLength

end StyleCheck
