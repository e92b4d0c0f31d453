/-
  StyleCheck.Rule.Assertion — assertions that compare should use the comparing macro.

  The expression of the assertion is read from the left up to the first comparison that does not
  stand in round brackets. A logical operator on the way, or after the comparison, means that there
  is more than one term; then nothing is said. One side must be a literal, as only literals can
  surely be printed.
-/

import StyleCheck.Bracket.Match

namespace StyleCheck.Rule.Assertion

open Pattern

structure Macro where
  name : String
  /-- The comparing macros begin so. -/
  stem : String
  /-- Asserts that the expression is false. -/
  negated : Bool

def macros : List Macro :=
  [⟨"DCHECK", "DCHECK_", false⟩, ⟨"CHECK", "CHECK_", false⟩, ⟨"EXPECT_TRUE", "EXPECT_", false⟩,
   ⟨"ASSERT_TRUE", "ASSERT_", false⟩, ⟨"EXPECT_FALSE", "EXPECT_", true⟩,
   ⟨"ASSERT_FALSE", "ASSERT_", true⟩]

def Macro.call (m : Macro) : Pattern :=
  start ++ group 1 (anything ++ edge ++ literal m.name.toList ++ blanks) ++ "("

/-- The first macro of the list that the line calls, and the column of its bracket. -/
def findMacro? (line : Text) : Option (Macro × Nat) :=
  macros.findSome? fun m => (m.call.match? line).map fun found => (m, (found.group 1).length)

inductive Comparison where
  | eq
  | ne
  | ge
  | gt
  | le
  | lt
  deriving DecidableEq, Repr

namespace Comparison

def sign : Comparison → String
  | eq => "=="
  | ne => "!="
  | ge => ">="
  | gt => ">"
  | le => "<="
  | lt => "<"

def label : Comparison → String
  | eq => "EQ"
  | ne => "NE"
  | ge => "GE"
  | gt => "GT"
  | le => "LE"
  | lt => "LT"

def negate : Comparison → Comparison
  | eq => ne
  | ne => eq
  | ge => lt
  | gt => le
  | le => gt
  | lt => ge

end Comparison

def Macro.replacement (m : Macro) (c : Comparison) : String :=
  m.stem ++ (if m.negated then c.negate else c).label

/-! ## Reading the expression -/

inductive Token where
  | bracket
  /-- A logical operator. -/
  | logical
  /-- An operator that is neither logical nor a comparison. -/
  | other (sign : Text)
  | comparison (c : Comparison)
  deriving DecidableEq, Repr

/-- The operators, a longer one before those it begins with. -/
def tokens : List (Text × Token) :=
  [("<<".toList, .other "<<".toList), (">>".toList, .other ">>".toList),
   ("->*".toList, .other "->*".toList), ("->".toList, .other "->".toList), ("&&".toList, .logical),
   ("||".toList, .logical), ("==".toList, .comparison .eq), ("!=".toList, .comparison .ne),
   (">=".toList, .comparison .ge), (">".toList, .comparison .gt), ("<=".toList, .comparison .le),
   ("<".toList, .comparison .lt), ("(".toList, .bracket)]

/-- The operator or bracket an expression begins with, and what follows it. -/
def token? (expression : Text) : Option (Token × Text) :=
  let s := expression.dropWhile Text.isBlank
  match tokens.find? fun t => t.1.isPrefixOf s with
  | none => none
  | some (sign, token) => (Text.restOfLine? (s.drop sign.length)).map fun rest => (token, rest)

def isOperand (c : Char) : Bool := !"-=!<>()&|".toList.contains c

/-- A part of an operand at the beginning of an expression, and what follows it: a run of
characters that are no signs, or else one character. -/
def operand? (expression : Text) : Option (Text × Text) :=
  match expression with
  | [] => none
  | c :: cs =>
    if isOperand c then
      (Text.restOfLine? (expression.dropWhile isOperand)).map fun rest =>
        (expression.takeWhile isOperand, rest)
    else (Text.restOfLine? cs).map fun rest => ([c], rest)

theorem tokens_pos {t : Text × Token} (h : t ∈ tokens) : 0 < t.1.length := by
  revert t
  decide

theorem token?_length {expression rest : Text} {t : Token}
    (h : token? expression = some (t, rest)) : rest.length < expression.length := by
  have hd := Text.length_dropWhile_le Text.isBlank expression
  simp only [token?] at h
  split at h
  · cases h
  · rename_i sign token hfind
    obtain ⟨r, hr, he⟩ := Option.map_eq_some_iff.1 h
    cases he
    have hmem := tokens_pos (List.mem_of_find?_eq_some hfind)
    have hbegins := List.find?_some hfind
    have hpre := (List.isPrefixOf_iff_prefix.1 hbegins).length_le
    have hlen := Text.restOfLine?_length hr
    rw [List.length_drop] at hlen
    simp only at hmem hpre
    omega

theorem operand?_length {expression lead rest : Text}
    (h : operand? expression = some (lead, rest)) : rest.length < expression.length := by
  cases expression with
  | nil => simp [operand?] at h
  | cons c cs =>
    simp only [operand?] at h
    split at h
    · rename_i hc
      obtain ⟨r, hr, he⟩ := Option.map_eq_some_iff.1 h
      cases he
      have hlen := Text.restOfLine?_length hr
      have hd := Text.length_dropWhile_le isOperand cs
      simp only [List.dropWhile, hc] at hlen
      simp only [List.length_cons]
      omega
    · obtain ⟨r, hr, he⟩ := Option.map_eq_some_iff.1 h
      cases he
      have hlen := Text.restOfLine?_length hr
      simp only [List.length_cons]
      omega

/-- A comparison with what stands on both sides. -/
structure Term where
  left : Text
  comparison : Comparison
  right : Text

/-- The first comparison of an expression; `left` is what has been read before it. -/
def term? (left expression : Text) : Option Term :=
  match _h : token? expression with
  | some (.bracket, rest) =>
    match Bracket.scan [.round] [] 0 rest with
    | .found stop => term? (left ++ '(' :: rest.take stop) (rest.drop stop)
    | _ => none
  | some (.logical, _) => none
  | some (.other sign, rest) => term? (left ++ sign) rest
  | some (.comparison c, rest) => some ⟨left, c, rest⟩
  | none =>
    match _ho : operand? expression with
    | some (lead, rest) => term? (left ++ lead) rest
    | none => none
termination_by expression.length
decreasing_by
  · have := token?_length _h
    simp only [List.length_drop]
    omega
  · exact token?_length _h
  · exact operand?_length _ho

def literalConstant : Pattern :=
  start
    ++ group 1
      (opt (anyOf "-+")
          ++ group 2 (some1 decimal
            ||| "0" ++ anyOf "xX" ++ some1 (one (.union [.range '0' '9', .range 'a' 'f', .range 'A' 'F'])))
          ++ upTo 3 (anyOf "lLuU")
        ||| "\"" ++ anything ++ "\"" ||| "'" ++ anything ++ "'")
    ++ finish

/-- The comparison can be made by a comparing macro. -/
def Term.isReplaceable (t : Term) : Bool :=
  !t.left.isEmpty && !t.right.isEmpty && !Text.holds t.right "&&".toList
    && !Text.holds t.right "||".toList
    && (literalConstant.opens (Text.strip t.left) || literalConstant.opens (Text.strip t.right))

/-! ## Lines -/

/-- The text between a bracket on line `n` and the place `p` after the one that closes it. -/
def between (s : Source) (n column : Nat) (p : Place) : Text :=
  if n == p.line then Text.slice (column + 1) (p.column - 1) (s.elided n)
  else
    (s.elided n).drop (column + 1)
      ++ (s.textFrom Line.elided (n + 1) (p.line - (n + 1))).flatten
      ++ (s.elided p.line).take (p.column - 1)

def findings (s : Source) (n : Nat) : List Finding :=
  match findMacro? (s.elided n) with
  | none => []
  | some (m, column) =>
    let r := Bracket.findClose s n column
    match r.place with
    | none => []
    | some p =>
      if Text.opensWith ';' r.rest then
        match term? [] (between s n column p) with
        | none => []
        | some t =>
          Finding.when t.isReplaceable
            ⟨n, .readabilityCheck, 2,
              "Consider using " ++ m.replacement t.comparison ++ " instead of " ++ m.name ++
                "(a " ++ t.comparison.sign ++ " b)"⟩
      else []

end StyleCheck.Rule.Assertion
