/-
  StyleCheck.Rule.References — parameters should not be references to what can be changed.

  The rule reads declarations only: lines outside function bodies and initializer lists that do not
  belong to an overriding function or to the definition of a member function outside its class.
  Streams and functions that exchange values are exempt. A type that is broken over two lines is
  joined first.
-/

import StyleCheck.Nesting.State
import StyleCheck.Rule.Inheritance

namespace StyleCheck.Rule.References

open Pattern

/-! ## What a line belongs to -/

def callStart : Pattern := start ++ group 1 (many (noneOf "()") ++ some1 word) ++ "("

/-- The nearest of `count` lines, from line `n` upwards, that begins with a name and its bracket:
the line and the column of the bracket. -/
def headAbove? (s : Source) (n : Nat) : (count : Nat) → Option Place
  | 0 => none
  | count + 1 =>
    match callStart.match? (s.elided n) with
    | some m => some ⟨n, (m.group 1).length⟩
    | none =>
      match n with
      | 0 => none
      | n + 1 => headAbove? s n count

/-- A function head is at most ten lines long. -/
def functionHead? (s : Source) (n : Nat) : Option Place := headAbove? s n 10

/-- The line belongs to a function that overrides another one. -/
def isDerived (s : Source) (n : Nat) : Bool :=
  match functionHead? s n with
  | none => false
  | some p =>
    let r := Bracket.findClose s p.line p.column
    r.place.isSome && overrideWord.occursIn r.rest

def qualifiedHead : Pattern := start ++ many (noneOf "()") ++ some1 word ++ "::" ++ some1 word ++ "("

/-- The line belongs to the definition of a member function outside its class. -/
def isOutOfLine (s : Source) (n : Nat) : Bool :=
  match functionHead? s n with
  | none => false
  | some p => qualifiedHead.opens (s.elided p.line)

def bodyStart : Pattern := start ++ group 1 anything ++ "\x7b" ++ blanks ++ finish

def memberInitializer : Pattern := blank ++ ":" ++ blanks ++ some1 word ++ anyOf "(\x7b"

def bracedInitializer : Pattern := "\x7d" ++ blanks ++ "," ++ blanks ++ finish

def statementEnd : Pattern := anyOf "\x7b\x7d;" ++ blanks ++ finish

/-- What the text of a line says about the question whether an initializer list goes on there. -/
def initializerVerdict (line : Text) : Option Bool :=
  if memberInitializer.occursIn line || bracedInitializer.occursIn line then some true
  else if statementEnd.occursIn line then some false
  else none

/-- The nearest line at or above line `n`, from the second line of the file on, that says whether
an initializer list goes on. -/
def initializersAt (s : Source) : (n : Nat) → Bool
  | 0 | 1 => false
  | n + 2 =>
    match initializerVerdict (s.elided (n + 2)) with
    | some verdict => verdict
    | none => initializersAt s (n + 1)

/-- The line stands in the initializer list of a constructor. An opening bracket at its end belongs
to the body. -/
def isInitializerList (s : Source) (n : Nat) : Bool :=
  if n < 2 then false
  else
    let line := s.elided n
    let line :=
      match bodyStart.match? line with
      | some m => m.group 1
      | none => line
    match initializerVerdict line with
    | some verdict => verdict
    | none => initializersAt s (n - 1)

def endsInList : Pattern := anyOf ")," ++ blanks ++ finish

def colonAtStart : Pattern := start ++ blanks ++ ":" ++ some1 blank ++ notBlank

/-- One of the `count` lines above line `n` begins an initializer list that goes on to line `n`. -/
def listBegunAbove (s : Source) (n : Nat) : (count : Nat) → Bool
  | 0 => false
  | count + 1 =>
    let line := s.elided (n - 1)
    endsInList.occursIn line && (colonAtStart.opens line || listBegunAbove s (n - 1) count)

/-! ## Broken types -/

def nameChar : Pattern := one (.union [.word, .among "<>".toList]) ||| "::"

def scopeAtStart : Pattern :=
  blanks ++ "::" ++ some1 nameChar ++ blanks ++ "&" ++ blanks ++ notBlank

def nameAtStart : Pattern :=
  blanks ++ one (.union [.range 'a' 'z', .range 'A' 'Z', .among "_".toList])
    ++ some1 (group 1 nameChar) ++ blanks ++ "&" ++ blanks ++ notBlank

def nameAtEnd : Pattern :=
  edge ++ group 1 (opt ("const" ++ blanks) ++ some1 nameChar ++ one (.union [.word, .among "<>".toList]))
    ++ blanks ++ finish

def scopeAtEnd : Pattern :=
  edge ++ group 1 (opt ("const" ++ blanks) ++ some1 nameChar ++ "::") ++ blanks ++ finish

/-- The beginning of a type on the line above that goes on in `line`. -/
def typeAbove? (above line : Text) : Option Text :=
  if scopeAtStart.opens line then (nameAtEnd.search? above).map (·.group 1)
  else if nameAtStart.opens line then (scopeAtEnd.search? above).map (·.group 1)
  else none

/-- The lines from the beginning of the template argument list that ends on line `n`, if it begins
above. -/
def argumentsAbove? (s : Source) (n : Nat) : Option Text :=
  match Text.locateLast? '>' (s.elided n) with
  | none => none
  | some column =>
    match (Bracket.findOpen s n column).place with
    | none => none
    | some p =>
      if p.line < n then
        some ((s.textFrom Line.elided p.line (n + 1 - p.line)).map Text.strip).flatten
      else none

/-- The line with the parts of its types that stand above. -/
def joined (s : Source) (n : Nat) : Text :=
  let line := s.elided n
  if n ≤ 1 then line
  else
    match typeAbove? (s.elided (n - 1)) line with
    | some lead => lead ++ Text.stripLeft line
    | none => (argumentsAbove? s n).getD line

/-! ## Parameters -/

def continuedLine : Pattern := "\\" ++ blanks ++ finish

def exempt : Pattern :=
  (anyOf "sS" ++ "wap" ++ opt ("<" ++ word ++ some1 ":" ++ ">")
      ||| "operator" ++ blanks ++ anyOf "<>" ++ anyOf "<>" ||| "static_assert" ||| "COMPILE_ASSERT")
    ++ blanks ++ "("

def openCall : Pattern := some1 notBlank ++ "(" ++ many (noneOf ")") ++ finish

/-- The parameters belong to a function that is exempt. If no function is named on the line, the
two lines above may name it. -/
def isExempt (s : Source) (n : Nat) (line : Text) : Bool :=
  exempt.occursIn line
    || (!openCall.occursIn line
      && ((0 < n && exempt.occursIn (s.elided (n - 1)))
        || (1 < n && exempt.occursIn (s.elided (n - 2)))))

def identifier : Pattern :=
  one (.union [.range 'a' 'z', .range 'A' 'Z', .among "_".toList]) ++ many word

/-- A type, with template arguments nested up to three deep. -/
def type : Pattern :=
  opt ("const" ++ some1 blank)
    ++ opt (oneOf ["typename", "class", "struct", "union", "enum"] ++ some1 blank)
    ++ some1
      (word
        ||| blanks ++ "<"
          ++ many ("<" ++ many ("<" ++ many (noneOf "<>") ++ ">" ||| noneOf "<>") ++ ">" ||| noneOf "<>")
          ++ ">"
        ||| "::")

def referenceParameter : Pattern :=
  group 1 (type ++ many (blanks ++ (edge ++ "const" ++ edge ||| "*")) ++ blanks ++ "&" ++ blanks ++ identifier)
    ++ blanks ++ opt ("=" ++ some1 (noneOf ",()")) ++ anyOf ",)"

def constantReference : Pattern :=
  anything ++ blanks ++ edge ++ "const" ++ blanks ++ "&" ++ blanks ++ identifier
    ||| "const" ++ some1 blank ++ type ++ blanks ++ "&" ++ blanks ++ identifier

def streamReference : Pattern := anything ++ "stream" ++ blanks ++ "&" ++ blanks ++ identifier

def body : Pattern := "\x7b" ++ many (noneOf "\x7d") ++ "\x7d"

def blankBeforeAngle : Pattern := many " " ++ "<"

def parameterFindings (n : Nat) (line : Text) : List Finding :=
  let parameters := (referenceParameter.occurrences (body.replaceAll [' '] line)).map (·.group 1)
  (parameters.filter fun p => !constantReference.opens p && !streamReference.opens p).map fun p =>
    ⟨n, .runtimeReferences, 2,
      "Is this a non-const reference? If so, make const or use a pointer: " ++
        String.ofList (blankBeforeAngle.replaceAll ['<'] p)⟩

/-- The line begins outside function bodies. -/
def beginsInDeclarations (st : Nesting) : Bool :=
  match st.previous? with
  | none => true
  | some b => b.isClass || b.isNamespace

def findings (s : Source) (st : Nesting) (n : Nat) : List Finding :=
  if !(s.elided n).contains '&' || isDerived s n || isOutOfLine s n then []
  else
    let line := joined s n
    if !beginsInDeclarations st || listBegunAbove s n (min 9 (n - 1))
        || continuedLine.occursIn line || isInitializerList s n || isExempt s n line then []
    else parameterFindings n line

end StyleCheck.Rule.References
