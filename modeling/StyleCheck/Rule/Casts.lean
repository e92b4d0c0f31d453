/-
  StyleCheck.Rule.Casts — casts should say what they do.

  1. A type in the place of a function, and a type in brackets before a value, are casts that could
     be anything. Function types, arrays, placement new and aliases look alike and are left alone;
     so are the arguments of macros, and places where a function type is expected.
  2. The address of the result of a cast may be the address of a temporary. If the result is
     dereferenced on the way, brackets should make that clear.
-/

import StyleCheck.Bracket.Match

namespace StyleCheck.Rule.Casts

open Pattern

/-! ## Where a function type is expected -/

def mockHead : Pattern :=
  start ++ blanks ++ "MOCK_" ++ opt (group 1 "CONST_") ++ "METHOD" ++ some1 decimal ++ opt (group 2 "_T")
    ++ "("

def mockHeadOpen : Pattern := mockHead ++ opt (some1 notBlank ++ ",") ++ blanks ++ finish

def mockHeadBare : Pattern := mockHead ++ blanks ++ finish

def functionTemplate : Pattern :=
  edge ++ "std::" ++ opt "m" ++ "function" ++ blanks ++ "<" ++ blanks ++ finish

def expectsFunction (s : Source) (n : Nat) : Bool :=
  mockHead.opens (s.elided n)
    || (2 ≤ n
      && (mockHeadOpen.opens (s.elided (n - 1)) || mockHeadBare.opens (s.elided (n - 2))
        || functionTemplate.occursIn (s.elided (n - 1))))

/-! ## Types as functions -/

/-- Group 1 shows that this is no cast, group 2 is the type and group 3 what follows it. -/
def conversion : Pattern :=
  opt (group 1
      (edge ++ "new" ++ some1 blank ++ opt ("const" ++ some1 blank)
        ||| notBlank ++ "<" ++ blanks ++ opt ("const" ++ some1 blank)))
    ++ edge
    ++ group 2 (oneOf ["int", "float", "double", "bool", "char", "int32", "uint32", "int64", "uint64"])
    ++ group 3 ("(" ++ noneOf ")" ++ anything)

def arrayAfter : Pattern := "(" ++ some1 (noneOf "()") ++ ")" ++ blanks ++ "["

def functionAfter : Pattern :=
  "(" ++ opt (some1 (noneOf "() ") ++ "::" ++ blanks ++ "*" ++ blanks) ++ some1 (noneOf "() ") ++ ")"
    ++ blanks ++ "("

def aliasOf (type : Text) : Pattern :=
  blanks ++ "using" ++ some1 blank ++ some1 notBlank ++ blanks ++ "=" ++ blanks ++ literal type

def placementOf (type : Text) : Pattern :=
  "new(" ++ some1 notBlank ++ ")" ++ blanks ++ literal type

/-- What a type in the place of a function turned out to be. -/
inductive Conversion where
  | none
  /-- An array, after which nothing more is looked for on the line. -/
  | array
  | cast (type : Text)

def conversionOf (line : Text) : Conversion :=
  match conversion.search? line with
  | Option.none => .none
  | some m =>
    let type := m.group 2
    let after := m.group 3
    if arrayAfter.opens after then .array
    else if (m.group? 1).isNone && !functionAfter.opens after
        && !Text.startsWith after "(*)".toList && !(aliasOf type).opens line
        && !(placementOf type).occursIn line then .cast type
    else .none

/-! ## Types in brackets -/

/-- A cast of the old style: what it looks like, group 1 being the type, and what to use instead. -/
structure OldCast where
  pattern : Pattern
  instead : String

def arithmetic : OldCast where
  pattern :=
    "(" ++ group 1 (oneOf ["int", "float", "double", "bool", "char"]
      ||| opt "u" ++ "int" ++ group 2 (oneOf ["16", "32", "64"])) ++ ")"
  instead := "static_cast"

def ofString : OldCast where
  pattern := "(" ++ group 1 ("char" ++ opt blank ++ some1 "*" ++ opt blank) ++ ")" ++ blanks ++ "\""
  instead := "const_cast"

def ofPointer : OldCast where
  pattern := "(" ++ group 1 (some1 word ++ opt blank ++ some1 "*" ++ opt blank) ++ ")"
  instead := "reinterpret_cast"

def capitals : Pattern :=
  one (.union [.range 'A' 'Z', .among "_".toList])
    ++ many (one (.union [.range 'A' 'Z', .range '0' '9', .among "_".toList]))

def operatorBefore : Pattern :=
  anything ++ edge ++ (oneOf ["sizeof", "alignof", "alignas"] ||| capitals) ++ blanks ++ finish

def insideMacro : Pattern :=
  anything ++ edge ++ capitals ++ blanks ++ "("
    ++ many ("(" ++ many (noneOf "()") ++ ")" ||| noneOf "()") ++ finish

/-- What follows the parameter of a function without a name. -/
def afterParameter : Pattern :=
  start ++ blanks
    ++ (";" ||| "const" ++ edge ||| "throw" ++ edge ||| "final" ++ edge ||| "override" ++ edge
      ||| anyOf "=>\x7b)," ||| "->")

/-- The text before a cast, with up to four lines above; the first line of the file is left out. -/
def context (s : Source) (n : Nat) (before : Text) : Text :=
  let first := n - 4
  let first := if first == 0 then 1 else first
  (s.textFrom Line.elided first (n - first)).flatten ++ before

/-- The type of a cast of the old style on line `n`. -/
def OldCast.find? (c : OldCast) (s : Source) (n : Nat) : Option Text :=
  match c.pattern.search? (s.elided n) with
  | none => none
  | some m =>
    let before := (s.elided n).take m.start
    let wide := context s n before
    if operatorBefore.opens before || insideMacro.opens wide
        || Text.endsWith wide " operator++".toList || Text.endsWith wide " operator--".toList
        || afterParameter.opens m.rest then none
    else some (m.group 1)

def OldCast.findings (c : OldCast) (s : Source) (n : Nat) : List Finding :=
  match c.find? s n with
  | none => []
  | some type =>
    [⟨n, .readabilityCasting, 4,
      "Using C-style cast.  Use " ++ c.instead ++ "<" ++ String.ofList type ++ ">(...) instead"⟩]

/-! ## Addresses -/

def addressOfCast : Pattern :=
  notWord ++ "&(" ++ group 1 (noneOf ")*" ++ many (noneOf ")")) ++ ")"
      ++ one (.union [.word, .among "(".toList])
    ||| notWord ++ "&" ++ group 2 (oneOf ["static", "dynamic", "down", "reinterpret"]) ++ "_cast" ++ edge

def addressOfNamedCast : Pattern :=
  start ++ group 1 (anything ++ "&" ++ oneOf ["static", "dynamic", "down", "reinterpret"] ++ "_cast" ++ edge)
    ++ "<"

def dereference : Pattern := blanks ++ oneOf ["->", "["]

/-- The expression of the cast that begins at the place after its type is dereferenced. -/
def isDereferenced (s : Source) (p : Place) : Bool :=
  let r := Bracket.findClose s p.line p.column
  match r.place with
  | none => false
  | some q =>
    dereference.opens (r.rest ++ if q.line + 1 < s.size then s.elided (q.line + 1) else [])

/-- The result of the named cast on line `n` is dereferenced. There is a failure if the type ends
the line. -/
def takesDereferenced (s : Source) (n : Nat) : Except Failure Bool :=
  match addressOfNamedCast.match? (s.elided n) with
  | none => .ok false
  | some m =>
    let r := Bracket.findClose s n (m.group 1).length
    match r.place with
    | none => .ok false
    | some p =>
      match r.rest.head? with
      | none => .error .outOfRange
      | some c => .ok (c == '(' && isDereferenced s p)

def addresses (s : Source) (n : Nat) : Outcome :=
  if addressOfCast.occursIn (s.elided n) then
    match takesDereferenced s n with
    | .error e => ⟨[], some e⟩
    | .ok true =>
      [(⟨n, .readabilityCasting, 4,
        "Are you taking an address of something dereferenced from a cast?  Wrapping the " ++
          "dereferenced expression in parentheses will make the binding more obvious"⟩ : Finding)]
    | .ok false =>
      [(⟨n, .runtimeCasting, 4,
        "Are you taking an address of a cast?  This is dangerous: could be a temp var.  " ++
          "Take the address before doing the cast, rather than after"⟩ : Finding)]
  else .nothing

/-! ## Lines -/

def oldCasts (s : Source) (n : Nat) (expects : Bool) : List Finding :=
  let strings := ofString.findings s n
  (if expects then [] else arithmetic.findings s n)
    ++ strings ++ if strings.isEmpty then ofPointer.findings s n else []

def outcome (s : Source) (n : Nat) : Outcome :=
  let expects := expectsFunction s n
  match if expects then .none else conversionOf (s.elided n) with
  | .array => .nothing
  | .cast type =>
    ((⟨n, .readabilityCasting, 4,
        "Using deprecated casting style.  Use static_cast<" ++ String.ofList type ++
          ">(...) instead"⟩ :: oldCasts s n expects : List Finding) : Outcome)
      ++ addresses s n
  | .none => (oldCasts s n expects : Outcome) ++ addresses s n

end StyleCheck.Rule.Casts
