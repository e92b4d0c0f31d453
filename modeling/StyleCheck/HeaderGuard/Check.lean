/-
  StyleCheck.HeaderGuard.Check — does a header have the guard it should have?

  The first `#ifndef` and the first `#define` name the guard; the last `#endif` has a comment that
  names it again, a block comment only if the file has no line comments. A second low line at the
  end of the name is an old custom and draws a finding of no confidence. A suppression comment for
  this very category, anywhere in the file, turns the rule off.
-/

import StyleCheck.HeaderGuard.Name
import StyleCheck.Source.Lines

namespace StyleCheck.HeaderGuard

open Pattern in
def suppressed : Pattern := "//" ++ blanks ++ "NOLINT(build/header_guard)"

/-- The first directive of the given name that has an argument: its line and the argument. -/
def firstDirective? (name : String) (lines : List Text) : Option (Nat × Text) :=
  lines.zipIdx.findSome? fun (line, n) =>
    match Text.words line with
    | word :: argument :: _ => if word == name.toList then some (n, argument) else none
    | _ => none

/-- The last line that begins with `#endif`, and its number; line nought if there is none. -/
def lastEndif (lines : List Text) : Nat × Text :=
  lines.zipIdx.foldl
    (fun last (line, n) => if Text.startsWith line "#endif".toList then (n, line) else last) (0, [])

open Pattern in
/-- The end of a guard with a line comment; group 1 is a second low line. -/
def lineEnding (guard : Text) : Pattern :=
  "#endif" ++ blanks ++ "//" ++ blanks ++ literal guard ++ opt (group 1 "_") ++ edge

open Pattern in
/-- The end of a guard with a block comment. -/
def blockEnding (guard : Text) : Pattern :=
  "#endif" ++ blanks ++ "/*" ++ blanks ++ literal guard ++ opt (group 1 "_") ++ blanks ++ "*/"

/-- Skips to after the next quote of the given kind. -/
def afterQuote? (quote : Char) : Text → Option Text
  | [] => none
  | c :: rest => if c == quote then some rest else afterQuote? quote rest

theorem afterQuote?_length {quote : Char} {s rest : Text} (h : afterQuote? quote s = some rest) :
    rest.length < s.length := by
  induction s with
  | nil => simp [afterQuote?] at h
  | cons c cs ih =>
    simp only [afterQuote?] at h
    split at h
    · cases h; simp
    · have := ih h
      simp only [List.length_cons]
      omega

/-- The line has a line comment outside quotes. -/
def hasLineComment : Text → Bool
  | [] => false
  | c :: rest =>
    if Text.startsWith (c :: rest) "//".toList then true
    else if c == '\'' || c == '"' then
      match _h : afterQuote? c rest with
      | none => false
      | some after => hasLineComment after
    else hasLineComment rest
termination_by s => s.length
decreasing_by
  · have := afterQuote?_length _h
    simp only [List.length_cons]
    omega
  · simp

def said (n : Nat) (confidence : Int) (message : String) : Event :=
  .report ⟨n, .buildHeaderGuard, confidence, message⟩

/-- What is to be said about the comment at the end of the guard. -/
def endingEvents (lines : List Text) (guard : Text) : List Event :=
  let (n, text) := lastEndif lines
  let shown := String.ofList guard
  let line := "#endif line should be \"#endif  // " ++ shown ++ "\""
  let inner := (lines.drop 1).dropLast
  match (lineEnding guard).match? text with
  | some m => if (m.group? 1).isSome then [said n 0 line] else []
  | none =>
    match if inner.any hasLineComment then none else (blockEnding guard).match? text with
    | some m =>
      if (m.group? 1).isSome then
        [said n 0 ("#endif line should be \"#endif  /* " ++ shown ++ " */\"")]
      else []
    | none => [said n 5 line]

/-- What is to be said about a file whose guard should have the name `guard`, given the lines of
the file with raw strings emptied. -/
def events (lines : List Text) (guard : Text) : List Event :=
  let shown := String.ofList guard
  match firstDirective? "#ifndef" lines, firstDirective? "#define" lines with
  | some (n, name), some (_, defined) =>
    if name != defined then
      [said 0 5 ("No #ifndef header guard found, suggested CPP variable is: " ++ shown)]
    else
      let wrong :=
        if name == guard then []
        else
          [.suppress (lines.getD n []) n,
            said n (if name == guard ++ ['_'] then 0 else 5)
              ("#ifndef header guard has wrong style, please use: " ++ shown)]
      let last := (lastEndif lines).1
      wrong ++ .suppress (lines.getD last []) last :: endingEvents lines guard
  | _, _ => [said 0 5 ("No #ifndef header guard found, suggested CPP variable is: " ++ shown)]

def outcome (t : FileTree) (settings : Settings) (p : Text) (s : Source) : Outcome :=
  let lines := s.lines.toList.map Line.plain
  if lines.any suppressed.occursIn then .nothing
  else
    match nameOf t settings p with
    | .error e => ⟨[], some e⟩
    | .ok guard => ⟨guard.remarks ++ events lines guard.text, none⟩

end StyleCheck.HeaderGuard
