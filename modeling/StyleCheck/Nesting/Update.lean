/-
  StyleCheck.Nesting.Update — following the blocks of a file line by line.

  A line is read in this order: a conditional directive takes effect; the innermost block counts
  the round brackets of the line; namespaces at the beginning of the line are entered, several if
  they follow one another; a class declaration is entered, unless it is a template argument; the
  access label of the innermost class is noted; and the curly brackets, semicolons and closing
  round brackets of what is left of the line open and close blocks.
-/

import StyleCheck.Nesting.BlockEnd
import StyleCheck.Nesting.State
import StyleCheck.Nesting.Template

namespace StyleCheck

namespace Nesting

open Pattern in
/-- The beginning of assembly code. -/
def assemblyStart : Pattern :=
  start ++ blanks ++ oneOf ["asm", "_asm", "__asm", "__asm__"]
    ++ opt (some1 blank ++ group 1 (oneOf ["volatile", "__volatile__"])) ++ blanks ++ anyOf "\x7b("

/-! ## Round brackets and assembly code -/

def Assembly.next (a : Assembly) (change parens : Int) (line : Text) : Assembly :=
  match a with
  | .none | .ending =>
    if change != 0 && parens == 1 && assemblyStart.opens line then .inside else .none
  | .inside => if parens == 0 then .ending else .inside
  | .whole => .whole

def countParens (line : Text) (b : Block) : Block :=
  let change : Int := line.count '(' - line.count ')'
  let parens := b.parens + change
  { b with parens := parens, assembly := Assembly.next b.assembly change parens line }

/-! ## Heads -/

/-- A namespace at the beginning of a line: its name, whether its bracket is on the line, and the
rest of the line after the bracket, or after the name. -/
structure NamespaceHead where
  name : Text
  opened : Bool
  rest : Text

def isNameChar (c : Char) : Bool := Text.isWord c || c == ':'

def namespaceHead? (line : Text) : Option NamespaceHead :=
  let s := line.dropWhile Text.isBlank
  if "namespace".toList.isPrefixOf s then
    match s.drop 9 with
    | [] => some ⟨[], false, []⟩
    | c :: after =>
      if Text.isWord c then none
      else
        let named := (c :: after).dropWhile Text.isBlank
        match Text.restOfLine? (named.dropWhile isNameChar) with
        | none => none
        | some rest =>
          let name := named.takeWhile isNameChar
          match rest.dropWhile (· != '{') with
          | [] => some ⟨name, false, rest⟩
          | _ :: inner => some ⟨name, true, inner⟩
  else none

theorem namespaceHead?_length {line : Text} {h : NamespaceHead} (eq : namespaceHead? line = some h) :
    h.rest.length < line.length := by
  have h0 := Text.length_dropWhile_le Text.isBlank line
  simp only [namespaceHead?] at eq
  split at eq
  · rename_i hp
    have hlen := (List.isPrefixOf_iff_prefix.1 hp).length_le
    have h9 : ("namespace".toList).length = 9 := rfl
    rw [h9] at hlen
    split at eq
    · cases eq
      simp only [List.length_nil]
      omega
    · rename_i c after hd
      have hdl : (List.drop 9 (List.dropWhile Text.isBlank line)).length
          = (List.dropWhile Text.isBlank line).length - 9 := List.length_drop
      rw [hd] at hdl
      split at eq
      · cases eq
      · have h1 := Text.length_dropWhile_le Text.isBlank (c :: after)
        have h2 := Text.length_dropWhile_le isNameChar ((c :: after).dropWhile Text.isBlank)
        split at eq
        · cases eq
        · rename_i rest hr
          have h3 := Text.restOfLine?_length hr
          have h4 := Text.length_dropWhile_le (· != '{') rest
          split at eq
          · cases eq
            simp only
            omega
          · rename_i hb
            cases eq
            rw [hb] at h4
            simp only [List.length_cons] at h4
            simp only
            omega
  · cases eq

/-- Enters the namespaces at the beginning of `text`, and gives back what is left of it. -/
def enterNamespaces (line : Nat) (st : Nesting) (text : Text) : Nesting × Text :=
  match _h : namespaceHead? text with
  | none => (st, text)
  | some head => enterNamespaces line (st.push ⟨.space head.name, line, head.opened, 0, .none⟩) head.rest
termination_by text.length
decreasing_by exact namespaceHead?_length _h

open Pattern in
/-- A class declaration: group 1 is all up to the name, group 2 the keyword, group 3 the name and
group 4 the rest of the line. Words in capitals before the name are decoration. -/
def classDeclaration : Pattern :=
  start
    ++ group 1
      (blanks
        ++ opt ("template" ++ blanks ++ "<"
          ++ many (one (.union [.word, .blank, .among "<>,:".toList])) ++ ">" ++ blanks)
        ++ group 2 (oneOf ["class", "struct"]) ++ some1 blank
        ++ many (some1 (one (.union [.range 'A' 'Z', .among "_".toList])) ++ some1 blank)
        ++ group 3 (some1 word ++ many ("::" ++ some1 word)))
    ++ group 4 anything ++ finish

/-- Enters the class declared in `text`, what is left of line `line`. -/
def enterClass (s : Source) (line : Nat) (st : Nesting) (text : Text) : Nesting × Text :=
  match classDeclaration.match? text with
  | none => (st, text)
  | some m =>
    if (st.top?.map fun b => b.parens == 0).getD true
        && !Template.inside s line (m.group 1).length then
      let head := ClassHead.declared s line (m.group 3) (m.group 2 == "struct".toList)
      (st.push ⟨.type head, line, false, 0, .none⟩, m.group 4)
    else (st, text)

open Pattern in
/-- A colon that is not part of a scope operator. -/
def bareColon : Pattern :=
  group 1 (start ||| noneOf ":") ++ ":" ++ group 2 (finish ||| noneOf ":")

/-- A class whose head has a colon on line `line` is derived. -/
def noteBases (s : Source) (line : Nat) (st : Nesting) : Nesting :=
  if st.headComplete then st
  else if bareColon.occursIn (s.elided line) then
    st.mapTop (Block.mapHead fun head => { head with derived := true })
  else st

open Pattern in
/-- An access label: group 1 is what stands before it, group 2 the label and group 3 what stands
between the label and its colon. -/
def accessLabel : Pattern :=
  start ++ group 1 anything ++ edge
    ++ group 2 (oneOf ["public", "private", "protected", "signals"])
    ++ opt (group 3 (some1 blank ++ opt ("slots" ++ blanks))) ++ ":" ++ (noneOf ":" ||| finish)

def noteAccess (line : Nat) (st : Nesting) (text : Text) : Nesting × List Finding :=
  match st.top?.bind Block.classHead?, accessLabel.match? text with
  | some head, some m =>
    let access := (Access.ofName? (m.group 2)).getD head.access
    let indent := m.group 1
    let st := st.mapTop (Block.mapHead fun head => { head with access := access })
    (st,
      Finding.when (indent.length != head.indent + 1 && Text.allBlank indent)
        ⟨line, .whitespaceIndent, 3,
          String.ofList (m.group 2 ++ m.group 3) ++ ": should be indented +1 space inside " ++
            head.title⟩)
  | _, _ => (st, [])

/-! ## Brackets -/

def isToken (c : Char) : Bool := c == '{' || c == ';' || c == ')' || c == '}'

/-- The first token of a text, and the rest of the line after it. -/
def token? (text : Text) : Option (Char × Text) :=
  match text.dropWhile fun c => !isToken c with
  | [] => none
  | c :: after => (Text.restOfLine? after).map fun rest => (c, rest)

theorem token?_length {text rest : Text} {c : Char} (h : token? text = some (c, rest)) :
    rest.length < text.length := by
  have hd := Text.length_dropWhile_le (fun c => !isToken c) text
  simp only [token?] at h
  split at h
  · cases h
  · rename_i heq
    obtain ⟨r, hr, he⟩ := Option.map_eq_some_iff.1 h
    cases he
    have := Text.restOfLine?_length hr
    rw [heq] at hd
    simp only [List.length_cons] at hd
    omega

open Pattern in
/-- The head of a linkage specification at the beginning of a text. -/
def linkageHead : Pattern :=
  start ++ "extern" ++ blanks ++ "\"" ++ many (noneOf "\"") ++ "\"" ++ blanks ++ "\x7b"

/-- An opening curly bracket, the first token of `text`. -/
def openCurly (line : Nat) (st : Nesting) (text : Text) : Nesting :=
  if !st.headComplete then st.mapTop fun b => { b with opened := true }
  else if linkageHead.opens text then st.push ⟨.linkage, line, true, 0, .none⟩
  else st.push ⟨.plain, line, true, 0, if assemblyStart.opens text then .whole else .none⟩

/-- A semicolon or a closing round bracket: a head without a bracket was only a declaration. -/
def endDeclaration (st : Nesting) : Nesting := if st.headComplete then st else st.pop

def closeCurly (s : Source) (line : Nat) (st : Nesting) : Nesting × List Finding :=
  match st.top? with
  | none => (st, [])
  | some b => (st.pop, BlockEnd.findings s b line)

/-- The effect of the token `c`, the first one of `text`. -/
def applyToken (s : Source) (line : Nat) (st : Nesting) (text : Text) (c : Char) :
    Nesting × List Finding :=
  if c == '{' then (openCurly line st text, [])
  else if c == '}' then closeCurly s line st
  else (endDeclaration st, [])

def applyTokens (s : Source) (line : Nat) (st : Nesting) (text : Text) : Nesting × List Finding :=
  match _h : token? text with
  | none => (st, [])
  | some (c, rest) =>
    let (st, here) := applyToken s line st text c
    let (st, later) := applyTokens s line st rest
    (st, here ++ later)
termination_by text.length
decreasing_by exact token?_length _h

/-! ## Lines -/

/-- The state after line `line`, and what is to be said about the blocks that begin and end on it. -/
def update (s : Source) (st : Nesting) (line : Nat) : Nesting × List Finding :=
  let text := s.elided line
  let st := (st.beginLine.preprocess text).mapTop (countParens text)
  let (st, text) := enterNamespaces line st text
  let (st, text) := enterClass s line st text
  let st := noteBases s line st
  let (st, labelled) := noteAccess line st text
  let (st, ended) := applyTokens s line st text
  (st, labelled ++ ended)

/-- Classes and namespaces that are not complete at the end of the file, the outermost first. -/
def incomplete (st : Nesting) : List Finding :=
  st.stack.reverse.flatMap fun b =>
    match b.kind with
    | .type head =>
      [⟨b.start, .buildClass, 5,
        "Failed to find complete declaration of class " ++ String.ofList head.name⟩]
    | .space name =>
      [⟨b.start, .buildNamespaces, 5,
        "Failed to find complete declaration of namespace " ++ String.ofList name⟩]
    | .plain | .linkage => []

end Nesting

end StyleCheck
