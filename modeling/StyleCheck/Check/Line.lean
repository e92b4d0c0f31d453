/-
  StyleCheck.Check.Line — all rules for one line, in the order in which they speak.

  The rules share what has been learnt from the lines above (`Progress`): the nesting of blocks,
  the length of the current function and the headers included. Assembly code is not looked at
  any further once the nesting is known.
-/

import StyleCheck.HeaderGuard.Name
import StyleCheck.Include.Line
import StyleCheck.Nesting.Update
import StyleCheck.Rule.AltTokens
import StyleCheck.Rule.Assertion
import StyleCheck.Rule.BraceSpacing
import StyleCheck.Rule.Braces
import StyleCheck.Rule.CallSpacing
import StyleCheck.Rule.Casts
import StyleCheck.Rule.EmptyBody
import StyleCheck.Rule.Features
import StyleCheck.Rule.FunctionLength
import StyleCheck.Rule.GlobalString
import StyleCheck.Rule.Inheritance
import StyleCheck.Rule.Language
import StyleCheck.Rule.LineShape
import StyleCheck.Rule.Misuse
import StyleCheck.Rule.Multiline
import StyleCheck.Rule.NamespaceIndent
import StyleCheck.Rule.Nonstandard
import StyleCheck.Rule.OperatorSpacing
import StyleCheck.Rule.ParenSpacing
import StyleCheck.Rule.Printf
import StyleCheck.Rule.References
import StyleCheck.Rule.SectionSpacing
import StyleCheck.Rule.Spacing
import StyleCheck.Rule.TrailingSemicolon

namespace StyleCheck

/-- A rule that looks at one line of a file and needs nothing else but the settings. -/
abbrev LineRule := Settings → Source → Nat → Outcome

/-- The file that is checked. -/
structure Context where
  tree : FileTree
  settings : Settings
  /-- The path of the file as the user gave it. -/
  file : Text
  extension : Text
  /-- Rules that are asked beside the usual ones. -/
  extra : List LineRule := []

def Context.isHeader (c : Context) : Bool := c.settings.isHeader c.extension

structure Progress where
  nesting : Nesting := {}
  length : FunctionLength := {}
  includes : IncludeTable := {}

namespace Check

/-- The name of the header guard, in headers. -/
def guard? (c : Context) : Except Failure (Option HeaderGuard.Name) :=
  if c.isHeader then (HeaderGuard.nameOf c.tree c.settings c.file).map some else .ok none

/-- The length of the line, which in headers depends on the name of the guard. -/
def extent (c : Context) (s : Source) (n : Nat) : Outcome :=
  match guard? c with
  | .error e => ⟨[], some e⟩
  | .ok none => Rule.LineShape.extent c.settings none s n
  | .ok (some guard) =>
    ⟨guard.remarks, none⟩
      ++ (Rule.LineShape.extent c.settings (some guard.text) s n : Outcome)

def sectionSpacing (s : Source) (st : Nesting) (n : Nat) : List Finding :=
  match st.innermostClass? with
  | none => []
  | some (b, head) => Rule.SectionSpacing.findings s b head n

/-- How the line is written. -/
def style (c : Context) (s : Source) (st : Nesting) (n : Nat) : Outcome :=
  .sequence
    [Rule.LineShape.margins s n,
     extent c s n,
     Rule.Braces.findings c.settings s n,
     Rule.TrailingSemicolon.outcome s n,
     Rule.EmptyBody.findings s n,
     Rule.Spacing.findings s st n,
     Rule.OperatorSpacing.findings s n,
     Rule.ParenSpacing.findings s n,
     Rule.CommaSpacing.findings s n,
     Rule.BraceSpacing.findings s st n,
     Rule.CallSpacing.findings s n,
     Rule.Assertion.findings s n,
     Rule.AltTokens.findings s n,
     sectionSpacing s st n]

/-- What the line uses of the language, and the headers included after it. -/
def language (c : Context) (s : Source) (table : IncludeTable) (n : Nat) : IncludeTable × Outcome :=
  let line := s.elided n
  if line.isEmpty then (table, .nothing)
  else if (Include.ofLine? line).isSome then IncludeLine.update c.tree c.file s n table
  else
    let table :=
      match Directive.condition? line with
      | some condition => table.condition condition
      | none => table
    (table,
      .sequence
        [Rule.Casts.outcome s n,
         Rule.GlobalString.findings s n,
         Rule.Printf.findings s n,
         Rule.Language.findings c.isHeader s n])

/-- What is said about the line itself when it is no assembly code. -/
def code (c : Context) (s : Source) (p : Progress) (n : Nat) : Progress × Outcome :=
  let (length, long) := p.length.update c.settings.verbosity s n
  let (includes, spoken) := language c s p.includes n
  ({ p with length := length, includes := includes },
    .sequence
      ([(long : Outcome),
        Rule.multiline s n,
        style c s p.nesting n,
        spoken,
        Rule.References.findings s p.nesting n,
        Rule.nonstandard s p.nesting n,
        Rule.verbosityLevel s n,
        Rule.threadSafety s n,
        Rule.invalidIncrement s n,
        Rule.makePair s n,
        Rule.redundantVirtual s n,
        Rule.redundantOverride s n]
        ++ c.extra.map fun rule => rule c.settings s n))

/-- All that is said about line `n`, and what has been learnt after it. -/
def line (c : Context) (s : Source) (p : Progress) (n : Nat) : Progress × Outcome :=
  let (nesting, blocks) := p.nesting.update s n
  let p := { p with nesting := nesting }
  let opening : Outcome :=
    ⟨[.suppress (s.raw n) n], none⟩ ++ (blocks : Outcome)
      ++ (Rule.namespaceIndent s nesting n : Outcome)
  let (p, said) := if nesting.inAssembly then (p, .nothing) else code c s p n
  (p, .sequence [opening, said, Rule.Features.cxx11 s n])

/-- All that is said about `count` lines from line `n` on. -/
def lines (c : Context) (s : Source) (p : Progress) (n : Nat) : (count : Nat) → Progress × Outcome
  | 0 => (p, .nothing)
  | count + 1 =>
    let here := line c s p n
    if here.2.failure.isSome then here
    else
      let later := lines c s here.1 (n + 1) count
      (later.1, here.2 ++ later.2)

end Check

end StyleCheck
