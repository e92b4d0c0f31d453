/-
  StyleCheck.Nesting.Block — the blocks a place in a file can be nested in.

  A block is a class, a namespace, a linkage specification or any other pair of curly brackets.
  Classes and namespaces are known from their heads on, so their opening bracket may still be to
  come. A block also counts the round brackets that are open in it, and whether they enclose
  assembly code.
-/

import StyleCheck.Source.Lines

namespace StyleCheck

inductive Access where
  | «public»
  | «private»
  | «protected»
  | signals
  deriving DecidableEq, Repr

def Access.label : Access → String
  | .public => "public"
  | .private => "private"
  | .protected => "protected"
  | .signals => "signals"

def Access.ofName? (s : Text) : Option Access :=
  [Access.public, .private, .protected, .signals].find? fun a => a.label.toList == s

open Pattern in
/-- The label that begins a section of a class. -/
def sectionLabel : Pattern := blanks ++ group 1 (oneOf ["public", "protected", "private"]) ++ ":"

structure ClassHead where
  name : Text
  /-- Declared with the keyword `struct`. -/
  isStruct : Bool
  derived : Bool
  access : Access
  /-- The indentation of the line that declares the class. -/
  indent : Nat
  /-- The first line from the declaration on after which as many curly brackets have been closed
  as opened; 0 if there is none. -/
  lastLine : Nat
  deriving DecidableEq, Repr

inductive BlockKind where
  | plain
  | linkage
  | space (name : Text)
  | type (head : ClassHead)
  deriving DecidableEq, Repr

inductive Assembly where
  | none
  | inside
  /-- On the last line of the assembly code. -/
  | ending
  /-- The whole block is assembly code. -/
  | whole
  deriving DecidableEq, Repr

structure Block where
  kind : BlockKind
  start : Nat
  /-- The opening bracket has been seen. -/
  opened : Bool
  parens : Int := 0
  assembly : Assembly := .none
  deriving DecidableEq, Repr

namespace Block

def isNamespace (b : Block) : Bool :=
  match b.kind with
  | .space _ => true
  | _ => false

def isLinkage (b : Block) : Bool :=
  match b.kind with
  | .linkage => true
  | _ => false

def isPlain (b : Block) : Bool :=
  match b.kind with
  | .plain => true
  | _ => false

def classHead? (b : Block) : Option ClassHead :=
  match b.kind with
  | .type head => some head
  | _ => none

def isClass (b : Block) : Bool := b.classHead?.isSome

/-- Classes and namespaces are not to be indented within a namespace. -/
def checksIndentation (b : Block) : Bool := b.isClass || b.isNamespace

def mapHead (f : ClassHead → ClassHead) (b : Block) : Block :=
  match b.kind with
  | .type head => { b with kind := .type (f head) }
  | _ => b

end Block

namespace ClassHead

/-- The line, among the `count` lines from `line` on, after which the depth of curly brackets is
nought again. -/
def endFrom (s : Source) (line : Nat) (depth : Int) : (count : Nat) → Nat
  | 0 => 0
  | count + 1 =>
    let text := s.elided line
    let depth := depth + text.count '{' - text.count '}'
    if depth == 0 then line else endFrom s (line + 1) depth count

/-- A class that is declared on line `line`. -/
def declared (s : Source) (line : Nat) (name : Text) (isStruct : Bool) : ClassHead where
  name := name
  isStruct := isStruct
  derived := false
  access := if isStruct then .public else .private
  indent := Text.indentation (s.raw line)
  lastLine := endFrom s line 0 (s.size - line)

/-- The class as messages name it. -/
def title (c : ClassHead) : String := (if c.isStruct then "struct " else "class ") ++ String.ofList c.name

end ClassHead

end StyleCheck
