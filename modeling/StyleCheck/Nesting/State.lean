/-
  StyleCheck.Nesting.State — the stack of blocks, and what conditionals do to it.

  1. The stack has the innermost block first. A block is pushed where it begins and popped where
     it ends; only the innermost one is ever changed.
  2. Of a conditional part, the first branch counts: at an alternative the stack goes back to what
     it was before the conditional, and at its end to what it was before the first alternative. The
     frames keep these stacks, the innermost conditional first.
  3. The block that was innermost when a line began is watched through the line (`Watch`): it may
     stay on the stack, be popped, or be lost when the stack is replaced. In the latter two cases
     the last it was seen is kept.
-/

import StyleCheck.Nesting.Block

namespace StyleCheck

/-- A conditional part: the stack before it, the stack before its first alternative, and whether
there has been one. -/
structure Frame where
  beforeIf : List Block
  beforeElse : List Block := []
  seenElse : Bool := false
  deriving DecidableEq, Repr

/-- What has become of the block that was innermost when the line began. -/
inductive Watch where
  | nothing
  /-- It is on the stack, with `height - 1` blocks below it. -/
  | onStack (height : Nat)
  | gone (b : Block)
  deriving DecidableEq, Repr

structure Nesting where
  stack : List Block := []
  frames : List Frame := []
  watch : Watch := .nothing
  deriving DecidableEq, Repr

namespace Nesting

def top? (st : Nesting) : Option Block := st.stack.head?

/-- The block at a height, counted from the bottom, where the height is 1. -/
def atHeight? (stack : List Block) (height : Nat) : Option Block :=
  if height = 0 then none else stack.reverse[height - 1]?

/-- The block that was innermost when the line began, as it is now. -/
def previous? (st : Nesting) : Option Block :=
  match st.watch with
  | .nothing => none
  | .onStack height => atHeight? st.stack height
  | .gone b => some b

/-- Begins a new line. -/
def beginLine (st : Nesting) : Nesting :=
  { st with watch := if st.stack.isEmpty then .nothing else .onStack st.stack.length }

def push (st : Nesting) (b : Block) : Nesting := { st with stack := b :: st.stack }

def pop (st : Nesting) : Nesting :=
  match st.stack with
  | [] => st
  | b :: rest =>
    { st with
      stack := rest
      watch := if st.watch = .onStack (rest.length + 1) then .gone b else st.watch }

def mapTop (st : Nesting) (f : Block → Block) : Nesting :=
  match st.stack with
  | [] => st
  | b :: rest => { st with stack := f b :: rest }

/-- Puts another stack in place of the present one. -/
def swap (st : Nesting) (stack : List Block) : Nesting :=
  { st with
    stack := stack
    watch :=
      match st.previous? with
      | none => .nothing
      | some b => .gone b }

/-! ## Questions -/

/-- No opening bracket of the innermost block is still to come. -/
def headComplete (st : Nesting) : Bool :=
  match st.stack with
  | [] => true
  | b :: _ => b.opened

def inNamespace (st : Nesting) : Bool := (st.top?.map Block.isNamespace).getD false

def inLinkage (st : Nesting) : Bool := (st.top?.map Block.isLinkage).getD false

def inClass (st : Nesting) : Bool := (st.top?.map Block.isClass).getD false

def inAssembly (st : Nesting) : Bool := (st.top?.map fun b => b.assembly != .none).getD false

/-- The innermost class with its block. -/
def innermostClass? (st : Nesting) : Option (Block × ClassHead) :=
  st.stack.findSome? fun b => b.classHead?.map fun head => (b, head)

/-- The innermost block stands directly in the block that was innermost when the line began. -/
def entered (st : Nesting) : Bool :=
  match st.watch with
  | .onStack height => st.stack.length == height + 1
  | _ => false

/-! ## Conditionals -/

def openConditional (st : Nesting) : Nesting :=
  { st with frames := { beforeIf := st.stack } :: st.frames }

def switchConditional (st : Nesting) : Nesting :=
  match st.frames with
  | [] => st
  | frame :: outer =>
    let frame :=
      if frame.seenElse then frame else { frame with seenElse := true, beforeElse := st.stack }
    { st.swap frame.beforeIf with frames := frame :: outer }

def closeConditional (st : Nesting) : Nesting :=
  match st.frames with
  | [] => st
  | frame :: outer =>
    let st := if frame.seenElse then st.swap frame.beforeElse else st
    { st with frames := outer }

/-- The effect of a line that may be a conditional directive. -/
def preprocess (st : Nesting) (line : Text) : Nesting :=
  match Directive.condition? line with
  | some .opening => st.openConditional
  | some .alternative => st.switchConditional
  | some .closing => st.closeConditional
  | none => st

end Nesting

end StyleCheck
