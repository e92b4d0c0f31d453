/-
  StyleCheck.Proofs.Nesting.Moves — all that a line can do to the stack of blocks.

  (1) `Move` says once what can happen to the stack while a line is read: a block that begins on the
  line is put on it, the innermost block is taken off, or the innermost block is changed. All that a
  line does after its directive is a sequence of moves (`update_moves`).

  (2) A directive makes no new stack. It puts the present one aside or brings back one that was put
  aside (`preprocess_allStacks`).

  So what holds of the empty stack and is kept by every move holds after every line, of the present
  stack and of all stacks put aside (`stacks_induction`).
-/

import Mathlib.Logic.Relation
import StyleCheck.Proofs.Nesting.Run

namespace StyleCheck.Nesting

/-! ## Moves -/

inductive Begins (s : Source) (n : Nat) : Block → Prop
  | space (name : Text) (opened : Bool) : Begins s n ⟨.space name, n, opened, 0, .none⟩
  | type (name : Text) (isStruct : Bool) : Begins s n ⟨.type (ClassHead.declared s n name isStruct), n, false, 0, .none⟩
  | linkage : Begins s n ⟨.linkage, n, true, 0, .none⟩
  | plain : Begins s n ⟨.plain, n, true, 0, .none⟩
  | assembly : Begins s n ⟨.plain, n, true, 0, .whole⟩

structure SameClass (head head' : ClassHead) : Prop where
  name : head'.name = head.name
  lastLine : head'.lastLine = head.lastLine

structure Continues (b b' : Block) : Prop where
  start : b'.start = b.start
  kind : b'.kind = b.kind ∨ ∃ head head', b.kind = .type head ∧ b'.kind = .type head' ∧ SameClass head head'
  opened : b.opened = true → b'.opened = true
  whole : b'.assembly = .whole ↔ b.assembly = .whole

/-- What happens to the stack while line `n` is read. -/
inductive Move (s : Source) (n : Nat) : List Block → List Block → Prop
  | push {b : Block} {stack : List Block} : Begins s n b → Move s n stack (b :: stack)
  | pop {b : Block} {stack : List Block} : Move s n (b :: stack) stack
  | change {b b' : Block} {stack : List Block} : Continues b b' → Move s n (b :: stack) (b' :: stack)

abbrev Moves (s : Source) (n : Nat) : List Block → List Block → Prop := Relation.ReflTransGen (Move s n)

variable {s : Source} {n : Nat}

theorem pop_moves (st : Nesting) : Moves s n st.stack st.pop.stack := by
  unfold pop
  split
  · exact .refl
  · rename_i heq
    rw [heq]
    exact .single .pop

theorem mapTop_moves (st : Nesting) {f : Block → Block} (hf : ∀ b, Continues b (f b)) :
    Moves s n st.stack (st.mapTop f).stack := by
  unfold mapTop
  split
  · exact .refl
  · rename_i heq
    rw [heq]
    exact .single (.change (hf _))

/-! ## Changes of the innermost block -/

theorem mapHead_continues {f : ClassHead → ClassHead} (hf : ∀ head, SameClass head (f head)) (b : Block) :
    Continues b (b.mapHead f) := by
  unfold Block.mapHead
  split
  · rename_i head hk
    exact ⟨rfl, .inr ⟨head, f head, hk, rfl, hf head⟩, id, Iff.rfl⟩
  · exact ⟨rfl, .inl rfl, id, Iff.rfl⟩

theorem next_eq_whole_iff (a : Assembly) (change parens : Int) (line : Text) :
    Assembly.next a change parens line = .whole ↔ a = .whole := by
  cases a with
  | none | ending =>
    simp only [Assembly.next]
    split <;> simp
  | inside =>
    simp only [Assembly.next]
    split <;> simp
  | whole => simp [Assembly.next]

theorem countParens_continues (line : Text) (b : Block) : Continues b (countParens line b) where
  start := rfl
  kind := .inl rfl
  opened := id
  whole := next_eq_whole_iff _ _ _ _

theorem opened_continues (b : Block) : Continues b { b with opened := true } :=
  ⟨rfl, .inl rfl, fun _ => rfl, Iff.rfl⟩

/-! ## The parts of a line -/

theorem enterNamespaces_moves (st : Nesting) (text : Text) :
    Moves s n st.stack (enterNamespaces n st text).1.stack := by
  fun_induction enterNamespaces n st text with
  | case1 => exact .refl
  | case2 st text head _ ih => exact .head (.push (.space head.name head.opened)) ih

theorem enterClass_moves (s : Source) (st : Nesting) (text : Text) :
    Moves s n st.stack (enterClass s n st text).1.stack := by
  unfold enterClass
  split
  · exact .refl
  · simp only
    split
    · exact .single (.push (.type _ _))
    · exact .refl

theorem noteBases_moves (s : Source) (st : Nesting) : Moves s n st.stack (noteBases s n st).stack := by
  unfold noteBases
  split
  · exact .refl
  · split
    · exact mapTop_moves st (mapHead_continues fun _ => ⟨rfl, rfl⟩)
    · exact .refl

theorem noteAccess_moves (st : Nesting) (text : Text) : Moves s n st.stack (noteAccess n st text).1.stack := by
  unfold noteAccess
  split
  · exact mapTop_moves st (mapHead_continues fun _ => ⟨rfl, rfl⟩)
  · exact .refl

theorem openCurly_moves (st : Nesting) (text : Text) : Moves s n st.stack (openCurly n st text).stack := by
  unfold openCurly
  split
  · exact mapTop_moves st opened_continues
  · split
    · exact .single (.push .linkage)
    · split
      · exact .single (.push .assembly)
      · exact .single (.push .plain)

theorem applyToken_moves (s : Source) (st : Nesting) (text : Text) (c : Char) :
    Moves s n st.stack (applyToken s n st text c).1.stack := by
  unfold applyToken closeCurly endDeclaration
  split
  · exact openCurly_moves st text
  · split
    · split
      · exact .refl
      · exact pop_moves st
    · split
      · exact .refl
      · exact pop_moves st

theorem applyTokens_moves (s : Source) (st : Nesting) (text : Text) :
    Moves s n st.stack (applyTokens s n st text).1.stack := by
  fun_induction applyTokens s n st text with
  | case1 => exact .refl
  | case2 st text c rest _ st' here happ st'' later hlater ih =>
    have hfirst := applyToken_moves (n := n) s st text c
    rw [happ] at hfirst
    rw [hlater] at ih
    exact hfirst.trans ih

/-- All that a line does to the stack after its directive has taken effect. -/
theorem update_moves (s : Source) (st : Nesting) (n : Nat) :
    Moves s n (st.beginLine.preprocess (s.elided n)).stack (st.update s n).1.stack :=
  ((((mapTop_moves _ (countParens_continues _)).trans (enterNamespaces_moves _ _)).trans
    (enterClass_moves s _ _)).trans (noteBases_moves s _)).trans
    ((noteAccess_moves _ _).trans (applyTokens_moves s _ _))

/-! ## Stacks put aside -/

/-- The present stack and those that conditionals have put aside. -/
def allStacks (st : Nesting) : List (List Block) :=
  st.stack :: st.frames.flatMap fun frame => [frame.beforeIf, frame.beforeElse]

theorem mem_allStacks {st : Nesting} {stack : List Block} :
    stack ∈ st.allStacks ↔ stack = st.stack ∨ ∃ frame ∈ st.frames, stack = frame.beforeIf ∨ stack = frame.beforeElse := by
  simp [allStacks]

theorem stack_mem_allStacks (st : Nesting) : st.stack ∈ st.allStacks := List.mem_cons_self

/-- A directive makes no new stack; the empty one stands where no alternative has been seen yet. -/
theorem preprocess_allStacks (st : Nesting) (text : Text) {stack : List Block}
    (h : stack ∈ (st.preprocess text).allStacks) : stack ∈ st.allStacks ∨ stack = [] := by
  unfold preprocess at h
  split at h
  · simp only [openConditional, mem_allStacks] at h ⊢
    grind
  · unfold switchConditional at h
    split at h
    · exact .inl h
    · rename_i frame outer hf
      simp only [mem_allStacks, hf, swap_stack] at h ⊢
      split at h
      · grind
      · grind
  · unfold closeConditional at h
    split at h
    · exact .inl h
    · rename_i frame outer hf
      simp only [mem_allStacks, hf] at h ⊢
      split at h
      · simp only [swap_stack] at h
        grind
      · grind
  · exact .inl h

/-- What holds of the empty stack, stays true on later lines and is kept by every move holds of all
stacks after line `n`. -/
theorem stacks_induction (s : Source) {P : Nat → List Block → Prop} (nil : ∀ n, P n [])
    (later : ∀ {n stack}, P n stack → P (n + 1) stack)
    (move : ∀ {n stack stack'}, Move s n stack stack' → P n stack → P n stack') (n : Nat) :
    ∀ stack ∈ (before s (n + 1)).allStacks, P n stack := by
  -- the stacks on line `n`, once its directive has taken effect, are those before the line
  have line : ∀ n, (∀ stack ∈ (before s n).allStacks, P n stack) → ∀ stack ∈ (before s (n + 1)).allStacks, P n stack := by
    intro n hbefore stack hmem
    have hdirected : ∀ stack ∈ (directed s n).allStacks, P n stack := by
      intro stack hstack
      rcases preprocess_allStacks _ _ hstack with h | rfl
      · exact hbefore stack h
      · exact nil n
    rw [mem_allStacks, before_succ_frames] at hmem
    rcases hmem with rfl | hframe
    · have hmoves := update_moves s (before s n) n
      have hstart := hdirected _ (stack_mem_allStacks _)
      exact hmoves.rec hstart fun _ hmove ih => move hmove ih
    · exact hdirected stack (mem_allStacks.mpr (.inr hframe))
  induction n with
  | zero =>
    refine line 0 fun stack hmem => ?_
    have hnil : stack = [] := by simpa [before, allStacks] using hmem
    exact hnil ▸ nil 0
  | succ n ih => exact line (n + 1) fun stack hmem => later (ih stack hmem)

end StyleCheck.Nesting
