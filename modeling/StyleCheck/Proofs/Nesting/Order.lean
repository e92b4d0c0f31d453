/-
  StyleCheck.Proofs.Nesting.Order — the blocks on a stack are in order.

  Blocks are put on the stack with the line that is being read, and their beginnings never change. So
  inner blocks never begin above outer ones, and no block begins below the lines read so far. Only
  classes and namespaces ever wait for their bracket, and only a plain block is assembly code as a
  whole. These are the fields of `InOrder`. Every move keeps them (`InOrder.move`), so they hold after
  every line, for the stacks that conditionals have put aside too (`stacks_inOrder`).
-/

import StyleCheck.Proofs.Nesting.Moves

namespace StyleCheck.Nesting

structure InOrder (n : Nat) (stack : List Block) : Prop where
  begun : ∀ b ∈ stack, b.start ≤ n
  outward : stack.Pairwise fun inner outer => outer.start ≤ inner.start
  waiting : ∀ b ∈ stack, b.opened = false → b.isClass = true ∨ b.isNamespace = true
  whole : ∀ b ∈ stack, b.assembly = .whole → b.isPlain = true

theorem Begins.start {s : Source} {n : Nat} {b : Block} (h : Begins s n b) : b.start = n := by
  cases h <;> rfl

theorem Begins.waiting {s : Source} {n : Nat} {b : Block} (h : Begins s n b) (ho : b.opened = false) :
    b.isClass = true ∨ b.isNamespace = true := by
  cases h with
  | space => exact .inr rfl
  | type => exact .inl rfl
  | linkage | plain | assembly => cases ho

theorem Begins.whole {s : Source} {n : Nat} {b : Block} (h : Begins s n b) (ha : b.assembly = .whole) : b.isPlain = true := by
  cases h with
  | plain | assembly => rfl
  | space | type | linkage => cases ha

/-- A block stays what it is. -/
theorem Continues.sort {b b' : Block} (h : Continues b b') :
    b'.isClass = b.isClass ∧ b'.isNamespace = b.isNamespace ∧ b'.isPlain = b.isPlain := by
  unfold Block.isClass Block.classHead? Block.isNamespace Block.isPlain
  rcases h.kind with hk | ⟨head, head', hk, hk', -⟩
  · rw [hk]
    exact ⟨rfl, rfl, rfl⟩
  · rw [hk, hk']
    exact ⟨rfl, rfl, rfl⟩

namespace InOrder

variable {s : Source} {n : Nat} {b b' : Block} {stack stack' : List Block}

theorem nil (n : Nat) : InOrder n [] := ⟨nofun, .nil, nofun, nofun⟩

theorem later (h : InOrder n stack) : InOrder (n + 1) stack where
  begun b hb := Nat.le_succ_of_le (h.begun b hb)
  outward := h.outward
  waiting := h.waiting
  whole := h.whole

theorem push (h : InOrder n stack) (hb : Begins s n b) : InOrder n (b :: stack) where
  begun := List.forall_mem_cons.mpr ⟨Nat.le_of_eq hb.start, h.begun⟩
  outward := List.pairwise_cons.mpr ⟨fun outer ho => hb.start ▸ h.begun outer ho, h.outward⟩
  waiting := List.forall_mem_cons.mpr ⟨hb.waiting, h.waiting⟩
  whole := List.forall_mem_cons.mpr ⟨hb.whole, h.whole⟩

theorem pop (h : InOrder n (b :: stack)) : InOrder n stack where
  begun := (List.forall_mem_cons.mp h.begun).2
  outward := (List.pairwise_cons.mp h.outward).2
  waiting := (List.forall_mem_cons.mp h.waiting).2
  whole := (List.forall_mem_cons.mp h.whole).2

theorem change (h : InOrder n (b :: stack)) (hb : Continues b b') : InOrder n (b' :: stack) := by
  obtain ⟨hclass, hspace, hplain⟩ := hb.sort
  obtain ⟨hbegun, hrest⟩ := List.forall_mem_cons.mp h.begun
  obtain ⟨hinner, houter⟩ := List.pairwise_cons.mp h.outward
  obtain ⟨hwaiting, hwaits⟩ := List.forall_mem_cons.mp h.waiting
  obtain ⟨hwhole, hwholes⟩ := List.forall_mem_cons.mp h.whole
  refine ⟨List.forall_mem_cons.mpr ⟨hb.start ▸ hbegun, hrest⟩,
    List.pairwise_cons.mpr ⟨fun outer ho => hb.start ▸ hinner outer ho, houter⟩,
    List.forall_mem_cons.mpr ⟨fun ho => ?_, hwaits⟩, List.forall_mem_cons.mpr ⟨fun ha => ?_, hwholes⟩⟩
  · rw [hclass, hspace]
    refine hwaiting (Bool.eq_false_iff.mpr fun hopen => ?_)
    rw [hb.opened hopen] at ho
    cases ho
  · rw [hplain]
    exact hwhole (hb.whole.mp ha)

theorem move (hm : Move s n stack stack') (h : InOrder n stack) : InOrder n stack' := by
  cases hm with
  | push hb => exact h.push hb
  | pop => exact h.pop
  | change hb => exact h.change hb

end InOrder

theorem stacks_inOrder (s : Source) (n : Nat) : ∀ stack ∈ (before s (n + 1)).allStacks, InOrder n stack :=
  stacks_induction s InOrder.nil InOrder.later InOrder.move n

/-! ## Beginnings -/

structure StartedBy (n : Nat) (st : Nesting) : Prop where
  stack : ∀ b ∈ st.stack, b.start ≤ n
  frames : ∀ frame ∈ st.frames, ∀ b ∈ frame.beforeIf ++ frame.beforeElse, b.start ≤ n

theorem StartedBy.mono {n m : Nat} {st : Nesting} (h : StartedBy n st) (hm : n ≤ m) : StartedBy m st where
  stack b hb := Nat.le_trans (h.stack b hb) hm
  frames frame hf b hb := Nat.le_trans (h.frames frame hf b hb) hm

/-- Before line `n + 1` all blocks begin on line `n` or above, before the first line there are none. -/
theorem before_startedBy (s : Source) (n : Nat) : StartedBy (n - 1) (before s n) := by
  cases n with
  | zero => exact ⟨nofun, nofun⟩
  | succ n =>
    have hall := stacks_inOrder s n
    refine ⟨(hall _ (stack_mem_allStacks _)).begun, fun frame hf b hb => ?_⟩
    rcases List.mem_append.mp hb with hb | hb
    · exact (hall _ (mem_allStacks.mpr (.inr ⟨frame, hf, .inl rfl⟩))).begun b hb
    · exact (hall _ (mem_allStacks.mpr (.inr ⟨frame, hf, .inr rfl⟩))).begun b hb

end StyleCheck.Nesting
