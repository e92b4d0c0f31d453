/-
  StyleCheck.Proofs.Nesting.Outline — what the nesting of a line depends on.

  The outline of a state shows of each block its kind, its name and whether its bracket has been seen.
  All else that a block records (lines, round brackets, access labels) is of no account when tokens
  are taken: states with one outline have one outline after the same text, on whatever line of whatever
  file it stands (`applyTokens_outline`). The same holds of the namespaces at the beginning of the text
  (`enterNamespaces_outline`). A class is entered only where no round bracket is open and the class is
  no template argument, so here the two states must agree on that too (`enterClass_outline`).
-/

import StyleCheck.Proofs.Nesting.Tokens

namespace StyleCheck

inductive Label where
  | plain
  | linkage
  | space (name : Text)
  | type (name : Text)
  deriving DecidableEq, Repr

def Block.label (b : Block) : Label :=
  match b.kind with
  | .plain => .plain
  | .linkage => .linkage
  | .space name => .space name
  | .type head => .type head.name

def Block.entry (b : Block) : Label × Bool := (b.label, b.opened)

namespace Nesting

def outline (st : Nesting) : List (Label × Bool) := st.stack.map Block.entry

section

variable {st st' : Nesting}

@[simp] theorem outline_push (st : Nesting) (b : Block) : (st.push b).outline = b.entry :: st.outline := rfl

@[simp] theorem outline_beginLine (st : Nesting) : st.beginLine.outline = st.outline := rfl

@[simp] theorem outline_pop (st : Nesting) : st.pop.outline = st.outline.tail := by
  unfold pop
  split
  · rename_i heq
    simp [outline, heq]
  · rename_i heq
    simp [outline, heq]

theorem headComplete_eq (st : Nesting) : st.headComplete = (st.outline.head?.map Prod.snd).getD true := by
  unfold headComplete
  split
  · rename_i heq
    simp [outline, heq]
  · rename_i heq
    simp [outline, heq, Block.entry]

theorem headComplete_congr (h : st.outline = st'.outline) : st.headComplete = st'.headComplete := by
  rw [headComplete_eq, headComplete_eq, h]

/-- A change of the innermost block that its entry does not show. -/
theorem outline_mapTop {f : Block → Block} (hf : ∀ b, (f b).entry = b.entry) (st : Nesting) :
    (st.mapTop f).outline = st.outline := by
  unfold mapTop
  split
  · rfl
  · rename_i heq
    simp [outline, heq, hf]

theorem outline_open (h : st.outline = st'.outline) :
    (st.mapTop fun b => { b with opened := true }).outline = (st'.mapTop fun b => { b with opened := true }).outline := by
  cases hs : st.stack with
  | nil =>
    cases hs' : st'.stack with
    | nil => simp [outline, mapTop, hs, hs']
    | cons b' rest' => simp [outline, hs, hs'] at h
  | cons b rest =>
    cases hs' : st'.stack with
    | nil => simp [outline, hs, hs'] at h
    | cons b' rest' =>
      simp only [outline, hs, hs', List.map_cons, List.cons.injEq, Block.entry, Prod.mk.injEq] at h
      obtain ⟨⟨hlabel, -⟩, hrest⟩ := h
      have hopened : ({ b with opened := true } : Block).label = ({ b' with opened := true } : Block).label := hlabel
      simp [outline, mapTop, hs, hs', Block.entry, hopened, hrest]

/-! ## Notes about the innermost block -/

theorem countParens_entry (line : Text) (b : Block) : (countParens line b).entry = b.entry := rfl

theorem mapHead_entry {f : ClassHead → ClassHead} (hf : ∀ head, (f head).name = head.name) (b : Block) :
    (b.mapHead f).entry = b.entry := by
  unfold Block.mapHead
  split
  · rename_i head hk
    simp [Block.entry, Block.label, hk, hf]
  · rfl

theorem outline_noteBases (s : Source) (line : Nat) (st : Nesting) : (noteBases s line st).outline = st.outline := by
  unfold noteBases
  split
  · rfl
  · split
    · apply outline_mapTop
      exact mapHead_entry fun _ => rfl
    · rfl

theorem outline_noteAccess (line : Nat) (st : Nesting) (text : Text) :
    (noteAccess line st text).1.outline = st.outline := by
  unfold noteAccess
  split
  · apply outline_mapTop
    exact mapHead_entry fun _ => rfl
  · rfl

/-! ## Tokens -/

theorem openCurly_outline (h : st.outline = st'.outline) (line line' : Nat) (text : Text) :
    (openCurly line st text).outline = (openCurly line' st' text).outline := by
  unfold openCurly
  rw [headComplete_congr h]
  split
  · exact outline_open h
  · split
    · simp only [outline_push, h]
      rfl
    · simp only [outline_push, h]
      rfl

theorem endDeclaration_outline (h : st.outline = st'.outline) :
    (endDeclaration st).outline = (endDeclaration st').outline := by
  unfold endDeclaration
  rw [headComplete_congr h]
  split
  · exact h
  · rw [outline_pop, outline_pop, h]

/-- A closing bracket takes the innermost block off, if there is one. -/
theorem outline_closeCurly (s : Source) (line : Nat) (st : Nesting) :
    (closeCurly s line st).1.outline = st.outline.tail := by
  unfold closeCurly
  split
  · rename_i htop
    simp only [top?, List.head?_eq_none_iff] at htop
    simp [outline, htop]
  · exact outline_pop st

theorem applyToken_outline (h : st.outline = st'.outline) (s s' : Source) (line line' : Nat) (text : Text) (c : Char) :
    (applyToken s line st text c).1.outline = (applyToken s' line' st' text c).1.outline := by
  unfold applyToken
  split
  · exact openCurly_outline h line line' text
  · split
    · rw [outline_closeCurly, outline_closeCurly, h]
    · exact endDeclaration_outline h

end

theorem applyTokens_outline (s s' : Source) (line line' : Nat) {st st' : Nesting} (h : st.outline = st'.outline)
    (text : Text) : (applyTokens s line st text).1.outline = (applyTokens s' line' st' text).1.outline := by
  fun_induction applyTokens s line st text generalizing st' with
  | case1 st text hnone =>
    rw [applyTokens]
    split
    · exact h
    · rename_i hsome
      rw [hnone] at hsome
      cases hsome
  | case2 st text c rest hsome st₁ here hfirst st₂ later hlater ih =>
    rw [applyTokens]
    split
    · rename_i hnone
      rw [hsome] at hnone
      cases hnone
    · rename_i c' rest' hsome'
      rw [hsome] at hsome'
      cases hsome'
      have hone := applyToken_outline h s s' line line' text c
      rw [hfirst] at hone
      rw [hlater] at ih
      exact ih hone

/-! ## Heads -/

def afterNamespaces (text : Text) : Text := (enterNamespaces 0 {} text).2

theorem enterNamespaces_rest (line : Nat) (st : Nesting) (text : Text) :
    (enterNamespaces line st text).2 = afterNamespaces text := by
  suffices ∀ line' st', (enterNamespaces line st text).2 = (enterNamespaces line' st' text).2 from this 0 {}
  fun_induction enterNamespaces line st text with
  | case1 st text hnone =>
    intro line' st'
    rw [enterNamespaces_of_none line' st' hnone]
  | case2 st text head hsome ih =>
    intro line' st'
    rw [enterNamespaces_of_some line' st' hsome]
    exact ih line' _

theorem enterNamespaces_outline (line line' : Nat) {st st' : Nesting} (h : st.outline = st'.outline) (text : Text) :
    (enterNamespaces line st text).1.outline = (enterNamespaces line' st' text).1.outline := by
  fun_induction enterNamespaces line st text generalizing st' with
  | case1 st text hnone =>
    rw [enterNamespaces_of_none line' st' hnone]
    exact h
  | case2 st text head hsome ih =>
    rw [enterNamespaces_of_some line' st' hsome]
    apply ih
    simp only [outline_push, h]
    rfl

def TopClear (st : Nesting) : Prop := ∀ b, st.top? = some b → b.parens = 0

theorem TopClear.push (st : Nesting) {b : Block} (hb : b.parens = 0) : TopClear (st.push b) := by
  intro b' h
  cases h
  exact hb

theorem TopClear.enterNamespaces {st : Nesting} (h : st.TopClear) (line : Nat) (text : Text) :
    (enterNamespaces line st text).1.TopClear := by
  fun_induction Nesting.enterNamespaces line st text with
  | case1 => exact h
  | case2 st text head _ ih => exact ih (.push st rfl)

theorem TopClear.test {st : Nesting} (h : st.TopClear) : (st.top?.map fun b => b.parens == 0).getD true = true := by
  cases htop : st.top? with
  | none => rfl
  | some b => simp [h b htop]

/-- A class is entered alike where no round bracket is open and the test for template arguments comes
out the same. -/
theorem enterClass_outline {s s' : Source} {line line' : Nat} {st st' : Nesting} (h : st.outline = st'.outline)
    (hclear : st.TopClear) (hclear' : st'.TopClear) {text : Text}
    (hinside : ∀ m, classDeclaration.match? text = some m →
      Template.inside s line (m.group 1).length = Template.inside s' line' (m.group 1).length) :
    (enterClass s line st text).1.outline = (enterClass s' line' st' text).1.outline ∧
    (enterClass s line st text).2 = (enterClass s' line' st' text).2 := by
  unfold enterClass
  cases hm : classDeclaration.match? text with
  | none => exact ⟨h, rfl⟩
  | some m =>
    simp only [hclear.test, hclear'.test, hinside m hm, Bool.true_and]
    split
    · refine ⟨?_, rfl⟩
      simp only [outline_push, h]
      rfl
    · exact ⟨h, rfl⟩

/-! ## What a line holds after its directive -/

/-- The state after `text`, which is what is left of line `line`, has been read. -/
def read (s : Source) (line : Nat) (st : Nesting) (text : Text) : Nesting :=
  (applyTokens s line (heads s line st text).1 (heads s line st text).2).1

theorem update_eq_read (s : Source) (st : Nesting) (line : Nat) :
    (st.update s line).1
      = read s line ((st.beginLine.preprocess (s.elided line)).mapTop (countParens (s.elided line))) (s.elided line) :=
  update_eq_applyTokens s st line

theorem read_of_namespace (s : Source) (line : Nat) (st : Nesting) {text : Text} {head : NamespaceHead}
    (h : namespaceHead? text = some head) :
    read s line st text = read s line (st.push ⟨.space head.name, line, head.opened, 0, .none⟩) head.rest := by
  simp only [read, heads, enterNamespaces_of_some line st h]

theorem read_outline {s s' : Source} {line line' : Nat} {st st' : Nesting} (h : st.outline = st'.outline)
    (hclear : st.TopClear) (hclear' : st'.TopClear) {text : Text}
    (hinside : ∀ m, classDeclaration.match? (afterNamespaces text) = some m →
      Template.inside s line (m.group 1).length = Template.inside s' line' (m.group 1).length) :
    (read s line st text).outline = (read s' line' st' text).outline := by
  have hspaces := enterNamespaces_outline line line' h text
  obtain ⟨hclass, hrest⟩ :=
    enterClass_outline hspaces (hclear.enterNamespaces line text) (hclear'.enterNamespaces line' text) hinside
  simp only [read, heads, enterNamespaces_rest, hrest]
  apply applyTokens_outline
  rw [outline_noteAccess, outline_noteAccess, outline_noteBases, outline_noteBases]
  exact hclass

end Nesting

end StyleCheck
