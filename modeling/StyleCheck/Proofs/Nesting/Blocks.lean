/-
  StyleCheck.Proofs.Nesting.Blocks — the stack of blocks and the matching of brackets agree.

  In a file that is properly nested and has no conditionals, namespaces and classes (`Bare`) every
  curly bracket that is opened begins a block. `Stands` relates the brackets that are open after a
  part of the file to the blocks on the stack: the blocks are those of the curly ones, each beginning
  on the line of its bracket. Reading a character keeps this (`Stands.other`, `Stands.opened`,
  `Stands.closed`), and so does taking a token (`Reading.take`) and reading a line
  (`Bare.reading_before`).

  `blocks_agree_with_brackets`: every closing curly bracket is taken, and the block that it takes off
  the stack begins on the line where the search backwards finds its opening bracket. After each line
  there are as many blocks as curly brackets that are still open, after the last one there are none.
-/

import StyleCheck.Proofs.Bracket.Pairing
import StyleCheck.Proofs.Nesting.Tokens

namespace StyleCheck.Nesting

open StyleCheck.Bracket (Cell Nested Stack signs chars cellsFrom behind ahead walk step)

/-- The file is properly nested, and its blocks are those of its curly brackets. -/
structure Bare (s : Source) : Prop where
  oneLine : ∀ n < s.size, '\n' ∉ s.elided n
  nested : Nested (signs (chars (cellsFrom s 0 s.size)))
  directive : ∀ n < s.size, Directive.condition? (s.elided n) = none
  namespaceHead : ∀ n < s.size, namespaceHead? (s.elided n) = none
  classHead : ∀ n < s.size, classDeclaration.match? (s.elided n) = none

/-! ## Brackets and blocks -/

structure BlockAt (line : Nat) (b : Block) : Prop where
  start : b.start = line
  opened : b.opened = true
  noClass : b.classHead? = none

/-- After the cells `u` the brackets of the stack are open, and the blocks are those of the curly ones. -/
inductive Stands : List Cell → Stack → List Block → Prop
  | nothing {u : List Cell} : Nested (signs (chars u)) → Stands u [] []
  | curly {u m : List Cell} {p : Place} {stack : Stack} {b : Block} {blocks : List Block} :
      Stands u stack blocks → BlockAt p.line b → Nested (signs (chars m)) →
      Stands (u ++ (p, Bracket.curly.opening) :: m) (.curly :: stack) (b :: blocks)
  | bracket {u m : List Cell} {p : Place} {stack : Stack} {k : Bracket} {blocks : List Block} :
      k ≠ .curly → k ≠ .angle → Stands u stack blocks → Nested (signs (chars m)) →
      Stands (u ++ (p, k.opening) :: m) (k :: stack) blocks

theorem chars_append (u v : List Cell) : chars (u ++ v) = chars u ++ chars v := List.map_append

theorem signs_pair {k : Bracket} (hk : k ≠ .angle) (p q : Place) (m : List Cell) :
    signs (chars ((p, k.opening) :: (m ++ [(q, k.closing)]))) = k.opening :: (signs (chars m) ++ [k.closing]) := by
  simp [chars, signs, Bracket.isSign_opening hk, Bracket.isSign_closing hk]

namespace Stands

variable {u m : List Cell} {q : Place} {c : Char} {stack stack' : Stack} {b b' : Block} {blocks : List Block}

theorem beside (h : Stands u stack blocks) (hm : Nested (signs (chars m))) : Stands (u ++ m) stack blocks := by
  have join : ∀ {x y : List Cell}, Nested (signs (chars x)) → Nested (signs (chars y)) →
      Nested (signs (chars (x ++ y))) := by
    intro x y hx hy
    rw [chars_append, Bracket.signs_append]
    exact hx.beside hy
  cases h with
  | nothing hu => exact .nothing (join hu hm)
  | curly hu hb hy =>
    rw [List.append_assoc, List.cons_append]
    exact .curly hu hb (join hy hm)
  | bracket hk ha hu hy =>
    rw [List.append_assoc, List.cons_append]
    exact .bracket hk ha hu (join hy hm)

/-- A character that is no curly bracket leaves the blocks alone. -/
theorem other (h : Stands u stack blocks) (hs : step .forwards stack c = some stack')
    (ho : c ≠ Bracket.curly.opening) (hc : c ≠ Bracket.curly.closing) : Stands (u ++ [(q, c)]) stack' blocks := by
  rcases Bracket.step_cases hs with ⟨k, he, rfl⟩ | ⟨k, hl, rfl⟩ | ⟨he, hl, rfl⟩
  · obtain ⟨ha, rfl, -⟩ := Bracket.of_opens? he
    exact .bracket (fun hk => ho (hk ▸ rfl)) ha h .empty
  · obtain ⟨ha, rfl, -⟩ := Bracket.of_closes? hl
    cases h with
    | curly => exact absurd rfl hc
    | bracket hk _ hu hm =>
      rw [List.append_assoc, List.cons_append]
      refine hu.beside ?_
      rw [signs_pair ha]
      exact .around k ha hm
  · have hn : Bracket.isSign c = false := by
      simp only [Bracket.Way.enters, Bracket.Way.leaves] at he hl
      simp [Bracket.isSign, he, hl]
    refine h.beside ?_
    simp only [chars, signs, List.map_cons, List.map_nil, List.filter_cons, hn, Bool.false_eq_true, if_false]
    exact .empty

theorem opened (h : Stands u stack blocks) (hb : BlockAt q.line b) :
    Stands (u ++ [(q, Bracket.curly.opening)]) (.curly :: stack) (b :: blocks) :=
  .curly h hb .empty

/-- A closing curly bracket ends the innermost block, which began at the bracket it belongs to. -/
theorem closed (h : Stands u (.curly :: stack) blocks) :
    ∃ b rest p x m, blocks = b :: rest ∧ Stands (u ++ [(q, Bracket.curly.closing)]) stack rest ∧
      BlockAt p.line b ∧ u = x ++ (p, Bracket.curly.opening) :: m ∧ Nested (signs (chars m)) := by
  cases h with
  | @curly x m p _ b rest hx hb hm =>
    refine ⟨b, rest, p, x, m, rfl, ?_, hb, rfl, hm⟩
    rw [List.append_assoc, List.cons_append]
    refine hx.beside ?_
    rw [signs_pair (by decide)]
    exact .around .curly (by decide) hm
  | bracket hk => exact absurd rfl hk

/-- The innermost block may change in what does not matter here. -/
theorem changed (h : Stands u stack (b :: blocks)) (hb : ∀ line, BlockAt line b → BlockAt line b') :
    Stands u stack (b' :: blocks) := by
  generalize ht : b :: blocks = all at h
  induction h with
  | nothing => cases ht
  | curly hu hat hm =>
    cases ht
    exact .curly hu (hb _ hat) hm
  | bracket hk ha _ hm ih => exact .bracket hk ha (ih ht) hm

theorem nil (h : Stands u [] blocks) : blocks = [] := by
  cases h with
  | nothing => rfl

theorem blockAt (h : Stands u stack blocks) : ∀ b ∈ blocks, ∃ line, BlockAt line b := by
  induction h with
  | nothing => nofun
  | curly _ hb _ ih => exact List.forall_mem_cons.mpr ⟨⟨_, hb⟩, ih⟩
  | bracket _ _ _ _ ih => exact ih

end Stands

/-! ## Counting -/

theorem nested_count {w : Text} (h : Nested w) :
    w.count Bracket.curly.opening = w.count Bracket.curly.closing := by
  have other : ∀ {k : Bracket}, k ≠ .angle →
      [k.opening].count Bracket.curly.opening = [k.closing].count Bracket.curly.closing ∧
      [k.opening].count Bracket.curly.closing = 0 ∧ [k.closing].count Bracket.curly.opening = 0 := by
    intro k _
    cases k <;> decide
  induction h with
  | empty => rfl
  | @around w k hk _ ih =>
    obtain ⟨heq, hopen, hclose⟩ := other hk
    rw [← List.singleton_append, List.count_append, List.count_append, List.count_append, List.count_append]
    omega
  | beside _ _ ihu ihv => rw [List.count_append, List.count_append, ihu, ihv]

theorem count_signs {c : Char} (hc : Bracket.isSign c = true) (t : Text) : (signs t).count c = t.count c :=
  List.count_filter hc

/-- As many curly brackets are open as there are blocks. -/
theorem Stands.count {u : List Cell} {stack : Stack} {blocks : List Block} (h : Stands u stack blocks) :
    blocks.length + (chars u).count Bracket.curly.closing = (chars u).count Bracket.curly.opening := by
  have balanced : ∀ {m : List Cell}, Nested (signs (chars m)) →
      (chars m).count Bracket.curly.opening = (chars m).count Bracket.curly.closing := by
    intro m hm
    have := nested_count hm
    rwa [count_signs (by decide), count_signs (by decide)] at this
  induction h with
  | nothing hu => rw [balanced hu, List.length_nil, Nat.zero_add]
  | curly _ _ hm ih =>
    have hb := balanced hm
    have hother : (Bracket.curly.opening == Bracket.curly.closing) = false := by decide
    simp only [chars, List.map_append, List.map_cons, List.count_append, List.count_cons, List.length_cons,
      beq_self_eq_true, hother, Bool.false_eq_true, if_true, if_false] at ih hb ⊢
    omega
  | @bracket _ _ _ _ k _ hk ha _ hm ih =>
    have hb := balanced hm
    have hother : (k.opening == Bracket.curly.opening) = false ∧ (k.opening == Bracket.curly.closing) = false := by
      cases k <;> first | exact absurd rfl hk | decide
    simp only [chars, List.map_append, List.map_cons, List.count_append, List.count_cons, hother.1, hother.2,
      Bool.false_eq_true, if_false] at ih hb ⊢
    omega

/-! ## Reading a line -/

/-- Reading has come to column `column` of line `n`, with `text` still to come and these blocks. -/
structure Reading (s : Source) (n column : Nat) (text : Text) (blocks : List Block) : Prop where
  line : n < s.size
  within : column ≤ (s.elided n).length
  left : text = (s.elided n).drop column
  stands : ∃ stack, Stands (behind s ⟨n, column⟩) stack blocks ∧
    walk .forwards stack (chars (ahead s ⟨n, column⟩)) = some []

namespace Reading

variable {s : Source} {n column : Nat} {c : Char} {text rest : Text} {b : Block} {blocks : List Block}

theorem at_column (h : Reading s n column (c :: text) blocks) :
    (s.elided n)[column]? = some c ∧ column < (s.elided n).length ∧ text = (s.elided n).drop (column + 1) := by
  have hget : (s.elided n)[column]? = some c := by
    rw [← List.head?_drop, ← h.left]
    rfl
  obtain ⟨hlt, -⟩ := List.getElem?_eq_some_iff.mp hget
  refine ⟨hget, hlt, ?_⟩
  rw [← List.tail_drop, ← h.left]
  rfl

/-- What one character does to the brackets that are open. -/
theorem step_at (h : Reading s n column (c :: text) blocks) :
    ∃ stack stack', Stands (behind s ⟨n, column⟩) stack blocks ∧ step .forwards stack c = some stack' ∧
      ∀ blocks', Stands (behind s ⟨n, column⟩ ++ [(⟨n, column⟩, c)]) stack' blocks' →
        Reading s n (column + 1) text blocks' := by
  obtain ⟨hget, hlt, htext⟩ := h.at_column
  obtain ⟨stack, hstands, hwalk⟩ := h.stands
  rw [Bracket.ahead_eq_cons (p := ⟨n, column⟩) hget] at hwalk
  obtain ⟨stack', hstep, hrest⟩ := Option.bind_eq_some_iff.mp hwalk
  refine ⟨stack, stack', hstands, hstep, fun blocks' hs => ⟨h.line, hlt, htext, stack', ?_, hrest⟩⟩
  rwa [Bracket.behind_succ (p := ⟨n, column⟩) hget]

theorem other (h : Reading s n column (c :: text) blocks) (ho : c ≠ Bracket.curly.opening)
    (hc : c ≠ Bracket.curly.closing) : Reading s n (column + 1) text blocks := by
  obtain ⟨stack, stack', hstands, hstep, hnext⟩ := h.step_at
  exact hnext blocks (hstands.other hstep ho hc)

theorem opened (h : Reading s n column (Bracket.curly.opening :: text) blocks) (hb : BlockAt n b) :
    Reading s n (column + 1) text (b :: blocks) := by
  obtain ⟨stack, stack', hstands, hstep, hnext⟩ := h.step_at
  rw [Bracket.step_enters (d := .forwards) (b := .curly) rfl] at hstep
  cases hstep
  exact hnext _ (hstands.opened hb)

/-- The block that ends here began where the search backwards ends. -/
theorem closed (h : Reading s n column (Bracket.curly.closing :: text) blocks) :
    ∃ b rest p, blocks = b :: rest ∧ Reading s n (column + 1) text rest ∧
      (Bracket.findOpen s n column).place = some p ∧ b.start = p.line := by
  obtain ⟨hget, hlt, -⟩ := h.at_column
  obtain ⟨stack, stack', hstands, hstep, hnext⟩ := h.step_at
  have hopen : stack = .curly :: stack' := by
    rcases Bracket.step_cases hstep with ⟨k, he, -⟩ | ⟨k, hl, rfl⟩ | ⟨-, hl, -⟩
    · cases he
    · cases hl
      rfl
    · cases hl
  subst hopen
  obtain ⟨b, rest, p, x, m, hblocks, hrest, hb, hu, hm⟩ := hstands.closed (q := ⟨n, column⟩)
  refine ⟨b, rest, p, hblocks, hnext rest hrest, ?_, hb.start⟩
  have hpairs : Bracket.Pairs s p ⟨n, column⟩ := by
    refine ⟨.curly, x, m, ahead s ⟨n, column + 1⟩, by decide, hm, ?_⟩
    rw [Bracket.cells_eq_ahead (p := ⟨n, column⟩) hget, hu, List.append_assoc, List.cons_append]
  have hanswer := Bracket.findOpen_answers s ⟨n, column⟩ (b := .curly) (by decide) hget
  exact (hanswer.place_iff (fun _ _ h => h) p).mpr
    ((Bracket.found_back_iff_pairs (q := ⟨n, column⟩) (b := .curly) (by decide) hget).mpr hpairs)

/-- No token, no bracket. -/
theorem skip {skipped : Text} (hs : ∀ x ∈ skipped, isToken x = false)
    (h : Reading s n column (skipped ++ rest) blocks) : Reading s n (column + skipped.length) rest blocks := by
  induction skipped generalizing column with
  | nil => exact h
  | cons x skipped ih =>
    obtain ⟨hx, hrest⟩ := List.forall_mem_cons.mp hs
    have hother : x ≠ Bracket.curly.opening ∧ x ≠ Bracket.curly.closing := by
      constructor
      · rintro rfl
        exact absurd hx (by decide)
      · rintro rfl
        exact absurd hx (by decide)
    have := ih hrest (h.other hother.1 hother.2)
    rwa [show column + 1 + skipped.length = column + (x :: skipped).length by simp only [List.length_cons]; omega] at this

theorem headComplete {st : Nesting} (h : Reading s n column text st.stack) : st.headComplete = true := by
  obtain ⟨stack, hstands, -⟩ := h.stands
  unfold Nesting.headComplete
  split
  · rfl
  · rename_i b rest heq
    obtain ⟨line, hb⟩ := hstands.blockAt b (heq ▸ List.mem_cons_self)
    exact hb.opened

theorem noClass {st : Nesting} (h : Reading s n column text st.stack) : st.top?.bind Block.classHead? = none := by
  obtain ⟨stack, hstands, -⟩ := h.stands
  unfold top?
  cases hst : st.stack with
  | nil => rfl
  | cons b rest =>
    obtain ⟨line, hb⟩ := hstands.blockAt b (hst ▸ List.mem_cons_self)
    exact hb.noClass

end Reading

theorem openCurly_stack {st : Nesting} (hc : st.headComplete = true) (n : Nat) (text : Text) :
    ∃ b, (openCurly n st text).stack = b :: st.stack ∧ BlockAt n b := by
  simp only [openCurly, hc, Bool.not_true, Bool.false_eq_true, if_false]
  split
  · exact ⟨_, rfl, rfl, rfl, rfl⟩
  · exact ⟨_, rfl, rfl, rfl, rfl⟩

theorem closeCurly_stack (s : Source) (n : Nat) {st : Nesting} {b : Block} {rest : List Block}
    (h : st.stack = b :: rest) : (closeCurly s n st).1.stack = rest := by
  simp only [closeCurly, top?, h, List.head?_cons, pop]

namespace Reading

variable {s : Source} {n column : Nat} {c : Char} {text rest : Text} {st : Nesting}

/-- A token takes reading past it. -/
theorem take (hn : '\n' ∉ text) (h : Reading s n column text st.stack) (ht : token? text = some (c, rest)) :
    ∃ column', Reading s n column' rest (applyToken s n st text c).1.stack := by
  obtain ⟨skipped, rfl, hs, hc⟩ := token?_eq_some hn ht
  have hat := h.skip hs
  unfold applyToken
  by_cases ho : c = '{'
  · subst ho
    obtain ⟨b, hstack, hb⟩ := openCurly_stack h.headComplete n (skipped ++ '{' :: rest)
    rw [if_pos (by decide), hstack]
    exact ⟨_, hat.opened hb⟩
  · rw [if_neg (by simpa using ho)]
    by_cases hcl : c = '}'
    · subst hcl
      obtain ⟨b, lower, p, hstack, hrest, -⟩ := hat.closed
      rw [if_pos (by decide), closeCurly_stack s n hstack]
      exact ⟨_, hrest⟩
    · rw [if_neg (by simpa using hcl), endDeclaration, if_pos h.headComplete]
      exact ⟨_, hat.other ho hcl⟩

/-- Up to the end of the line. -/
theorem applyTokens (hn : '\n' ∉ text) (h : Reading s n column text st.stack) :
    Reading s n (s.elided n).length [] (applyTokens s n st text).1.stack := by
  fun_induction Nesting.applyTokens s n st text generalizing column with
  | case1 st text hnone =>
    rcases token?_cases hn with ⟨-, hs⟩ | ⟨_, _, _, _, _, _, hsome⟩
    · rw [← List.append_nil text] at h
      have hend := h.skip hs
      have hlen : column + text.length = (s.elided n).length := by
        have := congrArg List.length h.left
        rw [List.append_nil, List.length_drop] at this
        have := h.within
        omega
      rwa [hlen] at hend
    · rw [hnone] at hsome
      cases hsome
  | case2 st text c rest htoken st' here happ st'' later hlater ih =>
    obtain ⟨skipped, htext, -⟩ := token?_eq_some hn htoken
    obtain ⟨column', hnext⟩ := h.take hn htoken
    rw [happ] at hnext
    rw [hlater] at ih
    exact ih (fun hmem => hn (by rw [htext]; simp [hmem])) hnext

end Reading

/-! ## Lines -/

theorem countParens_blockAt {text : Text} {line : Nat} {b : Block} (h : BlockAt line b) :
    BlockAt line (countParens text b) := ⟨h.start, h.opened, h.noClass⟩

/-- Without directives and heads, only the round brackets of the innermost block are counted. -/
theorem Bare.reading_headed {s : Source} (hs : Bare s) {n : Nat} {st : Nesting}
    (h : Reading s n 0 (s.elided n) st.stack) :
    (headed s st n).2 = s.elided n ∧ Reading s n 0 (s.elided n) (headed s st n).1.stack := by
  have hcount : Reading s n 0 (s.elided n) (st.beginLine.mapTop (countParens (s.elided n))).stack := by
    unfold mapTop
    split
    · exact h
    · rename_i b rest heq
      obtain ⟨stack, hstands, hwalk⟩ := h.stands
      rw [← beginLine_stack, heq] at hstands
      exact ⟨h.line, h.within, h.left, stack, hstands.changed fun _ => countParens_blockAt, hwalk⟩
  have hnames : ∀ st, enterNamespaces n st (s.elided n) = (st, s.elided n) :=
    fun st => enterNamespaces_of_none n st (hs.namespaceHead n h.line)
  have hclass : ∀ st, enterClass s n st (s.elided n) = (st, s.elided n) :=
    fun st => enterClass_of_none s n st (hs.classHead n h.line)
  have hbases : noteBases s n (st.beginLine.mapTop (countParens (s.elided n)))
      = st.beginLine.mapTop (countParens (s.elided n)) := by
    rw [noteBases, if_pos hcount.headComplete]
  have haccess : (noteAccess n (st.beginLine.mapTop (countParens (s.elided n))) (s.elided n)).1
      = st.beginLine.mapTop (countParens (s.elided n)) := by
    rw [noteAccess, hcount.noClass]
  simp only [headed, heads, preprocess, hs.directive n h.line, hnames, hclass, hbases, haccess]
  exact ⟨trivial, hcount⟩

theorem Reading.start {s : Source} (hs : Bare s) (h : 0 < s.size) : Reading s 0 0 (s.elided 0) [] := by
  refine ⟨h, Nat.zero_le _, rfl, [], .nothing .empty, ?_⟩
  have hall := (Bracket.nested_iff_walk _).mp hs.nested
  have hcells : behind s ⟨0, 0⟩ ++ ahead s ⟨0, 0⟩ = cellsFrom s 0 s.size :=
    Bracket.behind_append_ahead s h (Nat.zero_le _)
  rwa [← hcells] at hall

theorem behind_nextLine (s : Source) (n : Nat) :
    behind s ⟨n, (s.elided n).length⟩ = behind s ⟨n + 1, 0⟩ := by
  simp only [behind, List.take_length, List.take_zero, Bracket.cellsOf, List.append_nil, Bracket.cellsFrom_succ]

theorem ahead_nextLine {s : Source} {n : Nat} (h : n + 1 < s.size) :
    ahead s ⟨n, (s.elided n).length⟩ = ahead s ⟨n + 1, 0⟩ := by
  have hcount : s.size - 1 - n = (s.size - 1 - (n + 1)) + 1 := by omega
  simp only [ahead, List.drop_length, List.drop_zero, Bracket.cellsOf, List.nil_append, hcount, cellsFrom]

/-- From the end of a line to the beginning of the next one. -/
theorem Reading.nextLine {s : Source} {n : Nat} {blocks : List Block}
    (h : Reading s n (s.elided n).length [] blocks) (hn : n + 1 < s.size) :
    Reading s (n + 1) 0 (s.elided (n + 1)) blocks := by
  obtain ⟨stack, hstands, hwalk⟩ := h.stands
  rw [behind_nextLine] at hstands
  rw [ahead_nextLine hn] at hwalk
  exact ⟨hn, Nat.zero_le _, rfl, stack, hstands, hwalk⟩

/-- The end of line `n`. -/
theorem Bare.reading_after {s : Source} (hs : Bare s) {n : Nat}
    (h : Reading s n 0 (s.elided n) (before s n).stack) :
    Reading s n (s.elided n).length [] (before s (n + 1)).stack := by
  obtain ⟨htext, hhead⟩ := hs.reading_headed h
  rw [before, update_eq_applyTokens, htext]
  exact hhead.applyTokens (hs.oneLine n h.line)

/-- The beginning of line `n`. -/
theorem Bare.reading_before {s : Source} (hs : Bare s) {n : Nat} (hn : n < s.size) :
    Reading s n 0 (s.elided n) (before s n).stack := by
  induction n with
  | zero => exact .start hs hn
  | succ n ih => exact (hs.reading_after (ih (by omega))).nextLine hn

/-! ## Agreement -/

/-- On line `n` the closing curly bracket at column `column` is taken, and turns `st` into `st'`. -/
def Closes (s : Source) (n column : Nat) (st st' : Nesting) : Prop :=
  (s.elided n)[column]? = some '}' ∧
    ∃ text, Relation.ReflTransGen (Takes s n) (headed s (before s n) n) (st, text) ∧
      token? text = some ('}', (s.elided n).drop (column + 1)) ∧ st' = (applyToken s n st text '}').1

theorem Bare.oneLine_left {s : Source} (hs : Bare s) {n column : Nat} {text : Text} {blocks : List Block}
    (h : Reading s n column text blocks) : '\n' ∉ text := by
  rw [h.left]
  exact fun hmem => hs.oneLine n h.line (List.mem_of_mem_drop hmem)

/-- Wherever the tokens of a line have led. -/
theorem Bare.reading_within {s : Source} (hs : Bare s) {n : Nat} (hn : n < s.size) {taken : Nesting × Text}
    (h : Relation.ReflTransGen (Takes s n) (headed s (before s n) n) taken) :
    ∃ column, Reading s n column taken.2 taken.1.stack := by
  obtain ⟨htext, hstart⟩ := hs.reading_headed (hs.reading_before hn)
  induction h with
  | refl => exact ⟨0, htext ▸ hstart⟩
  | tail _ htakes ih =>
    obtain ⟨column, hreading⟩ := ih
    cases htakes with
    | token htoken => exact hreading.take (hs.oneLine_left hreading) htoken

theorem Bare.closes {s : Source} (hs : Bare s) {n column : Nat} {st st' : Nesting} (h : Closes s n column st st') :
    ∃ b p, st.stack = b :: st'.stack ∧ (Bracket.findOpen s n column).place = some p ∧ b.start = p.line := by
  obtain ⟨hat, text, hreach, htoken, rfl⟩ := h
  have hn : n < s.size := Bracket.line_lt_size (p := ⟨n, column⟩) hat
  obtain ⟨column', hreading⟩ := hs.reading_within hn hreach
  obtain ⟨skipped, rfl, hskipped, -⟩ := token?_eq_some (hs.oneLine_left hreading) htoken
  have hbracket := hreading.skip hskipped
  -- what is left of the line tells the column
  have hcolumn : column' + skipped.length = column := by
    obtain ⟨-, hlt', hrest⟩ := hbracket.at_column
    obtain ⟨hlt, -⟩ := List.getElem?_eq_some_iff.mp hat
    have := congrArg List.length hrest
    rw [List.length_drop, List.length_drop] at this
    omega
  rw [hcolumn] at hbracket
  obtain ⟨b, rest, p, hstack, -, hplace, hstart⟩ := hbracket.closed
  refine ⟨b, p, ?_, hplace, hstart⟩
  rw [applyToken, if_neg (by decide), if_pos (by decide), closeCurly_stack s n hstack]
  exact hstack

theorem Bare.closes_exists {s : Source} (hs : Bare s) {n column : Nat} (hat : (s.elided n)[column]? = some '}') :
    ∃ st st', Closes s n column st st' := by
  have hn : n < s.size := Bracket.line_lt_size (p := ⟨n, column⟩) hat
  obtain ⟨hlt, hc⟩ := List.getElem?_eq_some_iff.mp hat
  obtain ⟨htext, -⟩ := hs.reading_headed (hs.reading_before hn)
  have hsplit : (headed s (before s n) n).2 = (s.elided n).take column ++ '}' :: (s.elided n).drop (column + 1) := by
    rw [htext, ← hc, ← List.drop_eq_getElem_cons hlt, List.take_append_drop]
  obtain ⟨st, text, hreach, htoken⟩ := takes_reach s n hsplit (by decide) (htext ▸ hs.oneLine n hn)
    (headed s (before s n) n).1
  exact ⟨st, _, hat, text, hreach, htoken, rfl⟩

/-- After line `n` as many blocks are on the stack as curly brackets are open. -/
theorem Bare.height {s : Source} (hs : Bare s) {n : Nat} (hn : n < s.size) :
    (before s (n + 1)).stack.length + (chars (cellsFrom s 0 (n + 1))).count '}'
      = (chars (cellsFrom s 0 (n + 1))).count '{' := by
  obtain ⟨stack, hstands, -⟩ := (hs.reading_after (hs.reading_before hn)).stands
  have hbehind : behind s ⟨n, (s.elided n).length⟩ = cellsFrom s 0 (n + 1) := by
    rw [behind_nextLine]
    simp only [behind, List.take_zero, Bracket.cellsOf, List.append_nil]
  rw [hbehind] at hstands
  exact hstands.count

theorem Bare.emptied {s : Source} (hs : Bare s) : (before s s.size).stack = [] := by
  cases hsize : s.size with
  | zero => rfl
  | succ n =>
    obtain ⟨stack, hstands, hwalk⟩ := (hs.reading_after (hs.reading_before (n := n) (by omega))).stands
    have hnone : ahead s ⟨n, (s.elided n).length⟩ = [] := by
      have hcount : s.size - 1 - n = 0 := by omega
      simp only [ahead, List.drop_length, Bracket.cellsOf, hcount, cellsFrom, List.append_nil]
    rw [hnone] at hwalk
    cases hwalk
    exact hstands.nil

/-- In a properly nested file without conditionals, namespaces and classes, every closing curly bracket
is taken, and takes the block off the stack that begins on the line of its opening bracket. The stack
is as high as there are curly brackets open, and empty at the end. -/
theorem blocks_agree_with_brackets (s : Source) (hs : Bare s) :
    (∀ n column, (s.elided n)[column]? = some '}' → ∃ st st', Closes s n column st st') ∧
    (∀ n column st st', Closes s n column st st' →
      ∃ b p, st.stack = b :: st'.stack ∧ (Bracket.findOpen s n column).place = some p ∧ b.start = p.line) ∧
    (∀ n < s.size,
      (before s (n + 1)).stack.length + (chars (cellsFrom s 0 (n + 1))).count '}'
        = (chars (cellsFrom s 0 (n + 1))).count '{') ∧
    (before s s.size).stack = [] :=
  ⟨fun _ _ => hs.closes_exists, fun _ _ _ _ => hs.closes, fun _ => hs.height, hs.emptied⟩

def nestedBlocks : Source :=
  Source.ofLines
    ["void f(int n) \x7b".toList, "  while (a[n] < b) \x7b g(); \x7d".toList,
      "  asm \x7b nop; \x7d if (n > 0) \x7b".toList, "    return;".toList, "  \x7d".toList, "\x7d".toList]

theorem nestedBlocks_bare : Bare nestedBlocks where
  oneLine := by decide +kernel
  nested := (Bracket.nested_iff_walk _).mpr (by decide +kernel)
  directive := by decide +kernel
  namespaceHead := by decide +kernel
  classHead := by decide +kernel

theorem blocks_agree_with_brackets_nestedBlocks :
    Bare nestedBlocks ∧ (Bracket.findOpen nestedBlocks 4 2).place = some ⟨2, 26⟩ ∧
      (∃ st st' b, Closes nestedBlocks 4 2 st st' ∧ st.stack = b :: st'.stack ∧ b.start = 2) ∧
      (before nestedBlocks 3).stack.length = 2 ∧ (before nestedBlocks 6).stack = [] := by
  obtain ⟨hall, hagree, hheight, hend⟩ := blocks_agree_with_brackets nestedBlocks nestedBlocks_bare
  have hat : (nestedBlocks.elided 4)[2]? = some '}' := by decide +kernel
  have hplace : (Bracket.findOpen nestedBlocks 4 2).place = some ⟨2, 26⟩ := by decide +kernel
  have hcounts : (chars (cellsFrom nestedBlocks 0 3)).count '}' = 2 ∧
      (chars (cellsFrom nestedBlocks 0 3)).count '{' = 4 := by decide +kernel
  obtain ⟨st, st', hcloses⟩ := hall 4 2 hat
  obtain ⟨b, p, hstack, hp, hstart⟩ := hagree 4 2 st st' hcloses
  rw [hplace] at hp
  cases hp
  have hthree : (before nestedBlocks 3).stack.length + (chars (cellsFrom nestedBlocks 0 3)).count '}'
      = (chars (cellsFrom nestedBlocks 0 3)).count '{' := hheight 2 (by decide +kernel)
  exact ⟨nestedBlocks_bare, hplace, ⟨st, st', b, hcloses, hstack, hstart⟩, by omega, hend⟩

end StyleCheck.Nesting
