/-
  StyleCheck.Proofs.Nesting.ClassEnd — the last line of a class.

  The last line is looked for when the class is declared, and its bracket may still be to come. So it is the first line
  from the declaration on after which as many curly brackets are closed as opened (`endFrom_spec`), and nothing that
  happens to the class later changes it (`within_extent`). The class has its end there only if its own bracket is
  opened before brackets are balanced for the first time. A head that goes over several lines has no brackets on its
  first line (`before_late`). The class then ends where it is declared (`lastLine_of_opened_class`).
-/

import StyleCheck.Proofs.Bracket.Reading
import StyleCheck.Proofs.Nesting.Order
import StyleCheck.Proofs.Nesting.Tokens
import StyleCheck.Proofs.Pattern.Taken

namespace StyleCheck.Nesting

/-! ## Where brackets are balanced -/

def Balanced (s : Source) (n i : Nat) : Prop :=
  (s.textFrom Line.elided n (i + 1 - n)).flatten.count '{' = (s.textFrom Line.elided n (i + 1 - n)).flatten.count '}'

instance (s : Source) (n i : Nat) : Decidable (Balanced s n i) := inferInstanceAs (Decidable (_ = _))

/-- `last` is the first line from line `m` on after which the brackets of the lines from `n` on are balanced, and 0 if
there is none. -/
def FirstBalanced (s : Source) (n m last : Nat) : Prop :=
  (m ≤ last ∧ last < s.size ∧ Balanced s n last ∧ ∀ i, m ≤ i → i < last → ¬ Balanced s n i) ∨
    (last = 0 ∧ ∀ i, m ≤ i → i < s.size → ¬ Balanced s n i)

def surplus (s : Source) (n count : Nat) : Int :=
  (s.textFrom Line.elided n count).flatten.count '{' - (s.textFrom Line.elided n count).flatten.count '}'

theorem surplus_zero (s : Source) (n : Nat) : surplus s n 0 = 0 := rfl

theorem surplus_succ (s : Source) (n count : Nat) : surplus s n (count + 1)
    = surplus s n count + (s.elided (n + count)).count '{' - (s.elided (n + count)).count '}' := by
  have hcount (c : Char) : (s.textFrom Line.elided n (count + 1)).flatten.count c
      = (s.textFrom Line.elided n count).flatten.count c + (s.elided (n + count)).count c := by
    simp [Source.textFrom, List.range'_1_concat, Source.elided]
  rw [surplus, surplus, hcount, hcount]
  omega

theorem balanced_iff (s : Source) (n k : Nat) : Balanced s n (n + k) ↔ surplus s n (k + 1) = 0 := by
  have hlines : n + k + 1 - n = k + 1 := by omega
  rw [Balanced, hlines, surplus]
  omega

/-- The search from line `n + k` on, when the lines before it have been counted. -/
theorem endFrom_surplus (s : Source) (n k count : Nat) :
    (∃ j, k ≤ j ∧ j < k + count ∧ ClassHead.endFrom s (n + k) (surplus s n k) count = n + j ∧ Balanced s n (n + j) ∧
      ∀ i, k ≤ i → i < j → ¬ Balanced s n (n + i)) ∨
    (ClassHead.endFrom s (n + k) (surplus s n k) count = 0 ∧ ∀ i, k ≤ i → i < k + count → ¬ Balanced s n (n + i)) := by
  induction count generalizing k with
  | zero =>
    refine .inr ⟨rfl, fun i hi hlt => ?_⟩
    omega
  | succ count ih =>
    have hstep : ClassHead.endFrom s (n + k) (surplus s n k) (count + 1)
        = if surplus s n (k + 1) == 0 then n + k else ClassHead.endFrom s (n + (k + 1)) (surplus s n (k + 1)) count := by
      rw [ClassHead.endFrom, surplus_succ]
      rfl
    rw [hstep]
    by_cases hzero : surplus s n (k + 1) = 0
    · rw [if_pos (by simpa using hzero)]
      refine .inl ⟨k, Nat.le_refl k, by omega, rfl, (balanced_iff s n k).mpr hzero, fun i hi hlt => ?_⟩
      omega
    · have hk : ¬ Balanced s n (n + k) := fun h => hzero ((balanced_iff s n k).mp h)
      have hlater : ∀ i, k ≤ i → i = k ∨ k + 1 ≤ i := by omega
      rw [if_neg (by simpa using hzero)]
      rcases ih (k + 1) with ⟨j, hj, hlt, heq, hbalanced, hfirst⟩ | ⟨heq, hnone⟩
      · refine .inl ⟨j, by omega, by omega, heq, hbalanced, fun i hi hij => ?_⟩
        rcases hlater i hi with rfl | hi
        · exact hk
        · exact hfirst i hi hij
      · refine .inr ⟨heq, fun i hi hij => ?_⟩
        rcases hlater i hi with rfl | hi
        · exact hk
        · exact hnone i hi (by omega)

theorem endFrom_spec (s : Source) (n : Nat) : FirstBalanced s n n (ClassHead.endFrom s n 0 (s.size - n)) := by
  have hshift : ∀ i, n ≤ i → ∃ k, i = n + k := fun i hi => ⟨i - n, by omega⟩
  have h := endFrom_surplus s n 0 (s.size - n)
  rw [Nat.add_zero, surplus_zero] at h
  rcases h with ⟨j, -, hlt, heq, hbalanced, hfirst⟩ | ⟨heq, hnone⟩
  · rw [heq]
    refine .inl ⟨by omega, by omega, hbalanced, fun i hi hij => ?_⟩
    obtain ⟨k, rfl⟩ := hshift i hi
    exact hfirst k (Nat.zero_le _) (by omega)
  · refine .inr ⟨heq, fun i hi hij => ?_⟩
    obtain ⟨k, rfl⟩ := hshift i hi
    exact hnone k (Nat.zero_le _) (by omega)

/-- The first balanced line from the declaration on is the first one from a later line on just if no line between is
balanced. -/
theorem FirstBalanced.from_iff {s : Source} {n m last : Nat} (h : FirstBalanced s n n last) (hn : 0 < n) (hm : n ≤ m)
    (hsize : m ≤ s.size) : FirstBalanced s n m last ↔ ∀ i, n ≤ i → i < m → ¬ Balanced s n i := by
  constructor
  · intro hfrom i hi hlt hbalanced
    rcases h with ⟨hle, hinside, hlast, hfirst⟩ | ⟨rfl, hnone⟩
    · rcases hfrom with ⟨hmlast, -⟩ | ⟨rfl, -⟩
      · exact hfirst i hi (by omega) hbalanced
      · omega
    · exact hnone i hi (by omega) hbalanced
  · intro hnone
    rcases h with ⟨hle, hinside, hlast, hfirst⟩ | ⟨rfl, hall⟩
    · have hmlast : m ≤ last := Nat.le_of_not_lt fun hlt => hnone last hle hlt hlast
      exact .inl ⟨hmlast, hinside, hlast, fun i hi => hfirst i (by omega)⟩
    · exact .inr ⟨rfl, fun i hi => hall i (by omega)⟩

/-! ## The last line is kept -/

def Extent (s : Source) (b : Block) : Prop :=
  ∀ head, b.kind = .type head → head.lastLine = ClassHead.endFrom s b.start 0 (s.size - b.start)

theorem Begins.extent {s : Source} {n : Nat} {b : Block} (h : Begins s n b) : Extent s b := by
  intro head hkind
  cases h with
  | type => cases hkind; rfl
  | space | linkage | plain | assembly => cases hkind

theorem Continues.extent {s : Source} {b b' : Block} (h : Continues b b') (hb : Extent s b) : Extent s b' := by
  intro head' hkind'
  rw [h.start]
  rcases h.kind with hsame | ⟨head, head'', hkind, hkind'', hclass⟩
  · exact hb head' (hsame ▸ hkind')
  · cases hkind'.symm.trans hkind''
    rw [hclass.lastLine]
    exact hb head hkind

theorem extent_move {s : Source} {n : Nat} {stack stack' : List Block} (hm : Move s n stack stack')
    (h : ∀ b ∈ stack, Extent s b) : ∀ b ∈ stack', Extent s b := by
  cases hm with
  | push hb => exact List.forall_mem_cons.mpr ⟨hb.extent, h⟩
  | pop => exact (List.forall_mem_cons.mp h).2
  | change hb =>
    obtain ⟨hfirst, hrest⟩ := List.forall_mem_cons.mp h
    exact List.forall_mem_cons.mpr ⟨hb.extent hfirst, hrest⟩

/-! ## Within a line -/

theorem headed_moves (s : Source) (st : Nesting) (n : Nat) :
    Moves s n (st.beginLine.preprocess (s.elided n)).stack (headed s st n).1.stack :=
  ((((mapTop_moves _ (countParens_continues _)).trans (enterNamespaces_moves _ _)).trans
    (enterClass_moves s _ _)).trans (noteBases_moves s _)).trans (noteAccess_moves _ _)

theorem takes_moves {s : Source} {n : Nat} {taken taken' : Nesting × Text}
    (h : Relation.ReflTransGen (Takes s n) taken taken') : Moves s n taken.1.stack taken'.1.stack := by
  induction h with
  | refl => exact .refl
  | tail _ htake ih =>
    cases htake with
    | token => exact ih.trans (applyToken_moves s _ _ _)

theorem within_moves {s : Source} {n : Nat} {taken : Nesting × Text}
    (h : Relation.ReflTransGen (Takes s n) (headed s (before s n) n) taken) :
    Moves s n (directed s n).stack taken.1.stack :=
  (headed_moves s (before s n) n).trans (takes_moves h)

theorem allStacks_zero {s : Source} {stack : List Block} (h : stack ∈ (before s 0).allStacks) : stack = [] := by
  simpa [before, allStacks] using h

/-- The directive of a line makes no new stack. -/
theorem directed_of_before {s : Source} {n : Nat} {P : List Block → Prop} (nil : P [])
    (h : ∀ stack ∈ (before s n).allStacks, P stack) : ∀ stack ∈ (directed s n).allStacks, P stack := by
  intro stack hmem
  rcases preprocess_allStacks _ _ hmem with hold | rfl
  · exact h stack hold
  · exact nil

/-- What holds after every line holds on a line as well, after each of its tokens. -/
theorem within_induction (s : Source) {P : Nat → List Block → Prop} (nil : ∀ n, P n [])
    (later : ∀ {n stack}, P n stack → P (n + 1) stack)
    (move : ∀ {n stack stack'}, Move s n stack stack' → P n stack → P n stack') {n : Nat} {taken : Nesting × Text}
    (h : Relation.ReflTransGen (Takes s n) (headed s (before s n) n) taken) : P n taken.1.stack := by
  have hbefore : ∀ stack ∈ (before s n).allStacks, P n stack := by
    cases n with
    | zero => exact fun stack hmem => allStacks_zero hmem ▸ nil 0
    | succ n => exact fun stack hmem => later (stacks_induction s nil later move n stack hmem)
  have hdirected := directed_of_before (nil n) hbefore _ (stack_mem_allStacks _)
  exact (within_moves h).rec hdirected fun _ hmove ih => move hmove ih

theorem within_extent {s : Source} {n : Nat} {taken : Nesting × Text}
    (h : Relation.ReflTransGen (Takes s n) (headed s (before s n) n) taken) : ∀ b ∈ taken.1.stack, Extent s b :=
  within_induction s (P := fun _ stack => ∀ b ∈ stack, Extent s b) (fun _ _ hb => by cases hb) id extent_move h

/-- A line below the last one has no tokens. -/
theorem line_lt_size_of_token {s : Source} {st : Nesting} {n : Nat} {taken : Nesting × Text} {found : Char × Text}
    (h : Relation.ReflTransGen (Takes s n) (headed s st n) taken) (htoken : token? taken.2 = some found) :
    n < s.size := by
  refine Nat.lt_of_not_le fun hsize => ?_
  have hempty : (headed s st n).2 = [] := by
    have hnone : namespaceHead? [] = none := by decide
    have hclass : classDeclaration.match? [] = none := by decide
    simp only [headed, heads, Bracket.elided_of_size_le hsize, enterNamespaces_of_none _ _ hnone,
      enterClass_of_none _ _ _ hclass]
  have hend : token? [] = none := rfl
  rcases h.cases_head with heq | ⟨next, htake, -⟩
  · rw [← heq, hempty, hend] at htoken
    cases htoken
  · generalize headed s st n = start at htake hempty
    cases htake with
    | token hfirst =>
      simp only at hempty
      rw [hempty, hend] at hfirst
      cases hfirst

/-! ## Classes without their bracket

Such a class can stand on the stack at the end of its line only if nothing was left of the line that could open or end
it, and the head itself holds no curly brackets. -/

def Curlyless (text : Text) : Prop := '{' ∉ text ∧ '}' ∉ text

def Waits (b : Block) : Prop := b.isClass = true ∧ b.opened = false

/-- If the class waits for its bracket and no namespace stands before it on its line, the line has no curly brackets. -/
def Late (s : Source) (b : Block) : Prop :=
  Waits b → '\n' ∉ s.elided b.start → namespaceHead? (s.elided b.start) = none → Curlyless (s.elided b.start)

theorem Continues.waits {b b' : Block} (h : Continues b b') (hb : Waits b') : Waits b := by
  refine ⟨h.sort.1 ▸ hb.1, Bool.eq_false_iff.mpr fun hopen => ?_⟩
  cases (h.opened hopen).symm.trans hb.2

theorem late_move {s : Source} {n : Nat} {stack stack' : List Block} (hm : Move s n stack stack')
    (h : ∀ b ∈ stack, b.start < n → Late s b) : ∀ b ∈ stack', b.start < n → Late s b := by
  cases hm with
  | push hb => exact List.forall_mem_cons.mpr ⟨fun hlt => absurd hb.start (Nat.ne_of_lt hlt), h⟩
  | pop => exact (List.forall_mem_cons.mp h).2
  | change hb =>
    obtain ⟨hfirst, hrest⟩ := List.forall_mem_cons.mp h
    refine List.forall_mem_cons.mpr ⟨fun hlt hwaits => ?_, hrest⟩
    rw [hb.start] at hlt ⊢
    exact hfirst hlt (hb.waits hwaits)

def Settled (n : Nat) (stack : List Block) : Prop := ∀ b ∈ stack, Waits b → b.start ≠ n

namespace Settled

variable {s : Source} {n : Nat} {st : Nesting}

theorem pop (h : Settled n st.stack) : Settled n st.pop.stack := by
  unfold Nesting.pop
  split
  · exact h
  · rename_i heq
    rw [heq] at h
    exact (List.forall_mem_cons.mp h).2

theorem push_opened (h : Settled n st.stack) {b : Block} (hb : b.opened = true) : Settled n (st.push b).stack := by
  refine List.forall_mem_cons.mpr ⟨fun hwaits => ?_, h⟩
  cases hb.symm.trans hwaits.2

theorem mapTop (h : Settled n st.stack) {f : Block → Block} (hf : ∀ b, Continues b (f b)) :
    Settled n (st.mapTop f).stack := by
  unfold Nesting.mapTop
  split
  · exact h
  · rename_i b rest heq
    rw [heq] at h
    obtain ⟨hfirst, hrest⟩ := List.forall_mem_cons.mp h
    refine List.forall_mem_cons.mpr ⟨fun hwaits => ?_, hrest⟩
    rw [(hf b).start]
    exact hfirst ((hf b).waits hwaits)

theorem noteBases (h : Settled n st.stack) : Settled n (Nesting.noteBases s n st).stack := by
  unfold Nesting.noteBases
  split
  · exact h
  · split
    · exact h.mapTop (mapHead_continues fun _ => ⟨rfl, rfl⟩)
    · exact h

theorem noteAccess (h : Settled n st.stack) (text : Text) : Settled n (Nesting.noteAccess n st text).1.stack := by
  unfold Nesting.noteAccess
  split
  · exact h.mapTop (mapHead_continues fun _ => ⟨rfl, rfl⟩)
  · exact h

theorem applyToken (h : Settled n st.stack) (text : Text) (c : Char) :
    Settled n (Nesting.applyToken s n st text c).1.stack := by
  unfold Nesting.applyToken openCurly closeCurly endDeclaration
  split
  · split
    · exact h.mapTop opened_continues
    · split
      · exact h.push_opened rfl
      · exact h.push_opened rfl
  · split
    · split
      · exact h
      · exact h.pop
    · split
      · exact h
      · exact h.pop

theorem applyTokens (h : Settled n st.stack) (text : Text) :
    Settled n (Nesting.applyTokens s n st text).1.stack := by
  fun_induction Nesting.applyTokens s n st text with
  | case1 => exact h
  | case2 st text c rest _ st' here happ st'' later hlater ih =>
    have hfirst := h.applyToken (s := s) text c
    rw [happ] at hfirst
    rw [hlater] at ih
    exact ih hfirst

end Settled

/-- The innermost block waits for its bracket, and no other class that was declared on line `n` does. -/
def Declared (n : Nat) (st : Nesting) : Prop := ∃ b rest, st.stack = b :: rest ∧ b.opened = false ∧ Settled n rest

namespace Declared

variable {s : Source} {n : Nat} {st : Nesting}

theorem mapTop (h : Declared n st) {f : Block → Block} (hf : ∀ b, (f b).opened = b.opened) : Declared n (st.mapTop f) := by
  obtain ⟨b, rest, hstack, hb, hrest⟩ := h
  refine ⟨f b, rest, ?_, (hf b).trans hb, hrest⟩
  simp [Nesting.mapTop, hstack]

theorem mapHead_opened (f : ClassHead → ClassHead) (b : Block) : (b.mapHead f).opened = b.opened := by
  unfold Block.mapHead
  split <;> rfl

theorem noteBases (h : Declared n st) : Declared n (Nesting.noteBases s n st) := by
  unfold Nesting.noteBases
  split
  · exact h
  · split
    · exact h.mapTop (mapHead_opened _)
    · exact h

theorem noteAccess (h : Declared n st) (text : Text) : Declared n (Nesting.noteAccess n st text).1 := by
  unfold Nesting.noteAccess
  split
  · exact h.mapTop (mapHead_opened _)
  · exact h

/-- The first token opens the class that is innermost, or ends it. -/
theorem applyToken (h : Declared n st) (text : Text) (c : Char) :
    Settled n (Nesting.applyToken s n st text c).1.stack := by
  obtain ⟨b, rest, hstack, hb, hrest⟩ := h
  have hwaiting : st.headComplete = false := by
    simp [headComplete, hstack, hb]
  have hpop : st.pop.stack = rest := by
    simp [Nesting.pop, hstack]
  unfold Nesting.applyToken openCurly closeCurly endDeclaration
  rw [hwaiting]
  split
  · simp only [Bool.not_false, if_true, Nesting.mapTop, hstack]
    refine List.forall_mem_cons.mpr ⟨fun hwaits => ?_, hrest⟩
    cases hwaits.2
  · split
    · simpa [top?, hstack, hpop] using hrest
    · simpa [hpop] using hrest

/-- At the end of the line the class has been opened or ended, or no token was left. -/
theorem applyTokens (h : Declared n st) {text : Text} (hn : '\n' ∉ text) :
    Settled n (Nesting.applyTokens s n st text).1.stack ∨ Curlyless text := by
  rcases token?_cases hn with ⟨-, hnone⟩ | ⟨skipped, c, rest, -, -, -, hsome⟩
  · exact .inr ⟨fun hmem => absurd (hnone _ hmem) (by decide), fun hmem => absurd (hnone _ hmem) (by decide)⟩
  · left
    fun_cases Nesting.applyTokens s n st text with
    | case1 hnone =>
      rw [hsome] at hnone
      cases hnone
    | case2 c rest _ st' here happ st'' later hlater =>
      have hfirst := h.applyToken (s := s) text c
      rw [happ] at hfirst
      have hrest := hfirst.applyTokens (s := s) rest
      rw [hlater] at hrest
      exact hrest

end Declared

/-- On a line without a namespace, a class that is declared there waits for its bracket at the end of the line only if
the line has no curly brackets. -/
theorem settled_or_curlyless {s : Source} {st : Nesting} {n : Nat}
    (hold : ∀ b ∈ (st.beginLine.preprocess (s.elided n)).stack, b.start < n) (hn : '\n' ∉ s.elided n)
    (hspace : namespaceHead? (s.elided n) = none) :
    Settled n (st.update s n).1.stack ∨ Curlyless (s.elided n) := by
  have hsettled : Settled n ((st.beginLine.preprocess (s.elided n)).mapTop (countParens (s.elided n))).stack :=
    Settled.mapTop (fun b hb _ => Nat.ne_of_lt (hold b hb)) (countParens_continues _)
  rw [update_eq_applyTokens]
  simp only [headed, heads, enterNamespaces_of_none _ _ hspace]
  generalize (st.beginLine.preprocess (s.elided n)).mapTop (countParens (s.elided n)) = begun at hsettled
  unfold enterClass
  split
  · exact .inl ((hsettled.noteBases.noteAccess _).applyTokens _)
  · rename_i m hm
    simp only
    split
    · obtain ⟨opening, hopening, hopen⟩ := Pattern.eq_append_group (x := '{') hm (by decide) hn
      obtain ⟨closing, hclosing, hclose⟩ := Pattern.eq_append_group (x := '}') hm (by decide) hn
      have hrest : '\n' ∉ m.group 4 := fun hmem => hn (by rw [hopening]; exact List.mem_append_right _ hmem)
      have hdeclared : Declared n (begun.push ⟨.type (ClassHead.declared s n (m.group 3) (m.group 2 == "struct".toList)), n,
          false, 0, .none⟩) := ⟨_, begun.stack, rfl, rfl, hsettled⟩
      refine ((hdeclared.noteBases.noteAccess _).applyTokens hrest).imp_right fun hcurlyless => ⟨?_, ?_⟩
      · rw [hopening, List.mem_append]
        exact fun hmem => hmem.elim hopen hcurlyless.1
      · rw [hclosing, List.mem_append]
        exact fun hmem => hmem.elim hclose hcurlyless.2
    · exact .inl ((hsettled.noteBases.noteAccess _).applyTokens _)

/-- When a line begins, no block has begun on it yet. -/
theorem directed_start_lt (s : Source) (n : Nat) : ∀ b ∈ (directed s n).stack, b.start < n := by
  refine directed_of_before (P := fun stack => ∀ b ∈ stack, b.start < n) (fun _ hb => by cases hb) ?_ _
    (stack_mem_allStacks _)
  intro stack hmem b hb
  cases n with
  | zero =>
    rw [allStacks_zero hmem] at hb
    cases hb
  | succ n => exact Nat.lt_succ_of_le ((stacks_inOrder s n stack hmem).begun b hb)

/-- A class that waits for its bracket when a later line begins has no curly brackets on its own line. -/
theorem before_late (s : Source) (n : Nat) : ∀ stack ∈ (before s n).allStacks, ∀ b ∈ stack, Late s b := by
  induction n with
  | zero =>
    intro stack hmem b hb
    rw [allStacks_zero hmem] at hb
    cases hb
  | succ n ih =>
    have hdirected := directed_of_before (P := fun stack => ∀ b ∈ stack, Late s b) (fun _ hb => by cases hb) ih
    intro stack hmem
    rw [mem_allStacks, before_succ_frames] at hmem
    rcases hmem with rfl | hframe
    · intro b hb
      have hearlier : ∀ b ∈ (before s (n + 1)).stack, b.start < n → Late s b :=
        (update_moves s (before s n) n).rec (fun b hb _ => hdirected _ (stack_mem_allStacks _) b hb)
          fun _ hmove ih => late_move hmove ih
      have hbegun := (stacks_inOrder s n _ (stack_mem_allStacks _)).begun b hb
      rcases Nat.lt_or_eq_of_le hbegun with hlt | heq
      · exact hearlier b hb hlt
      · intro hwaits hn hspace
        rw [heq] at hn hspace ⊢
        rcases settled_or_curlyless (directed_start_lt s n) hn hspace with hsettled | hcurlyless
        · exact absurd heq (hsettled b hb hwaits)
        · exact hcurlyless
    · exact hdirected stack (mem_allStacks.mpr (.inr hframe))

theorem within_late {s : Source} {n : Nat} {taken : Nesting × Text}
    (h : Relation.ReflTransGen (Takes s n) (headed s (before s n) n) taken) :
    ∀ b ∈ taken.1.stack, b.start < n → Late s b := by
  have hdirected := directed_of_before (P := fun stack => ∀ b ∈ stack, Late s b) (fun _ hb => by cases hb)
    (before_late s n) _ (stack_mem_allStacks _)
  exact (within_moves h).rec (fun b hb _ => hdirected b hb) fun _ hmove ih => late_move hmove ih

/-! ## The bracket of a class -/

structure OpensClass (s : Source) (m : Nat) (b : Block) (head : ClassHead) : Prop where
  reached : ∃ st text rest, Relation.ReflTransGen (Takes s m) (headed s (before s m) m) (st, text) ∧
    token? text = some ('{', rest) ∧ st.top? = some b
  waiting : b.opened = false
  kind : b.kind = .type head

theorem Curlyless.balanced {s : Source} {n : Nat} (h : Curlyless (s.elided n)) : Balanced s n n := by
  have hline : (s.textFrom Line.elided n (n + 1 - n)).flatten = s.elided n := by
    have hone : n + 1 - n = 1 := by omega
    simp [hone, Source.textFrom, Source.elided]
  rw [Balanced, hline, List.count_eq_zero_of_not_mem h.1, List.count_eq_zero_of_not_mem h.2]

/-- The last line of a class is the first balanced one from its declaration on. It is the first one from its bracket on
just if no line before the bracket is balanced. A head that goes over several lines is balanced on its first line, unless
a namespace stands before it, so that the class ends there. -/
theorem lastLine_of_opened_class (s : Source) (m : Nat) (b : Block) (head : ClassHead) (h : OpensClass s m b head) :
    b.start ≤ m ∧ FirstBalanced s b.start b.start head.lastLine ∧
      (0 < b.start → (FirstBalanced s b.start m head.lastLine ↔
        ∀ i, b.start ≤ i → i < m → ¬ Balanced s b.start i)) ∧
      (b.start < m → '\n' ∉ s.elided b.start → namespaceHead? (s.elided b.start) = none →
        head.lastLine = b.start) := by
  obtain ⟨⟨st, text, rest, hreach, htoken, htop⟩, hwaiting, hkind⟩ := h
  have hmem : b ∈ st.stack := List.mem_of_mem_head? htop
  have hstart : b.start ≤ m := (within_induction s InOrder.nil InOrder.later InOrder.move hreach).begun b hmem
  have hfirst : FirstBalanced s b.start b.start head.lastLine := by
    rw [within_extent hreach b hmem head hkind]
    exact endFrom_spec s b.start
  refine ⟨hstart, hfirst, fun hpositive => ?_, fun hlt hn hspace => ?_⟩
  · exact hfirst.from_iff hpositive hstart (Nat.le_of_lt (line_lt_size_of_token hreach htoken))
  · have hwaits : Waits b := ⟨by simp [Block.isClass, Block.classHead?, hkind], hwaiting⟩
    have hbalanced := (within_late hreach b hmem hlt hwaits hn hspace).balanced
    have hinside : b.start < s.size := Nat.lt_trans hlt (line_lt_size_of_token hreach htoken)
    rcases hfirst with ⟨hle, -, -, hnone⟩ | ⟨-, hnone⟩
    · refine Nat.le_antisymm (Nat.le_of_not_lt fun hlater => ?_) hle
      exact hnone b.start (Nat.le_refl _) hlater hbalanced
    · exact absurd hbalanced (hnone b.start (Nat.le_refl _) hinside)

def derivedClass : Source :=
  Source.ofLines [[], "class A".toList, "    : public B \x7b".toList, "\x7d;".toList]

def derivedHead : ClassHead :=
  { ClassHead.declared derivedClass 1 "A".toList false with derived := true }

theorem derivedClass_opens : OpensClass derivedClass 2 ⟨.type derivedHead, 1, false, 0, .none⟩ derivedHead where
  reached := by
    refine ⟨_, _, [], .refl, ?_, ?_⟩
    · decide +kernel
    · decide +kernel
  waiting := rfl
  kind := rfl

/-- It is said to end on its first line. The brackets from its declaration on are balanced again on the third. -/
theorem lastLine_of_opened_class_derivedClass :
    OpensClass derivedClass 2 ⟨.type derivedHead, 1, false, 0, .none⟩ derivedHead ∧ derivedHead.lastLine = 1 ∧
      ¬ FirstBalanced derivedClass 1 2 derivedHead.lastLine ∧ FirstBalanced derivedClass 1 2 3 := by
  obtain ⟨-, -, hiff, hsplit⟩ := lastLine_of_opened_class _ _ _ _ derivedClass_opens
  refine ⟨derivedClass_opens, hsplit (by decide) (by decide +kernel) (by decide +kernel), fun hfrom => ?_, .inl ?_⟩
  · exact (hiff (by decide)).mp hfrom 1 (by decide) (by decide) (by decide +kernel)
  · refine ⟨by decide, by decide +kernel, by decide +kernel, fun i hi hlt => ?_⟩
    obtain rfl : i = 2 := by omega
    decide +kernel

end StyleCheck.Nesting
