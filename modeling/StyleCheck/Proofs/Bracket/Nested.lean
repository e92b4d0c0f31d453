/-
  StyleCheck.Proofs.Bracket.Nested — properly nested words of round, square and curly brackets.

  (1) The words. `signs` is what is left of a text when all but these six characters is left out,
  and `Nested` is the grammar of the words that are nested properly: nothing, a nested word within
  a pair of one kind, two nested words side by side.

  (2) The stack. `walk` reads a text, forwards or backwards, with a stack that knows these three
  kinds and no angle brackets. The brackets on it are those that the word leaves open
  (`leaves_of_walk`), so it accepts exactly the nested words (`nested_iff_walk`,
  `nested_iff_walk_back`), and it fails exactly where no continuation could be nested
  (`completable_iff_walk`).
-/

import StyleCheck.Bracket.Scan

namespace StyleCheck.Bracket

/-! ## Characters -/

def isSign (c : Char) : Bool := (opens? c).isSome || (closes? c).isSome

def signs (t : Text) : Text := t.filter isSign

/-- What a character is: an opening bracket, a closing one, or none of the three kinds. -/
theorem char_cases (c : Char) :
    (∃ b, b ≠ angle ∧ c = b.opening ∧ opens? c = some b ∧ closes? c = none) ∨
    (∃ b, b ≠ angle ∧ c = b.closing ∧ closes? c = some b ∧ opens? c = none) ∨
    (opens? c = none ∧ closes? c = none) := by
  by_cases h1 : c = '('
  · exact Or.inl ⟨round, by decide, h1, by subst h1; rfl, by subst h1; rfl⟩
  by_cases h2 : c = '['
  · exact Or.inl ⟨square, by decide, h2, by subst h2; rfl, by subst h2; rfl⟩
  by_cases h3 : c = '{'
  · exact Or.inl ⟨curly, by decide, h3, by subst h3; rfl, by subst h3; rfl⟩
  by_cases h4 : c = ')'
  · exact Or.inr (Or.inl ⟨round, by decide, h4, by subst h4; rfl, by subst h4; rfl⟩)
  by_cases h5 : c = ']'
  · exact Or.inr (Or.inl ⟨square, by decide, h5, by subst h5; rfl, by subst h5; rfl⟩)
  by_cases h6 : c = '}'
  · exact Or.inr (Or.inl ⟨curly, by decide, h6, by subst h6; rfl, by subst h6; rfl⟩)
  exact Or.inr (Or.inr ⟨by simp [opens?, h1, h2, h3], by simp [closes?, h4, h5, h6]⟩)

theorem opens?_opening {b : Bracket} (h : b ≠ angle) : opens? b.opening = some b := by
  cases b <;> first | rfl | exact absurd rfl h

theorem closes?_opening (b : Bracket) : closes? b.opening = none := by cases b <;> rfl

theorem closes?_closing {b : Bracket} (h : b ≠ angle) : closes? b.closing = some b := by
  cases b <;> first | rfl | exact absurd rfl h

theorem opens?_closing (b : Bracket) : opens? b.closing = none := by cases b <;> rfl

theorem opening_inj {b b' : Bracket} (h : b.opening = b'.opening) : b = b' := by
  cases b <;> cases b' <;> first | rfl | exact absurd h (by decide)

theorem closing_inj {b b' : Bracket} (h : b.closing = b'.closing) : b = b' := by
  cases b <;> cases b' <;> first | rfl | exact absurd h (by decide)

theorem of_opens? {c : Char} {b : Bracket} (h : opens? c = some b) :
    b ≠ angle ∧ c = b.opening ∧ closes? c = none := by
  rcases char_cases c with ⟨b', hb, hc, ho, hn⟩ | ⟨b', _, _, _, hn⟩ | ⟨hn, _⟩
  · rw [h] at ho; cases ho; exact ⟨hb, hc, hn⟩
  · rw [hn] at h; cases h
  · rw [hn] at h; cases h

theorem of_closes? {c : Char} {b : Bracket} (h : closes? c = some b) :
    b ≠ angle ∧ c = b.closing ∧ opens? c = none := by
  rcases char_cases c with ⟨b', _, _, _, hn⟩ | ⟨b', hb, hc, ho, hn⟩ | ⟨_, hn⟩
  · rw [hn] at h; cases h
  · rw [h] at ho; cases ho; exact ⟨hb, hc, hn⟩
  · rw [hn] at h; cases h

def mirror (c : Char) : Char :=
  match opens? c, closes? c with
  | some b, _ => b.closing
  | none, some b => b.opening
  | none, none => c

theorem mirror_opening {b : Bracket} (h : b ≠ angle) : mirror b.opening = b.closing := by
  simp only [mirror, opens?_opening h]

theorem mirror_closing {b : Bracket} (h : b ≠ angle) : mirror b.closing = b.opening := by
  simp only [mirror, opens?_closing, closes?_closing h]

theorem mirror_mirror (c : Char) : mirror (mirror c) = c := by
  rcases char_cases c with ⟨b, hb, rfl, _⟩ | ⟨b, hb, rfl, _⟩ | ⟨ho, hc⟩
  · rw [mirror_opening hb, mirror_closing hb]
  · rw [mirror_closing hb, mirror_opening hb]
  · have : mirror c = c := by simp only [mirror, ho, hc]
    rw [this, this]

/-- Reading backwards, a bracket is entered where its mirror image would be entered forwards. -/
theorem opens?_mirror (c : Char) : opens? (mirror c) = closes? c ∧ closes? (mirror c) = opens? c := by
  rcases char_cases c with ⟨b, hb, rfl, _⟩ | ⟨b, hb, rfl, _⟩ | ⟨ho, hc⟩
  · rw [mirror_opening hb, opens?_closing, closes?_opening, closes?_closing hb, opens?_opening hb]
    exact ⟨rfl, rfl⟩
  · rw [mirror_closing hb, opens?_closing, closes?_opening, closes?_closing hb, opens?_opening hb]
    exact ⟨rfl, rfl⟩
  · have : mirror c = c := by simp only [mirror, ho, hc]
    rw [this, ho, hc]
    exact ⟨rfl, rfl⟩

theorem signs_mirror (t : Text) : signs (t.map mirror) = (signs t).map mirror := by
  have h : isSign ∘ mirror = isSign := by
    funext c
    simp only [Function.comp, isSign, (opens?_mirror c).1, (opens?_mirror c).2, Bool.or_comm]
  simp only [signs, List.filter_map, h]

theorem signs_append (t u : Text) : signs (t ++ u) = signs t ++ signs u := List.filter_append ..

theorem signs_reverse (t : Text) : signs t.reverse = (signs t).reverse := List.filter_reverse ..

/-! ## Words -/

inductive Nested : Text → Prop
  | empty : Nested []
  | around {w : Text} (b : Bracket) : b ≠ angle → Nested w → Nested (b.opening :: (w ++ [b.closing]))
  | beside {u v : Text} : Nested u → Nested v → Nested (u ++ v)

/-- After the word `w` the brackets of `stack` are open, with nested words between them. -/
inductive Leaves : Stack → Text → Prop
  | nothing {w : Text} : Nested w → Leaves [] w
  | bracket {lower : Stack} {x y : Text} (b : Bracket) :
      b ≠ angle → Leaves lower x → Nested y → Leaves (b :: lower) (x ++ b.opening :: y)

theorem Leaves.append_nested {stack : Stack} {w y : Text} (h : Leaves stack w) (hy : Nested y) :
    Leaves stack (w ++ y) := by
  cases h with
  | nothing hw => exact Leaves.nothing (Nested.beside hw hy)
  | bracket b hb hx hw =>
    have := Leaves.bracket b hb hx (Nested.beside hw hy)
    simpa using this

theorem nested_mirror {w : Text} (h : Nested w) : Nested (w.reverse.map mirror) := by
  induction h with
  | empty => exact Nested.empty
  | around b hb _ ih =>
    have := Nested.around b hb ih
    simpa [mirror_opening hb, mirror_closing hb] using this
  | beside _ _ ihu ihv =>
    have := Nested.beside ihv ihu
    simpa using this

theorem nested_mirror_iff {w : Text} : Nested (w.reverse.map mirror) ↔ Nested w := by
  refine ⟨fun h => ?_, nested_mirror⟩
  have := nested_mirror h
  rw [← List.map_reverse, List.reverse_reverse, List.map_map] at this
  have id : mirror ∘ mirror = id := funext mirror_mirror
  simpa [id] using this

/-! ## The stack -/

inductive Way where
  | forwards
  | backwards
  deriving DecidableEq, Repr

def Way.enters : Way → Char → Option Bracket
  | forwards => opens?
  | backwards => closes?

def Way.leaves : Way → Char → Option Bracket
  | forwards => closes?
  | backwards => opens?

theorem Way.leaves_of_enters (d : Way) {c : Char} {b : Bracket} (h : d.enters c = some b) :
    d.leaves c = none := by
  cases d with
  | forwards => exact (of_opens? h).2.2
  | backwards => exact (of_closes? h).2.2

theorem Way.enters_of_leaves (d : Way) {c : Char} {b : Bracket} (h : d.leaves c = some b) :
    d.enters c = none := by
  cases he : d.enters c with
  | none => rfl
  | some b' => rw [d.leaves_of_enters he] at h; cases h

theorem Way.enters_ne_angle (d : Way) {c : Char} {b : Bracket} (h : d.enters c = some b) :
    b ≠ angle := by
  cases d with
  | forwards => exact (of_opens? h).1
  | backwards => exact (of_closes? h).1

/-- What a character does to a stack without angle brackets; a bracket that is left must be the
innermost one. -/
def step (d : Way) (stack : Stack) (c : Char) : Option Stack :=
  match d.enters c, d.leaves c with
  | some b, _ => some (b :: stack)
  | none, some b =>
    match stack with
    | [] => none
    | top :: lower => if top = b then some lower else none
  | none, none => some stack

def walk (d : Way) : Stack → Text → Option Stack
  | stack, [] => some stack
  | stack, c :: rest => (step d stack c).bind fun stack => walk d stack rest

theorem step_enters {d : Way} {c : Char} {b : Bracket} (h : d.enters c = some b) (stack : Stack) :
    step d stack c = some (b :: stack) := by
  simp only [step, h]

theorem step_leaves {d : Way} {c : Char} {b : Bracket} (h : d.leaves c = some b) (lower : Stack) :
    step d (b :: lower) c = some lower := by
  simp only [step, d.enters_of_leaves h, h, if_true]

theorem step_other {d : Way} {c : Char} (he : d.enters c = none) (hl : d.leaves c = none)
    (stack : Stack) : step d stack c = some stack := by
  simp only [step, he, hl]

theorem step_nil_leaves {d : Way} {c : Char} {b : Bracket} (h : d.leaves c = some b) :
    step d [] c = none := by
  simp only [step, d.enters_of_leaves h, h]

theorem step_misfit {d : Way} {c : Char} {b top : Bracket} (h : d.leaves c = some b) (hne : top ≠ b)
    (lower : Stack) : step d (top :: lower) c = none := by
  simp only [step, d.enters_of_leaves h, h, hne, if_false]

/-- What a step can do. -/
theorem step_cases {d : Way} {stack stack' : Stack} {c : Char} (h : step d stack c = some stack') :
    (∃ b, d.enters c = some b ∧ stack' = b :: stack) ∨
    (∃ b, d.leaves c = some b ∧ stack = b :: stack') ∨
    (d.enters c = none ∧ d.leaves c = none ∧ stack' = stack) := by
  simp only [step] at h
  split at h
  · rename_i b he
    cases h
    exact Or.inl ⟨b, he, rfl⟩
  · rename_i b he hl
    split at h
    · cases h
    · split at h
      · rename_i top lower ht
        cases h
        exact Or.inr (Or.inl ⟨b, hl, by rw [ht]⟩)
      · cases h
  · rename_i he hl
    cases h
    exact Or.inr (Or.inr ⟨he, hl, rfl⟩)

/-- A step fails only where a bracket is left that is not the innermost one. -/
theorem step_eq_none {d : Way} {stack : Stack} {c : Char} (h : step d stack c = none) :
    ∃ b, d.leaves c = some b ∧ ∀ top lower, stack = top :: lower → top ≠ b := by
  simp only [step] at h
  split at h
  · cases h
  · rename_i b he hl
    refine ⟨b, hl, ?_⟩
    rintro top lower rfl rfl
    simp at h
  · cases h

/-- What lies below on the stack does not matter. -/
theorem step_frame {d : Way} {stack stack' : Stack} {c : Char} (h : step d stack c = some stack')
    (lower : Stack) : step d (stack ++ lower) c = some (stack' ++ lower) := by
  rcases step_cases h with ⟨b, he, rfl⟩ | ⟨b, hl, rfl⟩ | ⟨he, hl, rfl⟩
  · exact step_enters he _
  · exact step_leaves hl _
  · exact step_other he hl _

theorem walk_append (d : Way) (stack : Stack) (t u : Text) :
    walk d stack (t ++ u) = (walk d stack t).bind fun stack => walk d stack u := by
  induction t generalizing stack with
  | nil => rfl
  | cons c t ih =>
    simp only [List.cons_append, walk, Option.bind_assoc]
    congr 1
    funext stack
    exact ih stack

theorem walk_snoc {d : Way} {stack stack' : Stack} {t : Text} (h : walk d stack t = some stack')
    (c : Char) : walk d stack (t ++ [c]) = step d stack' c := by
  rw [walk_append, h, Option.bind_some]
  cases hs : step d stack' c <;> simp only [walk, hs, Option.bind_some, Option.bind_none]

theorem walk_no_angle {d : Way} {stack stack' : Stack} {t : Text} (h : walk d stack t = some stack')
    (hs : angle ∉ stack) : angle ∉ stack' := by
  induction t generalizing stack with
  | nil => cases h; exact hs
  | cons c t ih =>
    obtain ⟨mid, hm, ht⟩ := Option.bind_eq_some_iff.mp h
    refine ih ht ?_
    rcases step_cases hm with ⟨b, he, rfl⟩ | ⟨b, _, rfl⟩ | ⟨_, _, rfl⟩
    · exact fun hb => (List.mem_cons.mp hb).elim (fun e => d.enters_ne_angle he e.symm) hs
    · exact fun hb => hs (List.mem_cons_of_mem _ hb)
    · exact hs

/-- Only the brackets of a text count. -/
theorem walk_signs (stack : Stack) (t : Text) :
    walk .forwards stack (signs t) = walk .forwards stack t := by
  induction t generalizing stack with
  | nil => rfl
  | cons c t ih =>
    simp only [signs, List.filter_cons] at ih ⊢
    split
    · simp only [walk, ih]
    · rename_i h
      simp only [isSign, Bool.or_eq_true, not_or, Option.not_isSome_iff_eq_none] at h
      rw [ih]
      simp only [walk, step_other (d := .forwards) h.1 h.2, Option.bind_some]

theorem walk_back (stack : Stack) (t : Text) :
    walk .backwards stack t = walk .forwards stack (t.map mirror) := by
  induction t generalizing stack with
  | nil => rfl
  | cons c t ih =>
    have hs : step .backwards stack c = step .forwards stack (mirror c) := by
      simp only [step, Way.enters, Way.leaves, (opens?_mirror c).1, (opens?_mirror c).2]
    simp only [List.map_cons, walk, ih, hs]

/-! ## Words and stacks -/

theorem walk_nested {w : Text} (h : Nested w) (stack : Stack) : walk .forwards stack w = some stack := by
  induction h generalizing stack with
  | empty => rfl
  | around b hb _ ih =>
    have ho : Way.forwards.enters b.opening = some b := opens?_opening hb
    have hc : Way.forwards.leaves b.closing = some b := closes?_closing hb
    simp only [walk, step_enters ho, Option.bind_some]
    rw [walk_snoc (ih (b :: stack)), step_leaves hc]
  | beside _ _ ihu ihv => rw [walk_append, ihu, Option.bind_some, ihv]

theorem isSign_opening {b : Bracket} (h : b ≠ angle) : isSign b.opening = true := by
  simp [isSign, opens?_opening h]

theorem isSign_closing {b : Bracket} (h : b ≠ angle) : isSign b.closing = true := by
  simp [isSign, closes?_closing h]

theorem leaves_step {stack stack' : Stack} {w : Text} {c : Char} (h : Leaves stack w)
    (hs : step .forwards stack c = some stack') : Leaves stack' (w ++ signs [c]) := by
  rcases step_cases hs with ⟨b, he, rfl⟩ | ⟨b, hl, rfl⟩ | ⟨he, hl, rfl⟩
  · obtain ⟨hb, rfl, -⟩ := of_opens? he
    simp only [signs, List.filter_cons, isSign_opening hb, if_true, List.filter_nil]
    exact Leaves.bracket b hb h Nested.empty
  · -- the bracket that is left becomes part of the nested word before it
    obtain ⟨hb, rfl, -⟩ := of_closes? hl
    simp only [signs, List.filter_cons, isSign_closing hb, if_true, List.filter_nil]
    cases h with
    | bracket _ _ hx hy =>
      have := hx.append_nested (Nested.around b hb hy)
      simpa using this
  · have hn : isSign c = false := by
      simp only [Way.enters, Way.leaves] at he hl
      simp [isSign, he, hl]
    simpa [signs, hn] using h

theorem leaves_walk {stack stack' : Stack} {w t : Text} (h : Leaves stack w)
    (hw : walk .forwards stack t = some stack') : Leaves stack' (w ++ signs t) := by
  induction t generalizing stack w with
  | nil =>
    cases hw
    simpa [signs] using h
  | cons c t ih =>
    obtain ⟨mid, hs, ht⟩ := Option.bind_eq_some_iff.mp hw
    have := ih (leaves_step h hs) ht
    rw [List.append_assoc, ← signs_append] at this
    exact this

/-- The stack after a walk holds exactly the brackets that the word leaves open. -/
theorem leaves_of_walk {stack : Stack} {t : Text} (h : walk .forwards [] t = some stack) :
    Leaves stack (signs t) :=
  leaves_walk (Leaves.nothing Nested.empty) h

theorem nested_iff_walk (t : Text) : Nested (signs t) ↔ walk .forwards [] t = some [] := by
  constructor
  · intro h
    rw [← walk_signs]
    exact walk_nested h []
  · intro h
    cases leaves_of_walk h with
    | nothing h => exact h

theorem nested_iff_walk_back (t : Text) :
    Nested (signs t) ↔ walk .backwards [] t.reverse = some [] := by
  rw [walk_back, ← nested_iff_walk, signs_mirror, signs_reverse, nested_mirror_iff]

/-- A word can be continued to a nested one as long as the walk goes on. -/
theorem completable_iff_walk (t : Text) :
    (∃ v, Nested (signs t ++ v)) ↔ (walk .forwards [] t).isSome = true := by
  constructor
  · rintro ⟨v, hv⟩
    have := walk_nested hv []
    rw [walk_append, walk_signs] at this
    obtain ⟨stack, hs, -⟩ := Option.bind_eq_some_iff.mp this
    simp [hs]
  · intro h
    obtain ⟨stack, hs⟩ := Option.isSome_iff_exists.mp h
    have rest : ∀ stack : Stack, angle ∉ stack →
        walk .forwards stack (stack.map closing) = some [] := by
      intro stack ha
      induction stack with
      | nil => rfl
      | cons b lower ih =>
        rw [List.mem_cons, not_or] at ha
        have hc : Way.forwards.leaves b.closing = some b := closes?_closing (Ne.symm ha.1)
        simp only [List.map_cons, walk, step_leaves hc, Option.bind_some]
        exact ih ha.2
    refine ⟨signs (stack.map closing), ?_⟩
    rw [← signs_append, nested_iff_walk, walk_append, hs, Option.bind_some]
    exact rest stack (walk_no_angle hs List.not_mem_nil)

end StyleCheck.Bracket
