/-
  StyleCheck.Proofs.Bracket.Projection — angle brackets never change the answer for the other three kinds.

  A search for a round, square or curly bracket keeps tentative angle brackets on the same stack,
  drops them at closing brackets and semicolons, and passes over characters after an arrow or the
  word `operator`. All of that happens above a bottom that is no angle bracket (`Grounded`), and
  the stack without its angle brackets (`firm`) is the one of the plain search.

  1. `effect_agrees`, `backEffect_agrees`: what one character does.
  2. `scan_agrees`, `scanBack_agrees`: what one line does.
  3. `findClose_answers`, `findOpen_answers`: what the whole search answers.
-/

import StyleCheck.Proofs.Bracket.Reading

namespace StyleCheck.Bracket

/-! ## Stacks -/

def firm (stack : Stack) : Stack := stack.filter (· != angle)

def Grounded (stack : Stack) : Prop := ∃ upper b, stack = upper ++ [b] ∧ b ≠ angle

theorem firm_angle (stack : Stack) : firm (angle :: stack) = firm stack := rfl

theorem firm_cons {b : Bracket} (h : b ≠ angle) (stack : Stack) : firm (b :: stack) = b :: firm stack :=
  List.filter_cons_of_pos (by simpa using h)

theorem Grounded.cons {stack : Stack} (h : Grounded stack) (b : Bracket) : Grounded (b :: stack) := by
  obtain ⟨upper, b', rfl, hb⟩ := h
  exact ⟨b :: upper, b', rfl, hb⟩

theorem grounded_singleton {b : Bracket} (h : b ≠ angle) : Grounded [b] := ⟨[], b, rfl, h⟩

/-- Above the outermost bracket anything may be taken off. -/
theorem Grounded.tail {b : Bracket} {lower : Stack} (h : Grounded (b :: lower)) :
    (lower = [] ∧ b ≠ angle) ∨ Grounded lower := by
  obtain ⟨upper, b', he, hb⟩ := h
  cases upper with
  | nil =>
    simp only [List.nil_append, List.cons.injEq] at he
    obtain ⟨rfl, rfl⟩ := he
    exact Or.inl ⟨rfl, hb⟩
  | cons x upper =>
    simp only [List.cons_append, List.cons.injEq] at he
    exact Or.inr ⟨upper, b', he.2, hb⟩

theorem Grounded.firm_ne_nil {stack : Stack} (h : Grounded stack) : firm stack ≠ [] := by
  obtain ⟨upper, b, rfl, hb⟩ := h
  simp [firm, hb]

theorem Grounded.ne_nil {stack : Stack} (h : Grounded stack) : stack ≠ [] := by
  obtain ⟨upper, b, rfl, -⟩ := h
  simp

theorem firm_dropAngles (stack : Stack) : firm (dropAngles stack) = firm stack := by
  induction stack with
  | nil => rfl
  | cons b lower ih =>
    simp only [dropAngles, List.dropWhile_cons] at ih ⊢
    split
    · rename_i h
      rw [beq_iff_eq.mp h, firm_angle]
      exact ih
    · rfl

theorem Grounded.dropAngles {stack : Stack} (h : Grounded stack) :
    ∃ top lower, Bracket.dropAngles stack = top :: lower ∧ top ≠ angle ∧ Grounded (top :: lower) := by
  induction stack with
  | nil => exact absurd rfl h.ne_nil
  | cons b lower ih =>
    by_cases hb : b = angle
    · subst hb
      rcases h.tail with ⟨-, ha⟩ | h
      · exact absurd rfl ha
      · exact ih h
    · refine ⟨b, lower, ?_, hb, h⟩
      simp [Bracket.dropAngles, hb]

/-! ## Characters -/

/-- The effect of a character is the step `r` of the plain search. -/
def Effect.Agrees (e : Effect) (r : Option Stack) : Prop :=
  match e with
  | .complete => r = some []
  | .broken => r = none
  | .proceed stack => Grounded stack ∧ r = some (firm stack)

theorem ofRest_agrees {b : Bracket} {lower : Stack} (h : Grounded (b :: lower)) :
    (Effect.ofRest lower).Agrees (some (firm lower)) := by
  unfold Effect.ofRest
  rcases h.tail with ⟨rfl, -⟩ | h
  · rfl
  · rw [if_neg (by simpa using h.ne_nil)]
    exact ⟨h, rfl⟩

theorem pair_agrees {d : Way} {c : Char} {b : Bracket} (hl : d.leaves c = some b) {stack : Stack}
    (h : Grounded stack) : (pair b stack).Agrees (step d (firm stack) c) := by
  obtain ⟨top, lower, hd, ht, hg⟩ := h.dropAngles
  have hf : firm stack = top :: firm lower := by rw [← firm_dropAngles, hd, firm_cons ht]
  simp only [pair, hd, hf]
  by_cases hb : top = b
  · subst hb
    rw [step_leaves hl, if_pos (by simp)]
    exact ofRest_agrees hg
  · rw [step_misfit hl hb, if_neg (by simpa using hb)]
    rfl

theorem endStatement_agrees {stack : Stack} (h : Grounded stack) :
    (endStatement stack).Agrees (some (firm stack)) := by
  obtain ⟨top, lower, hd, -, hg⟩ := h.dropAngles
  rw [← firm_dropAngles, hd]
  simp only [endStatement, hd]
  exact ⟨hg, rfl⟩

theorem openAngle_agrees (before : Text) {stack : Stack} (h : Grounded stack) :
    (openAngle before stack).Agrees (some (firm stack)) := by
  unfold openAngle
  split
  · split
    · rename_i rest
      rcases h.tail with ⟨-, ha⟩ | h
      · exact absurd rfl ha
      · rw [if_neg (by simpa using h.ne_nil)]
        exact ⟨h, rfl⟩
    · exact ⟨h, rfl⟩
  · split
    · exact ⟨h, rfl⟩
    · exact ⟨h.cons angle, rfl⟩

theorem closeAngle_agrees (before : Text) {stack : Stack} (h : Grounded stack) :
    (closeAngle before stack).Agrees (some (firm stack)) := by
  unfold closeAngle
  split
  · exact ⟨h, rfl⟩
  · split
    · exact ofRest_agrees h
    · exact ⟨h, rfl⟩

/-- Forwards, a character does to the firm stack what it does in the plain search. -/
theorem effect_agrees (before : Text) (c : Char) {stack : Stack} (h : Grounded stack) :
    (effect before c stack).Agrees (step .forwards (firm stack) c) := by
  unfold effect
  split
  · rename_i b ho
    rw [step_enters (d := .forwards) ho]
    exact ⟨h.cons b, by rw [firm_cons (of_opens? ho).1]⟩
  · rename_i b ho hc
    exact pair_agrees (d := .forwards) hc h
  · rename_i ho hc
    rw [step_other (d := .forwards) ho hc]
    split
    · exact openAngle_agrees before h
    · split
      · exact closeAngle_agrees before h
      · split
        · exact endStatement_agrees h
        · exact ⟨h, rfl⟩

/-- Backwards, a character may also take the one before it out of account; that one is no bracket
of the three kinds. -/
def BackEffect.Agrees (before : Text) (e : BackEffect) (r : Option Stack) : Prop :=
  match e with
  | .plain e => e.Agrees r
  | .skip stack => (Grounded stack ∧ r = some (firm stack)) ∧
      ∀ b rest, before = b :: rest → opens? b = none ∧ closes? b = none

theorem not_sign_of_blank {c : Char} (h : Text.isBlank c = true) : opens? c = none ∧ closes? c = none := by
  rcases char_cases c with ⟨b, hb, rfl, _⟩ | ⟨b, hb, rfl, _⟩ | hn
  · cases b <;> first | exact absurd rfl hb | exact absurd h (by decide)
  · cases b <;> first | exact absurd rfl hb | exact absurd h (by decide)
  · exact hn

/-- The last character of the word `operator` and of the blanks after it is no bracket. -/
theorem not_sign_of_operator {b : Char} {rest : Text} (h : endsInOperator (b :: rest) = true) :
    opens? b = none ∧ closes? b = none := by
  by_cases hb : Text.isBlank b = true
  · exact not_sign_of_blank hb
  · have hw : endsInWord "operator".toList (b :: rest) = true := h
    simp only [endsInWord, List.dropWhile_cons, hb, Bool.false_eq_true, if_false, Bool.and_eq_true] at hw
    obtain ⟨hp, -⟩ := hw
    have hr : b = 'r' := by
      have := List.isPrefixOf_iff_prefix.mp hp
      obtain ⟨t, ht⟩ := this
      exact (List.cons.inj ht).1.symm
    subst hr
    exact ⟨rfl, rfl⟩

theorem backAngleClosing_agrees (before after : Text) {stack : Stack} (h : Grounded stack) :
    (backAngleClosing before after stack).Agrees before (some (firm stack)) := by
  unfold backAngleClosing
  split
  · rename_i hs
    refine ⟨⟨h, rfl⟩, ?_⟩
    rintro b rest rfl
    simp only [List.isEmpty_cons, Bool.not_false, Bool.true_and, List.head?_cons, Bool.or_eq_true,
      beq_iff_eq, Option.some.injEq] at hs
    rcases hs with (rfl | hs) | hs
    · exact ⟨rfl, rfl⟩
    · simp only [isComparison, List.head?_cons, Option.map_some, Option.getD_some, Bool.and_eq_true] at hs
      exact not_sign_of_blank hs.1
    · exact not_sign_of_operator hs
  · exact ⟨h.cons angle, rfl⟩

theorem backAngleOpening_agrees (before : Text) {stack : Stack} (h : Grounded stack) :
    (backAngleOpening before stack).Agrees before (some (firm stack)) := by
  unfold backAngleOpening
  split
  · rename_i hs
    refine ⟨⟨h, rfl⟩, ?_⟩
    rintro b rest rfl
    simp only [List.head?_cons, beq_iff_eq, Option.some.injEq] at hs
    subst hs
    exact ⟨rfl, rfl⟩
  · split
    · exact ofRest_agrees h
    · exact ⟨h, rfl⟩

theorem backEffect_agrees (before after : Text) (c : Char) {stack : Stack} (h : Grounded stack) :
    (backEffect before after c stack).Agrees before (step .backwards (firm stack) c) := by
  unfold backEffect
  split
  · rename_i b ho
    exact pair_agrees (d := .backwards) ho h
  · rename_i b ho hc
    rw [step_enters (d := .backwards) hc]
    exact ⟨h.cons b, by rw [firm_cons (of_closes? hc).1]⟩
  · rename_i ho hc
    rw [step_other (d := .backwards) hc ho]
    split
    · exact backAngleClosing_agrees before after h
    · split
      · exact backAngleOpening_agrees before h
      · split
        · exact endStatement_agrees h
        · exact ⟨h, rfl⟩

/-! ## Lines -/

def Scan.Agrees (d : Way) (line : Nat) (mark : Nat → Nat) (rest : List Cell) (r : Scan) (v : Verdict) : Prop :=
  match r with
  | .found column => ∃ c, column = mark c ∧ v = .found ⟨line, c⟩
  | .broken => ∃ q, v = .misfit q
  | .unfinished stack => Grounded stack ∧ v = search d (firm stack) rest

theorem search_cons_proceed {d : Way} {stack stack' : Stack} {q : Place} {c : Char}
    (hg : Grounded stack') (hs : step d (firm stack) c = some (firm stack')) (rest : List Cell) :
    search d (firm stack) ((q, c) :: rest) = search d (firm stack') rest := by
  simp only [search, hs]
  cases hf : firm stack' with
  | nil => exact absurd hf hg.firm_ne_nil
  | cons b lower => rfl

theorem scan_agrees (line : Nat) (rest : List Cell) (text : Text) (before : Text) (column : Nat)
    {stack : Stack} (h : Grounded stack) :
    (scan stack before column text).Agrees .forwards line (· + 1) rest
      (search .forwards (firm stack) (cellsOf line column text ++ rest)) := by
  induction text generalizing before column stack with
  | nil => exact ⟨h, rfl⟩
  | cons c text ih =>
    have ha := effect_agrees before c h
    simp only [scan, cellsOf, List.cons_append]
    cases he : effect before c stack with
    | complete =>
      rw [he] at ha
      exact ⟨column, rfl, by simp only [search, show step _ _ _ = _ from ha]⟩
    | broken =>
      rw [he] at ha
      exact ⟨⟨line, column⟩, by simp only [search, show step _ _ _ = _ from ha]⟩
    | proceed stack' =>
      rw [he] at ha
      obtain ⟨hg, hs⟩ := ha
      rw [search_cons_proceed hg hs]
      exact ih (c :: before) (column + 1) hg

def backCells (line : Nat) : Text → List Cell
  | [] => []
  | c :: before => (⟨line, before.length⟩, c) :: backCells line before

theorem backCells_eq (line : Nat) (t : Text) : backCells line t = (cellsOf line 0 t.reverse).reverse := by
  induction t with
  | nil => rfl
  | cons c t ih =>
    rw [List.reverse_cons, cellsOf_append, List.reverse_append, ← ih]
    simp [backCells, cellsOf]

theorem scanBack_agrees (line : Nat) (rest : List Cell) (text : Text) (after : Text) {stack : Stack}
    (h : Grounded stack) :
    (scanBack stack after text).Agrees .backwards line id rest
      (search .backwards (firm stack) (backCells line text ++ rest)) := by
  -- a character may take the one before it along, so the induction follows the scan itself
  fun_induction scanBack stack after text with
  | case1 stack after => exact ⟨h, rfl⟩
  | case2 stack after c before he =>
    have ha := backEffect_agrees before after c h
    rw [he] at ha
    exact ⟨before.length, rfl, by simp only [backCells, List.cons_append, search, show step _ _ _ = _ from ha]⟩
  | case3 stack after c before he =>
    have ha := backEffect_agrees before after c h
    rw [he] at ha
    exact ⟨_, by simp only [backCells, List.cons_append, search, show step _ _ _ = _ from ha]; rfl⟩
  | case4 stack after c before stack' he ih =>
    have ha := backEffect_agrees before after c h
    rw [he] at ha
    obtain ⟨hg, hs⟩ := ha
    simp only [backCells, List.cons_append]
    rw [search_cons_proceed hg hs]
    exact ih hg
  | case5 stack after c stack' he =>
    have ha := backEffect_agrees [] after c h
    rw [he] at ha
    obtain ⟨⟨hg, hs⟩, -⟩ := ha
    simp only [backCells, List.cons_append, List.nil_append]
    exact ⟨hg, search_cons_proceed hg hs rest⟩
  | case6 stack after c stack' b before he ih =>
    have ha := backEffect_agrees (b :: before) after c h
    rw [he] at ha
    obtain ⟨⟨hg, hs⟩, hn⟩ := ha
    obtain ⟨hbo, hbc⟩ := hn b before rfl
    simp only [backCells, List.cons_append]
    rw [search_cons_proceed hg hs, search_cons_proceed hg (step_other (d := .backwards) hbc hbo _)]
    exact ih hg

/-! ## Files -/

/-- The answer of a search over the file is the plain verdict `v`. Forwards the place given is the
one after the bracket. -/
def Answers (s : Source) (mark : Nat → Nat) (r : Reach) (v : Verdict) : Prop :=
  match v with
  | .found q => r = ⟨s.elided q.line, some ⟨q.line, mark q.column⟩⟩
  | .misfit _ | .unfinished => r.place = none

/-- A scan that agrees with the plain search answers as it does, if what goes on after it does. -/
theorem answers_of_agrees {d : Way} {s : Source} {line : Nat} {mark : Nat → Nat} {rest : List Cell}
    {go : Stack → Reach}
    (hgo : ∀ stack, Grounded stack → Answers s mark (go stack) (search d (firm stack) rest))
    (r : Scan) (v : Verdict) :
    r.Agrees d line mark rest v →
    Answers s mark
      (match r with
        | .found column => ⟨s.elided line, some ⟨line, column⟩⟩
        | .broken => ⟨s.elided line, none⟩
        | .unfinished stack => go stack) v := by
  intro h
  cases r with
  | found column =>
    obtain ⟨c, rfl, rfl⟩ := h
    rfl
  | broken =>
    obtain ⟨q, rfl⟩ := h
    rfl
  | unfinished stack =>
    obtain ⟨hg, rfl⟩ := h
    exact hgo stack hg

theorem closeBelow_answers (s : Source) (count line : Nat) (text : Text) {stack : Stack}
    (h : Grounded stack) :
    Answers s (· + 1) (closeBelow s count line text stack)
      (search .forwards (firm stack) (cellsFrom s (line + 1) count)) := by
  induction count generalizing line text stack with
  | zero => rfl
  | succ count ih =>
    have ha := scan_agrees (line + 1) (cellsFrom s (line + 1 + 1) count) (s.elided (line + 1)) [] 0 h
    simp only [closeBelow, cellsFrom, List.isEmpty_eq_false_iff.mpr h.ne_nil, Bool.false_eq_true, if_false]
    exact answers_of_agrees (fun stack hg => ih (line + 1) (s.elided (line + 1)) hg) _ _ ha

theorem openAbove_answers (s : Source) (line : Nat) (text : Text) {stack : Stack} (h : Grounded stack) :
    Answers s id (openAbove s line text stack)
      (search .backwards (firm stack) (cellsFrom s 0 line).reverse) := by
  induction line generalizing text stack with
  | zero => rfl
  | succ line ih =>
    have ha := scanBack_agrees line (cellsFrom s 0 line).reverse (s.elided line).reverse [] h
    rw [backCells_eq, List.reverse_reverse, ← List.reverse_append, ← cellsFrom_succ] at ha
    simp only [openAbove, List.isEmpty_eq_false_iff.mpr h.ne_nil, Bool.false_eq_true, if_false]
    exact answers_of_agrees (fun stack hg => ih (s.elided line) hg) _ _ ha

theorem canOpen_opening {b : Bracket} (h : b ≠ angle) (t : Text) : canOpen (b.opening :: t) = true := by
  cases b <;> first | rfl | exact absurd rfl h

theorem canClose_closing (b : Bracket) : canClose b.closing = true := by cases b <;> rfl

/-- The first character puts the bracket on the stack, and from there on the stack is grounded. -/
theorem scanFrom_opening {text : Text} {column : Nat} {b : Bracket} (hb : b ≠ angle)
    (h : text[column]? = some b.opening) :
    scanFrom [] text column
      = scan [b] (b.opening :: (text.take column).reverse) (column + 1) (text.drop (column + 1)) := by
  obtain ⟨hlt, hc⟩ := List.getElem?_eq_some_iff.mp h
  rw [scanFrom, List.drop_eq_getElem_cons hlt, hc, scan]
  simp only [effect, opens?_opening hb]

/-- The search from an opening bracket is the plain search forwards. -/
theorem findClose_answers (s : Source) (p : Place) {b : Bracket} (hb : b ≠ angle)
    (hp : (s.elided p.line)[p.column]? = some b.opening) :
    Answers s (· + 1) (findClose s p.line p.column) (search .forwards [] (ahead s p)) := by
  obtain ⟨hlt, hc⟩ := List.getElem?_eq_some_iff.mp hp
  have hdrop : (s.elided p.line).drop p.column = b.opening :: (s.elided p.line).drop (p.column + 1) := by
    rw [List.drop_eq_getElem_cons hlt, hc]
  have ho : Way.forwards.enters b.opening = some b := opens?_opening hb
  have hfirm : firm [b] = [b] := firm_cons hb []
  have hsearch : search .forwards [] (ahead s p)
      = search .forwards (firm [b]) (cellsOf p.line (p.column + 1) ((s.elided p.line).drop (p.column + 1))
          ++ cellsFrom s (p.line + 1) (s.size - 1 - p.line)) := by
    rw [hfirm, ahead_eq_cons hp]
    simp only [search, step_enters ho, ahead]
  have ha := scan_agrees p.line (cellsFrom s (p.line + 1) (s.size - 1 - p.line))
    ((s.elided p.line).drop (p.column + 1)) (b.opening :: ((s.elided p.line).take p.column).reverse)
    (p.column + 1) (grounded_singleton hb)
  rw [← scanFrom_opening hb hp, ← hsearch] at ha
  simp only [findClose, hdrop, canOpen_opening hb, if_true]
  exact answers_of_agrees (fun stack hg => closeBelow_answers s _ p.line (s.elided p.line) hg) _ _ ha

/-- The search from a closing bracket is the plain search backwards. -/
theorem findOpen_answers (s : Source) (p : Place) {b : Bracket} (hb : b ≠ angle)
    (hp : (s.elided p.line)[p.column]? = some b.closing) :
    Answers s id (findOpen s p.line p.column) (search .backwards [] (back s p)) := by
  obtain ⟨hlt, hc⟩ := List.getElem?_eq_some_iff.mp hp
  have hhead : ((s.elided p.line).drop p.column).head? = some b.closing := by
    rw [List.head?_drop, hp]
  have htake : ((s.elided p.line).take (p.column + 1)).reverse
      = b.closing :: ((s.elided p.line).take p.column).reverse := by
    rw [List.take_succ_eq_append_getElem hlt, hc, List.reverse_append]
    rfl
  have hcl : Way.backwards.enters b.closing = some b := closes?_closing hb
  have hfirm : firm [b] = [b] := firm_cons hb []
  have hscan : scanBackFrom [] (s.elided p.line) p.column
      = scanBack [b] (b.closing :: (s.elided p.line).drop (p.column + 1))
          ((s.elided p.line).take p.column).reverse := by
    rw [scanBackFrom, htake, scanBack]
    simp only [backEffect, opens?_closing, closes?_closing hb]
  have hsearch : search .backwards [] (back s p)
      = search .backwards (firm [b]) (backCells p.line ((s.elided p.line).take p.column).reverse
          ++ (cellsFrom s 0 p.line).reverse) := by
    rw [hfirm, back_eq_cons hp, backCells_eq, List.reverse_reverse, behind, List.reverse_append]
    simp only [search, step_enters hcl]
  have ha := scanBack_agrees p.line (cellsFrom s 0 p.line).reverse
    ((s.elided p.line).take p.column).reverse (b.closing :: (s.elided p.line).drop (p.column + 1))
    (grounded_singleton hb)
  rw [← hscan, ← hsearch] at ha
  simp only [findOpen, hhead, Option.map_some, canClose_closing, Option.getD_some, if_true]
  exact answers_of_agrees (fun stack hg => openAbove_answers s p.line (s.elided p.line) hg) _ _ ha

end StyleCheck.Bracket
