/-
  StyleCheck.Proofs.Bracket.Pairing — which bracket belongs to which.

  (1) `matching_is_exact`. From an opening round, square or curly bracket, `findClose` gives the
  place after the first one at which the brackets read so far are properly nested (`ClosesAt`). It
  gives none exactly if a closing bracket of the wrong kind comes before that (`MisclosedAt`) or the
  file ends before it (`NeverClosed`). From a closing bracket, `findOpen` gives what the plain search
  backwards finds.

  (2) `closing_and_opening_are_inverse`. Both searches find the one relation `Pairs`: the two
  brackets are of one kind, and what stands between them is properly nested.
-/

import StyleCheck.Proofs.Bracket.Projection

namespace StyleCheck.Bracket

/-! ## What is read from an opening bracket on -/

/-- A word that is not nested and can still become so. -/
def StillOpen (w : Text) : Prop := ¬ Nested w ∧ ∃ v, Nested (w ++ v)

/-- `q` is the first place at which the brackets read from `p` on are a nested word. -/
def ClosesAt (s : Source) (p q : Place) : Prop :=
  ∃ u c v, ahead s p = u ++ (q, c) :: v ∧ Nested (signs (chars u ++ [c])) ∧
    ∀ x y, u = x ++ y → x ≠ [] → ¬ Nested (signs (chars x))

def WrongCloser (w : Text) (c : Char) : Prop :=
  ∃ x b y b', w = x ++ b.opening :: y ∧ b ≠ angle ∧ Nested y ∧ closes? c = some b' ∧ b' ≠ b

/-- A closing bracket of the wrong kind stands at `q`, and up to there brackets read from `p` on
stay open. -/
def MisclosedAt (s : Source) (p q : Place) : Prop :=
  ∃ u c v, ahead s p = u ++ (q, c) :: v ∧ WrongCloser (signs (chars u)) c ∧
    ∀ x y, u = x ++ y → x ≠ [] → StillOpen (signs (chars x))

def NeverClosed (s : Source) (p : Place) : Prop :=
  ∀ x y, ahead s p = x ++ y → x ≠ [] → StillOpen (signs (chars x))

theorem stillOpen_iff_walk (t : Text) :
    StillOpen (signs t) ↔ ∃ b lower, walk .forwards [] t = some (b :: lower) := by
  rw [StillOpen, nested_iff_walk, completable_iff_walk]
  constructor
  · rintro ⟨hn, hs⟩
    obtain ⟨stack, hs⟩ := Option.isSome_iff_exists.mp hs
    cases stack with
    | nil => exact absurd hs hn
    | cons b lower => exact ⟨b, lower, hs⟩
  · rintro ⟨b, lower, hs⟩
    rw [hs]
    exact ⟨by simp, rfl⟩

theorem openAlong_iff (cells : List Cell) :
    OpenAlong .forwards [] cells ↔ ∀ x y, cells = x ++ y → x ≠ [] → StillOpen (signs (chars x)) := by
  simp only [OpenAlong, stillOpen_iff_walk]

theorem wrongCloser_of_step {t : Text} {top : Bracket} {lower : Stack} {c : Char}
    (h : walk .forwards [] t = some (top :: lower)) (hs : step .forwards (top :: lower) c = none) :
    WrongCloser (signs t) c := by
  obtain ⟨b, hb, hne⟩ := step_eq_none hs
  generalize hw : signs t = w
  have hl := leaves_of_walk h
  rw [hw] at hl
  cases hl with
  | @bracket _ x y _ ht _ hy => exact ⟨x, top, y, b, rfl, ht, hy, hb, fun e => hne top lower rfl e.symm⟩

/-- A closing bracket of the wrong kind stops the walk. -/
theorem walk_wrongCloser {t : Text} {c : Char} (h : WrongCloser (signs t) c) :
    walk .forwards [] (t ++ [c]) = none := by
  obtain ⟨x, b, y, b', hw, hb, hy, hc, hne⟩ := h
  rw [walk_append, ← walk_signs, hw, walk_append]
  have ho : Way.forwards.enters b.opening = some b := opens?_opening hb
  have hcl : Way.forwards.leaves c = some b' := hc
  cases walk .forwards [] x with
  | none => rfl
  | some stack =>
    simp only [Option.bind_some, walk, step_enters ho, walk_nested hy, step_misfit hcl (Ne.symm hne),
      Option.bind_none]

/-- Where brackets stay open all along, no part read from the beginning is nested. -/
theorem not_nested_of_openAlong {cells u v : List Cell} {q : Place} {c : Char}
    (h : OpenAlong .forwards [] cells) (he : cells = u ++ (q, c) :: v) :
    walk .forwards [] (chars u ++ [c]) ≠ some [] := by
  obtain ⟨b, lower, hw⟩ := h (u ++ [(q, c)]) v (by simpa using he) (by simp)
  simp only [chars, List.map_append, List.map_cons, List.map_nil] at hw ⊢
  rw [hw]
  simp

theorem walk_ne_none_of_append {d : Way} {stack stack' : Stack} {t u : Text}
    (h : walk d stack (t ++ u) = some stack') : walk d stack t ≠ none := by
  intro hn
  rw [walk_append, hn] at h
  cases h

theorem closesAt_of_found {s : Source} {p q : Place} (h : search .forwards [] (ahead s p) = .found q) :
    ClosesAt s p q := by
  have hspec := search_spec .forwards [] (ahead s p)
  rw [h] at hspec
  obtain ⟨u, c, v, he, hw, ho⟩ := hspec
  refine ⟨u, c, v, he, (nested_iff_walk _).mpr hw, fun x y hx hne => ?_⟩
  exact ((openAlong_iff u).mp ho x y hx hne).1

theorem found_of_closesAt {s : Source} {p q : Place} (h : ClosesAt s p q) :
    search .forwards [] (ahead s p) = .found q := by
  obtain ⟨u, c, v, he, hn, hfirst⟩ := h
  rw [nested_iff_walk] at hn
  have hspec := search_spec .forwards [] (ahead s p)
  cases hv : search .forwards [] (ahead s p) with
  | unfinished =>
    rw [hv] at hspec
    exact absurd hn (not_nested_of_openAlong hspec he)
  | found q' =>
    rw [hv] at hspec
    obtain ⟨u', c', v', he', hw', ho'⟩ := hspec
    rcases cut_cases (he.symm.trans he') with ⟨-, hq, -⟩ | ⟨z, hz, -⟩ | ⟨z, hz, -⟩
    · rw [(Prod.mk.inj hq).1]
    · exact absurd hn (not_nested_of_openAlong ho' hz)
    · refine absurd ?_ (hfirst (u' ++ [(q', c')]) z (by simpa using hz) (by simp))
      rw [nested_iff_walk]
      simpa [chars] using hw'
  | misfit q' =>
    rw [hv] at hspec
    obtain ⟨u', c', v', mid, he', hw', hs', ho'⟩ := hspec
    rcases cut_cases (he.symm.trans he') with ⟨rfl, hq, -⟩ | ⟨z, hz, -⟩ | ⟨z, rfl, -⟩
    · cases hq
      rw [walk_snoc hw', hs'] at hn
      cases hn
    · exact absurd hn (not_nested_of_openAlong ho' hz)
    · -- the walk would go on past the bracket that does not fit
      have hsnoc : walk .forwards [] (chars u' ++ [c']) = none := by rw [walk_snoc hw', hs']
      have hlong : walk .forwards [] ((chars u' ++ [c']) ++ (chars z ++ [c])) = some [] := by
        simpa [chars] using hn
      exact absurd hsnoc (walk_ne_none_of_append hlong)

/-- The search ends without a place exactly if a bracket of the wrong kind comes first or the file
ends first. -/
theorem not_found_iff {s : Source} {p : Place} {b : Bracket} (hb : b ≠ angle)
    (hp : (s.elided p.line)[p.column]? = some b.opening) :
    (∀ q, search .forwards [] (ahead s p) ≠ .found q) ↔ (∃ q, MisclosedAt s p q) ∨ NeverClosed s p := by
  have hspec := search_spec .forwards [] (ahead s p)
  constructor
  · intro h
    cases hv : search .forwards [] (ahead s p) with
    | found q => exact absurd hv (h q)
    | unfinished =>
      rw [hv] at hspec
      exact Or.inr ((openAlong_iff _).mp hspec)
    | misfit q =>
      rw [hv] at hspec
      obtain ⟨u, c, v, mid, he, hw, hs, ho⟩ := hspec
      refine Or.inl ⟨q, u, c, v, he, ?_, (openAlong_iff u).mp ho⟩
      by_cases hu : u = []
      · -- the first character opens a bracket, so it fits
        subst hu
        rw [ahead_eq_cons hp] at he
        cases he
        cases hw
        have hen : Way.forwards.enters b.opening = some b := opens?_opening hb
        rw [step_enters hen] at hs
        cases hs
      · obtain ⟨top, lower, hw'⟩ := ho u [] (by simp) hu
        rw [hw'] at hw
        cases hw
        exact wrongCloser_of_step hw' hs
  · rintro (⟨q, u, c, v, he, hwrong, hopen⟩ | hnever) q' hv
    · rw [hv] at hspec
      obtain ⟨u', c', v', he', hw', -⟩ := hspec
      have hstop := walk_wrongCloser hwrong
      rcases cut_cases (he.symm.trans he') with ⟨rfl, hq, -⟩ | ⟨z, rfl, -⟩ | ⟨z, hz, -⟩
      · cases hq
        rw [hw'] at hstop
        cases hstop
      · have hlong : walk .forwards [] ((chars u ++ [c]) ++ (chars z ++ [c'])) = some [] := by
          simpa [chars] using hw'
        exact absurd hstop (walk_ne_none_of_append hlong)
      · exact absurd hw' (not_nested_of_openAlong ((openAlong_iff u).mpr hopen) hz)
    · rw [hv] at hspec
      obtain ⟨u', c', v', he', hw', -⟩ := hspec
      exact absurd hw' (not_nested_of_openAlong ((openAlong_iff _).mpr hnever) he')

/-! ## Answers -/

theorem Answers.place_iff {s : Source} {mark : Nat → Nat} (hm : ∀ m n, mark m = mark n → m = n)
    {r : Reach} {v : Verdict} (h : Answers s mark r v) (q : Place) :
    r.place = some ⟨q.line, mark q.column⟩ ↔ v = .found q := by
  cases v with
  | found q' =>
    rw [show r = _ from h]
    constructor
    · intro e
      simp only [Option.some.injEq, Place.mk.injEq] at e
      cases q
      cases q'
      simp only at e
      rw [e.1, hm _ _ e.2]
    · intro e
      cases e
      rfl
  | misfit q' => simp [show r.place = none from h]
  | unfinished => simp [show r.place = none from h]

theorem Answers.eq_iff {s : Source} {mark : Nat → Nat} (hm : ∀ m n, mark m = mark n → m = n)
    {r : Reach} {v : Verdict} (h : Answers s mark r v) (q : Place) :
    r = ⟨s.elided q.line, some ⟨q.line, mark q.column⟩⟩ ↔ v = .found q := by
  constructor
  · intro e
    rw [← h.place_iff hm, e]
  · intro e
    subst e
    exact h

theorem Answers.none_iff {s : Source} {mark : Nat → Nat} {r : Reach} {v : Verdict}
    (h : Answers s mark r v) : r.place = none ↔ ∀ q, v ≠ .found q := by
  cases v with
  | found q => simp [show r = _ from h]
  | misfit q => simp [show r.place = none from h]
  | unfinished => simp [show r.place = none from h]

/-- Round, square and curly brackets are matched exactly, whatever angle brackets, operators and
semicolons stand between them. -/
theorem matching_is_exact (s : Source) (p : Place) (b : Bracket) (hb : b ≠ angle) :
    ((s.elided p.line)[p.column]? = some b.opening →
      (∀ q, findClose s p.line p.column = ⟨s.elided q.line, some ⟨q.line, q.column + 1⟩⟩ ↔ ClosesAt s p q) ∧
      ((findClose s p.line p.column).place = none ↔ (∃ q, MisclosedAt s p q) ∨ NeverClosed s p)) ∧
    ((s.elided p.line)[p.column]? = some b.closing →
      (∀ q, findOpen s p.line p.column = ⟨s.elided q.line, some q⟩ ↔
        search .backwards [] (back s p) = .found q) ∧
      ((findOpen s p.line p.column).place = none ↔
        ∀ q, search .backwards [] (back s p) ≠ .found q)) := by
  constructor
  · intro hp
    have ha := findClose_answers s p hb hp
    refine ⟨fun q => ?_, ?_⟩
    · rw [ha.eq_iff fun _ _ => Nat.succ.inj]
      exact ⟨closesAt_of_found, found_of_closesAt⟩
    · rw [ha.none_iff]
      exact not_found_iff hb hp
  · intro hp
    have ha := findOpen_answers s p hb hp
    exact ⟨fun q => ha.eq_iff (fun _ _ h => h) q, ha.none_iff⟩

def call : Source := Source.ofLines ["f(a < b[0],".toList, "  c->d >= e<1>);".toList]

theorem matching_is_exact_call :
    ClosesAt call ⟨0, 1⟩ ⟨1, 14⟩ ∧ ¬ ((∃ q, MisclosedAt call ⟨0, 1⟩ q) ∨ NeverClosed call ⟨0, 1⟩) ∧
      search .backwards [] (back call ⟨1, 14⟩) = .found ⟨0, 1⟩ := by
  have hopen : (call.elided 0)[1]? = some round.opening := by decide +kernel
  have hclose : (call.elided 1)[14]? = some round.closing := by decide +kernel
  have forth := (matching_is_exact call ⟨0, 1⟩ round (by decide)).1 hopen
  have hback := (matching_is_exact call ⟨1, 14⟩ round (by decide)).2 hclose
  refine ⟨(forth.1 ⟨1, 14⟩).mp (by decide +kernel), fun h => ?_, (hback.1 ⟨0, 1⟩).mp (by decide +kernel)⟩
  exact absurd (forth.2.mpr h) (by decide +kernel)

/-! ## Pairs -/

/-- The brackets at `p` and `q` are of one kind, and what stands between them is nested. -/
def Pairs (s : Source) (p q : Place) : Prop :=
  ∃ b u m v, b ≠ angle ∧ Nested (signs (chars m)) ∧
    cellsFrom s 0 s.size = u ++ (p, b.opening) :: (m ++ (q, b.closing) :: v)

theorem cells_eq_ahead {s : Source} {p : Place} {c : Char} (h : (s.elided p.line)[p.column]? = some c) :
    cellsFrom s 0 s.size = behind s p ++ (p, c) :: ahead s ⟨p.line, p.column + 1⟩ := by
  obtain ⟨hlt, -⟩ := List.getElem?_eq_some_iff.mp h
  rw [← ahead_eq_cons h, behind_append_ahead s (line_lt_size h) (Nat.le_of_lt hlt)]

theorem found_iff_pairs {s : Source} {p q : Place} {b : Bracket} (hb : b ≠ angle)
    (hp : (s.elided p.line)[p.column]? = some b.opening) :
    search .forwards [] (ahead s p) = .found q ↔ Pairs s p q := by
  have ho : Way.forwards.enters b.opening = some b := opens?_opening hb
  have hsearch : search .forwards [] (ahead s p)
      = search .forwards ([] ++ [b]) (ahead s ⟨p.line, p.column + 1⟩) := by
    rw [ahead_eq_cons hp]
    simp only [search, step_enters ho, List.nil_append]
  rw [hsearch, search_found_iff]
  constructor
  · rintro ⟨m, c, v, he, hw, hl⟩
    obtain ⟨-, rfl, -⟩ := of_closes? hl
    exact ⟨b, behind s p, m, v, hb, (nested_iff_walk _).mpr hw, by rw [cells_eq_ahead hp, he]⟩
  · rintro ⟨b', u, m, v, hb', hn, he⟩
    obtain ⟨-, hc, hv⟩ := cells_cut (cells_ordered s 0 s.size) (cells_eq_ahead hp) he
    obtain rfl := opening_inj hc
    exact ⟨m, b.closing, v, hv, (nested_iff_walk _).mp hn, closes?_closing hb⟩

theorem found_back_iff_pairs {s : Source} {p q : Place} {b : Bracket} (hb : b ≠ angle)
    (hq : (s.elided q.line)[q.column]? = some b.closing) :
    search .backwards [] (back s q) = .found p ↔ Pairs s p q := by
  have hc : Way.backwards.enters b.closing = some b := closes?_closing hb
  have hsearch : search .backwards [] (back s q) = search .backwards ([] ++ [b]) (behind s q).reverse := by
    rw [back_eq_cons hq]
    simp only [search, step_enters hc, List.nil_append]
  rw [hsearch, search_found_iff]
  constructor
  · rintro ⟨m, c, v, he, hw, hl⟩
    obtain ⟨-, rfl, -⟩ := of_opens? hl
    refine ⟨b, v.reverse, m.reverse, ahead s ⟨q.line, q.column + 1⟩, hb, (nested_iff_walk_back _).mpr ?_, ?_⟩
    · simpa [chars] using hw
    · have hbehind : behind s q = v.reverse ++ (p, b.opening) :: m.reverse := by
        rw [← List.reverse_reverse (behind s q), he]
        simp
      rw [cells_eq_ahead hq, hbehind]
      simp
  · rintro ⟨b', u, m, v, hb', hn, he⟩
    rw [← List.cons_append, ← List.append_assoc] at he
    obtain ⟨hu, hcl, -⟩ := cells_cut (cells_ordered s 0 s.size) (cells_eq_ahead hq) he
    obtain rfl := closing_inj hcl
    refine ⟨m.reverse, b.opening, u.reverse, by rw [hu]; simp, ?_, opens?_opening hb⟩
    simpa [chars] using (nested_iff_walk_back _).mp hn

/-- An opening bracket is closed by a closing one exactly if that one is opened by it. -/
theorem closing_and_opening_are_inverse (s : Source) (p q : Place) (b b' : Bracket) (hb : b ≠ angle)
    (hb' : b' ≠ angle) (hp : (s.elided p.line)[p.column]? = some b.opening)
    (hq : (s.elided q.line)[q.column]? = some b'.closing) :
    (findClose s p.line p.column).place = some ⟨q.line, q.column + 1⟩ ↔
      (findOpen s q.line q.column).place = some p := by
  have hclose := (findClose_answers s p hb hp).place_iff (fun _ _ => Nat.succ.inj) q
  have hopen := (findOpen_answers s q hb' hq).place_iff (fun _ _ h => h) p
  rw [hclose, found_iff_pairs hb hp, ← found_back_iff_pairs hb' hq]
  exact hopen.symm

theorem closing_and_opening_are_inverse_call :
    (findClose call 0 7).place = some ⟨0, 10⟩ ∧ (findOpen call 0 9).place = some ⟨0, 7⟩ := by
  have hclose : (findClose call 0 7).place = some ⟨0, 10⟩ := by decide +kernel
  have := closing_and_opening_are_inverse call ⟨0, 7⟩ ⟨0, 9⟩ square square (by decide) (by decide)
    (by decide +kernel) (by decide +kernel)
  exact ⟨hclose, this.mp hclose⟩

end StyleCheck.Bracket
