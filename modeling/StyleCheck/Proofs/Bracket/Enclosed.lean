/-
  StyleCheck.Proofs.Bracket.Enclosed — what stands between two angle brackets.

  (1) Soundness. An angle bracket found by the search comes later in the file and belongs to no arrow,
  the brackets between the two are properly nested, and every semicolon between them lies within a pair
  (`Encloses`). Where the walk over the brackets has one open, a pair stands around (`exists_pair_around`).

  (2) Where no other angle bracket but those of arrows stands between the two (`Inert`), nothing is
  tentative: the stack above the bottom is the one of the plain walk itself (`effect_inert`), and the
  bracket that encloses is found.

  `angle_matching_is_sound` says both.
-/

import StyleCheck.Proofs.Bracket.Angle

namespace StyleCheck

instance (p q : Place) : Decidable (p.Before q) :=
  inferInstanceAs (Decidable (p.line < q.line ∨ (p.line = q.line ∧ p.column < q.column)))

theorem Place.Before.not_before {p q : Place} (h : p.Before q) : ¬ q.Before p := by
  intro h'
  unfold Place.Before at h h'
  omega

namespace Bracket

/-! ## What stands between two places -/

/-- Of two places in order the first one cuts what stands before the second. -/
theorem cut_before {cells u u' v v' : List Cell} {x y : Cell} (ho : cells.Pairwise fun x y => x.1.Before y.1)
    (h : cells = u ++ x :: v) (h' : cells = u' ++ y :: v') (hxy : x.1.Before y.1) :
    ∃ z, u' = u ++ x :: z ∧ v = z ++ y :: v' := by
  rcases cut_cases (h.symm.trans h') with ⟨-, rfl, -⟩ | hz | ⟨z, rfl, rfl⟩
  · exact absurd hxy (Place.before_irrefl _)
  · exact hz
  · rw [h', List.pairwise_append, List.pairwise_cons] at ho
    exact absurd hxy (ho.2.1.1 x (by simp)).not_before

def between (s : Source) (p q : Place) : List Cell :=
  (cellsFrom s 0 s.size).filter fun x => decide (p.Before x.1 ∧ x.1.Before q)

theorem between_eq {s : Source} {p q : Place} {c c' : Char} {u m v : List Cell}
    (h : cellsFrom s 0 s.size = u ++ (p, c) :: (m ++ (q, c') :: v)) : between s p q = m := by
  have ho := cells_ordered s 0 s.size
  rw [h, List.pairwise_append, List.pairwise_cons, List.pairwise_append, List.pairwise_cons] at ho
  obtain ⟨-, ⟨hp, -, ⟨hq, -⟩, hm⟩, hu⟩ := ho
  have hfront : u.filter (fun x => decide (p.Before x.1 ∧ x.1.Before q)) = [] := by
    refine List.filter_eq_nil_iff.mpr fun x hx => ?_
    have hbefore := hu x hx (p, c) (by simp)
    simp [hbefore.not_before]
  have hmiddle : m.filter (fun x => decide (p.Before x.1 ∧ x.1.Before q)) = m := by
    refine List.filter_eq_self.mpr fun x hx => ?_
    have hafter := hp x (by simp [hx])
    have hbefore := hm x hx (q, c') (by simp)
    simp [hafter, hbefore]
  have hback : v.filter (fun x => decide (p.Before x.1 ∧ x.1.Before q)) = [] := by
    refine List.filter_eq_nil_iff.mpr fun x hx => ?_
    simp [(hq x hx).not_before]
  simp only [between, h, List.filter_append, List.filter_cons, hfront, hmiddle, hback]
  simp [Place.before_irrefl]

/-- A bracket that is open after a walk was opened last, but for nested text. -/
theorem walk_opened {stack lower : Stack} {b : Bracket} {cells : List Cell}
    (h : walk .forwards stack (chars cells) = some (b :: lower)) :
    (∃ u o v, cells = u ++ (o, b.opening) :: v ∧ walk .forwards [] (chars v) = some []) ∨
    ∃ upper, stack = upper ++ b :: lower ∧ walk .forwards upper (chars cells) = some [] := by
  induction cells generalizing stack with
  | nil =>
    cases h
    exact .inr ⟨[], rfl, rfl⟩
  | cons x cells ih =>
    obtain ⟨mid, hs, hw⟩ := Option.bind_eq_some_iff.mp h
    rcases ih hw with ⟨u, o, v, rfl, hv⟩ | ⟨upper, rfl, hu⟩
    · exact .inl ⟨x :: u, o, v, rfl, hv⟩
    · -- the bracket was on the stack after `x`: `x` opens it, or it was there before
      have hwalk : ∀ {upper'}, step .forwards upper' x.2 = some upper →
          walk .forwards upper' (chars (x :: cells)) = some [] := by
        intro upper' hstep
        rwa [walk_chars_cons hstep]
      rcases step_cases hs with ⟨b', he, hmid⟩ | ⟨b', hl, rfl⟩ | ⟨he, hl, hmid⟩
      · cases upper with
        | nil =>
          cases hmid
          exact .inl ⟨[], x.1, cells, by rw [← (of_opens? he).2.1]; rfl, hu⟩
        | cons top upper =>
          cases hmid
          exact .inr ⟨upper, rfl, hwalk (step_enters he upper)⟩
      · exact .inr ⟨b' :: upper, rfl, hwalk (step_leaves hl upper)⟩
      · exact .inr ⟨upper, hmid.symm, hwalk (step_other he hl upper)⟩

/-- A bracket that is open before a walk to the empty stack is closed on it, after nested text. -/
theorem walk_closed {upper lower : Stack} {b : Bracket} {cells : List Cell}
    (h : walk .forwards (upper ++ b :: lower) (chars cells) = some []) :
    ∃ u e v, cells = u ++ (e, b.closing) :: v ∧ walk .forwards upper (chars u) = some [] := by
  induction cells generalizing upper with
  | nil => simp [chars, walk] at h
  | cons x cells ih =>
    obtain ⟨mid, hs, hw⟩ := Option.bind_eq_some_iff.mp h
    have hgoes : ∀ {upper'}, step .forwards upper x.2 = some upper' → mid = upper' ++ b :: lower →
        ∃ u e v, x :: cells = u ++ (e, b.closing) :: v ∧ walk .forwards upper (chars u) = some [] := by
      rintro upper' hstep rfl
      obtain ⟨u, e, v, rfl, hu⟩ := ih hw
      exact ⟨x :: u, e, v, rfl, (walk_chars_cons hstep u).trans hu⟩
    rcases step_cases hs with ⟨b', he, hmid⟩ | ⟨b', hl, hmid⟩ | ⟨he, hl, hmid⟩
    · exact hgoes (step_enters he upper) hmid
    · cases upper with
      | nil =>
        cases hmid
        exact ⟨[], x.1, cells, by rw [← (of_closes? hl).2.1]; rfl, rfl⟩
      | cons top upper =>
        cases hmid
        exact hgoes (step_leaves hl upper) rfl
    · exact hgoes (step_other he hl upper) hmid

/-- Where some bracket is open on the way from the empty stack back to it, a pair stands around. -/
theorem exists_pair_around {x : Cell} {u v : List Cell} {b : Bracket} {lower : Stack}
    (hu : walk .forwards [] (chars u) = some (b :: lower)) (hsign : isSign x.2 = false)
    (h : walk .forwards [] (chars (u ++ x :: v)) = some []) :
    ∃ a o i j e z, u = a ++ (o, b.opening) :: i ∧ v = j ++ (e, b.closing) :: z ∧ b ≠ angle ∧
      Nested (signs (chars (i ++ x :: j))) := by
  have hother : ∀ stack, step .forwards stack x.2 = some stack := by
    simp only [isSign, Bool.or_eq_false_iff, Option.isSome_eq_false_iff, Option.isNone_iff_eq_none] at hsign
    exact step_other (d := .forwards) hsign.1 hsign.2
  have hv : walk .forwards ([] ++ b :: lower) (chars v) = some [] := by
    rwa [walk_chars_append hu, walk_chars_cons (hother _)] at h
  have hb : b ≠ angle := by
    rintro rfl
    exact walk_no_angle hu List.not_mem_nil List.mem_cons_self
  obtain ⟨a, o, i, rfl, hi⟩ | ⟨upper, hnil, -⟩ := walk_opened hu
  · obtain ⟨j, e, z, rfl, hj⟩ := walk_closed hv
    refine ⟨a, o, i, j, e, z, rfl, rfl, hb, (nested_iff_walk _).mpr ?_⟩
    rwa [walk_chars_append hi, walk_chars_cons (hother _)]
  · simp at hnil

/-! ## What two angle brackets enclose -/

/-- `r` holds an angle bracket that may close the one at `p`: the brackets between them are nested, and
statements end only within pairs of brackets. -/
structure Encloses (s : Source) (p r : Place) : Prop where
  after : p.Before r
  inside : r.line < s.size
  closing : (s.elided r.line)[r.column]? = some '>'
  counts : Counts s r
  nested : Nested (signs (chars (between s p r)))
  statements : ∀ x ∈ between s p r, x.2 = ';' →
    ∃ o e, Pairs s o e ∧ p.Before o ∧ o.Before x.1 ∧ x.1.Before e ∧ e.Before r

theorem getElem?_of_mem_cellsOf {line column : Nat} {t : Text} {x : Cell} (h : x ∈ cellsOf line column t) :
    ∃ k, x.1 = ⟨line, column + k⟩ ∧ t[k]? = some x.2 := by
  induction t generalizing column with
  | nil => cases h
  | cons c t ih =>
    rcases List.mem_cons.mp h with rfl | h
    · exact ⟨0, rfl, rfl⟩
    · obtain ⟨k, hk, ht⟩ := ih h
      exact ⟨k + 1, by rw [hk, Nat.add_assoc, Nat.add_comm 1], by simpa using ht⟩

theorem getElem?_of_mem_cells {s : Source} {line count : Nat} {x : Cell} (h : x ∈ cellsFrom s line count) :
    (s.elided x.1.line)[x.1.column]? = some x.2 := by
  induction count generalizing line with
  | zero => cases h
  | succ count ih =>
    rcases List.mem_append.mp h with h | h
    · obtain ⟨k, hk, ht⟩ := getElem?_of_mem_cellsOf h
      simpa [hk] using ht
    · exact ih h

theorem Pairs.before {s : Source} {p q : Place} (h : Pairs s p q) : p.Before q := by
  obtain ⟨b, u, m, v, -, -, hcells⟩ := h
  have ho := cells_ordered s 0 s.size
  rw [hcells, List.pairwise_append, List.pairwise_cons] at ho
  exact ho.2.1.1 (q, b.closing) (by simp)

theorem Pairs.getElem?_closing {s : Source} {p q : Place} {b : Bracket} (h : Pairs s p q)
    (hp : (s.elided p.line)[p.column]? = some b.opening) : (s.elided q.line)[q.column]? = some b.closing := by
  obtain ⟨b', u, m, v, -, -, hcells⟩ := h
  obtain ⟨-, hopening, -⟩ := cells_cut (cells_ordered s 0 s.size) (cells_eq_ahead hp) hcells
  obtain rfl := opening_inj hopening
  exact getElem?_of_mem_cells (x := (q, b.closing)) (by rw [hcells]; simp)

/-- What is found for a round, square or curly bracket is the place after one of its kind. -/
theorem findClose_pairs {s : Source} {p q : Place} {b : Bracket} (hb : b ≠ angle)
    (hp : (s.elided p.line)[p.column]? = some b.opening) (h : (findClose s p.line p.column).place = some q) :
    ∃ r : Place, q = ⟨r.line, r.column + 1⟩ ∧ Pairs s p r ∧ (s.elided r.line)[r.column]? = some b.closing := by
  have hanswers := findClose_answers s p hb hp
  cases hv : search .forwards [] (ahead s p) with
  | found r =>
    have hplace := (hanswers.place_iff (fun _ _ => Nat.succ.inj) r).mpr hv
    have hpairs := (found_iff_pairs hb hp).mp hv
    exact ⟨r, Option.some.inj (h.symm.trans hplace), hpairs, hpairs.getElem?_closing hp⟩
  | misfit r =>
    rw [hv] at hanswers
    cases h.symm.trans (show _ = none from hanswers)
  | unfinished =>
    rw [hv] at hanswers
    cases h.symm.trans (show _ = none from hanswers)

theorem Reached.encloses {s : Source} {p q : Place} (hp : (s.elided p.line)[p.column]? = some '<')
    (h : Reached s [] (ahead s ⟨p.line, p.column + 1⟩) q) :
    ∃ r : Place, q = ⟨r.line, r.column + 1⟩ ∧ Encloses s p r := by
  obtain ⟨m, r, v, hahead, hq, hcross, hcounts⟩ := h
  have hcells : cellsFrom s 0 s.size = behind s p ++ (p, '<') :: (m ++ (r, '>') :: v) := by
    rw [cells_eq_ahead hp, hahead]
  have hbetween := between_eq hcells
  have hmem : (r, '>') ∈ cellsFrom s 0 s.size := by simp [hcells]
  have hr := getElem?_of_mem_cells hmem
  have hordered := cells_ordered s 0 s.size
  rw [hcells, List.pairwise_append, List.pairwise_cons] at hordered
  obtain ⟨-, ⟨hafter, hrest⟩, -⟩ := hordered
  refine ⟨r, hq, hafter (r, '>') (by simp), line_lt_size hr, hr, hcounts, ?_, ?_⟩
  · rw [hbetween]
    exact (nested_iff_walk _).mpr hcross.walk
  · rw [hbetween]
    intro x hx hsemicolon
    obtain ⟨u, w, rfl⟩ := List.append_of_mem hx
    obtain ⟨x, c⟩ := x
    obtain rfl : c = ';' := hsemicolon
    obtain ⟨b, lower, hu⟩ := hcross.open_at_semicolon
    obtain ⟨a, o, i, j, e, z, rfl, rfl, hb, hn⟩ := exists_pair_around hu rfl hcross.walk
    simp only [List.append_assoc, List.cons_append, List.pairwise_append, List.pairwise_cons] at hrest
    obtain ⟨-, ⟨ho, -, ⟨hx, -, ⟨he, -⟩, -⟩, -⟩, -⟩ := hrest
    refine ⟨o, e, ⟨b, behind s p ++ (p, '<') :: a, i ++ (x, ';') :: j, z ++ (r, '>') :: v, hb, hn, ?_⟩,
      hafter (o, b.opening) (by simp), ho (x, ';') (by simp), hx (e, b.closing) (by simp), he (r, '>') (by simp)⟩
    simp [hcells]

/-! ## Plain text between angle brackets -/

theorem walk_frame {d : Way} {stack stack' : Stack} {t : Text} (h : walk d stack t = some stack') (lower : Stack) :
    walk d (stack ++ lower) t = some (stack' ++ lower) := by
  induction t generalizing stack with
  | nil =>
    cases h
    rfl
  | cons c t ih =>
    obtain ⟨mid, hs, ht⟩ := Option.bind_eq_some_iff.mp h
    simp only [walk, step_frame hs lower, Option.bind_some]
    exact ih ht

theorem Crosses.split {stack stack' : Stack} {u v : List Cell} (h : Crosses stack (u ++ v) stack') :
    ∃ mid, Crosses stack u mid ∧ Crosses mid v stack' := by
  induction u generalizing stack with
  | nil => exact ⟨stack, .nothing stack, h⟩
  | cons x u ih =>
    cases h with
    | cell hs hc hrest =>
      obtain ⟨mid, hu, hv⟩ := ih hrest
      exact ⟨mid, .cell hs hc hu, hv⟩

theorem crosses_of_walk {stack stack' : Stack} {cells : List Cell}
    (h : walk .forwards stack (chars cells) = some stack')
    (hopen : ∀ u q v, cells = u ++ (q, ';') :: v → walk .forwards stack (chars u) ≠ some []) :
    Crosses stack cells stack' := by
  induction cells generalizing stack with
  | nil =>
    cases h
    exact .nothing _
  | cons x cells ih =>
    obtain ⟨mid, hs, hw⟩ := Option.bind_eq_some_iff.mp h
    refine .cell hs ?_ (ih hw ?_)
    · intro hx hnil
      exact hopen [] x.1 cells (by rw [← hx]; rfl) (by rw [hnil]; rfl)
    · intro u q v he hu
      exact hopen (x :: u) q v (by rw [he]; rfl) ((walk_chars_cons hs u).trans hu)

def Inert (s : Source) (x : Cell) : Prop := x.2 ≠ '<' ∧ (x.2 = '>' → Follows s x.1 '-')

theorem effect_inert {stack mid : Stack} {before : Text} {c : Char} (hstack : angle ∉ stack)
    (hs : step .forwards stack c = some mid) (hc : c = ';' → stack ≠ []) (hopen : c ≠ '<')
    (harrow : c = '>' → before.head? = some '-') :
    effect before c (stack ++ [angle]) = .proceed (mid ++ [angle]) := by
  rcases step_cases hs with ⟨b, he, rfl⟩ | ⟨b, hl, rfl⟩ | ⟨he, hl, rfl⟩
  · simp only [effect, show opens? c = some b from he]
    rfl
  · have hb : b ≠ angle := fun h => hstack (by simp [h])
    simp only [effect, show opens? c = none from Way.forwards.enters_of_leaves hl, show closes? c = some b from hl]
    simp [pair, dropAngles, hb, Effect.ofRest]
  · simp only [effect, show opens? c = none from he, show closes? c = none from hl, beq_iff_eq, hopen, if_false]
    split
    · rename_i hgreater
      simp [closeAngle, harrow hgreater]
    · split
      · rename_i hsemicolon
        obtain ⟨b, lower, rfl⟩ := List.exists_cons_of_ne_nil (hc hsemicolon)
        have hb : b ≠ angle := fun h => hstack (by simp [h])
        simp [endStatement, dropAngles, hb]
      · rfl

theorem scan_inert {s : Source} {line column : Nat} {stack mid : Stack} {before u w : Text}
    (hstack : angle ∉ stack) (hdivided : Divided s line column before (u ++ w))
    (hcross : Crosses stack (cellsOf line column u) mid) (hinert : ∀ x ∈ cellsOf line column u, Inert s x) :
    ∃ before', Divided s line (column + u.length) before' w ∧
      scan (stack ++ [angle]) before column (u ++ w) = scan (mid ++ [angle]) before' (column + u.length) w := by
  induction u generalizing stack before column with
  | nil =>
    cases hcross
    exact ⟨before, hdivided, rfl⟩
  | cons c u ih =>
    cases hcross with
    | @cell _ next _ _ _ _ hs hc hrest =>
      have hfirst := hinert (⟨line, column⟩, c) (by simp [cellsOf])
      have heffect : effect before c (stack ++ [angle]) = .proceed (next ++ [angle]) :=
        effect_inert hstack hs hc hfirst.1 fun hgreater => (hdivided.follows_iff '-').mp (hfirst.2 hgreater)
      have hnext : angle ∉ next := walk_no_angle (d := .forwards) (t := [c]) (by simp [walk, hs]) hstack
      obtain ⟨before', hdivided', hscan⟩ :=
        ih hnext hdivided.next hrest fun x hx => hinert x (by simp [cellsOf, hx])
      have hlength : column + 1 + u.length = column + (c :: u).length := by
        simp only [List.length_cons]
        omega
      rw [hlength] at hdivided' hscan
      refine ⟨before', hdivided', ?_⟩
      rw [List.cons_append, scan, heffect]
      exact hscan

theorem cellsOf_cut {line column : Nat} {text : Text} {m v : List Cell} {r : Place} {c : Char}
    (h : cellsOf line column text = m ++ (r, c) :: v) :
    ∃ u w, text = u ++ c :: w ∧ m = cellsOf line column u ∧ r = ⟨line, column + u.length⟩ := by
  induction m generalizing column text with
  | nil =>
    cases text with
    | nil => cases h
    | cons c text =>
      cases h
      exact ⟨[], text, rfl, rfl, rfl⟩
  | cons x m ih =>
    cases text with
    | nil => cases h
    | cons d text =>
      simp only [cellsOf, List.cons_append, List.cons.injEq] at h
      obtain ⟨rfl, h⟩ := h
      obtain ⟨u, w, rfl, rfl, rfl⟩ := ih h
      exact ⟨d :: u, w, rfl, rfl, by simp [Nat.add_assoc, Nat.add_comm 1]⟩

/-- Inert cells lead from the stack to the angle bracket at `r`. -/
def Due (s : Source) (stack : Stack) (cells : List Cell) (r : Place) : Prop :=
  ∃ m v, cells = m ++ (r, '>') :: v ∧ Crosses stack m [] ∧ ∀ x ∈ m, Inert s x

/-- The scan of a line finds the bracket, or comes closer to it. -/
theorem scan_due {s : Source} {line column : Nat} {stack : Stack} {before text : Text} {rest : List Cell} {r : Place}
    (hstack : angle ∉ stack) (hdivided : Divided s line column before text) (hcounts : Counts s r)
    (h : Due s stack (cellsOf line column text ++ rest) r) :
    (r.line = line ∧ scan (stack ++ [angle]) before column text = .found (r.column + 1)) ∨
    ∃ mid, scan (stack ++ [angle]) before column text = .unfinished (mid ++ [angle]) ∧ angle ∉ mid ∧
      Due s mid rest r := by
  obtain ⟨m, v, hcells, hcross, hinert⟩ := h
  rcases cut_append hcells with ⟨m', rfl, hrest⟩ | ⟨v', htext, -⟩
  · obtain ⟨mid, hu, hv⟩ := hcross.split
    rw [← List.append_nil text] at hdivided
    obtain ⟨before', -, hscan⟩ := scan_inert hstack hdivided hu fun x hx => hinert x (by simp [hx])
    rw [List.append_nil] at hscan
    refine .inr ⟨mid, ?_, walk_no_angle hu.walk hstack, m', v, hrest, hv, fun x hx => hinert x (by simp [hx])⟩
    rw [hscan, scan]
  · obtain ⟨u, w, rfl, rfl, rfl⟩ := cellsOf_cut htext
    obtain ⟨before', hdivided', hscan⟩ := scan_inert hstack hdivided hcross hinert
    have hclosed : effect before' '>' ([] ++ [angle]) = .complete := by
      show closeAngle before' [angle] = _
      unfold closeAngle
      rw [hdivided'.counts_iff.mp hcounts]
      rfl
    refine .inl ⟨rfl, ?_⟩
    rw [hscan, scan, hclosed]

theorem closeBelow_due {s : Source} {count line : Nat} {text : Text} {stack : Stack} {r : Place}
    (hstack : angle ∉ stack) (hcounts : Counts s r) (h : Due s stack (cellsFrom s (line + 1) count) r) :
    (closeBelow s count line text (stack ++ [angle])).place = some ⟨r.line, r.column + 1⟩ := by
  induction count generalizing line text stack with
  | zero =>
    obtain ⟨m, v, hnil, -⟩ := h
    simp [cellsFrom] at hnil
  | succ count ih =>
    rw [closeBelow, if_neg (by simp)]
    rcases scan_due hstack (.start s (line + 1)) hcounts h with ⟨hr, hscan⟩ | ⟨mid, hscan, hmid, hdue⟩
    · simp only [hscan, hr]
    · simp only [hscan]
      exact ih hmid hdue

theorem findClose_due {s : Source} {p r : Place} (hp : (s.elided p.line)[p.column]? = some '<')
    (hnext : ∀ c, (s.elided p.line)[p.column + 1]? = some c → c ≠ '<' ∧ c ≠ '=')
    (hshift : ¬ Follows s p '<') (hname : ¬ NamesOperator ((s.elided p.line).take p.column)) (hcounts : Counts s r)
    (h : Due s [] (ahead s ⟨p.line, p.column + 1⟩) r) :
    (findClose s p.line p.column).place = some ⟨r.line, r.column + 1⟩ := by
  obtain ⟨hlt, hc⟩ := List.getElem?_eq_some_iff.mp hp
  have hopen : canOpen ((s.elided p.line).drop p.column) = true := by
    rw [List.drop_eq_getElem_cons hlt, hc]
    rw [← List.head?_drop] at hnext
    cases hrest : (s.elided p.line).drop (p.column + 1) with
    | nil => rfl
    | cons c rest =>
      obtain ⟨hless, hequal⟩ := hnext c (by rw [hrest]; rfl)
      simp [canOpen, hless, hequal]
  obtain ⟨before, hdivided, hscan⟩ := scanFrom_angle hp hshift hname
  simp only [findClose, hopen, if_true, hscan]
  rcases scan_due List.not_mem_nil hdivided hcounts h with ⟨hr, hfound⟩ | ⟨mid, hunfinished, hmid, hdue⟩
  · simp only [hfound, hr]
  · simp only [hunfinished]
    exact closeBelow_due hmid hcounts hdue

/-- Where a pair stands around a place, some bracket is open there. -/
theorem walk_within_pair {s : Source} {p q o e : Place} {u v : List Cell} {c : Char}
    (h : cellsFrom s 0 s.size = behind s p ++ (p, '<') :: (u ++ (q, c) :: v)) (hpair : Pairs s o e)
    (hpo : p.Before o) (hoq : o.Before q) (hqe : q.Before e) : walk .forwards [] (chars u) ≠ some [] := by
  obtain ⟨b, u₁, m₁, v₁, hb, hn, hcells⟩ := hpair
  have hordered := cells_ordered s 0 s.size
  have hq : cellsFrom s 0 s.size = (behind s p ++ (p, '<') :: u) ++ (q, c) :: v := by simp [h]
  -- the opening bracket stands before `q`, and the closing one after it
  obtain ⟨a, rfl, -⟩ := cut_before hordered h hcells hpo
  obtain ⟨z, hz, hrest⟩ := cut_before hordered hcells hq hoq
  rw [hcells, List.pairwise_append, List.pairwise_cons] at hordered
  obtain ⟨j, rfl, -⟩ := cut_before hordered.2.1.2 hrest rfl hqe
  have hu : u = a ++ (o, b.opening) :: z := by simpa using hz
  have ho : Way.forwards.enters b.opening = some b := opens?_opening hb
  rw [nested_iff_walk, chars, List.map_append, walk_append] at hn
  obtain ⟨inner, hinner, -⟩ := Option.bind_eq_some_iff.mp hn
  rw [hu, chars, List.map_append, walk_append]
  cases walk .forwards [] (a.map (·.2)) with
  | none => simp
  | some stack =>
    have hopen := walk_frame hinner (b :: stack)
    simp only [List.nil_append] at hopen
    simp [walk, step_enters ho, hopen]

theorem Encloses.due {s : Source} {p r : Place} (hp : (s.elided p.line)[p.column]? = some '<')
    (h : Encloses s p r) (hinert : ∀ x ∈ between s p r, Inert s x) :
    Due s [] (ahead s ⟨p.line, p.column + 1⟩) r := by
  have hordered := cells_ordered s 0 s.size
  obtain ⟨m, -, hahead⟩ := cut_before hordered (cells_eq_ahead hp) (cells_eq_ahead h.closing) h.after
  have hcells := cells_eq_ahead hp
  rw [hahead] at hcells
  obtain rfl := between_eq hcells
  refine ⟨_, _, hahead, crosses_of_walk ((nested_iff_walk _).mp h.nested) ?_, hinert⟩
  intro u q v hbetween
  obtain ⟨o, e, hpair, hpo, hoq, hqe, -⟩ := h.statements (q, ';') (by simp [hbetween]) rfl
  rw [hbetween, List.append_assoc] at hcells
  exact walk_within_pair hcells hpair hpo hoq hqe

/-- An angle bracket that is found encloses nested brackets and whole statements. Where only arrows have
angle brackets between the two, the one that does so is found. -/
theorem angle_matching_is_sound (s : Source) (p : Place) (hp : (s.elided p.line)[p.column]? = some '<')
    (hnext : ∀ c, (s.elided p.line)[p.column + 1]? = some c → c ≠ '<' ∧ c ≠ '=')
    (hshift : ¬ Follows s p '<') (hname : ¬ NamesOperator ((s.elided p.line).take p.column)) :
    (∀ q, (findClose s p.line p.column).place = some q →
      ∃ r : Place, q = ⟨r.line, r.column + 1⟩ ∧ Encloses s p r) ∧
    ∀ r : Place, Encloses s p r → (∀ x ∈ between s p r, Inert s x) →
      (findClose s p.line p.column).place = some ⟨r.line, r.column + 1⟩ := by
  constructor
  · intro q hq
    exact (findClose_reached hp hshift hname hq).encloses hp
  · intro r hr hinert
    exact findClose_due hp hnext hshift hname hr.counts (hr.due hp hinert)

def parameters : Source :=
  Source.ofLines ["template <class T = decltype([] \x7b return a->b < 1; \x7d),".toList,
    "          class U = V<T, (8 >> 2)>>".toList]

theorem angle_matching_is_sound_parameters :
    (findClose parameters 0 9).place = some ⟨1, 35⟩ ∧ Encloses parameters ⟨0, 9⟩ ⟨1, 34⟩ := by
  have hfound : (findClose parameters 0 9).place = some ⟨1, 35⟩ := by decide +kernel
  have hline : parameters.elided 0 = "template <class T = decltype([] \x7b return a->b < 1; \x7d),".toList := by
    decide +kernel
  have hnext : (parameters.elided 0)[10]? = some 'c' := by
    rw [hline]
    decide
  have hshift : ¬ Follows parameters ⟨0, 9⟩ '<' := by
    rw [follows_iff] <;> simp only [hline] <;> decide
  have hname : ¬ NamesOperator ((parameters.elided 0).take 9) := by
    rw [← endsInOperator_iff, hline]
    decide
  obtain ⟨hsound, -⟩ := angle_matching_is_sound parameters ⟨0, 9⟩ (by simp only [hline]; decide)
    (fun c hc => by cases hnext.symm.trans hc; decide) hshift hname
  obtain ⟨r, hr, hencloses⟩ := hsound ⟨1, 35⟩ hfound
  obtain ⟨line, column⟩ := r
  cases hr
  exact ⟨hfound, hencloses⟩

end Bracket

end StyleCheck
