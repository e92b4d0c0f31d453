/-
  StyleCheck.Proofs.Bracket.Reading — a file read from a place on, and the plain search for a bracket.

  (1) The file as one sequence of cells, places with their characters, across the ends of lines:
  `ahead` is what is read from a place on, `back` the same backwards, `behind` what stands before it.
  The places of a file are in order (`cells_ordered`), so a place cuts the file in one way only (`cells_cut`).

  (2) `search` reads cells with the stack of round, square and curly brackets and stops where it
  gets empty or where a bracket does not fit. `search_spec` says what each of its answers means;
  `search_found_iff` says that the bracket found is the one that stands around a walk from the
  empty stack back to it, which does not depend on the way of reading.
-/

import StyleCheck.Bracket.Match
import StyleCheck.Proofs.Bracket.Nested

namespace StyleCheck

def Place.Before (p q : Place) : Prop := p.line < q.line ∨ (p.line = q.line ∧ p.column < q.column)

theorem Place.before_irrefl (p : Place) : ¬ p.Before p := by
  rintro (h | ⟨_, h⟩) <;> omega

namespace Bracket

abbrev Cell := Place × Char

def chars (cells : List Cell) : Text := cells.map (·.2)

/-! ## Cells -/

def cellsOf (line column : Nat) : Text → List Cell
  | [] => []
  | c :: rest => (⟨line, column⟩, c) :: cellsOf line (column + 1) rest

def cellsFrom (s : Source) (line : Nat) : (count : Nat) → List Cell
  | 0 => []
  | count + 1 => cellsOf line 0 (s.elided line) ++ cellsFrom s (line + 1) count

def ahead (s : Source) (p : Place) : List Cell :=
  cellsOf p.line p.column ((s.elided p.line).drop p.column)
    ++ cellsFrom s (p.line + 1) (s.size - 1 - p.line)

def behind (s : Source) (p : Place) : List Cell :=
  cellsFrom s 0 p.line ++ cellsOf p.line 0 ((s.elided p.line).take p.column)

def back (s : Source) (p : Place) : List Cell := (behind s ⟨p.line, p.column + 1⟩).reverse

theorem cellsOf_append (line column : Nat) (t u : Text) :
    cellsOf line column (t ++ u) = cellsOf line column t ++ cellsOf line (column + t.length) u := by
  induction t generalizing column with
  | nil => rfl
  | cons c t ih =>
    simp only [List.cons_append, cellsOf, ih, List.length_cons]
    rw [show column + 1 + t.length = column + (t.length + 1) by omega]

theorem cellsFrom_add (s : Source) (line m n : Nat) :
    cellsFrom s line (m + n) = cellsFrom s line m ++ cellsFrom s (line + m) n := by
  induction m generalizing line with
  | zero => simp [cellsFrom]
  | succ m ih =>
    rw [show m + 1 + n = m + n + 1 by omega]
    simp only [cellsFrom, ih, List.append_assoc]
    rw [show line + 1 + m = line + (m + 1) by omega]

theorem cellsFrom_succ (s : Source) (line : Nat) :
    cellsFrom s 0 (line + 1) = cellsFrom s 0 line ++ cellsOf line 0 (s.elided line) := by
  rw [cellsFrom_add, Nat.zero_add]
  simp [cellsFrom]

theorem elided_of_size_le {s : Source} {n : Nat} (h : s.size ≤ n) : s.elided n = [] := by
  have : ¬ n < s.lines.size := Nat.not_lt.mpr h
  simp [Source.elided, Source.line, Array.getD, this]

theorem getElem?_elided (s : Source) (n : Nat) :
    (s.lines.toList.map Line.elided)[n]? = if n < s.size then some (s.elided n) else none := by
  rcases Nat.lt_or_ge n s.lines.size with h | h
  · simp [Source.size, Source.elided, Source.line, Array.getD, h]
  · simp [Source.size, Nat.not_lt.mpr h]

theorem line_lt_size {s : Source} {p : Place} {c : Char} (h : (s.elided p.line)[p.column]? = some c) :
    p.line < s.size := by
  rcases Nat.lt_or_ge p.line s.size with hp | hp
  · exact hp
  · rw [elided_of_size_le hp] at h; cases h

/-- A place cuts the file into what stands before it and what is read from it on. -/
theorem behind_append_ahead (s : Source) {p : Place} (h : p.line < s.size)
    (hc : p.column ≤ (s.elided p.line).length) : behind s p ++ ahead s p = cellsFrom s 0 s.size := by
  have hline : cellsOf p.line 0 ((s.elided p.line).take p.column)
      ++ cellsOf p.line p.column ((s.elided p.line).drop p.column)
      = cellsOf p.line 0 (s.elided p.line) := by
    have := cellsOf_append p.line 0 ((s.elided p.line).take p.column) ((s.elided p.line).drop p.column)
    rw [List.take_append_drop, List.length_take, Nat.min_eq_left hc, Nat.zero_add] at this
    exact this.symm
  have hsize : s.size = p.line + ((s.size - 1 - p.line) + 1) := by omega
  rw [hsize, cellsFrom_add, Nat.zero_add, cellsFrom, ← hline]
  simp only [behind, ahead, List.append_assoc]

theorem ahead_eq_cons {s : Source} {p : Place} {c : Char} (h : (s.elided p.line)[p.column]? = some c) :
    ahead s p = (p, c) :: ahead s ⟨p.line, p.column + 1⟩ := by
  obtain ⟨hlt, hc⟩ := List.getElem?_eq_some_iff.mp h
  simp only [ahead, List.drop_eq_getElem_cons hlt, hc, cellsOf, List.cons_append]

theorem behind_succ {s : Source} {p : Place} {c : Char} (h : (s.elided p.line)[p.column]? = some c) :
    behind s ⟨p.line, p.column + 1⟩ = behind s p ++ [(p, c)] := by
  obtain ⟨hlt, hc⟩ := List.getElem?_eq_some_iff.mp h
  have htake : (s.elided p.line).take (p.column + 1) = (s.elided p.line).take p.column ++ [c] := by
    rw [List.take_succ_eq_append_getElem hlt, hc]
  simp only [behind, htake, cellsOf_append, List.length_take, Nat.min_eq_left (Nat.le_of_lt hlt),
    Nat.zero_add, cellsOf, List.append_assoc]

theorem back_eq_cons {s : Source} {p : Place} {c : Char} (h : (s.elided p.line)[p.column]? = some c) :
    back s p = (p, c) :: (behind s p).reverse := by
  rw [back, behind_succ h, List.reverse_append]
  rfl

/-! ## Places are in order -/

theorem mem_cellsOf {line column : Nat} {t : Text} {x : Cell} (h : x ∈ cellsOf line column t) :
    x.1.line = line ∧ column ≤ x.1.column := by
  induction t generalizing column with
  | nil => cases h
  | cons c t ih =>
    rcases List.mem_cons.mp h with rfl | h
    · exact ⟨rfl, Nat.le_refl _⟩
    · obtain ⟨hl, hc⟩ := ih h
      exact ⟨hl, by omega⟩

theorem mem_cellsFrom {s : Source} {line count : Nat} {x : Cell} (h : x ∈ cellsFrom s line count) :
    line ≤ x.1.line := by
  induction count generalizing line with
  | zero => cases h
  | succ count ih =>
    rcases List.mem_append.mp h with h | h
    · exact Nat.le_of_eq (mem_cellsOf h).1.symm
    · have := ih h
      omega

theorem cellsOf_ordered (line column : Nat) (t : Text) :
    (cellsOf line column t).Pairwise fun x y => x.1.Before y.1 := by
  induction t generalizing column with
  | nil => exact List.Pairwise.nil
  | cons c t ih =>
    refine List.Pairwise.cons (fun y hy => ?_) (ih (column + 1))
    obtain ⟨hl, hc⟩ := mem_cellsOf hy
    exact Or.inr ⟨hl.symm, hc⟩

theorem cells_ordered (s : Source) (line count : Nat) :
    (cellsFrom s line count).Pairwise fun x y => x.1.Before y.1 := by
  induction count generalizing line with
  | zero => exact List.Pairwise.nil
  | succ count ih =>
    refine List.pairwise_append.mpr ⟨cellsOf_ordered line 0 _, ih (line + 1), fun x hx y hy => ?_⟩
    have := (mem_cellsOf hx).1
    have := mem_cellsFrom hy
    exact Or.inl (by omega)

/-- Two cuts of one list are the same, or one lies before the other. -/
theorem cut_cases {α : Type} {u u' v v' : List α} {a a' : α} (h : u ++ a :: v = u' ++ a' :: v') :
    (u = u' ∧ a = a' ∧ v = v') ∨ (∃ z, u' = u ++ a :: z ∧ v = z ++ a' :: v') ∨
      (∃ z, u = u' ++ a' :: z ∧ v' = z ++ a :: v) := by
  rcases List.append_eq_append_iff.mp h with ⟨z, rfl, hz⟩ | ⟨z, rfl, hz⟩
  · cases z with
    | nil =>
      simp only [List.nil_append, List.cons.injEq] at hz
      exact Or.inl ⟨by simp, hz⟩
    | cons x z =>
      simp only [List.cons_append, List.cons.injEq] at hz
      obtain ⟨rfl, hz⟩ := hz
      exact Or.inr (Or.inl ⟨z, rfl, hz⟩)
  · cases z with
    | nil =>
      simp only [List.nil_append, List.cons.injEq] at hz
      exact Or.inl ⟨by simp, hz.1.symm, hz.2.symm⟩
    | cons x z =>
      simp only [List.cons_append, List.cons.injEq] at hz
      obtain ⟨rfl, hz⟩ := hz
      exact Or.inr (Or.inr ⟨z, rfl, hz⟩)

/-- A cut of two lists put together lies in the second one or in the first one. -/
theorem cut_append {α : Type} {front rest m v : List α} {x : α} (h : front ++ rest = m ++ x :: v) :
    (∃ m', m = front ++ m' ∧ rest = m' ++ x :: v) ∨ ∃ v', front = m ++ x :: v' ∧ v = v' ++ rest := by
  rcases List.append_eq_append_iff.mp h with ⟨z, hm, hrest⟩ | ⟨z, hfront, hz⟩
  · exact .inl ⟨z, hm, hrest⟩
  · cases z with
    | nil => exact .inl ⟨[], by simpa using hfront.symm, by simpa using hz.symm⟩
    | cons y z =>
      simp only [List.cons_append, List.cons.injEq] at hz
      exact .inr ⟨z, by rw [hfront, hz.1], hz.2⟩

theorem cut_at {α : Type} {l : List α} {k : Nat} {x : α} (h : l[k]? = some x) : l = l.take k ++ x :: l.drop (k + 1) := by
  obtain ⟨hlt, rfl⟩ := List.getElem?_eq_some_iff.mp h
  rw [← List.drop_eq_getElem_cons hlt, List.take_append_drop]

/-- A place cuts the file in one way only. -/
theorem cells_cut {cells u u' v v' : List Cell} {p : Place} {c c' : Char}
    (ho : cells.Pairwise fun x y => x.1.Before y.1) (h : cells = u ++ (p, c) :: v)
    (h' : cells = u' ++ (p, c') :: v') : u = u' ∧ c = c' ∧ v = v' := by
  rcases cut_cases (h.symm.trans h') with ⟨hu, hc, hv⟩ | ⟨z, -, rfl⟩ | ⟨z, -, rfl⟩
  · exact ⟨hu, (Prod.mk.inj hc).2, hv⟩
  · rw [h] at ho
    have := (List.pairwise_cons.mp (List.pairwise_append.mp ho).2.1).1 (p, c') (by simp)
    exact absurd this (Place.before_irrefl p)
  · rw [h'] at ho
    have := (List.pairwise_cons.mp (List.pairwise_append.mp ho).2.1).1 (p, c) (by simp)
    exact absurd this (Place.before_irrefl p)

/-! ## The plain search -/

/-- How the plain search ends: at the bracket looked for, at one that does not fit, or not at all. -/
inductive Verdict where
  | found (q : Place)
  | misfit (q : Place)
  | unfinished
  deriving DecidableEq, Repr

def search (d : Way) : Stack → List Cell → Verdict
  | _, [] => .unfinished
  | stack, (q, c) :: rest =>
    match step d stack c with
    | none => .misfit q
    | some [] => .found q
    | some (b :: lower) => search d (b :: lower) rest

/-- Some bracket stays open wherever one stops within `cells`. -/
def OpenAlong (d : Way) (stack : Stack) (cells : List Cell) : Prop :=
  ∀ u v, cells = u ++ v → u ≠ [] → ∃ b lower, walk d stack (chars u) = some (b :: lower)

theorem openAlong_nil (d : Way) (stack : Stack) : OpenAlong d stack [] := by
  intro u v h hu
  exact absurd (List.append_eq_nil_iff.mp h.symm).1 hu

theorem openAlong_cons {d : Way} {stack lower : Stack} {q : Place} {c : Char} {b : Bracket}
    (hs : step d stack c = some (b :: lower)) {cells : List Cell}
    (h : OpenAlong d (b :: lower) cells) : OpenAlong d stack ((q, c) :: cells) := by
  intro u v he hu
  cases u with
  | nil => exact absurd rfl hu
  | cons x u =>
    simp only [List.cons_append, List.cons.injEq] at he
    obtain ⟨rfl, he⟩ := he
    simp only [chars, List.map_cons, walk, hs, Option.bind_some]
    cases u with
    | nil => exact ⟨b, lower, rfl⟩
    | cons y u => exact h (y :: u) v he (by simp)

def Verdict.Holds (d : Way) (stack : Stack) (cells : List Cell) : Verdict → Prop
  | .found q => ∃ u c v, cells = u ++ (q, c) :: v ∧ walk d stack (chars u ++ [c]) = some [] ∧
      OpenAlong d stack u
  | .misfit q => ∃ u c v mid, cells = u ++ (q, c) :: v ∧ walk d stack (chars u) = some mid ∧
      step d mid c = none ∧ OpenAlong d stack u
  | .unfinished => OpenAlong d stack cells

theorem Verdict.Holds.cons {d : Way} {stack lower : Stack} {q : Place} {c : Char} {b : Bracket}
    (hs : step d stack c = some (b :: lower)) {cells : List Cell} {r : Verdict}
    (h : r.Holds d (b :: lower) cells) : r.Holds d stack ((q, c) :: cells) := by
  have walk_cons : ∀ t, walk d stack (c :: t) = walk d (b :: lower) t := by
    intro t
    simp only [walk, hs, Option.bind_some]
  cases r with
  | found q' =>
    obtain ⟨u, c', v, rfl, hw, ho⟩ := h
    exact ⟨(q, c) :: u, c', v, rfl, (walk_cons _).trans hw, openAlong_cons hs ho⟩
  | misfit q' =>
    obtain ⟨u, c', v, mid, rfl, hw, hn, ho⟩ := h
    exact ⟨(q, c) :: u, c', v, mid, rfl, (walk_cons _).trans hw, hn, openAlong_cons hs ho⟩
  | unfinished => exact openAlong_cons hs h

theorem search_spec (d : Way) (stack : Stack) (cells : List Cell) :
    (search d stack cells).Holds d stack cells := by
  induction cells generalizing stack with
  | nil => exact openAlong_nil d stack
  | cons x cells ih =>
    obtain ⟨q, c⟩ := x
    simp only [search]
    cases hs : step d stack c with
    | none => exact ⟨[], c, cells, stack, rfl, rfl, hs, openAlong_nil d stack⟩
    | some stack' =>
      cases stack' with
      | nil =>
        have hw : walk d stack [c] = some [] := by simp only [walk, hs, Option.bind_some]
        exact ⟨[], c, cells, rfl, hw, openAlong_nil d stack⟩
      | cons b lower => exact Verdict.Holds.cons hs (ih (b :: lower))

/-- The bracket found stands after a walk that uses up all but the outermost bracket. -/
theorem search_found_iff (d : Way) (stack : Stack) (b : Bracket) (cells : List Cell) (q : Place) :
    search d (stack ++ [b]) cells = .found q ↔
      ∃ m c v, cells = m ++ (q, c) :: v ∧ walk d stack (chars m) = some [] ∧ d.leaves c = some b := by
  induction cells generalizing stack with
  | nil =>
    constructor
    · intro h; cases h
    · rintro ⟨m, c, v, h, _⟩
      cases m <;> cases h
  | cons x cells ih =>
    obtain ⟨p, c⟩ := x
    cases hs : step d stack c with
    | some mid =>
      -- the outermost bracket stays, so both sides go on with what the character leaves above it
      have hs' : search d (stack ++ [b]) ((p, c) :: cells) = search d (mid ++ [b]) cells := by
        simp only [search, step_frame hs [b]]
        cases mid <;> rfl
      rw [hs', ih mid]
      constructor
      · rintro ⟨m, c', v, rfl, hw, hl⟩
        exact ⟨(p, c) :: m, c', v, rfl, by simpa [chars, walk, hs] using hw, hl⟩
      · rintro ⟨m, c', v, he, hw, hl⟩
        cases m with
        | nil =>
          simp only [List.nil_append, List.cons.injEq, Prod.mk.injEq] at he
          obtain ⟨⟨-, rfl⟩, -⟩ := he
          cases hw
          rw [step_nil_leaves hl] at hs
          cases hs
        | cons x m =>
          simp only [List.cons_append, List.cons.injEq] at he
          obtain ⟨rfl, he⟩ := he
          exact ⟨m, c', v, he, by simpa [chars, walk, hs] using hw, hl⟩
    | none =>
      obtain ⟨b', hl, hne⟩ := step_eq_none hs
      constructor
      · intro h
        cases stack with
        | nil =>
          by_cases hb : b = b'
          · subst hb
            simp only [List.nil_append, search, step_leaves hl] at h
            cases h
            exact ⟨[], c, cells, rfl, rfl, hl⟩
          · rw [List.nil_append, search, step_misfit hl hb] at h
            cases h
        | cons top lower =>
          rw [List.cons_append, search, step_misfit hl (hne top lower rfl)] at h
          cases h
      · rintro ⟨m, c', v, he, hw, hl'⟩
        cases m with
        | nil =>
          simp only [List.nil_append, List.cons.injEq, Prod.mk.injEq] at he
          obtain ⟨⟨rfl, rfl⟩, -⟩ := he
          cases hw
          simp only [List.nil_append, search, step_leaves hl']
        | cons x m =>
          simp only [List.cons_append, List.cons.injEq] at he
          obtain ⟨rfl, -⟩ := he
          simp [chars, walk, hs] at hw

end Bracket

end StyleCheck
