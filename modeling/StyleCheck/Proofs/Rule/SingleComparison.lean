/-
  StyleCheck.Proofs.Rule.SingleComparison — comparing macros are proposed for single comparisons only.

  Where one is proposed, an assertion is called on the line: its name stands there as a word, with a round bracket behind
  it (`CallAt`, `findMacro?_eq_some`). What is read as its expression is what stands between this bracket and the one that
  closes it, with the lines one after another (`between_eq_chars`), so the brackets in it are nested, and the comparison
  that is named is the only term of the expression (`replacement_is_for_a_single_comparison`).
-/

import StyleCheck.Proofs.Pattern.Group
import StyleCheck.Proofs.Rule.AssertionTurns
import StyleCheck.Proofs.Rule.Speech

namespace StyleCheck.Rule.Assertion

open Pattern StyleCheck.Bracket

/-! ## The call -/

/-- The macro is called on the line: its name stands there as a word, and behind it the bracket at the column. -/
structure CallAt (m : Macro) (text lead gap : Text) (column : Nat) : Prop where
  eq : ∃ rest, text = lead ++ (m.name.toList ++ (gap ++ '(' :: rest))
  edge : ∀ c ∈ lead.getLast?, Text.isWord c = false
  blank : ∀ c ∈ gap, Text.isBlank c = true
  column : column = (lead ++ (m.name.toList ++ gap)).length

theorem CallAt.getElem? {m : Macro} {text lead gap : Text} {column : Nat} (h : CallAt m text lead gap column) :
    text[column]? = some '(' := by
  obtain ⟨rest, rfl⟩ := h.eq
  have hcut : lead ++ (m.name.toList ++ (gap ++ '(' :: rest)) = (lead ++ (m.name.toList ++ gap)) ++ '(' :: rest := by
    simp only [List.append_assoc]
  rw [hcut, h.column, List.getElem?_append_right (Nat.le_refl _), Nat.sub_self]
  rfl

/-- What the group before the bracket takes. -/
theorem run_name {m : Macro} (hm : m ∈ macros) {next : Cursor → Option Cursor} {c d : Cursor} (hc : c.before = none)
    (h : (anything ++ edge ++ literal m.name.toList ++ blanks : Pattern).run next c = some d) :
    ∃ e, next e = some d ∧ ∃ lead gap, c.rest = lead ++ (m.name.toList ++ (gap ++ e.rest)) ∧
      e.column = c.column + (lead ++ (m.name.toList ++ gap)).length ∧
      (∀ c ∈ lead.getLast?, Text.isWord c = false) ∧ ∀ c ∈ gap, Text.isBlank c = true := by
  have hword : macros.all (fun m => m.name.toList.head?.any Text.isWord) = true := by decide
  obtain ⟨first, hfirst, hisWord⟩ := (Option.any_eq_true _ _).mp (List.all_eq_true.mp hword m hm)
  obtain ⟨lead, rest, hlead, -, hedge⟩ := run_many_one (show (many (one .any)).run _ c = some d from h)
  rw [run] at hedge
  split at hedge
  · rename_i hat
    obtain ⟨rest, rfl, hname⟩ := run_literal hedge
    obtain ⟨gap, rest, rfl, hgap, hnext⟩ := run_many_one (show (many (one .blank)).run _ _ = some d from hname)
    refine ⟨_, hnext, lead, gap, hlead, ?_, ?_, hgap⟩
    · simp only [Cursor.advance, List.length_append]
      omega
    · intro x hx
      have hhead : (m.name.toList ++ (gap ++ rest)).head? = some first := by
        rw [List.head?_append, hfirst]
        rfl
      simpa [Cursor.atEdge, Cursor.advance, hc, Option.mem_def.mp hx, hhead, Cursor.isWordAt, hisWord] using hat
  · cases hedge

theorem findMacro?_eq_some {text : Text} {m : Macro} {column : Nat} (h : findMacro? text = some (m, column)) :
    m ∈ macros ∧ ∃ lead gap, CallAt m text lead gap column := by
  obtain ⟨m', hm, hmatch⟩ := List.exists_of_findSome?_eq_some h
  obtain ⟨found, hfound, heq⟩ := Option.map_eq_some_iff.mp hmatch
  cases heq
  refine ⟨hm, ?_⟩
  rw [match?_eq] at hfound
  obtain ⟨d, hd, rfl⟩ := Option.map_eq_some_iff.mp hfound
  obtain ⟨e, rest, ⟨lead, gap, htext, hcolumn, hedge, hgap⟩, hrest, hnext⟩ :=
    run_start_group (x := '(') (fun _ _ => run_name hm rfl) hd
  cases hnext
  refine ⟨lead, gap, ⟨rest, by rw [← hrest]; exact htext⟩, hedge, hgap, ?_⟩
  have htaken : (Cursor.ofText text).rest = (lead ++ (m.name.toList ++ gap)) ++ e.rest := by
    simpa only [List.append_assoc] using htext
  exact congrArg List.length (group_remember htaken hcolumn 1 _ _ _ _)

/-! ## The expression -/

theorem chars_cellsFrom (s : Source) (line count : Nat) :
    chars (cellsFrom s line count) = (s.textFrom Line.elided line count).flatten := by
  induction count generalizing line with
  | zero => rfl
  | succ count ih =>
    have hsplit : chars (cellsFrom s line (count + 1))
        = chars (cellsOf line 0 (s.elided line)) ++ chars (cellsFrom s (line + 1) count) := List.map_append
    rw [hsplit, chars_cellsOf, ih]
    rfl

theorem chars_behind (s : Source) (p : Place) :
    chars (behind s p) = (s.textFrom Line.elided 0 p.line).flatten ++ (s.elided p.line).take p.column := by
  have hsplit : chars (behind s p)
      = chars (cellsFrom s 0 p.line) ++ chars (cellsOf p.line 0 ((s.elided p.line).take p.column)) := List.map_append
  rw [hsplit, chars_cellsFrom, chars_cellsOf]

/-- What stands before the closing bracket is what stands up to the opening one, and then the expression. -/
theorem chars_behind_between {s : Source} {p q : Place} (hpq : p.Before q) :
    chars (behind s q)
      = chars (behind s ⟨p.line, p.column + 1⟩) ++ between s p.line p.column ⟨q.line, q.column + 1⟩ := by
  rw [chars_behind, chars_behind, List.append_assoc]
  rcases hpq with hline | ⟨hline, hcolumn⟩
  · obtain ⟨count, hcount⟩ := Nat.exists_eq_add_of_lt hline
    have hne : (p.line == q.line) = false := beq_eq_false_iff_ne.mpr (Nat.ne_of_lt hline)
    have hlines : (s.textFrom Line.elided 0 q.line).flatten = (s.textFrom Line.elided 0 p.line).flatten
        ++ (s.elided p.line ++ (s.textFrom Line.elided (p.line + 1) count).flatten) := by
      have hrange : List.range' 0 q.line = List.range' 0 p.line ++ List.range' p.line (count + 1) := by
        rw [hcount, Nat.add_assoc, ← List.range'_append_1, Nat.zero_add]
      rw [Source.textFrom, hrange, List.map_append, List.flatten_append]
      rfl
    have hbelow : q.line - (p.line + 1) = count := by omega
    simp only [between, hne, hbelow, hlines, Nat.add_sub_cancel, Bool.false_eq_true, if_false, List.append_assoc]
    rw [← List.append_assoc ((s.elided p.line).take _), List.take_append_drop]
  · have htake : (s.elided p.line).take (p.column + 1) = ((s.elided p.line).take q.column).take (p.column + 1) := by
      rw [List.take_take, Nat.min_eq_left hcolumn]
    simp only [between, ← hline, beq_self_eq_true, if_true, Text.slice, Nat.add_sub_cancel, htake]
    rw [List.take_append_drop]

theorem between_eq_chars {s : Source} {p q : Place} (h : Pairs s p q) :
    between s p.line p.column ⟨q.line, q.column + 1⟩ = chars (Bracket.between s p q) := by
  have hbehind := chars_behind_between (s := s) h.before
  obtain ⟨b, u, m, v, -, -, hcells⟩ := h
  have hp := getElem?_of_mem_cells (x := (p, b.opening)) (by rw [hcells]; simp)
  have hq := getElem?_of_mem_cells (x := (q, b.closing)) (by rw [hcells]; simp)
  obtain ⟨hu, -, -⟩ := cells_cut (cells_ordered s 0 s.size) (cells_eq_ahead hp) hcells
  obtain ⟨hm, -, -⟩ := cells_cut (cells_ordered s 0 s.size) (cells_eq_ahead hq)
    (hcells.trans (List.append_assoc u ((p, b.opening) :: m) ((q, b.closing) :: v)).symm)
  rw [behind_succ hp, hu, hm] at hbehind
  rw [between_eq hcells]
  have hsplit : chars (u ++ (p, b.opening) :: m) = chars (u ++ [(p, b.opening)]) ++ chars m := by simp [chars]
  exact List.append_cancel_left (hbehind.symm.trans hsplit)

/-- The brackets between the two of a pair are nested. -/
theorem nested_between {s : Source} {p q : Place} (h : Pairs s p q) : Nested (signs (chars (Bracket.between s p q))) := by
  obtain ⟨b, u, m, v, -, hnested, hcells⟩ := h
  rwa [between_eq hcells]

/-! ## Findings -/

/-- What has been found when a comparing macro is proposed. -/
theorem mem_findings {s : Source} {n : Nat} {x : Finding} (h : x ∈ findings s n) :
    ∃ m column place t, findMacro? (s.elided n) = some (m, column) ∧ (findClose s n column).place = some place ∧
      term? [] (between s n column place) = some t ∧ t.isReplaceable = true ∧
      x = ⟨n, .readabilityCheck, 2, "Consider using " ++ m.replacement t.comparison ++ " instead of " ++ m.name ++
        "(a " ++ t.comparison.sign ++ " b)"⟩ := by
  unfold findings at h
  split at h
  · cases h
  · rename_i m column hmacro
    simp only at h
    split at h
    · cases h
    · rename_i place hplace
      split at h
      · split at h
        · cases h
        · rename_i t hterm
          obtain ⟨hreplaceable, hx⟩ := Finding.mem_when.mp h
          exact ⟨m, column, place, t, hmacro, hplace, hterm, hreplaceable, hx⟩
      · cases h

/-- A comparing macro is proposed only where the expression of the assertion is a single comparison: no logical operator
stands in it outside of round brackets, and the comparison that is named does, with something on both sides. And every
expression is read in a number of turns that its length bounds. -/
theorem replacement_is_for_a_single_comparison (s : Source) :
    (∀ n, ∀ x ∈ findings s n, ∃ m ∈ macros, ∃ (c : Comparison) (lead gap : Text) (p q : Place), p.line = n ∧
      CallAt m (s.elided n) lead gap p.column ∧ Pairs s p q ∧ Single (chars (Bracket.between s p q)) c ∧
      x = ⟨n, .readabilityCheck, 2,
        "Consider using " ++ m.replacement c ++ " instead of " ++ m.name ++ "(a " ++ c.sign ++ " b)"⟩) ∧
    ∀ expression, ∃ turns ≤ expression.length + 1, Reads turns [] expression (term? [] expression) := by
  refine ⟨?_, reads_term? []⟩
  intro n x hx
  obtain ⟨m, column, place, t, hmacro, hplace, hterm, hreplaceable, rfl⟩ := mem_findings hx
  obtain ⟨hm, lead, gap, hcall⟩ := findMacro?_eq_some hmacro
  obtain ⟨q, rfl, hpairs, -⟩ := findClose_pairs (p := ⟨n, column⟩) (b := round) (by decide) hcall.getElem? hplace
  have hbetween := between_eq_chars hpairs
  rw [show between s n column _ = _ from hbetween] at hterm
  refine ⟨m, hm, t.comparison, lead, gap, ⟨n, column⟩, q, rfl, hcall, hpairs, ?_, rfl⟩
  exact single_of_term? (nested_between hpairs) hterm hreplaceable

def assertion : Source := Source.ofLines ["CHECK((a && b)".toList, "      == 4);".toList]

theorem replacement_is_for_a_single_comparison_assertion :
    (⟨0, .readabilityCheck, 2, "Consider using CHECK_EQ instead of CHECK(a == b)"⟩ : Finding) ∈ findings assertion 0 ∧
    ∃ m ∈ macros, ∃ (c : Comparison) (lead gap : Text) (p q : Place), p.line = 0 ∧
      CallAt m (assertion.elided 0) lead gap p.column ∧ Pairs assertion p q ∧
      Single (chars (Bracket.between assertion p q)) c := by
  have hmem : (⟨0, .readabilityCheck, 2, "Consider using CHECK_EQ instead of CHECK(a == b)"⟩ : Finding)
      ∈ findings assertion 0 := by
    decide +kernel
  obtain ⟨m, hm, c, lead, gap, p, q, hp, hcall, hpairs, hsingle, -⟩ :=
    (replacement_is_for_a_single_comparison assertion).1 0 _ hmem
  exact ⟨hmem, m, hm, c, lead, gap, p, q, hp, hcall, hpairs, hsingle⟩

end StyleCheck.Rule.Assertion
