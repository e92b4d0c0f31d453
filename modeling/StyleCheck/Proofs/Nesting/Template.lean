/-
  StyleCheck.Proofs.Nesting.Template — the test for template arguments never runs out of steps.

  Each round that goes on goes forward in the file, so fewer characters are to come after it
  (`toCome_round`). The steps given at the start suffice from every place, and how many more there are
  makes no difference to the answer (`insideFrom_enough`).
-/

import StyleCheck.Nesting.Template
import StyleCheck.Proofs.Bracket.Forward
import StyleCheck.Proofs.Text.Cut

namespace StyleCheck.Template

def extentFrom (s : Source) (n : Nat) : Nat :=
  (s.lines.toList.drop n).foldr (fun line rest => line.elided.length + 1 + rest) 0

/-- The number of characters from a place on, the line ends included. -/
def toCome (s : Source) (line column : Nat) : Nat :=
  if line < s.size then (s.elided line).length - column + 1 + extentFrom s (line + 1) else 0

variable {s : Source}

theorem extentFrom_of_lt {n : Nat} (h : n < s.size) :
    extentFrom s n = (s.elided n).length + 1 + extentFrom s (n + 1) := by
  have hn : n < s.lines.toList.length := by simpa [Source.size] using h
  have hline : s.lines.toList[n] = s.line n := by
    simp [Source.line, Array.getD, show n < s.lines.size from h]
  rw [extentFrom, List.drop_eq_getElem_cons hn, List.foldr_cons, hline]
  rfl

theorem extentFrom_of_size_le {n : Nat} (h : s.size ≤ n) : extentFrom s n = 0 := by
  have hn : s.lines.toList.length ≤ n := by simpa [Source.size] using h
  rw [extentFrom, List.drop_eq_nil_of_le hn]
  rfl

theorem extentFrom_le {m n : Nat} (h : m ≤ n) : extentFrom s n ≤ extentFrom s m := by
  have step : ∀ n, extentFrom s (n + 1) ≤ extentFrom s n := by
    intro n
    rcases Nat.lt_or_ge n s.size with hlt | hge
    · rw [extentFrom_of_lt hlt]
      omega
    · rw [extentFrom_of_size_le (Nat.le_succ_of_le hge)]
      exact Nat.zero_le _
  induction h with
  | refl => exact Nat.le_refl _
  | step _ ih => exact Nat.le_trans (step _) ih

theorem extentFrom_zero : extentFrom s 0 = extent s := by
  have add : ∀ (lines : List Line) (n : Nat), lines.foldl (fun n line => n + line.elided.length + 1) n
      = n + lines.foldr (fun line rest => line.elided.length + 1 + rest) 0 := by
    intro lines
    induction lines with
    | nil => simp
    | cons line lines ih =>
      intro n
      simp only [List.foldl_cons, List.foldr_cons, ih]
      omega
  rw [extent, ← Array.foldl_toList, add, Nat.zero_add]
  rfl

theorem toCome_le_extentFrom (s : Source) (line column : Nat) : toCome s line column ≤ extentFrom s line := by
  unfold toCome
  split
  · rename_i h
    rw [extentFrom_of_lt h]
    omega
  · exact Nat.zero_le _

theorem toCome_le_extent (s : Source) (line column : Nat) : toCome s line column ≤ extent s :=
  extentFrom_zero ▸ Nat.le_trans (toCome_le_extentFrom s line column) (extentFrom_le (Nat.zero_le line))

/-! ## One round -/

theorem look_eq_angle {rest : Text} {skipped : Nat} (h : look rest = .angle skipped) : rest[skipped]? = some '<' := by
  unfold look at h
  split at h
  · cases h
  · rename_i mark more hrest
    split at h
    · cases h
    · split at h
      · rename_i hmark
        cases h
        rw [beq_iff_eq] at hmark
        exact hmark ▸ Text.getElem?_takeWhile_length hrest
      · cases h

theorem lt_size_of_seen {p : Place} (h : seen s p ≠ .settled false) : p.line < s.size := by
  by_cases hline : p.line < s.size
  · exact hline
  · exact absurd (if_neg hline) h

/-- The search for a closing bracket starts at an opening angle bracket of the same line. -/
theorem asked?_eq_some {p a : Place} (h : asked? s p = some a) :
    a.line = p.line ∧ p.column ≤ a.column ∧ a.line < s.size ∧ (s.elided a.line)[a.column]? = some '<' := by
  unfold asked? at h
  split at h
  · rename_i skipped hseen
    cases h
    have hline : p.line < s.size := lt_size_of_seen (by simp [hseen])
    rw [seen, if_pos hline] at hseen
    have hchar := look_eq_angle hseen
    rw [List.getElem?_drop] at hchar
    exact ⟨rfl, Nat.le_add_right .., hline, hchar⟩
  · cases h

/-- What a round that goes on has done. -/
theorem round_cases {p q : Place} (h : round s p = .inl q) :
    (p.line < s.size ∧ q = ⟨p.line + 1, 0⟩) ∨
    ∃ a, asked? s p = some a ∧ (Bracket.findClose s a.line a.column).place = some q := by
  unfold round at h
  split at h
  · rename_i a hasked
    cases hplace : (Bracket.findClose s a.line a.column).place with
    | none =>
      rw [hplace] at h
      cases h
    | some q' =>
      rw [hplace] at h
      cases h
      exact .inr ⟨a, hasked, hplace⟩
  · split at h
    · cases h
    · rename_i hseen
      cases h
      exact .inl ⟨lt_size_of_seen (hseen false), rfl⟩

theorem line_le_of_round {p q : Place} (h : round s p = .inl q) : p.line ≤ q.line := by
  rcases round_cases h with ⟨-, rfl⟩ | ⟨a, hasked, hplace⟩
  · exact Nat.le_succ _
  · exact (asked?_eq_some hasked).1 ▸ (Bracket.findClose_line hplace).1

theorem toCome_below {line next : Nat} (h : line < s.size) (hn : line < next) (column column' : Nat) :
    toCome s next column' < toCome s line column := by
  have hnext : toCome s next column' ≤ extentFrom s (line + 1) :=
    Nat.le_trans (toCome_le_extentFrom s next column') (extentFrom_le hn)
  have hline : toCome s line column = (s.elided line).length - column + 1 + extentFrom s (line + 1) := if_pos h
  omega

theorem toCome_after_close {line start : Nat} {p : Place} (h : line < s.size) {column : Nat} (hstart : column ≤ start)
    (hp : (Bracket.findClose s line start).place = some p) : toCome s p.line p.column < toCome s line column := by
  rcases Bracket.findClose_after hp with ⟨hline, hlt, hle⟩ | ⟨hbelow, -⟩
  · rw [hline, toCome, toCome, if_pos h, if_pos h]
    omega
  · exact toCome_below h hbelow column p.column

theorem toCome_round {p q : Place} (h : round s p = .inl q) : toCome s q.line q.column < toCome s p.line p.column := by
  rcases round_cases h with ⟨hline, rfl⟩ | ⟨a, hasked, hplace⟩
  · exact toCome_below hline (Nat.lt_succ_self _) p.column 0
  · obtain ⟨haline, hle, hlt, -⟩ := asked?_eq_some hasked
    rw [haline] at hplace hlt
    exact toCome_after_close hlt hle hplace

/-! ## All rounds -/

/-- With enough steps for all that is to come, their number makes no difference. -/
theorem insideFrom_enough {m n : Nat} {p : Place} (hm : toCome s p.line p.column < m)
    (hn : toCome s p.line p.column < n) : insideFrom s m p = insideFrom s n p := by
  induction m generalizing n p with
  | zero => exact absurd hm (Nat.not_lt_zero _)
  | succ m ih =>
    cases n with
    | zero => exact absurd hn (Nat.not_lt_zero _)
    | succ n =>
      simp only [insideFrom]
      split
      · rename_i q hround
        have hless := toCome_round hround
        exact ih (by omega) (by omega)
      · rfl

theorem inside_eq_insideFrom {steps : Nat} (h : extent s < steps) (line column : Nat) :
    inside s line column = insideFrom s steps ⟨line, column⟩ :=
  have hcome := toCome_le_extent s line column
  insideFrom_enough (Nat.lt_succ_of_le hcome) (Nat.lt_of_le_of_lt hcome h)

end StyleCheck.Template
