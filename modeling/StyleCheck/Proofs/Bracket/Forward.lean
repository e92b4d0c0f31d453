/-
  StyleCheck.Proofs.Bracket.Forward — the end of an expression comes after its beginning.

  The place that `findClose` finds is within the file, and it stands after the bracket it starts from:
  further to the right on the same line (`scan_found`), or on a line below (`closeBelow_found`).
-/

import StyleCheck.Bracket.Match

namespace StyleCheck.Bracket

theorem scan_found {stack : Stack} {before text : Text} {column stop : Nat}
    (h : scan stack before column text = .found stop) : column < stop ∧ stop ≤ column + text.length := by
  induction text generalizing stack before column with
  | nil => cases h
  | cons c rest ih =>
    rw [scan] at h
    split at h
    · cases h
      simp only [List.length_cons]
      omega
    · cases h
    · have := ih h
      simp only [List.length_cons]
      omega

/-- The place found is on one of the lines read, or at the end of it, and the text is that of its line. -/
theorem closeBelow_found {s : Source} {count line : Nat} {text : Text} {stack : Stack} {p : Place}
    (h : (closeBelow s count line text stack).place = some p) :
    (line < p.line ∧ p.line ≤ line + count) ∧ p.column ≤ (s.elided p.line).length ∧
      (closeBelow s count line text stack).text = s.elided p.line := by
  fun_induction closeBelow s count line text stack with
  | case1 => cases h
  | case2 => cases h
  | case3 _ _ _ _ _ _ _ hscan =>
    cases h
    have hcolumn := (scan_found hscan).2
    rw [Nat.zero_add] at hcolumn
    exact ⟨by simp only; omega, hcolumn, rfl⟩
  | case4 => cases h
  | case5 _ _ _ _ _ _ _ _ ih =>
    obtain ⟨hline, hfound⟩ := ih h
    exact ⟨by omega, hfound⟩

/-- Further to the right, or on a line below. -/
theorem findClose_after {s : Source} {line column : Nat} {p : Place}
    (h : (findClose s line column).place = some p) :
    (p.line = line ∧ column < p.column ∧ p.column ≤ (s.elided line).length) ∨
    (line < p.line ∧ p.line < s.size) := by
  unfold findClose at h
  simp only at h
  split at h
  · rename_i hopen
    split at h
    · rename_i stop hscan
      cases h
      obtain ⟨hlt, hle⟩ := scan_found hscan
      have hwithin : column < (s.elided line).length := by
        rcases Nat.lt_or_ge column (s.elided line).length with hlt | hge
        · exact hlt
        · rw [List.drop_eq_nil_of_le hge] at hopen
          cases hopen
      rw [List.length_drop] at hle
      exact .inl ⟨rfl, hlt, by simp only; omega⟩
    · cases h
    · have := (closeBelow_found h).1
      exact .inr (by omega)
  · cases h

/-- The place found is on its line, or at the end of it. -/
theorem findClose_column {s : Source} {line column : Nat} {p : Place}
    (h : (findClose s line column).place = some p) : p.column ≤ (s.elided p.line).length := by
  rcases findClose_after h with ⟨hline, -, hle⟩ | ⟨hbelow, -⟩
  · rwa [hline]
  · unfold findClose at h
    simp only at h
    split at h
    · split at h
      · cases h
        exact absurd hbelow (Nat.lt_irrefl _)
      · cases h
      · exact (closeBelow_found h).2.1
    · cases h

theorem findClose_text (s : Source) (line column : Nat) {q : Place}
    (h : (findClose s line column).place = some q) : (findClose s line column).text = s.elided q.line := by
  unfold findClose at h ⊢
  simp only at h ⊢
  split at h
  · rename_i hc
    rw [if_pos hc]
    split at h
    · cases h
      rfl
    · cases h
    · exact (closeBelow_found h).2.2
  · cases h

theorem findClose_line {s : Source} {line column : Nat} {p : Place}
    (h : (findClose s line column).place = some p) : line ≤ p.line ∧ (line < s.size → p.line < s.size) := by
  rcases findClose_after h with ⟨hline, -⟩ | hbelow
  · exact ⟨Nat.le_of_eq hline.symm, fun hlt => hline ▸ hlt⟩
  · exact ⟨Nat.le_of_lt hbelow.1, fun _ => hbelow.2⟩

end StyleCheck.Bracket
