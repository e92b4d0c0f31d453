/-
  StyleCheck.Proofs.Source.Blanking — line numbers survive the making of views.

  Blanking block comments and emptying raw strings change lines but neither add nor drop any, so a
  file of `n` lines between its two marks has `n + 2` lines in every view (`marked_size`). A comment
  that is never closed is reported with the number after that of the line that opens it. The mark at
  the end opens none, so the number is at most `n + 1` (`unclosed_line`).
-/

import StyleCheck.Source.Lines

namespace StyleCheck

theorem Comment.blankBlocks_length (number : Nat) (lines : List Text) :
    (blankBlocks number lines).1.length = lines.length := by
  fun_induction blankBlocks number lines with
  | case1 => rfl
  | case2 => rfl
  | case3 number line rest _ i hi after unclosed hafter ih =>
    have hle : i < (line :: rest).length := (List.findIdx?_eq_some_iff_getElem.mp hi).1
    rw [hafter] at ih
    simp only [List.length_append, List.length_replicate, List.length_cons, List.length_drop] at ih hle ⊢
    omega
  | case4 number line rest _ after unclosed hafter ih =>
    rw [hafter] at ih
    simp only [List.length_cons] at ih ⊢
    omega

/-- The number of an unclosed comment is that of the line that opens it. -/
theorem Comment.blankBlocks_unclosed {number k : Nat} {lines : List Text}
    (h : (blankBlocks number lines).2 = some k) :
    number ≤ k ∧ ∃ line, lines[k - number]? = some line ∧ opensBlock line = true := by
  fun_induction blankBlocks number lines with
  | case1 => cases h
  | case2 number line rest hopen =>
    cases h
    exact ⟨Nat.le_refl _, line, by simp, hopen⟩
  | case3 number line rest _ i hi after unclosed hafter ih =>
    rw [hafter] at ih
    obtain ⟨hle, opener, hget, hopen⟩ := ih h
    refine ⟨by omega, opener, ?_, hopen⟩
    rw [List.getElem?_drop] at hget
    rw [show k - number = i + (k - (number + i + 1)) + 1 by omega]
    exact hget
  | case4 number line rest _ after unclosed hafter ih =>
    rw [hafter] at ih
    obtain ⟨hle, opener, hget, hopen⟩ := ih h
    refine ⟨by omega, opener, ?_, hopen⟩
    rw [show k - number = k - (number + 1) + 1 by omega]
    exact hget

theorem RawString.emptyFrom_length (pending : Option Text) (lines : List Text) :
    (emptyFrom pending lines).length = lines.length := by
  induction lines generalizing pending with
  | nil => rfl
  | cons line rest ih => exact congrArg (· + 1) (ih _)

theorem Source.ofLines_size (raws : List Text) : (ofLines raws).size = raws.length := by
  simp [ofLines, size, RawString.emptyAll, RawString.emptyFrom_length]

theorem Source.marked_length (given : List Text) : (marked given).length = given.length + 2 := by
  simp [marked]

theorem Source.marked_size (given : List Text) :
    (ofLines (Comment.blankAll (marked given)).1).size = given.length + 2 := by
  rw [ofLines_size, ← marked_length]
  exact Comment.blankBlocks_length 1 (marked given)

theorem Comment.unclosed_line {given : List Text} {f : Finding}
    (h : f ∈ (blankAll (Source.marked given)).2) :
    ∃ k : Nat, f = unclosed k ∧ 1 ≤ k ∧ k ≤ given.length + 1 := by
  obtain ⟨k, hk, rfl⟩ := List.mem_map.mp h
  obtain ⟨hle, line, hget, hopen⟩ := blankBlocks_unclosed (Option.mem_toList.mp hk)
  refine ⟨k, rfl, hle, ?_⟩
  have hlt : k - 1 < given.length + 2 := by
    rw [← Source.marked_length]
    exact (List.getElem?_eq_some_iff.mp hget).1
  -- only the mark at the end would be beyond, and it opens no comment
  have hne : k - 1 ≠ given.length + 1 := by
    intro he
    rw [he] at hget
    obtain rfl : "// marker so line numbers end in a known way".toList = line := by
      simpa [Source.marked] using hget
    exact absurd hopen (by decide +kernel)
  omega

end StyleCheck
