/-
  StyleCheck.Proofs.Check.UnclosedLine — with which number an unclosed comment is told.

  The lines of a file stand between two marks, so that the place of a line in the list is its number. The
  search for comments goes over the list with the marks and counts from 1 all the same: the mark above the
  first line has the number 1 there, and every line has a number that is greater by one than its own
  (`open_marked_iff`). With this number a comment that is never closed is told
  (`unclosed_comments_are_told_one_line_below`).
-/

import StyleCheck.Proofs.Check.Stages
import StyleCheck.Proofs.Source.Unclosed

namespace StyleCheck

namespace Comment

variable {first last : Text} {lines : List Text}

/-- The mark at the end neither opens nor closes a comment, so those that are never closed are the same. -/
theorem unclosed_between_iff (hopen : opensBlock last = false) (hclose : closesBlock last = false) {n : Nat} :
    Unclosed (first :: lines ++ [last]) (n + 1) ↔ Unclosed lines n := by
  have hlast : (first :: lines ++ [last])[lines.length + 1]? = some last := by
    rw [List.cons_append, List.getElem?_cons_succ, List.getElem?_concat_length]
  constructor
  · intro h
    have hlt : n < lines.length := by
      have hbound := h.lt
      simp only [List.length_append, List.length_cons, List.length_nil] at hbound
      refine Nat.lt_of_not_le fun hge => ?_
      obtain rfl : n = lines.length := by omega
      obtain ⟨opener, hl, hopens⟩ := h.opens
      rw [hlast] at hl
      cases hl
      rw [hopen] at hopens
      cases hopens
    obtain ⟨opener, hl, hopens⟩ := h.opens
    rw [getElem?_between first last hlt] at hl
    refine ⟨⟨opener, hl, hopens⟩, ?_⟩
    intro j line hj hline
    have hjlt := (List.getElem?_eq_some_iff.mp hline).1
    exact h.never (j + 1) line (by omega) ((getElem?_between first last hjlt).trans hline)
  · intro h
    obtain ⟨opener, hl, hopens⟩ := h.opens
    refine ⟨⟨opener, (getElem?_between first last h.lt).trans hl, hopens⟩, ?_⟩
    intro j line hj hline
    obtain ⟨k, rfl⟩ : ∃ k, j = k + 1 := ⟨j - 1, by omega⟩
    have hbound := (List.getElem?_eq_some_iff.mp hline).1
    simp only [List.length_append, List.length_cons, List.length_nil] at hbound
    by_cases hk : k < lines.length
    · rw [getElem?_between first last hk] at hline
      exact h.never k line (by omega) hline
    · obtain rfl : k = lines.length := by omega
      rw [hlast] at hline
      cases hline
      exact hclose

/-- The number of an unclosed comment is by one greater than that of the line, counted from 1. -/
theorem open_marked_iff {given : List Text} {k : Nat} :
    (blankBlocks 1 (Source.marked given)).2 = some k ↔
      ∃ i, k = i + 1 + 1 ∧ Outside given i ∧ Unclosed given i := by
  have hfirst : opensBlock "// marker so line numbers and indices both start at 1".toList = false := by decide +kernel
  have hopen : opensBlock "// marker so line numbers end in a known way".toList = false := by decide +kernel
  have hclose : closesBlock "// marker so line numbers end in a known way".toList = false := by decide +kernel
  rw [open_iff]
  constructor
  · rintro ⟨n, rfl, hn, hunclosed⟩
    cases n with
    | zero =>
      obtain ⟨opener, hl, hopens⟩ := hunclosed.opens
      cases hl
      rw [hfirst] at hopens
      cases hopens
    | succ i =>
      have hhere := (unclosed_between_iff hopen hclose).mp hunclosed
      exact ⟨i, by omega, (outside_between_iff hfirst hclose (Nat.le_of_lt hhere.lt)).mp hn, hhere⟩
  · rintro ⟨i, rfl, hi, hunclosed⟩
    exact ⟨i + 1, by omega, (outside_between_iff hfirst hclose (Nat.le_of_lt hunclosed.lt)).mpr hi,
      (unclosed_between_iff hopen hclose).mpr hunclosed⟩

theorem unclosed_inj {k k' : Nat} (h : unclosed k = unclosed k') : k = k' := by
  have hline : (k : Int) = k' := congrArg Finding.line h
  omega

theorem blankAll_eq_unclosed_iff {k : Nat} :
    (blankAll lines).2 = [unclosed k] ↔ (blankBlocks 1 lines).2 = some k := by
  show (blankBlocks 1 lines).2.toList.map unclosed = [unclosed k] ↔ _
  cases (blankBlocks 1 lines).2 with
  | none => simp
  | some found =>
    constructor
    · intro h
      rw [unclosed_inj (List.singleton_inj.mp h)]
    · intro h
      cases h
      rfl

end Comment

namespace Check

theorem mem_file_of_preface (c : Context) {given : List Text} {e : Event} (h : e ∈ preface given) :
    e ∈ (file c given).events := by
  rw [file_events_preface]
  exact List.mem_append_left _ h

/-- If reading the lines of a file stops at a comment that is never closed, one finding about it is told. Its
number is not that of the line that opens the comment, but the number after it. -/
theorem unclosed_comments_are_told_one_line_below (c : Context) (given : List Text) (k : Nat) :
    ((Comment.blankAll (Source.marked given)).2 = [Comment.unclosed k] ↔
      ∃ i, k = i + 1 + 1 ∧ Comment.Outside given i ∧ Comment.Unclosed given i) ∧
    ∀ f ∈ (Comment.blankAll (Source.marked given)).2, .report f ∈ (file c given).events := by
  refine ⟨Comment.blankAll_eq_unclosed_iff.trans Comment.open_marked_iff, ?_⟩
  intro f hf
  exact mem_file_of_preface c (List.mem_append_right _ (List.mem_map_of_mem hf))

/-- The comment on the last line is told about a line that the file does not have. -/
theorem unclosed_comments_are_told_one_line_below_last :
    .report (Comment.unclosed 3) ∈ (file plainFile ["int n;".toList, "/* never closed".toList]).events := by
  have houtside : Comment.Outside ["int n;".toList, "/* never closed".toList] 1 :=
    .past .top rfl (by decide +kernel)
  have hunclosed : Comment.Unclosed ["int n;".toList, "/* never closed".toList] 1 := by
    refine ⟨⟨_, rfl, by decide +kernel⟩, ?_⟩
    intro j line _ hline
    have hall : ∀ text ∈ ["int n;".toList, "/* never closed".toList], Comment.closesBlock text = false := by
      decide +kernel
    exact hall line (List.mem_of_getElem? hline)
  obtain ⟨hnumber, htold⟩ :=
    unclosed_comments_are_told_one_line_below plainFile ["int n;".toList, "/* never closed".toList] 3
  have hfound := hnumber.mpr ⟨1, rfl, houtside, hunclosed⟩
  exact htold _ (hfound ▸ List.mem_singleton_self _)

end Check

end StyleCheck
