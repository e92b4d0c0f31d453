/-
  StyleCheck.Proofs.Source.Unclosed — comments that are never closed, and blanking for a second time.

  A block comment is never closed if no line from its opening on closes it (`Unclosed`).

  1. No comment that is closed reaches beyond such an opening, so from there on all lines stay as they are
     (`drop_blankBlocks`), and no line below it is ever read outside of comments (`Unclosed.outside_le`).
  2. Reading from the top comes to the end of the lines or to such an opening (`end_or_unclosed`). Every step
     on the way carries the line number along (`Outside.carries`), so the opening is told with the number of
     its line, and there is at most one to tell (`open_iff`).
  3. A blanked line opens no comment. When the lines are blanked once more, the first line that opens a
     comment is therefore the one that was left open, and nothing else happens
     (`blanking_keeps_lines_and_is_idempotent`).
-/

import StyleCheck.Proofs.Source.BlockComment

namespace StyleCheck.Comment

structure Unclosed (lines : List Text) (n : Nat) : Prop where
  opens : ∃ line, lines[n]? = some line ∧ opensBlock line = true
  never : ∀ j line, n ≤ j → lines[j]? = some line → closesBlock line = false

variable {lines : List Text} {b e m n : Nat}

/-! ## Where reading stops -/

namespace Unclosed

theorem lt (h : Unclosed lines n) : n < lines.length := by
  obtain ⟨line, hl, -⟩ := h.opens
  exact (List.getElem?_eq_some_iff.mp hl).1

/-- A comment that is closed ends above. -/
theorem end_lt (h : Unclosed lines n) (hf : Fills lines b e) : e < n := by
  refine Nat.lt_of_not_le fun hle => ?_
  obtain ⟨line, hl, hclose⟩ := hf.closes
  rw [h.never e line hle hl] at hclose
  cases hclose

theorem not_inside (h : Unclosed lines n) (hle : n ≤ m) : ¬ Inside lines m := by
  rintro ⟨b, e, -, hf, -, hm⟩
  have hlt := h.end_lt hf
  omega

/-- Reading from the top gets no further. -/
theorem outside_le (h : Unclosed lines n) (hm : Outside lines m) : m ≤ n := by
  induction hm with
  | top => exact Nat.zero_le n
  | @past m line _ hl hclear ih =>
    have hne : m ≠ n := by
      rintro rfl
      obtain ⟨opener, hopener, hopen⟩ := h.opens
      rw [hl] at hopener
      cases hopener
      rw [hclear] at hopen
      cases hopen
    omega
  | after _ hf _ =>
    have hlt := h.end_lt hf
    omega

end Unclosed

theorem drop_eq_cons {line : Text} (h : lines[b]? = some line) : lines.drop b = line :: lines.drop (b + 1) := by
  obtain ⟨hlt, rfl⟩ := List.getElem?_eq_some_iff.mp h
  exact List.drop_eq_getElem_cons hlt

theorem mem_drop {j : Nat} {line : Text} (hj : b ≤ j) (h : lines[j]? = some line) : line ∈ lines.drop b := by
  refine List.mem_of_getElem? (i := j - b) ?_
  rw [List.getElem?_drop, Nat.add_sub_cancel' hj, h]

/-- A comment that is opened is closed on some line, or never. -/
theorem fills_or_unclosed {line : Text} (hl : lines[b]? = some line) (hopen : opensBlock line = true) :
    (∃ e, Fills lines b e) ∨ Unclosed lines b := by
  have hrest := drop_eq_cons hl
  cases hi : (line :: lines.drop (b + 1)).findIdx? closesBlock with
  | some i => exact .inl ⟨b + i, fills_of_findIdx? hrest hopen hi⟩
  | none =>
    refine .inr ⟨⟨line, hl, hopen⟩, ?_⟩
    intro j text hj htext
    rw [← hrest] at hi
    exact List.findIdx?_eq_none_iff.mp hi text (mem_drop hj htext)

/-- From a line outside of comments, reading comes to the end or to a comment that is never closed. -/
theorem end_or_unclosed {b : Nat} (hb : Outside lines b) (hle : b ≤ lines.length) :
    Outside lines lines.length ∨ ∃ n, Outside lines n ∧ Unclosed lines n := by
  by_cases hlt : b < lines.length
  · have hl := List.getElem?_eq_getElem hlt
    -- reading goes on further down, by one line or past a whole comment
    by_cases hopen : opensBlock lines[b] = true
    · rcases fills_or_unclosed hl hopen with ⟨e, hf⟩ | hunclosed
      · have horder := hf.order
        have hend := hf.end_lt
        exact end_or_unclosed (.after hb hf) (by omega)
      · exact .inr ⟨b, hb, hunclosed⟩
    · exact end_or_unclosed (.past hb hl (by simpa using hopen)) (by omega)
  · obtain rfl : b = lines.length := by omega
    exact .inl hb
termination_by lines.length - b

/-! ## What is told -/

/-- Lines that open no comment are passed over. -/
theorem blankBlocks_clear {front : List Text} (h : ∀ line ∈ front, opensBlock line = false) (number : Nat)
    (rest : List Text) :
    blankBlocks number (front ++ rest) =
      (front ++ (blankBlocks (number + front.length) rest).1, (blankBlocks (number + front.length) rest).2) := by
  induction front generalizing number with
  | nil => rfl
  | cons line front ih =>
    obtain ⟨hline, hfront⟩ := List.forall_mem_cons.mp h
    rw [List.cons_append, blankBlocks, hline, if_neg Bool.false_ne_true, ih hfront, List.length_cons,
      show number + 1 + front.length = number + (front.length + 1) by omega]
    rfl

/-- The lines of a comment are blanked, and reading goes on below it. -/
theorem blankBlocks_of_fills (hf : Fills lines b e) (number : Nat) :
    blankBlocks number (lines.drop b) =
      (List.replicate (e + 1 - b) blankLine ++ (blankBlocks (number + (e + 1 - b)) (lines.drop (e + 1))).1,
        (blankBlocks (number + (e + 1 - b)) (lines.drop (e + 1))).2) := by
  obtain ⟨line, hl, hopen⟩ := hf.opens
  have hrest := drop_eq_cons hl
  rw [hrest, blankBlocks, if_pos hopen]
  cases hi : (line :: lines.drop (b + 1)).findIdx? closesBlock with
  | some i =>
    obtain rfl := hf.end_unique (fills_of_findIdx? hrest hopen hi)
    simp only [List.drop_drop]
    rw [show b + i + 1 - b = i + 1 by omega, show b + i + 1 = b + 1 + i by omega]
    rfl
  | none =>
    obtain ⟨closer, hcloser, hclose⟩ := hf.closes
    rw [← hrest] at hi
    rw [List.findIdx?_eq_none_iff.mp hi closer (mem_drop hf.order hcloser)] at hclose
    cases hclose

theorem open_of_unclosed (h : Unclosed lines n) (number : Nat) :
    (blankBlocks number (lines.drop n)).2 = some number := by
  obtain ⟨line, hl, hopen⟩ := h.opens
  have hrest := drop_eq_cons hl
  have hnone : (line :: lines.drop (n + 1)).findIdx? closesBlock = none := by
    refine List.findIdx?_eq_none_iff.mpr fun text hmem => ?_
    rw [← hrest] at hmem
    obtain ⟨i, hi⟩ := List.getElem?_of_mem hmem
    rw [List.getElem?_drop] at hi
    exact h.never (n + i) text (by omega) hi
  rw [hrest, blankBlocks, if_pos hopen, hnone]

/-- What is left open is the same from any line outside of comments on, if the number goes along. -/
theorem Outside.carries (hb : Outside lines b) (number : Nat) :
    (blankBlocks number lines).2 = (blankBlocks (number + b) (lines.drop b)).2 := by
  induction hb with
  | top => rfl
  | @past n line _ hl hclear ih =>
    have hline : ∀ text ∈ [line], opensBlock text = false := by simpa using hclear
    rw [ih, drop_eq_cons hl, ← List.singleton_append, blankBlocks_clear hline]
    rfl
  | @after b e _ hf ih =>
    have horder := hf.order
    rw [ih, blankBlocks_of_fills hf, show number + b + (e + 1 - b) = number + (e + 1) by omega]

/-- The comment that is told is the one at which reading stops. -/
theorem open_iff {number k : Nat} :
    (blankBlocks number lines).2 = some k ↔ ∃ n, k = number + n ∧ Outside lines n ∧ Unclosed lines n := by
  constructor
  · intro h
    rcases end_or_unclosed (Outside.top : Outside lines 0) (Nat.zero_le _) with hend | ⟨n, hn, hunclosed⟩
    · rw [hend.carries, List.drop_length, blankBlocks] at h
      cases h
    · rw [hn.carries, open_of_unclosed hunclosed] at h
      exact ⟨n, (Option.some.inj h).symm, hn, hunclosed⟩
  · rintro ⟨n, rfl, hn, hunclosed⟩
    rw [hn.carries, open_of_unclosed hunclosed]

/-- Something is told just if there is a comment that is never closed. -/
theorem isSome_open_iff (number : Nat) : (blankBlocks number lines).2.isSome = true ↔ ∃ n, Unclosed lines n := by
  constructor
  · intro h
    obtain ⟨k, hk⟩ := Option.isSome_iff_exists.mp h
    obtain ⟨n, -, -, hunclosed⟩ := open_iff.mp hk
    exact ⟨n, hunclosed⟩
  · rintro ⟨n, hunclosed⟩
    rcases end_or_unclosed (Outside.top : Outside lines 0) (Nat.zero_le _) with hend | ⟨m, hm, hfirst⟩
    · have hle := hunclosed.outside_le hend
      have hlt := hunclosed.lt
      omega
    · exact Option.isSome_iff_exists.mpr ⟨number + m, open_iff.mpr ⟨m, rfl, hm, hfirst⟩⟩

/-! ## What stays -/

theorem drop_blankBlocks (h : Unclosed lines n) (number : Nat) :
    (blankBlocks number lines).1.drop n = lines.drop n := by
  apply List.ext_getElem?
  intro i
  rw [List.getElem?_drop, List.getElem?_drop]
  exact (getElem?_blankBlocks number lines (n + i)).2 (h.not_inside (by omega))

theorem opensBlock_blankLine : opensBlock blankLine = false := by decide +kernel

theorem blankBlocks_blankBlocks (number : Nat) (lines : List Text) :
    blankBlocks number (blankBlocks number lines).1 = blankBlocks number lines := by
  fun_induction blankBlocks number lines with
  | case1 => rw [blankBlocks]
  | case2 number line rest hopen hnone => rw [blankBlocks, if_pos hopen, hnone]
  | case3 number line rest _ i _ after unclosed hafter ih =>
    -- blanked lines look like the end of a comment, but that is asked only when one has been opened
    have hclear : ∀ text ∈ List.replicate (i + 1) blankLine, opensBlock text = false := by
      intro text htext
      rw [List.eq_of_mem_replicate htext]
      exact opensBlock_blankLine
    rw [hafter] at ih
    rw [blankBlocks_clear hclear, List.length_replicate, ← Nat.add_assoc, ih]
  | case4 number line rest hopen after unclosed hafter ih =>
    rw [hafter] at ih
    rw [blankBlocks, if_neg hopen, ih]

/-- Blanking keeps the number of lines. It replaces the lines inside of block comments and leaves all others as
they are. At most one thing is told, and just if a comment is never closed; from the opening of such a comment
on no line is changed. Blanking the result changes nothing, and the same is told. -/
theorem blanking_keeps_lines_and_is_idempotent (lines : List Text) :
    (blankAll lines).1.length = lines.length ∧
    (∀ n, (Inside lines n → (blankAll lines).1[n]? = some blankLine) ∧
      (¬ Inside lines n → (blankAll lines).1[n]? = lines[n]?)) ∧
    (blankAll lines).2.length ≤ 1 ∧
    ((blankAll lines).2 ≠ [] ↔ ∃ n, Unclosed lines n) ∧
    (∀ n, Unclosed lines n → (blankAll lines).1.drop n = lines.drop n) ∧
    blankAll (blankAll lines).1 = blankAll lines := by
  have hone : (blankAll lines).2.length ≤ 1 := by
    show ((blankBlocks 1 lines).2.toList.map unclosed).length ≤ 1
    rw [List.length_map, Option.length_toList]
    split <;> omega
  have htold : (blankAll lines).2 ≠ [] ↔ (blankBlocks 1 lines).2.isSome = true := by
    show (blankBlocks 1 lines).2.toList.map unclosed ≠ [] ↔ _
    cases (blankBlocks 1 lines).2 <;> simp
  have htwice : blankAll (blankAll lines).1 = blankAll lines := by
    show ((blankBlocks 1 (blankBlocks 1 lines).1).1, (blankBlocks 1 (blankBlocks 1 lines).1).2.toList.map unclosed) = _
    rw [blankBlocks_blankBlocks]
    rfl
  exact ⟨blankBlocks_length 1 lines, getElem?_blankBlocks 1 lines, hone, htold.trans (isSome_open_iff 1),
    fun n h => drop_blankBlocks h 1, htwice⟩

end StyleCheck.Comment
