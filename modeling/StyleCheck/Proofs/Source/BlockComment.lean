/-
  StyleCheck.Proofs.Source.BlockComment — which lines are blanked.

  A block comment that fills whole lines goes from a line that opens it to the first line from there on
  that closes it (`Fills`). Lines are read from the top: what looks like an opening within a comment
  opens nothing (`Outside`). So the comments do not overlap (`Fills.before_of_lt`), and blanking replaces
  the lines inside of them and no others (`getElem?_blankBlocks`). The marks around a file neither open
  nor close a comment, so its comments are those of the lines between (`inside_marked_iff`).
-/

import StyleCheck.Proofs.Source.Blanking

namespace StyleCheck.Comment

structure Fills (lines : List Text) (b e : Nat) : Prop where
  order : b ≤ e
  opens : ∃ line, lines[b]? = some line ∧ opensBlock line = true
  closes : ∃ line, lines[e]? = some line ∧ closesBlock line = true
  first : ∀ j line, b ≤ j → j < e → lines[j]? = some line → closesBlock line = false

/-- When the lines are read from the top, line `n` begins outside of all block comments. -/
inductive Outside (lines : List Text) : Nat → Prop
  | top : Outside lines 0
  | past {n : Nat} {line : Text} (h : Outside lines n) (hl : lines[n]? = some line) (hopen : opensBlock line = false) :
      Outside lines (n + 1)
  | after {b e : Nat} (h : Outside lines b) (hf : Fills lines b e) : Outside lines (e + 1)

/-- Line `n` is part of a block comment that fills whole lines. -/
def Inside (lines : List Text) (n : Nat) : Prop := ∃ b e, Outside lines b ∧ Fills lines b e ∧ b ≤ n ∧ n ≤ e

variable {lines : List Text}

namespace Fills

variable {b e e' : Nat}

theorem end_lt (h : Fills lines b e) : e < lines.length := by
  obtain ⟨line, hl, -⟩ := h.closes
  exact (List.getElem?_eq_some_iff.mp hl).1

theorem end_le (h : Fills lines b e) (h' : Fills lines b e') : e ≤ e' := by
  refine Nat.le_of_not_lt fun hlt => ?_
  obtain ⟨line, hl, hclose⟩ := h'.closes
  rw [h.first e' line h'.order hlt hl] at hclose
  cases hclose

theorem end_unique (h : Fills lines b e) (h' : Fills lines b e') : e = e' :=
  Nat.le_antisymm (h.end_le h') (h'.end_le h)

/-- A comment that begins above a line outside of all comments ends above it. -/
theorem before_of_lt {n : Nat} (hn : Outside lines n) (hb : Outside lines b) (hlt : b < n) (h : Fills lines b e) :
    e < n := by
  induction n using Nat.strongRecOn generalizing b e with
  | _ n ih =>
    cases hn with
    | top => omega
    | @past m line hm hl hopen =>
      rcases Nat.lt_succ_iff_lt_or_eq.mp hlt with hlt | rfl
      · have := ih m (by omega) hm hb hlt h
        omega
      · obtain ⟨line', hl', hopen'⟩ := h.opens
        rw [hl] at hl'
        cases hl'
        rw [hopen] at hopen'
        cases hopen'
    | @after b' e' hb' h' =>
      have horder := h'.order
      rcases Nat.lt_trichotomy b b' with hlt' | rfl | hlt'
      · have := ih b' (by omega) hb' hb hlt' h
        omega
      · have := h.end_unique h'
        omega
      · -- the other way round: the later comment would end above this one
        have := ih b hlt hb hb' hlt' h'
        omega

end Fills

theorem Inside.lt {n : Nat} (h : Inside lines n) : n < lines.length := by
  obtain ⟨b, e, -, hf, -, hn⟩ := h
  have := hf.end_lt
  omega

/-- From a line outside of comments on, only comments that begin there matter. -/
theorem inside_from {b n : Nat} (hb : Outside lines b) (hn : b ≤ n) :
    Inside lines n ↔ ∃ b' e, b ≤ b' ∧ Outside lines b' ∧ Fills lines b' e ∧ b' ≤ n ∧ n ≤ e := by
  constructor
  · rintro ⟨b', e, hb', hf, hle, he⟩
    refine ⟨b', e, Nat.le_of_not_lt fun hlt => ?_, hb', hf, hle, he⟩
    have := Fills.before_of_lt hb hb' hlt hf
    omega
  · rintro ⟨b', e, -, h⟩
    exact ⟨b', e, h⟩

theorem fills_of_findIdx? {b i : Nat} {line : Text} {rest : List Text} (hrest : lines.drop b = line :: rest)
    (hopen : opensBlock line = true) (hi : (line :: rest).findIdx? closesBlock = some i) : Fills lines b (b + i) := by
  obtain ⟨hlt, hclose, hfirst⟩ := List.findIdx?_eq_some_iff_getElem.mp hi
  have hget : ∀ j, lines[b + j]? = (line :: rest)[j]? := by
    intro j
    rw [← hrest, List.getElem?_drop]
  refine ⟨by omega, ⟨line, by simpa using hget 0, hopen⟩, ⟨_, by rw [hget, List.getElem?_eq_getElem hlt], hclose⟩, ?_⟩
  intro j text hj hje hl
  obtain ⟨k, rfl⟩ := Nat.exists_eq_add_of_le hj
  rw [hget] at hl
  obtain ⟨hk, rfl⟩ := List.getElem?_eq_some_iff.mp hl
  simpa using hfirst k (by omega)

/-- Blanking replaces the lines inside of comments and leaves the others as they are. -/
theorem getElem?_blankBlocks_from (number : Nat) {b : Nat} (hb : Outside lines b) (n : Nat) :
    (Inside lines (b + n) → (blankBlocks number (lines.drop b)).1[n]? = some blankLine) ∧
    (¬ Inside lines (b + n) → (blankBlocks number (lines.drop b)).1[n]? = lines[b + n]?) := by
  generalize hrest : lines.drop b = rest
  fun_induction blankBlocks number rest generalizing b n with
  | case1 =>
    have hend : lines.length ≤ b := List.drop_eq_nil_iff.mp hrest
    refine ⟨fun h => absurd h.lt (by omega), fun _ => ?_⟩
    rw [List.getElem?_eq_none (show lines.length ≤ b + n by omega)]
    rfl
  | case2 number line rest _ hnone =>
    refine ⟨fun h => ?_, fun _ => by rw [← hrest, List.getElem?_drop]⟩
    obtain ⟨b', e, hle, -, hf, hn, he⟩ := (inside_from hb (by omega)).mp h
    obtain ⟨closer, hl, hclose⟩ := hf.closes
    have hmem : closer ∈ line :: rest := by
      rw [← hrest]
      refine List.mem_of_getElem? (i := e - b) ?_
      rw [List.getElem?_drop, show b + (e - b) = e by omega, hl]
    rw [List.findIdx?_eq_none_iff.mp hnone closer hmem] at hclose
    cases hclose
  | case3 number line rest hopen i hi after unclosed hafter ih =>
    have hf := fills_of_findIdx? hrest hopen hi
    have hdrop : lines.drop (b + i + 1) = rest.drop i := by
      rw [show b + i + 1 = b + (i + 1) by omega, ← List.drop_drop, hrest, List.drop_succ_cons]
    by_cases hn : n ≤ i
    · have hinside : Inside lines (b + n) := ⟨b, b + i, hb, hf, by omega, by omega⟩
      refine ⟨fun _ => ?_, fun h => absurd hinside h⟩
      rw [List.getElem?_append_left (by simp; omega), List.getElem?_replicate, if_pos (by omega)]
    · obtain ⟨hin, hout⟩ := ih (.after hb hf) (n - (i + 1)) hdrop
      rw [hafter] at hin hout
      rw [show b + i + 1 + (n - (i + 1)) = b + n by omega] at hin hout
      rw [List.getElem?_append_right (by simp; omega), List.length_replicate]
      exact ⟨hin, hout⟩
  | case4 number line rest hopen after unclosed hafter ih =>
    have hline : lines[b]? = some line := by
      have hhead : (lines.drop b)[0]? = lines[b + 0]? := List.getElem?_drop
      rw [hrest] at hhead
      exact hhead.symm
    have hclear : opensBlock line = false := by simpa using hopen
    cases n with
    | zero =>
      refine ⟨fun h => ?_, fun _ => by simpa using hline.symm⟩
      obtain ⟨b', e, hle, -, hf, hn, -⟩ := (inside_from hb (Nat.le_refl b)).mp h
      obtain rfl : b' = b := by omega
      obtain ⟨opener, hl, hopens⟩ := hf.opens
      rw [hline] at hl
      cases hl
      rw [hclear] at hopens
      cases hopens
    | succ n =>
      have hdrop : lines.drop (b + 1) = rest := by
        rw [← List.drop_drop, hrest, List.drop_succ_cons, List.drop_zero]
      obtain ⟨hin, hout⟩ := ih (.past hb hline hclear) n hdrop
      rw [hafter] at hin hout
      rw [show b + 1 + n = b + (n + 1) by omega] at hin hout
      exact ⟨hin, hout⟩

theorem getElem?_blankBlocks (number : Nat) (lines : List Text) (n : Nat) :
    (Inside lines n → (blankBlocks number lines).1[n]? = some blankLine) ∧
    (¬ Inside lines n → (blankBlocks number lines).1[n]? = lines[n]?) := by
  have h := getElem?_blankBlocks_from number (Outside.top : Outside lines 0) n
  rwa [List.drop_zero, Nat.zero_add] at h

/-! ## The marks -/

section

variable {first last : Text} (hopen : opensBlock first = false) (hclose : closesBlock last = false)

theorem getElem?_between (first last : Text) {lines : List Text} {n : Nat} (h : n < lines.length) :
    (first :: lines ++ [last])[n + 1]? = lines[n]? := by
  rw [List.cons_append, List.getElem?_cons_succ, List.getElem?_append_left h]

include hclose in
/-- The mark at the end closes nothing, so the comments between the marks are those of the lines. -/
theorem fills_between_iff {b e : Nat} : Fills (first :: lines ++ [last]) (b + 1) (e + 1) ↔ Fills lines b e := by
  constructor
  · intro h
    have horder : b ≤ e := Nat.le_of_succ_le_succ h.order
    have hlt : e < lines.length := by
      obtain ⟨line, hl, hcloses⟩ := h.closes
      have hbound := h.end_lt
      simp only [List.length_append, List.length_cons, List.length_nil] at hbound
      refine Nat.lt_of_not_le fun hge => ?_
      obtain rfl : e = lines.length := by omega
      rw [List.cons_append, List.getElem?_cons_succ, List.getElem?_concat_length] at hl
      cases hl
      rw [hclose] at hcloses
      cases hcloses
    obtain ⟨opener, hopener, hopens⟩ := h.opens
    obtain ⟨closer, hcloser, hcloses⟩ := h.closes
    rw [getElem?_between first last (by omega)] at hopener hcloser
    refine ⟨horder, ⟨opener, hopener, hopens⟩, ⟨closer, hcloser, hcloses⟩, fun j line hj hje hl => ?_⟩
    exact h.first (j + 1) line (by omega) (by omega) (by rw [getElem?_between first last (by omega), hl])
  · intro h
    have hlt := h.end_lt
    have horder := h.order
    obtain ⟨opener, hopener, hopens⟩ := h.opens
    obtain ⟨closer, hcloser, hcloses⟩ := h.closes
    rw [← getElem?_between first last (by omega)] at hopener hcloser
    refine ⟨by omega, ⟨opener, hopener, hopens⟩, ⟨closer, hcloser, hcloses⟩, fun j line hj hje hl => ?_⟩
    obtain ⟨k, rfl⟩ : ∃ k, j = k + 1 := ⟨j - 1, by omega⟩
    rw [getElem?_between first last (by omega)] at hl
    exact h.first k line (by omega) (by omega) hl

include hopen hclose in
theorem outside_between_iff {n : Nat} (hn : n ≤ lines.length) :
    Outside (first :: lines ++ [last]) (n + 1) ↔ Outside lines n := by
  constructor
  · generalize hk : n + 1 = k
    intro h
    induction h generalizing n with
    | top => omega
    | @past m line _ hl hclear ih =>
      obtain rfl : n = m := by omega
      cases n with
      | zero => exact .top
      | succ n =>
        rw [getElem?_between first last (by omega)] at hl
        exact .past (ih (by omega) rfl) hl hclear
    | @after b e _ hf ih =>
      obtain rfl : n = e := by omega
      have horder := hf.order
      cases b with
      | zero =>
        obtain ⟨opener, hl, hopens⟩ := hf.opens
        cases hl
        rw [hopen] at hopens
        cases hopens
      | succ b =>
        obtain ⟨e', rfl⟩ : ∃ e', n = e' + 1 := ⟨n - 1, by omega⟩
        exact .after (ih (by omega) rfl) ((fills_between_iff hclose).mp hf)
  · intro h
    induction h with
    | top => exact .past .top rfl hopen
    | past _ hl hclear ih =>
      exact .past (ih (by omega)) (by rw [getElem?_between first last (by omega), hl]) hclear
    | after _ hf ih =>
      have horder := hf.order
      exact .after (ih (by omega)) ((fills_between_iff hclose).mpr hf)

end

/-- A line of a file is inside of a comment just if it is without the marks. -/
theorem inside_marked_iff {given : List Text} {n : Nat} : Inside (Source.marked given) (n + 1) ↔ Inside given n := by
  have hopen : opensBlock "// marker so line numbers and indices both start at 1".toList = false := by decide +kernel
  have hclose : closesBlock "// marker so line numbers end in a known way".toList = false := by decide +kernel
  constructor
  · rintro ⟨b, e, hb, hf, hle, he⟩
    cases b with
    | zero =>
      obtain ⟨opener, hl, hopens⟩ := hf.opens
      cases hl
      rw [hopen] at hopens
      cases hopens
    | succ b =>
      obtain ⟨e', rfl⟩ : ∃ e', e = e' + 1 := ⟨e - 1, by omega⟩
      have hf' := (fills_between_iff hclose).mp hf
      have hlt := hf'.end_lt
      have horder := hf'.order
      exact ⟨b, e', (outside_between_iff hopen hclose (by omega)).mp hb, hf', by omega, by omega⟩
  · rintro ⟨b, e, hb, hf, hle, he⟩
    have hlt := hf.end_lt
    have horder := hf.order
    exact ⟨b + 1, e + 1, (outside_between_iff hopen hclose (by omega)).mpr hb, (fills_between_iff hclose).mpr hf,
      by omega, by omega⟩

end StyleCheck.Comment
