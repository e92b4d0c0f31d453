/-
  StyleCheck.Proofs.Pattern.Literal — what simple patterns take.

  A literal takes its own characters and nothing else (`run_literal`, `run_literal_append`), and a repetition of
  blanks takes all blanks there are, if what follows agrees (`run_blanks`). A search that succeeds does so at some
  place of the text (`search?_eq_some`), and one that fails changes nothing (`replaceAll_of_none`).
-/

import StyleCheck.Pattern.Search

namespace StyleCheck.Pattern

variable {next : Cursor → Option Cursor} {c d : Cursor}

/-! ## Literals -/

theorem Cursor.advance_cons (c : Cursor) (x : Char) (xs rest rest' : Text) :
    (c.step x rest).advance xs rest' = c.advance (x :: xs) rest' := by
  have hbefore : xs.getLast?.or (some x) = (x :: xs).getLast?.or c.before := by
    cases xs with
    | nil => rfl
    | cons y ys => simp [List.getLast?_eq_some_getLast]
  have hcolumn : c.column + 1 + xs.length = c.column + (xs.length + 1) := by omega
  simp only [Cursor.advance, Cursor.step, hbefore, List.length_cons, hcolumn]

theorem run_among {x : Char} (h : (one (.among [x])).run next c = some d) :
    ∃ rest, c.rest = x :: rest ∧ next (c.step x rest) = some d := by
  simp only [run] at h
  split at h
  · cases h
  · rename_i y rest hrest
    split at h
    · rename_i hy
      obtain rfl : y = x := by simpa [CharSet.has] using hy
      exact ⟨rest, hrest, h⟩
    · cases h

theorem run_among_cons {x : Char} {rest : Text} (h : c.rest = x :: rest) :
    (one (.among [x])).run next c = next (c.step x rest) := by
  simp [run, h, CharSet.has]

/-- A literal takes its own characters, and nothing else. -/
theorem run_literal {word : Text} (h : (literal word).run next c = some d) :
    ∃ rest, c.rest = word ++ rest ∧ next (c.advance word rest) = some d := by
  fun_induction literal word generalizing c with
  | case1 => exact ⟨c.rest, rfl, h⟩
  | case2 x => exact run_among h
  | case3 x xs _ ih =>
    obtain ⟨rest, hrest, hstep⟩ := run_among h
    obtain ⟨rest', hxs, hnext⟩ := ih hstep
    refine ⟨rest', hrest.trans (congrArg (x :: ·) hxs), ?_⟩
    rwa [Cursor.advance_cons] at hnext

theorem run_literal_append {word rest : Text} (h : c.rest = word ++ rest) :
    (literal word).run next c = next (c.advance word rest) := by
  fun_induction literal word generalizing c with
  | case1 =>
    rw [List.nil_append] at h
    subst h
    rfl
  | case2 x => exact run_among_cons h
  | case3 x xs _ ih =>
    have hseq : (seq (one (.among [x])) (literal xs)).run next c
        = (one (.among [x])).run ((literal xs).run next) c := rfl
    rw [hseq, run_among_cons (List.cons_append ▸ h), ih rfl, Cursor.advance_cons]

/-- A word at the end of a text, or before the line feed that ends it. -/
theorem run_literal_finish {word : Text} (h : (literal word ++ finish : Pattern).run some c = some d) :
    c.rest = word ∨ c.rest = word ++ ['\n'] := by
  obtain ⟨rest, hrest, he⟩ := run_literal (show (literal word).run (finish.run some) c = some d from h)
  simp only [run] at he
  split at he
  · rename_i hfinish
    simp only [Cursor.atFinish, Cursor.advance] at hfinish
    rw [hrest]
    split at hfinish
    · exact .inl (List.append_nil _)
    · exact .inr rfl
    · cases hfinish
  · cases he

/-! ## Places and options -/

theorem run_edge (h : edge.run next c = some d) : next c = some d := by
  simp only [run] at h
  split at h
  · exact h
  · cases h

theorem run_opt {p : Pattern} (h : (opt p).run next c = some d) : p.run next c = some d ∨ next c = some d := by
  simp only [opt, run] at h
  split at h
  · rename_i hp
    exact .inl (hp.trans h)
  · exact .inr h

/-! ## Blanks -/

theorem repeatMany_blank {gap rest : Text} (hgap : ∀ x ∈ gap, Text.isBlank x = true)
    (hrest : ∀ x ∈ rest.head?, Text.isBlank x = false) {rounds : Nat} (hrounds : gap.length < rounds)
    (h : c.rest = gap ++ rest) (hnext : next (c.advance gap rest) = some d) :
    repeatMany blank.run rounds next c = some d := by
  induction gap generalizing c rounds with
  | nil =>
    obtain ⟨rounds, rfl⟩ := Nat.exists_eq_succ_of_ne_zero (Nat.ne_of_gt hrounds)
    have hnone (k : Cursor → Option Cursor) : blank.run k c = none := by
      simp only [blank, run, h, List.nil_append]
      cases rest with
      | nil => rfl
      | cons x rest => simp [CharSet.has, hrest x rfl]
    have hstay : c.advance [] rest = c := by
      rw [List.nil_append] at h
      simp [Cursor.advance, ← h]
    simp only [repeatMany, hnone]
    rwa [hstay] at hnext
  | cons x gap ih =>
    obtain ⟨hx, hgap⟩ := List.forall_mem_cons.mp hgap
    obtain ⟨rounds, rfl⟩ := Nat.exists_eq_succ_of_ne_zero (Nat.ne_of_gt (Nat.zero_lt_of_lt hrounds))
    have hround : repeatMany blank.run rounds next (c.step x (gap ++ rest)) = some d := by
      refine ih hgap (Nat.lt_of_succ_lt_succ hrounds) rfl ?_
      rwa [Cursor.advance_cons]
    have hone (k : Cursor → Option Cursor) : blank.run k c = k (c.step x (gap ++ rest)) := by
      simp [blank, run, h, CharSet.has, hx]
    have hlt : c.column < (c.step x (gap ++ rest)).column := Nat.lt_succ_self _
    simp only [repeatMany, hone, if_pos hlt, hround]

/-- Blanks are taken all at once, if the rest agrees. -/
theorem run_blanks {gap rest : Text} (hgap : ∀ x ∈ gap, Text.isBlank x = true)
    (hrest : ∀ x ∈ rest.head?, Text.isBlank x = false) (h : c.rest = gap ++ rest)
    (hnext : next (c.advance gap rest) = some d) : blanks.run next c = some d := by
  refine repeatMany_blank hgap hrest ?_ h hnext
  rw [h, List.length_append]
  omega

/-! ## Searching -/

theorem searchFrom?_eq_none {p : Pattern} {s : Text} (h : ∀ c : Cursor, c.rest <:+ s → p.run some c = none)
    (before : Option Char) (column : Nat) : p.searchFrom? before column s = none := by
  induction s generalizing before column with
  | nil =>
    unfold searchFrom? matchAt?
    rw [h _ List.suffix_rfl]
    rfl
  | cons x xs ih =>
    unfold searchFrom? matchAt?
    rw [h _ List.suffix_rfl]
    exact ih (fun c hc => h c (hc.trans (List.suffix_cons x xs))) _ _

/-- What is found matches at some place, with nothing remembered before. -/
theorem search?_eq_some {p : Pattern} {s : Text} {m : Match} (h : p.search? s = some m) :
    ∃ c : Cursor, c.rest <:+ s ∧ c.captures = [] ∧ p.matchAt? c = some m := by
  have hfrom : ∀ before column, p.searchFrom? before column s = some m →
      ∃ c : Cursor, c.rest <:+ s ∧ c.captures = [] ∧ p.matchAt? c = some m := by
    clear h
    induction s with
    | nil =>
      intro before column h
      rw [searchFrom?] at h
      split at h
      · rename_i m' hm
        cases h
        exact ⟨_, List.suffix_rfl, rfl, hm⟩
      · cases h
    | cons x xs ih =>
      intro before column h
      rw [searchFrom?] at h
      split at h
      · rename_i m' hm
        cases h
        exact ⟨_, List.suffix_rfl, rfl, hm⟩
      · obtain ⟨c, hc, hcaptures, hm⟩ := ih _ _ h
        exact ⟨c, hc.trans (List.suffix_cons x xs), hcaptures, hm⟩
  rw [search?_eq] at h
  exact hfrom none 0 h

theorem replaceAll_of_none {p : Pattern} {s : Text} (h : p.search? s = none) (new : Text) : p.replaceAll new s = s := by
  have hnone : p.occurrences s = [] := by
    rw [search?] at h
    unfold occurrences
    split
    · rename_i hp
      rw [if_pos hp] at h
      unfold occurrences.go
      rw [h]
    · rfl
  rw [replaceAll, splitBy, hnone]
  rfl

end StyleCheck.Pattern
