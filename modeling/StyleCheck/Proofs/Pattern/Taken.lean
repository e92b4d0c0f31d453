/-
  StyleCheck.Proofs.Pattern.Taken — where a pattern matches, and what it takes.

  1. Which way of matching is taken depends on what follows. That there is one does not, as long as more is accepted:
     a pattern that matches still matches if all places that were accepted after it are accepted (`monotone_run`).
  2. A repetition of single characters can end after any of them that stand in a row (`mem_ends_many_one`).
  3. What a pattern that ends in a character has found ends in this character (`search?_last`).
  4. Whether a pattern can take a character at all is read off from it (`avoids`, `avoids_run`).
-/

import StyleCheck.Proofs.Pattern.Literal

namespace StyleCheck.Pattern

variable {next next' : Cursor → Option Cursor} {c : Cursor}

/-! ## More is accepted -/

def Matcher.Monotone (m : Matcher) : Prop :=
  ∀ next next' : Cursor → Option Cursor, (∀ e, (next e).isSome → (next' e).isSome) →
    ∀ c, (m next c).isSome → (m next' c).isSome

theorem run_alt (p q : Pattern) (next : Cursor → Option Cursor) (c : Cursor) :
    (alt p q).run next c = (p.run next c).or (q.run next c) := by
  rw [run]
  cases p.run next c <;> rfl

theorem monotone_run (p : Pattern) : Matcher.Monotone p.run := by
  intro next next' h c hc
  obtain ⟨e, he, hnext⟩ := isSome_run.mp hc
  exact isSome_run.mpr ⟨e, he, h e hnext⟩

/-- A pattern occurs wherever another one does, if it matches at every place where the other one matches. -/
theorem occursIn_mono {p q : Pattern} (h : ∀ c, (p.run some c).isSome → (q.run some c).isSome) {s : Text}
    (hp : p.occursIn s = true) : q.occursIn s = true := by
  have hfrom : ∀ before column, (p.searchFrom? before column s).isSome → (q.searchFrom? before column s).isSome := by
    clear hp
    induction s with
    | nil =>
      intro before column hp
      have hat := h ⟨before, [], column, []⟩
      simp only [searchFrom?, matchAt?] at hp ⊢
      cases hrun : p.run some ⟨before, [], column, []⟩ with
      | none => simp [hrun] at hp
      | some d =>
        obtain ⟨e, he⟩ := Option.isSome_iff_exists.mp (hat (by rw [hrun]; rfl))
        simp [he]
    | cons x xs ih =>
      intro before column hp
      have hat := h ⟨before, x :: xs, column, []⟩
      rw [searchFrom?, matchAt?] at hp ⊢
      cases hrun : p.run some ⟨before, x :: xs, column, []⟩ with
      | none =>
        rw [hrun] at hp
        cases q.run some ⟨before, x :: xs, column, []⟩ with
        | none => exact ih _ _ hp
        | some e => rfl
      | some d =>
        obtain ⟨e, he⟩ := Option.isSome_iff_exists.mp (hat (by rw [hrun]; rfl))
        rw [he]
        rfl
  rw [occursIn, search?_eq] at hp ⊢
  exact hfrom none 0 hp

/-! ## Characters in a row -/

/-- A repetition of single characters can end after any of them that stand in a row. -/
theorem mem_ends_many_one {set : CharSet} {c d : Cursor} :
    d ∈ (many (one set)).ends c ↔ ∃ taken rest, c.rest = taken ++ rest ∧ (∀ x ∈ taken, set.has x = true) ∧
      d = c.advance taken rest := by
  have hrounds : ∀ rounds (c : Cursor), c.rest.length < rounds →
      (d ∈ endsUpTo true (one set).ends rounds c ↔ ∃ taken rest, c.rest = taken ++ rest ∧
        (∀ x ∈ taken, set.has x = true) ∧ d = c.advance taken rest) := by
    intro rounds
    induction rounds with
    | zero => exact fun c hc => absurd hc (Nat.not_lt_zero _)
    | succ rounds ih =>
      intro c hc
      have hstep : ∀ x xs, c.column < (c.step x xs).column := fun x xs => Nat.lt_succ_self _
      have hless : ∀ x xs, c.rest = x :: xs → (c.step x xs).rest.length < rounds := by
        intro x xs hrest
        rw [hrest, List.length_cons] at hc
        exact Nat.lt_of_succ_lt_succ hc
      rw [mem_endsUpTo_succ]
      constructor
      · rintro (rfl | ⟨e, he, hd⟩)
        · exact ⟨[], d.rest, rfl, by simp, rfl⟩
        · obtain ⟨x, xs, hrest, hx, rfl⟩ := mem_ends_one.mp he
          rw [if_pos (hstep x xs), ih _ (hless x xs hrest)] at hd
          obtain ⟨taken, rest, hxs, hall, rfl⟩ := hd
          exact ⟨x :: taken, rest, hrest.trans (congrArg (x :: ·) hxs), List.forall_mem_cons.mpr ⟨hx, hall⟩,
            Cursor.advance_cons ..⟩
      · rintro ⟨taken, rest, hrest, hall, rfl⟩
        cases taken with
        | nil =>
          rw [List.nil_append] at hrest
          subst hrest
          exact .inl rfl
        | cons x taken =>
          obtain ⟨hx, hall⟩ := List.forall_mem_cons.mp hall
          refine .inr ⟨c.step x (taken ++ rest), mem_ends_one.mpr ⟨x, _, hrest, hx, rfl⟩, ?_⟩
          rw [if_pos (hstep x _)]
          exact (ih _ (hless x _ hrest)).mpr ⟨taken, rest, rfl, hall, (Cursor.advance_cons ..).symm⟩
  exact hrounds _ c (Nat.lt_succ_self _)

theorem isSome_run_one {set : CharSet} : ((one set).run next c).isSome = true ↔
    ∃ x rest, c.rest = x :: rest ∧ set.has x = true ∧ (next (c.step x rest)).isSome = true := by
  rw [isSome_run]
  constructor
  · rintro ⟨e, he, hnext⟩
    obtain ⟨x, rest, hrest, hx, rfl⟩ := mem_ends_one.mp he
    exact ⟨x, rest, hrest, hx, hnext⟩
  · rintro ⟨x, rest, hrest, hx, hnext⟩
    exact ⟨_, mem_ends_one.mpr ⟨x, rest, hrest, hx, rfl⟩, hnext⟩

theorem isSome_run_many_one {set : CharSet} :
    ((many (one set)).run next c).isSome = true ↔ ∃ taken rest, c.rest = taken ++ rest ∧
      (∀ x ∈ taken, set.has x = true) ∧ (next (c.advance taken rest)).isSome = true := by
  rw [isSome_run]
  constructor
  · rintro ⟨e, he, hnext⟩
    obtain ⟨taken, rest, hrest, hall, rfl⟩ := mem_ends_many_one.mp he
    exact ⟨taken, rest, hrest, hall, hnext⟩
  · rintro ⟨taken, rest, hrest, hall, hnext⟩
    exact ⟨_, mem_ends_many_one.mpr ⟨taken, rest, hrest, hall, rfl⟩, hnext⟩

/-- A repetition of single characters takes some that stand in a row. -/
theorem run_many_one {set : CharSet} {d : Cursor} (h : (many (one set)).run next c = some d) :
    ∃ taken rest, c.rest = taken ++ rest ∧ (∀ x ∈ taken, set.has x = true) ∧ next (c.advance taken rest) = some d := by
  obtain ⟨e, he, hnext⟩ := exists_end_of_run h
  obtain ⟨taken, rest, hrest, hall, rfl⟩ := mem_ends_many_one.mp he
  exact ⟨taken, rest, hrest, hall, hnext⟩

/-! ## Ends -/

theorem atFinish_iff {c : Cursor} : c.atFinish = true ↔ c.rest = [] ∨ c.rest = ['\n'] := by
  rw [Cursor.atFinish]
  split
  · rename_i h
    simp [h]
  · rename_i h
    simp [h]
  · rename_i hnil hfeed
    exact iff_of_false Bool.false_ne_true fun hor => hor.elim hnil hfeed

theorem isSome_run_finish {c : Cursor} : (finish.run some c).isSome = true ↔ c.rest = [] ∨ c.rest = ['\n'] := by
  rw [← atFinish_iff, run]
  cases c.atFinish <;> simp

theorem search?_last {q : Pattern} {x : Char} {s : Text} {m : Match}
    (h : (seq q (literal [x])).search? s = some m) : ∃ before, s = before ++ x :: m.rest ∧ m.stop = before.length + 1 := by
  obtain ⟨hle, hrest⟩ := search?_rest h
  obtain ⟨c, hsuffix, -, hmatch⟩ := search?_eq_some h
  obtain ⟨d, hd, rfl⟩ := Option.map_eq_some_iff.mp hmatch
  obtain ⟨e, he, hreach⟩ := forward_run q _ _ _ hd
  obtain ⟨rest, hx, hnext⟩ := run_literal he
  cases hnext
  obtain ⟨before, hs⟩ := hreach.suffix.trans hsuffix
  have hsplit : s = before ++ x :: rest := by rw [← hs, hx]; rfl
  refine ⟨before, hsplit, ?_⟩
  have hlength := congrArg List.length hrest
  simp only [Cursor.advance, hsplit, List.length_drop, List.length_append, List.length_cons] at hlength hle ⊢
  omega

/-! ## Characters that are not taken -/

/-- Nothing that the pattern takes can hold the character `x`. -/
def avoids (x : Char) : Pattern → Bool
  | empty | edge | start | finish | lineStart | lineEnd | ahead _ | notAhead _ => true
  | again _ => false
  | one set => !set.has x
  | seq p q | alt p q => p.avoids x && q.avoids x
  | many p | few p | times _ p | upTo _ p | fewTo _ p | once p | group _ p => p.avoids x

def Cursor.ReachesWithout (x : Char) (c d : Cursor) : Prop :=
  ∃ taken, c.rest = taken ++ d.rest ∧ d.column = c.column + taken.length ∧ x ∉ taken

def Matcher.Avoids (x : Char) (m : Matcher) : Prop :=
  ∀ next c d, m next c = some d → ∃ e, next e = some d ∧ c.ReachesWithout x e

theorem takesOnly_of_avoids {x : Char} {p : Pattern} (hp : p.avoids x = true) : p.TakesOnly (· ≠ x) := by
  induction p with
  | one set =>
    intro y hy
    rintro rfl
    simp [avoids, hy] at hp
  | seq p q ihp ihq | alt p q ihp ihq =>
    obtain ⟨hp, hq⟩ := Bool.and_eq_true_iff.mp hp
    exact ⟨ihp hp, ihq hq⟩
  | many p ih | few p ih | times n p ih | upTo n p ih | fewTo n p ih | once p ih | group n p ih => exact ih hp
  | again n => cases hp
  | _ => trivial

theorem avoids_run {x : Char} {p : Pattern} (hp : p.avoids x = true) : Matcher.Avoids x p.run := by
  intro next c d h
  obtain ⟨e, he, hd⟩ := exists_end_of_run h
  obtain ⟨taken, hrest, hcolumn, htaken⟩ := reachesBy_of_mem_ends (takesOnly_of_avoids hp) c e he
  exact ⟨e, hd, taken, hrest, hcolumn, fun hx => htaken x hx rfl⟩

/-- What follows the part that cannot take `x` is the last group, which goes to the end of the line. -/
theorem eq_append_group {q : Pattern} {k : Nat} {x : Char} {text : Text} {m : Match}
    (h : (seq (seq q (group k anything)) finish).match? text = some m) (hq : q.avoids x = true) (hn : '\n' ∉ text) :
    ∃ taken, text = taken ++ m.group k ∧ x ∉ taken := by
  rw [match?_eq] at h
  obtain ⟨d, hd, rfl⟩ := Option.map_eq_some_iff.mp h
  obtain ⟨e, he, taken, hrest, -, htaken⟩ := avoids_run hq _ _ _ hd
  obtain ⟨f, hf, taken', hrest', hcolumn⟩ := forward_run anything _ _ _ he
  simp only [run] at hf
  split at hf
  · rename_i hfinish
    cases hf
    have htext : text = taken ++ (taken' ++ f.rest) := by
      rw [← hrest']
      exact hrest
    have hend : f.rest = [] := by
      rcases atFinish_iff.mp hfinish with hnil | hfeed
      · exact hnil
      · refine absurd ?_ hn
        rw [htext, show f.rest = ['\n'] from hfeed]
        simp
    refine ⟨taken, ?_, htaken⟩
    simp [Match.group, Match.group?, Cursor.remember, Capture.text, hcolumn, hrest', htext, hend]
  · cases hf

end StyleCheck.Pattern
