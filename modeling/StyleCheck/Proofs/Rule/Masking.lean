/-
  StyleCheck.Proofs.Rule.Masking — the names of operator functions are masked, and all columns are kept.

  1. One round. What is masked is the name of an operator function (`NameAt`), and it is written over with as many low
     lines (`maskLast?_eq_some`); a round finds a name as long as there is one (`isSome_maskLast?`).
  2. All rounds. Every round leaves fewer signs, so the rounds end (`rounds_mask`). Along them every character keeps its
     column or becomes a low line (`masks_mask`).
  3. An angle bracket that is seen on the masked line stands at the same column of the line, and that is where the search
     for its partner starts (`masking_ends_and_keeps_columns`).
-/

import Mathlib.Data.List.Forall2
import StyleCheck.Proofs.Pattern.Group
import StyleCheck.Proofs.Text.Cut
import StyleCheck.Rule.OperatorSpacing

namespace StyleCheck.Rule.OperatorSpacing

open Pattern

/-! ## Names -/

/-- The name of an operator function, and what follows it: a name has no blanks and does not begin as a word does, and a
round bracket follows it, blanks between them or not. -/
structure IsName (name after : Text) : Prop where
  head : ∃ c cs, name = c :: cs ∧ Text.isWord c = false
  visible : ∀ c ∈ name, Text.isBlank c = false
  bracket : ∃ gap rest, after = gap ++ '(' :: rest ∧ ∀ c ∈ gap, Text.isBlank c = true

/-- On the line, which has `before` in front of it, the name stands after `lead` and the word `operator`. -/
structure NameAt (before : Option Char) (line lead name after : Text) : Prop where
  eq : line = lead ++ ("operator".toList ++ (name ++ after))
  edge : ((lead.getLast?.or before).map Text.isWord).getD false = false
  name : IsName name after

def written (lead name after : Text) : Text :=
  lead ++ ("operator".toList ++ (List.replicate name.length '_' ++ after))

/-- What is to be masked has no blanks, and a round bracket follows it. -/
theorem nameLength?_eq_some {rest : Text} {k : Nat} (h : nameLength? rest = some k) :
    ∃ name after, rest = name ++ after ∧ name.length = k ∧ (∀ c ∈ name, Text.isBlank c = false) ∧
      ∃ gap tail, after = gap ++ '(' :: tail ∧ ∀ c ∈ gap, Text.isBlank c = true := by
  have hsplit := List.takeWhile_append_dropWhile (p := fun c => !Text.isBlank c) (l := rest)
  have hvisible : ∀ c ∈ rest.takeWhile fun c => !Text.isBlank c, Text.isBlank c = false := by
    intro c hc
    simpa using List.mem_takeWhile_imp hc
  simp only [nameLength?] at h
  generalize rest.takeWhile (fun c => !Text.isBlank c) = run at h hsplit hvisible
  generalize rest.dropWhile (fun c => !Text.isBlank c) = after at h hsplit
  subst hsplit
  split at h
  · cases h
  · split at h
    · rename_i hbracket
      cases h
      obtain ⟨tail, htail⟩ := List.head?_eq_some_iff.mp (beq_iff_eq.mp (Bool.and_eq_true_iff.mp hbracket).1)
      refine ⟨run, after, rfl, rfl, hvisible, after.takeWhile Text.isBlank, tail, ?_, ?_⟩
      · rw [← htail, List.takeWhile_append_dropWhile]
      · intro c hc
        exact List.mem_takeWhile_imp hc
    · split at h
      · rename_i i hlast
        split at h
        · cases h
          obtain ⟨hlt, hchar⟩ := List.getElem?_eq_some_iff.mp (Text.locateLast?_eq_some hlast)
          refine ⟨run.take (i + 1), run.drop (i + 1) ++ after, ?_, ?_, ?_, [], run.drop (i + 2) ++ after, ?_, by simp⟩
          · rw [← List.append_assoc, List.take_append_drop]
          · rw [List.length_take]
            omega
          · intro c hc
            exact hvisible c (List.mem_of_mem_take hc)
          · rw [List.drop_eq_getElem_cons hlt, hchar]
            rfl
        · cases h
      · cases h

/-- Where a name stands, something is masked. -/
theorem isSome_nameLength? {name after : Text} (hname : IsName name after) (hline : '\n' ∉ name ++ after) :
    (nameLength? (name ++ after)).isSome = true := by
  obtain ⟨⟨c, cs, hcons, -⟩, hvisible, gap, tail, rfl, hgap⟩ := hname
  have hvisible' : ∀ c ∈ name, (!Text.isBlank c) = true := by
    intro c hc
    rw [hvisible c hc]
    rfl
  have hrest : ∀ {s : Text}, s <:+ name ++ (gap ++ '(' :: tail) → (Text.restOfLine? s).isSome = true := by
    intro s hs
    rw [Text.restOfLine?_of_notMem fun hmem => hline (hs.subset hmem)]
    rfl
  simp only [nameLength?]
  cases gap with
  | cons b gap =>
    -- The blank ends the run of characters, so the name is all of it.
    obtain ⟨hb, hgap⟩ := List.forall_mem_cons.mp hgap
    have hstop : (!Text.isBlank b) = false := by
      rw [hb]
      rfl
    have htake : (name ++ (b :: gap ++ '(' :: tail)).takeWhile (fun c => !Text.isBlank c) = name := by
      rw [List.takeWhile_append_of_pos hvisible', List.cons_append, List.takeWhile_cons_of_neg (by simp [hb]),
        List.append_nil]
    have hdrop : ((name ++ (b :: gap ++ '(' :: tail)).dropWhile (fun c => !Text.isBlank c)).dropWhile Text.isBlank
        = '(' :: tail := by
      rw [List.dropWhile_append_of_pos hvisible', List.cons_append, List.dropWhile_cons_of_neg (by simp [hb]),
        List.dropWhile_cons_of_pos hb, List.dropWhile_append_of_pos hgap]
      exact List.dropWhile_cons_of_neg (by decide)
    have hline' := hrest (s := '(' :: tail) ((List.suffix_append (b :: gap) _).trans (List.suffix_append name _))
    rw [htake, hdrop, hline', hcons]
    rfl
  | nil =>
    -- The round bracket belongs to the run of characters, so it or a later one ends the name.
    have hrun : (name ++ '(' :: tail).takeWhile (fun c => !Text.isBlank c)
        = name ++ '(' :: tail.takeWhile fun c => !Text.isBlank c := by
      rw [List.takeWhile_append_of_pos hvisible', List.takeWhile_cons_of_pos (by decide)]
    obtain ⟨j, hj, hle⟩ := Text.le_locateLast? (c := '(') (s := name ++ '(' :: tail.takeWhile fun c => !Text.isBlank c)
      (i := name.length) (by simp)
    have hpos : 0 < j := by
      rw [hcons] at hle
      exact Nat.lt_of_lt_of_le (Nat.succ_pos _) hle
    obtain ⟨i, rfl⟩ : ∃ i, j = i + 1 := ⟨j - 1, by omega⟩
    have hline' := hrest (s := (name ++ '(' :: tail).drop (i + 1)) (List.drop_suffix _ _)
    rw [List.nil_append, hrun, hj]
    simp only [hline', if_true]
    split
    · rename_i hempty
      simp at hempty
    · split <;> rfl

/-! ## One round -/

theorem maskName?_eq_some {rest masked : Text} (h : maskName? rest = some masked) (hline : '\n' ∉ rest) :
    ∃ name after, rest = name ++ after ∧ IsName name after ∧
      masked = List.replicate name.length '_' ++ after := by
  simp only [maskName?] at h
  split at h
  · cases h
  · rename_i hhead
    obtain ⟨k, hk, rfl⟩ := Option.map_eq_some_iff.mp h
    have hpos := (nameLength?_pos hk).1
    obtain ⟨name, after, rfl, rfl, hvisible, hbracket⟩ := nameLength?_eq_some hk
    have hkept : withoutFinalFeed after = after := by
      refine if_neg fun hlast => hline (List.mem_append_right name ?_)
      exact List.mem_of_getLast? (beq_iff_eq.mp hlast)
    refine ⟨name, after, rfl, ⟨?_, hvisible, hbracket⟩, ?_⟩
    · cases name with
      | nil => exact absurd hpos (Nat.lt_irrefl 0)
      | cons c cs => exact ⟨c, cs, rfl, by simpa using hhead⟩
    · rw [List.drop_left, hkept]

theorem isSome_maskName? {name after : Text} (hname : IsName name after) (hline : '\n' ∉ name ++ after) :
    (maskName? (name ++ after)).isSome = true := by
  obtain ⟨c, cs, hcons, hword⟩ := hname.head
  have hhead : (((name ++ after).head?.map Text.isWord).getD true) = false := by
    rw [hcons]
    exact hword
  rw [maskName?, hhead, if_neg Bool.false_ne_true, Option.isSome_map]
  exact isSome_nameLength? hname hline

/-- What a round masks is a name. -/
theorem maskLast?_eq_some {before : Option Char} {line masked : Text} (h : maskLast? before line = some masked)
    (hline : '\n' ∉ line) : ∃ lead name after, NameAt before line lead name after ∧ masked = written lead name after := by
  induction line generalizing before masked with
  | nil => cases h
  | cons c rest ih =>
    simp only [maskLast?] at h
    split at h
    · cases h
    · split at h
      · rename_i masked' hmasked
        cases h
        obtain ⟨lead, name, after, hat, rfl⟩ := ih hmasked fun hmem => hline (List.mem_cons_of_mem c hmem)
        refine ⟨c :: lead, name, after, ⟨congrArg (c :: ·) hat.eq, ?_, hat.name⟩, rfl⟩
        rw [Text.getLast?_cons_or]
        exact hat.edge
      · split at h
        · rename_i hword
          obtain ⟨hedge, hstart⟩ := Bool.and_eq_true_iff.mp hword
          obtain ⟨tail, htail⟩ := List.isPrefixOf_iff_prefix.mp hstart
          obtain rfl : rest.drop 7 = tail := by
            have := congrArg (List.drop 8) htail
            simpa using this.symm
          obtain ⟨masked', hmasked, rfl⟩ := Option.map_eq_some_iff.mp h
          have htail' : '\n' ∉ rest.drop 7 := fun hmem => hline (List.mem_cons_of_mem c (List.mem_of_mem_drop hmem))
          obtain ⟨name, after, hrest, hname, rfl⟩ := maskName?_eq_some hmasked htail'
          refine ⟨[], name, after, ⟨?_, by simpa using hedge, hname⟩, rfl⟩
          rw [← htail, hrest]
          rfl
        · cases h

/-- As long as there is a name, a round finds one. -/
theorem isSome_maskLast? {before : Option Char} {line lead name after : Text} (h : NameAt before line lead name after)
    (hline : '\n' ∉ line) : (maskLast? before line).isSome = true := by
  induction lead generalizing before line with
  | nil =>
    obtain ⟨rfl, hedge, hname⟩ := h
    have hfound := isSome_maskName? hname fun hmem => hline (List.mem_append_right "operator".toList hmem)
    have hedge' : (before.map Text.isWord).getD false = false := hedge
    have hword : (!(before.map Text.isWord).getD false
        && Text.startsWith ('o' :: ("perator".toList ++ (name ++ after))) "operator".toList) = true := by
      rw [hedge']
      exact List.isPrefixOf_iff_prefix.mpr (List.prefix_append "operator".toList (name ++ after))
    show (maskLast? before ('o' :: ("perator".toList ++ (name ++ after)))).isSome = true
    rw [maskLast?, if_neg (by decide)]
    split
    · rfl
    · rw [if_pos hword, Option.isSome_map]
      exact hfound
  | cons c lead ih =>
    obtain ⟨rfl, hedge, hname⟩ := h
    have hrest : NameAt (some c) (lead ++ ("operator".toList ++ (name ++ after))) lead name after :=
      ⟨rfl, Text.getLast?_cons_or c lead before ▸ hedge, hname⟩
    have hfound := ih hrest fun hmem => hline (List.mem_cons_of_mem c hmem)
    obtain ⟨masked, hmasked⟩ := Option.isSome_iff_exists.mp hfound
    have hc : (c == '\n') = false := beq_eq_false_iff_ne.mpr fun hc => hline (hc ▸ List.mem_cons_self)
    rw [List.cons_append, maskLast?, hc, if_neg Bool.false_ne_true, hmasked]
    rfl

/-! ## All rounds -/

inductive Rounds : (rounds : Nat) → Text → Text → Prop
  | stop {line : Text} : maskLast? none line = none → Rounds 0 line line
  | round {rounds : Nat} {line masked last : Text} :
      maskLast? none line = some masked → Rounds rounds masked last → Rounds (rounds + 1) line last

/-- There are no more rounds than signs on the line. -/
theorem rounds_mask (line : Text) : ∃ rounds ≤ signs line, Rounds rounds line (mask line) := by
  fun_induction mask line with
  | case1 line h => exact ⟨0, Nat.zero_le _, .stop h⟩
  | case2 line masked h ih =>
    obtain ⟨rounds, hle, hrounds⟩ := ih
    have hless := maskLast?_signs h
    exact ⟨rounds + 1, by omega, .round h hrounds⟩

/-- The rounds lead to no other line. -/
theorem Rounds.mask_eq {rounds : Nat} {line last : Text} (h : Rounds rounds line last) : mask line = last := by
  induction h with
  | stop hnone =>
    rw [mask]
    split
    · rfl
    · rename_i hsome
      cases hnone.symm.trans hsome
  | round hsome _ ih =>
    rw [mask]
    split
    · rename_i hnone
      cases hnone.symm.trans hsome
    · rename_i hsome'
      cases hsome.symm.trans hsome'
      exact ih

def Masks (text masked : Text) : Prop := List.Forall₂ (fun c m => m = c ∨ m = '_') text masked

namespace Masks

variable {text masked last : Text}

theorem refl (text : Text) : Masks text text := List.forall₂_same.mpr fun _ _ => .inl rfl

theorem trans (h : Masks text masked) (h' : Masks masked last) : Masks text last := by
  induction h generalizing last with
  | nil =>
    cases h'
    exact .nil
  | cons hc _ ih =>
    cases h' with
    | cons hm hrest =>
      refine .cons ?_ (ih hrest)
      rcases hm with rfl | rfl
      · exact hc
      · exact .inr rfl

theorem mem (h : Masks text masked) {c : Char} (hc : c ∈ masked) : c ∈ text ∨ c = '_' := by
  induction h with
  | nil => cases hc
  | cons hm _ ih =>
    rcases List.mem_cons.mp hc with rfl | hc
    · rcases hm with rfl | rfl
      · exact .inl List.mem_cons_self
      · exact .inr rfl
    · exact (ih hc).imp (List.mem_cons_of_mem _) id

theorem getElem? (h : Masks text masked) (i : Nat) : masked[i]? = text[i]? ∨ masked[i]? = some '_' := by
  induction h generalizing i with
  | nil => exact .inl rfl
  | cons hm _ ih =>
    cases i with
    | zero =>
      rcases hm with rfl | rfl
      · exact .inl rfl
      · exact .inr rfl
    | succ i => exact ih i

end Masks

theorem masks_written (lead name after : Text) :
    Masks (lead ++ ("operator".toList ++ (name ++ after))) (written lead name after) := by
  have hname : Masks name (List.replicate name.length '_') := by
    induction name with
    | nil => exact .nil
    | cons c name ih => exact .cons (.inr rfl) ih
  exact List.rel_append (Masks.refl lead) (List.rel_append (Masks.refl _) (List.rel_append hname (Masks.refl after)))

/-- Along the rounds every character keeps its column, or becomes a low line. -/
theorem masks_mask {line : Text} (hline : '\n' ∉ line) : Masks line (mask line) := by
  fun_induction mask line with
  | case1 line h => exact .refl line
  | case2 line masked h ih =>
    obtain ⟨lead, name, after, hat, rfl⟩ := maskLast?_eq_some h hline
    have hround : Masks line (written lead name after) := hat.eq ▸ masks_written lead name after
    refine hround.trans (ih fun hmem => ?_)
    rcases hround.mem hmem with hmem | hfeed
    · exact hline hmem
    · cases hfeed

/-- In the end no name is left. -/
theorem maskLast?_mask (line : Text) : maskLast? none (mask line) = none := by
  fun_induction mask line with
  | case1 line h => exact h
  | case2 line masked h ih => exact ih

/-! ## Angle brackets -/

/-- Masking ends after no more rounds than the line has signs, when no name of an operator function is left. The line keeps
its length, and where it has changed, a low line stands. So the brackets that are seen on it stand at the same columns of
the line itself, and there the search for their partners starts. -/
theorem masking_ends_and_keeps_columns (s : Source) (n : Nat) (hline : '\n' ∉ s.elided n) :
    (∃ rounds ≤ signs (s.elided n), Rounds rounds (s.elided n) (mask (s.elided n))) ∧
    (∀ lead name after, ¬ NameAt none (mask (s.elided n)) lead name after) ∧
    (mask (s.elided n)).length = (s.elided n).length ∧
    (∀ i : Nat, (mask (s.elided n))[i]? ≠ (s.elided n)[i]? → (mask (s.elided n))[i]? = some '_') ∧
    (∀ i : Nat, (mask (s.elided n))[i]? = some '<' → (s.elided n)[i]? = some '<') ∧
    (∀ i : Nat, (mask (s.elided n))[i]? = some '>' → (s.elided n)[i]? = some '>') ∧
    (∀ m, tightLess.match? (mask (s.elided n)) = some m → (s.elided n)[(m.group 1).length]? = some '<') ∧
    ∀ m, tightGreater.match? (mask (s.elided n)) = some m → (s.elided n)[(m.group 1).length]? = some '>' := by
  have hmasks := masks_mask hline
  have hkept : ∀ {i : Nat} {c : Char}, c ≠ '_' → (mask (s.elided n))[i]? = some c → (s.elided n)[i]? = some c := by
    intro i c hc hi
    rcases hmasks.getElem? i with hsame | hlow
    · rw [← hsame, hi]
    · rw [hi] at hlow
      exact absurd (Option.some.inj hlow) hc
  refine ⟨rounds_mask _, ?_, hmasks.length_eq.symm, ?_, fun i => hkept (by decide), fun i => hkept (by decide), ?_, ?_⟩
  · intro lead name after hat
    have hfound := isSome_maskLast? hat fun hmem => (hmasks.mem hmem).elim hline (by decide)
    rw [maskLast?_mask] at hfound
    cases hfound
  · intro i hne
    exact (hmasks.getElem? i).resolve_left hne
  · intro m hm
    exact hkept (by decide) (match?_start_group hm)
  · intro m hm
    exact hkept (by decide) (match?_start_group hm)

def comparison : Source := Source.ofLines ["b operator<(A<B>c)".toList]

theorem comparison_mask : comparison.elided 0 = "b operator<(A<B>c)".toList ∧
    mask (comparison.elided 0) = "b operator_(A<B>c)".toList := by
  have helided : comparison.elided 0 = "b operator<(A<B>c)".toList := by decide +kernel
  refine ⟨helided, ?_⟩
  rw [helided]
  exact (Rounds.round (by decide) (.stop (by decide))).mask_eq

theorem masking_ends_and_keeps_columns_comparison :
    '\n' ∉ comparison.elided 0 ∧ (mask (comparison.elided 0)).length = (comparison.elided 0).length ∧
    (mask (comparison.elided 0))[10]? ≠ (comparison.elided 0)[10]? ∧ (mask (comparison.elided 0))[10]? = some '_' ∧
    (comparison.elided 0)[13]? = some '<' ∧ (comparison.elided 0)[15]? = some '>' := by
  obtain ⟨helided, hmask⟩ := comparison_mask
  have hline : '\n' ∉ comparison.elided 0 := by
    rw [helided]
    decide
  have hless : (tightLess.match? (mask (comparison.elided 0))).map (fun m => (m.group 1).length) = some 13 := by
    rw [hmask]
    decide +kernel
  have hgreater : (tightGreater.match? (mask (comparison.elided 0))).map (fun m => (m.group 1).length) = some 15 := by
    rw [hmask]
    decide +kernel
  have hchanged : (mask (comparison.elided 0))[10]? ≠ (comparison.elided 0)[10]? := by
    rw [hmask, helided]
    decide
  obtain ⟨m, hm, hcolumn⟩ := Option.map_eq_some_iff.mp hless
  obtain ⟨m', hm', hcolumn'⟩ := Option.map_eq_some_iff.mp hgreater
  obtain ⟨-, -, hlength, hlow, -, -, hopen, hclose⟩ := masking_ends_and_keeps_columns comparison 0 hline
  exact ⟨hline, hlength, hchanged, hlow 10 hchanged, hcolumn ▸ hopen m hm, hcolumn' ▸ hclose m' hm'⟩

end StyleCheck.Rule.OperatorSpacing
