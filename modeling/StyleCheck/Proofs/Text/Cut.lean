/-
  StyleCheck.Proofs.Text.Cut — where a text is cut in two.

  A text is cut at the first character of a kind, at a mark, at the last of a character, or at the end of a line. Each
  lemma says what stands on both sides when the place is known: a mark that does not occur before it is the first one.
  Cut at all places of one character, a text falls into the pieces that the library knows (`pieces_singleton`),
  and the last of them ends as the text does (`splitOn_last`). Replacement works on both sides of a character apart
  from each other, if what is replaced does not hold it (`substitute_append_cons`). A word ends before a blank
  (`isBlank_of_isWord`).
-/

import Mathlib.Data.List.TakeWhile
import StyleCheck.Text.Blank
import StyleCheck.Text.WordChar

namespace StyleCheck.Text

theorem isBlank_of_isWord {c : Char} (h : isWord c = true) : isBlank c = false := by
  have hlow : ∀ n < 128, isWord (Char.ofNat n) = true → isBlank (Char.ofNat n) = false := by decide +kernel
  have hhigh : ∀ n ∈ Blank.others, WordChar.ranges.has n = false := by decide +kernel
  by_cases hn : c.toNat < 128
  · have := hlow c.toNat hn
    rw [Char.ofNat_toNat] at this
    exact this h
  · simp only [isWord, if_neg hn] at h
    simp only [isBlank, if_neg hn]
    rw [Bool.eq_false_iff]
    intro hblank
    rw [hhigh c.toNat (List.contains_iff_mem.mp hblank)] at h
    cases h

theorem forall_bne_of_notMem {c : Char} {s : Text} (h : c ∉ s) : ∀ d ∈ s, (d != c) = true := by
  intro d hd
  rw [bne_iff_ne]
  rintro rfl
  exact h hd

theorem drop_length_takeWhile (p : Char → Bool) (s : Text) : s.drop (s.takeWhile p).length = s.dropWhile p := by
  conv => lhs; arg 2; rw [← List.takeWhile_append_dropWhile (p := p) (l := s)]
  exact List.drop_left

theorem getElem?_takeWhile_length {p : Char → Bool} {text rest : Text} {c : Char} (h : text.dropWhile p = c :: rest) :
    text[(text.takeWhile p).length]? = some c := by
  conv => lhs; lhs; rw [← List.takeWhile_append_dropWhile (p := p) (l := text), h]
  simp

theorem drop_append_append (s t rest : Text) : (s ++ (t ++ rest)).drop (s.length + t.length) = rest := by
  rw [← List.append_assoc, ← List.length_append]
  exact List.drop_left

theorem dropWhile_append_stop {p : Char → Bool} {c : Char} (hc : p c = false) (s t : Text) :
    (s ++ c :: t).dropWhile p = s.dropWhile p ++ c :: t := by
  rw [List.dropWhile_append]
  split
  · rename_i hnil
    rw [List.isEmpty_iff.mp hnil, List.dropWhile_cons_of_neg (by simp [hc]), List.nil_append]
  · rfl

theorem takeWhile_append_stop {p : Char → Bool} {c : Char} (hc : p c = false) (s t : Text) :
    (s ++ c :: t).takeWhile p = s.takeWhile p := by
  rw [List.takeWhile_append]
  split
  · rename_i hall
    rw [List.takeWhile_cons_of_neg (by simp [hc]), List.append_nil]
    exact ((List.takeWhile_prefix p).eq_of_length hall).symm
  · rfl

/-- A text without line feeds is the rest of its line. -/
theorem restOfLine?_of_notMem {s : Text} (h : '\n' ∉ s) : restOfLine? s = some s := by
  have hall := forall_bne_of_notMem h
  have hnone : s.dropWhile (· != '\n') = [] := List.dropWhile_eq_nil_iff.mpr hall
  have hwhole : s.takeWhile (· != '\n') = s := List.takeWhile_eq_self_iff.mpr hall
  simp only [restOfLine?, hnone, hwhole]

theorem divide_of_notMem {c : Char} {s : Text} (h : c ∉ s) : divide c s = (s, []) := by
  have hall := forall_bne_of_notMem h
  rw [divide, List.takeWhile_eq_self_iff.mpr hall, List.dropWhile_eq_nil_iff.mpr hall, List.drop_nil]

theorem divide_append {c : Char} {s : Text} (h : c ∉ s) (t : Text) : divide c (s ++ c :: t) = (s, t) := by
  have hall := forall_bne_of_notMem h
  rw [divide, List.takeWhile_append_of_pos hall, List.dropWhile_append_of_pos hall]
  simp

/-! ## The first occurrence of a text -/

/-- After `s` stands the first occurrence of `needle`. -/
def Ends (needle s : Text) : Prop := ¬ needle <:+: (s ++ needle).dropLast

instance (needle s : Text) : Decidable (Ends needle s) := inferInstanceAs (Decidable (¬ needle <:+: _))

theorem locate?_of_ends {needle s : Text} (hneedle : needle ≠ []) (h : Ends needle s) (t : Text) :
    locate? needle (s ++ (needle ++ t)) = some s.length := by
  induction s with
  | nil =>
    have hstarts : needle.isPrefixOf (needle ++ t) = true := List.isPrefixOf_iff_prefix.mpr (List.prefix_append needle t)
    cases needle with
    | nil => exact absurd rfl hneedle
    | cons c needle =>
      rw [List.nil_append, List.cons_append, locate?, ← List.cons_append, hstarts]
      rfl
  | cons c s ih =>
    have hlast : (c :: s ++ needle).dropLast = c :: (s ++ needle).dropLast :=
      List.dropLast_cons_of_ne_nil (by simp [hneedle])
    -- an occurrence further to the left would end before the last character
    have hnot : needle.isPrefixOf (c :: (s ++ (needle ++ t))) = false := by
      rw [Bool.eq_false_iff]
      intro hstarts
      have hpre : needle <+: c :: (s ++ needle).dropLast ++ ((s ++ needle).getLast (by simp [hneedle]) :: t) := by
        rw [List.cons_append, List.append_cons, List.dropLast_concat_getLast, List.append_assoc]
        exact List.isPrefixOf_iff_prefix.mp hstarts
      have hshort : needle <+: c :: (s ++ needle).dropLast :=
        List.prefix_of_prefix_length_le hpre (List.prefix_append _ _) (by simp; omega)
      exact h (hlast ▸ hshort.isInfix)
    have hrest : Ends needle s := fun hin => h (hlast ▸ hin.trans (List.suffix_cons c _).isInfix)
    rw [List.cons_append, locate?, hnot, if_neg Bool.false_ne_true, ih hrest]
    rfl

theorem locate?_eq_none_of_not_isInfix {needle s : Text} (hneedle : needle ≠ []) (h : ¬ needle <:+: s) :
    locate? needle s = none := by
  induction s with
  | nil => simp [locate?, hneedle]
  | cons c s ih =>
    have hnot : needle.isPrefixOf (c :: s) = false := by
      rw [Bool.eq_false_iff]
      exact fun hstarts => h (List.isPrefixOf_iff_prefix.mp hstarts).isInfix
    rw [locate?, hnot, if_neg Bool.false_ne_true, ih fun hin => h (hin.trans (List.suffix_cons c s).isInfix)]
    rfl

/-- Before the first occurrence of `needle` there is none, not even one that reaches into it. -/
theorem locate?_eq_some {needle s : Text} {i : Nat} (hneedle : needle ≠ []) (h : locate? needle s = some i) :
    (∃ rest, s = s.take i ++ (needle ++ rest)) ∧ Ends needle (s.take i) := by
  induction s generalizing i with
  | nil => simp [locate?, hneedle] at h
  | cons c s ih =>
    rw [locate?] at h
    split at h
    · rename_i hstarts
      cases h
      obtain ⟨rest, hrest⟩ := List.isPrefixOf_iff_prefix.mp hstarts
      refine ⟨⟨rest, hrest.symm⟩, ?_⟩
      intro hin
      have hle := hin.length_le
      have hpos := List.length_pos_iff.mpr hneedle
      simp only [List.take_zero, List.nil_append, List.length_dropLast] at hle
      omega
    · rename_i hnot
      obtain ⟨j, hj, rfl⟩ := Option.map_eq_some_iff.mp h
      obtain ⟨⟨rest, hs⟩, hends⟩ := ih hj
      refine ⟨⟨rest, by rw [List.take_succ_cons, List.cons_append, ← hs]⟩, ?_⟩
      have hlast : (c :: s.take j ++ needle).dropLast = c :: (s.take j ++ needle).dropLast :=
        List.dropLast_cons_of_ne_nil (by simp [hneedle])
      rw [List.take_succ_cons, Ends, hlast, List.infix_cons_iff, not_or]
      refine ⟨?_, hends⟩
      intro hpre
      apply hnot
      have hfront : (s.take j ++ needle).dropLast <+: s := by
        refine (List.dropLast_prefix _).trans ⟨rest, ?_⟩
        rw [List.append_assoc, ← hs]
      exact List.isPrefixOf_iff_prefix.mpr (hpre.trans (List.prefix_cons_inj c |>.mpr hfront))

theorem not_infix_of_locate?_eq_none {needle s : Text} (h : locate? needle s = none) : ¬ needle <:+: s := by
  induction s with
  | nil =>
    intro hin
    simp [locate?, List.infix_nil.mp hin] at h
  | cons c s ih =>
    rw [locate?] at h
    split at h
    · cases h
    · rename_i hnot
      rw [List.infix_cons_iff, not_or]
      exact ⟨fun hpre => hnot (List.isPrefixOf_iff_prefix.mpr hpre), ih (Option.map_eq_none_iff.mp h)⟩

theorem Ends.not_isInfix {needle s : Text} (hneedle : needle ≠ []) (h : Ends needle s) : ¬ needle <:+: s := by
  intro hin
  apply h
  rw [List.dropLast_append_of_ne_nil hneedle]
  exact hin.trans (List.prefix_append s _).isInfix

/-! ## The last occurrence of a character -/

theorem locateLast?_of_notMem {c : Char} {s : Text} (h : c ∉ s) : locateLast? c s = none := by
  induction s with
  | nil => rfl
  | cons x s ih =>
    rw [List.mem_cons, not_or] at h
    simp [locateLast?, ih h.2, Ne.symm h.1]

theorem locateLast?_append {c : Char} {last : Text} (h : c ∉ last) (s : Text) :
    locateLast? c (s ++ c :: last) = some s.length := by
  induction s with
  | nil => simp [locateLast?, locateLast?_of_notMem h]
  | cons x s ih => simp [locateLast?, ih]

theorem locateLast?_eq_some {c : Char} {s : Text} {i : Nat} (h : locateLast? c s = some i) : s[i]? = some c := by
  induction s generalizing i with
  | nil => cases h
  | cons x xs ih =>
    simp only [locateLast?] at h
    split at h
    · rename_i j hj
      cases h
      exact ih hj
    · split at h
      · rename_i hx
        cases h
        exact congrArg some (beq_iff_eq.mp hx)
      · cases h

theorem le_locateLast? {c : Char} {s : Text} {i : Nat} (h : s[i]? = some c) :
    ∃ j, locateLast? c s = some j ∧ i ≤ j := by
  induction s generalizing i with
  | nil => cases h
  | cons x xs ih =>
    simp only [locateLast?]
    cases hlast : locateLast? c xs with
    | some j =>
      refine ⟨j + 1, rfl, ?_⟩
      cases i with
      | zero => exact Nat.zero_le _
      | succ i =>
        obtain ⟨k, hk, hle⟩ := ih h
        cases hlast.symm.trans hk
        exact Nat.succ_le_succ hle
    | none =>
      cases i with
      | zero => exact ⟨0, if_pos (beq_iff_eq.mpr (Option.some.inj h)), Nat.le_refl _⟩
      | succ i =>
        obtain ⟨k, hk, -⟩ := ih h
        cases hlast.symm.trans hk

/-! ## Pieces, and how a text ends -/

theorem pieces_singleton (c : Char) (s : Text) : pieces [c] s = s.splitOn c := by
  have hgo : ∀ piece s, pieces.go [c] 0 piece s = List.splitOnPPrepend (· == c) s piece := by
    intro piece s
    induction s generalizing piece with
    | nil => rw [pieces.go, List.splitOnPPrepend_nil]
    | cons d s ih =>
      have hprefix : [c].isPrefixOf (d :: s) = (d == c) := by simp [List.isPrefixOf, BEq.comm]
      rw [pieces.go, hprefix, List.splitOnPPrepend_cons_eq_if, List.length_singleton, Nat.sub_self, ih, ih,
        List.splitOnPPrepend_nil_right]
  rw [pieces, hgo, List.splitOnPPrepend_nil_right, List.splitOn_eq_splitOnP]

theorem splitOn_last {s : Text} {c sep : Char} (h : s.getLast? = some c) (hc : c ≠ sep) :
    ∃ parts last, s.splitOn sep = parts ++ [last] ∧ last.getLast? = some c := by
  induction s with
  | nil => cases h
  | cons x xs ih =>
    rw [List.splitOn_cons_eq_if_modifyHead]
    by_cases hxs : xs = []
    · subst hxs
      obtain rfl : x = c := Option.some.inj h
      refine ⟨[], [x], ?_, rfl⟩
      simp [hc]
    · rw [List.getLast?_cons_of_ne_nil hxs] at h
      obtain ⟨parts, last, hparts, hlast⟩ := ih h
      have hne : last ≠ [] := by
        rintro rfl
        cases hlast
      rw [hparts]
      split
      · exact ⟨[] :: parts, last, rfl, hlast⟩
      · cases parts with
        | nil => exact ⟨[], x :: last, rfl, by rw [List.getLast?_cons_of_ne_nil hne, hlast]⟩
        | cons part parts => exact ⟨(x :: part) :: parts, last, rfl, hlast⟩

theorem notMem_of_mem_splitOn {sep : Char} {s piece : Text} (h : piece ∈ s.splitOn sep) : sep ∉ piece := by
  induction s generalizing piece with
  | nil => simp_all
  | cons c s ih =>
    rw [List.splitOn_cons_eq_if_modifyHead] at h
    split at h
    · rcases List.mem_cons.mp h with rfl | h
      · exact List.not_mem_nil
      · exact ih h
    · rename_i hc
      cases hs : s.splitOn sep with
      | nil => simp [hs] at h
      | cons first rest =>
        rw [hs, List.modifyHead_cons] at h
        rcases List.mem_cons.mp h with rfl | h
        · have hfirst := ih (hs ▸ List.mem_cons_self)
          have hne : sep ≠ c := fun heq => hc (beq_iff_eq.mpr heq.symm)
          simp [hne, hfirst]
        · exact ih (hs ▸ List.mem_cons_of_mem _ h)

theorem joinWith_eq_intercalate (sep : Text) (parts : List Text) : joinWith sep parts = sep.intercalate parts := by
  fun_induction joinWith sep parts with
  | case1 => rfl
  | case2 part => simp
  | case3 part rest hrest ih =>
    obtain ⟨next, rest, rfl⟩ := List.exists_cons_of_ne_nil hrest
    rw [ih, List.intercalate_cons_cons]

theorem joinWith_snoc (sep : Text) {parts : List Text} (h : parts ≠ []) (last : Text) :
    joinWith sep (parts ++ [last]) = joinWith sep parts ++ sep ++ last := by
  induction parts with
  | nil => exact absurd rfl h
  | cons part parts ih =>
    cases parts with
    | nil => rfl
    | cons next parts =>
      show part ++ sep ++ joinWith sep (next :: parts ++ [last])
        = part ++ sep ++ joinWith sep (next :: parts) ++ sep ++ last
      rw [ih (by simp)]
      simp only [List.append_assoc]

theorem suffix_joinWith (sep last : Text) (parts : List Text) : last <:+ joinWith sep (parts ++ [last]) := by
  by_cases hparts : parts = []
  · subst hparts
    exact List.suffix_rfl
  · rw [joinWith_snoc sep hparts]
    exact List.suffix_append _ _

theorem getLast?_of_suffix {s t : Text} (h : t <:+ s) (ht : t ≠ []) : s.getLast? = t.getLast? := by
  obtain ⟨r, rfl⟩ := h
  rw [List.getLast?_append, List.getLast?_eq_some_getLast ht, Option.some_or]

theorem getLast?_cons_or (c : Char) (s : Text) (before : Option Char) :
    (c :: s).getLast?.or before = s.getLast?.or (some c) := by
  cases s with
  | nil => rfl
  | cons x xs => simp [List.getLast?_eq_some_getLast]

/-! ## Replacement -/

theorem substitute_singleton (old new : Char) (s : Text) :
    substitute [old] [new] s = s.map fun c => if c = old then new else c := by
  have hgo : ∀ s, substitute.go [old] [new] 0 s = s.map fun c => if c = old then new else c := by
    intro s
    induction s with
    | nil => rfl
    | cons c s ih =>
      have hprefix : [old].isPrefixOf (c :: s) = (c == old) := by simp [List.isPrefixOf, BEq.comm]
      rw [substitute.go, hprefix, List.length_singleton, Nat.sub_self, ih, List.map_cons]
      by_cases hc : c = old
      · simp [hc]
      · simp [hc]
  exact hgo s

section

variable {old new : Text}

theorem mem_substitute {s : Text} {x : Char} (h : x ∈ substitute old new s) : x ∈ s ∨ x ∈ new := by
  have hgo : ∀ skip, x ∈ substitute.go old new skip s → x ∈ s ∨ x ∈ new := by
    clear h
    induction s with
    | nil =>
      intro skip hx
      cases skip <;> cases hx
    | cons c s ih =>
      intro skip hx
      cases skip with
      | succ skip => exact (ih skip hx).imp_left (List.mem_cons_of_mem c)
      | zero =>
        rw [substitute.go] at hx
        split at hx
        · rcases List.mem_append.mp hx with hx | hx
          · exact .inr hx
          · exact (ih _ hx).imp_left (List.mem_cons_of_mem c)
        · rcases List.mem_cons.mp hx with rfl | hx
          · exact .inl List.mem_cons_self
          · exact (ih _ hx).imp_left (List.mem_cons_of_mem c)
  exact hgo 0 h

/-- Either nothing is replaced, or what is put in can be seen. -/
theorem substitute_eq_or_mem (old : Text) {x : Char} (hx : x ∈ new) (s : Text) :
    substitute old new s = s ∨ x ∈ substitute old new s := by
  induction s with
  | nil => exact .inl rfl
  | cons c s ih =>
    unfold substitute at ih ⊢
    rw [substitute.go]
    split
    · exact .inr (List.mem_append_left _ hx)
    · exact ih.imp (congrArg (c :: ·)) (List.mem_cons_of_mem c)

theorem substitute_of_not_isInfix {s : Text} (h : ¬ old <:+: s) : substitute old new s = s := by
  induction s with
  | nil => rfl
  | cons c s ih =>
    rw [List.infix_cons_iff, not_or] at h
    unfold substitute at ih ⊢
    rw [substitute.go, if_neg (mt List.isPrefixOf_iff_prefix.mp h.1), ih h.2]

theorem substitute_append (hne : old ≠ []) (rest : Text) :
    substitute old new (old ++ rest) = new ++ substitute old new rest := by
  have hskip : ∀ skipped : Text,
      substitute.go old new skipped.length (skipped ++ rest) = substitute old new rest := by
    intro skipped
    induction skipped with
    | nil => rfl
    | cons c skipped ih => exact ih
  obtain ⟨c, cs, rfl⟩ := List.exists_cons_of_ne_nil hne
  have hstarts : (c :: cs).isPrefixOf (c :: (cs ++ rest)) = true :=
    List.isPrefixOf_iff_prefix.mpr (List.prefix_append (c :: cs) rest)
  show substitute.go (c :: cs) new 0 (c :: (cs ++ rest)) = _
  rw [substitute.go, if_pos hstarts]
  exact congrArg (new ++ ·) (hskip cs)

/-- A character that `old` does not hold keeps the texts on both sides of it apart. -/
theorem substitute_append_cons {sep : Char} (hsep : sep ∉ old) (hne : old ≠ []) (s t : Text) :
    substitute old new (s ++ sep :: t) = substitute old new s ++ sep :: substitute old new t := by
  have hstart : ∀ s, old.isPrefixOf (s ++ sep :: t) = old.isPrefixOf s := by
    intro s
    rw [Bool.eq_iff_iff, List.isPrefixOf_iff_prefix, List.isPrefixOf_iff_prefix]
    refine ⟨fun h => ?_, fun h => h.trans (List.prefix_append _ _)⟩
    rcases List.prefix_or_prefix_of_prefix h (List.prefix_append _ _) with h' | ⟨more, rfl⟩
    · exact h'
    · rw [List.prefix_append_right_inj] at h
      cases more with
      | nil => simp
      | cons c more =>
        obtain rfl := (List.cons_prefix_cons.mp h).1
        exact absurd (List.mem_append_right _ List.mem_cons_self) hsep
  have hgo : ∀ skip, skip ≤ s.length →
      substitute.go old new skip (s ++ sep :: t) = substitute.go old new skip s ++ sep :: substitute old new t := by
    induction s with
    | nil =>
      intro skip hskip
      obtain rfl := Nat.le_zero.mp hskip
      have hnot : old.isPrefixOf (sep :: t) = false := by
        rw [← List.nil_append (sep :: t), hstart, Bool.eq_false_iff]
        exact fun h => hne (List.prefix_nil.mp (List.isPrefixOf_iff_prefix.mp h))
      show substitute.go old new 0 (sep :: t) = sep :: substitute old new t
      rw [substitute.go, hnot]
      rfl
    | cons c s ih =>
      intro skip hskip
      cases skip with
      | succ skip => exact ih skip (Nat.le_of_succ_le_succ hskip)
      | zero =>
        have hsame := hstart (c :: s)
        rw [List.cons_append] at hsame ⊢
        rw [substitute.go, substitute.go, hsame]
        split
        · rename_i hold
          have hlength := (List.isPrefixOf_iff_prefix.mp hold).length_le
          rw [List.length_cons] at hlength
          rw [ih _ (by omega), List.append_assoc]
        · rw [ih 0 (Nat.zero_le _), List.cons_append]
  exact hgo 0 (Nat.zero_le _)

end

end StyleCheck.Text
