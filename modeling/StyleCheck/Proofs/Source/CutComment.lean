/-
  StyleCheck.Proofs.Source.CutComment — where a curly bracket comes from that is left when comments are taken out.

  1. A line is cut at its comment, or left as it is wherever it ends (`dropLineComment_shows`).
  2. Whether a block comment is taken out, and with which blanks, is settled by what follows it up to a bracket
     (`remaining?_bracket`). So the bracket stands on the line, and what is made of the line up to there does not depend
     on what follows. If the line ends right before the bracket, blanks after a comment get lost with it
     (`dropBlockComments_shows`).

  What stands after the bracket stays as it is if it holds no slash.
-/

import StyleCheck.Proofs.Source.CutRawString
import StyleCheck.Proofs.Source.LineComment

namespace StyleCheck

/-! ## Blanks at the end -/

namespace Text

theorem stripRight_of_blank {s : Text} (h : ∀ d ∈ s, isBlank d = true) : stripRight s = [] := by
  unfold stripRight trimRight
  rw [List.reverse_eq_nil_iff, List.dropWhile_eq_nil_iff]
  intro d hd
  exact h d (List.mem_reverse.mp hd)

theorem stripRight_cons_congr {s t : Text} (d : Char) (h : stripRight s = stripRight t) :
    stripRight (d :: s) = stripRight (d :: t) := by
  unfold stripRight trimRight at *
  rw [List.reverse_cons, List.reverse_cons, List.dropWhile_append, List.dropWhile_append, List.reverse_inj.mp h]

theorem exists_stripRight (s : Text) : ∃ blanks, s = stripRight s ++ blanks ∧ allBlank blanks = true := by
  refine ⟨(s.reverse.takeWhile isBlank).reverse, ?_, ?_⟩
  · unfold stripRight trimRight
    rw [← List.reverse_append, List.takeWhile_append_dropWhile, List.reverse_reverse]
  · unfold allBlank
    rw [List.all_reverse]
    exact List.all_takeWhile

theorem allBlank_of_stripRight {s : Text} (h : stripRight s = []) : allBlank s = true := by
  obtain ⟨blanks, hs, hblanks⟩ := exists_stripRight s
  rw [h, List.nil_append] at hs
  rw [hs]
  exact hblanks

end Text

namespace Comment

variable {c : Char}

/-! ## Line comments -/

theorem dropLineComment_of_none {line : Text} (h : ¬ "//".toList <:+: line) : dropLineComment line = line := by
  rw [dropLineComment, Text.locate?_eq_none_of_not_isInfix (by decide) h]

/-- The first mark of a line is the first one whatever follows. -/
theorem locate?_mark_append {u : Text} {i : Nat} (h : Text.locate? "//".toList u = some i) (v : Text) :
    Text.locate? "//".toList (u ++ v) = some i ∧ (u ++ v).take i = u.take i := by
  have hlength := Text.locate?_length h
  obtain ⟨⟨rest, hsplit⟩, hends⟩ := Text.locate?_eq_some (by decide) h
  have hlong := Text.locate?_of_ends (by decide) hends (rest ++ v)
  rw [← List.append_assoc "//".toList, ← List.append_assoc (u.take i), ← hsplit, List.length_take,
    Nat.min_eq_left (by omega)] at hlong
  exact ⟨hlong, List.take_append_of_le_length (by omega)⟩

/-- What is left when a line is cut at a mark is shorter than the line. -/
theorem stripRight_take_ne {line : Text} {i : Nat} (h : Text.locate? "//".toList line = some i) :
    Text.stripRight (line.take i) ≠ line := by
  intro heq
  have hmark := Text.locate?_length h
  have hshort := (Text.stripRight_isPrefix (line.take i)).length_le
  have htwo : "//".toList.length = 2 := rfl
  rw [heq, List.length_take] at hshort
  omega

/-- A line that is left as it is can be cut anywhere. -/
theorem dropLineComment_front {u v : Text} (h : dropLineComment (u ++ v) = u ++ v) : dropLineComment u = u := by
  cases hmark : Text.locate? "//".toList u with
  | none => rw [dropLineComment, hmark]
  | some i =>
    obtain ⟨hlong, htake⟩ := locate?_mark_append hmark v
    rw [dropLineComment, hlong] at h
    simp only at h
    split at h
    · rename_i hstring
      rw [htake] at hstring
      rw [dropLineComment, hmark]
      simp only [if_pos hstring]
    · exact absurd h (stripRight_take_ne hlong)

theorem shows_of_left {u v : Text} (h : dropLineComment (u ++ c :: v) = u ++ c :: v) : Shows dropLineComment c u u where
  before := dropLineComment_front h
  upTo := by
    refine dropLineComment_front (v := v) ?_
    rw [List.append_assoc, List.singleton_append]
    exact h

/-- A bracket that is left when a line is cut at its comment. -/
theorem dropLineComment_shows {line x y : Text} (h : dropLineComment line = x ++ c :: y) :
    ∃ r, line = x ++ c :: r ∧ Shows dropLineComment c x x ∧ ('/' ∉ r → r = y) := by
  by_cases hleft : dropLineComment line = line
  · rw [hleft] at h
    rw [h] at hleft
    exact ⟨y, h, shows_of_left hleft, fun _ => rfl⟩
  · cases hmark : Text.locate? "//".toList line with
    | none =>
      rw [dropLineComment, hmark] at hleft
      exact absurd rfl hleft
    | some i =>
      obtain ⟨⟨rest, hsplit⟩, hends⟩ := Text.locate?_eq_some (by decide) hmark
      have hcut : Text.stripRight (line.take i) = x ++ c :: y := by
        rw [dropLineComment, hmark] at h hleft
        simp only at h hleft
        split at h
        · rename_i hstring
          rw [if_pos hstring] at hleft
          exact absurd rfl hleft
        · exact h
      obtain ⟨blanks, hblanks⟩ := Text.stripRight_isPrefix (line.take i)
      rw [hcut] at hblanks
      have hwhole : line = x ++ c :: (y ++ blanks ++ ("//".toList ++ rest)) := by
        rw [hsplit, ← hblanks]
        simp
      refine ⟨_, hwhole, ?_, fun hslash => absurd (by simp) hslash⟩
      have hfree : ¬ "//".toList <:+: x ++ c :: (y ++ blanks) := by
        have hnot := hends.not_isInfix (by decide)
        rw [← hblanks] at hnot
        simpa using hnot
      exact shows_of_left (dropLineComment_of_none hfree)

/-! ## Block comments -/

def comment (body : Text) : Text := "/*".toList ++ (body ++ "*/".toList)

/-- What is left after a comment with `before` before it and `rest` after it, if it is to be taken out. -/
def remaining? (before rest : Text) : Option Text :=
  if rest.all Text.isBlank then some []
  else if before.isEmpty then some (rest.dropWhile Text.isBlank)
  else if startsWord rest then none
  else some rest

theorem afterClosing?_of_ends {body : Text} (h : Text.Ends "*/".toList body) (rest : Text) :
    afterClosing? (body ++ ("*/".toList ++ rest)) = some rest := by
  induction body with
  | nil => rfl
  | cons d body ih =>
    rw [Text.Ends, List.dropLast_append_of_ne_nil (by decide), List.cons_append, List.infix_cons_iff, not_or] at h
    have hopen : ¬ (d == '*' && (body ++ ("*/".toList ++ rest)).head? == some '/') = true := by
      intro hclose
      rw [Bool.and_eq_true, beq_iff_eq, beq_iff_eq] at hclose
      obtain ⟨rfl, hslash⟩ := hclose
      cases body with
      | nil => cases hslash
      | cons e body =>
        obtain rfl : e = '/' := by simpa using hslash
        exact h.1 ⟨body ++ ['*'], rfl⟩
    rw [List.cons_append, afterClosing?, if_neg hopen]
    refine ih ?_
    rw [Text.Ends, List.dropLast_append_of_ne_nil (by decide)]
    exact h.2

theorem cutBlock?_comment {before body : Text} (hbefore : ∀ d ∈ before, Text.isBlank d = true)
    (hbody : Text.Ends "*/".toList body) (rest : Text) :
    cutBlock? (before ++ (comment body ++ rest)) = remaining? before rest := by
  have hshape : comment body ++ rest = '/' :: '*' :: (body ++ ("*/".toList ++ rest)) := by simp [comment]
  have hslash : Text.isBlank '/' = false := by decide
  have hdrop : (before ++ (comment body ++ rest)).dropWhile Text.isBlank = comment body ++ rest := by
    rw [List.dropWhile_append_of_pos hbefore, hshape, List.dropWhile_cons_of_neg (by simp [hslash])]
  have htake : (before ++ (comment body ++ rest)).takeWhile Text.isBlank = before := by
    rw [List.takeWhile_append_of_pos hbefore, hshape, List.takeWhile_cons_of_neg (by simp [hslash]), List.append_nil]
  have hafter : afterBlock? (comment body ++ rest) = some rest := by
    rw [hshape]
    exact afterClosing?_of_ends hbody rest
  simp only [cutBlock?, hdrop, htake, hafter, remaining?]
  cases before <;> rfl

theorem exists_comment {s rest : Text} (h : cutBlock? s = some rest) :
    ∃ before body rest', s = before ++ (comment body ++ rest') ∧ (∀ d ∈ before, Text.isBlank d = true) ∧
      Text.Ends "*/".toList body := by
  obtain ⟨before, body, after, rfl, hbefore, hbody, -⟩ := cutBlock?_eq_some h
  exact ⟨before, body, after ++ rest, by simp [comment], hbefore, hbody⟩

theorem dropBlockComments_of_some {s rest : Text} (h : cutBlock? s = some rest) :
    dropBlockComments s = dropBlockComments rest := by
  rw [dropBlockComments]
  split
  · rename_i hsome
    rw [h] at hsome
    cases hsome
    rfl
  · rename_i hnone
    rw [h] at hnone
    cases hnone

/-! ## Brackets beside block comments -/

theorem startsWord_append_cons (hc : IsCurly c) (u v : Text) : startsWord (u ++ c :: v) = startsWord u := by
  cases u with
  | nil => exact hc.isWord
  | cons => rfl

theorem all_isBlank_of_startsWord {s : Text} (h : startsWord s = true) : s.all Text.isBlank = false := by
  cases s with
  | nil => cases h
  | cons d s =>
    have hd : Text.isBlank d = false := Text.isBlank_of_isWord h
    simp [hd]

/-- What follows a comment goes beyond a bracket, so it is not blank, and whether it is a word is seen before it. -/
theorem remaining?_bracket (hc : IsCurly c) (before u v : Text) :
    remaining? before (u ++ c :: v) =
      if before.isEmpty then some (u.dropWhile Text.isBlank ++ c :: v)
      else if startsWord u then none
      else some (u ++ c :: v) := by
  have hvisible : (u ++ c :: v).all Text.isBlank = false := by simp [hc.isBlank]
  rw [remaining?, hvisible, if_neg Bool.false_ne_true, Text.dropWhile_append_stop hc.isBlank, startsWord_append_cons hc]

/-- A comment that stays stays if the line ends before the bracket. -/
theorem remaining?_eq_none (hc : IsCurly c) {before u v : Text} (h : remaining? before (u ++ c :: v) = none) :
    remaining? before u = none := by
  rw [remaining?_bracket hc] at h
  split at h
  · cases h
  · split at h
    · rename_i hbefore hword
      rw [remaining?, all_isBlank_of_startsWord hword, if_neg Bool.false_ne_true, if_neg hbefore, if_pos hword]
    · cases h

/-- A comment that is taken out is taken out wherever the line ends after the bracket. If it ends before, the blanks
there are taken out as well. -/
theorem remaining?_eq_some (hc : IsCurly c) {before u v rest : Text} (h : remaining? before (u ++ c :: v) = some rest) :
    ∃ w, rest = w ++ c :: v ∧ remaining? before (u ++ [c]) = some (w ++ [c]) ∧
      (remaining? before u = some w ∨ (∀ d ∈ w, Text.isBlank d = true) ∧ remaining? before u = some []) := by
  have hblank {w : Text} (hw : w.Sublist u) (hu : u.all Text.isBlank = true) :
      (∀ d ∈ w, Text.isBlank d = true) ∧ remaining? before u = some [] :=
    ⟨fun d hd => List.all_eq_true.mp hu d (hw.subset hd), by rw [remaining?, if_pos hu]⟩
  rw [remaining?_bracket hc] at h
  rw [remaining?_bracket hc]
  split at h
  · rename_i hbefore
    cases h
    refine ⟨_, rfl, by rw [if_pos hbefore], ?_⟩
    by_cases hu : u.all Text.isBlank = true
    · exact .inr (hblank (List.dropWhile_sublist _) hu)
    · exact .inl (by rw [remaining?, if_neg hu, if_pos hbefore])
  · rename_i hbefore
    split at h
    · cases h
    · rename_i hword
      cases h
      refine ⟨u, rfl, by rw [if_neg hbefore, if_neg hword], ?_⟩
      by_cases hu : u.all Text.isBlank = true
      · exact .inr (hblank (List.Sublist.refl u) hu)
      · exact .inl (by rw [remaining?, if_neg hu, if_neg hbefore, if_neg hword])

/-- If no comment is taken out at the beginning of a line, none is if the line ends before or after a bracket. -/
theorem cutBlock?_front (hc : IsCurly c) {u v : Text} (h : cutBlock? (u ++ c :: v) = none) :
    cutBlock? u = none ∧ cutBlock? (u ++ [c]) = none := by
  constructor
  · rw [Option.eq_none_iff_forall_ne_some]
    intro rest hcut
    obtain ⟨before, body, rest', rfl, hbefore, hbody⟩ := exists_comment hcut
    rw [cutBlock?_comment hbefore hbody] at hcut
    rw [List.append_assoc, List.append_assoc, cutBlock?_comment hbefore hbody] at h
    rw [remaining?_eq_none hc h] at hcut
    cases hcut
  · rw [Option.eq_none_iff_forall_ne_some]
    intro rest hcut
    obtain ⟨before, body, rest', hsplit, hbefore, hbody⟩ := exists_comment hcut
    rw [← List.append_assoc] at hsplit
    rcases Bracket.cut_append hsplit.symm with ⟨w, rfl, rfl⟩ | ⟨w, hw, hnil⟩
    · rw [List.append_assoc, List.append_assoc, cutBlock?_comment hbefore hbody, remaining?_bracket hc] at hcut h
      split at hcut
      · rename_i hempty
        rw [if_pos hempty] at h
        cases h
      · rename_i hempty
        rw [if_neg hempty] at h
        split at hcut
        · cases hcut
        · rename_i hword
          rw [if_neg hword] at h
          cases h
    · -- the comment itself ends in a slash
      obtain ⟨rfl, -⟩ := List.append_eq_nil_iff.mp hnil.symm
      have hends : before ++ comment body = before ++ ("/*".toList ++ (body ++ ['*'])) ++ ['/'] := by simp [comment]
      rw [hends] at hw
      obtain rfl : '/' = c := List.singleton_inj.mp (List.append_inj_right' hw rfl)
      rcases hc with hc | hc <;> exact absurd hc (by decide)

theorem remaining?_suffix {before rest left : Text} (h : remaining? before rest = some left) : left <:+ rest := by
  unfold remaining? at h
  split at h
  · cases h
    exact List.nil_suffix
  · split at h
    · cases h
      exact List.dropWhile_suffix _
    · split at h
      · cases h
      · cases h
        exact List.suffix_rfl

theorem dropBlockComments_of_blank {s : Text} (h : ∀ d ∈ s, Text.isBlank d = true) : dropBlockComments s = s := by
  refine dropBlockComments_eq_self fun hin => ?_
  have hslash := h '/' (hin.subset (by decide))
  cases hslash

/-- A bracket that is left when block comments are taken out. -/
theorem dropBlockComments_shows (hc : IsCurly c) {line x y : Text} (h : dropBlockComments line = x ++ c :: y) :
    ∃ a r, line = a ++ c :: r ∧ Seen dropBlockComments c a x ∧ ('/' ∉ r → r = y) := by
  fun_induction dropBlockComments line generalizing x with
  | case1 line rest hcut ih =>
    obtain ⟨a, r, rfl, ⟨hbefore, hupTo⟩, hrest⟩ := ih h
    obtain ⟨before, body, rest', rfl, hblanks, hbody⟩ := exists_comment hcut
    rw [cutBlock?_comment hblanks hbody] at hcut
    obtain ⟨m, rfl⟩ := remaining?_suffix hcut
    rw [← List.append_assoc] at hcut
    obtain ⟨w, hw, hcutUpTo, hcutBefore⟩ := remaining?_eq_some hc hcut
    obtain rfl : a = w := List.append_cancel_right hw
    refine ⟨before ++ (comment body ++ (m ++ a)), r, by simp, ⟨?_, ?_⟩, hrest⟩
    · rw [← hbefore]
      rw [← cutBlock?_comment hblanks hbody] at hcutBefore
      rcases hcutBefore with hcutBefore | ⟨hblank, hcutBefore⟩
      · rw [dropBlockComments_of_some hcutBefore]
      · rw [dropBlockComments_of_some hcutBefore, dropBlockComments_of_blank hblank, Text.stripRight_of_blank hblank,
          dropBlockComments_of_blank (fun d hd => by cases hd)]
        rfl
    · rw [← hupTo, List.append_assoc, List.append_assoc]
      rw [← cutBlock?_comment hblanks hbody] at hcutUpTo
      exact dropBlockComments_of_some hcutUpTo
  | case2 => simp at h
  | case3 d line hcut ih =>
    cases x with
    | nil =>
      obtain ⟨rfl, rfl⟩ := List.cons.inj h
      refine ⟨[], line, rfl, ⟨?_, ?_⟩, fun hslash => ?_⟩
      · rw [dropBlockComments_of_blank (fun d hd => by cases hd)]
      · refine dropBlockComments_eq_self fun hin => ?_
        have hlength := hin.length_le
        exact absurd hlength (Nat.not_succ_le_self 1)
      · rw [dropBlockComments_eq_self fun hin => hslash (hin.subset (by decide))]
    | cons e x =>
      rw [List.cons_append] at h
      obtain ⟨rfl, htail⟩ := List.cons.inj h
      obtain ⟨a, r, rfl, ⟨hbefore, hupTo⟩, hrest⟩ := ih htail
      obtain ⟨hcutBefore, hcutUpTo⟩ := cutBlock?_front hc (u := d :: a) hcut
      refine ⟨d :: a, r, rfl, ⟨?_, ?_⟩, hrest⟩
      · rw [dropBlockComments_of_none hcutBefore]
        exact Text.stripRight_cons_congr d hbefore
      · rw [List.cons_append] at hcutUpTo ⊢
        rw [dropBlockComments_of_none hcutUpTo, hupTo]
        rfl

/-- A line without a slash has no comments. -/
theorem drop_of_notMem {line : Text} (h : '/' ∉ line) : drop line = line := by
  have hmark : ¬ "//".toList <:+: line := fun hin => h (hin.subset (by decide))
  have hopen : ¬ "/*".toList <:+: line := fun hin => h (hin.subset (by decide))
  rw [drop, dropLineComment_of_none hmark, dropBlockComments_eq_self hopen]

end Comment

end StyleCheck
