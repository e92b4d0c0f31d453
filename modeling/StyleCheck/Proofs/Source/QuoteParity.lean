/-
  StyleCheck.Proofs.Source.QuoteParity — two tests for a mark that stands in a string.

  Whether the mark of a line comment stands in a string is decided twice: when the line is cut at the mark
  (`Literal.endsInString`), and when the comment is read for its style (`Rule.CommentStyle.inQuotes`). Both
  count the double quotes before the mark. The first masks pairs of backslashes and leaves out a quote after
  a single one; the second takes out every backslash with the character after it. That comes to the same
  (`count_withoutEscapes`). But only the first leaves out the quote of a character literal, `'"'`, so the two
  differ by the number of these (`endsInString_eq`), and they agree where it is even:
  `mark_tests_agree_iff_quoted_quotes_are_even`.
-/

import StyleCheck.Proofs.Source.IncludeView
import StyleCheck.Rule.CommentStyle

namespace StyleCheck

/-! ## Counting -/

namespace Text

theorem occurrences_cons {needle : Text} {c : Char} {s : Text} (h : needle.isPrefixOf (c :: s) = false) :
    occurrences needle (c :: s) = occurrences needle s := by
  rw [occurrences, occurrences.go, h, if_neg Bool.false_ne_true]
  rfl

theorem occurrences_singleton (c : Char) (s : Text) : occurrences [c] s = s.count c := by
  have hgo : ∀ s, occurrences.go [c] 0 s = s.count c := by
    intro s
    induction s with
    | nil => rfl
    | cons d s ih =>
      have hprefix : [c].isPrefixOf (d :: s) = (d == c) := by simp [List.isPrefixOf, BEq.comm]
      rw [occurrences.go, hprefix, List.length_singleton, Nat.sub_self, ih, List.count_cons]
      split <;> omega
  exact hgo s

theorem occurrences_eq_zero {c : Char} {needle s : Text} (h : c ∉ s) : occurrences (c :: needle) s = 0 := by
  induction s with
  | nil => rfl
  | cons d s ih =>
    rw [List.mem_cons, not_or] at h
    rw [occurrences_cons (by simp [List.isPrefixOf, h.1]), ih h.2]

section

variable {needle : Text} {f : Char → Char} (hf : ∀ c ∈ needle, ∀ d, f d = c ↔ d = c)

include hf in
theorem isPrefixOf_map (s : Text) : needle.isPrefixOf (s.map f) = needle.isPrefixOf s := by
  induction needle generalizing s with
  | nil => simp [List.isPrefixOf]
  | cons c needle ih =>
    cases s with
    | nil => rfl
    | cons d s =>
      have hc : (c == f d) = (c == d) := by
        rw [Bool.eq_iff_iff, beq_iff_eq, beq_iff_eq, eq_comm, hf c List.mem_cons_self d, eq_comm]
      rw [List.map_cons, List.isPrefixOf, List.isPrefixOf, hc, ih fun c hc => hf c (List.mem_cons_of_mem _ hc)]

include hf in
/-- A text occurs as often as before if other characters are changed into others. -/
theorem occurrences_map (s : Text) : occurrences needle (s.map f) = occurrences needle s := by
  have hgo : ∀ skip s, occurrences.go needle skip (s.map f) = occurrences.go needle skip s := by
    intro skip s
    induction s generalizing skip with
    | nil => cases skip <;> rfl
    | cons c s ih =>
      cases skip with
      | zero =>
        have hprefix := isPrefixOf_map hf (c :: s)
        rw [List.map_cons] at hprefix
        rw [List.map_cons, occurrences.go, occurrences.go, hprefix, ih, ih]
      | succ skip => exact ih skip
  exact hgo 0 s

end

end Text

/-! ## Escaped quotes -/

/-- A text is read from the left: a backslash is one of a pair, stands before another character, or is the last
character of the text. -/
@[elab_as_elim]
theorem Text.escapes_induction {motive : Text → Prop} (nil : motive []) (last : motive ['\\'])
    (pair : ∀ s, motive s → motive ('\\' :: '\\' :: s))
    (escape : ∀ c s, c ≠ '\\' → motive s → motive ('\\' :: c :: s))
    (plain : ∀ c s, c ≠ '\\' → motive s → motive (c :: s)) (s : Text) : motive s := by
  fun_induction Rule.CommentStyle.withoutEscapes s with
  | case1 c s hc ih =>
    have hfeed : c = '\n' := by simpa using hc
    exact escape c s (hfeed ▸ by decide) ih
  | case2 c s _ ih =>
    by_cases hc : c = '\\'
    · exact hc ▸ pair s ih
    · exact escape c s hc ih
  | case3 c s hpair ih =>
    by_cases hc : c = '\\'
    · cases s with
      | nil => exact hc ▸ last
      | cons d s => exact absurd rfl (hpair d s hc)
    · exact plain c s hc ih
  | case4 => exact nil

namespace Rule.CommentStyle

theorem withoutEscapes_escape {c : Char} (hc : c ≠ '\n') (s : Text) :
    withoutEscapes ('\\' :: c :: s) = withoutEscapes s := by
  rw [withoutEscapes, if_neg (by simpa using hc)]

theorem withoutEscapes_cons {c : Char} (hc : c ≠ '\\') (s : Text) :
    withoutEscapes (c :: s) = c :: withoutEscapes s := by
  rw [withoutEscapes]
  intro _ _ h
  exact absurd h hc

theorem withoutEscapes_of_notMem {s : Text} (h : '\\' ∉ s) : withoutEscapes s = s := by
  induction s with
  | nil => rfl
  | cons c s ih =>
    rw [List.mem_cons, not_or] at h
    rw [withoutEscapes_cons (Ne.symm h.1), ih h.2]

end Rule.CommentStyle

namespace Literal

open Rule.CommentStyle

def masked (s : Text) : Text := Text.substitute "\\\\".toList "XX".toList s

theorem masked_pair (s : Text) : masked ('\\' :: '\\' :: s) = 'X' :: 'X' :: masked s := rfl

theorem masked_cons {c : Char} (hc : c ≠ '\\') (s : Text) : masked (c :: s) = c :: masked s := by
  have hprefix : "\\\\".toList.isPrefixOf (c :: s) = false := by simp [List.isPrefixOf, Ne.symm hc]
  rw [masked, Text.substitute, Text.substitute.go, hprefix, if_neg Bool.false_ne_true]
  rfl

theorem masked_escape {c : Char} (hc : c ≠ '\\') (s : Text) : masked ('\\' :: c :: s) = '\\' :: c :: masked s := by
  have hprefix : "\\\\".toList.isPrefixOf ('\\' :: c :: s) = false := by simp [List.isPrefixOf, Ne.symm hc]
  rw [← masked_cons hc, masked, Text.substitute, Text.substitute.go, hprefix, if_neg Bool.false_ne_true]
  rfl

/-- Masking changes backslashes only. -/
theorem occurrences_masked {needle : Text} (hslash : '\\' ∉ needle) (hmask : 'X' ∉ needle) (s : Text) :
    Text.occurrences needle (masked s) = Text.occurrences needle s := by
  let mask : Char → Char := fun c => if c = '\\' then 'X' else c
  have hmap : (masked s).map mask = s.map mask := by
    induction s using Text.escapes_induction with
    | nil => rfl
    | last => rfl
    | pair s ih =>
      rw [masked_pair, List.map_cons, List.map_cons, ih]
      rfl
    | escape c s hc ih => rw [masked_escape hc, List.map_cons, List.map_cons, ih, List.map_cons, List.map_cons]
    | plain c s hc ih => rw [masked_cons hc, List.map_cons, ih, List.map_cons]
  have hother : ∀ c ∈ needle, ∀ d, mask d = c ↔ d = c := by
    intro c hc d
    have hcslash : c ≠ '\\' := fun h => hslash (h ▸ hc)
    have hcmask : c ≠ 'X' := fun h => hmask (h ▸ hc)
    by_cases hd : d = '\\'
    · simp [mask, hd, Ne.symm hcslash, Ne.symm hcmask]
    · simp [mask, hd]
  rw [← Text.occurrences_map hother, hmap, Text.occurrences_map hother]

/-- A quote is left when escapes are taken out, or else it stands after a backslash that is not one of a pair. -/
theorem count_withoutEscapes (s : Text) :
    (withoutEscapes s).count '"' + Text.occurrences "\\\"".toList (masked s) = s.count '"' := by
  have hskip : ∀ {c : Char}, c ≠ '\\' → ∀ s,
      Text.occurrences "\\\"".toList (c :: s) = Text.occurrences "\\\"".toList s := by
    intro c hc s
    exact Text.occurrences_cons (by simp [List.isPrefixOf, Ne.symm hc])
  induction s using Text.escapes_induction with
  | nil => rfl
  | last => rfl
  | pair s ih =>
    rw [masked_pair, hskip (by decide), hskip (by decide), withoutEscapes_escape (by decide), ih]
    simp
  | escape c s hc ih =>
    rw [masked_escape hc]
    by_cases hquote : c = '"'
    · subst hquote
      have hone : Text.occurrences "\\\"".toList ('\\' :: '"' :: masked s)
          = 1 + Text.occurrences "\\\"".toList (masked s) := rfl
      rw [hone, withoutEscapes_escape (by decide)]
      simp only [List.count_cons_self, List.count_cons_of_ne (show '\\' ≠ '"' by decide)]
      omega
    · rw [Text.occurrences_cons (by simp [List.isPrefixOf, Ne.symm hquote]), hskip hc]
      rw [List.count_cons_of_ne (by decide), List.count_cons_of_ne hquote, ← ih]
      by_cases hfeed : c = '\n'
      · subst hfeed
        rfl
      · rw [withoutEscapes_escape hfeed]
  | plain c s hc ih =>
    rw [masked_cons hc, hskip hc, withoutEscapes_cons hc, List.count_cons, List.count_cons, ← ih]
    omega

/-- Both tests count the same quotes, but for those of character literals. -/
theorem endsInString_eq (s : Text) :
    endsInString s
      = (((withoutEscapes s).count '"' + Text.occurrences "'\"'".toList s) % 2 == 1) := by
  have hquotes : Text.occurrences "\"".toList (masked s) = s.count '"' := by
    rw [occurrences_masked (by decide) (by decide)]
    exact Text.occurrences_singleton '"' s
  have hquoted : Text.occurrences "'\"'".toList (masked s) = Text.occurrences "'\"'".toList s :=
    occurrences_masked (by decide) (by decide) s
  have hcount := count_withoutEscapes s
  show ((Text.occurrences "\"".toList (masked s) + Text.occurrences "\\\"".toList (masked s)
    + Text.occurrences "'\"'".toList (masked s)) % 2 == 1) = _
  rw [hquotes, hquoted, ← hcount, Bool.eq_iff_iff, beq_iff_eq, beq_iff_eq]
  omega

/-- Without escapes and single quotes, an even number of quotes tells that a text does not end in a string. -/
theorem endsInString_of_even {s : Text} (hsingle : '\'' ∉ s) (hslash : '\\' ∉ s) (heven : s.count '"' % 2 = 0) :
    endsInString s = false := by
  have hnone : Text.occurrences "'\"'".toList s = 0 := Text.occurrences_eq_zero hsingle
  rw [endsInString_eq, withoutEscapes_of_notMem hslash, hnone, Nat.add_zero, heven]
  rfl

end Literal

/-! ## Marks -/

/-- A line is cut at its first mark just if the mark does not stand in a string. -/
theorem Comment.dropLineComment_eq_iff {line : Text} {column : Nat}
    (h : Text.locate? "//".toList line = some column) :
    dropLineComment line = Text.stripRight (line.take column) ↔ Literal.endsInString (line.take column) = false := by
  have hdrop : dropLineComment line
      = if Literal.endsInString (line.take column) then line else Text.stripRight (line.take column) := by
    rw [dropLineComment, h]
  rw [hdrop]
  constructor
  · intro hcut
    rw [Bool.eq_false_iff]
    intro hstring
    rw [if_pos hstring] at hcut
    -- a line that is cut has lost the mark at least
    have hmark := Text.locate?_length h
    have hshort := (Text.stripRight_isPrefix (line.take column)).length_le
    have hwhole := congrArg List.length hcut
    have htwo : "//".toList.length = 2 := rfl
    rw [List.length_take] at hshort
    omega
  · intro hcode
    rw [hcode, if_neg Bool.false_ne_true]

namespace Rule.CommentStyle

/-- The mark after `before` is passed over just if nothing can be found about any comment there. -/
theorem inQuotes_eq_false_iff {before : Text} (h : Text.Ends "//".toList before) :
    inQuotes before = false ↔ ∃ text n nextStart, findings (before ++ ("//".toList ++ text)) n nextStart ≠ [] := by
  have hfindings : ∀ text, Text.locate? "//".toList (before ++ ("//".toList ++ text)) = some before.length :=
    Text.locate?_of_ends (by decide) h
  constructor
  · intro hcode
    refine ⟨['x'], 0, 0, ?_⟩
    have hword : (wordAtMark.opens ("//".toList ++ ['x']) && !documentation.opens ("//".toList ++ ['x'])) = true := by
      decide +kernel
    rw [findings, hfindings]
    simp only
    rw [List.take_left, List.drop_left, hcode, if_neg Bool.false_ne_true, hword]
    intro hnil
    have hlast := (List.append_eq_nil_iff.mp hnil).2
    cases hlast
  · rintro ⟨text, n, nextStart, hsome⟩
    rw [Bool.eq_false_iff]
    intro hquotes
    apply hsome
    rw [findings, hfindings]
    simp only
    rw [List.take_left, if_pos hquotes]

/-- At the first mark of a line, the rule for comments and the cutting of comments agree on whether it stands in
a string just if the number of character literals that hold a double quote, before the mark, is even. -/
theorem mark_tests_agree_iff_quoted_quotes_are_even (line : Text) (column : Nat)
    (hmark : Text.locate? "//".toList line = some column) :
    ((inQuotes (line.take column) = false ↔
        Comment.dropLineComment line = Text.stripRight (line.take column)) ↔
      Text.occurrences "'\"'".toList (line.take column) % 2 = 0) ∧
    (inQuotes (line.take column) = false ↔
      ∃ text n nextStart, findings (line.take column ++ ("//".toList ++ text)) n nextStart ≠ []) := by
  refine ⟨?_, inQuotes_eq_false_iff (Text.locate?_eq_some (by decide) hmark).2⟩
  rw [Comment.dropLineComment_eq_iff hmark, Literal.endsInString_eq, inQuotes]
  simp only [beq_eq_false_iff_ne]
  omega

/-- A double quote as a character: the line is cut at the mark, but the comment is not read. -/
theorem mark_tests_agree_iff_quoted_quotes_are_even_character :
    Comment.dropLineComment "char c = '\"';  // TODO: say why.".toList = "char c = '\"';".toList ∧
    ∀ text n nextStart, findings ("char c = '\"';  ".toList ++ ("//".toList ++ text)) n nextStart = [] := by
  have hmark : Text.locate? "//".toList "char c = '\"';  // TODO: say why.".toList = some 15 := by decide
  have hcut : Comment.dropLineComment "char c = '\"';  // TODO: say why.".toList = "char c = '\"';".toList := by decide
  obtain ⟨hagree, hread⟩ := mark_tests_agree_iff_quoted_quotes_are_even _ 15 hmark
  have hdiffer := hagree.not.mpr (by decide)
  refine ⟨hcut, fun text n nextStart => ?_⟩
  by_contra hsome
  exact hdiffer ⟨fun _ => hcut, fun _ => hread.mpr ⟨text, n, nextStart, hsome⟩⟩

end Rule.CommentStyle

end StyleCheck
