/-
  StyleCheck.Proofs.Source.LineComment — line comments leave nothing behind.

  1. After the line has been cut at its first mark, block comments are taken out of what is left, with blanks
     before or after them, and texts that stood apart meet. No mark comes about. Where blanks are taken from
     the left, the text on the right does not begin with a slash: the slash that closes the comment stands
     before it, and the two would be a mark. Where they are not, a slash on the left would make a mark with the
     one that opens the comment. So a text that does not begin with a slash does not begin with one afterwards
     (`cutBlock?_head`, `dropBlockComments_head`): `no_line_comment_is_left`.
  2. What a trailing comment says is not seen. Literals are emptied before comments are cut off, so the comment's
     quotes are paired with others too. But where the strings of the code are closed (`Clear`), a quote in the
     comment finds its partner in the comment or not at all, and the code before the mark is emptied as
     if nothing came after it (`Clear.collapse_append`). It stays clear (`Clear.collapse`), so the cut
     falls on the same mark: `trailing_comments_are_invisible`.
-/

import StyleCheck.Proofs.Source.Collapsing
import StyleCheck.Proofs.Source.QuoteParity

namespace StyleCheck

namespace Comment

/-! ## Block comments -/

/-- `kept` is `s` without some block comments, each taken out with blanks around it. -/
inductive TakenOut : (s kept : Text) → Prop where
  | nil : TakenOut [] []
  | keep (c : Char) {s kept : Text} : TakenOut s kept → TakenOut (c :: s) (c :: kept)
  | comment {before body after s kept : Text} (hbefore : ∀ c ∈ before, Text.isBlank c = true)
      (hbody : Text.Ends "*/".toList body) (hafter : ∀ c ∈ after, Text.isBlank c = true) :
      TakenOut s kept → TakenOut (before ++ ("/*".toList ++ (body ++ ("*/".toList ++ (after ++ s))))) kept

theorem takenOut_dropBlockComments (s : Text) : TakenOut s (dropBlockComments s) := by
  fun_induction dropBlockComments s with
  | case1 s rest hcut ih =>
    obtain ⟨before, body, after, rfl, hbefore, hbody, hafter, -⟩ := cutBlock?_eq_some hcut
    exact .comment hbefore hbody hafter ih
  | case2 => exact .nil
  | case3 c s _ ih => exact .keep c ih

/-! ## No mark comes about -/

theorem not_infix_of_suffix {mark s t : Text} (h : ¬ mark <:+: s) (hsuffix : t <:+ s) : ¬ mark <:+: t := by
  intro hin
  exact h (hin.trans hsuffix.isInfix)

theorem head_ne_slash_of_suffix {s t : Text} (h : ¬ "//".toList <:+: s) (hsuffix : '/' :: t <:+ s) :
    t.head? ≠ some '/' := by
  intro hhead
  obtain ⟨t, rfl⟩ : ∃ t', t = '/' :: t' := List.head?_eq_some_iff.mp hhead
  have hmark : "//".toList <+: '/' :: '/' :: t := ⟨t, rfl⟩
  exact h (hmark.isInfix.trans hsuffix.isInfix)

theorem cutBlock?_head {s rest : Text} (hmark : ¬ "//".toList <:+: s) (hhead : s.head? ≠ some '/')
    (h : cutBlock? s = some rest) : rest.head? ≠ some '/' := by
  obtain ⟨before, body, after, rfl, -, -, -, hside⟩ := cutBlock?_eq_some h
  rcases hside with rfl | rfl | rfl
  · exact absurd rfl hhead
  · -- the slash that closes the comment stands right before
    refine head_ne_slash_of_suffix hmark ⟨before ++ ("/*".toList ++ (body ++ ['*'])), ?_⟩
    simp
  · simp

theorem dropBlockComments_head {s : Text} (hmark : ¬ "//".toList <:+: s) (hhead : s.head? ≠ some '/') :
    (dropBlockComments s).head? ≠ some '/' := by
  fun_induction dropBlockComments s with
  | case1 s rest hcut ih =>
    exact ih (not_infix_of_suffix hmark (cutBlock?_suffix hcut)) (cutBlock?_head hmark hhead hcut)
  | case2 => simp
  | case3 c s _ _ => exact hhead

theorem not_infix_dropBlockComments {s : Text} (hmark : ¬ "//".toList <:+: s) :
    ¬ "//".toList <:+: dropBlockComments s := by
  fun_induction dropBlockComments s with
  | case1 s rest hcut ih => exact ih (not_infix_of_suffix hmark (cutBlock?_suffix hcut))
  | case2 => exact hmark
  | case3 c s _ ih =>
    have hrest : ¬ "//".toList <:+: s := not_infix_of_suffix hmark (List.suffix_cons c s)
    rw [List.infix_cons_iff, not_or]
    refine ⟨?_, ih hrest⟩
    rintro ⟨t, ht⟩
    obtain ⟨rfl, htail⟩ := List.cons.inj ht
    have hnext : s.head? ≠ some '/' := head_ne_slash_of_suffix hmark List.suffix_rfl
    exact dropBlockComments_head hrest hnext (htail ▸ rfl)

theorem not_infix_dropLineComment {line : Text}
    (h : ∀ column, Text.locate? "//".toList line = some column → Literal.endsInString (line.take column) = false) :
    ¬ "//".toList <:+: dropLineComment line := by
  cases hmark : Text.locate? "//".toList line with
  | none =>
    have hwhole : dropLineComment line = line := by rw [dropLineComment, hmark]
    rw [hwhole]
    exact Text.not_infix_of_locate?_eq_none hmark
  | some column =>
    rw [(dropLineComment_eq_iff hmark).mpr (h column hmark)]
    obtain ⟨-, hends⟩ := Text.locate?_eq_some (by decide) hmark
    intro hin
    exact hends.not_isInfix (by decide) (hin.trans (Text.stripRight_isPrefix _).isInfix)

/-- If the first mark of a line does not stand in a string, no mark is left when the comments are taken out, and
after the cut at the mark nothing is taken out but block comments and blanks. -/
theorem no_line_comment_is_left (line : Text)
    (hmark : ∀ column, Text.locate? "//".toList line = some column →
      Literal.endsInString (line.take column) = false) :
    ¬ "//".toList <:+: drop line ∧ TakenOut (dropLineComment line) (drop line) :=
  ⟨not_infix_dropBlockComments (not_infix_dropLineComment hmark), takenOut_dropBlockComments _⟩

/-- Block comments between two slashes, with blanks on either side. -/
theorem no_line_comment_is_left_slashes :
    Text.locate? "//".toList "a / /* b */ /* c */ / d  // e".toList = some 25 ∧
    ¬ "//".toList <:+: drop "a / /* b */ /* c */ / d  // e".toList := by
  have hmark : Text.locate? "//".toList "a / /* b */ /* c */ / d  // e".toList = some 25 := by decide
  obtain ⟨hleft, -⟩ := no_line_comment_is_left "a / /* b */ /* c */ / d  // e".toList (by
    intro column hcolumn
    rw [hmark] at hcolumn
    cases hcolumn
    decide)
  exact ⟨hmark, hleft⟩

end Comment

/-! ## Strings before a mark -/

namespace Text

/-- Two characters in a row stand on one side of any other character. -/
theorem pair_infix_append_cons {a b c : Char} (ha : a ≠ c) (hb : b ≠ c) (s t : Text) :
    [a, b] <:+: s ++ c :: t ↔ [a, b] <:+: s ∨ [a, b] <:+: t := by
  induction s with
  | nil => simp [List.infix_cons_iff, List.cons_prefix_cons, ha]
  | cons x s ih =>
    have hfirst : [a, b] <+: x :: (s ++ c :: t) ↔ [a, b] <+: x :: s := by
      cases s with
      | nil => simp [List.cons_prefix_cons, hb]
      | cons y s => simp [List.cons_prefix_cons]
    rw [List.cons_append, List.infix_cons_iff, List.infix_cons_iff, hfirst, ih, or_assoc]

/-- The first mark of a line comment is the one after a text that holds none and does not end in a slash. -/
theorem ends_mark_iff {s : Text} : Ends "//".toList s ↔ ¬ "//".toList <:+: s ∧ s.getLast? ≠ some '/' := by
  have hlast : (s ++ "//".toList).dropLast = s ++ ['/'] := List.dropLast_append_of_ne_nil (by decide)
  rw [Ends, hlast]
  constructor
  · intro h
    refine ⟨fun hin => h (hin.trans (List.prefix_append s _).isInfix), ?_⟩
    intro hslash
    obtain ⟨t, rfl⟩ := List.getLast?_eq_some_iff.mp hslash
    exact h ⟨t, [], by simp⟩
  · rintro ⟨hmark, hslash⟩ hin
    rcases List.infix_concat_iff.mp hin with hsuffix | hin
    · obtain ⟨t, ht⟩ := hsuffix
      apply hslash
      have hconcat : t ++ ['/'] ++ ['/'] = s ++ ['/'] := by simpa using ht
      rw [← List.append_cancel_right hconcat, List.getLast?_concat]
    · exact hmark hin

end Text

namespace Literal

def emptied (strings : List (Text × Text)) : List (Text × Text) := strings.map fun string => ([], string.2)

theorem bare_of_notMem {s : Text} (hquote : '"' ∉ s) (hsingle : '\'' ∉ s) (hslash : '\\' ∉ s) : Bare s := by
  intro c hc
  refine ⟨?_, ?_, ?_⟩ <;> rintro rfl
  · exact hquote hc
  · exact hsingle hc
  · exact hslash hc

/-- Where quotes are even and nothing is escaped, a text is code with strings in it. -/
theorem exists_quoted {s : Text} (hsingle : '\'' ∉ s) (hslash : '\\' ∉ s) (heven : s.count '"' % 2 = 0) :
    ∃ code strings, s = quoted code strings ∧ Bare code ∧
      ∀ string ∈ strings, ('"' ∉ string.1 ∧ '\\' ∉ string.1) ∧ Bare string.2 := by
  induction hlength : s.length using Nat.strongRecOn generalizing s with
  | _ n ih =>
    by_cases hquote : '"' ∈ s
    · obtain ⟨code, rest, rfl, hcode⟩ := List.eq_append_cons_of_mem hquote
      rw [List.count_append, List.count_cons_self, List.count_eq_zero.mpr hcode] at heven
      -- one quote has no partner yet, so there is another one
      have hmore : '"' ∈ rest := List.count_pos_iff.mp (by omega)
      obtain ⟨body, after, rfl, hbody⟩ := List.eq_append_cons_of_mem hmore
      rw [List.count_append, List.count_cons_self, List.count_eq_zero.mpr hbody] at heven
      simp only [List.mem_append, List.mem_cons, not_or] at hsingle hslash
      obtain ⟨code', strings, rfl, hcode', hstrings⟩ :=
        ih after.length (by rw [← hlength]; simp; omega) hsingle.2.2.2.2 hslash.2.2.2.2 (by omega) rfl
      refine ⟨code, (body, code') :: strings, rfl, bare_of_notMem hcode hsingle.1 hslash.1, ?_⟩
      exact List.forall_mem_cons.mpr ⟨⟨⟨hbody, hslash.2.2.1⟩, hcode'⟩, hstrings⟩
    · exact ⟨s, [], rfl, bare_of_notMem hquote hsingle hslash, by simp⟩

theorem Body.of_notMem {s : Text} (hquote : '"' ∉ s) (hslash : '\\' ∉ s) : Body s := by
  induction s with
  | nil => exact .nil
  | cons c s ih =>
    rw [List.mem_cons, not_or] at hquote hslash
    exact .plain (Ne.symm hquote.1) (Ne.symm hslash.1) (ih hquote.2 hslash.2)

section

variable {code : Text} {strings : List (Text × Text)}

theorem quoted_emptied_sublist (code : Text) (strings : List (Text × Text)) :
    (quoted code (emptied strings)).Sublist (quoted code strings) := by
  induction strings generalizing code with
  | nil => exact List.Sublist.refl code
  | cons string strings ih =>
    obtain ⟨body, after⟩ := string
    refine (List.Sublist.refl code).append (List.Sublist.cons_cons '"' ?_)
    exact (List.nil_sublist body).append ((ih after).cons_cons '"')

/-- Emptying strings brings no two characters together but quotes. -/
theorem not_infix_emptied {a b : Char} (ha : a ≠ '"') (hb : b ≠ '"') {tail : Text}
    (h : ¬ [a, b] <:+: quoted code strings ++ tail) : ¬ [a, b] <:+: quoted code (emptied strings) ++ tail := by
  induction strings generalizing code with
  | nil => exact h
  | cons string strings ih =>
    obtain ⟨body, after⟩ := string
    have hshape : ∀ body strings, quoted code ((body, after) :: strings) ++ tail
        = code ++ '"' :: (body ++ '"' :: (quoted after strings ++ tail)) := by
      intro body strings
      simp [quoted]
    rw [hshape, Text.pair_infix_append_cons ha hb, Text.pair_infix_append_cons ha hb, not_or, not_or] at h
    show ¬ [a, b] <:+: quoted code (([], after) :: emptied strings) ++ tail
    rw [hshape, Text.pair_infix_append_cons ha hb, Text.pair_infix_append_cons ha hb, not_or, not_or]
    exact ⟨h.1, by simp, ih h.2.2⟩

theorem count_quoted_emptied (hcode : Bare code) (hstrings : ∀ string ∈ strings, Bare string.2) :
    (quoted code (emptied strings)).count '"' % 2 = 0 := by
  have hnone : ∀ {s : Text}, Bare s → s.count '"' = 0 := by
    intro s hs
    exact List.count_eq_zero.mpr fun hmem => (hs '"' hmem).1 rfl
  induction strings generalizing code with
  | nil => rw [emptied, List.map_nil, quoted, hnone hcode]
  | cons string strings ih =>
    obtain ⟨body, after⟩ := string
    obtain ⟨hafter, hrest⟩ := List.forall_mem_cons.mp hstrings
    have hcount : (quoted after (emptied strings)).count '"' % 2 = 0 := ih hafter hrest
    show (code ++ '"' :: ([] ++ '"' :: quoted after (emptied strings))).count '"' % 2 = 0
    rw [List.count_append, hnone hcode, List.nil_append, List.count_cons_self, List.count_cons_self]
    omega

/-- What stands before the first quote is written as it is. -/
theorem collapseQuotes_front {front : Text} (h : Bare front) (more : Text) :
    front <+: collapseQuotes (front ++ more) := by
  rw [collapseQuotes_eq]
  cases hround : round? (front ++ more) with
  | none => exact List.prefix_append front more
  | some next =>
    obtain ⟨text, rest⟩ := next
    obtain ⟨q, hq, hwritten⟩ := round?_eq_some hround
    have hhead : front <+: q.head := by
      unfold atQuote? at hq
      split at hq
      · cases hq
      · obtain ⟨tail, -, rfl⟩ := Option.map_eq_some_iff.mp hq
        show front <+: (front ++ more).takeWhile _
        rw [List.takeWhile_append_of_pos h.isQuote]
        exact List.prefix_append front _
    have htext : q.head <+: text := by
      rcases hwritten with ⟨-, rfl⟩ | ⟨-, -, rfl, -⟩
      · exact List.prefix_append q.head _
      · exact List.prefix_append q.head _
    exact hhead.trans (htext.trans (List.prefix_append text _))

/-- Code with closed strings is emptied in the same way whatever stands after it and the first characters there,
as long as these are not quotes. -/
theorem collapseQuotes_quoted_append {front more : Text} (hcode : Bare code)
    (hstrings : ∀ string ∈ strings, '"' ∉ string.1 ∧ Bare string.2) (hfront : Bare front)
    (hline : '\n' ∉ quoted code strings ++ (front ++ more)) :
    quoted code (emptied strings) ++ front <+: collapseQuotes (quoted code strings ++ (front ++ more)) := by
  induction strings generalizing code with
  | nil =>
    have hboth : Bare (code ++ front) := by
      intro c hc
      exact (List.mem_append.mp hc).elim (hcode c) (hfront c)
    have hprefix := collapseQuotes_front hboth more
    rwa [List.append_assoc] at hprefix
  | cons string strings ih =>
    obtain ⟨body, after⟩ := string
    obtain ⟨⟨hbody, hafter⟩, hrest⟩ := List.forall_mem_cons.mp hstrings
    have hshape : quoted code ((body, after) :: strings) ++ (front ++ more)
        = code ++ '"' :: (body ++ '"' :: (quoted after strings ++ (front ++ more))) := by simp [quoted]
    rw [hshape] at hline ⊢
    have hbeyond : '\n' ∉ body ++ '"' :: (quoted after strings ++ (front ++ more)) := by
      intro hmem
      exact hline (List.mem_append_right code (List.mem_cons_of_mem _ hmem))
    have hlater : '\n' ∉ quoted after strings ++ (front ++ more) := by
      intro hmem
      exact hbeyond (List.mem_append_right body (List.mem_cons_of_mem _ hmem))
    have hemptied : quoted code (emptied ((body, after) :: strings)) ++ front
        = code ++ emptyString ++ (quoted after (emptied strings) ++ front) := by
      simp [quoted, emptied, emptyString]
    rw [collapseQuotes_string hcode hbody hbeyond, hemptied, List.prefix_append_right_inj]
    exact ih hafter hrest hlater

end

end Literal

namespace Include

/-- Before the closing mark of an include line there is at most one quote, the one that opens the header. -/
theorem Front.count_quote_le {inc : Include} {front : Text} (h : Front inc front) : front.count '"' ≤ 1 := by
  obtain ⟨margin, gap, space, opening, hmargin, hgap, hspace, -, -, hpath⟩ := h
  have hblank : ∀ {blanks : Text}, (∀ c ∈ blanks, Text.isBlank c = true) → blanks.count '"' = 0 := by
    intro blanks hall
    refine List.count_eq_zero.mpr fun hmem => ?_
    exact absurd (hall '"' hmem) (by decide)
  have hinside : inc.path.count '"' = 0 := List.count_eq_zero.mpr fun hmem => by simpa using hpath '"' hmem
  have hword : "include".toList.count '"' = 0 := by decide
  simp only [List.count_append, List.count_cons, hblank hmargin, hblank hgap, hblank hspace, hinside, hword]
  split <;> simp

/-- A line that goes on after an include line is one. -/
theorem isSome_ofLine?_append {s t : Text} (h : (ofLine? s).isSome = true) (hline : '\n' ∉ s ++ t) :
    (ofLine? (s ++ t)).isSome = true := by
  obtain ⟨inc, hinc⟩ := Option.isSome_iff_exists.mp h
  obtain ⟨front, closing, rest, rfl, hfront, hclosing, -⟩ := ofLine?_sound hinc
  have hrest : '\n' ∉ (rest ++ t).dropLast := by
    intro hmem
    apply hline
    rw [List.append_assoc, List.cons_append]
    exact List.mem_append_right front (List.mem_cons_of_mem closing ((List.dropLast_sublist _).mem hmem))
  rw [List.append_assoc, List.cons_append, ofLine?_complete hfront hclosing hrest]
  rfl

end Include

/-! ## Trailing comments -/

namespace Comment

/-- Code that a line comment can follow: it holds no comment, its strings are closed, and nothing in it is escaped
or stands in single quotes. -/
structure Clear (code : Text) : Prop where
  line : '\n' ∉ code
  single : '\'' ∉ code
  escape : '\\' ∉ code
  mark : ¬ "//".toList <:+: code
  block : ¬ "/*".toList <:+: code
  slash : code.getLast? ≠ some '/'
  even : code.count '"' % 2 = 0

theorem cutBlock?_eq_none {s : Text} (h : ¬ "/*".toList <:+: s) : cutBlock? s = none := by
  rw [Option.eq_none_iff_forall_ne_some]
  intro rest hcut
  obtain ⟨before, body, after, rfl, -⟩ := cutBlock?_eq_some hcut
  exact h ⟨before, _, List.append_assoc _ _ _⟩

theorem dropBlockComments_eq_self {s : Text} (h : ¬ "/*".toList <:+: s) : dropBlockComments s = s := by
  induction s with
  | nil => decide +kernel
  | cons c s ih =>
    rw [dropBlockComments_of_none (cutBlock?_eq_none h), ih (not_infix_of_suffix h (List.suffix_cons c s))]

namespace Clear

variable {code : Text}

theorem ends (h : Clear code) : Text.Ends "//".toList code := Text.ends_mark_iff.mpr ⟨h.mark, h.slash⟩

/-- The line is cut at the mark, and nothing else is taken out. -/
theorem drop_append (h : Clear code) (text : Text) : drop (code ++ ("//".toList ++ text)) = Text.stripRight code := by
  have hmark := Text.locate?_of_ends (by decide) h.ends text
  have hcut := (dropLineComment_eq_iff hmark).mpr (by
    rw [List.take_left]
    exact Literal.endsInString_of_even h.single h.escape h.even)
  rw [List.take_left] at hcut
  rw [drop, hcut]
  refine dropBlockComments_eq_self fun hin => ?_
  exact h.block (hin.trans (Text.stripRight_isPrefix code).isInfix)

/-- Literals are kept in the code of an include line, also where only what follows the code makes it one. -/
theorem collapse_of_include (h : Clear code) {t : Text} (hinclude : (Include.ofLine? (code ++ t)).isSome = true) :
    Literal.collapse code = code := by
  obtain ⟨inc, hinc⟩ := Option.isSome_iff_exists.mp hinclude
  obtain ⟨front, closing, rest, heq, hfront, hclosing, -⟩ := Include.ofLine?_sound hinc
  -- the closing mark stands beyond the code or in it
  have hcases : code <+: front ∨ ∃ after, code = front ++ closing :: after := by
    rcases List.append_eq_append_iff.mp heq with ⟨as, hfront', -⟩ | ⟨bs, hcode, hrest⟩
    · exact .inl ⟨as, hfront'.symm⟩
    · cases bs with
      | nil => exact .inl ⟨[], by simp [hcode]⟩
      | cons b bs =>
        obtain ⟨rfl, -⟩ := List.cons.inj hrest
        exact .inr ⟨bs, hcode⟩
  rcases hcases with hprefix | ⟨after, hcode⟩
  · have hle := hprefix.sublist.count_le '"'
    have hone := hfront.count_quote_le
    have heven := h.even
    have hnone : '"' ∉ code := List.count_eq_zero.mp (by omega)
    exact Literal.collapse_bare (Literal.bare_of_notMem hnone h.single h.escape)
  · apply Literal.collapse_of_include
    have hafter : '\n' ∉ after.dropLast := by
      intro hmem
      apply h.line
      rw [hcode]
      exact List.mem_append_right front (List.mem_cons_of_mem closing ((List.dropLast_sublist _).mem hmem))
    rw [hcode, Include.ofLine?_complete hfront hclosing hafter]
    rfl

/-- On a line that is not an include line, the strings of clear code are emptied. -/
theorem collapse_eq_emptied (h : Clear code) (hinclude : Include.ofLine? code = none) :
    ∃ front strings, code = Literal.quoted front strings ∧ Literal.Bare front ∧
      (∀ string ∈ strings, '"' ∉ string.1 ∧ Literal.Bare string.2) ∧
      Literal.collapse code = Literal.quoted front (Literal.emptied strings) := by
  obtain ⟨front, strings, rfl, hfront, hstrings⟩ := Literal.exists_quoted h.single h.escape h.even
  refine ⟨front, strings, rfl, hfront, fun string hmem => ?_, ?_⟩
  · obtain ⟨⟨hquote, -⟩, hbare⟩ := hstrings string hmem
    exact ⟨hquote, hbare⟩
  · rw [Literal.collapse_of_code hinclude]
    refine Literal.collapseQuotes_quoted hfront (fun string hmem => ?_) h.line
    obtain ⟨⟨hquote, hslash⟩, hbare⟩ := hstrings string hmem
    exact ⟨.of_notMem hquote hslash, hbare⟩

theorem collapse (h : Clear code) : Clear (Literal.collapse code) := by
  cases hinclude : Include.ofLine? code with
  | some inc =>
    rw [Literal.collapse_of_include (hinclude ▸ rfl)]
    exact h
  | none =>
    obtain ⟨front, strings, rfl, hfront, hstrings, hcollapse⟩ := h.collapse_eq_emptied hinclude
    have hsub := Literal.quoted_emptied_sublist front strings
    have hends : Text.Ends "//".toList (Literal.quoted front (Literal.emptied strings)) := by
      have hbefore := h.ends
      rw [Text.Ends, List.dropLast_append_of_ne_nil (by decide)] at hbefore ⊢
      exact Literal.not_infix_emptied (a := '/') (b := '/') (by decide) (by decide) hbefore
    have hblock : ¬ ['/', '*'] <:+: Literal.quoted front (Literal.emptied strings) ++ [] := by
      refine Literal.not_infix_emptied (by decide) (by decide) ?_
      rw [List.append_nil]
      exact h.block
    rw [List.append_nil] at hblock
    rw [hcollapse]
    obtain ⟨hmark, hslash⟩ := Text.ends_mark_iff.mp hends
    exact ⟨fun hmem => h.line (hsub.mem hmem), fun hmem => h.single (hsub.mem hmem),
      fun hmem => h.escape (hsub.mem hmem), hmark, hblock, hslash,
      Literal.count_quoted_emptied hfront fun string hmem => (hstrings string hmem).2⟩

/-- Before the mark the line is emptied as if it ended there. -/
theorem collapse_append (h : Clear code) {text : Text} (htext : '\n' ∉ text) :
    ∃ text', Literal.collapse (code ++ ("//".toList ++ text)) = Literal.collapse code ++ ("//".toList ++ text') := by
  have hline : '\n' ∉ code ++ ("//".toList ++ text) := by
    have hcode := h.line
    simp [hcode, htext]
  cases hinclude : Include.ofLine? (code ++ ("//".toList ++ text)) with
  | some inc =>
    have hsome : (Include.ofLine? (code ++ ("//".toList ++ text))).isSome = true := hinclude ▸ rfl
    exact ⟨text, by rw [Literal.collapse_of_include hsome, h.collapse_of_include hsome]⟩
  | none =>
    have hcode : Include.ofLine? code = none := by
      rw [← Option.not_isSome_iff_eq_none]
      intro hsome
      have hmore := Include.isSome_ofLine?_append hsome hline
      rw [hinclude] at hmore
      cases hmore
    obtain ⟨front, strings, rfl, hfront, hstrings, hcollapse⟩ := h.collapse_eq_emptied hcode
    have hescapes : Literal.dropEscapes (Literal.quoted front strings ++ ("//".toList ++ text))
        = Literal.quoted front strings ++ ("//".toList ++ Literal.dropEscapes text) := by
      rw [Literal.dropEscapes_append h.escape, Literal.dropEscapes_append (by decide)]
    have hfeed : '\n' ∉ Literal.quoted front strings ++ ("//".toList ++ Literal.dropEscapes text) := by
      intro hmem
      exact hline ((Literal.dropEscapes_sublist _).mem (hescapes ▸ hmem))
    obtain ⟨text', htext'⟩ := Literal.collapseQuotes_quoted_append hfront hstrings (by decide) hfeed
    refine ⟨text', ?_⟩
    rw [Literal.collapse_of_code hinclude, hescapes, hcollapse, ← htext', List.append_assoc]

end Clear

/-- After clear code, the text of a line comment is not seen: neither in the line without its comments, nor in the
line with its literals emptied and without comments. -/
theorem trailing_comments_are_invisible (code text : Text) (hcode : Clear code) (htext : '\n' ∉ text) :
    drop (code ++ ("//".toList ++ text)) = Text.stripRight code ∧
    drop (Literal.collapse (code ++ ("//".toList ++ text))) = Text.stripRight (Literal.collapse code) ∧
    ∀ raws n, (Source.ofLines raws).plain n = code ++ ("//".toList ++ text) →
      (Source.ofLines raws).code n = Text.stripRight code ∧
      (Source.ofLines raws).elided n = Text.stripRight (Literal.collapse code) := by
  have hdrop := hcode.drop_append text
  have helided : drop (Literal.collapse (code ++ ("//".toList ++ text))) = Text.stripRight (Literal.collapse code) := by
    obtain ⟨text', hcollapse⟩ := hcode.collapse_append htext
    rw [hcollapse]
    exact hcode.collapse.drop_append text'
  refine ⟨hdrop, helided, ?_⟩
  intro raws n hplain
  obtain ⟨hview, hbare⟩ := Source.ofLines_views raws n
  rw [hplain] at hview hbare
  exact ⟨hview.trans hdrop, hbare.trans helided⟩

/-- A comment with an apostrophe, a quote without a partner, a digit separator, an escape and the mark of a block
comment. -/
theorem trailing_comments_are_invisible_quotes :
    drop ("open(\"http:\", x);  ".toList ++ ("//".toList ++ " it's \"1'0 \\\" /* c".toList))
      = "open(\"http:\", x);".toList ∧
    drop (Literal.collapse ("open(\"http:\", x);  ".toList ++ ("//".toList ++ " it's \"1'0 \\\" /* c".toList)))
      = Text.stripRight (Literal.collapse "open(\"http:\", x);  ".toList) := by
  have hcode : Clear "open(\"http:\", x);  ".toList :=
    ⟨by decide, by decide, by decide, Text.not_infix_of_locate?_eq_none (by decide),
      Text.not_infix_of_locate?_eq_none (by decide), by decide, by decide⟩
  have hstrip : Text.stripRight "open(\"http:\", x);  ".toList = "open(\"http:\", x);".toList := by decide
  obtain ⟨hdrop, helided, -⟩ := trailing_comments_are_invisible _ " it's \"1'0 \\\" /* c".toList hcode (by decide)
  exact ⟨hdrop.trans hstrip, helided⟩

end Comment

end StyleCheck
