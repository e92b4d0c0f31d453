/-
  StyleCheck.Proofs.Source.IncludeView — an include line in the views of its source.

  An include line consists of its front, the mark that closes the header, and whatever follows on the line
  (`ofLine?_sound`, `ofLine?_complete`). A block comment within a line goes from its mark to the first closing
  mark, and blanks on one side of it go with it (`Comment.cutBlock?_eq_some`). In the front of a line that
  names a header without a slash no comment can begin, so that taking the comments out changes only what
  follows (`Comment.drop_cons`). As literals are kept on include lines, such a line asks for the same header in
  all views (`Source.ofLine?_views`).
-/

import StyleCheck.Proofs.Text.Cut
import StyleCheck.Source.Lines

namespace StyleCheck

/-! ## Ends of lines -/

namespace Text

/-- No line feed stands in the text but at its end. -/
theorem restOfLine?_isSome {s : Text} : (restOfLine? s).isSome = true ↔ '\n' ∉ s.dropLast := by
  have hbody : '\n' ∉ s.takeWhile (· != '\n') := by
    intro h
    simpa using List.all_eq_true.mp List.all_takeWhile '\n' h
  have hsplit : s = s.takeWhile (· != '\n') ++ s.dropWhile (· != '\n') := List.takeWhile_append_dropWhile.symm
  unfold restOfLine?
  rcases hrest : s.dropWhile (· != '\n') with _ | ⟨c, _ | ⟨d, rest⟩⟩
  · rw [hrest, List.append_nil] at hsplit
    rw [hsplit]
    simp only [Option.isSome_some, true_iff]
    exact fun h => hbody (s.takeWhile (· != '\n') |>.dropLast_subset h)
  · rw [hrest] at hsplit
    rw [hsplit, List.dropLast_concat]
    simpa using hbody
  · have hc : c = '\n' := by
      have := List.head?_dropWhile_not (· != '\n') s
      rw [hrest] at this
      simpa using this
    rw [hrest] at hsplit
    rw [hsplit, List.dropLast_append_of_ne_nil (List.cons_ne_nil c (d :: rest)), hc]
    simp

theorem dropLast_sublist_dropLast {s t : Text} (h : s.Sublist t) : s.dropLast.Sublist t.dropLast := by
  rw [← List.reverse_sublist, ← List.tail_reverse, ← List.tail_reverse]
  exact h.reverse.tail

theorem stripRight_isPrefix (s : Text) : stripRight s <+: s := by
  unfold stripRight trimRight
  rw [← List.reverse_suffix, List.reverse_reverse]
  exact List.dropWhile_suffix _

theorem stripRight_cons {c : Char} (hc : isBlank c = false) (front s : Text) :
    stripRight (front ++ c :: s) = front ++ c :: stripRight s := by
  unfold stripRight trimRight
  rw [List.reverse_append, List.reverse_cons, List.append_assoc, List.dropWhile_append]
  split
  · rename_i hnil
    rw [List.isEmpty_iff.mp hnil]
    simp [hc]
  · simp

/-- A text that begins with `c` does not occur before the first `c`. -/
theorem locate?_append {c : Char} {front : Text} (h : c ∉ front) (needle s : Text) :
    locate? (c :: needle) (front ++ s) = (locate? (c :: needle) s).map (· + front.length) := by
  induction front with
  | nil => simp
  | cons x front ih =>
    rw [List.mem_cons, not_or] at h
    have hx : (c :: needle).isPrefixOf (x :: (front ++ s)) = false := by simp [List.isPrefixOf, h.1]
    rw [List.cons_append, locate?, hx, if_neg Bool.false_ne_true, ih h.2, Option.map_map]
    rfl

end Text

/-! ## Comments after a text -/

namespace Comment

theorem afterClosing?_eq_some {s rest : Text} (h : afterClosing? s = some rest) :
    ∃ body, s = body ++ ("*/".toList ++ rest) ∧ Text.Ends "*/".toList body := by
  fun_induction afterClosing? s with
  | case1 => cases h
  | case2 c s hclose =>
    cases h
    rw [Bool.and_eq_true, beq_iff_eq, beq_iff_eq] at hclose
    obtain ⟨rfl, hslash⟩ := hclose
    obtain ⟨s, rfl⟩ := List.head?_eq_some_iff.mp hslash
    exact ⟨[], rfl, by decide⟩
  | case3 c s hopen ih =>
    obtain ⟨body, rfl, hends⟩ := ih h
    refine ⟨c :: body, rfl, ?_⟩
    rw [Text.Ends, List.dropLast_append_of_ne_nil (by decide)] at hends ⊢
    rw [List.cons_append, List.infix_cons_iff, not_or]
    refine ⟨?_, hends⟩
    rintro ⟨t, ht⟩
    obtain ⟨rfl, hslash⟩ := List.cons.inj ht
    apply hopen
    cases body with
    | nil => cases hslash
    | cons d body =>
      obtain ⟨rfl, -⟩ := List.cons.inj hslash
      rfl

theorem afterBlock?_eq_some {s rest : Text} (h : afterBlock? s = some rest) :
    ∃ body, s = "/*".toList ++ (body ++ ("*/".toList ++ rest)) ∧ Text.Ends "*/".toList body := by
  unfold afterBlock? at h
  split at h
  · obtain ⟨body, rfl, hends⟩ := afterClosing?_eq_some h
    exact ⟨body, rfl, hends⟩
  · cases h

theorem afterBlock?_of_ne {c : Char} {s : Text} (h : c ≠ '/') : afterBlock? (c :: s) = none := by
  unfold afterBlock?
  split
  · rename_i heq
    exact absurd (List.cons.inj heq).1 h
  · rfl

/-- A block comment is taken out with blanks on one side only, unless nothing is left after it. -/
theorem cutBlock?_eq_some {s rest : Text} (h : cutBlock? s = some rest) :
    ∃ before body after, s = before ++ ("/*".toList ++ (body ++ ("*/".toList ++ (after ++ rest)))) ∧
      (∀ c ∈ before, Text.isBlank c = true) ∧ Text.Ends "*/".toList body ∧ (∀ c ∈ after, Text.isBlank c = true) ∧
      (before = [] ∨ after = [] ∨ rest = []) := by
  have hblanks : ∀ t : Text, ∀ c ∈ t.takeWhile Text.isBlank, Text.isBlank c = true :=
    fun _ => List.all_eq_true.mp List.all_takeWhile
  have hsplit : s = s.takeWhile Text.isBlank ++ s.dropWhile Text.isBlank := List.takeWhile_append_dropWhile.symm
  unfold cutBlock? at h
  split at h
  · cases h
  rename_i remaining hremaining
  obtain ⟨body, hcomment, hends⟩ := afterBlock?_eq_some hremaining
  rw [hcomment] at hsplit
  split at h
  · rename_i hall
    cases h
    exact ⟨_, body, remaining, by simpa using hsplit, hblanks s, hends, List.all_eq_true.mp hall, .inr (.inr rfl)⟩
  split at h
  · split at h
    · cases h
    · cases h
      exact ⟨_, body, [], hsplit, hblanks s, hends, by simp, .inr (.inl rfl)⟩
  · rename_i hnone
    cases h
    refine ⟨_, body, remaining.takeWhile Text.isBlank, ?_, hblanks s, hends, hblanks remaining, .inl ?_⟩
    · rw [List.takeWhile_append_dropWhile]
      exact hsplit
    · simpa using hnone

theorem cutBlock?_suffix {s rest : Text} (h : cutBlock? s = some rest) : rest <:+ s := by
  obtain ⟨before, body, after, rfl, -⟩ := cutBlock?_eq_some h
  exact ⟨before ++ ("/*".toList ++ (body ++ ("*/".toList ++ after))), by simp only [List.append_assoc]⟩

/-- Taking block comments out takes characters out, and no more. -/
theorem dropBlockComments_sublist (s : Text) : (dropBlockComments s).Sublist s := by
  fun_induction dropBlockComments s with
  | case1 s rest hcut ih => exact ih.trans (cutBlock?_suffix hcut).sublist
  | case2 => exact List.Sublist.refl []
  | case3 c s _ ih => exact ih.cons_cons c

theorem dropBlockComments_of_none {c : Char} {s : Text} (h : cutBlock? (c :: s) = none) :
    dropBlockComments (c :: s) = c :: dropBlockComments s := by
  rw [dropBlockComments]
  split
  · rename_i hsome
    rw [h] at hsome
    cases hsome
  · rfl

section

variable {front : Text} {c : Char}

/-- No block comment begins before a visible character other than a slash, if no slash does. -/
theorem cutBlock?_cons (hfront : '/' ∉ front) (hc : c ≠ '/') (hblank : Text.isBlank c = false) (s : Text) :
    cutBlock? (front ++ c :: s) = none := by
  have hnone : afterBlock? ((front ++ c :: s).dropWhile Text.isBlank) = none := by
    induction front with
    | nil =>
      rw [List.nil_append, List.dropWhile_cons_of_neg (by simp [hblank])]
      exact afterBlock?_of_ne hc
    | cons x front ih =>
      rw [List.mem_cons, not_or] at hfront
      by_cases hx : Text.isBlank x = true
      · rw [List.cons_append, List.dropWhile_cons_of_pos hx]
        exact ih hfront.2
      · rw [List.cons_append, List.dropWhile_cons_of_neg hx]
        exact afterBlock?_of_ne (Ne.symm hfront.1)
  simp only [cutBlock?, hnone]

theorem dropBlockComments_cons (hfront : '/' ∉ front) (hc : c ≠ '/') (hblank : Text.isBlank c = false) (s : Text) :
    dropBlockComments (front ++ c :: s) = front ++ c :: dropBlockComments s := by
  induction front with
  | nil => exact dropBlockComments_of_none (cutBlock?_cons hfront hc hblank s)
  | cons x front ih =>
    have hcut : cutBlock? (x :: (front ++ c :: s)) = none := cutBlock?_cons hfront hc hblank s
    rw [List.cons_append, dropBlockComments_of_none hcut, ih fun h => hfront (List.mem_cons_of_mem x h),
      List.cons_append]

theorem dropLineComment_cons (hfront : '/' ∉ front) (hc : c ≠ '/') (hblank : Text.isBlank c = false) (s : Text) :
    ∃ s', s'.Sublist s ∧ dropLineComment (front ++ c :: s) = front ++ c :: s' := by
  have hslash : '/' ∉ front ++ [c] := by simp [hfront, hc.symm]
  have hlocate := Text.locate?_append hslash ['/'] s
  rw [List.append_assoc, List.singleton_append] at hlocate
  have hmark : "//".toList = ['/', '/'] := rfl
  unfold dropLineComment
  rw [hmark, hlocate]
  cases Text.locate? ['/', '/'] s with
  | none => exact ⟨s, List.Sublist.refl s, rfl⟩
  | some i =>
    have htake : (front ++ c :: s).take (i + (front ++ [c]).length) = front ++ c :: s.take i := by
      have hsplit : front ++ c :: s = (front ++ [c]) ++ s := by simp
      rw [hsplit, Nat.add_comm, List.take_length_add_append, List.append_assoc, List.singleton_append]
    simp only [Option.map_some, htake]
    split
    · exact ⟨s, List.Sublist.refl s, rfl⟩
    · exact ⟨Text.stripRight (s.take i), (Text.stripRight_isPrefix _).sublist.trans (List.take_sublist i s),
        Text.stripRight_cons hblank front _⟩

/-- Where no comment can begin, none is taken out. -/
theorem drop_cons (hfront : '/' ∉ front) (hc : c ≠ '/') (hblank : Text.isBlank c = false) (s : Text) :
    ∃ s', s'.Sublist s ∧ drop (front ++ c :: s) = front ++ c :: s' := by
  obtain ⟨s', hs', hline⟩ := dropLineComment_cons hfront hc hblank s
  refine ⟨dropBlockComments s', (dropBlockComments_sublist s').trans hs', ?_⟩
  rw [drop, hline, dropBlockComments_cons hfront hc hblank]

end

end Comment

/-! ## Include lines -/

namespace Directive

theorem body?_sound {s body : Text} (h : body? s = some body) :
    ∃ margin gap, s = margin ++ '#' :: (gap ++ body) ∧ (∀ c ∈ margin, Text.isBlank c = true) ∧
      ∀ c ∈ gap, Text.isBlank c = true := by
  unfold body? at h
  split at h
  · rename_i rest hrest
    cases h
    refine ⟨s.takeWhile Text.isBlank, rest.takeWhile Text.isBlank, ?_, ?_, ?_⟩
    · rw [List.takeWhile_append_dropWhile, ← hrest, List.takeWhile_append_dropWhile]
    · exact List.all_eq_true.mp List.all_takeWhile
    · exact List.all_eq_true.mp List.all_takeWhile
  · cases h

theorem body?_complete {margin gap : Text} {c : Char} (hmargin : ∀ c ∈ margin, Text.isBlank c = true)
    (hgap : ∀ c ∈ gap, Text.isBlank c = true) (hc : Text.isBlank c = false) (body : Text) :
    body? (margin ++ '#' :: (gap ++ c :: body)) = some (c :: body) := by
  have hsign : Text.isBlank '#' = false := by decide
  unfold body?
  rw [List.dropWhile_append_of_pos hmargin, List.dropWhile_cons_of_neg (by simp [hsign])]
  simp only
  rw [List.dropWhile_append_of_pos hgap, List.dropWhile_cons_of_neg (by simp [hc])]

end Directive

namespace Include

inductive Front (inc : Include) : Text → Prop where
  | mk (margin gap space : Text) (opening : Char) (hmargin : ∀ c ∈ margin, Text.isBlank c = true)
      (hgap : ∀ c ∈ gap, Text.isBlank c = true) (hspace : ∀ c ∈ space, Text.isBlank c = true)
      (hopening : opening = '<' ∨ opening = '"') (hsystem : inc.system = (opening == '<'))
      (hpath : ∀ c ∈ inc.path, (c != '>' && c != '"') = true) :
      Front inc (margin ++ '#' :: (gap ++ ("include".toList ++ (space ++ opening :: inc.path))))

theorem ofLine?_sound {s : Text} {inc : Include} (h : ofLine? s = some inc) :
    ∃ front closing rest, s = front ++ closing :: rest ∧ Front inc front ∧ (closing = '>' ∨ closing = '"') ∧
      '\n' ∉ rest.dropLast := by
  unfold ofLine? at h
  split at h
  · cases h
  rename_i body hbody
  obtain ⟨margin, gap, rfl, hmargin, hgap⟩ := Directive.body?_sound hbody
  split at h
  case isFalse => cases h
  rename_i hword
  split at h
  · cases h
  rename_i opening rest hrest
  split at h
  case isFalse => cases h
  rename_i hopening
  split at h
  · cases h
  rename_i closing after hafter
  split at h
  case isFalse => cases h
  rename_i hline
  cases h
  have hclosing : closing = '>' ∨ closing = '"' := by
    have := List.head?_dropWhile_not (fun c => c != '>' && c != '"') rest
    rw [hafter] at this
    simpa [Decidable.imp_iff_not_or] using this
  have hheader : rest = rest.takeWhile (fun c => c != '>' && c != '"') ++ closing :: after := by
    rw [← hafter, List.takeWhile_append_dropWhile]
  have hspace : body = "include".toList ++ ((body.drop 7).takeWhile Text.isBlank ++ opening :: rest) := by
    rw [← hrest, List.takeWhile_append_dropWhile, ← eq_of_beq hword, List.take_append_drop]
  refine ⟨_, closing, after, ?_, .mk margin gap ((body.drop 7).takeWhile Text.isBlank) opening hmargin hgap
    (List.all_eq_true.mp List.all_takeWhile) (by simpa using hopening) rfl
    (List.all_eq_true.mp List.all_takeWhile), hclosing, Text.restOfLine?_isSome.mp hline⟩
  simp only [List.append_assoc, List.cons_append]
  rw [← hheader, ← hspace]

theorem ofLine?_complete {inc : Include} {front rest : Text} {closing : Char} (hfront : Front inc front)
    (hclosing : closing = '>' ∨ closing = '"') (hrest : '\n' ∉ rest.dropLast) :
    ofLine? (front ++ closing :: rest) = some inc := by
  obtain ⟨margin, gap, space, opening, hmargin, hgap, hspace, hopening, hsystem, hpath⟩ := hfront
  have hletter : Text.isBlank 'i' = false := by decide
  have hmark : Text.isBlank opening = false := by rcases hopening with rfl | rfl <;> decide
  have hstop : (closing != '>' && closing != '"') = false := by rcases hclosing with rfl | rfl <;> decide
  have hbody := Directive.body?_complete hmargin hgap hletter
    ("nclude".toList ++ (space ++ opening :: (inc.path ++ closing :: rest)))
  have hshape : margin ++ '#' :: (gap ++ ("include".toList ++ (space ++ opening :: inc.path))) ++ closing :: rest
      = margin ++ '#' :: (gap ++ 'i' :: ("nclude".toList ++ (space ++ opening :: (inc.path ++ closing :: rest)))) := by
    simp
  have htake : ('i' :: ("nclude".toList ++ (space ++ opening :: (inc.path ++ closing :: rest)))).take 7
      = "include".toList := by simp
  have hdrop : ('i' :: ("nclude".toList ++ (space ++ opening :: (inc.path ++ closing :: rest)))).drop 7
      = space ++ opening :: (inc.path ++ closing :: rest) := by simp
  have hopens : (opening == '<' || opening == '"') = true := by simpa using hopening
  unfold ofLine?
  rw [hshape, hbody]
  simp only [htake, hdrop, beq_self_eq_true, if_true]
  rw [List.dropWhile_append_of_pos hspace, List.dropWhile_cons_of_neg (by simp [hmark])]
  simp only [hopens, if_true]
  rw [List.dropWhile_append_of_pos hpath, List.dropWhile_cons_of_neg (by simp [hstop]),
    List.takeWhile_append_of_pos hpath, List.takeWhile_cons_of_neg (by simp [hstop]), List.append_nil]
  simp only [Text.restOfLine?_isSome.mpr hrest, if_true, ← hsystem]

theorem Front.slash_notMem {inc : Include} {front : Text} (h : Front inc front) (hpath : '/' ∉ inc.path) :
    '/' ∉ front := by
  obtain ⟨margin, gap, space, opening, hmargin, hgap, hspace, hopening, -, -⟩ := h
  have hslash : Text.isBlank '/' = false := by decide
  have hvisible : ∀ {blanks : Text}, (∀ c ∈ blanks, Text.isBlank c = true) → '/' ∉ blanks := by
    intro blanks hall hmem
    have := hall '/' hmem
    rw [hslash] at this
    cases this
  have hopening' : '/' ≠ opening := by rcases hopening with rfl | rfl <;> decide
  simp [hvisible hmargin, hvisible hgap, hvisible hspace, hopening', hpath]

/-- An include line that names a header without a slash is one without its comments, too. -/
theorem ofLine?_drop {s : Text} {inc : Include} (h : ofLine? s = some inc) (hpath : '/' ∉ inc.path) :
    ofLine? (Comment.drop s) = some inc := by
  obtain ⟨front, closing, rest, rfl, hfront, hclosing, hrest⟩ := ofLine?_sound h
  have hslash : closing ≠ '/' := by rcases hclosing with rfl | rfl <;> decide
  have hblank : Text.isBlank closing = false := by rcases hclosing with rfl | rfl <;> decide
  obtain ⟨rest', hsub, hdrop⟩ := Comment.drop_cons (hfront.slash_notMem hpath) hslash hblank rest
  rw [hdrop]
  exact ofLine?_complete hfront hclosing fun hmem => hrest ((Text.dropLast_sublist_dropLast hsub).mem hmem)

end Include

namespace Source

/-- A line keeps its text, without comments and with the literals emptied, in its other views. -/
theorem ofLines_views (raws : List Text) (n : Nat) :
    (ofLines raws).code n = Comment.drop ((ofLines raws).plain n) ∧
    (ofLines raws).elided n = Comment.drop (Literal.collapse ((ofLines raws).plain n)) := by
  have hline : (ofLines raws).line n = ⟨[], [], [], []⟩ ∨
      ∃ raw plain, (ofLines raws).line n = Line.ofTexts raw plain := by
    unfold line ofLines
    simp only [Array.getD_eq_getD_getElem?, List.getElem?_toArray, List.getElem?_zipWith]
    split
    · exact .inr ⟨_, _, rfl⟩
    · exact .inl rfl
  unfold code elided plain
  rcases hline with hline | ⟨raw, plain, hline⟩
  · rw [hline]
    decide +kernel
  · rw [hline]
    exact ⟨rfl, rfl⟩

theorem ofLine?_views {raws : List Text} {n : Nat} {inc : Include}
    (h : Include.ofLine? ((ofLines raws).plain n) = some inc) (hpath : '/' ∉ inc.path) :
    Include.ofLine? ((ofLines raws).code n) = some inc ∧ Include.ofLine? ((ofLines raws).elided n) = some inc := by
  obtain ⟨hcode, helided⟩ := ofLines_views raws n
  have hcollapse : Literal.collapse ((ofLines raws).plain n) = (ofLines raws).plain n := by
    simp [Literal.collapse, h]
  rw [hcode, helided, hcollapse]
  exact ⟨Include.ofLine?_drop h hpath, Include.ofLine?_drop h hpath⟩

end Source

end StyleCheck
