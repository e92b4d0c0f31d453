/-
  StyleCheck.Proofs.Rule.BareStatement — one statement without brackets after the condition of an `if`.

  The statement ends at the first semicolon after the condition (`FirstSemicolon`). Which line this is, is found by
  looking from the end of the condition on (`semicolonLine?_eq`). What follows it is then read after the first
  semicolon of the whole line, and this is another one if a semicolon stands before the end of the condition: in the
  head of a loop that the `if` is the body of, or in the condition. The bracket that closes the condition then stands in
  what is read, and the statement is taken for more than one (`told_of_bare_statement_iff`).
-/

import StyleCheck.Proofs.Bracket.Enclosed
import StyleCheck.Proofs.Pattern.Taken
import StyleCheck.Proofs.Text.Cut
import StyleCheck.Rule.Braces

namespace StyleCheck.Rule.Braces

open Pattern StyleCheck.Bracket

/-! ## The semicolon -/

theorem fromSemicolon_eq {front : Text} (h : ';' ∉ front) (back : Text) :
    (front ++ ';' :: back).dropWhile (· != ';') = ';' :: back := by
  rw [List.dropWhile_append_of_pos (Text.forall_bne_of_notMem h)]
  rfl

structure FirstSemicolon (s : Source) (p q : Place) : Prop where
  semicolon : (s.elided q.line)[q.column]? = some ';'
  after : ¬ q.Before p
  first : ∀ r : Place, (s.elided r.line)[r.column]? = some ';' → r.Before q → r.Before p

namespace FirstSemicolon

variable {s : Source} {p q : Place}

theorem line_le (h : FirstSemicolon s p q) : p.line ≤ q.line :=
  Nat.le_of_not_lt fun hlt => h.after (.inl hlt)

theorem column_le (h : FirstSemicolon s p q) (hline : q.line = p.line) : p.column ≤ q.column :=
  Nat.le_of_not_lt fun hlt => h.after (.inr ⟨hline, hlt⟩)

/-- The line of the place holds a semicolon after it just if it holds the first one. -/
theorem mem_drop_iff (h : FirstSemicolon s p q) : ';' ∈ (s.elided p.line).drop p.column ↔ q.line = p.line := by
  constructor
  · intro hmem
    obtain ⟨i, hi⟩ := List.mem_iff_getElem?.mp hmem
    rw [List.getElem?_drop] at hi
    by_cases hline : q.line = p.line
    · exact hline
    · have hlt : p.line < q.line := by
        have := h.line_le
        omega
      have hbefore := h.first ⟨p.line, p.column + i⟩ hi (.inl hlt)
      simp only [Place.Before] at hbefore
      omega
  · intro hline
    have hle := h.column_le hline
    refine List.mem_iff_getElem?.mpr ⟨q.column - p.column, ?_⟩
    rw [List.getElem?_drop, Nat.add_sub_cancel' hle, ← hline]
    exact h.semicolon

theorem next_line (h : FirstSemicolon s p q) (hline : q.line ≠ p.line) : FirstSemicolon s ⟨p.line + 1, 0⟩ q where
  semicolon := h.semicolon
  after := by
    have := h.line_le
    simp only [Place.Before]
    omega
  first := by
    intro r hr hbefore
    have := h.first r hr hbefore
    simp only [Place.Before] at this ⊢
    omega

theorem semicolonLine?_eq (h : FirstSemicolon s p q) {count : Nat} (hcount : q.line < p.line + count) :
    semicolonLine? s p.line p.column count = some q.line := by
  induction count generalizing p with
  | zero =>
    have := h.line_le
    omega
  | succ count ih =>
    rw [semicolonLine?]
    by_cases hline : q.line = p.line
    · have hmem : ((s.elided p.line).drop p.column).contains ';' = true :=
        List.contains_iff_mem.mpr (h.mem_drop_iff.mpr hline)
      rw [if_pos hmem, hline]
    · have hmem : ¬ ((s.elided p.line).drop p.column).contains ';' = true :=
        fun hc => hline (h.mem_drop_iff.mp (List.contains_iff_mem.mp hc))
      rw [if_neg hmem]
      refine ih (h.next_line hline) ?_
      show q.line < p.line + 1 + count
      omega

/-- Before the semicolon its line holds another one just if one stands before the place on its line. -/
theorem earlier_iff (h : FirstSemicolon s p q) :
    ';' ∈ (s.elided q.line).take q.column ↔ q.line = p.line ∧ ';' ∈ (s.elided p.line).take p.column := by
  constructor
  · intro hmem
    obtain ⟨i, hi⟩ := List.mem_iff_getElem?.mp hmem
    rw [List.getElem?_take] at hi
    split at hi
    · rename_i hlt
      have hbefore := h.first ⟨q.line, i⟩ hi (.inr ⟨rfl, hlt⟩)
      have hle := h.line_le
      simp only [Place.Before] at hbefore
      have hline : q.line = p.line := by omega
      have hcolumn : i < p.column := by omega
      refine ⟨hline, List.mem_iff_getElem?.mpr ⟨i, ?_⟩⟩
      rw [List.getElem?_take, if_pos hcolumn, ← hline]
      exact hi
    · cases hi
  · rintro ⟨hline, hmem⟩
    rw [hline]
    exact (List.take_subset_take_left _ (h.column_le hline)) hmem

end FirstSemicolon

/-! ## What follows it -/

/-- Some backslash does not end the line. -/
def MarkInside (rest : Text) : Prop := ∃ front back, rest = front ++ '\\' :: back ∧ back ≠ [] ∧ back ≠ ['\n']

theorem has_blankOrClosing (c : Char) :
    (CharSet.union [.blank, .among "\x7d".toList]).has c = true ↔ Text.isBlank c = true ∨ c = '}' := by
  simp [CharSet.union, CharSet.has]

theorem isSome_run_mark {c : Cursor} : ((group 1 (opt "\\")).run (finish.run some) c).isSome = true ↔
    ∃ tail, (c.rest = '\\' :: tail ∨ c.rest = tail) ∧ (tail = [] ∨ tail = ['\n']) := by
  have hrun : (group 1 (opt "\\")).run (finish.run some) c
      = ((one (.among ['\\'])).run (fun d => finish.run some (c.remember d 1)) c).or
          (finish.run some (c.remember c 1)) := run_alt _ _ _ _
  rw [hrun, Option.isSome_or, Bool.or_eq_true, isSome_run_one, isSome_run_finish]
  constructor
  · rintro (⟨x, tail, hrest, hx, htail⟩ | htail)
    · obtain rfl : x = '\\' := by simpa [CharSet.has] using hx
      exact ⟨tail, .inl hrest, isSome_run_finish.mp htail⟩
    · exact ⟨c.rest, .inr rfl, htail⟩
  · rintro ⟨tail, hrest | rfl, htail⟩
    · exact .inl ⟨'\\', tail, hrest, rfl, isSome_run_finish.mpr htail⟩
    · exact .inr htail

theorem endsStatement_iff (rest : Text) : endsStatement.opens (';' :: rest) = true ↔
    ∃ body tail, (rest = body ++ '\\' :: tail ∨ rest = body ++ tail) ∧ (tail = [] ∨ tail = ['\n']) ∧
      ∀ c ∈ body, Text.isBlank c = true ∨ c = '}' := by
  have hrun : endsStatement.run some (Cursor.ofText (';' :: rest))
      = (literal [';']).run ((many (one (.union [.blank, .among "\x7d".toList]))).run
          ((group 1 (opt "\\")).run (finish.run some))) (Cursor.ofText (';' :: rest)) := rfl
  rw [opens, match?_eq, matchAt?, Option.isSome_map, hrun, run_literal_append rfl, isSome_run_many_one]
  simp only [has_blankOrClosing, isSome_run_mark, Cursor.advance]
  constructor
  · rintro ⟨body, left, hrest, hbody, tail, hmark | hnone, htail⟩
    · exact ⟨body, tail, .inl (hmark ▸ hrest), htail, hbody⟩
    · exact ⟨body, tail, .inr (hnone ▸ hrest), htail, hbody⟩
  · rintro ⟨body, tail, hmark | hnone, htail, hbody⟩
    · exact ⟨body, '\\' :: tail, hmark, hbody, tail, .inl rfl, htail⟩
    · exact ⟨body, tail, hnone, hbody, tail, .inr rfl, htail⟩

/-- Where nothing but blanks, closing brackets and backslashes follows, the statement ends unless a backslash stands
before the end of the line. -/
theorem endsStatement_of_trailing {rest : Text}
    (h : ∀ c ∈ rest, Text.isBlank c = true ∨ c = '}' ∨ c = '\\') :
    endsStatement.opens (';' :: rest) = true ↔ ¬ MarkInside rest := by
  rw [endsStatement_iff]
  constructor
  · rintro ⟨body, tail, hrest, htail, hbody⟩ ⟨front, back, hsplit, hnil, hfeed⟩
    have hbody' : '\\' ∉ body := fun hmem => absurd (hbody _ hmem) (by decide)
    have htail' : '\\' ∉ tail := by
      rcases htail with rfl | rfl
      · exact List.not_mem_nil
      · decide
    rcases hrest with hrest | hrest
    · have hback : back = tail := by
        rcases Bracket.cut_cases (hsplit.symm.trans hrest) with ⟨-, -, hback⟩ | ⟨z, hz, -⟩ | ⟨z, -, hz⟩
        · exact hback
        · exact absurd (by simp [hz]) hbody'
        · exact absurd (by simp [hz]) htail'
      subst hback
      rcases htail with htail | htail
      · exact hnil htail
      · exact hfeed htail
    · have hmem : '\\' ∈ rest := by
        rw [hsplit]
        exact List.mem_append_right _ List.mem_cons_self
      rw [hrest, List.mem_append] at hmem
      exact hmem.elim hbody' htail'
  · intro hinside
    by_cases hmem : '\\' ∈ rest
    · obtain ⟨front, back, hsplit, hfront⟩ := List.eq_append_cons_of_mem hmem
      have hback : back = [] ∨ back = ['\n'] := by
        by_cases hnil : back = []
        · exact .inl hnil
        · by_cases hfeed : back = ['\n']
          · exact .inr hfeed
          · exact absurd ⟨front, back, hsplit, hnil, hfeed⟩ hinside
      refine ⟨front, back, .inl hsplit, hback, fun c hc => ?_⟩
      rcases h c (hsplit ▸ List.mem_append_left _ hc) with hblank | hclosing | rfl
      · exact .inl hblank
      · exact .inr hclosing
      · exact absurd hc hfront
    · refine ⟨rest, [], .inr (List.append_nil _).symm, .inl rfl, fun c hc => ?_⟩
      rcases h c hc with hblank | hclosing | rfl
      · exact .inl hblank
      · exact .inr hclosing
      · exact absurd hc hmem

/-! ## The statement after a condition -/

/-- The condition of the `if` of line `n` ends at `p`. No curly bracket follows, and the statement after it ends at the
semicolon at `q`: on its line only blanks, closing brackets and backslashes follow, and the next line is not indented
deeper than line `n` and has no `else`. -/
structure BareStatement (s : Source) (n : Nat) (p q : Place) : Prop where
  condition : ∃ m, ifHead.search? (s.elided n) = some m ∧ (findClose s n (m.stop - 1)).place = some p
  noCurly : hasCurly s p = false
  ends : FirstSemicolon s p q
  trailing : ∀ c ∈ (s.elided q.line).drop (q.column + 1), Text.isBlank c = true ∨ c = '}' ∨ c = '\\'
  noElse : elseNext.opens (s.elided (q.line + 1)) = false
  notDeeper : Text.indentation (s.elided (q.line + 1)) ≤ Text.indentation (s.elided n)

def severalStatements (n : Nat) : Finding :=
  ⟨n, .readabilityBraces, 4, "If/else bodies with multiple statements require braces"⟩

theorem ifOrElse_of_ifHead {line : Text} (h : ifHead.occursIn line = true) : ifOrElse.occursIn line = true := by
  refine occursIn_mono (fun c hc => ?_) h
  -- Both begin at the edge of a word. What follows is the first way of the second pattern.
  refine monotone_run edge _ _ (fun e he => ?_) c hc
  refine (congrArg Option.isSome (run_alt _ _ _ e)).trans ?_
  rw [Option.isSome_or, Bool.or_eq_true]
  exact .inl (monotone_run ("if" ++ blanks ++ "(") _ _ (fun _ _ => rfl) e he)

namespace BareStatement

variable {s : Source} {n : Nat} {p q : Place}

theorem ifHead_occurs (h : BareStatement s n p q) : ifHead.occursIn (s.elided n) = true := by
  obtain ⟨m, hm, -⟩ := h.condition
  rw [occursIn, hm]
  rfl

theorem bodyStart?_eq (h : BareStatement s n p q) : bodyStart? s n = some p := by
  obtain ⟨m, hm, hplace⟩ := h.condition
  rw [bodyStart?, hm]
  exact hplace

/-- The character before the end of the condition is the bracket that closes it. -/
theorem closing_before (h : BareStatement s n p q) : ∃ k, p.column = k + 1 ∧ (s.elided p.line)[k]? = some ')' := by
  obtain ⟨m, hm, hplace⟩ := h.condition
  obtain ⟨before, hline, hstop⟩ := search?_last (x := '(') hm
  have hopen : (s.elided n)[m.stop - 1]? = some round.opening := by
    rw [hline, hstop]
    simp [Bracket.opening]
  obtain ⟨r, rfl, -, hclosing⟩ := findClose_pairs (p := ⟨n, m.stop - 1⟩) (by decide) hopen hplace
  exact ⟨r.column, rfl, hclosing⟩

theorem bareStatement_eq (h : BareStatement s n p q) (hdirective : Directive.isDirective (s.elided n) = false) :
    bareStatement s n = ending s n q.line := by
  have hinside : q.line < p.line + (s.size - p.line) := by
    have := line_lt_size h.ends.semicolon
    have := h.ends.line_le
    omega
  have hline := h.ends.semicolonLine?_eq hinside
  rw [bareStatement, hdirective, ifOrElse_of_ifHead h.ifHead_occurs, h.bodyStart?_eq]
  simp [h.noCurly, hline]

/-- With an earlier semicolon on its line, what is read holds the bracket that closes the condition. -/
theorem not_ends_of_earlier (h : BareStatement s n p q) (hline : q.line = p.line)
    (hmem : ';' ∈ (s.elided p.line).take p.column) :
    endsStatement.opens ((s.elided q.line).dropWhile (· != ';')) = false := by
  obtain ⟨k, hk, hclosing⟩ := h.closing_before
  obtain ⟨front, back, hsplit, hfront⟩ := List.eq_append_cons_of_mem hmem
  have htext : s.elided p.line = front ++ ';' :: (back ++ (s.elided p.line).drop p.column) := by
    rw [← List.cons_append, ← List.append_assoc, ← hsplit, List.take_append_drop]
  have hdrop : (s.elided q.line).dropWhile (· != ';') = ';' :: (back ++ (s.elided p.line).drop p.column) := by
    rw [hline]
    exact (congrArg _ htext).trans (fromSemicolon_eq hfront _)
  -- It stands in what was read before the end of the condition, but it is not the semicolon and not before it.
  have hmem' : ')' ∈ back ++ (s.elided p.line).drop p.column := by
    have hlength : p.column ≤ (s.elided p.line).length := by
      obtain ⟨hlt, -⟩ := List.getElem?_eq_some_iff.mp hclosing
      omega
    have hlast : ((s.elided p.line).take p.column).getLast? = some ')' := by
      rw [List.getLast?_eq_getElem?, List.length_take, Nat.min_eq_left hlength, List.getElem?_take]
      simpa [hk] using hclosing
    rw [hsplit, Text.getLast?_of_suffix (List.suffix_append front _) (List.cons_ne_nil _ _)] at hlast
    cases back with
    | nil => cases hlast
    | cons x xs =>
      rw [List.getLast?_cons_cons] at hlast
      exact List.mem_append_left _ (List.mem_of_getLast? hlast)
  rw [hdrop, Bool.eq_false_iff]
  intro hends
  obtain ⟨body, tail, hrest, htail, hbody⟩ := (endsStatement_iff _).mp hends
  have hbody' : ')' ∉ body := fun hc => absurd (hbody _ hc) (by decide)
  have htail' : ')' ∉ tail := by
    rcases htail with rfl | rfl
    · exact List.not_mem_nil
    · decide
  rcases hrest with hrest | hrest
  · rw [hrest] at hmem'
    simp [hbody', htail'] at hmem'
  · rw [hrest] at hmem'
    simp [hbody', htail'] at hmem'

theorem rest_of_first (h : BareStatement s n p q) (hfirst : ';' ∉ (s.elided q.line).take q.column) :
    (s.elided q.line).dropWhile (· != ';') = ';' :: (s.elided q.line).drop (q.column + 1) := by
  exact (congrArg _ (cut_at h.ends.semicolon)).trans (fromSemicolon_eq hfirst _)

/-- The rest is read as the end of the statement just if no earlier semicolon stands on the line and no backslash before
its end. -/
theorem ends_iff (h : BareStatement s n p q) : endsStatement.opens ((s.elided q.line).dropWhile (· != ';')) = true ↔
    ¬ ((q.line = p.line ∧ ';' ∈ (s.elided p.line).take p.column) ∨
      MarkInside ((s.elided q.line).drop (q.column + 1))) := by
  by_cases hearlier : ';' ∈ (s.elided q.line).take q.column
  · obtain ⟨hline, hmem⟩ := h.ends.earlier_iff.mp hearlier
    rw [h.not_ends_of_earlier hline hmem]
    exact iff_of_false Bool.false_ne_true fun hno => hno (.inl ⟨hline, hmem⟩)
  · rw [h.rest_of_first hearlier, endsStatement_of_trailing h.trailing, ← h.ends.earlier_iff, or_iff_right hearlier]

theorem ending_eq (h : BareStatement s n p q) : ending s n q.line =
    if endsStatement.opens ((s.elided q.line).dropWhile (· != ';')) || lambdaLine.opens (s.elided q.line) then []
    else [severalStatements n] := by
  have hdeeper : ¬ Text.indentation (s.elided n) < Text.indentation (s.elided (q.line + 1)) :=
    Nat.not_lt_of_le h.notDeeper
  rw [ending]
  cases endsStatement.opens ((s.elided q.line).dropWhile (· != ';')) with
  | false => cases lambdaLine.opens (s.elided q.line) <;> rfl
  | true => simp [h.noElse, hdeeper]

end BareStatement

/-- The other rules about curly brackets say something else. -/
theorem severalStatements_mem_findings {settings : Settings} {s : Source} {n : Nat} :
    severalStatements n ∈ findings settings s n ↔ severalStatements n ∈ bareStatement s n := by
  simp [findings, position, sharedLine, Finding.when, severalStatements]

/-- After a condition, one statement without curly brackets that ends its line is accepted unless a semicolon stands
before the end of the condition on the line of its own, or a backslash before the end of this line. -/
theorem told_of_bare_statement_iff (settings : Settings) (s : Source) (n : Nat) (p q : Place)
    (h : BareStatement s n p q) :
    severalStatements n ∈ findings settings s n ↔
      Directive.isDirective (s.elided n) = false ∧ lambdaLine.opens (s.elided q.line) = false ∧
        ((q.line = p.line ∧ ';' ∈ (s.elided p.line).take p.column) ∨
          MarkInside ((s.elided q.line).drop (q.column + 1))) := by
  rw [severalStatements_mem_findings]
  by_cases hdirective : Directive.isDirective (s.elided n) = true
  · simp [bareStatement, hdirective]
  · rw [Bool.not_eq_true] at hdirective
    rw [h.bareStatement_eq hdirective, h.ending_eq]
    have hends := h.ends_iff
    cases hopens : endsStatement.opens ((s.elided q.line).dropWhile (· != ';')) with
    | true => simp [hends.mp hopens]
    | false =>
      have htold := not_not.mp ((not_congr hends).mp (by simp [hopens]))
      cases lambdaLine.opens (s.elided q.line) <;> simp [hdirective, htold]

def loop : Source := Source.ofLines ["  for (int i = 0; i < n; ++i) if (a) b();".toList]

theorem loop_bareStatement : BareStatement loop 0 ⟨0, 36⟩ ⟨0, 40⟩ := by
  have hline : loop.elided 0 = "  for (int i = 0; i < n; ++i) if (a) b();".toList := by decide +kernel
  have hnext : loop.elided 1 = [] := by decide +kernel
  refine ⟨?_, by decide +kernel, ⟨?_, by decide, ?_⟩, ?_, ?_, ?_⟩
  · have hstop : (ifHead.search? (loop.elided 0)).map (fun m => (findClose loop 0 (m.stop - 1)).place)
        = some (some ⟨0, 36⟩) := by decide +kernel
    exact Option.map_eq_some_iff.mp hstop
  · rw [hline]
    rfl
  · intro r hr hbefore
    have hcolumns : ∀ k < 40, "  for (int i = 0; i < n; ++i) if (a) b();".toList[k]? = some ';' → k < 36 := by decide
    rcases hbefore with hlt | ⟨hzero, hlt⟩
    · exact absurd hlt (Nat.not_lt_zero _)
    · rw [hzero, hline] at hr
      exact .inr ⟨hzero, hcolumns r.column hlt hr⟩
  · rw [hline]
    exact fun c hc => absurd hc List.not_mem_nil
  · rw [hnext]
    decide
  · rw [hnext]
    exact Nat.zero_le _

/-- The statement of the `if` is taken for more than one because of the semicolons in the head of the loop. -/
theorem told_of_bare_statement_iff_loop :
    BareStatement loop 0 ⟨0, 36⟩ ⟨0, 40⟩ ∧ severalStatements 0 ∈ findings {} loop 0 := by
  refine ⟨loop_bareStatement, (told_of_bare_statement_iff {} loop 0 _ _ loop_bareStatement).mpr ?_⟩
  exact ⟨by decide +kernel, by decide +kernel, .inl ⟨rfl, by decide +kernel⟩⟩

end StyleCheck.Rule.Braces
