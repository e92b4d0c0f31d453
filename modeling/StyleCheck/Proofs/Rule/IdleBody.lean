/-
  StyleCheck.Proofs.Rule.IdleBody — what stands between the brackets of an `if` that does nothing.

  The brackets are those that follow the condition with only blanks before them (`FollowsBlanks`), and the search finds
  them (`curlyFrom?_eq`). If they are told about, the lines between those of the brackets are blank. On the lines of the
  brackets themselves the rule looks at what is left when comments and literals are taken out. No comment may be seen on
  the first one, but this is judged by the line as it was read, with its raw strings, and the other line may hold any
  comment before the bracket. So the text between the brackets is blank just if it holds no slash and no backslash
  (`idle_body_blank_iff`).
-/

import StyleCheck.Proofs.Bracket.Enclosed
import StyleCheck.Proofs.Rule.Speech
import StyleCheck.Proofs.Source.ShownBracket
import StyleCheck.Rule.EmptyBody

namespace StyleCheck.Rule.EmptyBody

open StyleCheck.Bracket

/-! ## The brackets -/

structure FollowsBlanks (s : Source) (p q : Place) : Prop where
  after : ¬ q.Before p
  blank : ∀ (r : Place) (c : Char), ¬ r.Before p → r.Before q → (s.elided r.line)[r.column]? = some c →
    Text.isBlank c = true

namespace FollowsBlanks

variable {s : Source} {p q : Place}

theorem line_le (h : FollowsBlanks s p q) : p.line ≤ q.line :=
  Nat.le_of_not_lt fun hlt => h.after (.inl hlt)

/-- On the line of the bracket, blanks stand before it. -/
theorem rest_eq (h : FollowsBlanks s p q) (hline : q.line = p.line) (hq : (s.elided q.line)[q.column]? = some '{') :
    ∃ blanks rest, (s.elided p.line).drop p.column = blanks ++ '{' :: rest ∧ Text.allBlank blanks = true ∧
      q.column = p.column + blanks.length := by
  have hle : p.column ≤ q.column := Nat.le_of_not_lt fun hlt => h.after (.inr ⟨hline, hlt⟩)
  obtain ⟨d, hd⟩ := Nat.exists_eq_add_of_le hle
  have hcurly : ((s.elided p.line).drop p.column)[d]? = some '{' := by
    rw [List.getElem?_drop, ← hd, ← hline]
    exact hq
  obtain ⟨hlt, -⟩ := List.getElem?_eq_some_iff.mp hcurly
  refine ⟨_, _, cut_at hcurly, List.all_eq_true.mpr fun c hc => ?_, ?_⟩
  · obtain ⟨i, hi⟩ := List.mem_iff_getElem?.mp hc
    rw [List.getElem?_take] at hi
    split at hi
    · rename_i hid
      rw [List.getElem?_drop] at hi
      refine h.blank ⟨p.line, p.column + i⟩ c ?_ (.inr ⟨hline.symm, by simp only; omega⟩) hi
      unfold Place.Before
      simp only
      omega
    · cases hi
  · rw [List.length_take]
    omega

/-- Above the line of the bracket only blanks stand. -/
theorem allBlank_rest (h : FollowsBlanks s p q) (hline : p.line < q.line) :
    Text.allBlank ((s.elided p.line).drop p.column) = true := by
  refine List.all_eq_true.mpr fun c hc => ?_
  obtain ⟨i, hi⟩ := List.mem_iff_getElem?.mp hc
  rw [List.getElem?_drop] at hi
  refine h.blank ⟨p.line, p.column + i⟩ c ?_ (.inl hline) hi
  unfold Place.Before
  simp only
  omega

theorem next (h : FollowsBlanks s p q) (hline : p.line < q.line) : FollowsBlanks s ⟨p.line + 1, 0⟩ q where
  after := by
    unfold Place.Before
    simp only
    omega
  blank r c hr hrq hc := by
    refine h.blank r c (fun hrp => hr ?_) hrq hc
    unfold Place.Before at hrp ⊢
    simp only
    omega

end FollowsBlanks

theorem opensWith_blanks {blanks : Text} (h : Text.allBlank blanks = true) (rest : Text) :
    Text.opensWith '{' (blanks ++ '{' :: rest) = true ∧ (blanks ++ '{' :: rest).takeWhile (· != '{') = blanks := by
  have hall := List.all_eq_true.mp h
  constructor
  · rw [Text.opensWith, List.dropWhile_append_of_pos hall]
    rfl
  · have hcurly : '{' ∉ blanks := fun hmem => by cases hall _ hmem
    rw [List.takeWhile_append_of_pos (Text.forall_bne_of_notMem hcurly)]
    simp

theorem opensWith_of_allBlank {rest : Text} (h : Text.allBlank rest = true) : Text.opensWith '{' rest = false := by
  rw [Text.opensWith, List.dropWhile_eq_nil_iff.mpr (List.all_eq_true.mp h)]
  rfl

/-- The bracket is found. -/
theorem curlyFrom?_eq {s : Source} {p q : Place} (h : FollowsBlanks s p q) (hq : (s.elided q.line)[q.column]? = some '{')
    {count : Nat} (hcount : q.line < p.line + count) : curlyFrom? s p.line p.column count = some q := by
  induction count generalizing p with
  | zero =>
    have := h.line_le
    omega
  | succ count ih =>
    unfold curlyFrom?
    by_cases hline : q.line = p.line
    · obtain ⟨blanks, rest, hrest, hblanks, hcolumn⟩ := h.rest_eq hline hq
      obtain ⟨hopens, htake⟩ := opensWith_blanks hblanks rest
      simp only [hrest, hopens, if_true, htake]
      rw [← hcolumn, ← hline]
    · have hlt : p.line < q.line := by
        have := h.line_le
        omega
      have hblank := h.allBlank_rest hlt
      simp only [opensWith_of_allBlank hblank, hblank, if_true, Bool.false_eq_true, if_false]
      exact ih (h.next hlt) (by simp only; omega)

/-! ## What is told -/

def idle (line : Nat) : Finding := ⟨line, .whitespaceEmptyIfBody, 4, "If statement had no body and no else clause"⟩

/-- On line `n` an `if` is told about whose condition ends at `p`, and its curly brackets stand at `opening` and
`closing`. -/
structure IdleIf (s : Source) (n : Nat) (p opening closing : Place) : Prop where
  condition : ∃ m, head.match? (s.elided n) = some m ∧ (findClose s n (m.stop - 1)).place = some p
  told : idle p.line ∈ findings s n
  opens : (s.elided opening.line)[opening.column]? = some '{'
  follows : FollowsBlanks s p opening
  pairs : Pairs s opening closing

namespace IdleIf

variable {s : Source} {n : Nat} {p opening closing : Place}

theorem isIdle (h : IdleIf s n p opening closing) : isIdle s p = true := by
  obtain ⟨m, hm, hp⟩ := h.condition
  have htold := h.told
  simp only [findings, hm, hp, List.mem_append, Finding.mem_when] at htold
  rcases htold with ⟨-, heq⟩ | ⟨hidle, -⟩
  · split at heq <;> cases heq
  · exact (Bool.and_eq_true_iff.mp hidle).2

theorem closes (h : IdleIf s n p opening closing) : (s.elided closing.line)[closing.column]? = some '}' :=
  h.pairs.getElem?_closing (b := curly) h.opens

/-- The text between the brackets was found to be empty. -/
theorem isEmptyBetween (h : IdleIf s n p opening closing) :
    isEmptyBetween s opening ⟨closing.line, closing.column + 1⟩ = true := by
  have hopening : curlyFrom? s p.line p.column (s.size - p.line) = some opening := by
    refine curlyFrom?_eq h.follows h.opens ?_
    have := line_lt_size h.opens
    have := h.follows.line_le
    omega
  have hclosing : (findClose s opening.line opening.column).place = some ⟨closing.line, closing.column + 1⟩ :=
    ((findClose_answers s opening (b := curly) (by decide) h.opens).place_iff (fun _ _ => Nat.succ.inj) closing).mpr
      ((found_iff_pairs (b := curly) (by decide) h.opens).mpr h.pairs)
  have hidle := h.isIdle
  simp only [EmptyBody.isIdle, hopening, hclosing, Bool.and_eq_true] at hidle
  exact hidle.1

/-- The line of the first bracket is left as it is when comments are taken out of it. -/
theorem drop_raw (h : IdleIf s n p opening closing) : Comment.drop (s.raw opening.line) = s.raw opening.line := by
  have hempty := h.isEmptyBetween
  rw [EmptyBody.isEmptyBetween, Bool.and_eq_true, beq_iff_eq] at hempty
  exact hempty.1.symm

theorem blank_apart (h : IdleIf s n p opening closing) (hline : opening.line < closing.line) :
    Text.allBlank ((s.elided opening.line).drop (opening.column + 1)) = true ∧
    (∀ k, opening.line < k → k < closing.line → Text.allBlank (s.raw k) = true) ∧
    Text.allBlank ((s.elided closing.line).take closing.column) = true := by
  have hempty := h.isEmptyBetween
  simp only [EmptyBody.isEmptyBetween, hline, if_true, Bool.and_eq_true, Nat.add_sub_cancel] at hempty
  obtain ⟨-, ⟨hfirst, hmiddle⟩, hlast⟩ := hempty
  refine ⟨hfirst, fun k hk hk' => ?_, hlast⟩
  refine List.all_eq_true.mp hmiddle _ (List.mem_map.mpr ⟨k, ?_, rfl⟩)
  rw [List.mem_range'_1]
  omega

theorem blank_same (h : IdleIf s n p opening closing) (hline : closing.line = opening.line) :
    Text.allBlank (Text.slice (opening.column + 1) closing.column (s.elided opening.line)) = true := by
  have hempty := h.isEmptyBetween
  simp only [EmptyBody.isEmptyBetween, hline, Nat.lt_irrefl, if_false, Bool.and_eq_true, Nat.add_sub_cancel] at hempty
  exact hempty.2

end IdleIf

open Source

/-- The brackets of an `if` that is told about stand in the file with nothing but blanks between them, unless comments
or escapes do: the line of the first one holds no comment if it is read with its raw strings, and the lines between are
blank, but a slash or a backslash may stand beside the brackets. -/
theorem idle_body_blank_iff (raws : List Text) (n : Nat) (p opening closing : Place)
    (hlines : ∀ raw ∈ raws, '\n' ∉ raw) (h : IdleIf (ofLines raws) n p opening closing)
    (hopening : Include.ofLine? ((ofLines raws).plain opening.line) = none)
    (hclosing : Include.ofLine? ((ofLines raws).plain closing.line) = none) :
    ∃ a b, SeenAt raws opening a ∧ SeenAt raws closing b ∧
      Comment.drop ((ofLines raws).raw a.line) = (ofLines raws).raw a.line ∧
      (∀ k, a.line < k → k < b.line → Text.allBlank ((ofLines raws).raw k) = true) ∧
      (Text.allBlank (rawBetween (ofLines raws) a b) = true ↔
        '/' ∉ rawBetween (ofLines raws) a b ∧ '\\' ∉ rawBetween (ofLines raws) a b) := by
  rcases h.pairs.before with hline | ⟨hline, hcolumn⟩
  · obtain ⟨hfirst, hmiddle, hlast⟩ := h.blank_apart hline
    obtain ⟨i, j, ha, hb, hbetween⟩ :=
      exists_seenAt_apart hlines hline h.opens h.closes hopening hclosing hfirst hmiddle hlast
    exact ⟨_, _, ha, hb, h.drop_raw, hmiddle, allBlank_iff_of_blankOrLost hbetween⟩
  · cases closing with
    | mk line column =>
      obtain rfl : opening.line = line := hline
      obtain ⟨i, j, ha, hb, hbetween⟩ :=
        exists_seenAt_same hlines hcolumn h.opens h.closes hopening (h.blank_same rfl)
      refine ⟨_, _, ha, hb, h.drop_raw, fun k hk hk' => ?_, allBlank_iff_of_blankOrLost hbetween⟩
      exact absurd hk' (Nat.lt_asymm hk)

def commented : List Text := ["if (a) \x7b".toList, "/* b */ \x7d".toList]

theorem commented_elided :
    (ofLines commented).elided 0 = "if (a) \x7b".toList ∧ (ofLines commented).elided 1 = "\x7d".toList := by
  constructor <;> decide +kernel

theorem commented_idleIf : IdleIf (ofLines commented) 0 ⟨0, 6⟩ ⟨0, 7⟩ ⟨1, 0⟩ := by
  obtain ⟨hfirst, hlast⟩ := commented_elided
  have hopens : ((ofLines commented).elided 0)[7]? = some '{' := by
    rw [hfirst]
    rfl
  refine ⟨?_, by decide +kernel, hopens, ⟨by decide, ?_⟩, ?_⟩
  · have hplace : (head.match? ((ofLines commented).elided 0)).map
        (fun m => (findClose (ofLines commented) 0 (m.stop - 1)).place) = some (some ⟨0, 6⟩) := by decide +kernel
    exact Option.map_eq_some_iff.mp hplace
  · intro r c hr hbefore hc
    unfold Place.Before at hr hbefore
    simp only at hr hbefore
    obtain ⟨hline, hcolumn⟩ : r.line = 0 ∧ r.column = 6 := by omega
    rw [hline, hcolumn, hfirst] at hc
    obtain rfl : ' ' = c := Option.some.inj hc
    decide
  · refine (found_iff_pairs (b := curly) (by decide) hopens).mp ?_
    refine ((findClose_answers _ ⟨0, 7⟩ (b := curly) (by decide) hopens).place_iff (fun _ _ => Nat.succ.inj) ⟨1, 0⟩).mp ?_
    decide +kernel

/-- The comment is not seen. -/
theorem idle_body_blank_iff_commented :
    IdleIf (ofLines commented) 0 ⟨0, 6⟩ ⟨0, 7⟩ ⟨1, 0⟩ ∧
    ∃ a b, SeenAt commented ⟨0, 7⟩ a ∧ SeenAt commented ⟨1, 0⟩ b ∧
      Text.allBlank (rawBetween (ofLines commented) a b) = false := by
  refine ⟨commented_idleIf, ?_⟩
  obtain ⟨a, b, ha, hb, -, -, hiff⟩ := idle_body_blank_iff commented 0 ⟨0, 6⟩ ⟨0, 7⟩ ⟨1, 0⟩ (by decide)
    commented_idleIf (by decide +kernel) (by decide +kernel)
  refine ⟨a, b, ha, hb, Bool.eq_false_iff.mpr fun hblank => (hiff.mp hblank).1 ?_⟩
  have haline : a.line = 0 := ha.line
  have hbline : b.line = 1 := hb.line
  have hlast : (ofLines commented).raw 1 = "/* b */ \x7d".toList := raw_of_getElem? rfl
  rw [rawBetween, if_neg (by omega), hbline, hlast]
  refine List.mem_append_right _ ?_
  -- The bracket is not the first character of its line.
  cases hcolumn : b.column with
  | zero =>
    have hchar := hb.char
    rw [hbline, hcolumn, hlast, commented_elided.2] at hchar
    cases hchar
  | succ column => exact List.mem_cons_self

end StyleCheck.Rule.EmptyBody
