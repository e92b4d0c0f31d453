/-
  StyleCheck.Proofs.Rule.AssertionTurns — how the expression of an assertion is read.

  1. The expression is read in turns, each of which shortens what is left of it, so the turns come to an end
     (`reads_term?`).
  2. A turn that goes on has read a pair of round brackets with what stands in it, or a piece without opening brackets in
     which no logical operator begins (`Piece`, `turn_on`).
  3. So in what has been read all round brackets are closed, and every logical operator stands within a pair of them
     (`Progress`). Where the turns end at a comparison, and what follows it holds no logical operator, the expression has
     none outside round brackets, and the comparison stands outside of them (`single_of_term?`).
-/

import StyleCheck.Proofs.Bracket.Enclosed
import StyleCheck.Proofs.Source.IncludeView
import StyleCheck.Rule.Assertion

namespace StyleCheck.Rule.Assertion

open StyleCheck.Bracket

/-! ## Turns -/

inductive Turn where
  | on (left expression : Text)
  | stop (t : Option Term)

def turn (left expression : Text) : Turn :=
  match token? expression with
  | some (.bracket, rest) =>
    match scan [round] [] 0 rest with
    | .found stop => .on (left ++ '(' :: rest.take stop) (rest.drop stop)
    | _ => .stop none
  | some (.logical, _) => .stop none
  | some (.other sign, rest) => .on (left ++ sign) rest
  | some (.comparison c, rest) => .stop (some ⟨left, c, rest⟩)
  | none =>
    match operand? expression with
    | some (lead, rest) => .on (left ++ lead) rest
    | none => .stop none

inductive Reads : (turns : Nat) → (left expression : Text) → Option Term → Prop
  | stop {left expression : Text} {t : Option Term} : turn left expression = .stop t → Reads 1 left expression t
  | on {turns : Nat} {left expression left' expression' : Text} {t : Option Term} :
      turn left expression = .on left' expression' → Reads turns left' expression' t →
      Reads (turns + 1) left expression t

/-- A reading is one turn, and then the rest of the reading. -/
theorem term?_eq_turn (left expression : Text) :
    term? left expression
      = match turn left expression with
        | .on left' expression' => term? left' expression'
        | .stop t => t := by
  rw [term?]
  split
  · rename_i rest htoken
    simp only [turn, htoken]
    cases scan [round] [] 0 rest <;> rfl
  · rename_i htoken
    simp only [turn, htoken]
  · rename_i htoken
    simp only [turn, htoken]
  · rename_i htoken
    simp only [turn, htoken]
  · rename_i htoken
    simp only [turn, htoken]
    split
    · rename_i hoperand
      simp only [hoperand]
    · rename_i hoperand
      simp only [hoperand]

/-! ## What a turn reads -/

theorem restOfLine?_eq_some {s t : Text} (h : Text.restOfLine? s = some t) :
    ∃ feeds, s = t ++ feeds ∧ ∀ c ∈ feeds, c = '\n' := by
  have hsplit := List.takeWhile_append_dropWhile (p := (· != '\n')) (l := s)
  have hhead := List.head?_dropWhile_not (· != '\n') s
  simp only [Text.restOfLine?] at h
  refine ⟨s.dropWhile (· != '\n'), ?_, ?_⟩
  · split at h
    · cases h
      exact hsplit.symm
    · cases h
      exact hsplit.symm
    · cases h
  · split at h
    · rename_i hrest
      rw [hrest]
      simp
    · rename_i c hrest
      rw [hrest] at hhead ⊢
      simpa using hhead
    · cases h

theorem isSome_restOfLine?_drop {s : Text} (h : (Text.restOfLine? s).isSome = true) (k : Nat) :
    (Text.restOfLine? (s.drop k)).isSome = true := by
  rw [Text.restOfLine?_isSome] at h ⊢
  intro hmem
  exact h ((Text.dropLast_sublist_dropLast (List.drop_sublist k s)).subset hmem)

theorem token?_eq_some {expression rest : Text} {t : Token} (h : token? expression = some (t, rest)) :
    ∃ gap sign feeds, expression = gap ++ (sign ++ (rest ++ feeds)) ∧ (∀ c ∈ gap, Text.isBlank c = true) ∧
      (sign, t) ∈ tokens ∧ ∀ c ∈ feeds, c = '\n' := by
  simp only [token?] at h
  split at h
  · cases h
  · rename_i sign token hfind
    obtain ⟨r, hr, heq⟩ := Option.map_eq_some_iff.mp h
    cases heq
    obtain ⟨feeds, hfeeds, hall⟩ := restOfLine?_eq_some hr
    have hsign := List.find?_some hfind
    obtain ⟨tail, htail⟩ := List.isPrefixOf_iff_prefix.mp hsign
    refine ⟨expression.takeWhile Text.isBlank, sign, feeds, ?_, ?_, List.mem_of_find?_eq_some hfind, hall⟩
    · have hdrop : tail = rest ++ feeds := by
        rw [← hfeeds, ← htail, List.drop_left]
      rw [← hdrop, htail, List.takeWhile_append_dropWhile]
    · intro c hc
      exact List.mem_takeWhile_imp hc

/-- Where a turn takes a single sign, the expression begins with no operator. -/
theorem not_prefix_of_token?_eq_none {c : Char} {cs : Text} (h : token? (c :: cs) = none) (hc : isOperand c = false)
    (hline : (Text.restOfLine? cs).isSome = true) {sign : Text} {t : Token} (ht : (sign, t) ∈ tokens) :
    ¬ sign <+: c :: cs := by
  intro hsign
  have hvisible : Text.isBlank c = false := by
    have hsigns : "-=!<>()&|".toList.all (fun c => !Text.isBlank c) = true := by decide
    have hmem : c ∈ "-=!<>()&|".toList := by
      simpa only [isOperand, Bool.not_eq_false', List.contains_iff_mem] using hc
    simpa using List.all_eq_true.mp hsigns c hmem
  have hdrop : (c :: cs).dropWhile Text.isBlank = c :: cs := by simp [hvisible]
  simp only [token?, hdrop] at h
  split at h
  · rename_i hfind
    exact absurd (List.isPrefixOf_iff_prefix.mpr hsign) (by simpa using List.find?_eq_none.mp hfind _ ht)
  · rename_i sign' t' hfind
    have hpos := tokens_pos (List.mem_of_find?_eq_some hfind)
    obtain ⟨k, hk⟩ := Nat.exists_eq_succ_of_ne_zero (Nat.ne_of_gt hpos)
    have hsome := isSome_restOfLine?_drop hline k
    simp only at hk
    rw [hk, List.drop_succ_cons] at h
    rw [Option.map_eq_none_iff.mp h] at hsome
    cases hsome

theorem operand?_eq_some {expression lead rest : Text} (h : operand? expression = some (lead, rest)) :
    ∃ feeds, expression = lead ++ (rest ++ feeds) ∧ (∀ c ∈ feeds, c = '\n') ∧
      ((∀ c ∈ lead, isOperand c = true) ∨
        ∃ c, lead = [c] ∧ isOperand c = false ∧ (Text.restOfLine? (rest ++ feeds)).isSome = true) := by
  cases expression with
  | nil => cases h
  | cons c cs =>
    simp only [operand?] at h
    split at h
    · obtain ⟨r, hr, heq⟩ := Option.map_eq_some_iff.mp h
      cases heq
      obtain ⟨feeds, hfeeds, hall⟩ := restOfLine?_eq_some hr
      refine ⟨feeds, ?_, hall, .inl ?_⟩
      · rw [← hfeeds, List.takeWhile_append_dropWhile]
      · intro d hd
        exact List.mem_takeWhile_imp hd
    · rename_i hc
      obtain ⟨r, hr, heq⟩ := Option.map_eq_some_iff.mp h
      cases heq
      obtain ⟨feeds, hfeeds, hall⟩ := restOfLine?_eq_some hr
      refine ⟨feeds, congrArg (c :: ·) hfeeds, hall, .inr ⟨c, rfl, by simpa using hc, ?_⟩⟩
      rw [← hfeeds, hr]
      rfl

/-! ## Brackets -/

theorem chars_cellsOf (line column : Nat) (t : Text) : chars (cellsOf line column t) = t := by
  induction t generalizing column with
  | nil => rfl
  | cons c t ih => exact congrArg (c :: ·) (ih (column + 1))

/-- The scan after an opening round bracket ends behind the closing one, and what stands between is nested. -/
theorem scan_round_found {rest : Text} {stop : Nat} (h : scan [round] [] 0 rest = .found stop) :
    ∃ inner, rest = inner ++ ')' :: rest.drop stop ∧ rest.take stop = inner ++ [')'] ∧ Nested (signs inner) := by
  have hagrees := scan_agrees 0 [] rest [] 0 (grounded_singleton (b := round) (by decide))
  rw [h, List.append_nil, firm_cons (by decide)] at hagrees
  obtain ⟨column, rfl, hfound⟩ := hagrees
  obtain ⟨m, c, v, hcells, hwalk, hcloses⟩ := (search_found_iff .forwards [] round _ _).mp hfound
  obtain ⟨-, rfl, -⟩ := of_closes? hcloses
  obtain ⟨inner, after, rfl, rfl, hplace⟩ := cellsOf_cut hcells
  rw [chars_cellsOf] at hwalk
  have hcolumn : column = inner.length := (Place.mk.inj hplace).2.trans (Nat.zero_add _)
  have hlength : column + 1 = (inner ++ [')']).length := by rw [hcolumn, List.length_append, List.length_singleton]
  have hcut : inner ++ round.closing :: after = (inner ++ [')']) ++ after := by
    rw [List.append_assoc]
    rfl
  refine ⟨inner, ?_, ?_, (nested_iff_walk inner).mpr hwalk⟩
  · show _ = inner ++ ')' :: (inner ++ round.closing :: after).drop (column + 1)
    rw [hlength, hcut, List.drop_left, List.append_assoc]
    rfl
  · show (inner ++ round.closing :: after).take (column + 1) = _
    rw [hlength, hcut, List.take_left]

def IsLogical (x : Char) : Prop := x = '&' ∨ x = '|'

namespace IsLogical

variable {x : Char}

theorem not_blank (hx : IsLogical x) : Text.isBlank x = false := by
  rcases hx with rfl | rfl <;> rfl

theorem not_sign (hx : IsLogical x) : isSign x = false := by
  rcases hx with rfl | rfl <;> rfl

theorem not_operand (hx : IsLogical x) : isOperand x = false := by
  rcases hx with rfl | rfl <;> decide

theorem token (hx : IsLogical x) : ([x, x], Token.logical) ∈ tokens := by
  rcases hx with rfl | rfl <;> decide

theorem notMem_sign (hx : IsLogical x) (c : Comparison) : x ∉ c.sign.toList := by
  rcases hx with rfl | rfl <;> cases c <;> decide

theorem ne_feed (hx : IsLogical x) : x ≠ '\n' := by
  rcases hx with rfl | rfl <;> decide

end IsLogical

/-- What one turn reads, `after` being what follows it: a pair of round brackets with what stands in it, or a piece without
opening brackets in which no logical operator begins. -/
inductive Piece (after : Text) : Text → Prop
  | brackets {gap inner : Text} : (∀ c ∈ gap, Text.isBlank c = true) → Nested (signs inner) →
      Piece after (gap ++ '(' :: (inner ++ [')']))
  | plain {piece : Text} : '(' ∉ piece →
      (∀ x, IsLogical x → ∀ u v, piece ++ after = u ++ x :: x :: v → piece.length ≤ u.length) → Piece after piece

/-- A piece without the signs of logical operators. -/
theorem Piece.of_notMem {after piece : Text} (hround : '(' ∉ piece) (hlogical : ∀ x, IsLogical x → x ∉ piece) :
    Piece after piece := by
  refine .plain hround fun x hx u v huv => Nat.le_of_not_lt fun hlt => hlogical x hx ?_
  rcases cut_append huv with ⟨m, rfl, -⟩ | ⟨v', rfl, -⟩
  · rw [List.length_append] at hlt
    omega
  · simp

/-- A single sign with which no operator begins. -/
theorem Piece.of_no_operator {c : Char} {cs tail : Text} (htail : ∀ c ∈ tail, c = '\n')
    (h : ∀ sign t, (sign, t) ∈ tokens → ¬ sign <+: c :: cs) : Piece (cs ++ tail) [c] := by
  refine .plain ?_ fun x hx u v huv => ?_
  · intro hmem
    obtain rfl := List.mem_singleton.mp hmem
    exact h ['('] .bracket (by decide) (List.prefix_append ['('] cs)
  · cases u with
    | cons y u => exact Nat.succ_le_succ (Nat.zero_le _)
    | nil =>
      obtain ⟨rfl, hrest⟩ := List.cons.inj huv
      cases cs with
      | nil => exact absurd (htail c (by rw [show tail = c :: v from hrest]; simp)) hx.ne_feed
      | cons d cs =>
        obtain ⟨rfl, -⟩ := List.cons.inj hrest
        exact absurd (List.prefix_append [d, d] cs) (h _ _ hx.token)

theorem mem_tokens_bracket {sign : Text} (h : (sign, Token.bracket) ∈ tokens) : sign = ['('] := by
  have hall : ∀ t ∈ tokens, t.2 = .bracket → t.1 = ['('] := by decide
  exact hall _ h rfl

theorem mem_tokens_other {sign sign' : Text} (h : (sign, Token.other sign') ∈ tokens) :
    sign = sign' ∧ '(' ∉ sign ∧ ∀ x, IsLogical x → x ∉ sign := by
  simp only [tokens, List.mem_cons, Prod.mk.injEq, Token.other.injEq, reduceCtorEq, and_false, List.not_mem_nil,
    or_false] at h
  rcases h with ⟨rfl, rfl⟩ | ⟨rfl, rfl⟩ | ⟨rfl, rfl⟩ | ⟨rfl, rfl⟩ <;>
    exact ⟨rfl, by decide, by rintro x (rfl | rfl) <;> decide⟩

theorem mem_tokens_comparison {sign : Text} {c : Comparison} (h : (sign, Token.comparison c) ∈ tokens) :
    sign = c.sign.toList := by
  simp only [tokens, List.mem_cons, Prod.mk.injEq, Token.comparison.injEq, reduceCtorEq, and_false, List.not_mem_nil,
    or_false, false_or] at h
  rcases h with ⟨rfl, rfl⟩ | ⟨rfl, rfl⟩ | ⟨rfl, rfl⟩ | ⟨rfl, rfl⟩ | ⟨rfl, rfl⟩ | ⟨rfl, rfl⟩ <;> rfl

theorem notMem_of_blank {gap : Text} (h : ∀ c ∈ gap, Text.isBlank c = true) {x : Char} (hx : Text.isBlank x = false) :
    x ∉ gap := by
  intro hmem
  rw [h x hmem] at hx
  cases hx

/-- What a turn that goes on has read. -/
theorem turn_on {left expression left' expression' tail : Text} (h : turn left expression = .on left' expression')
    (htail : ∀ c ∈ tail, c = '\n') :
    ∃ piece tail', expression ++ tail = piece ++ (expression' ++ tail') ∧ (∀ c ∈ tail', c = '\n') ∧
      Piece (expression' ++ tail') piece ∧ left'.length ≤ left.length + piece.length := by
  have hfeeds : ∀ {feeds : Text}, (∀ c ∈ feeds, c = '\n') → ∀ c ∈ feeds ++ tail, c = '\n' := by
    intro feeds hall
    exact List.forall_mem_append.mpr ⟨hall, htail⟩
  unfold turn at h
  split at h
  · rename_i rest htoken
    split at h
    · rename_i stop hscan
      cases h
      obtain ⟨gap, sign, feeds, rfl, hgap, hmem, hall⟩ := token?_eq_some htoken
      obtain rfl := mem_tokens_bracket hmem
      obtain ⟨inner, hrest, htake, hinner⟩ := scan_round_found hscan
      refine ⟨gap ++ '(' :: (inner ++ [')']), feeds ++ tail, ?_, hfeeds hall, .brackets hgap hinner, ?_⟩
      · conv => lhs; rw [hrest]
        simp
      · rw [htake]
        simp only [List.length_append, List.length_cons]
        omega
    · cases h
  · cases h
  · rename_i sign rest htoken
    cases h
    obtain ⟨gap, sign', feeds, rfl, hgap, hmem, hall⟩ := token?_eq_some htoken
    obtain ⟨rfl, hround, hlogical⟩ := mem_tokens_other hmem
    refine ⟨gap ++ sign', feeds ++ tail, by simp, hfeeds hall, .of_notMem ?_ ?_, ?_⟩
    · exact fun hmem => (List.mem_append.mp hmem).elim (notMem_of_blank hgap (by decide)) hround
    · intro x hx hmem
      exact (List.mem_append.mp hmem).elim (notMem_of_blank hgap hx.not_blank) (hlogical x hx)
    · simp only [List.length_append]
      omega
  · cases h
  · rename_i htoken
    split at h
    · rename_i lead rest hoperand
      cases h
      obtain ⟨feeds, rfl, hall, hlead⟩ := operand?_eq_some hoperand
      refine ⟨lead, feeds ++ tail, by simp, hfeeds hall, ?_, by simp⟩
      rcases hlead with hlead | ⟨c, rfl, hc, hline⟩
      · have hnot : ∀ x, isOperand x = false → x ∉ lead := by
          intro x hx hmem
          rw [hlead x hmem] at hx
          cases hx
        exact .of_notMem (hnot _ (by decide)) fun x hx => hnot x hx.not_operand
      · rw [← List.append_assoc]
        exact .of_no_operator htail fun sign t ht => not_prefix_of_token?_eq_none htoken hc hline ht
    · cases h

/-- A turn that ends the reading at a comparison has found its sign, blanks before it or not. -/
theorem turn_stop {left expression : Text} {t : Term} (h : turn left expression = .stop (some t)) :
    ∃ gap feeds, expression = gap ++ (t.comparison.sign.toList ++ (t.right ++ feeds)) ∧ t.left = left ∧
      (∀ c ∈ gap, Text.isBlank c = true) ∧ ∀ c ∈ feeds, c = '\n' := by
  unfold turn at h
  split at h
  · split at h <;> cases h
  · cases h
  · cases h
  · rename_i c rest htoken
    cases h
    obtain ⟨gap, sign, feeds, rfl, hgap, hmem, hall⟩ := token?_eq_some htoken
    obtain rfl := mem_tokens_comparison hmem
    exact ⟨gap, feeds, rfl, rfl, hgap, hall⟩
  · split at h <;> cases h

/-! ## The turns come to an end -/

theorem turn_shortens {left expression left' expression' : Text} (h : turn left expression = .on left' expression') :
    expression'.length < expression.length := by
  unfold turn at h
  split at h
  · rename_i rest htoken
    split at h
    · cases h
      have := token?_length htoken
      rw [List.length_drop]
      omega
    · cases h
  · cases h
  · rename_i htoken
    cases h
    exact token?_length htoken
  · cases h
  · split at h
    · rename_i hoperand
      cases h
      exact operand?_length hoperand
    · cases h

theorem reads_term? (left expression : Text) :
    ∃ turns ≤ expression.length + 1, Reads turns left expression (term? left expression) := by
  induction hlength : expression.length using Nat.strong_induction_on generalizing left expression with
  | h length ih =>
    rw [term?_eq_turn]
    cases hturn : turn left expression with
    | stop t => exact ⟨1, Nat.le_add_left 1 length, .stop hturn⟩
    | on left' expression' =>
      have hshort := turn_shortens hturn
      rw [hlength] at hshort
      obtain ⟨turns, hturns, hreads⟩ := ih _ hshort left' expression' rfl
      exact ⟨turns + 1, by omega, .on hturn hreads⟩

/-! ## Standing within round brackets -/

def Bracketed (before after : Text) : Prop :=
  ∃ a x y z, before = a ++ '(' :: x ∧ after = y ++ ')' :: z ∧ Nested (signs (x ++ y))

theorem walk_no_round {stack stack' : Stack} {t : Text} (h : walk .forwards stack t = some stack') (ht : '(' ∉ t)
    (hs : round ∉ stack) : round ∉ stack' := by
  induction t generalizing stack with
  | nil =>
    cases h
    exact hs
  | cons c t ih =>
    obtain ⟨mid, hstep, hrest⟩ := Option.bind_eq_some_iff.mp h
    refine ih hrest (fun hmem => ht (by simp [hmem])) ?_
    rcases step_cases hstep with ⟨b, henters, rfl⟩ | ⟨b, -, rfl⟩ | ⟨-, -, rfl⟩
    · obtain ⟨-, rfl, -⟩ := of_opens? henters
      intro hmem
      rcases List.mem_cons.mp hmem with rfl | hmem
      · exact ht List.mem_cons_self
      · exact hs hmem
    · exact fun hmem => hs (List.mem_cons_of_mem b hmem)
    · exact hs

/-- A text without brackets leaves the stack as it is. -/
theorem walk_plain {t : Text} (h : signs t = []) (stack : Stack) : walk .forwards stack t = some stack := by
  rw [← walk_signs, h]
  rfl

/-- Where a pair of round brackets stands around a place, one is open there. -/
theorem not_bracketed_of_walk {before after : Text} {stack : Stack} (h : walk .forwards [] before = some stack)
    (hs : round ∉ stack) : ¬ Bracketed before after := by
  rintro ⟨a, x, y, z, rfl, -, hnested⟩
  rw [nested_iff_walk, walk_append] at hnested
  obtain ⟨inner, hinner, -⟩ := Option.bind_eq_some_iff.mp hnested
  rw [walk_append] at h
  obtain ⟨outer, -, hx⟩ := Option.bind_eq_some_iff.mp h
  have hopens : Way.forwards.enters '(' = some round := rfl
  rw [walk, step_enters hopens, Option.bind_some] at hx
  have hframe := walk_frame hinner (round :: outer)
  rw [List.nil_append, hx] at hframe
  cases hframe
  exact hs (by simp)

theorem signs_blank {gap : Text} (h : ∀ c ∈ gap, Text.isBlank c = true) : signs gap = [] := by
  refine List.filter_eq_nil_iff.mpr fun c hc hsign => ?_
  have hblank := h c hc
  rcases char_cases c with ⟨b, hb, rfl, -⟩ | ⟨b, hb, rfl, -⟩ | ⟨ho, hn⟩
  · revert hblank
    cases b <;> decide
  · revert hblank
    cases b <;> decide
  · simp [isSign, ho, hn] at hsign

/-! ## Progress of the reading -/

/-- `read` of the expression is read and `rest` is left of it, but for line feeds: in `read` all round brackets are closed,
and each logical operator that begins in it stands within some. -/
structure Progress (expression left read rest : Text) : Prop where
  split : ∃ tail, expression = read ++ (rest ++ tail) ∧ ∀ c ∈ tail, c = '\n'
  closed : ∃ stack, walk .forwards [] read = some stack ∧ round ∉ stack
  left_le : left.length ≤ read.length
  logical : ∀ x, IsLogical x → ∀ before mid after, read = before ++ x :: mid →
    expression = before ++ x :: x :: after → Bracketed before after

theorem Progress.start (expression : Text) : Progress expression [] [] expression where
  split := ⟨[], by simp, by simp⟩
  closed := ⟨[], rfl, List.not_mem_nil⟩
  left_le := Nat.le_refl 0
  logical := by simp

/-- A logical operator that begins within a pair of round brackets stands within the pair. -/
theorem bracketed_of_mem {x : Char} (hx : IsLogical x) {gap inner m mid rest after : Text}
    (hgap : ∀ c ∈ gap, Text.isBlank c = true) (hinner : Nested (signs inner))
    (hpiece : gap ++ '(' :: (inner ++ [')']) = m ++ x :: mid) (read : Text) (hafter : mid ++ rest = x :: after) :
    Bracketed (read ++ m) after := by
  have hopen : x ≠ '(' := by
    rintro rfl
    cases hx.not_sign
  have hclose : ')' ≠ x := by
    rintro rfl
    cases hx.not_sign
  rcases cut_append hpiece with ⟨m, rfl, hbracket⟩ | ⟨mid, rfl, -⟩
  · -- the operator begins behind the opening bracket
    cases m with
    | nil => exact absurd (List.cons.inj hbracket).1.symm hopen
    | cons c m =>
      obtain ⟨rfl, hinside⟩ := List.cons.inj hbracket
      rcases cut_append hinside with ⟨m', rfl, hlast⟩ | ⟨mid, rfl, rfl⟩
      · cases m' with
        | nil => exact absurd (List.cons.inj hlast).1 hclose
        | cons d m' => simp at hlast
      · -- its second sign is no closing bracket
        cases mid with
        | nil => exact absurd (List.cons.inj hafter).1 hclose
        | cons d mid =>
          obtain ⟨rfl, rfl⟩ := List.cons.inj hafter
          refine ⟨read ++ gap, m, mid, rest, by simp, by simp, ?_⟩
          simpa [signs, List.filter_append, List.filter_cons, hx.not_sign] using hinner
  · exact absurd (by simp) (notMem_of_blank hgap hx.not_blank)

/-- A piece opens no round bracket that it does not close. -/
theorem Piece.closed {after piece : Text} (h : Piece after piece) {stack stack' : Stack}
    (hwalk : walk .forwards stack piece = some stack') (hround : round ∉ stack) : round ∉ stack' := by
  cases h with
  | brackets hgap hinner =>
    have hopens : Way.forwards.enters '(' = some round := rfl
    have hcloses : Way.forwards.leaves ')' = some round := rfl
    have hnested := (walk_signs (round :: stack) _).symm.trans (walk_nested hinner (round :: stack))
    rw [walk_append, walk_plain (signs_blank hgap), Option.bind_some, walk, step_enters hopens, Option.bind_some,
      walk_append, hnested, Option.bind_some, walk, step_leaves hcloses] at hwalk
    cases hwalk
    exact hround
  | plain hopen _ => exact walk_no_round hwalk hopen hround

/-- A logical operator that begins in a piece stands within round brackets. -/
theorem Piece.bracketed {rest piece : Text} (h : Piece rest piece) {x : Char} (hx : IsLogical x) {m mid after : Text}
    (hm : piece = m ++ x :: mid) (hafter : piece ++ rest = m ++ x :: x :: after) (read : Text) :
    Bracketed (read ++ m) after := by
  cases h with
  | brackets hgap hinner =>
    rw [hm, List.append_assoc] at hafter
    exact bracketed_of_mem hx hgap hinner hm read (List.cons.inj (List.append_cancel_left hafter)).2
  | plain _ hlogical =>
    have hlength := hlogical x hx m after hafter
    rw [hm, List.length_append, List.length_cons] at hlength
    omega

/-- A turn makes progress. -/
theorem Progress.turn {expression left read rest left' rest' : Text} (hexpression : Nested (signs expression))
    (h : Progress expression left read rest) (hturn : turn left rest = .on left' rest') :
    ∃ read', Progress expression left' read' rest' := by
  obtain ⟨tail, hsplit, htail⟩ := h.split
  obtain ⟨piece, tail', hpiece, htail', hkind, hleft⟩ := turn_on hturn htail
  have hsplit' : expression = (read ++ piece) ++ (rest' ++ tail') := by rw [hsplit, hpiece, List.append_assoc]
  refine ⟨read ++ piece, ⟨⟨tail', hsplit', htail'⟩, ?_, ?_, ?_⟩⟩
  · obtain ⟨stack, hwalk, hround⟩ := h.closed
    rw [nested_iff_walk, hsplit'] at hexpression
    obtain ⟨stack', hwalk'⟩ := Option.ne_none_iff_exists'.mp (walk_ne_none_of_append hexpression)
    refine ⟨stack', hwalk', ?_⟩
    rw [walk_append, hwalk, Option.bind_some] at hwalk'
    exact hkind.closed hwalk' hround
  · have hle := h.left_le
    rw [List.length_append]
    omega
  · intro x hx before mid after hread hafter
    -- the operator begins in the new piece, or in what was read before
    rcases cut_append hread with ⟨m, rfl, hm⟩ | ⟨mid, hm, -⟩
    · refine hkind.bracketed hx hm ?_ read
      rw [hsplit', List.append_assoc, List.append_assoc] at hafter
      exact List.append_cancel_left hafter
    · exact h.logical x hx before mid after hm hafter

/-- A reading that ends at a comparison has made progress up to it. -/
theorem Reads.progress {expression left read rest : Text} {turns : Nat} {t : Term} (hexpression : Nested (signs expression))
    (h : Reads turns left rest (some t)) (hprogress : Progress expression left read rest) :
    ∃ read' rest', Progress expression t.left read' rest' ∧ Assertion.turn t.left rest' = .stop (some t) := by
  generalize hresult : some t = result at h
  induction h generalizing read with
  | stop hstop =>
    subst hresult
    obtain ⟨-, -, -, hleft, -⟩ := turn_stop hstop
    rw [← hleft] at hstop hprogress
    exact ⟨read, _, hprogress, hstop⟩
  | on hon _ ih =>
    obtain ⟨read', hprogress'⟩ := hprogress.turn hexpression hon
    exact ih hprogress' hresult

/-! ## A single comparison -/

/-- The expression compares once: no logical operator stands outside of round brackets, and the comparison does, with
something on both sides. -/
structure Single (expression : Text) (c : Comparison) : Prop where
  logical : ∀ operator ∈ ["&&", "||"], ∀ before after, expression = before ++ (operator.toList ++ after) →
    Bracketed before after
  comparison : ∃ before after, expression = before ++ (c.sign.toList ++ after) ∧ before ≠ [] ∧ after ≠ [] ∧
    ¬ Bracketed before after

/-- No logical operator begins behind what has been read. -/
theorem not_logical_behind {x : Char} (hx : IsLogical x) {c : Comparison} {gap right feeds m after : Text}
    (hgap : ∀ c ∈ gap, Text.isBlank c = true) (hfeeds : ∀ c ∈ feeds, c = '\n') (hright : ¬ [x, x] <:+: right) :
    gap ++ (c.sign.toList ++ (right ++ feeds)) ≠ m ++ x :: x :: after := by
  intro h
  have hfeed : x ∉ feeds := fun hmem => hx.ne_feed (hfeeds x hmem)
  rcases cut_append h with ⟨m, -, h⟩ | ⟨v, rfl, -⟩
  · rcases cut_append h with ⟨m, -, h⟩ | ⟨v, hsign, -⟩
    · rcases cut_append h with ⟨m, -, rfl⟩ | ⟨v, rfl, hv⟩
      · exact hfeed (by simp)
      · cases v with
        | nil => exact hfeed (by rw [show feeds = x :: after from hv.symm]; simp)
        | cons d v =>
          obtain ⟨rfl, -⟩ := List.cons.inj hv
          exact hright ⟨m, v, by simp⟩
    · exact hx.notMem_sign c (by simp [hsign])
  · exact notMem_of_blank hgap hx.not_blank (by simp)

/-- What can be replaced is a single comparison. -/
theorem single_of_term? {expression : Text} {t : Term} (hexpression : Nested (signs expression))
    (h : term? [] expression = some t) (hreplaceable : t.isReplaceable = true) : Single expression t.comparison := by
  obtain ⟨turns, -, hreads⟩ := reads_term? [] expression
  rw [h] at hreads
  obtain ⟨read, rest, hprogress, hstop⟩ := hreads.progress hexpression (.start expression)
  obtain ⟨tail, hsplit, htail⟩ := hprogress.split
  obtain ⟨gap, feeds, rfl, -, hgap, hfeeds⟩ := turn_stop hstop
  have hbehind : ∀ c ∈ feeds ++ tail, c = '\n' := List.forall_mem_append.mpr ⟨hfeeds, htail⟩
  simp only [Term.isReplaceable, Bool.and_eq_true, Bool.not_eq_true', List.isEmpty_eq_false_iff] at hreplaceable
  obtain ⟨⟨⟨⟨hleft, hright⟩, hand⟩, hor⟩, -⟩ := hreplaceable
  have hlogical : ∀ x, IsLogical x → ¬ [x, x] <:+: t.right := by
    intro x hx
    rcases hx with rfl | rfl
    · exact Text.not_infix_of_locate?_eq_none (by simpa [Text.holds] using hand)
    · exact Text.not_infix_of_locate?_eq_none (by simpa [Text.holds] using hor)
  simp only [List.append_assoc] at hsplit
  constructor
  · intro operator hoperator before after hafter
    obtain ⟨x, hx, hxx⟩ : ∃ x, IsLogical x ∧ operator.toList = [x, x] := by
      simp only [List.mem_cons, List.not_mem_nil, or_false] at hoperator
      rcases hoperator with rfl | rfl
      · exact ⟨'&', .inl rfl, rfl⟩
      · exact ⟨'|', .inr rfl, rfl⟩
    rw [hxx] at hafter
    rcases cut_append (hsplit.symm.trans hafter) with ⟨m, -, hm⟩ | ⟨mid, hread, -⟩
    · exact absurd hm (not_logical_behind hx hgap hbehind (hlogical x hx))
    · exact hprogress.logical x hx before mid after hread hafter
  · obtain ⟨stack, hwalk, hround⟩ := hprogress.closed
    refine ⟨read ++ gap, t.right ++ (feeds ++ tail), by rw [hsplit, List.append_assoc], ?_, by simp [hright], ?_⟩
    · intro hnil
      have hlength := List.length_pos_iff.mpr hleft
      have hle := hprogress.left_le
      rw [(List.append_eq_nil_iff.mp hnil).1, List.length_nil] at hle
      omega
    · refine not_bracketed_of_walk ?_ hround
      rw [walk_append, hwalk, Option.bind_some, walk_plain (signs_blank hgap)]

end StyleCheck.Rule.Assertion
