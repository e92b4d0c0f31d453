/-
  StyleCheck.Proofs.Source.Collapsing — what is left of a line, however its quotes stand.

  Literals are emptied in rounds. A round (`round?`) goes to the first quote ahead and writes what it makes
  of the text so far; the last one finds no quote, or one that has no partner, and writes all that is ahead.
  `turns` is this loop, with what is written so far and what is still ahead as its state.

  1. The loop ends (`turns_eq`): every round leaves less ahead than there was. The round at a digit separator
     may stop right before the quote. It then has passed the number at least, as no number ends an empty
     text, and the next round takes the quote for one that opens a literal.
  2. A round cuts whole pieces off what is ahead (`round?_pieces`): code, numbers with their separators,
     literals. `Piece` tells how each stands on the line and what is written for it.
  3. So it is with all rounds together (`turns_pieces`), and from the first quote without a partner on the
     text is left as it is: `only_after_an_unmatched_quote_is_text_kept`.
-/

import StyleCheck.Proofs.Source.StringLiteral

namespace StyleCheck.Literal

/-! ## Rounds -/

/-- What one round writes and what it leaves ahead; `none` if it is the last one. -/
def round? (ahead : Text) : Option (Text × Text) :=
  match atQuote? ahead with
  | none => none
  | some q =>
    if q.quote == '"' then (after? '"' q.tail).map fun rest => (q.head ++ emptyString, rest)
    else if numberAtEnd.occursIn q.head then
      some (q.head ++ (takeDigits ('\'' :: q.tail)).1, (takeDigits ('\'' :: q.tail)).2)
    else (after? '\'' q.tail).map fun rest => (q.head ++ emptyChar, rest)

def turns (rounds : Nat) (written ahead : Text) : Option Text :=
  match rounds with
  | 0 => none
  | rounds + 1 =>
    match round? ahead with
    | none => some (written ++ ahead)
    | some (text, rest) => turns rounds (written ++ text) rest

theorem numberAtEnd_nil : numberAtEnd.occursIn [] = false := by decide +kernel

theorem head_ne_nil_of_number {head : Text} (h : numberAtEnd.occursIn head = true) : head ≠ [] := by
  rintro rfl
  rw [numberAtEnd_nil] at h
  cases h

theorem atQuote?_quote {s : Text} {q : AtQuote} (h : atQuote? s = some q) : q.quote = '"' ∨ q.quote = '\'' := by
  unfold atQuote? at h
  split at h
  · cases h
  rename_i quote after hafter
  obtain ⟨tail, -, rfl⟩ := Option.map_eq_some_iff.mp h
  have hstop := List.head?_dropWhile_not (fun c => !isQuote c) s
  rw [hafter] at hstop
  have hquote : isQuote quote = true := by simpa using hstop
  simpa [isQuote] using hquote

theorem isQuote_of_atQuote? {s : Text} {q : AtQuote} (h : atQuote? s = some q) : isQuote q.quote = true := by
  rcases atQuote?_quote h with hquote | hquote <;> simp [isQuote, hquote]

/-- A round that is not the last one passes a literal, or a number up to its first separator and the digits
after it. -/
theorem round?_eq_some {ahead text rest : Text} (h : round? ahead = some (text, rest)) :
    ∃ q, atQuote? ahead = some q ∧
      ((after? q.quote q.tail = some rest ∧ text = q.head ++ [q.quote, q.quote]) ∨
       (q.quote = '\'' ∧ numberAtEnd.occursIn q.head = true ∧
        text = q.head ++ (takeDigits ('\'' :: q.tail)).1 ∧ rest = (takeDigits ('\'' :: q.tail)).2)) := by
  unfold round? at h
  split at h
  · cases h
  rename_i q hq
  refine ⟨q, hq, ?_⟩
  rcases atQuote?_quote hq with hdouble | hsingle
  · rw [if_pos (by simp [hdouble])] at h
    obtain ⟨after, hafter, heq⟩ := Option.map_eq_some_iff.mp h
    cases heq
    rw [hdouble]
    exact .inl ⟨hafter, rfl⟩
  rw [if_neg (by simp [hsingle])] at h
  split at h
  · rename_i hnumber
    cases h
    exact .inr ⟨hsingle, hnumber, rfl, rfl⟩
  · obtain ⟨after, hafter, heq⟩ := Option.map_eq_some_iff.mp h
    cases heq
    rw [hsingle]
    exact .inl ⟨hafter, rfl⟩

theorem round?_eq_none {ahead : Text} (h : round? ahead = none) :
    atQuote? ahead = none ∨ ∃ q, atQuote? ahead = some q ∧ after? q.quote q.tail = none := by
  unfold round? at h
  split at h
  · rename_i hnone
    exact .inl hnone
  rename_i q hq
  refine .inr ⟨q, hq, ?_⟩
  rcases atQuote?_quote hq with hdouble | hsingle
  · rw [if_pos (by simp [hdouble]), Option.map_eq_none_iff] at h
    rw [hdouble]
    exact h
  rw [if_neg (by simp [hsingle])] at h
  split at h
  · cases h
  · rw [hsingle]
    exact Option.map_eq_none_iff.mp h

theorem round?_length {ahead text rest : Text} (h : round? ahead = some (text, rest)) :
    rest.length < ahead.length := by
  obtain ⟨q, hq, ⟨hafter, -⟩ | ⟨-, hnumber, -, rfl⟩⟩ := round?_eq_some h
  · have hquote := atQuote?_length hq
    have hless := after?_length hafter
    omega
  · have hquote := atQuote?_length hq
    have hhead := List.length_pos_iff.mpr (head_ne_nil_of_number hnumber)
    have hdigits := takeDigits_length ('\'' :: q.tail)
    rw [List.length_cons] at hdigits
    omega

/-- Emptying the literals of a text takes one round, and then the others. -/
theorem collapseQuotes_eq (ahead : Text) :
    collapseQuotes ahead = (round? ahead).elim ahead fun next => next.1 ++ collapseQuotes next.2 := by
  rw [collapseQuotes]
  split
  · rename_i hnone
    simp only [round?, hnone, Option.elim_none]
  rename_i q hq
  simp only [round?, hq]
  by_cases hdouble : (q.quote == '"') = true
  · rw [if_pos hdouble, if_pos hdouble]
    split
    · rename_i rest hafter
      simp only [hafter, Option.map_some, Option.elim_some]
    · rename_i hafter
      simp only [hafter, Option.map_none, Option.elim_none]
  rw [if_neg hdouble, if_neg hdouble]
  by_cases hnumber : numberAtEnd.occursIn q.head = true
  · have hhead : q.head.isEmpty = false := by simpa using head_ne_nil_of_number hnumber
    rw [dif_pos (by rw [hhead, hnumber]; rfl), if_pos hnumber, Option.elim_some]
  · rw [dif_neg (by simp [hnumber]), if_neg hnumber]
    split
    · rename_i rest hafter
      simp only [hafter, Option.map_some, Option.elim_some]
    · rename_i hafter
      simp only [hafter, Option.map_none, Option.elim_none]

/-- With as many rounds as there are characters ahead, and one more, the loop ends. -/
theorem turns_eq {rounds : Nat} {ahead : Text} (h : ahead.length < rounds) (written : Text) :
    turns rounds written ahead = some (written ++ collapseQuotes ahead) := by
  induction rounds generalizing written ahead with
  | zero => omega
  | succ rounds ih =>
    rw [turns]
    split
    · rename_i hlast
      rw [collapseQuotes_eq, hlast, Option.elim_none]
    · rename_i text rest hround
      have hless := round?_length hround
      rw [ih (by omega), collapseQuotes_eq ahead, hround, Option.elim_some, List.append_assoc]

/-! ## Pieces -/

inductive Piece where
  | code (text : Text) (hcode : ∀ c ∈ text, isQuote c = false)
  /-- The digits of a number after its first separator. -/
  | digits (text : Text) (hdigits : ∀ c ∈ text, isNumberPart c = true ∨ c = '\'')
  | literal (quote : Char) (body : Text) (hquote : isQuote quote = true) (hbody : quote ∉ body)

namespace Piece

def source : Piece → Text
  | code text _ => text
  | digits text _ => text
  | literal quote body _ _ => quote :: (body ++ [quote])

def written : Piece → Text
  | code text _ => text
  | digits text _ => text.filter (· != '\'')
  | literal quote _ _ _ => [quote, quote]

theorem written_shape (piece : Piece) :
    (∀ c ∈ piece.written, isQuote c = false) ∨ piece.written = emptyString ∨ piece.written = emptyChar := by
  cases piece with
  | code text hcode => exact .inl hcode
  | digits text hdigits =>
    refine .inl fun c hc => ?_
    obtain ⟨hmem, hsingle⟩ := List.mem_filter.mp hc
    rw [bne_iff_ne] at hsingle
    rcases hdigits c hmem with hpart | rfl
    · have hdouble : c ≠ '"' := by
        rintro rfl
        exact absurd hpart (by decide)
      simp [isQuote, hdouble, hsingle]
    · exact absurd rfl hsingle
  | literal quote body hquote hbody =>
    have hkind : quote = '"' ∨ quote = '\'' := by simpa [isQuote] using hquote
    rcases hkind with rfl | rfl
    · exact .inr (.inl rfl)
    · exact .inr (.inr rfl)

end Piece

/-- Nothing, or a quote that does not occur again and the text after it. -/
def Unmatched (s : Text) : Prop := s = [] ∨ ∃ quote text, s = quote :: text ∧ isQuote quote = true ∧ quote ∉ text

/-! ## What a round cuts off -/

theorem atQuote?_eq_none {s : Text} (hline : '\n' ∉ s) (h : atQuote? s = none) : ∀ c ∈ s, isQuote c = false := by
  unfold atQuote? at h
  split at h
  · rename_i hnil
    intro c hc
    simpa using List.dropWhile_eq_nil_iff.mp hnil c hc
  · rename_i quote after hafter
    have hfeed : '\n' ∉ after := by
      intro hmem
      apply hline
      have hsub : (quote :: after).Sublist s := hafter ▸ List.dropWhile_sublist _
      exact hsub.mem (List.mem_cons_of_mem quote hmem)
    rw [Text.restOfLine?_of_notMem hfeed] at h
    cases h

theorem atQuote?_eq_some {s : Text} {q : AtQuote} (hline : '\n' ∉ s) (h : atQuote? s = some q) :
    s = q.head ++ q.quote :: q.tail ∧ ∀ c ∈ q.head, isQuote c = false := by
  unfold atQuote? at h
  split at h
  · cases h
  rename_i quote after hafter
  have hsplit : s = s.takeWhile (fun c => !isQuote c) ++ quote :: after := by
    rw [← hafter, List.takeWhile_append_dropWhile]
  have hfeed : '\n' ∉ after := by
    intro hmem
    apply hline
    rw [hsplit]
    exact List.mem_append_right _ (List.mem_cons_of_mem quote hmem)
  rw [Text.restOfLine?_of_notMem hfeed] at h
  cases h
  refine ⟨hsplit, ?_⟩
  intro c hc
  simpa using List.all_eq_true.mp List.all_takeWhile c hc

theorem after?_eq_some {c : Char} {s rest : Text} (h : after? c s = some rest) :
    ∃ body, c ∉ body ∧ s = body ++ c :: rest := by
  unfold after? at h
  split at h
  · cases h
  rename_i stop after hafter
  cases h
  have hstop := List.head?_dropWhile_not (· != c) s
  rw [hafter] at hstop
  obtain rfl : stop = c := by simpa using hstop
  refine ⟨s.takeWhile (· != stop), ?_, ?_⟩
  · intro hmem
    simpa using List.all_eq_true.mp List.all_takeWhile stop hmem
  · rw [← hafter, List.takeWhile_append_dropWhile]

theorem after?_eq_none {c : Char} {s : Text} (h : after? c s = none) : c ∉ s := by
  unfold after? at h
  split at h
  · rename_i hnil
    intro hmem
    simpa using List.dropWhile_eq_nil_iff.mp hnil c hmem
  · cases h

theorem takeDigits_eq (s : Text) :
    ∃ text, s = text ++ (takeDigits s).2 ∧ (takeDigits s).1 = text.filter (· != '\'') ∧
      ∀ c ∈ text, isNumberPart c = true ∨ c = '\'' := by
  have hkept : ∀ {c : Char}, isNumberPart c = true → (c != '\'') = true := by
    intro c hc
    rw [bne_iff_ne]
    rintro rfl
    exact absurd hc (by decide)
  fun_induction takeDigits s with
  | case1 => exact ⟨[], rfl, rfl, by simp⟩
  | case2 c s hpart digits after heq ih =>
    rw [heq] at ih
    obtain ⟨text, hs, hdigits, htext⟩ := ih
    refine ⟨c :: text, by rw [List.cons_append, ← hs], ?_, ?_⟩
    · rw [List.filter_cons_of_pos (p := (· != '\'')) (hkept hpart), ← hdigits]
    · exact List.forall_mem_cons.mpr ⟨.inl hpart, htext⟩
  | case3 c _ hsingle d s hpart digits after heq ih =>
    rw [heq] at ih
    obtain ⟨text, hs, hdigits, htext⟩ := ih
    obtain rfl : c = '\'' := by simpa using hsingle
    refine ⟨'\'' :: d :: text, by rw [List.cons_append, List.cons_append, ← hs], ?_, ?_⟩
    · rw [List.filter_cons_of_neg (by simp), List.filter_cons_of_pos (p := (· != '\'')) (hkept hpart), ← hdigits]
    · exact List.forall_mem_cons.mpr ⟨.inr rfl, List.forall_mem_cons.mpr ⟨.inl hpart, htext⟩⟩
  | case4 => exact ⟨[], rfl, rfl, by simp⟩
  | case5 c => exact ⟨[], rfl, rfl, by simp⟩
  | case6 c s => exact ⟨[], rfl, rfl, by simp⟩

/-- A round that is not the last one cuts whole pieces off. -/
theorem round?_pieces {ahead text rest : Text} (hline : '\n' ∉ ahead) (h : round? ahead = some (text, rest)) :
    ∃ pieces : List Piece, ahead = pieces.flatMap Piece.source ++ rest ∧ text = pieces.flatMap Piece.written := by
  obtain ⟨q, hq, hround⟩ := round?_eq_some h
  obtain ⟨hahead, hcode⟩ := atQuote?_eq_some hline hq
  rcases hround with ⟨hafter, htext⟩ | ⟨hsingle, -, htext, hrest⟩
  · obtain ⟨body, hbody, htail⟩ := after?_eq_some hafter
    have hquote := isQuote_of_atQuote? hq
    refine ⟨[.code q.head hcode, .literal q.quote body hquote hbody], ?_, ?_⟩
    · rw [hahead, htail]
      simp [Piece.source]
    · rw [htext]
      simp [Piece.written]
  · obtain ⟨digits, htail, hwritten, hdigits⟩ := takeDigits_eq ('\'' :: q.tail)
    refine ⟨[.code q.head hcode, .digits digits hdigits], ?_, ?_⟩
    · rw [List.flatMap_cons, List.flatMap_singleton, List.append_assoc, hrest]
      show ahead = q.head ++ (digits ++ _)
      rw [← htail, hahead, hsingle]
    · rw [htext, hwritten]
      simp [Piece.written]

/-- At the last round there is code ahead, and then at most a quote without a partner. -/
theorem round?_last {ahead : Text} (hline : '\n' ∉ ahead) (h : round? ahead = none) :
    ∃ code rest, ahead = code ++ rest ∧ (∀ c ∈ code, isQuote c = false) ∧ Unmatched rest := by
  rcases round?_eq_none h with hnone | ⟨q, hq, hafter⟩
  · exact ⟨ahead, [], by simp, atQuote?_eq_none hline hnone, .inl rfl⟩
  · obtain ⟨hahead, hcode⟩ := atQuote?_eq_some hline hq
    exact ⟨q.head, q.quote :: q.tail, hahead, hcode,
      .inr ⟨q.quote, q.tail, rfl, isQuote_of_atQuote? hq, after?_eq_none hafter⟩⟩

/-! ## All rounds -/

theorem turns_pieces {rounds : Nat} {written ahead result : Text} (hline : '\n' ∉ ahead)
    (h : turns rounds written ahead = some result) :
    ∃ (pieces : List Piece) (rest : Text), ahead = pieces.flatMap Piece.source ++ rest ∧
      result = written ++ (pieces.flatMap Piece.written ++ rest) ∧ Unmatched rest := by
  induction rounds generalizing written ahead with
  | zero => cases h
  | succ rounds ih =>
    rw [turns] at h
    split at h
    · rename_i hlast
      obtain ⟨code, rest, rfl, hcode, hrest⟩ := round?_last hline hlast
      cases h
      exact ⟨[.code code hcode], rest, by simp [Piece.source], by simp [Piece.written], hrest⟩
    · rename_i text after hround
      obtain ⟨first, hahead, htext⟩ := round?_pieces hline hround
      have hafter : '\n' ∉ after := by
        intro hmem
        apply hline
        rw [hahead]
        exact List.mem_append_right _ hmem
      obtain ⟨pieces, rest, hsource, hresult, hrest⟩ := ih hafter h
      refine ⟨first ++ pieces, rest, ?_, ?_, hrest⟩
      · rw [List.flatMap_append, List.append_assoc, ← hsource, hahead]
      · rw [hresult, htext, List.flatMap_append]
        simp only [List.append_assoc]

/-- On every line but an include line the loop ends. Its result consists of pieces without quotes and of empty
literals, one for each piece of the line, and from a quote without a partner on it goes on as the line does. -/
theorem only_after_an_unmatched_quote_is_text_kept (line : Text) (hline : '\n' ∉ line)
    (hinclude : Include.ofLine? line = none) :
    turns (line.length + 1) [] (dropEscapes line) = some (collapse line) ∧
    ∃ (pieces : List Piece) (rest : Text),
      dropEscapes line = pieces.flatMap Piece.source ++ rest ∧
      collapse line = pieces.flatMap Piece.written ++ rest ∧
      (∀ piece ∈ pieces, (∀ c ∈ piece.written, isQuote c = false) ∨ piece.written = emptyString ∨
        piece.written = emptyChar) ∧
      Unmatched rest := by
  have hsub := dropEscapes_sublist line
  have hturns : turns (line.length + 1) [] (dropEscapes line) = some (collapse line) := by
    rw [turns_eq (Nat.lt_succ_of_le hsub.length_le), collapse_of_code hinclude, List.nil_append]
  obtain ⟨pieces, rest, hsource, hwritten, hrest⟩ := turns_pieces (fun hmem => hline (hsub.mem hmem)) hturns
  exact ⟨hturns, pieces, rest, hsource, hwritten, fun piece _ => piece.written_shape, hrest⟩

/-- The separator before the string is taken for a quote that opens a literal, so that later quotes are paired
the wrong way and the last one is left over. -/
theorem only_after_an_unmatched_quote_is_text_kept_shifted :
    collapse "f(1'000'\"x\\n\", 'y', \"its".toList = "f(1000''y', \"its".toList ∧
    ∃ (pieces : List Piece) (rest : Text),
      "f(1000''y', \"its".toList = pieces.flatMap Piece.written ++ rest ∧ Unmatched rest := by
  have hturns : turns 25 [] (dropEscapes "f(1'000'\"x\\n\", 'y', \"its".toList)
      = some "f(1000''y', \"its".toList := by decide +kernel
  obtain ⟨hall, pieces, rest, -, hwritten, -, hrest⟩ :=
    only_after_an_unmatched_quote_is_text_kept "f(1'000'\"x\\n\", 'y', \"its".toList (by decide) (by decide)
  have hcollapse := Option.some.inj (hall.symm.trans hturns)
  exact ⟨hcollapse, pieces, rest, hcollapse ▸ hwritten, hrest⟩

end StyleCheck.Literal
