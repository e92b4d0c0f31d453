/-
  StyleCheck.Pattern.Search — matches in a text.

  A pattern is matched at the beginning of a text (`match?`) or at the first place where it does
  match (`search?`), and a text is cut at all matches (`splitBy`). Before anything else is tried, a
  text is looked through for the characters that the pattern cannot do without (`possible`); this
  changes no answer (`match?_eq`, `search?_eq`).
-/

import StyleCheck.Pattern.Ends

namespace StyleCheck.Pattern

/-- What was matched: from column `start` up to column `stop`; `source` is the text from `start`
on and `rest` the text from `stop` on. -/
structure Match where
  start : Nat
  stop : Nat
  source : Text
  rest : Text
  captures : List (Nat × Capture)

namespace Match

def text (m : Match) : Text := m.source.take (m.stop - m.start)

def group? (m : Match) (n : Nat) : Option Capture := m.captures.lookup n

/-- The text of a group, or nothing if the group took no part. -/
def group (m : Match) (n : Nat) : Text :=
  match m.group? n with
  | some c => c.text
  | none => []

end Match

/-- The first way `p` matches at `c`. -/
def matchAt? (p : Pattern) (c : Cursor) : Option Match :=
  (p.run some c).map fun d => ⟨c.column, d.column, c.rest, d.rest, d.captures⟩

/-- The characters that `p` cannot do without are all found in `s`. -/
def possible : Pattern → Text → Bool
  | one set, s => s.any set.has
  | seq p q, s => p.possible s && q.possible s
  | alt p q, s => p.possible s || q.possible s
  | group _ p, s => p.possible s
  | ahead p, s => p.possible s
  | times (_ + 1) p, s => p.possible s
  | once p, s => p.possible s
  | _, _ => true

/-- The match at the beginning of `s`. -/
def match? (p : Pattern) (s : Text) : Option Match :=
  if p.possible s then p.matchAt? (Cursor.ofText s) else none

/-- The first match at or after a place, given by the character before it, its column and the text
after it. -/
def searchFrom? (p : Pattern) (before : Option Char) (column : Nat) (s : Text) : Option Match :=
  match p.matchAt? ⟨before, s, column, []⟩ with
  | some m => some m
  | none =>
    match s with
    | [] => none
    | x :: xs => p.searchFrom? (some x) (column + 1) xs

/-- The first match in `s`. -/
def search? (p : Pattern) (s : Text) : Option Match :=
  if p.possible s then p.searchFrom? none 0 s else none

/-- `p` matches at the beginning of `s`. -/
def opens (p : Pattern) (s : Text) : Bool := (p.match? s).isSome

/-- `p` matches somewhere in `s`. -/
def occursIn (p : Pattern) (s : Text) : Bool := (p.search? s).isSome

/-- The matches of `p` in `s` from the left, none overlapping the one before. After an empty match
the search goes on one character further. -/
def occurrences (p : Pattern) (s : Text) : List Match :=
  if p.possible s then go s.length none 0 s else []
where
  go : (rounds : Nat) → Option Char → Nat → Text → List Match
    | rounds, before, column, s =>
      match p.searchFrom? before column s with
      | none => []
      | some m =>
        m ::
          match rounds with
          | 0 => []
          | rounds + 1 =>
            if m.start < m.stop then go rounds (m.text.getLast?.or before) m.stop m.rest
            else
              match m.rest with
              | [] => []
              | x :: xs => go rounds (some x) (m.stop + 1) xs

/-- The pieces of `s` between the matches. -/
def splitBy (p : Pattern) (s : Text) : List Text := go 0 s (p.occurrences s)
where
  go (column : Nat) (s : Text) : List Match → List Text
    | [] => [s]
    | m :: ms => s.take (m.start - column) :: go m.stop m.rest ms

/-- `s` with `new` in place of every match. -/
def replaceAll (p : Pattern) (new : Text) (s : Text) : Text :=
  Text.joinWith new (p.splitBy s)

/-! ## Looking for the indispensable first

A text that lacks a character `p` cannot do without has no match, so looking for such characters
first changes nothing. -/

theorem possible_of_suffix {p : Pattern} {t s : Text} (hts : t <:+ s) (h : p.possible t) :
    p.possible s := by
  induction p with
  | one set =>
    simp only [possible, List.any_eq_true] at h ⊢
    obtain ⟨x, hx, hs⟩ := h
    exact ⟨x, hts.subset hx, hs⟩
  | seq p q ihp ihq =>
    simp only [possible, Bool.and_eq_true] at h ⊢
    exact ⟨ihp h.1, ihq h.2⟩
  | alt p q ihp ihq =>
    simp only [possible, Bool.or_eq_true] at h ⊢
    exact h.imp ihp ihq
  | group n p ih => exact ih h
  | ahead p ih => exact ih h
  | times n p ih =>
    cases n with
    | zero => rfl
    | succ n => exact ih h
  | once p ih => exact ih h
  | _ => rfl

theorem possible_of_mem_ends {p : Pattern} {c d : Cursor} (h : d ∈ p.ends c) : p.possible c.rest := by
  induction p generalizing c d with
  | one set =>
    obtain ⟨x, rest, hrest, hx, -⟩ := mem_ends_one.mp h
    simp [possible, hrest, hx]
  | seq p q ihp ihq =>
    obtain ⟨e, he, hd⟩ := List.mem_flatMap.mp h
    obtain ⟨taken, hrest, -⟩ := reachesBy_of_mem_ends p.takesOnly_true c e he
    simp only [possible, Bool.and_eq_true]
    exact ⟨ihp he, possible_of_suffix ⟨taken, hrest.symm⟩ (ihq hd)⟩
  | alt p q ihp ihq =>
    simp only [possible, Bool.or_eq_true]
    exact (List.mem_append.mp h).imp ihp ihq
  | group n p ih =>
    obtain ⟨e, he, -⟩ := List.mem_map.mp h
    exact ih he
  | ahead p ih =>
    obtain ⟨e, he, -⟩ := List.mem_map.mp h
    exact ih (List.mem_of_mem_take he)
  | times n p ih =>
    cases n with
    | zero => rfl
    | succ n =>
      rw [ends, rounds_succ] at h
      obtain ⟨e, he, -⟩ := List.mem_flatMap.mp h
      exact ih he
  | once p ih => exact ih (List.mem_of_mem_take h)
  | _ => rfl

theorem possible_of_run {p : Pattern} {next : Cursor → Option Cursor} {c d : Cursor}
    (h : p.run next c = some d) : p.possible c.rest := by
  obtain ⟨e, he, -⟩ := exists_end_of_run h
  exact possible_of_mem_ends he

theorem possible_of_matchAt? {p : Pattern} {c : Cursor} {m : Match} (h : p.matchAt? c = some m) :
    p.possible c.rest := by
  obtain ⟨d, hd, _⟩ := Option.map_eq_some_iff.1 h
  exact possible_of_run hd

theorem match?_eq (p : Pattern) (s : Text) : p.match? s = p.matchAt? (Cursor.ofText s) := by
  simp only [match?]
  split
  · rfl
  · rename_i h
    exact (Option.eq_none_iff_forall_ne_some.2 fun m hm => h (possible_of_matchAt? hm)).symm

theorem possible_of_searchFrom? {p : Pattern} {before : Option Char} {column : Nat} {s : Text}
    {m : Match} (h : p.searchFrom? before column s = some m) : p.possible s := by
  induction s generalizing before column with
  | nil =>
    rw [searchFrom?] at h
    split at h
    · rename_i m' heq
      exact possible_of_matchAt? heq
    · cases h
  | cons x xs ih =>
    rw [searchFrom?] at h
    split at h
    · rename_i m' heq
      exact possible_of_matchAt? heq
    · exact possible_of_suffix (List.suffix_cons x xs) (ih h)

theorem search?_eq (p : Pattern) (s : Text) : p.search? s = p.searchFrom? none 0 s := by
  simp only [search?]
  split
  · rfl
  · rename_i h
    exact (Option.eq_none_iff_forall_ne_some.2 fun m hm => h (possible_of_searchFrom? hm)).symm

/-! ## Where a match ends -/

theorem matchAt?_rest {p : Pattern} {c : Cursor} {m : Match} (h : p.matchAt? c = some m) :
    ∃ taken, c.rest = taken ++ m.rest ∧ m.stop = c.column + taken.length := by
  obtain ⟨d, hd, rfl⟩ := Option.map_eq_some_iff.1 h
  obtain ⟨e, he, hreaches⟩ := forward_run p _ _ _ hd
  cases he
  exact hreaches

theorem searchFrom?_rest {p : Pattern} {before : Option Char} {column : Nat} {s : Text} {m : Match}
    (h : p.searchFrom? before column s = some m) :
    ∃ taken, s = taken ++ m.rest ∧ m.stop = column + taken.length := by
  induction s generalizing before column with
  | nil =>
    rw [searchFrom?] at h
    split at h
    · rename_i m' heq
      cases h
      exact matchAt?_rest heq
    · cases h
  | cons x xs ih =>
    rw [searchFrom?] at h
    split at h
    · rename_i m' heq
      cases h
      exact matchAt?_rest heq
    · obtain ⟨taken, hs, hstop⟩ := ih h
      refine ⟨x :: taken, by rw [hs, List.cons_append], ?_⟩
      rw [hstop, List.length_cons]
      omega

/-- What is left after the first match is the text from its end on. -/
theorem search?_rest {p : Pattern} {s : Text} {m : Match} (h : p.search? s = some m) :
    m.stop ≤ s.length ∧ m.rest = s.drop m.stop := by
  rw [search?_eq] at h
  obtain ⟨taken, rfl, hstop⟩ := searchFrom?_rest h
  rw [Nat.zero_add] at hstop
  rw [hstop, List.drop_left]
  exact ⟨by simp, rfl⟩

end StyleCheck.Pattern
