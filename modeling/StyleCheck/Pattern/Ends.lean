/-
  StyleCheck.Pattern.Ends — the places that a pattern offers.

  1. At a cursor, a pattern offers the places where it can end, in an order of its own (`ends`). The first one after
     which all that follows matches too is the one that is taken (`offers_run`). So all that is to be known about a
     match can be said of the places on offer (`exists_end_of_run`), and whether there is a match does not depend on
     their order (`isSome_run`).
  2. On the way to an end, a pattern takes characters of its own sets only, unless it takes a text once more
     (`TakesOnly`, `reachesBy_of_mem_ends`). In any case places only ever move to the right (`forward_run`).
-/

import StyleCheck.Pattern.Run

namespace StyleCheck.Pattern

/-! ## The places on offer -/

/-- The places after exactly `rounds` rounds. -/
def endsTimes (body : Cursor → List Cursor) : (rounds : Nat) → Cursor → List Cursor
  | 0, c => [c]
  | rounds + 1, c => (body c).flatMap (endsTimes body rounds)

/-- The places after at most `rounds` rounds, those after more rounds first or last. -/
def endsUpTo (moreFirst : Bool) (body : Cursor → List Cursor) : (rounds : Nat) → Cursor → List Cursor
  | 0, c => [c]
  | rounds + 1, c =>
    let more := (body c).flatMap fun d => if c.column < d.column then endsUpTo moreFirst body rounds d else [d]
    if moreFirst then more ++ [c] else c :: more

/-- The places where a pattern can end, in the order in which it offers them. -/
def ends : Pattern → Cursor → List Cursor
  | empty, c => [c]
  | one s, c =>
    match c.rest with
    | [] => []
    | x :: xs => if s.has x then [c.step x xs] else []
  | seq p q, c => (p.ends c).flatMap q.ends
  | alt p q, c => p.ends c ++ q.ends c
  | many p, c => endsUpTo true p.ends (c.rest.length + 1) c
  | few p, c => endsUpTo false p.ends (c.rest.length + 1) c
  | times n p, c => endsTimes p.ends (rounds n c) c
  | upTo n p, c => endsUpTo true p.ends (rounds n c) c
  | fewTo n p, c => endsUpTo false p.ends (rounds n c) c
  | once p, c => (p.ends c).take 1
  | group n p, c => (p.ends c).map fun d => c.remember d n
  | again n, c =>
    match c.capture? n with
    | none => []
    | some taken =>
      if taken.text.isPrefixOf c.rest then [c.advance taken.text (c.rest.drop taken.text.length)] else []
  | edge, c => if c.atEdge then [c] else []
  | start, c => if c.column == 0 then [c] else []
  | finish, c => if c.atFinish then [c] else []
  | lineStart, c => if c.atLineStart then [c] else []
  | lineEnd, c => if c.atLineEnd then [c] else []
  | ahead p, c => ((p.ends c).take 1).map fun d => { c with captures := d.captures }
  | notAhead p, c => if (p.ends c).isEmpty then [c] else []

theorem mem_ends_one {set : CharSet} {c d : Cursor} :
    d ∈ (one set).ends c ↔ ∃ x rest, c.rest = x :: rest ∧ set.has x = true ∧ d = c.step x rest := by
  rw [ends]
  constructor
  · intro h
    split at h
    · cases h
    · rename_i x rest hrest
      split at h
      · rename_i hx
        exact ⟨x, rest, hrest, hx, List.mem_singleton.mp h⟩
      · cases h
  · rintro ⟨x, rest, hrest, hx, rfl⟩
    simp [hrest, hx]

/-- Some rounds end where they begin, or where those after the first one end. -/
theorem mem_endsUpTo_succ {moreFirst : Bool} {body : Cursor → List Cursor} {rounds : Nat} {c d : Cursor} :
    d ∈ endsUpTo moreFirst body (rounds + 1) c ↔
      d = c ∨ ∃ e ∈ body c, d ∈ if c.column < e.column then endsUpTo moreFirst body rounds e else [e] := by
  cases moreFirst
  · simp [endsUpTo]
  · simp [endsUpTo, or_comm]

/-! ## The place that is taken -/

theorem findSome?_flatMap {α β γ : Type} (l : List α) (f : α → List β) (g : β → Option γ) :
    (l.flatMap f).findSome? g = l.findSome? fun a => (f a).findSome? g := by
  induction l with
  | nil => rfl
  | cons a l ih =>
    rw [List.flatMap_cons, List.findSome?_append, ih, List.findSome?_cons]
    cases (f a).findSome? g <;> rfl

/-- The matcher takes the first of the places that is accepted. -/
def Matcher.Offers (m : Matcher) (places : Cursor → List Cursor) : Prop :=
  ∀ next c, m next c = (places c).findSome? next

section

variable {body : Matcher} {places : Cursor → List Cursor}

theorem offers_repeatTimes (h : body.Offers places) (rounds : Nat) :
    Matcher.Offers (repeatTimes body rounds) (endsTimes places rounds) := by
  induction rounds with
  | zero => exact fun next c => (List.findSome?_singleton ..).symm
  | succ rounds ih =>
    intro next c
    rw [repeatTimes, endsTimes, findSome?_flatMap, h, funext (ih next)]

/-- After a round that has taken a character come further rounds, after any other round none. -/
theorem findSome?_further {further : Cursor → List Cursor} (next : Cursor → Option Cursor) (c : Cursor)
    (ds : List Cursor) :
    (ds.flatMap fun d => if c.column < d.column then further d else [d]).findSome? next
      = ds.findSome? fun d => if c.column < d.column then (further d).findSome? next else next d := by
  rw [findSome?_flatMap]
  congr
  funext d
  split
  · rfl
  · exact List.findSome?_singleton ..

theorem offers_repeatMany (h : body.Offers places) (rounds : Nat) :
    Matcher.Offers (repeatMany body rounds) (endsUpTo true places rounds) := by
  induction rounds with
  | zero => exact fun next c => (List.findSome?_singleton ..).symm
  | succ rounds ih =>
    intro next c
    simp only [repeatMany, h _ c, ih next _, endsUpTo, if_true, List.findSome?_append, findSome?_further,
      List.findSome?_singleton]
    split <;> simp [*]

theorem offers_repeatFew (h : body.Offers places) (rounds : Nat) :
    Matcher.Offers (repeatFew body rounds) (endsUpTo false places rounds) := by
  induction rounds with
  | zero => exact fun next c => (List.findSome?_singleton ..).symm
  | succ rounds ih =>
    intro next c
    simp only [repeatFew, h _ c, ih next _, endsUpTo, Bool.false_eq_true, if_false, List.findSome?_cons,
      findSome?_further]
    cases next c <;> rfl

end

/-- A pattern takes the first of its ends after which all that follows matches too. -/
theorem offers_run (p : Pattern) : Matcher.Offers p.run p.ends := by
  induction p with
  | empty => exact fun next c => (List.findSome?_singleton ..).symm
  | one set =>
    intro next c
    simp only [run, ends]
    cases c.rest with
    | nil => rfl
    | cons x xs => cases hx : set.has x <;> simp [hx]
  | seq p q ihp ihq =>
    intro next c
    rw [run, ends, findSome?_flatMap, ihp, funext (ihq next)]
  | alt p q ihp ihq =>
    intro next c
    simp only [run, ends, List.findSome?_append, ihp next c, ihq next c]
    split <;> simp [*]
  | many p ih => exact fun next c => offers_repeatMany ih _ next c
  | few p ih => exact fun next c => offers_repeatFew ih _ next c
  | times n p ih => exact fun next c => offers_repeatTimes ih _ next c
  | upTo n p ih => exact fun next c => offers_repeatMany ih _ next c
  | fewTo n p ih => exact fun next c => offers_repeatFew ih _ next c
  | group n p ih =>
    intro next c
    rw [run, ends, List.findSome?_map, ih]
    rfl
  | again n =>
    intro next c
    simp only [run, ends]
    cases c.capture? n with
    | none => rfl
    | some taken =>
      dsimp only
      split <;> simp
  | edge | start | finish | lineStart | lineEnd =>
    intro next c
    simp only [run, ends]
    split <;> simp
  | once p ih | ahead p ih | notAhead p ih =>
    -- only the first end counts, or that there is one
    intro next c
    simp only [run, ends, ih some c]
    cases p.ends c <;> simp

variable {p : Pattern} {next : Cursor → Option Cursor} {c d : Cursor}

theorem exists_end_of_run (h : p.run next c = some d) : ∃ e ∈ p.ends c, next e = some d :=
  List.exists_of_findSome?_eq_some (offers_run p next c ▸ h)

/-- There is a match just if one of the places on offer is accepted. -/
theorem isSome_run : (p.run next c).isSome = true ↔ ∃ e ∈ p.ends c, (next e).isSome = true := by
  rw [offers_run, List.findSome?_isSome_iff]

/-! ## The characters on the way -/

/-- `d` stands further to the right in the same text, and `P` holds of all characters between. -/
def Cursor.ReachesBy (P : Char → Prop) (c d : Cursor) : Prop :=
  ∃ taken, c.rest = taken ++ d.rest ∧ d.column = c.column + taken.length ∧ ∀ x ∈ taken, P x

namespace Cursor.ReachesBy

variable {P : Char → Prop} {c d e : Cursor}

theorem refl (c : Cursor) : c.ReachesBy P c := ⟨[], rfl, rfl, fun _ h => absurd h List.not_mem_nil⟩

theorem trans (h : c.ReachesBy P d) (h' : d.ReachesBy P e) : c.ReachesBy P e := by
  obtain ⟨t, hr, hc, ht⟩ := h
  obtain ⟨t', hr', hc', ht'⟩ := h'
  refine ⟨t ++ t', by rw [hr, hr', List.append_assoc], ?_, fun x hx => (List.mem_append.mp hx).elim (ht x) (ht' x)⟩
  rw [hc', hc, List.length_append]
  omega

end Cursor.ReachesBy

/-- `P` holds of every character that the pattern can take. A text that is taken once more can hold any. -/
def TakesOnly (P : Char → Prop) : Pattern → Prop
  | empty | edge | start | finish | lineStart | lineEnd | ahead _ | notAhead _ => True
  | again _ => ∀ x, P x
  | one set => ∀ x, set.has x = true → P x
  | seq p q | alt p q => p.TakesOnly P ∧ q.TakesOnly P
  | many p | few p | times _ p | upTo _ p | fewTo _ p | once p | group _ p => p.TakesOnly P

theorem takesOnly_true (p : Pattern) : p.TakesOnly fun _ => True := by
  induction p <;> simp [TakesOnly, *]

section

variable {P : Char → Prop} {places : Cursor → List Cursor} (h : ∀ c, ∀ d ∈ places c, c.ReachesBy P d)

include h

theorem reachesBy_endsTimes (rounds : Nat) : ∀ c, ∀ d ∈ endsTimes places rounds c, c.ReachesBy P d := by
  induction rounds with
  | zero =>
    intro c d hd
    rw [List.mem_singleton.mp hd]
    exact .refl c
  | succ rounds ih =>
    intro c d hd
    obtain ⟨e, he, hd⟩ := List.mem_flatMap.mp hd
    exact (h c e he).trans (ih e d hd)

theorem reachesBy_endsUpTo (moreFirst : Bool) (rounds : Nat) :
    ∀ c, ∀ d ∈ endsUpTo moreFirst places rounds c, c.ReachesBy P d := by
  induction rounds with
  | zero =>
    intro c d hd
    rw [List.mem_singleton.mp hd]
    exact .refl c
  | succ rounds ih =>
    intro c d hd
    rcases mem_endsUpTo_succ.mp hd with rfl | ⟨e, he, hd⟩
    · exact .refl d
    · refine (h c e he).trans ?_
      split at hd
      · exact ih e d hd
      · rw [List.mem_singleton.mp hd]
        exact .refl e

end

/-- On the way to an end stand only characters that the pattern can take. -/
theorem reachesBy_of_mem_ends {P : Char → Prop} (hp : p.TakesOnly P) : ∀ c, ∀ d ∈ p.ends c, c.ReachesBy P d := by
  induction p with
  | empty =>
    intro c d hd
    rw [List.mem_singleton.mp hd]
    exact .refl c
  | one set =>
    intro c d hd
    obtain ⟨x, rest, hrest, hx, rfl⟩ := mem_ends_one.mp hd
    exact ⟨[x], hrest, rfl, by simpa using hp x hx⟩
  | seq p q ihp ihq =>
    intro c d hd
    obtain ⟨e, he, hd⟩ := List.mem_flatMap.mp hd
    exact (ihp hp.1 c e he).trans (ihq hp.2 e d hd)
  | alt p q ihp ihq =>
    intro c d hd
    exact (List.mem_append.mp hd).elim (ihp hp.1 c d) (ihq hp.2 c d)
  | many p ih => exact fun c => reachesBy_endsUpTo (ih hp) true _ c
  | few p ih => exact fun c => reachesBy_endsUpTo (ih hp) false _ c
  | times n p ih => exact fun c => reachesBy_endsTimes (ih hp) _ c
  | upTo n p ih => exact fun c => reachesBy_endsUpTo (ih hp) true _ c
  | fewTo n p ih => exact fun c => reachesBy_endsUpTo (ih hp) false _ c
  | once p ih => exact fun c d hd => ih hp c d (List.mem_of_mem_take hd)
  | group n p ih =>
    intro c d hd
    obtain ⟨e, he, rfl⟩ := List.mem_map.mp hd
    exact ih hp c e he
  | again n =>
    intro c d hd
    simp only [ends] at hd
    split at hd
    · cases hd
    · rename_i taken _
      split at hd
      · rename_i hstart
        obtain ⟨rest, hrest⟩ := List.isPrefixOf_iff_prefix.mp hstart
        rw [List.mem_singleton.mp hd]
        refine ⟨taken.text, ?_, rfl, fun x _ => hp x⟩
        simp only [Cursor.advance, ← hrest, List.drop_left]
      · cases hd
  | edge | start | finish | lineStart | lineEnd | notAhead =>
    intro c d hd
    simp only [ends] at hd
    split at hd
    · rw [List.mem_singleton.mp hd]
      exact .refl c
    · cases hd
  | ahead p ih =>
    intro c d hd
    obtain ⟨e, -, rfl⟩ := List.mem_map.mp hd
    exact .refl c

/-! ## Places move to the right -/

/-- `d` stands further to the right in the same text, by the characters that have been taken. -/
def Cursor.Reaches (c d : Cursor) : Prop :=
  ∃ taken, c.rest = taken ++ d.rest ∧ d.column = c.column + taken.length

theorem Cursor.Reaches.suffix {c d : Cursor} (h : c.Reaches d) : d.rest <:+ c.rest := by
  obtain ⟨t, hr, -⟩ := h
  exact ⟨t, hr.symm⟩

/-- A matcher hands only places at or after the cursor on. -/
def Matcher.Forward (m : Matcher) : Prop :=
  ∀ next c d, m next c = some d → ∃ e, next e = some d ∧ c.Reaches e

theorem forward_run (p : Pattern) : Matcher.Forward p.run := by
  intro next c d h
  obtain ⟨e, he, hd⟩ := exists_end_of_run h
  obtain ⟨taken, hrest, hcolumn, -⟩ := reachesBy_of_mem_ends p.takesOnly_true c e he
  exact ⟨e, hd, taken, hrest, hcolumn⟩

end StyleCheck.Pattern
