/-
  StyleCheck.Proofs.Check.OutOfRange — rules that look beyond the end of a list or a line.

  (1) A parameter of a constructor is the shortest run of pieces between commas that leaves no bracket
      open. The parameters cannot be told if the pieces cannot be cut into such runs (`Grouped`), and
      only then (`accounts_nonstandard`).
  (2) The rule for casts looks at the character after the type of a cast whose address is taken, so
      it fails if the type ends its line (`TypeEndsLine`), and only then (`accounts_outcome`).
-/

import Mathlib.Data.List.Basic
import StyleCheck.Check.Line
import StyleCheck.Proofs.Bracket.Forward
import StyleCheck.Proofs.Check.Account
import StyleCheck.Proofs.Text.Cut

namespace StyleCheck

/-! ## Parameters -/

namespace Rule

/-- A parameter with commas in it, given as the pieces between them: brackets are open after every
piece but the last. -/
structure IsParameter (g : List Text) : Prop where
  nonempty : g ≠ []
  closed : isOpenParameter (Text.joinWith [','] g) = false
  shortest : ∀ x, x <+: g → x ≠ [] → x ≠ g → isOpenParameter (Text.joinWith [','] x) = true

def Grouped (pieces : List Text) : Prop := ∃ gs : List (List Text), gs.flatten = pieces ∧ ∀ g ∈ gs, IsParameter g

/-- A list begins with at most one parameter. -/
theorem IsParameter.eq_of_isPrefix {g g' l : List Text} (h : IsParameter g) (h' : IsParameter g') (hg : g <+: l)
    (hg' : g' <+: l) : g = g' := by
  by_contra hne
  rcases List.prefix_or_prefix_of_prefix hg hg' with hp | hp
  · have := h'.shortest g hp h.nonempty hne
    rw [h.closed] at this
    exact Bool.false_ne_true this
  · have := h.shortest g' hp h'.nonempty (Ne.symm hne)
    rw [h'.closed] at this
    exact Bool.false_ne_true this

theorem Grouped.cons_iff {g rest : List Text} (h : IsParameter g) : Grouped (g ++ rest) ↔ Grouped rest := by
  constructor
  · rintro ⟨gs, hflat, hall⟩
    cases gs with
    | nil =>
      have := h.nonempty
      simp_all
    | cons g' gs =>
      have hp : g' <+: g ++ rest := ⟨gs.flatten, hflat⟩
      obtain rfl := h.eq_of_isPrefix (hall g' (by simp)) (List.prefix_append g rest) hp
      exact ⟨gs, List.append_cancel_left hflat, fun x hx => hall x (by simp [hx])⟩
  · rintro ⟨gs, rfl, hall⟩
    exact ⟨g :: gs, rfl, by simpa using ⟨h, hall⟩⟩

/-- Pieces that stay open to the end are not cut into parameters. -/
theorem not_grouped_of_open {l : List Text} (hl : l ≠ [])
    (hopen : ∀ x, x <+: l → x ≠ [] → isOpenParameter (Text.joinWith [','] x) = true) : ¬ Grouped l := by
  rintro ⟨gs, rfl, hall⟩
  cases gs with
  | nil => exact hl rfl
  | cons g gs =>
    have hg := hall g (by simp)
    have := hopen g ⟨gs.flatten, rfl⟩ hg.nonempty
    rw [hg.closed] at this
    exact Bool.false_ne_true this

/-- A single piece has no proper beginning. -/
theorem beginnings_of_piece (piece : Text) : ∀ x, x <+: [piece] → x ≠ [] → x ≠ [piece] →
    isOpenParameter (Text.joinWith [','] x) = true := by
  intro x hx hx0 hxn
  rcases List.prefix_cons_iff.mp hx with rfl | ⟨y, rfl, hy⟩
  · exact absurd rfl hx0
  · rw [List.prefix_nil.mp hy] at hxn
    exact absurd rfl hxn

/-- `begun` is the parameter that is being joined: brackets are open after every piece but, maybe, the
last. -/
theorem accounts_joinParameters (rest : List Text) : ∀ begun : List Text, begun ≠ [] →
    (∀ x, x <+: begun → x ≠ [] → x ≠ begun → isOpenParameter (Text.joinWith [','] x) = true) →
    Accounts (fun e => e = .outOfRange ∧ ¬ Grouped (begun ++ rest))
      (failureOf (joinParameters (Text.joinWith [','] begun) rest)) := by
  induction rest with
  | nil =>
    intro begun hne hopen
    rw [List.append_nil, joinParameters]
    by_cases ho : isOpenParameter (Text.joinWith [','] begun) = true
    · rw [if_pos ho]
      refine .failed ⟨rfl, not_grouped_of_open hne fun x hx hx0 => ?_⟩
      by_cases hxb : x = begun
      · rw [hxb]
        exact ho
      · exact hopen x hx hx0 hxb
    · rw [if_neg ho]
      have hp : IsParameter begun := ⟨hne, by simpa using ho, hopen⟩
      exact .ended fun e he => he.2 ⟨[begun], by simp, by simpa using hp⟩
  | cons next rest ih =>
    intro begun hne hopen
    rw [joinParameters]
    by_cases ho : isOpenParameter (Text.joinWith [','] begun) = true
    · rw [if_pos ho]
      -- the proper beginnings of the longer run are those of the shorter one, and itself
      have hnext := ih (begun ++ [next]) (by simp) fun x hx hx0 hxn => by
        rcases List.prefix_concat_iff.mp hx with rfl | hxb
        · exact absurd rfl hxn
        · by_cases hxe : x = begun
          · rw [hxe]
            exact ho
          · exact hopen x hxb hx0 hxe
      rw [Text.joinWith_snoc _ hne, List.append_assoc, List.append_assoc] at hnext
      exact hnext
    · rw [if_neg ho, failureOf_map]
      have hp : IsParameter begun := ⟨hne, by simpa using ho, hopen⟩
      have hnext := ih [next] (by simp) (beginnings_of_piece next)
      exact hnext.congr fun e => and_congr_right fun _ => not_congr (Grouped.cons_iff hp).symm

theorem accounts_parameters (t : Text) :
    Accounts (fun e => e = .outOfRange ∧ ¬ Grouped (Text.pieces [','] t)) (failureOf (parameters t)) := by
  unfold parameters
  by_cases ht : t.isEmpty = true
  · rw [if_pos ht, List.isEmpty_iff.mp ht]
    have hp : IsParameter [[]] := ⟨by simp, rfl, beginnings_of_piece []⟩
    exact .ended fun e he => he.2 ⟨[[[]]], rfl, by simpa using hp⟩
  · rw [if_neg ht]
    cases Text.pieces [','] t with
    | nil => exact .ended fun e he => he.2 ⟨[], rfl, by simp⟩
    | cons piece rest => exact accounts_joinParameters rest [piece] (by simp) (beginnings_of_piece piece)

def constructorAt? (s : Source) (st : Nesting) (n : Nat) : Option Pattern.Match :=
  st.innermostClass?.bind fun (b, head) =>
    if b.opened then (constructorOf (unqualified head.name)).match? (s.elided n) else none

def ParametersLeftOpen (s : Source) (st : Nesting) (n : Nat) : Prop :=
  ∃ m, constructorAt? s st n = some m ∧ ¬ Grouped (Text.pieces [','] (m.group 2))

theorem explicitConstructors_failure (s : Source) (st : Nesting) (n : Nat) :
    (explicitConstructors s st n).failure
      = (constructorAt? s st n).bind fun m => failureOf (parameters (m.group 2)) := by
  unfold explicitConstructors constructorAt?
  rcases st.innermostClass? with _ | ⟨b, head⟩
  · rfl
  · simp only [Option.bind_some]
    split
    · rcases (constructorOf (unqualified head.name)).match? (s.elided n) with _ | m
      · rfl
      · simp only [Option.bind_some]
        cases parameters (m.group 2) <;> rfl
    · rfl

theorem accounts_nonstandard (s : Source) (st : Nesting) (n : Nat) :
    Accounts (fun e => e = .outOfRange ∧ ParametersLeftOpen s st n) (nonstandard s st n).failure := by
  simp only [nonstandard, Outcome.append_failure, Outcome.ofFindings_failure, Option.none_or,
    explicitConstructors_failure, ParametersLeftOpen]
  cases constructorAt? s st n with
  | none => exact .ended fun e he => by simp at he
  | some m => exact (accounts_parameters (m.group 2)).congr fun e => by simp

end Rule

/-! ## Casts -/

namespace Rule.Casts

def typeEnd? (s : Source) (n : Nat) : Option Place :=
  (addressOfNamedCast.match? (s.elided n)).bind fun m => (Bracket.findClose s n (m.group 1).length).place

/-- Line `n` looks like the declaration of an array, and its casts are not looked at. -/
def IsArray (s : Source) (n : Nat) : Prop := expectsFunction s n = false ∧ conversionOf (s.elided n) = .array

/-- Line `n` takes the address of a cast, and nothing follows the type of the cast on its line. -/
def TypeEndsLine (s : Source) (n : Nat) : Prop :=
  ¬ IsArray s n ∧ addressOfCast.occursIn (s.elided n) = true ∧
    ∃ q, typeEnd? s n = some q ∧ (s.elided q.line).length ≤ q.column

theorem accounts_takesDereferenced (s : Source) (n : Nat) :
    Accounts (fun e => e = .outOfRange ∧ ∃ q, typeEnd? s n = some q ∧ (s.elided q.line).length ≤ q.column)
      (failureOf (takesDereferenced s n)) := by
  unfold takesDereferenced typeEnd?
  rcases addressOfNamedCast.match? (s.elided n) with _ | m
  · exact .ended fun e he => by simp at he
  · simp only [Option.bind_some]
    rcases hp : (Bracket.findClose s n (m.group 1).length).place with _ | q
    · exact .ended fun e he => by simp at he
    · have hrest : (Bracket.findClose s n (m.group 1).length).rest = (s.elided q.line).drop q.column := by
        simp only [Reach.rest, hp, Bracket.findClose_text s _ _ hp]
      simp only [hrest]
      rcases hd : (s.elided q.line).drop q.column with _ | ⟨c, tail⟩
      · exact .failed ⟨rfl, q, rfl, List.drop_eq_nil_iff.mp hd⟩
      · refine .ended ?_
        rintro e ⟨-, q', hq, hlen⟩
        cases hq
        rw [List.drop_eq_nil_iff.mpr hlen] at hd
        cases hd

theorem addresses_failure (s : Source) (n : Nat) :
    (addresses s n).failure
      = if addressOfCast.occursIn (s.elided n) then failureOf (takesDereferenced s n) else none := by
  unfold addresses
  split
  · rcases takesDereferenced s n with e | b
    · rfl
    · cases b <;> rfl
  · rfl

theorem accounts_outcome (s : Source) (n : Nat) :
    Accounts (fun e => e = .outOfRange ∧ TypeEndsLine s n) (outcome s n).failure := by
  have haddr : ¬ IsArray s n →
      Accounts (fun e => e = .outOfRange ∧ TypeEndsLine s n) (addresses s n).failure := by
    intro harr
    rw [addresses_failure]
    split
    · rename_i ho
      exact (accounts_takesDereferenced s n).congr fun e => by simp [TypeEndsLine, harr, ho]
    · rename_i ho
      exact .ended fun e he => ho he.2.2.1
  have harr : IsArray s n ↔ (if expectsFunction s n then .none else conversionOf (s.elided n)) = Conversion.array := by
    unfold IsArray
    cases expectsFunction s n <;> simp
  unfold outcome
  simp only
  split
  · rename_i h
    exact .ended fun e he => he.2.1 (harr.mpr h)
  · rename_i h
    simp only [Outcome.append_failure, Outcome.ofFindings_failure, Option.none_or]
    exact haddr fun ha => by rw [harr.mp ha] at h; cases h
  · rename_i h
    simp only [Outcome.append_failure, Outcome.ofFindings_failure, Option.none_or]
    exact haddr fun ha => by rw [harr.mp ha] at h; cases h

end Rule.Casts

end StyleCheck
