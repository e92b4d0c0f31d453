/-
  StyleCheck.Proofs.Include.Sections — the order of headers as a grammar.

  A table that has been reset takes headers in one after another, and between them entries are added and
  keys are noted. The verdict on a header depends on the kinds of the headers before it only
  (`verdicts_eq_judge`). All headers are accepted just if their kinds are a run of own headers, then one of
  headers of C, then one of headers of C++, then own and other headers in any order: what may still come in
  a section (`toCome`) is the grammar without its first runs, and each header leaves that of the next
  section (`runs_toCome_cons`).

  `headers_are_accepted_in_grammatical_order` says this, that the section moves forward only, and that a
  header which is out of order leaves no trace: without it the verdicts on all others are the same.
-/

import StyleCheck.Include.Table

namespace StyleCheck

/-! ## Runs -/

/-- The list is a run of members of the first set, then one of the second set, and so on. -/
def Runs {α : Type} : List (α → Prop) → List α → Prop
  | [], as => as = []
  | p :: ps, as => ∃ run rest, as = run ++ rest ∧ (∀ a ∈ run, p a) ∧ Runs ps rest

section

variable {α : Type} {p : α → Prop} {ps : List (α → Prop)} {a : α} {as : List α}

theorem Runs.skip (h : Runs ps as) : Runs (p :: ps) as := ⟨[], as, rfl, by simp, h⟩

theorem runs_nil (ps : List (α → Prop)) : Runs ps [] := by
  induction ps with
  | nil => rfl
  | cons p ps ih => exact ih.skip

theorem runs_cons : Runs (p :: ps) (a :: as) ↔ (p a ∧ Runs (p :: ps) as) ∨ Runs ps (a :: as) := by
  constructor
  · rintro ⟨run, rest, he, hrun, hrest⟩
    cases run with
    | nil =>
      rw [List.nil_append] at he
      exact .inr (he ▸ hrest)
    | cons b run =>
      simp only [List.cons_append, List.cons.injEq] at he
      obtain ⟨rfl, rfl⟩ := he
      exact .inl ⟨hrun a (by simp), run, rest, rfl, fun b hb => hrun b (by simp [hb]), hrest⟩
  · rintro (⟨ha, run, rest, rfl, hrun, hrest⟩ | h)
    · exact ⟨a :: run, rest, rfl, by simpa using ⟨ha, hrun⟩, hrest⟩
    · exact h.skip

theorem not_runs_nil_cons : ¬ Runs [] (a :: as) := by
  intro h
  cases h

end

/-! ## What may come in a section -/

namespace HeaderKind

/-- The file's own header, for certain or perhaps. -/
def IsOwn (kind : HeaderKind) : Prop := kind = own ∨ kind = perhapsOwn

def IsLate (kind : HeaderKind) : Prop := kind.IsOwn ∨ kind = other

/-- Own headers, then headers of C, then headers of C++, then own and other headers in any order. -/
def InOrder (kinds : List HeaderKind) : Prop :=
  ∃ owns cs cpps late, kinds = owns ++ cs ++ cpps ++ late ∧
    (∀ k ∈ owns, k.IsOwn) ∧ (∀ k ∈ cs, k = cSystem) ∧ (∀ k ∈ cpps, k = cppSystem) ∧ ∀ k ∈ late, k.IsLate

end HeaderKind

namespace HeaderSection

open HeaderKind (IsOwn IsLate InOrder)

/-- The runs that may still come in a section. -/
def toCome : HeaderSection → List (HeaderKind → Prop)
  | initial | own => [IsOwn, (· = .cSystem), (· = .cppSystem), IsLate]
  | c => [(· = .cSystem), (· = .cppSystem), IsLate]
  | cpp => [(· = .cppSystem), IsLate]
  | other => [IsLate]

theorem runs_toCome_initial (kinds : List HeaderKind) : Runs initial.toCome kinds ↔ InOrder kinds := by
  constructor
  · rintro ⟨owns, _, rfl, howns, cs, _, rfl, hcs, cpps, _, rfl, hcpps, late, _, rfl, hlate, rfl⟩
    exact ⟨owns, cs, cpps, late, by simp, howns, hcs, hcpps, hlate⟩
  · rintro ⟨owns, cs, cpps, late, rfl, howns, hcs, hcpps, hlate⟩
    rw [List.append_assoc, List.append_assoc]
    exact ⟨owns, _, rfl, howns, cs, _, rfl, hcs, cpps, _, rfl, hcpps, late, [], by simp, hlate, rfl⟩

/-- A header may come next just if there is a section after it and the other headers may come there. -/
theorem runs_toCome_cons (s : HeaderSection) (kind : HeaderKind) (kinds : List HeaderKind) :
    Runs s.toCome (kind :: kinds) ↔ ∃ s', s.next? kind = some s' ∧ Runs s'.toCome kinds := by
  cases s <;> cases kind <;>
    simp only [toCome, next?, rank, runs_cons, not_runs_nil_cons, IsOwn, IsLate, reduceCtorEq, true_and, false_and,
      or_false, false_or, or_true, if_true, if_false, Option.some.injEq, exists_eq_left', Nat.le_refl,
      Nat.zero_le, Nat.reduceLeDiff, exists_false]
  -- An own header at the start could also begin the last run, but then all the runs before it are empty.
  all_goals exact or_iff_left_of_imp fun h => h.skip.skip.skip

/-! ## Verdicts -/

structure Judged where
  kind : HeaderKind
  message? : Option String

def judge : HeaderSection → List HeaderKind → List Judged
  | _, [] => []
  | s, kind :: kinds =>
    match s.next? kind with
    | none => ⟨kind, some ("Found " ++ kind.title ++ " after " ++ s.title)⟩ :: judge s kinds
    | some s' => ⟨kind, none⟩ :: judge s' kinds

theorem judge_of_none {s : HeaderSection} {kind : HeaderKind} (h : s.next? kind = none) (kinds : List HeaderKind) :
    s.judge (kind :: kinds) =
      ⟨kind, some ("Found " ++ kind.title ++ " after " ++ s.title)⟩ :: s.judge kinds := by
  simp only [judge, h]

theorem judge_of_some {s s' : HeaderSection} {kind : HeaderKind} (h : s.next? kind = some s')
    (kinds : List HeaderKind) : s.judge (kind :: kinds) = ⟨kind, none⟩ :: s'.judge kinds := by
  simp only [judge, h]

theorem judge_accepts_iff (s : HeaderSection) (kinds : List HeaderKind) :
    (∀ v ∈ s.judge kinds, v.message? = none) ↔ Runs s.toCome kinds := by
  induction kinds generalizing s with
  | nil => simp [judge, runs_nil]
  | cons kind kinds ih =>
    rw [runs_toCome_cons]
    cases h : s.next? kind with
    | none => simp [judge_of_none h]
    | some s' => simp [judge_of_some h, ih]

theorem rank_le_of_next? {s s' : HeaderSection} {kind : HeaderKind} (h : s.next? kind = some s') :
    s.rank ≤ s'.rank := by
  revert h
  cases s <;> cases kind <;> simp [next?, rank] <;> rintro rfl <;> simp

/-- The first list is the second one without some of the headers that are out of order. -/
inductive Thinned : List Judged → List Judged → Prop
  | nil : Thinned [] []
  | keep (v : Judged) {kept all : List Judged} : Thinned kept all → Thinned (v :: kept) (v :: all)
  | drop (kind : HeaderKind) (message : String) {kept all : List Judged} :
      Thinned kept all → Thinned kept (⟨kind, some message⟩ :: all)

theorem judge_thinned {s : HeaderSection} {kinds : List HeaderKind} {kept : List Judged}
    (h : Thinned kept (s.judge kinds)) : s.judge (kept.map (·.kind)) = kept := by
  induction kinds generalizing s kept with
  | nil =>
    cases h
    rfl
  | cons kind kinds ih =>
    cases hnext : s.next? kind with
    | none =>
      rw [judge_of_none hnext] at h
      cases h with
      | keep _ h => rw [List.map_cons, judge_of_none hnext, ih h]
      | drop _ _ h => exact ih h
    | some s' =>
      rw [judge_of_some hnext] at h
      -- The header was accepted, so that it is kept.
      cases h with
      | keep _ h => rw [List.map_cons, judge_of_some hnext, ih h]

end HeaderSection

/-! ## Tables -/

namespace IncludeTable

open HeaderSection (Judged Thinned)

def reset (t : IncludeTable) : Option Directive.Condition → IncludeTable
  | none => t.restart
  | some d => t.condition d

inductive Use where
  | header (kind : HeaderKind)
  | entry (path : Text) (line : Int)
  | key (path : Text)

def use (t : IncludeTable) : Use → IncludeTable
  | .header kind => (t.proceed kind).1
  | .entry path line => t.add path line
  | .key path => t.setLast path

def after (t : IncludeTable) (uses : List Use) : IncludeTable := uses.foldl use t

def verdicts (t : IncludeTable) : List Use → List Judged
  | [] => []
  | .header kind :: uses => ⟨kind, (t.proceed kind).2⟩ :: (t.proceed kind).1.verdicts uses
  | u :: uses => (t.use u).verdicts uses

def Use.kind? : Use → Option HeaderKind
  | .header kind => some kind
  | _ => none

theorem reset_section (t : IncludeTable) (d : Option Directive.Condition) :
    (t.reset d).section = .initial := by
  rcases d with _ | (_ | _ | _) <;> rfl

theorem proceed_of_none {t : IncludeTable} {kind : HeaderKind} (h : t.section.next? kind = none) :
    t.proceed kind =
      ({ t with last := [] }, some ("Found " ++ kind.title ++ " after " ++ t.section.title)) := by
  simp only [proceed, h]

theorem proceed_of_some {t : IncludeTable} {kind : HeaderKind} {s : HeaderSection}
    (h : t.section.next? kind = some s) : (t.proceed kind).1.section = s ∧ (t.proceed kind).2 = none := by
  simp only [proceed, h, and_true]
  split
  · next he => exact he.symm
  · rfl

theorem proceed_section_of_message {t : IncludeTable} {kind : HeaderKind} (h : (t.proceed kind).2 ≠ none) :
    (t.proceed kind).1.section = t.section := by
  cases hnext : t.section.next? kind with
  | none => rw [proceed_of_none hnext]
  | some s => exact absurd (proceed_of_some hnext).2 h

theorem verdicts_eq_judge (t : IncludeTable) (uses : List Use) :
    t.verdicts uses = t.section.judge (uses.filterMap Use.kind?) := by
  induction uses generalizing t with
  | nil => rfl
  | cons u uses ih =>
    cases u with
    | entry path line => exact ih _
    | key path => exact ih _
    | header kind =>
      have hkinds : (Use.header kind :: uses).filterMap Use.kind? = kind :: uses.filterMap Use.kind? := rfl
      rw [hkinds, verdicts, ih]
      cases hnext : t.section.next? kind with
      | none => rw [HeaderSection.judge_of_none hnext, proceed_of_none hnext]
      | some s => rw [HeaderSection.judge_of_some hnext, (proceed_of_some hnext).1, (proceed_of_some hnext).2]

theorem rank_le_use (t : IncludeTable) (u : Use) : t.section.rank ≤ (t.use u).section.rank := by
  cases u with
  | entry path line => exact Nat.le_refl _
  | key path => exact Nat.le_refl _
  | header kind =>
    cases hnext : t.section.next? kind with
    | none =>
      have hsame : (t.use (.header kind)).section = t.section := by rw [use, proceed_of_none hnext]
      exact Nat.le_of_eq (congrArg HeaderSection.rank hsame.symm)
    | some s =>
      rw [use, (proceed_of_some hnext).1]
      exact HeaderSection.rank_le_of_next? hnext

theorem rank_le_after (t : IncludeTable) (uses : List Use) : t.section.rank ≤ (t.after uses).section.rank := by
  induction uses generalizing t with
  | nil => exact Nat.le_refl _
  | cons u uses ih => exact Nat.le_trans (t.rank_le_use u) (ih (t.use u))

/-- After a reset all headers are accepted just if their kinds come in the order of the grammar. The section
moves forward only; a header that is out of order leaves it where it is, so that the verdicts on the others
stay the same without it. -/
theorem headers_are_accepted_in_grammatical_order (t : IncludeTable) (d : Option Directive.Condition)
    (uses : List Use) :
    ((∀ v ∈ (t.reset d).verdicts uses, v.message? = none) ↔ HeaderKind.InOrder (uses.filterMap Use.kind?)) ∧
      (∀ earlier later, ((t.reset d).after earlier).section.rank ≤
        ((t.reset d).after (earlier ++ later)).section.rank) ∧
      (∀ earlier kind, (((t.reset d).after earlier).proceed kind).2 ≠ none →
        ((t.reset d).after (earlier ++ [.header kind])).section = ((t.reset d).after earlier).section) ∧
      ∀ kept others, Thinned kept ((t.reset d).verdicts uses) → others.filterMap Use.kind? = kept.map (·.kind) →
        (t.reset d).verdicts others = kept := by
  refine ⟨?_, fun earlier later => ?_, fun earlier kind h => ?_, fun kept others hkept hothers => ?_⟩
  · rw [verdicts_eq_judge, reset_section, HeaderSection.judge_accepts_iff, HeaderSection.runs_toCome_initial]
  · rw [after, after, List.foldl_append]
    exact rank_le_after _ later
  · rw [after, after, List.foldl_append]
    exact proceed_section_of_message h
  · rw [verdicts_eq_judge] at hkept ⊢
    rw [hothers]
    exact HeaderSection.judge_thinned hkept

example :
    (({} : IncludeTable).reset none).verdicts [.header .cppSystem, .header .cSystem, .header .own, .header .cppSystem] =
      [⟨.cppSystem, none⟩, ⟨.cSystem, some "Found C system header after C++ system header"⟩, ⟨.own, none⟩,
        ⟨.cppSystem, some "Found C++ system header after other header"⟩] := by
  rfl

end IncludeTable

end StyleCheck
