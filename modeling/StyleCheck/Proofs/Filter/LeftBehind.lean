/-
  StyleCheck.Proofs.Filter.LeftBehind — what a failed call leaves among the filters.

  Filters are put in force before they are looked at. So a call that fails has put its filters in force all the same,
  those without a sign among them, and nothing takes them out again: they are saved and brought back like all others.

  1. A call fails just if a filter without a sign is in force after it (`unsigned?_of_failed`, `Accounted.put`).
  2. So a list with such a filter, in force or saved, is one that a failed call has left (`accounted`).
  3. While such a list is in force, no category can be judged that gets as far as the filters:
     `judging_fails_iff_failed_call_left_its_filters`. A later call may put another list in its place.
-/

import Mathlib.Data.List.Induction
import StyleCheck.Proofs.Configuration.Override

namespace StyleCheck

namespace Filter

def HasSign (f : Filter) : Prop := f.text.head? = some '+' ∨ f.text.head? = some '-'

/-- The filter is what its text is read as. -/
def Faithful (f : Filter) : Prop := ofText f.text = f

theorem text_ofText (s : Text) : (ofText s).text = s := by
  fun_cases ofText s <;> rfl

theorem faithful_read {s : Text} : ∀ f ∈ read s, Faithful f := by
  intro f hf
  obtain ⟨text, -, rfl⟩ := List.mem_map.mp hf
  rw [Faithful, text_ofText]

theorem faithful_defaults : ∀ f ∈ defaults, Faithful f := by
  intro f hf
  rw [List.mem_singleton.mp hf]
  rfl

theorem Faithful.hasSign_iff {f : Filter} (h : Faithful f) : HasSign f ↔ ∀ text, f ≠ unsigned text := by
  cases f with
  | hide stem => exact iff_of_true (.inr rfl) fun _ hne => by cases hne
  | allow stem => exact iff_of_true (.inl rfl) fun _ hne => by cases hne
  | unsigned text =>
    refine iff_of_false (fun hsign => ?_) fun hne => hne text rfl
    have hread : ofText text = unsigned text := h
    rcases hsign with hplus | hminus
    · obtain ⟨stem, hstem⟩ := List.head?_eq_some_iff.mp (show text.head? = some '+' from hplus)
      rw [hstem] at hread
      cases hread
    · obtain ⟨stem, hstem⟩ := List.head?_eq_some_iff.mp (show text.head? = some '-' from hminus)
      rw [hstem] at hread
      cases hread

theorem unsigned?_eq_none_iff {fs : List Filter} (h : ∀ f ∈ fs, Faithful f) :
    unsigned? fs = none ↔ ∀ f ∈ fs, HasSign f := by
  fun_induction unsigned? fs with
  | case1 => simp
  | case2 text rest =>
    obtain ⟨hfirst, -⟩ := List.forall_mem_cons.mp h
    refine iff_of_false (fun hnone => by cases hnone) fun hall => ?_
    exact hfirst.hasSign_iff.mp (hall _ List.mem_cons_self) text rfl
  | case3 f rest hsigned ih =>
    obtain ⟨hfirst, hrest⟩ := List.forall_mem_cons.mp h
    rw [ih hrest, List.forall_mem_cons]
    exact (and_iff_right (hfirst.hasSign_iff.mpr hsigned)).symm

end Filter

/-! ## Calls -/

inductive FilterCall where
  | set (text : Text)
  | add (text : Text)
  | save
  | restore
  deriving DecidableEq, Repr

namespace FilterCall

def make (s : Settings) : FilterCall → Settings × Option Failure
  | set text => s.setFilters text
  | add text => s.addFilters text
  | save => (s.saveFilters, none)
  | restore => (s.restoreFilters, none)

/-- The settings after calls made one after another, those after a failed one too. -/
def makeAll (s : Settings) (calls : List FilterCall) : Settings := calls.foldl (fun s call => (make s call).1) s

/-- The filters are those that were in force when one of the calls had failed. -/
def LeftByFailure (s : Settings) (calls : List FilterCall) (filters : List Filter) : Prop :=
  ∃ earlier call later, calls = earlier ++ call :: later ∧ (make (makeAll s earlier) call).2 ≠ none ∧
    filters = (make (makeAll s earlier) call).1.filters

variable {s : Settings} {calls : List FilterCall} {filters : List Filter}

theorem makeAll_concat (s : Settings) (calls : List FilterCall) (call : FilterCall) :
    makeAll s (calls ++ [call]) = (make (makeAll s calls) call).1 := by
  rw [makeAll, List.foldl_append]
  rfl

theorem unsigned?_of_failed {call : FilterCall} (h : (make s call).2 ≠ none) :
    Filter.unsigned? (make s call).1.filters ≠ none := by
  intro hnone
  cases call with
  | set text => exact h (congrArg (Option.map Failure.unsignedFilter) hnone)
  | add text => exact h (congrArg (Option.map Failure.unsignedFilter) hnone)
  | save => exact h rfl
  | restore => exact h rfl

theorem LeftByFailure.unsigned? (h : LeftByFailure s calls filters) : Filter.unsigned? filters ≠ none := by
  obtain ⟨earlier, call, later, -, hfailed, rfl⟩ := h
  exact unsigned?_of_failed hfailed

theorem LeftByFailure.concat (h : LeftByFailure s calls filters) (call : FilterCall) :
    LeftByFailure s (calls ++ [call]) filters := by
  obtain ⟨earlier, failed, later, rfl, hleft⟩ := h
  exact ⟨earlier, failed, later ++ [call], by simp, hleft⟩

/-- If the list holds a filter without a sign, a failed call has left it. -/
structure Accounted (s : Settings) (calls : List FilterCall) (filters : List Filter) : Prop where
  faithful : ∀ f ∈ filters, f.Faithful
  left : Filter.unsigned? filters ≠ none → LeftByFailure s calls filters

namespace Accounted

theorem concat (h : Accounted s calls filters) (call : FilterCall) : Accounted s (calls ++ [call]) filters where
  faithful := h.faithful
  left hunsigned := (h.left hunsigned).concat call

theorem defaults : Accounted s calls Filter.defaults where
  faithful := Filter.faithful_defaults
  left hunsigned := absurd rfl hunsigned

/-- A call that puts filters in force behind `base` fails if one of all these has no sign. -/
theorem put {call : FilterCall} {base : List Filter} {text : Text} (hbase : ∀ f ∈ base, f.Faithful)
    (hfilters : (make (makeAll s calls) call).1.filters = base ++ Filter.read text)
    (hfailure : (make (makeAll s calls) call).2
      = (Filter.unsigned? (base ++ Filter.read text)).map Failure.unsignedFilter) :
    Accounted s (calls ++ [call]) (base ++ Filter.read text) where
  faithful := List.forall_mem_append.mpr ⟨hbase, Filter.faithful_read⟩
  left hunsigned := by
    refine ⟨calls, call, [], rfl, ?_, hfilters.symm⟩
    rw [hfailure]
    exact mt Option.map_eq_none_iff.mp hunsigned

end Accounted

/-- Both lists are accounted for after any calls, if they were the default ones before. -/
theorem accounted (hfilters : s.filters = Filter.defaults) (hsaved : s.savedFilters = Filter.defaults)
    (calls : List FilterCall) :
    Accounted s calls (makeAll s calls).filters ∧ Accounted s calls (makeAll s calls).savedFilters := by
  induction calls using List.reverseRecOn with
  | nil =>
    show Accounted s [] s.filters ∧ Accounted s [] s.savedFilters
    rw [hfilters, hsaved]
    exact ⟨.defaults, .defaults⟩
  | append_singleton calls call ih =>
    obtain ⟨hforce, hsave⟩ := ih
    rw [makeAll_concat]
    cases call with
    | set text => exact ⟨.put Filter.faithful_defaults rfl rfl, hsave.concat _⟩
    | add text => exact ⟨.put hforce.faithful rfl rfl, hsave.concat _⟩
    | save => exact ⟨hforce.concat _, hforce.concat _⟩
    | restore => exact ⟨hsave.concat _, hsave.concat _⟩

/-! ## Judging -/

theorem hasSign_iff (h : Accounted s calls filters) :
    (∀ f ∈ filters, f.HasSign) ↔ ¬ LeftByFailure s calls filters := by
  rw [← Filter.unsigned?_eq_none_iff h.faithful]
  constructor
  · intro hnone hleft
    exact hleft.unsigned? hnone
  · intro hleft
    by_contra hunsigned
    exact hleft (h.left hunsigned)

/-- Whether a finding is shown cannot be told just if it gets as far as the filters and one of them has no sign. -/
theorem shows_eq_error_iff (s : Settings) (suppressions : Suppressions) (category : Text) (confidence line : Int)
    (e : Failure) :
    s.shows suppressions category confidence line = .error e ↔
      e = .filterWithoutSign ∧ Filter.unsigned? s.filters ≠ none ∧ suppressions.hides category line = false ∧
        s.verbosity ≤ confidence := by
  unfold Settings.shows
  cases hhides : suppressions.hides category line with
  | true => simp
  | false =>
    rw [if_neg Bool.false_ne_true]
    by_cases hlow : confidence < s.verbosity
    · simp [hlow]
    · rw [if_neg hlow]
      cases hunsigned : Filter.unsigned? s.filters with
      | none => simp [Filter.hides_eq hunsigned, Except.map]
      | some text =>
        rw [Filter.hides_of_unsigned hunsigned]
        simp only [Except.map, Except.error.injEq, ne_eq, reduceCtorEq, not_false_eq_true, true_and]
        constructor
        · rintro rfl
          exact ⟨rfl, Int.not_lt.mp hlow⟩
        · exact fun h => h.1.symm

/-- After any calls from the default filters on, failed ones among them, all filters in force have a sign unless they
are the ones that a failed call has left, and so it is with the saved ones. Just then a finding that is not suppressed and
confident enough cannot be judged, and nothing else can go wrong when a finding is judged. -/
theorem judging_fails_iff_failed_call_left_its_filters (s : Settings) (calls : List FilterCall)
    (suppressions : Suppressions) (category : Text) (confidence line : Int) :
    let fresh := { s with filters := Filter.defaults, savedFilters := Filter.defaults }
    let after := makeAll fresh calls
    ((∀ f ∈ after.filters, f.HasSign) ↔ ¬ LeftByFailure fresh calls after.filters) ∧
    ((∀ f ∈ after.savedFilters, f.HasSign) ↔ ¬ LeftByFailure fresh calls after.savedFilters) ∧
    ∀ e, after.shows suppressions category confidence line = .error e ↔
      e = .filterWithoutSign ∧ LeftByFailure fresh calls after.filters ∧ suppressions.hides category line = false ∧
        after.verbosity ≤ confidence := by
  intro fresh after
  obtain ⟨hforce, hsaved⟩ := accounted (s := fresh) rfl rfl calls
  refine ⟨hasSign_iff hforce, hasSign_iff hsaved, fun e => ?_⟩
  have hleft : Filter.unsigned? after.filters ≠ none ↔ LeftByFailure fresh calls after.filters :=
    ⟨hforce.left, LeftByFailure.unsigned?⟩
  rw [shows_eq_error_iff, hleft]

/-- A failed call, a copy of what it left, a call that succeeds, and the copy brought back. -/
example :
    let after := makeAll {} [.add "-build,runtime".toList, .save, .set "+build".toList, .restore]
    after.filters = [.hide Category.buildIncludeAlpha.name, .hide "build".toList, .unsigned "runtime".toList] ∧
    after.shows {} "legal/copyright".toList 5 1 = .error .filterWithoutSign :=
  ⟨by decide, rfl⟩

end FilterCall

end StyleCheck
