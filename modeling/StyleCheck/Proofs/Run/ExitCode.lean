/-
  StyleCheck.Proofs.Run.ExitCode — the counts and the answer of a run tell what it has written.

  How a run counts and whether it is quiet is settled by its switches before the first file, and no file
  changes it (`prepare_ok`). At the end the total is the number of findings for which a message was written,
  the counts by name are those of their categories or families and add up to the total, and the code of
  the program tells whether there are any. A quiet run with nothing to show writes no results
  (`counts_and_exit_code_tell_what_was_written`).
-/

import StyleCheck.Proofs.Run.Transcript

namespace StyleCheck.CommandLine

/-! ## Switches -/

namespace Arguments

def value (a : Arguments) (switch : Switch) : Text :=
  a.switches.foldl (fun value given => if given.1 = switch then given.2 else value) []

def has (a : Arguments) (switch : Switch) : Bool := a.switches.any fun given => given.1 == switch

end Arguments

namespace Draft

theorem take_ok {d d' : Draft} {switch : Switch} {value : Text} (h : d.take switch value = .ok d') :
    d'.session.console = d.session.console ∧ d'.counting = (if switch = .counting then value else d.counting) ∧
    d'.quiet = (d.quiet || switch == .quiet) := by
  have hsame : ∀ {d'' : Draft}, Except.ok (ε := Result) d'' = .ok d' → d''.session.console = d.session.console →
      d''.counting = d.counting → d''.quiet = d.quiet → switch ≠ .counting → switch ≠ .quiet →
      d'.session.console = d.session.console ∧ d'.counting = (if switch = .counting then value else d.counting) ∧
      d'.quiet = (d.quiet || switch == .quiet) := by
    intro d'' hok hconsole hcounting hquiet hc hq
    cases hok
    simp [hconsole, hcounting, hquiet, hc, hq]
  unfold take at h
  cases switch with
  | help => cases h
  | quiet =>
    cases h
    simp
  | counting =>
    simp only at h
    split at h
    · cases h
      simp
    · cases h
  | root | extensions | headers => exact hsame h rfl rfl rfl (by decide) (by decide)
  | output | verbose | filter | lineLength =>
    simp only at h
    split at h
    all_goals first
      | exact hsame h rfl rfl rfl (by decide) (by decide)
      | cases h

theorem takeAll_ok {switches : List (Switch × Text)} {d d' : Draft}
    (h : switches.foldlM (fun (d : Draft) (switch, value) => d.take switch value) d = .ok d') :
    d'.session.console = d.session.console ∧
    d'.counting = switches.foldl (fun value given => if given.1 = .counting then given.2 else value) d.counting ∧
    d'.quiet = (d.quiet || switches.any fun given => given.1 == .quiet) := by
  induction switches generalizing d with
  | nil =>
    cases h
    simp
  | cons given rest ih =>
    rw [List.foldlM_cons] at h
    cases htake : d.take given.1 given.2 with
    | error result =>
      simp only [htake] at h
      cases h
    | ok next =>
      simp only [htake] at h
      obtain ⟨hconsole, hcounting, hquiet⟩ := take_ok htake
      obtain ⟨ihconsole, ihcounting, ihquiet⟩ := ih h
      rw [List.foldl_cons, List.any_cons, ← hcounting, ← Bool.or_assoc, ← hquiet]
      exact ⟨ihconsole.trans hconsole, ihcounting, ihquiet⟩

theorem settle_ok {d : Draft} {s : Session} (h : d.settle = .ok s) :
    s.console = d.session.console ∧ s.settings.counting = .ofName d.counting ∧ s.settings.quiet = d.quiet := by
  unfold settle at h
  simp only at h
  split at h
  · cases h
  · rename_i settings hset
    cases h
    have hsettings := congrArg Prod.fst hset
    refine ⟨rfl, rfl, ?_⟩
    rw [← show _ = settings from hsettings]
    rfl

end Draft

/-- The counting and the silence that a run begins with are those of its switches. -/
theorem prepare_ok {s start : Session} {args : List Text} {a : Arguments} {files : List Text}
    (hargs : Arguments.read? args = some a) (h : prepare s args = .ok (start, files)) :
    start.console = s.console ∧ start.settings.counting = .ofName (a.value .counting) ∧
    start.settings.quiet = (s.settings.quiet || a.has .quiet) := by
  unfold prepare at h
  rw [hargs] at h
  simp only at h
  split at h
  · cases h
  · rename_i draft htaken
    obtain ⟨hconsole, hcounting, hquiet⟩ := Draft.takeAll_ok htaken
    split at h
    · cases h
    · cases hsettle : draft.settle with
      | error result =>
        rw [hsettle] at h
        cases h
      | ok settled =>
        rw [hsettle] at h
        cases h
        obtain ⟨hconsole', hcounting', hquiet'⟩ := Draft.settle_ok hsettle
        refine ⟨hconsole'.trans hconsole, ?_, hquiet'.trans hquiet⟩
        rw [hcounting', hcounting]
        rfl

/-! ## Runs of the program -/

/-- The session at the end of a run: the counts are told, unless it is quiet and there is nothing to tell. -/
def reported (s : Session) : Session :=
  if !s.settings.quiet || 0 < s.tally.total then s.printTally else s

theorem reported_tally (s : Session) : (reported s).tally = s.tally := by
  unfold reported
  split
  · rw [Session.printTally_eq]
    rfl
  · rfl

section

variable {s : Session} {counting : Counting} {shown : List Finding}

theorem told_iff (h : s.tally.Counts counting shown) :
    (!s.settings.quiet || 0 < s.tally.total) = true ↔ ¬ (s.settings.quiet = true ∧ shown = []) := by
  rw [h.total]
  cases s.settings.quiet with
  | true => simp [List.length_pos_iff]
  | false => simp

theorem reported_err (h : s.tally.Counts counting shown) :
    (reported s).console.err = s.console.err ++ Session.categoryLines s.tally.byName := by
  unfold reported
  by_cases hnothing : s.settings.quiet = true ∧ shown = []
  · rw [if_neg fun htold => (told_iff h).mp htold hnothing]
    rw [hnothing.2] at h
    rw [h.byName_eq_nil, Session.categoryLines, String.append_empty]
  · rw [if_pos ((told_iff h).mpr hnothing), Session.printTally_eq]
    rfl

theorem reported_out (h : s.tally.Counts counting shown) :
    (reported s).console.out =
      if s.settings.quiet = true ∧ shown = [] then s.console.out else s.console.out ++ s.tally.totalLine := by
  unfold reported
  by_cases hnothing : s.settings.quiet = true ∧ shown = []
  · rw [if_neg fun htold => (told_iff h).mp htold hnothing, if_pos hnothing]
  · rw [if_pos ((told_iff h).mpr hnothing), if_neg hnothing, Session.printTally_eq]
    rfl

end

theorem run_eq {tree : FileTree} {s start : Session} {args files : List Text}
    (hstart : prepare s args = .ok (start, files)) (hok : (Session.checkFiles tree (begun start) files).2 = none) :
    run tree s args =
      let s' := (Session.checkFiles tree (begun start) files).1
      ⟨reported s', .exit (if 0 < s'.tally.total then 1 else 0)⟩ := by
  unfold run begun at *
  rw [hstart]
  simp only
  generalize Session.checkFiles tree { start with tally := {} } files = checked at hok ⊢
  obtain ⟨s', failure⟩ := checked
  obtain rfl : failure = none := hok
  simp [reported]

def shownBy (tree : FileTree) (start : Session) (files : List Text) : List Finding :=
  shownIn (Session.transcript tree (begun start) files)

/-- A run that checks all its files. Its messages are those of its files, each finding shown with its line,
and the lines with the counts by name. The total is the number of findings shown, and the code with
which the program ends tells whether there are any. The counts by name are those of the categories or
of their families, as the switch for counting says, and add up to the total. The total is told last among
the results; but if the switch to be quiet is given and no finding is shown, there are no results. -/
theorem counts_and_exit_code_tell_what_was_written (tree : FileTree) (s start : Session) {args : List Text}
    {a : Arguments} (hargs : Arguments.read? args = some a) (hstart : prepare s args = .ok (start, a.files))
    (hends : ∃ code, (run tree s args).ending = .exit code) :
    (run tree s args).session.console.err =
      s.console.err ++ messages start.settings.layout (Session.transcript tree (begun start) a.files)
        ++ Session.categoryLines (run tree s args).session.tally.byName ∧
    (run tree s args).session.tally.total = (shownBy tree start a.files).length ∧
    (run tree s args).ending = .exit (if shownBy tree start a.files = [] then 0 else 1) ∧
    (a.value .counting = "detailed".toList →
      CountsBy (fun f => f.category.name) (shownBy tree start a.files) (run tree s args).session.tally.byName) ∧
    (a.value .counting = "toplevel".toList →
      CountsBy (fun f => Tally.family f.category.name) (shownBy tree start a.files)
        (run tree s args).session.tally.byName) ∧
    (a.has .quiet = true → shownBy tree start a.files = [] →
      (run tree s args).session.console.out = s.console.out) ∧
    (start.settings.quiet = false ∨ shownBy tree start a.files ≠ [] →
      ∃ done, (run tree s args).session.console.out = s.console.out ++ done
        ++ ("Total errors found: " ++ toString (shownBy tree start a.files).length ++ "\n")) := by
  obtain ⟨hconsole, hcounting, hquiet⟩ := prepare_ok hargs hstart
  have hok := (run_exits_iff hstart).mp hends
  have hbegun : (begun start).tally.Counts start.settings.counting [] := Tally.counts_nothing _
  have hrecorded := Session.checkFiles_recorded hok
  obtain ⟨done, hout, hsilent⟩ := Session.checkFiles_out hok hbegun
  have hcounts : Tally.Counts start.settings.counting (shownBy tree start a.files) _ := hrecorded.tally [] hbegun
  have hstill : (Session.checkFiles tree (begun start) a.files).1.settings.quiet = start.settings.quiet :=
    hrecorded.quiet
  rw [run_eq hstart hok]
  simp only [reported_tally, reported_err hcounts, reported_out hcounts, hstill, hout, hrecorded.err]
  have hconsole' : (begun start).console = s.console := hconsole
  rw [hconsole']
  refine ⟨rfl, hcounts.total, ?_, ?_, ?_, ?_, ?_⟩
  · rw [hcounts.total]
    by_cases hnil : shownBy tree start a.files = []
    · rw [if_pos hnil, if_neg fun hpos => List.length_pos_iff.mp hpos hnil]
    · rw [if_neg hnil, if_pos (List.length_pos_iff.mpr hnil)]
  · intro hvalue
    rw [hvalue] at hcounting
    exact hcounts.byName _ (by rw [hcounting]; rfl)
  · intro hvalue
    rw [hvalue] at hcounting
    exact hcounts.byName _ (by rw [hcounting]; rfl)
  · intro hasked hnil
    have hq : start.settings.quiet = true := by rw [hquiet, hasked, Bool.or_true]
    rw [if_pos ⟨hq, hnil⟩, hsilent hq hnil, String.append_empty]
  · intro htold
    have hnot : ¬ (start.settings.quiet = true ∧ shownBy tree start a.files = []) := by
      intro hnothing
      rcases htold with hloud | hsome
      · rw [hnothing.1] at hloud
        cases hloud
      · exact hsome hnothing.2
    exact ⟨done, by rw [if_neg hnot, hcounts.totalLine_eq]⟩

def countingRun : List Text := ["--counting=toplevel".toList, "a/x.cc".toList, "b/y.cc".toList]

def quietRun : List Text := ["--quiet".toList, "a/x.cc".toList]

/-- The first one shows findings and counts them by family, the second one writes no results. -/
theorem counts_and_exit_code_tell_what_was_written_copyright :
    (∃ start a, Arguments.read? countingRun = some a ∧ prepare {} countingRun = .ok (start, a.files) ∧
      (run filteredTree {} countingRun).ending = .exit 1 ∧ shownBy filteredTree start a.files ≠ [] ∧
      CountsBy (fun f => Tally.family f.category.name) (shownBy filteredTree start a.files)
        (run filteredTree {} countingRun).session.tally.byName) ∧
    (∃ start a, Arguments.read? quietRun = some a ∧ prepare {} quietRun = .ok (start, a.files) ∧
      (run filteredTree {} quietRun).ending = .exit 0 ∧ shownBy filteredTree start a.files = [] ∧
      (run filteredTree {} quietRun).session.console.out = "") := by
  refine ⟨?_, ?_⟩
  · have hargs : Arguments.read? countingRun =
        some ⟨[(.counting, "toplevel".toList)], ["a/x.cc".toList, "b/y.cc".toList]⟩ := by decide +kernel
    have hends : (run filteredTree {} countingRun).ending = .exit 1 := by decide +kernel
    obtain ⟨start, hstart⟩ : ∃ start, prepare {} countingRun = .ok (start, ["a/x.cc".toList, "b/y.cc".toList]) := by
      unfold prepare
      rw [hargs]
      exact ⟨_, rfl⟩
    obtain ⟨-, -, hcode, -, hcounts, -⟩ :=
      counts_and_exit_code_tell_what_was_written filteredTree {} start hargs hstart ⟨1, hends⟩
    refine ⟨start, _, hargs, hstart, hends, ?_, hcounts (by decide)⟩
    intro hnil
    rw [hends, if_pos hnil] at hcode
    cases hcode
  · have hargs : Arguments.read? quietRun = some ⟨[(.quiet, [])], ["a/x.cc".toList]⟩ := by decide +kernel
    have hends : (run filteredTree {} quietRun).ending = .exit 0 := by decide +kernel
    obtain ⟨start, hstart⟩ : ∃ start, prepare {} quietRun = .ok (start, ["a/x.cc".toList]) := by
      unfold prepare
      rw [hargs]
      exact ⟨_, rfl⟩
    obtain ⟨-, -, hcode, -, -, hquiet, -⟩ :=
      counts_and_exit_code_tell_what_was_written filteredTree {} start hargs hstart ⟨0, hends⟩
    have hnil : shownBy filteredTree start ["a/x.cc".toList] = [] := by
      refine Classical.not_not.mp fun hsome => ?_
      rw [hends, if_neg hsome] at hcode
      cases hcode
    exact ⟨start, _, hargs, hstart, hends, hnil, hquiet (by decide) hnil⟩

end StyleCheck.CommandLine
