/-
  StyleCheck.Proofs.Run.Independence — files checked in one run do not influence each other.

  If no configuration sets a lasting option, a file leaves the settings as they were
  (`checkFiles_settings`), so each file of a run takes the same course as if it were the only one:
  the findings written and counted for it do not depend on the files before it, nor on their
  suppression comments and filters, nor on the order (`files_do_not_influence_each_other`).
-/

import StyleCheck.CommandLine.Run
import StyleCheck.Proofs.Run.Course

namespace StyleCheck

namespace Session

variable (tree : FileTree)

/-! ## Files one after another -/

theorem checkFiles_cons_ok {s : Session} {file : Text} (h : (s.checkFile tree file).2 = none) (rest : List Text) :
    checkFiles tree s (file :: rest) = checkFiles tree (s.checkFile tree file).1 rest := by
  simp only [checkFiles]
  split
  · rename_i heq
    rw [heq] at h
    cases h
  · rename_i heq
    rw [heq]

theorem checkFiles_cons_failed {s : Session} {file : Text} (h : (s.checkFile tree file).2 ≠ none) (rest : List Text) :
    checkFiles tree s (file :: rest) = s.checkFile tree file := by
  simp only [checkFiles]
  split
  · rename_i heq
    exact heq.symm
  · rename_i heq
    rw [heq] at h
    exact absurd rfl h

theorem checkFiles_singleton (s : Session) (file : Text) : checkFiles tree s [file] = s.checkFile tree file := by
  by_cases h : (s.checkFile tree file).2 = none
  · rw [checkFiles_cons_ok tree h]
    exact Prod.ext rfl h.symm
  · exact checkFiles_cons_failed tree h []

theorem checkFiles_append (s : Session) (files more : List Text) :
    checkFiles tree s (files ++ more) =
      if (checkFiles tree s files).2.isSome then checkFiles tree s files
      else checkFiles tree (checkFiles tree s files).1 more := by
  induction files generalizing s with
  | nil => rfl
  | cons file rest ih =>
    rw [List.cons_append]
    by_cases h : (s.checkFile tree file).2 = none
    · rw [checkFiles_cons_ok tree h, checkFiles_cons_ok tree h]
      exact ih _
    · rw [checkFiles_cons_failed tree h, checkFiles_cons_failed tree h, if_pos (Option.isSome_iff_ne_none.mpr h)]

variable {tree}

/-- If the files of a run are checked without a failure, so are the first ones, and then the others. -/
theorem checkFiles_append_ok {s : Session} (files : List Text) {more : List Text}
    (h : (checkFiles tree s (files ++ more)).2 = none) :
    (checkFiles tree s files).2 = none ∧ (checkFiles tree (checkFiles tree s files).1 more).2 = none := by
  rw [checkFiles_append] at h
  split at h
  · rename_i hfailed
    rw [h] at hfailed
    cases hfailed
  · rename_i hok
    exact ⟨by simpa using hok, h⟩

/-- No configuration consulted for the file sets a lasting option. -/
def NothingLasts (tree : FileTree) (file : Text) : Prop :=
  ∀ option ∈ Configuration.consulted tree file, option.2.lasts = false

theorem checkFiles_settings {s : Session} {files : List Text} (hoptions : ∀ file ∈ files, NothingLasts tree file)
    (h : (checkFiles tree s files).2 = none) :
    (checkFiles tree s files).1.settings.saveFilters = s.settings.saveFilters := by
  induction files generalizing s with
  | nil => rfl
  | cons file rest ih =>
    obtain ⟨hfile, hrest⟩ := List.forall_mem_cons.mp hoptions
    obtain ⟨hhere, hlater⟩ := checkFiles_append_ok [file] h
    rw [checkFiles_singleton] at hhere hlater
    rw [checkFiles_cons_ok tree hhere, ih hrest hlater, checkFile_keeps hhere hfile]
    rfl

/-- The course of a file does not depend on filters put aside earlier. -/
theorem courseOf_congr {σ τ : Settings} (h : σ.saveFilters = τ.saveFilters) (file : Text) :
    courseOf tree σ file = courseOf tree τ file := by
  rw [courseOf, courseOf, courseFrom, courseFrom, h]

/-- In a run each file takes the course it takes from the beginning. -/
theorem checkFiles_follow {s : Session} {before after : List Text} {file : Text} (hname : file ≠ ['-'])
    (hoptions : ∀ earlier ∈ before, NothingLasts tree earlier)
    (h : (checkFiles tree s (before ++ file :: after)).2 = none) :
    Wrote file (courseOf tree s.settings file).entries
      (checkFiles tree s before).1 (checkFiles tree s (before ++ [file])).1 ∧
    (courseOf tree s.settings file).failure = none := by
  obtain ⟨hbefore, hrest⟩ := checkFiles_append_ok before h
  obtain ⟨hhere, -⟩ := checkFiles_append_ok [file] hrest
  rw [checkFiles_singleton] at hhere
  have hcourse := checkFile_course (checkFiles tree s before).1 tree hname
  rw [courseOf_congr (checkFiles_settings hoptions hbefore)] at hcourse
  rw [checkFiles_append, hbefore, checkFiles_singleton]
  exact ⟨hcourse.wrote, hcourse.failure.symm.trans hhere⟩

end Session

namespace CommandLine

/-! ## Runs of the program -/

/-- The session in which a run begins depends on the switches only. -/
theorem prepare_alone {s start : Session} {args alone : List Text} {a : Arguments} {files : List Text} {file : Text}
    (hargs : Arguments.read? args = some a) (halone : Arguments.read? alone = some { a with files := [file] })
    (h : prepare s args = .ok (start, files)) : prepare s alone = .ok (start, [file]) := by
  unfold prepare at h ⊢
  rw [hargs] at h
  rw [halone]
  simp only at h ⊢
  split at h
  · cases h
  · rename_i draft _
    split at h
    · cases h
    · cases hsettle : draft.settle with
      | error result =>
        rw [hsettle] at h
        cases h
      | ok settled =>
        rw [hsettle] at h
        cases h
        simp [Except.map]

def begun (start : Session) : Session := { start with tally := {} }

theorem run_exits_iff {tree : FileTree} {s start : Session} {args : List Text} {files : List Text}
    (h : prepare s args = .ok (start, files)) :
    (∃ code, (run tree s args).ending = .exit code) ↔ (Session.checkFiles tree (begun start) files).2 = none := by
  unfold run begun
  rw [h]
  simp only
  rcases Session.checkFiles tree { start with tally := {} } files with ⟨s', failure⟩
  cases failure with
  | some e => simp
  | none => simp

/-- A run over several files ends without a failure, no file is the text given to the program, and no
configuration sets a lasting option. Then what is written and counted for a file is what is written
and counted when the program is run with the same switches on this file alone, and this run ends
without a failure too. -/
theorem files_do_not_influence_each_other (tree : FileTree) (s start : Session) {args alone : List Text}
    {a : Arguments} {before after : List Text} {file : Text}
    (hargs : Arguments.read? args = some a) (hstart : prepare s args = .ok (start, a.files))
    (hends : ∃ code, (run tree s args).ending = .exit code)
    (hnames : ['-'] ∉ a.files) (hoptions : ∀ other ∈ a.files, Session.NothingLasts tree other)
    (hfile : a.files = before ++ file :: after)
    (halone : Arguments.read? alone = some { a with files := [file] }) :
    Session.Wrote file (Session.courseOf tree start.settings file).entries
      (Session.checkFiles tree (begun start) before).1 (Session.checkFiles tree (begun start) (before ++ [file])).1 ∧
    prepare s alone = .ok (start, [file]) ∧
    (∃ code, (run tree s alone).ending = .exit code) ∧
    Session.Wrote file (Session.courseOf tree start.settings file).entries
      (begun start) (Session.checkFiles tree (begun start) [file]).1 := by
  have hprepared := prepare_alone hargs halone hstart
  have hname : file ≠ ['-'] := by
    rintro rfl
    exact hnames (hfile ▸ by simp)
  rw [run_exits_iff hstart, hfile] at hends
  obtain ⟨hhere, hok⟩ := Session.checkFiles_follow hname
    (fun earlier he => hoptions earlier (hfile ▸ by simp [he])) hends
  have hfirst := Session.checkFile_course (begun start) tree hname
  refine ⟨hhere, hprepared, (run_exits_iff hprepared).mpr ?_, ?_⟩
  · rw [Session.checkFiles_singleton]
    exact hfirst.failure.trans hok
  · rw [Session.checkFiles_singleton]
    exact hfirst.wrote

def filteredTree : FileTree where
  here := "/p".toList
  files :=
    [("/p/a/CPPLINT.cfg".toList, some ("filter=-legal".toList.map fun c => c.toNat.toUInt8)),
     ("/p/b/y.cc".toList, some [])]

def twoFiles : List Text := ["a/x.cc".toList, "b/y.cc".toList]

/-- The second file lacks a copyright notice, which is written although a filter of the first file
would hide it. -/
theorem files_do_not_influence_each_other_filtered :
    ∃ start, prepare {} twoFiles = .ok (start, twoFiles) ∧
      (run filteredTree {} twoFiles).ending = .exit 1 ∧
      Session.Wrote "b/y.cc".toList (Session.courseOf filteredTree start.settings "b/y.cc".toList).entries
        (Session.checkFiles filteredTree (begun start) ["a/x.cc".toList]).1
        (Session.checkFiles filteredTree (begun start) twoFiles).1 ∧
      Session.Wrote "b/y.cc".toList (Session.courseOf filteredTree start.settings "b/y.cc".toList).entries
        (begun start) (Session.checkFiles filteredTree (begun start) ["b/y.cc".toList]).1 := by
  have hargs : Arguments.read? twoFiles = some { files := twoFiles } := by decide +kernel
  have halone : Arguments.read? ["b/y.cc".toList] = some { files := ["b/y.cc".toList] } := by decide +kernel
  have hends : (run filteredTree {} twoFiles).ending = .exit 1 := by decide +kernel
  have hoptions : ∀ other ∈ twoFiles, Session.NothingLasts filteredTree other := by
    unfold Session.NothingLasts
    decide +kernel
  obtain ⟨start, hstart⟩ : ∃ start, prepare {} twoFiles = .ok (start, twoFiles) := by
    unfold prepare
    rw [hargs]
    exact ⟨_, rfl⟩
  obtain ⟨hhere, -, -, hfirst⟩ := files_do_not_influence_each_other filteredTree {} start hargs hstart
    ⟨1, hends⟩ (by decide) hoptions (show twoFiles = ["a/x.cc".toList] ++ "b/y.cc".toList :: [] from rfl) halone
  exact ⟨start, hstart, hends, hhere, hfirst⟩

end CommandLine

end StyleCheck
