/-
  StyleCheck.Proofs.Run.LineEndings — returns before line feeds do not change the findings.

  A text is made of lines that end in a line feed, with a return before it or without, and of what
  follows the last line feed (`LinedText`). Of two files with the same lines, one may have returns where the
  other has none.

  1. The lines of the file are read without the returns, and the returns are noted (`ofText_text`).
  2. If the file is itself read as a configuration, its options are the same (`entriesOf_text`).
  3. So both files are checked in the same surroundings with the same lines. The notes on returns are added
     after everything else has been said, and only if there are line feeds of both kinds (`courseOfJudged_returns`).
-/

import StyleCheck.Proofs.Check.Surroundings
import StyleCheck.Proofs.Check.Told
import StyleCheck.Proofs.Run.Course

namespace StyleCheck

structure EndedLine where
  text : Text
  /-- A return stands before the line feed. -/
  returned : Bool
  clean : '\r' ∉ text ∧ '\n' ∉ text

def EndedLine.stored (l : EndedLine) : Text := l.text ++ if l.returned then ['\r'] else []

structure LinedText where
  ended : List EndedLine
  /-- What follows the last line feed. -/
  last : Text
  clean : '\r' ∉ last ∧ '\n' ∉ last

namespace LinedText

def text (m : LinedText) : Text := m.ended.flatMap (fun l => l.stored ++ ['\n']) ++ m.last

def lines (m : LinedText) : List Text := m.ended.map (·.text) ++ [m.last]

def plain (m : LinedText) : LinedText := { m with ended := m.ended.map fun l => { l with returned := false } }

def returned (m : LinedText) : List Nat := ((m.ended.zipIdx 1).filter fun l => l.1.returned).map (·.2)

def mixed (m : LinedText) : Bool := m.ended.any (·.returned) && m.ended.any (!·.returned)

theorem returned_increasing (m : LinedText) : m.returned.Pairwise (· < ·) := by
  have hnumbers : ((m.ended.zipIdx 1).map (·.2)).Pairwise (· < ·) := by
    rw [List.zipIdx_map_snd]
    exact List.pairwise_lt_range'
  exact hnumbers.sublist (List.filter_sublist.map _)

theorem returned_eq_nil {m : LinedText} (h : m.ended.any (·.returned) = false) : m.returned = [] := by
  have hnone : (m.ended.zipIdx 1).filter (fun l => l.1.returned) = [] := by
    rw [List.filter_eq_nil_iff]
    intro l hl
    simpa using List.any_eq_false.mp h l.1 (List.fst_mem_of_mem_zipIdx hl)
  rw [returned, hnone]
  rfl

theorem mixed_plain (m : LinedText) : m.plain.mixed = false := by
  simp [mixed, plain]

theorem lines_plain (m : LinedText) : m.plain.lines = m.lines := by
  simp [lines, plain, List.map_map, Function.comp_def]

/-! ## Reading the text -/

theorem stored_notMem (l : EndedLine) : '\n' ∉ l.stored := by
  unfold EndedLine.stored
  cases l.returned <;> simp [l.clean.2]

theorem feedLines_text (m : LinedText) : Text.feedLines m.text = m.ended.map (·.stored) ++ [m.last] := by
  obtain ⟨ended, last, hlast⟩ := m
  unfold Text.feedLines text
  rw [Text.pieces_singleton]
  induction ended with
  | nil => exact List.splitOn_eq_singleton hlast.2
  | cons l ended ih =>
    rw [List.flatMap_cons, List.append_assoc, List.append_assoc, List.singleton_append,
      List.splitOn_append_cons_self_of_not_mem (stored_notMem l), ih]
    rfl

theorem trimRight_stored (l : EndedLine) : Text.trimRight (· == '\r') l.stored = l.text := by
  have hkeeps : l.text.reverse.dropWhile (· == '\r') = l.text.reverse := by
    cases htext : l.text.reverse with
    | nil => rfl
    | cons c rest =>
      refine List.dropWhile_cons_of_neg fun hc => l.clean.1 ?_
      rw [← beq_iff_eq.mp hc, ← List.mem_reverse, htext]
      exact List.mem_cons_self
  unfold Text.trimRight EndedLine.stored
  cases l.returned <;> simp [hkeeps]

theorem endsInReturn_stored (l : EndedLine) : FileText.endsInReturn l.stored = l.returned := by
  unfold FileText.endsInReturn EndedLine.stored
  cases l.returned with
  | true => simp
  | false =>
    rw [if_neg Bool.false_ne_true, List.append_nil, beq_eq_false_iff_ne]
    exact fun hlast => l.clean.1 (List.mem_of_getLast? hlast)

theorem ofText_text (m : LinedText) :
    FileText.ofText m.text = { lines := m.lines, returned := m.returned, hasPlain := m.ended.any (!·.returned) } := by
  unfold FileText.ofText
  simp only [feedLines_text, List.dropLast_concat, List.getLast?_concat, Option.toList_some]
  congr 1
  · simp [lines, trimRight_stored, Function.comp_def]
  · simp [returned, List.zipIdx_map, List.filter_map, endsInReturn_stored, Function.comp_def]
  · simp [endsInReturn_stored, Function.comp_def]

theorem endsPlainLine_of_clean {s : Text} (hs : '\r' ∉ s ∧ '\n' ∉ s) : ∀ c ∈ s, (c == '\n' || c == '\r') = false := by
  intro c hc
  rw [Bool.or_eq_false_iff, beq_eq_false_iff_ne, beq_eq_false_iff_ne]
  exact ⟨fun h => hs.2 (h ▸ hc), fun h => hs.1 (h ▸ hc)⟩

/-- A return before a line feed is an empty line to a configuration. -/
theorem plainLines_stored (l : EndedLine) (rest : Text) :
    Text.plainLines (l.stored ++ '\n' :: rest) =
      [l.text] ++ (if l.returned then [[]] else []) ++ Text.plainLines rest := by
  have hcut := List.splitOnP_append_cons_of_forall_mem (endsPlainLine_of_clean l.clean)
  unfold Text.plainLines EndedLine.stored
  cases l.returned with
  | true =>
    rw [if_pos rfl, List.append_assoc, List.singleton_append, hcut _ rfl, List.splitOnP_cons_eq_if_modifyHead]
    rfl
  | false =>
    rw [if_neg Bool.false_ne_true, List.append_nil, hcut _ rfl]
    rfl

theorem entriesOf_text (m : LinedText) :
    Configuration.entriesOf m.text = m.lines.filterMap Configuration.Entry.ofLine? := by
  obtain ⟨ended, last, hlast⟩ := m
  unfold Configuration.entriesOf text lines
  induction ended with
  | nil => exact congrArg _ (List.splitOnP_eq_singleton (endsPlainLine_of_clean hlast))
  | cons l ended ih =>
    have hempty : (if l.returned then [([] : Text)] else []).filterMap Configuration.Entry.ofLine? = [] := by
      cases l.returned <;> rfl
    rw [List.flatMap_cons, List.append_assoc, List.append_assoc, List.singleton_append, plainLines_stored,
      List.filterMap_append, List.filterMap_append, hempty, ih, List.append_nil, ← List.filterMap_append]
    rfl

/-! ## Judging the text -/

def returnFinding (n : Nat) : Finding :=
  ⟨n, .whitespaceNewline, 1, "Unexpected \\r (^M) found; better to use only \\n"⟩

theorem returnFindings_text (m : LinedText) :
    (FileText.ofText m.text).returnFindings = if m.mixed then m.returned.map returnFinding else [] := by
  rw [ofText_text]
  unfold FileText.returnFindings mixed
  simp only
  cases hplain : m.ended.any (!·.returned) with
  | false => simp
  | true =>
    cases hreturned : m.ended.any (·.returned) with
    | true => rfl
    | false => simp [returned_eq_nil hreturned]

end LinedText

namespace Session

open LinedText

/-- What is said of a text, the returns left out. -/
def saidOf (t : FileTree) (σ : Settings) (file : Text) (m : LinedText) : Outcome :=
  Check.file { tree := t, settings := σ, file, extension := lastExtension file } m.lines

def judged (σ : Settings) (said : Outcome) : List Entry × Option Failure :=
  ((Suppressions.judge σ {} said.events).entries, (Suppressions.judge σ {} said.events).failure.or said.failure)

theorem courseOfJudged_text (t : FileTree) (σ : Settings) (file : Text) (m : LinedText) :
    courseOfJudged t σ file m.text =
      judged σ (saidOf t σ file m ++ Outcome.ofFindings (if m.mixed then m.returned.map returnFinding else [])) := by
  unfold courseOfJudged saidOf judged
  simp only [returnFindings_text]
  rw [ofText_text]

theorem courseOfJudged_plain {t : FileTree} {σ : Settings} {file : Text} {m : LinedText}
    (h : (saidOf t σ file m).failure = none) :
    courseOfJudged t σ file m.plain.text =
      ((Suppressions.judge σ {} (saidOf t σ file m).events).entries,
        (Suppressions.judge σ {} (saidOf t σ file m).events).failure) := by
  have hsaid : saidOf t σ file m.plain = saidOf t σ file m := by rw [saidOf, lines_plain, saidOf]
  rw [courseOfJudged_text, mixed_plain, hsaid, judged, Outcome.append_events_of_none h, Outcome.append_failure, h]
  simp [Outcome.ofFindings]

/-- The notes on returns come after all that is said of the same lines without returns. -/
theorem courseOfJudged_returns {t : FileTree} {σ : Settings} {file : Text} {m : LinedText}
    (hok : (courseOfJudged t σ file m.text).2 = none) :
    (courseOfJudged t σ file m.plain.text).2 = none ∧
    ∃ shown : Nat → Bool, (courseOfJudged t σ file m.text).1 = (courseOfJudged t σ file m.plain.text).1 ++
      if m.mixed then m.returned.map fun n => .verdict (returnFinding n) (shown n) else [] := by
  rw [courseOfJudged_text t σ file m] at hok ⊢
  simp only [judged, Option.or_eq_none_iff, Outcome.append_failure] at hok ⊢
  obtain ⟨htrial, hsaid, -⟩ := hok
  rw [Outcome.append_events_of_none hsaid] at htrial ⊢
  obtain ⟨hlines, hreturns, hentries⟩ := Suppressions.judge_append htrial
  rw [courseOfJudged_plain hsaid, hentries]
  refine ⟨hlines, ?_⟩
  rw [Outcome.ofFindings] at hreturns ⊢
  rw [Suppressions.judge_reports hreturns]
  cases m.mixed with
  | false => exact ⟨fun _ => false, rfl⟩
  | true => exact ⟨_, congrArg _ (List.map_map ..)⟩

/-! ## Checking the file -/

/-- The file is checked: its configurations do not exclude it, and its extension is one of those they allow. -/
def Checks (s : Session) (t : FileTree) (file : Text) : Prop :=
  (Configuration.apply t { s with settings := s.settings.saveFilters } file).2 = .ok true ∧
  (file = ['-'] ∨ lastExtension file ∈
    (Configuration.apply t { s with settings := s.settings.saveFilters } file).1.settings.extensions)

def configured (s : Session) (t : FileTree) (file : Text) : Session × Except Failure Bool :=
  Configuration.apply t { settings := s.settings.saveFilters } file

def courseFor (s : Session) (t : FileTree) (file : Text) : Course := courseFrom t s.settings file (s.textOf? t file)

theorem courseOfRead_of_extension {σ : Settings} {file : Text} (h : file = ['-'] ∨ lastExtension file ∈ σ.extensions)
    (t : FileTree) (text : Text) : courseOfRead t σ file text = courseOfJudged t σ file text := by
  rw [courseOfRead, if_neg fun hforeign => h.elim hforeign.1 hforeign.2]

/-- Whether a file is checked depends on the settings alone. -/
theorem checks_iff {s : Session} {t : FileTree} {file : Text} :
    s.Checks t file ↔ (s.configured t file).2 = .ok true ∧
      (file = ['-'] ∨ lastExtension file ∈ (s.configured t file).1.settings.extensions) := by
  unfold Checks
  rw [Configuration.apply_eq_graft]
  exact Iff.rfl

/-- The course of a file that is checked is that of its text under the settings after the configurations. -/
theorem courseFor_of_checks {s : Session} {t : FileTree} {file text : Text} (hchecks : s.Checks t file)
    (htext : s.textOf? t file = some text) :
    (s.courseFor t file).entries =
      .remark (s.configured t file).1.console.err ::
        (courseOfJudged t (s.configured t file).1.settings file text).1 ∧
    (s.courseFor t file).failure = (courseOfJudged t (s.configured t file).1.settings file text).2 := by
  obtain ⟨hanswer, hextension⟩ := checks_iff.mp hchecks
  unfold configured at hanswer hextension ⊢
  unfold courseFor courseFrom
  simp only
  rw [htext, hanswer]
  simp only
  rw [courseOfRead_of_extension hextension]
  exact ⟨rfl, rfl⟩

theorem courseOfJudged_same {t t' : FileTree} {file : Text} (h : t.SameBut file t') (σ : Settings) (text : Text) :
    courseOfJudged t' σ file text = courseOfJudged t σ file text := by
  have hfile := Check.file_same (c := { tree := t, settings := σ, file, extension := lastExtension file }) h
    (FileText.ofText text).lines
  unfold courseOfJudged
  simp only at hfile ⊢
  rw [hfile]

/-- Two files that differ in returns before line feeds are configured alike. -/
theorem configured_lined {m : LinedText} {s s' : Session} {t t' : FileTree} {file : Text}
    (hsettings : s'.settings = s.settings) (h : t.SameBut file t') (hgiven : file = ['-'] → t' = t)
    (htext : s.textOf? t file = some m.text) (htext' : s'.textOf? t' file = some m.plain.text) :
    s'.configured t' file = s.configured t file := by
  unfold configured
  rw [hsettings]
  by_cases hfile : file = ['-']
  · rw [hgiven hfile]
  · refine Configuration.apply_same h ?_ _ file
    rw [textOf?, if_neg hfile] at htext htext'
    rw [htext, htext', Option.map_some, Option.map_some, entriesOf_text, entriesOf_text, lines_plain]

/-- A file whose lines end in line feeds, some of them with a return before it, is checked to the end. If the
returns are taken away and all else stays as it is, the check comes to its end too, and of the file with returns
the same is told in the same order. If lines of both kinds occur, one finding for each line with a return
follows, in the order of the lines. -/
theorem line_endings_do_not_change_the_findings (m : LinedText) (s s' : Session) (t t' : FileTree) (file : Text)
    (hsettings : s'.settings = s.settings) (hfiles : t.SameBut file t') (hgiven : file = ['-'] → t' = t)
    (htext : s.textOf? t file = some m.text) (htext' : s'.textOf? t' file = some m.plain.text)
    (hchecks : s.Checks t file) (hdone : (s.checkFile t file).2 = none) :
    (s'.checkFile t' file).2 = none ∧
    Wrote file (s.courseFor t file).entries s (s.checkFile t file).1 ∧
    Wrote file (s'.courseFor t' file).entries s' (s'.checkFile t' file).1 ∧
    m.returned.Pairwise (· < ·) ∧
    ∃ shown : Nat → Bool, (s.courseFor t file).entries = (s'.courseFor t' file).entries ++
      if m.mixed then m.returned.map fun n => .verdict (returnFinding n) (shown n) else [] := by
  have hfollows := checkFile_follows s t file
  have hfollows' := checkFile_follows s' t' file
  have hconfigured := configured_lined hsettings hfiles hgiven htext htext'
  have hchecks' : s'.Checks t' file := by
    rw [checks_iff, hconfigured]
    exact checks_iff.mp hchecks
  obtain ⟨hentries, hfailure⟩ := courseFor_of_checks hchecks htext
  obtain ⟨hentries', hfailure'⟩ := courseFor_of_checks hchecks' htext'
  rw [hconfigured, courseOfJudged_same hfiles] at hentries' hfailure'
  have hok := (hfailure.symm.trans hfollows.failure.symm).trans hdone
  obtain ⟨hdone', shown, hshown⟩ := courseOfJudged_returns hok
  refine ⟨hfollows'.failure.trans (hfailure'.trans hdone'), hfollows.wrote, hfollows'.wrote, m.returned_increasing,
    shown, ?_⟩
  rw [hentries, hentries', hshown]
  rfl

def halfReturned : LinedText where
  ended := [⟨"// Copyright".toList, false, by decide⟩, ⟨"int n ;".toList, true, by decide⟩]
  last := "// end".toList
  clean := by decide

def treeWith (text : Text) : FileTree where
  here := "/p".toList
  files := [("/p/x.cc".toList, some (text.map fun c => c.toNat.toUInt8))]

theorem treeWith_sameBut (text text' : Text) : (treeWith text).SameBut "x.cc".toList (treeWith text') := by
  refine ⟨rfl, rfl, rfl, fun q hq => ?_⟩
  have hpath : (treeWith text).resolve "x.cc".toList = "/p/x.cc".toList := by
    show Path.resolve "/p".toList "x.cc".toList = _
    decide +kernel
  rw [hpath, ← beq_eq_false_iff_ne] at hq
  have hlookup (content : List UInt8) :
      [("/p/x.cc".toList, some content)].lookup ((treeWith text).resolve q) = none := by
    rw [List.lookup_cons, hq]
    rfl
  show (List.lookup _ _).join = (List.lookup _ _).join
  exact congrArg Option.join ((hlookup _).trans (hlookup _).symm)

theorem line_endings_do_not_change_the_findings_halfReturned :
    (checkFile {} (treeWith halfReturned.plain.text) "x.cc".toList).2 = none ∧
    ∃ shown, (courseFor {} (treeWith halfReturned.text) "x.cc".toList).entries =
      (courseFor {} (treeWith halfReturned.plain.text) "x.cc".toList).entries ++
        [.verdict (returnFinding 2) shown] := by
  have hall := line_endings_do_not_change_the_findings halfReturned {} {} (treeWith halfReturned.text)
    (treeWith halfReturned.plain.text) "x.cc".toList rfl (treeWith_sameBut _ _) (fun h => absurd h (by decide))
    (by decide +kernel) (by decide +kernel) ⟨by decide +kernel, .inr (by decide +kernel)⟩ (by decide +kernel)
  obtain ⟨hdone, -, -, -, shown, hentries⟩ := hall
  exact ⟨hdone, shown 2, hentries⟩

end Session

end StyleCheck
