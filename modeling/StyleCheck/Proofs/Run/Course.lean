/-
  StyleCheck.Proofs.Run.Course — the check of a file as a function of the settings.

  What is written and counted while a file is checked, how it ends, and the settings it leaves, are
  worked out from the tree, the settings and the name of the file alone (`courseOf`). The session
  brings nothing else into it: suppressions are cleared before a file, and the count so far and what
  has been written so far are only added to. `checkFile_course`: every check of a file from any
  session follows this course. The text given to the program is the one exception, as it can be read
  only once; with the text at hand, it has its course too (`checkFile_follows`).
-/

import StyleCheck.Proofs.Configuration.Frame
import StyleCheck.Proofs.Run.Lasting

namespace StyleCheck

/-! ## What is written -/

def Entry.text (layout : Layout) (file : Text) : Entry → String
  | .verdict f true => layout.render file f.line f.category.name f.confidence f.message.toList
  | .verdict _ false => ""
  | .remark text => text

def Entry.texts (layout : Layout) (file : Text) : List Entry → String
  | [] => ""
  | entry :: rest => entry.text layout file ++ texts layout file rest

def Entry.count (counting : Counting) (t : Tally) : Entry → Tally
  | .verdict f true => t.count counting f.category.name
  | .verdict _ false | .remark _ => t

theorem Entry.texts_append (layout : Layout) (file : Text) (es es' : List Entry) :
    texts layout file (es ++ es') = texts layout file es ++ texts layout file es' := by
  induction es with
  | nil => simp [texts]
  | cons entry rest ih => simp [texts, ih, String.append_assoc]

namespace Session

/-- While `s` became `s'`, these entries about `file` were written and counted, and no others. -/
structure Wrote (file : Text) (entries : List Entry) (s s' : Session) : Prop where
  layout : s'.settings.layout = s.settings.layout
  counting : s'.settings.counting = s.settings.counting
  err : s'.console.err = s.console.err ++ Entry.texts s.settings.layout file entries
  tally : s'.tally = entries.foldl (Entry.count s.settings.counting) s.tally

namespace Wrote

variable {file : Text} {s s' s'' : Session}

theorem nothing (hl : s'.settings.layout = s.settings.layout) (hc : s'.settings.counting = s.settings.counting)
    (he : s'.console.err = s.console.err) (ht : s'.tally = s.tally) : Wrote file [] s s' where
  layout := hl
  counting := hc
  err := by simp [Entry.texts, he]
  tally := ht

theorem trans {es es' : List Entry} (h : Wrote file es s s') (h' : Wrote file es' s' s'') :
    Wrote file (es ++ es') s s'' where
  layout := h'.layout.trans h.layout
  counting := h'.counting.trans h.counting
  err := by rw [h'.err, h.err, h.layout, Entry.texts_append, String.append_assoc]
  tally := by rw [h'.tally, h.tally, h.counting, List.foldl_append]

/-- A step that writes no message and counts nothing may follow. -/
theorem silently {es : List Entry} (h : Wrote file es s s') (hl : s''.settings.layout = s'.settings.layout)
    (hc : s''.settings.counting = s'.settings.counting) (he : s''.console.err = s'.console.err)
    (ht : s''.tally = s'.tally) : Wrote file es s s'' := by
  have hall := h.trans (nothing hl hc he ht)
  rwa [List.append_nil] at hall

theorem takeEntry (s : Session) (entry : Entry) : Wrote file [entry] s (takeEntry file s entry) := by
  cases entry with
  | verdict f shown =>
    cases shown with
    | true => exact ⟨rfl, rfl, by simp [Session.takeEntry, record, warn, Entry.texts, Entry.text], rfl⟩
    | false => exact ⟨rfl, rfl, by simp [Session.takeEntry, Entry.texts, Entry.text], rfl⟩
  | remark text => exact ⟨rfl, rfl, by simp [Session.takeEntry, warn, Entry.texts, Entry.text], rfl⟩

theorem takeEntries (s : Session) (entries : List Entry) :
    Wrote file entries s (entries.foldl (Session.takeEntry file) s) := by
  induction entries generalizing s with
  | nil => exact nothing rfl rfl rfl rfl
  | cons entry rest ih => exact (takeEntry s entry).trans (ih _)

end Wrote

/-! ## The course of a file -/

structure Course where
  entries : List Entry
  settings : Settings
  failure : Option Failure

def skippedMessage (file : Text) : String := "Skipping input '" ++ String.ofList file ++ "': Can't open for reading\n"

def courseOfJudged (tree : FileTree) (σ : Settings) (file text : Text) : List Entry × Option Failure :=
  let given := FileText.ofText text
  let said := Check.file { tree, settings := σ, file, extension := lastExtension file } given.lines
    ++ (given.returnFindings : Outcome)
  let trial := Suppressions.judge σ {} said.events
  (trial.entries, trial.failure.or said.failure)

/-- A file that could be read, under settings that are in force for it. For the text given to the program the
extension does not matter. -/
def courseOfRead (tree : FileTree) (σ : Settings) (file text : Text) : List Entry × Option Failure :=
  if file ≠ ['-'] ∧ lastExtension file ∉ σ.extensions then
    ([.remark (foreignMessage { settings := σ } file)], none)
  else courseOfJudged tree σ file text

def courseFrom (tree : FileTree) (σ : Settings) (file : Text) (text? : Option Text) : Course :=
  let (configured, answer) := Configuration.apply tree { settings := σ.saveFilters } file
  let noted := Entry.remark configured.console.err
  match answer with
  | .error e => ⟨[noted], configured.settings, some e⟩
  | .ok false => ⟨[noted], configured.settings.restoreFilters, none⟩
  | .ok true =>
    match text? with
    | none => ⟨[noted, .remark (skippedMessage file)], configured.settings.restoreFilters, none⟩
    | some text =>
      let (entries, failure) := courseOfRead tree configured.settings file text
      ⟨noted :: entries, if failure.isSome then configured.settings else configured.settings.restoreFilters, failure⟩

def courseOf (tree : FileTree) (σ : Settings) (file : Text) : Course := courseFrom tree σ file (tree.text? file)

def textOf? (s : Session) (tree : FileTree) (file : Text) : Option Text :=
  if file = ['-'] then some s.given else tree.text? file

/-- A file is read at most by taking the text given to the program. -/
theorem fetch?_cases (s : Session) (tree : FileTree) (file : Text) :
    s.fetch? tree file = none ∧ s.textOf? tree file = none ∨
    ∃ text given, s.fetch? tree file = some (text, { s with given := given }) ∧ s.textOf? tree file = some text := by
  unfold fetch? textOf?
  by_cases hfile : file = ['-']
  · rw [if_pos (beq_iff_eq.mpr hfile), if_pos hfile]
    exact .inr ⟨s.given, [], rfl, rfl⟩
  · rw [if_neg (by simpa using hfile), if_neg hfile]
    cases tree.text? file with
    | none => exact .inl ⟨rfl, rfl⟩
    | some text => exact .inr ⟨text, s.given, rfl, rfl⟩

structure Follows (file : Text) (course : Course) (s : Session) (after : Session × Option Failure) : Prop where
  wrote : Wrote file course.entries s after.1
  settings : after.1.settings = course.settings
  failure : after.2 = course.failure

theorem take_wrote (s : Session) (file : Text) (events : List Event) :
    Wrote file (s.suppressions.judge s.settings events).entries s (s.take file events).1 := by
  have hcleared : Wrote file [] s
      { s with suppressions := (s.suppressions.judge s.settings events).suppressions } := .nothing rfl rfl rfl rfl
  exact hcleared.trans (.takeEntries _ _)

theorem checkText_wrote (s : Session) (tree : FileTree) (file text : Text) :
    Wrote file (courseOfJudged tree s.settings file text).1 s (s.checkText tree file text).1 ∧
    (s.checkText tree file text).2 = (courseOfJudged tree s.settings file text).2 := by
  have hcleared : Wrote file [] s { s with suppressions := {} } := .nothing rfl rfl rfl rfl
  exact ⟨hcleared.trans (take_wrote { s with suppressions := {} } file _), rfl⟩

theorem checkRead_wrote (s : Session) (tree : FileTree) (file text : Text) :
    Wrote file (courseOfRead tree s.settings file text).1 s (s.checkRead tree file text).1 ∧
    (s.checkRead tree file text).2 = (courseOfRead tree s.settings file text).2 := by
  unfold checkRead courseOfRead
  have hforeign : (file != ['-'] && !s.settings.extensions.contains (lastExtension file)) = true ↔
      file ≠ ['-'] ∧ lastExtension file ∉ s.settings.extensions := by simp
  simp only [hforeign]
  split
  · exact ⟨Wrote.takeEntry s (.remark _), rfl⟩
  · exact checkText_wrote s tree file text

/-- Configurations change options and filters only. -/
theorem apply_withOptions (s : Session) (tree : FileTree) (file : Text) :
    ∃ options filters,
      (Configuration.apply tree s file).1.settings = { s.settings.withOptions options with filters := filters } := by
  obtain ⟨filters, hsettings⟩ := Configuration.apply_settings tree s file
  have hoptions := Configuration.settleAll_withOptions s.settings s.settings (Configuration.consulted tree file)
  rw [show s.settings.withOptions s.settings = s.settings from rfl] at hoptions
  rw [hoptions] at hsettings
  exact ⟨_, filters, hsettings⟩

theorem apply_wrote (s : Session) (tree : FileTree) (file : Text) :
    Wrote file [.remark (Configuration.apply tree { settings := s.settings } file).1.console.err] s
      (Configuration.apply tree s file).1 := by
  obtain ⟨options, filters, hsettings⟩ := apply_withOptions s tree file
  refine ⟨by rw [hsettings]; rfl, by rw [hsettings]; rfl, ?_, ?_⟩
  · rw [Configuration.apply_eq_graft]
    simp [graft, Entry.texts, Entry.text]
  · rw [Configuration.apply_eq_graft]
    rfl

/-- What follows a course after something was written follows the course with that put before it. -/
theorem Follows.after {file : Text} {es : List Entry} {course : Course} {s c : Session}
    {after : Session × Option Failure} (h : Follows file course c after) (hwrote : Wrote file es s c) :
    Follows file { course with entries := es ++ course.entries } s after where
  wrote := hwrote.trans h.wrote
  settings := h.settings
  failure := h.failure

theorem checkRead_follows (c : Session) (tree : FileTree) (file text : Text) (total : Nat) :
    Follows file
      ⟨(courseOfRead tree c.settings file text).1,
        if (courseOfRead tree c.settings file text).2.isSome then c.settings else c.settings.restoreFilters,
        (courseOfRead tree c.settings file text).2⟩ c
      (match c.checkRead tree file text with
      | (s, some e) => (s, some e)
      | (s, none) =>
        let s :=
          if !s.settings.quiet || s.tally.total != total then
            s.print ("Done processing " ++ String.ofList file ++ "\n")
          else s
        (s.restoreFilters, none)) := by
  obtain ⟨hwrote, hfailure⟩ := checkRead_wrote c tree file text
  have hkept := checkRead_settings c tree file text
  generalize c.checkRead tree file text = checked at hwrote hfailure hkept ⊢
  generalize courseOfRead tree c.settings file text = course at hwrote hfailure ⊢
  obtain ⟨checked, failure⟩ := checked
  obtain ⟨entries, failure'⟩ := course
  obtain rfl : failure = failure' := hfailure
  cases failure with
  | some e => exact ⟨hwrote, hkept, rfl⟩
  | none =>
    simp only [Option.isSome_none, Bool.false_eq_true, if_false]
    -- that the file is done is told among the results, not as a message
    split
    · exact ⟨hwrote.silently rfl rfl rfl rfl, congrArg Settings.restoreFilters hkept, rfl⟩
    · exact ⟨hwrote.silently rfl rfl rfl rfl, congrArg Settings.restoreFilters hkept, rfl⟩

/-- Every check of a file follows its course. -/
theorem checkFile_follows (s : Session) (tree : FileTree) (file : Text) :
    Follows file (courseFrom tree s.settings file (s.textOf? tree file)) s (s.checkFile tree file) := by
  have hsaved : Wrote file [] s { s with settings := s.settings.saveFilters } := .nothing rfl rfl rfl rfl
  have hnoted := hsaved.trans (apply_wrote { s with settings := s.settings.saveFilters } tree file)
  have happly := Configuration.apply_eq_graft tree { s with settings := s.settings.saveFilters } file
  unfold checkFile courseFrom
  simp only at hnoted happly ⊢
  rw [happly] at hnoted ⊢
  generalize Configuration.apply tree { settings := s.settings.saveFilters } file = bare at hnoted ⊢
  obtain ⟨configured, answer⟩ := bare
  simp only at hnoted ⊢
  -- of the session after its configurations, the rest of the check sees the settings and the text given
  have htext : s.textOf? tree file
      = (graft { s with settings := s.settings.saveFilters } configured).textOf? tree file := rfl
  rw [htext]
  generalize hc : graft { s with settings := s.settings.saveFilters } configured = c at hnoted ⊢
  have hsettings : configured.settings = c.settings := by
    subst hc
    rfl
  rw [hsettings]
  rcases answer with e | _ | _
  · exact ⟨hnoted, rfl, rfl⟩
  · exact ⟨hnoted.silently rfl rfl rfl rfl, rfl, rfl⟩
  · rcases fetch?_cases c tree file with ⟨hfetch, hnone⟩ | ⟨text, given, hfetch, hsome⟩
    · simp only [hfetch, hnone]
      have hskipped : Wrote file [.remark (skippedMessage file)] c (c.warn (skippedMessage file)) :=
        .takeEntry c (.remark (skippedMessage file))
      have hfollows : Follows file ⟨[.remark (skippedMessage file)], c.settings.restoreFilters, none⟩ c
          ((c.warn (skippedMessage file)).restoreFilters, none) :=
        ⟨hskipped.silently rfl rfl rfl rfl, rfl, rfl⟩
      exact hfollows.after hnoted
    · simp only [hfetch, hsome]
      exact (checkRead_follows { c with given := given } tree file text s.tally.total).after
        (hnoted.silently rfl rfl rfl rfl)

theorem checkFile_course (s : Session) (tree : FileTree) {file : Text} (hfile : file ≠ ['-']) :
    Follows file (courseOf tree s.settings file) s (s.checkFile tree file) := by
  have htext : s.textOf? tree file = tree.text? file := if_neg hfile
  rw [courseOf, ← htext]
  exact checkFile_follows s tree file

end Session

end StyleCheck
