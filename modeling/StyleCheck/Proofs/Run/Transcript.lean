/-
  StyleCheck.Proofs.Run.Transcript — what a whole run writes, counts and answers.

  The entries of all files, in order and each with its file, are the transcript of a run. Files that are
  excluded or cannot be read have their entries in it too, and so has the text given to the program. All
  messages of the run are those of its transcript, and they are all that is counted (`checkFiles_recorded`).
  Results are written beside them: a line for each file, and the total at the end. A quiet run writes none
  of these if it shows no finding (`checkFiles_out`).
-/

import StyleCheck.Proofs.Run.Independence
import StyleCheck.Proofs.Run.Tally

namespace StyleCheck

def messages (layout : Layout) : List (Text × Entry) → String
  | [] => ""
  | (file, entry) :: rest => entry.text layout file ++ messages layout rest

def shownIn (written : List (Text × Entry)) : List Finding := written.filterMap fun (_, entry) => entry.shown?

theorem messages_append (layout : Layout) (written more : List (Text × Entry)) :
    messages layout (written ++ more) = messages layout written ++ messages layout more := by
  induction written with
  | nil => simp [messages]
  | cons first rest ih => simp [messages, ih, String.append_assoc]

theorem messages_map (layout : Layout) (file : Text) (entries : List Entry) :
    messages layout (entries.map (file, ·)) = Entry.texts layout file entries := by
  induction entries with
  | nil => rfl
  | cons entry rest ih => simp [messages, Entry.texts, ih]

theorem shownIn_append (written more : List (Text × Entry)) :
    shownIn (written ++ more) = shownIn written ++ shownIn more := List.filterMap_append

theorem shownIn_map (file : Text) (entries : List Entry) :
    shownIn (entries.map (file, ·)) = entries.filterMap Entry.shown? := by
  unfold shownIn
  rw [List.filterMap_map]
  rfl

namespace Session

variable (tree : FileTree)

def transcript : Session → List Text → List (Text × Entry)
  | _, [] => []
  | s, file :: rest =>
    (courseFrom tree s.settings file (s.textOf? tree file)).entries.map (file, ·)
      ++ transcript (s.checkFile tree file).1 rest

/-- While `s` became `s'`, these entries were written and counted, and no others. -/
structure Recorded (written : List (Text × Entry)) (s s' : Session) : Prop where
  layout : s'.settings.layout = s.settings.layout
  counting : s'.settings.counting = s.settings.counting
  quiet : s'.settings.quiet = s.settings.quiet
  err : s'.console.err = s.console.err ++ messages s.settings.layout written
  tally : ∀ shown, s.tally.Counts s.settings.counting shown →
    s'.tally.Counts s.settings.counting (shown ++ shownIn written)

variable {tree}

theorem Recorded.nothing (s : Session) : Recorded [] s s where
  layout := rfl
  counting := rfl
  quiet := rfl
  err := by rw [messages, String.append_empty]
  tally shown hshown := by rwa [shownIn, List.filterMap_nil, List.append_nil]

theorem Recorded.trans {written more : List (Text × Entry)} {s s' s'' : Session} (h : Recorded written s s')
    (h' : Recorded more s' s'') : Recorded (written ++ more) s s'' where
  layout := h'.layout.trans h.layout
  counting := h'.counting.trans h.counting
  quiet := h'.quiet.trans h.quiet
  err := by rw [h'.err, h.err, h.layout, messages_append, String.append_assoc]
  tally shown hshown := by
    rw [shownIn_append, ← List.append_assoc, ← h.counting]
    refine h'.tally _ ?_
    rw [h.counting]
    exact h.tally shown hshown

/-! ## Messages -/

theorem checkFile_recorded {s : Session} {file : Text} (h : (s.checkFile tree file).2 = none) :
    Recorded ((courseFrom tree s.settings file (s.textOf? tree file)).entries.map (file, ·)) s
      (s.checkFile tree file).1 := by
  have hwrote := (checkFile_follows s tree file).wrote
  refine ⟨hwrote.layout, hwrote.counting, ?_, ?_, ?_⟩
  · rw [checkFile_leaves h]
    rfl
  · rw [hwrote.err, messages_map]
  · intro shown hshown
    rw [hwrote.tally, shownIn_map]
    exact hshown.entries _

theorem checkFiles_recorded {s : Session} {files : List Text} (h : (checkFiles tree s files).2 = none) :
    Recorded (transcript tree s files) s (checkFiles tree s files).1 := by
  induction files generalizing s with
  | nil => exact .nothing s
  | cons file rest ih =>
    obtain ⟨hhere, hlater⟩ := checkFiles_append_ok [file] h
    rw [checkFiles_singleton] at hhere hlater
    rw [checkFiles_cons_ok tree hhere]
    exact (checkFile_recorded hhere).trans (ih hlater)

/-! ## Results -/

theorem take_out (s : Session) (file : Text) (events : List Event) :
    (s.take file events).1.console.out = s.console.out := by
  unfold take
  simp only
  refine List.foldlRecOn (motive := fun t : Session => t.console.out = s.console.out) _ _ rfl ?_
  intro t ht entry _
  rw [← ht]
  unfold takeEntry
  split <;> rfl

theorem checkRead_out (s : Session) (tree : FileTree) (file text : Text) :
    (s.checkRead tree file text).1.console.out = s.console.out := by
  unfold checkRead
  split
  · rfl
  · exact take_out { s with suppressions := {} } file _

/-- A file adds at most a line to the results, and none if the run is quiet and nothing was shown. -/
theorem checkFile_out (s : Session) (tree : FileTree) (file : Text) :
    ∃ done, (s.checkFile tree file).1.console.out = s.console.out ++ done ∧
      (s.settings.quiet = true → (s.checkFile tree file).1.tally.total = s.tally.total → done = "") := by
  obtain ⟨options, filters, hsettings⟩ := apply_withOptions { s with settings := s.settings.saveFilters } tree file
  have hquiet := congrArg Settings.quiet hsettings
  have happly := Configuration.apply_eq_graft tree { s with settings := s.settings.saveFilters } file
  have hout : (Configuration.apply tree { s with settings := s.settings.saveFilters } file).1.console.out
      = s.console.out := by rw [happly]; rfl
  unfold checkFile
  simp only
  generalize Configuration.apply tree { s with settings := s.settings.saveFilters } file = applied at hquiet hout ⊢
  obtain ⟨c, answer⟩ := applied
  simp only at hquiet hout ⊢
  have hsilent : ∀ {s' : Session}, s'.console.out = c.console.out →
      ∃ done, s'.console.out = s.console.out ++ done ∧
        (s.settings.quiet = true → s'.tally.total = s.tally.total → done = "") :=
    fun heq => ⟨"", by rw [heq, hout, String.append_empty], fun _ _ => rfl⟩
  rcases answer with e | _ | _
  · exact hsilent rfl
  · exact hsilent rfl
  · rcases fetch?_cases c tree file with ⟨hfetch, -⟩ | ⟨text, given, hfetch, -⟩
    · simp only [hfetch]
      exact hsilent rfl
    · have hkept := checkRead_settings { c with given := given } tree file text
      have hread := checkRead_out { c with given := given } tree file text
      simp only [hfetch]
      generalize checkRead { c with given := given } tree file text = checked at hkept hread ⊢
      obtain ⟨checked, failure⟩ := checked
      cases failure with
      | some e => exact hsilent hread
      | none =>
        simp only
        split
        · rename_i htold
          refine ⟨_, congrArg (· ++ _) (hread.trans hout), fun hq htotal => ?_⟩
          have hstill : checked.settings.quiet = true := by
            rw [hkept]
            exact hquiet.trans hq
          have hsame : checked.tally.total = s.tally.total := htotal
          simp [hstill, hsame] at htold
        · exact hsilent hread

/-- Files that show nothing leave the count as it is. -/
theorem Recorded.total_eq {written : List (Text × Entry)} {s s' : Session} (h : Recorded written s s')
    {shown : List Finding} (hshown : s.tally.Counts s.settings.counting shown) :
    s'.tally.total = s.tally.total + (shownIn written).length := by
  rw [(h.tally shown hshown).total, hshown.total, List.length_append]

theorem checkFiles_out {s : Session} {files : List Text} (h : (checkFiles tree s files).2 = none)
    {shown : List Finding} (hshown : s.tally.Counts s.settings.counting shown) :
    ∃ done, (checkFiles tree s files).1.console.out = s.console.out ++ done ∧
      (s.settings.quiet = true → shownIn (transcript tree s files) = [] → done = "") := by
  induction files generalizing s shown with
  | nil => exact ⟨"", by simp [checkFiles], fun _ _ => rfl⟩
  | cons file rest ih =>
    obtain ⟨hhere, hlater⟩ := checkFiles_append_ok [file] h
    rw [checkFiles_singleton] at hhere hlater
    have hfile := checkFile_recorded hhere
    obtain ⟨first, hfirst, hnone⟩ := checkFile_out s tree file
    obtain ⟨later, hrest, hnothing⟩ := ih hlater (hfile.counting ▸ hfile.tally shown hshown)
    rw [checkFiles_cons_ok tree hhere]
    refine ⟨first ++ later, by rw [hrest, hfirst, String.append_assoc], fun hquiet hempty => ?_⟩
    rw [transcript, shownIn_append, List.append_eq_nil_iff] at hempty
    have htotal := hfile.total_eq hshown
    rw [hempty.1, List.length_nil, Nat.add_zero] at htotal
    rw [hnone hquiet htotal, hnothing (hfile.quiet.trans hquiet) hempty.2, String.append_empty]

def categoryLines : List (Text × Nat) → String
  | [] => ""
  | entry :: rest => Tally.categoryLine entry ++ categoryLines rest

theorem warn_categoryLines (s : Session) (counts : List (Text × Nat)) :
    counts.foldl (fun s entry => s.warn (Tally.categoryLine entry)) s = s.warn (categoryLines counts) := by
  induction counts generalizing s with
  | nil => simp [categoryLines, warn]
  | cons entry rest ih =>
    rw [List.foldl_cons, ih]
    simp [categoryLines, warn, String.append_assoc]

theorem printTally_eq (s : Session) :
    s.printTally = (s.warn (categoryLines s.tally.byName)).print s.tally.totalLine := by
  unfold printTally
  rw [warn_categoryLines]

end Session

end StyleCheck
