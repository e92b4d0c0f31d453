/-
  StyleCheck.Proofs.Check.Stages — a file from what is told first to what is told last.

  The stages of a check are: the file as a whole, the header guard, its lines one after another, and
  the end (`file_events`). Each stage is told only if no stage before it fails. So when the last one
  is told, all lines have been read and their suppression comments are known. All that it tells are
  findings about lines of the file: the lines on which blocks begin, names are used and headers are
  included (`before_filledBy`).
-/

import StyleCheck.Proofs.Check.Completion
import StyleCheck.Proofs.Check.Told
import StyleCheck.Proofs.Include.Remembered
import StyleCheck.Proofs.Rule.WholeFile

namespace StyleCheck

namespace Check

variable (c : Context) (s : Source)

/-- The headers in the table are included on the lines that have been read. -/
theorem before_filledBy {n last : Nat} (h : n ≤ last + 1) : (before c s n).includes.FilledBy last := by
  intro entry he
  obtain ⟨m, hline, hm, -⟩ := mem_entries_iff.mp he
  exact ⟨m, by omega, hline⟩

theorem before_startedBy {n last : Nat} (h : n ≤ last + 1) : Nesting.StartedBy last (before c s n).nesting := by
  rw [before_nesting]
  exact (Nesting.before_startedBy s n).mono (by omega)

/-! ## The end -/

def endingTopics : List Category :=
  [.buildClass, .buildNamespaces, .buildIncludeWhatYouUse, .buildInclude, .readabilityUtf8, .readabilityNul,
    .whitespaceEndingNewline]

theorem ending_tells (given : List Text) :
    Tells (UpTo (given.length + 1)) endingTopics
      (ending c (sourceOf given) (before c (sourceOf given) (sourceOf given).size)
        (Comment.blankAll (Source.marked given)).1) := by
  have hsize : (sourceOf given).size ≤ given.length + 1 + 1 := Nat.le_of_eq (Source.marked_size given)
  have hlength : (Comment.blankAll (Source.marked given)).1.length ≤ given.length + 1 + 1 := by
    rw [← Source.marked_length]
    exact Nat.le_of_eq (Comment.blankBlocks_length 1 _)
  refine .append (.of ((Nesting.incomplete_speak (before_startedBy c _ hsize)).mono (by decide)))
    (.append ((Required.outcome_tells _ _ _ hsize).mono (by decide)) (.append ?_
      (.append (.of ((Rule.WholeFile.badCharacters_speak hlength).mono (by decide)))
        (.append (.of ((Rule.WholeFile.finalLineFeed_speak hlength).mono (by decide))) .nothing))))
  split
  · split
    · rename_i hok
      exact .of ((OwnHeader.findings_speak (before_filledBy c _ hsize) hok).mono (by decide))
    · exact .nothing
  · exact .nothing

/-! ## The whole file -/

/-- What is told before the lines and the header guard: the copyright, marks for the whole file, and
an unclosed comment. -/
def preface (given : List Text) : List Event :=
  (Outcome.ofFindings (Rule.WholeFile.copyright (Source.marked given))).events
    ++ [.suppressFile (Source.marked given)]
    ++ (Outcome.ofFindings (Comment.blankAll (Source.marked given)).2).events

theorem file_events_preface (given : List Text) :
    (file c given).events = preface given ++
      ((if c.isHeader then HeaderGuard.outcome c.tree c.settings c.file (sourceOf given) else .nothing)
        ++ ((lines c (sourceOf given) (before c (sourceOf given) 0) 0 (sourceOf given).size).2
          ++ (ending c (sourceOf given) (lines c (sourceOf given) (before c (sourceOf given) 0) 0 (sourceOf given).size).1
              (Comment.blankAll (Source.marked given)).1 ++ Outcome.nothing))).events := by
  unfold preface
  rw [List.append_assoc, List.append_assoc, ← Outcome.append_events_of_none rfl,
    ← Outcome.append_events_of_none (a := ⟨[.suppressFile _], none⟩) rfl, ← Outcome.append_events_of_none rfl]
  rfl

/-- The stages of a file. If there is a last one, all lines have been read. -/
theorem file_events (given : List Text) :
    ∃ guard told last, (file c given).events = preface given ++ (guard ++ (told ++ last)) ∧
      (guard = [] ∨
        c.isHeader = true ∧ guard = (HeaderGuard.outcome c.tree c.settings c.file (sourceOf given)).events) ∧
      ToldFrom c (sourceOf given) 0 told ∧
      (last = [] ∨
        (∀ n < (sourceOf given).size, .suppress ((sourceOf given).raw n) n ∈ told) ∧
        ∃ fs, last = fs.map .report ∧ Speak (UpTo (given.length + 1)) endingTopics fs) := by
  have htold := lines_events c (sourceOf given) (before c (sourceOf given) 0)
    (show 0 + (sourceOf given).size ≤ (sourceOf given).size by omega)
  have hend := ending_tells c given
  rw [file_events_preface]
  generalize (Comment.blankAll (Source.marked given)).1 = blanked at hend ⊢
  generalize sourceOf given = s at htold hend ⊢
  have hguard : ∀ guard, guard = (if c.isHeader then HeaderGuard.outcome c.tree c.settings c.file s else .nothing) →
      guard.events = [] ∨
        c.isHeader = true ∧ guard.events = (HeaderGuard.outcome c.tree c.settings c.file s).events := by
    rintro _ rfl
    split
    · rename_i hh
      exact .inr ⟨hh, rfl⟩
    · exact .inl rfl
  generalize hg : (if c.isHeader then HeaderGuard.outcome c.tree c.settings c.file s else .nothing) = guard
  rw [Outcome.append_events]
  split
  · exact ⟨guard.events, [], [], rfl, hguard guard hg.symm, .stop, .inl rfl⟩
  · rw [Outcome.append_events]
    split
    · exact ⟨guard.events, _, [], rfl, hguard guard hg.symm, htold, .inl rfl⟩
    · rename_i hran
      have hnone : (lines c s (before c s 0) 0 s.size).2.failure = none := by simpa using hran
      refine ⟨guard.events, _, _, rfl, hguard guard hg.symm, htold, .inr ⟨fun n hn => ?_, ?_⟩⟩
      · exact lines_read c s _ hnone (Nat.zero_le n) (by omega)
      · rw [lines_progress c s 0 s.size hnone, Nat.zero_add]
        exact hend.append .nothing

end Check

end StyleCheck
