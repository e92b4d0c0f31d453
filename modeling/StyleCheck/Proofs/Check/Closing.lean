/-
  StyleCheck.Proofs.Check.Closing — what is told only at the end of a file.

  Missing headers, bad characters and a missing line feed at the end have categories of their own
  (`closingTopics`). No rule for a line speaks in them (`Told.silent`), nor do the rules that come before
  all lines (`Silent`). So a finding of these categories is told at the end, when all lines have been read
  (`told_at_end`), and it is told by the one rule that has the category. In a file that is checked to its
  end everything that belongs there is told (`mem_file_of_ending`).
-/

import StyleCheck.Proofs.Check.Stages

namespace StyleCheck

/-! ## Outcomes in sequence -/

namespace Outcome

theorem mem_of_append {a b : Outcome} {e : Event} (h : e ∈ (a ++ b).events) :
    e ∈ a.events ∨ a.failure = none ∧ e ∈ b.events := by
  rw [append_events] at h
  rcases List.mem_append.mp h with h | h
  · exact .inl h
  · cases hfail : a.failure with
    | some failure => simp [hfail] at h
    | none => exact .inr ⟨rfl, by simpa [hfail] using h⟩

theorem mem_of_sequence {os : List Outcome} {e : Event} (h : e ∈ (sequence os).events) : ∃ o ∈ os, e ∈ o.events := by
  induction os with
  | nil => cases h
  | cons o os ih =>
    rcases mem_of_append h with h | ⟨-, h⟩
    · exact ⟨o, List.mem_cons_self, h⟩
    · obtain ⟨o', ho', he⟩ := ih h
      exact ⟨o', List.mem_cons_of_mem _ ho', he⟩

/-- If nothing fails, everything is told. -/
theorem mem_sequence_of_none {os : List Outcome} (hnone : (sequence os).failure = none) {o : Outcome} (ho : o ∈ os)
    {e : Event} (he : e ∈ o.events) : e ∈ (sequence os).events := by
  induction os with
  | nil => cases ho
  | cons first rest ih =>
    rw [sequence_cons_failure, Option.or_eq_none_iff] at hnone
    show e ∈ (first ++ sequence rest).events
    rw [append_events_of_none hnone.1]
    rcases List.mem_cons.mp ho with rfl | ho
    · exact List.mem_append_left _ he
    · exact List.mem_append_right _ (ih hnone.2 ho)

end Outcome

namespace Check

def Silent (events : List Event) : Prop := ∀ e ∈ events, ∀ f, e.finding? = some f → f.category ∉ closingTopics

namespace Silent

theorem nil : Silent [] := fun _ h => nomatch h

theorem both {a b : List Event} (ha : Silent a) (hb : Silent b) : Silent (a ++ b) :=
  List.forall_mem_append.mpr ⟨ha, hb⟩

theorem cons {e : Event} {rest : List Event} (he : ∀ f, e.finding? = some f → f.category ∉ closingTopics)
    (hrest : Silent rest) : Silent (e :: rest) :=
  List.forall_mem_cons.mpr ⟨he, hrest⟩

theorem report {f : Finding} {rest : List Event} (hf : f.category ∉ closingTopics) (hrest : Silent rest) :
    Silent (.report f :: rest) :=
  hrest.cons fun g hg => by cases hg; exact hf

/-- The comment of a line may name no category, which is told in a category of its own. -/
theorem suppress {text : Text} {n : Nat} {rest : List Event} (hrest : Silent rest) :
    Silent (.suppress text n :: rest) := by
  refine hrest.cons fun f hf => ?_
  obtain ⟨name, -, rfl⟩ := Option.map_eq_some_iff.mp hf
  show Category.readabilityNolint ∉ closingTopics
  decide

theorem unheard {e : Event} {rest : List Event} (he : e.finding? = none) (hrest : Silent rest) : Silent (e :: rest) :=
  hrest.cons fun f hf => by rw [he] at hf; cases hf

theorem of {lines : Int → Prop} {topics : List Category} {fs : List Finding} (h : Speak lines topics fs)
    (htopics : ∀ t ∈ topics, t ∉ closingTopics) : Silent (Outcome.ofFindings fs).events := by
  intro e he f hf
  obtain ⟨g, hg, rfl⟩ := List.mem_map.mp he
  cases hf
  exact h.avoids htopics f hg

end Silent

/-! ## Lines -/

section

variable {c : Context} {s : Source} (hextra : ∀ rule ∈ c.extra, ∀ n, Silent (rule c.settings s n).events)

include hextra

theorem Told.silent {n : Nat} {events : List Event} (h : Told c s n events) : Silent events := by
  induction h with
  | nothing => exact .nil
  | both _ _ iha ihb => exact iha.both ihb
  | spoken _ _ _ ht => exact .report ht .nil
  | body hf =>
    rcases Rule.EmptyBody.findings_cases s n with h | ⟨k, -, -, hspeak⟩
    · rw [h] at hf
      cases hf
    · exact .report (hspeak.avoids (by decide) _ hf) .nil
  | semicolon =>
    rcases Rule.TrailingSemicolon.outcome_cases s n with h | ⟨k, message, -, -, h⟩
    · rw [h]
      exact .nil
    · rw [h]
      exact .suppress (.suppress (.report (show Category.readabilityBraces ∉ closingTopics by decide) .nil))
  | remark => exact .unheard rfl .nil
  | extra hr => exact hextra _ hr n

/-- While the lines are read nothing is told that belongs to the end. -/
theorem ToldFrom.silent {n : Nat} {events : List Event} (h : ToldFrom c s n events) : Silent events := by
  induction h with
  | stop => exact .nil
  | line _ hh _ ih => exact (Silent.suppress (hh.silent hextra)).both ih

end

/-! ## Before all lines -/

theorem preface_silent (given : List Text) : Silent (preface given) :=
  ((Silent.of (Rule.WholeFile.copyright_speak _) (by decide)).both (.unheard rfl .nil)).both
    (.of (Comment.unclosed_speak given) (by decide))

theorem spoken_silent {lines : List Text} {events : List Event} (h : HeaderGuard.Spoken lines events) :
    Silent events := by
  have hguard : Category.buildHeaderGuard ∉ closingTopics := by decide
  induction h with
  | nothing => exact .nil
  | both _ _ iha ihb => exact iha.both ihb
  | remark => exact .unheard rfl .nil
  | missing => exact .report hguard .nil
  | ofLine h =>
    cases h with
    | nothing => exact .suppress .nil
    | wrong => exact .suppress (.report hguard .nil)

/-! ## The end -/

variable {c : Context} {given : List Text}

def closing (c : Context) (given : List Text) : Outcome :=
  ending c (sourceOf given) (before c (sourceOf given) (sourceOf given).size) (Comment.blankAll (Source.marked given)).1

/-- What belongs to the end is told there, after all lines have been read without a failure. -/
theorem told_at_end (hextra : ∀ rule ∈ c.extra, ∀ n, Silent (rule c.settings (sourceOf given) n).events)
    {e : Event} {f : Finding} (he : e ∈ (file c given).events) (hf : e.finding? = some f)
    (htopic : f.category ∈ closingTopics) :
    (lines c (sourceOf given) (before c (sourceOf given) 0) 0 (sourceOf given).size).2.failure = none ∧
      e ∈ (closing c given).events := by
  have hguard : Silent
      (if c.isHeader then HeaderGuard.outcome c.tree c.settings c.file (sourceOf given) else .nothing).events := by
    split
    · exact spoken_silent (HeaderGuard.outcome_spoken _ _ _ (sourceOf_first given).1)
    · exact .nil
  have hlines := lines_events c (sourceOf given) (before c (sourceOf given) 0)
    (show 0 + (sourceOf given).size ≤ (sourceOf given).size by omega)
  rw [file_events_preface] at he
  rcases List.mem_append.mp he with he | he
  · exact absurd htopic (preface_silent given e he f hf)
  · rcases Outcome.mem_of_append he with he | ⟨-, he⟩
    · exact absurd htopic (hguard e he f hf)
    · rcases Outcome.mem_of_append he with he | ⟨hnone, he⟩
      · exact absurd htopic (hlines.silent hextra e he f hf)
      · refine ⟨hnone, ?_⟩
        rw [lines_progress c _ 0 _ hnone, Nat.zero_add] at he
        rcases Outcome.mem_of_append he with he | ⟨-, he⟩
        · exact he
        · cases he

/-- A file that is checked to its end is told everything that belongs to the end. -/
theorem mem_file_of_ending (hnone : (file c given).failure = none) :
    (lines c (sourceOf given) (before c (sourceOf given) 0) 0 (sourceOf given).size).2.failure = none ∧
      (closing c given).failure = none ∧ ∀ e ∈ (closing c given).events, e ∈ (file c given).events := by
  rw [file_failure, Option.or_eq_none_iff, Option.or_eq_none_iff] at hnone
  obtain ⟨hguard, hlines, hend⟩ := hnone
  rw [lines_progress c _ 0 _ hlines, Nat.zero_add] at hend
  refine ⟨hlines, hend, fun e he => ?_⟩
  rw [file_events_preface, Outcome.append_events_of_none hguard, Outcome.append_events_of_none hlines,
    lines_progress c _ 0 _ hlines, Nat.zero_add, Outcome.append_events_of_none hend]
  exact List.mem_append_right _ (List.mem_append_right _ (List.mem_append_right _ (List.mem_append_left _ he)))

/-- Each of the categories that belong to the end has one rule. -/
theorem closing_cases {e : Event} {f : Finding} (he : e ∈ (closing c given).events) (hf : e.finding? = some f) :
    f.category ∈ [.buildClass, .buildNamespaces, .buildInclude, .whitespaceEndingNewline] ∨
    f.category = .buildIncludeWhatYouUse ∧
      e ∈ (Required.outcome c.tree c.file (sourceOf given)
        (before c (sourceOf given) (sourceOf given).size).includes).events ∨
    f.category ∈ [.readabilityUtf8, .readabilityNul] ∧
      f ∈ Rule.WholeFile.badCharacters (Comment.blankAll (Source.marked given)).1 := by
  have hreport : ∀ {fs : List Finding}, e ∈ fs.map .report → f ∈ fs := by
    intro fs he
    obtain ⟨g, hg, rfl⟩ := List.mem_map.mp he
    cases hf
    exact hg
  have hsize := Nat.le_succ (sourceOf given).size
  have hlength := Nat.le_succ (Comment.blankAll (Source.marked given)).1.length
  obtain ⟨o, ho, he⟩ := Outcome.mem_of_sequence he
  simp only [List.mem_cons, List.not_mem_nil, or_false] at ho
  rcases ho with rfl | rfl | rfl | rfl | rfl
  · have hspeak := Nesting.incomplete_speak (before_startedBy c (sourceOf given) hsize)
    exact .inl (hspeak.mono (by decide) f (hreport he)).2.2
  · obtain ⟨fs, hfs, hspeak⟩ := Required.outcome_tells c.tree c.file
      (before c (sourceOf given) (sourceOf given).size).includes hsize
    have hcategory := (hspeak f (hreport (hfs ▸ he))).2.2
    exact .inr (.inl ⟨List.mem_singleton.mp hcategory, he⟩)
  · split at he
    · split at he
      · rename_i hok
        have hspeak := OwnHeader.findings_speak (before_filledBy c (sourceOf given) hsize) hok
        exact .inl (hspeak.mono (by decide) f (hreport he)).2.2
      · cases he
    · cases he
  · exact .inr (.inr ⟨(Rule.WholeFile.badCharacters_speak hlength f (hreport he)).2.2, hreport he⟩)
  · exact .inl ((Rule.WholeFile.finalLineFeed_speak hlength).mono (by decide) f (hreport he)).2.2

end Check

end StyleCheck
