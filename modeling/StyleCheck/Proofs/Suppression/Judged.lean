/-
  StyleCheck.Proofs.Suppression.Judged — what has been read stays in force.

  Suppressions are collected while events are judged, and none is ever taken back (`Within`). So a
  comment that was read among some events, and that silences a category on its own line
  (`Suppression.silences`), hides every finding of the category on this line from then on
  (`judge_hides`). Verdicts are given on the findings of events and on nothing else
  (`judge_verdict`). Events that come later are judged by what is in force then, and change nothing
  about the verdicts before them (`judge_append`).
-/

import StyleCheck.Session

namespace StyleCheck

/-- The finding that an event reports. A suppression comment that names no category is one. -/
def Event.finding? : Event → Option Finding
  | .report f => some f
  | .suppress text line =>
    (Suppressions.unknown? text).map fun name =>
      ⟨line, .readabilityNolint, 5, Suppressions.unknownMessage name⟩
  | .suppressFile _ | .remark _ => none

/-- The first suppression comment of a line speaks of this line and of the category. -/
def Suppression.silences (text : Text) (category : Category) : Bool :=
  match ofLine? text with
  | some ⟨false, .everything⟩ => true
  | some ⟨false, .only named⟩ => named == category
  | _ => false

namespace Suppressions

structure Within (s t : Suppressions) : Prop where
  onLine : s.onLine ⊆ t.onLine
  wholeFile : s.wholeFile ⊆ t.wholeFile

namespace Within

theorem refl (s : Suppressions) : Within s s := ⟨List.Subset.refl _, List.Subset.refl _⟩

theorem trans {s t u : Suppressions} (h : Within s t) (h' : Within t u) : Within s u :=
  ⟨List.Subset.trans h.onLine h'.onLine, List.Subset.trans h.wholeFile h'.wholeFile⟩

theorem hides {s t : Suppressions} (h : Within s t) {name : Text} {line : Int} (hs : s.hides name line = true) :
    t.hides name line = true := by
  unfold Suppressions.hides at hs ⊢
  rcases Bool.or_eq_true_iff.mp hs with hs | hs
  · obtain ⟨c, hc, hname⟩ := List.any_eq_true.mp hs
    exact Bool.or_eq_true_iff.mpr (.inl (List.any_eq_true.mpr ⟨c, h.wholeFile hc, hname⟩))
  · obtain ⟨entry, he, hentry⟩ := List.any_eq_true.mp hs
    exact Bool.or_eq_true_iff.mpr (.inr (List.any_eq_true.mpr ⟨entry, h.onLine he, hentry⟩))

theorem addLine (s : Suppressions) (c : Option Category) (line : Int) : Within s (s.addLine c line) := by
  unfold Suppressions.addLine
  split
  · exact refl s
  · exact ⟨List.subset_append_left _ _, List.Subset.refl _⟩

theorem addFile (s : Suppressions) (c : Category) : Within s (s.addFile c) := by
  unfold Suppressions.addFile
  split
  · exact refl s
  · exact ⟨List.Subset.refl _, List.subset_append_left _ _⟩

theorem readLine (s : Suppressions) (text : Text) (line : Int) : Within s (s.readLine text line) := by
  unfold Suppressions.readLine Suppressions.add
  split
  · exact refl s
  · simp only
    split
    · exact addLine s _ _
    · exact addLine s _ _
    · exact refl s
    · exact refl s

theorem readMarks (s : Suppressions) (line : Text) : Within s (s.readMarks line) := by
  unfold Suppressions.readMarks
  simp only
  split
  · split
    · exact (addFile s _).trans (addFile _ _)
    · exact addFile s _
  · split
    · exact addFile s _
    · exact refl s

theorem readAllMarks (s : Suppressions) (lines : List Text) : Within s (s.readAllMarks lines) := by
  unfold Suppressions.readAllMarks
  refine List.foldlRecOn (motive := fun t : Suppressions => Within s t) _ _ (refl s) ?_
  intro t ht line _
  exact ht.trans (readMarks t line)

theorem judgeFinding (settings : Settings) (s : Suppressions) (f : Finding) :
    Within s (s.judgeFinding settings f).suppressions := by
  unfold Suppressions.judgeFinding
  split <;> exact refl s

theorem judgeEvent (settings : Settings) (s : Suppressions) (e : Event) :
    Within s (s.judgeEvent settings e).suppressions := by
  cases e with
  | report f => exact judgeFinding settings s f
  | suppress text line =>
    simp only [Suppressions.judgeEvent]
    split
    · exact readLine s text line
    · exact judgeFinding settings s _
  | suppressFile lines => exact readAllMarks s lines
  | remark text => exact refl s

theorem judge (settings : Settings) (s : Suppressions) (events : List Event) :
    Within s (s.judge settings events).suppressions := by
  induction events generalizing s with
  | nil => exact refl s
  | cons e rest ih =>
    unfold Suppressions.judge
    simp only
    split
    · exact judgeEvent settings s e
    · exact (judgeEvent settings s e).trans (ih _)

end Within

/-! ## Verdicts -/

theorem judgeFinding_verdict {settings : Settings} {s : Suppressions} {f g : Finding} {shown : Bool}
    (h : .verdict g shown ∈ (s.judgeFinding settings f).entries) : g = f := by
  unfold judgeFinding at h
  split at h
  · cases List.mem_singleton.mp h
    rfl
  · cases h

theorem judgeEvent_verdict {settings : Settings} {s : Suppressions} {e : Event} {f : Finding} {shown : Bool}
    (h : .verdict f shown ∈ (s.judgeEvent settings e).entries) : e.finding? = some f := by
  cases e with
  | report g => rw [judgeFinding_verdict h, Event.finding?]
  | suppress text line =>
    simp only [judgeEvent] at h
    split at h
    · cases h
    · rename_i name hname
      rw [judgeFinding_verdict h, Event.finding?, hname]
      rfl
  | suppressFile lines => cases h
  | remark text => cases List.mem_singleton.mp h

theorem judge_verdict {settings : Settings} {s : Suppressions} {events : List Event} {f : Finding} {shown : Bool}
    (h : .verdict f shown ∈ (s.judge settings events).entries) : ∃ e ∈ events, e.finding? = some f := by
  induction events generalizing s with
  | nil => cases h
  | cons e rest ih =>
    unfold judge at h
    simp only at h
    split at h
    · exact ⟨e, List.mem_cons_self, judgeEvent_verdict h⟩
    · rcases List.mem_append.mp h with h | h
      · exact ⟨e, List.mem_cons_self, judgeEvent_verdict h⟩
      · obtain ⟨later, hmem, hf⟩ := ih h
        exact ⟨later, List.mem_cons_of_mem _ hmem, hf⟩

theorem judge_cons_of_none {settings : Settings} {s : Suppressions} {e : Event}
    (h : (s.judgeEvent settings e).failure = none) (rest : List Event) :
    s.judge settings (e :: rest) =
      ⟨((s.judgeEvent settings e).suppressions.judge settings rest).suppressions,
        (s.judgeEvent settings e).entries ++ ((s.judgeEvent settings e).suppressions.judge settings rest).entries,
        ((s.judgeEvent settings e).suppressions.judge settings rest).failure⟩ := by
  rw [judge]
  simp only [h]

/-- If the first event cannot be judged, no other is. -/
theorem judge_cons_of_some {settings : Settings} {s : Suppressions} {e : Event} {failure : Failure}
    (h : (s.judgeEvent settings e).failure = some failure) (rest : List Event) :
    s.judge settings (e :: rest) = s.judgeEvent settings e := by
  rw [judge]
  simp only [h]

/-- If all events can be judged, the later ones are judged by what is in force after the earlier ones. -/
theorem judge_append {settings : Settings} {s : Suppressions} {events more : List Event}
    (hok : (s.judge settings (events ++ more)).failure = none) :
    (s.judge settings events).failure = none ∧
    ((s.judge settings events).suppressions.judge settings more).failure = none ∧
    (s.judge settings (events ++ more)).entries =
      (s.judge settings events).entries ++ ((s.judge settings events).suppressions.judge settings more).entries := by
  induction events generalizing s with
  | nil => exact ⟨rfl, hok, rfl⟩
  | cons e rest ih =>
    rw [List.cons_append] at hok ⊢
    cases hfail : (s.judgeEvent settings e).failure with
    | some failure =>
      rw [judge_cons_of_some hfail, hfail] at hok
      cases hok
    | none =>
      rw [judge_cons_of_none hfail] at hok
      obtain ⟨hrest, hmore, hentries⟩ := ih hok
      rw [judge_cons_of_none hfail, judge_cons_of_none hfail]
      refine ⟨hrest, hmore, ?_⟩
      simp only [hentries, List.append_assoc]

/-- Findings change nothing that is in force, so each is judged on its own. -/
theorem judge_reports {settings : Settings} {s : Suppressions} {fs : List Finding}
    (hok : (s.judge settings (fs.map .report)).failure = none) :
    (s.judge settings (fs.map .report)).entries =
      fs.map fun f => .verdict f ((settings.shows s f.category.name f.confidence f.line).toOption == some true) := by
  induction fs with
  | nil => rfl
  | cons f fs ih =>
    rw [List.map_cons] at hok ⊢
    cases hshows : settings.shows s f.category.name f.confidence f.line with
    | error failure =>
      have hjudged : s.judgeEvent settings (.report f) = ⟨s, [], some failure⟩ := by
        simp only [judgeEvent, judgeFinding, hshows]
      rw [judge_cons_of_some (by rw [hjudged]), hjudged] at hok
      cases hok
    | ok shown =>
      have hjudged : s.judgeEvent settings (.report f) = ⟨s, [.verdict f shown], none⟩ := by
        simp only [judgeEvent, judgeFinding, hshows]
      rw [judge_cons_of_none (by rw [hjudged]), hjudged] at hok ⊢
      simp only [ih hok, List.map_cons, hshows]
      simp [Except.toOption]

/-! ## Comments that have been read -/

theorem addLine_hides (s : Suppressions) {c : Option Category} {name : Text} (line : Int)
    (h : (c.map (fun c => c.name == name)).getD true = true) : (s.addLine c line).hides name line = true := by
  have hmem : (c, line) ∈ (s.addLine c line).onLine := by
    unfold addLine
    split
    · rename_i hc
      exact List.contains_iff_mem.mp hc
    · exact List.mem_append_right _ List.mem_cons_self
  refine Bool.or_eq_true_iff.mpr (.inr (List.any_eq_true.mpr ⟨_, hmem, ?_⟩))
  simp only [h, beq_self_eq_true, Bool.and_self]

/-- A comment that silences a category is in force as soon as it has been read. -/
theorem readLine_hides (s : Suppressions) {text : Text} {category : Category} (line : Int)
    (h : Suppression.silences text category = true) : (s.readLine text line).hides category.name line = true := by
  unfold Suppression.silences at h
  unfold readLine add
  split at h
  · rename_i hof
    rw [hof]
    exact addLine_hides s line rfl
  · rename_i named hof
    rw [hof]
    refine addLine_hides s line ?_
    rw [beq_iff_eq.mp h]
    exact beq_self_eq_true category.name
  · cases h

theorem unknown?_of_silences {text : Text} {category : Category} (h : Suppression.silences text category = true) :
    unknown? text = none := by
  unfold Suppression.silences at h
  unfold unknown?
  split at h
  · rename_i hof
    rw [hof]
  · rename_i hof
    rw [hof]
  · cases h

theorem judge_hides {settings : Settings} {s : Suppressions} {events : List Event} {text : Text} {n : Nat}
    {category : Category} (hread : .suppress text n ∈ events) (hsilences : Suppression.silences text category = true)
    (hok : (s.judge settings events).failure = none) :
    (s.judge settings events).suppressions.hides category.name n = true := by
  induction events generalizing s with
  | nil => cases hread
  | cons e rest ih =>
    unfold judge at hok ⊢
    simp only at hok ⊢
    split at hok
    · rename_i hfail
      rw [hfail] at hok
      cases hok
    · rcases List.mem_cons.mp hread with rfl | hread
      · -- the comment is read here, and the events after it take nothing back
        have hnow : (s.judgeEvent settings (.suppress text n)).suppressions = s.readLine text n := by
          simp only [judgeEvent, unknown?_of_silences hsilences]
        rw [hnow]
        exact (Within.judge settings _ rest).hides (readLine_hides s n hsilences)
      · exact ih hread hok

end Suppressions

end StyleCheck
