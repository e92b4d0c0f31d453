/-
  StyleCheck.Proofs.Check.Silenced — which findings a suppression comment comes too late for.

  A finding is judged when it is told, by the comments read so far. Comments are read line by line,
  so a finding about a line whose comment has not been read yet is shown, whatever the comment says.

  (1) `Timely`: in a sequence of events, every finding about a line with a comment that silences it
      comes after such a comment for this line has been read, unless it is excused. What holds for
      one line holds for a run over lines (`Told.timely`, `ToldFrom.timely`).
  (2) `Early` lists the excuses. An empty body is reported where the head of the statement ends, and
      the comment there is not read ahead. An unclosed comment is reported before all lines. The rule
      for header guards reads ahead, but with raw strings emptied. Rules of the user may do what they
      like. The semicolon after a block is reported below as well, but its comment is read ahead.
  (3) `findings_are_silenced_unless_early`: there are no others.
-/

import StyleCheck.Proofs.Check.Stages

namespace StyleCheck.Check

def ReadFor (category : Category) (n : Nat) (read : List Event) : Prop :=
  ∃ text, .suppress text n ∈ read ∧ Suppression.silences text category = true

/-- If the event is a finding about a line whose comment silences it, such a comment has been read. -/
def Due (s : Source) (excused : Finding → Nat → Prop) (read : List Event) (e : Event) : Prop :=
  ∀ (f : Finding) (n : Nat), e.finding? = some f → f.line = n → Suppression.silences (s.raw n) f.category = true →
    ReadFor f.category n read ∨ excused f n

/-- Every event is due when it is told, after `read` and the events before it. -/
inductive Timely (s : Source) (excused : Finding → Nat → Prop) : (read events : List Event) → Prop
  | nil {read : List Event} : Timely s excused read []
  | cons {read : List Event} {e : Event} {rest : List Event} (he : Due s excused read e)
      (hrest : Timely s excused (read ++ [e]) rest) : Timely s excused read (e :: rest)

section

variable {s : Source} {excused : Finding → Nat → Prop} {read : List Event}

theorem Due.silent {e : Event} (h : e.finding? = none) : Due s excused read e := by
  intro f n hf
  rw [h] at hf
  cases hf

theorem Due.excuse {e : Event} (h : ∀ f n, e.finding? = some f → excused f n) : Due s excused read e :=
  fun f n hf _ _ => .inr (h f n hf)

theorem Due.report {f : Finding} {k : Nat} (hl : f.line = k)
    (h : Suppression.silences (s.raw k) f.category = true → ReadFor f.category k read ∨ excused f k) :
    Due s excused read (.report f) := by
  intro g n hg hn hs
  cases hg
  obtain rfl : k = n := by omega
  exact h hs

/-- A line whose comment silences anything does not name an unknown category. -/
theorem Due.suppress (n : Nat) : Due s excused read (.suppress (s.raw n) n) := by
  intro f k hf hl hs
  obtain ⟨name, hname, rfl⟩ := Option.map_eq_some_iff.mp hf
  obtain rfl : n = k := Int.natCast_inj.mp hl
  rw [Suppressions.unknown?_of_silences hs] at hname
  cases hname

theorem Timely.append {a b : List Event} (ha : Timely s excused read a) (hb : Timely s excused (read ++ a) b) :
    Timely s excused read (a ++ b) := by
  induction ha with
  | nil =>
    rw [List.append_nil] at hb
    exact hb
  | cons he _ ih =>
    refine .cons he (ih ?_)
    rw [List.append_assoc]
    exact hb

theorem Timely.of_forall {events : List Event} (h : ∀ e ∈ events, ∀ read', read ⊆ read' → Due s excused read' e) :
    Timely s excused read events := by
  induction events generalizing read with
  | nil => exact .nil
  | cons e rest ih =>
    obtain ⟨he, hrest⟩ := List.forall_mem_cons.mp h
    refine .cons (he read (List.Subset.refl _)) (ih fun e' he' read' hsub => ?_)
    exact hrest e' he' read' (List.Subset.trans (List.subset_append_left _ _) hsub)

theorem Timely.due {before : List Event} {e : Event} {after : List Event}
    (h : Timely s excused read (before ++ e :: after)) : Due s excused (read ++ before) e := by
  induction before generalizing read with
  | nil =>
    cases h with
    | cons he _ =>
      rw [List.append_nil]
      exact he
  | cons first rest ih =>
    cases h with
    | cons _ hrest =>
      have hdue := ih hrest
      rw [List.append_assoc] at hdue
      exact hdue

/-- Findings about lines that have been read are due. -/
theorem Timely.reports {n : Nat} {topics : List Category} {fs : List Finding} (h : Speak (UpTo n) topics fs)
    (hread : ∀ k ≤ n, .suppress (s.raw k) k ∈ read) : Timely s excused read (fs.map .report) := by
  refine .of_forall fun e he read' hsub => ?_
  obtain ⟨f, hf, rfl⟩ := List.mem_map.mp he
  obtain ⟨⟨k, hk, hl⟩, -⟩ := h f hf
  exact .report hl fun hs => .inl ⟨_, hsub (hread k hk), hs⟩

end

/-! ## Lines -/

/-- A finding about line `n` that may be told before the comment of the line has been read. -/
inductive Early (c : Context) (given : List Text) (f : Finding) (n : Nat) : Prop
  /-- It is told about an empty body while a line above is read. -/
  | body {m : Nat} (hm : m < n) (hf : f ∈ Rule.EmptyBody.findings (sourceOf given) m)
  | unclosed (hf : f ∈ (Comment.blankAll (Source.marked given)).2)
  /-- The comment stands in a raw string, or is cut by one. -/
  | guard (hh : c.isHeader = true) {e : Event}
      (he : e ∈ (HeaderGuard.outcome c.tree c.settings c.file (sourceOf given)).events) (hf : e.finding? = some f)
      (hplain : Suppression.silences ((sourceOf given).plain n) f.category = false)
  | extra {rule : LineRule} {m : Nat} (hr : rule ∈ c.extra) {e : Event}
      (he : e ∈ (rule c.settings (sourceOf given) m).events) (hf : e.finding? = some f)

variable {c : Context} {given : List Text}

theorem Told.timely {n : Nat} {read events : List Event} (h : Told c (sourceOf given) n events)
    (hread : ∀ k ≤ n, .suppress ((sourceOf given).raw k) k ∈ read) :
    Timely (sourceOf given) (Early c given) read events := by
  induction h generalizing read with
  | nothing => exact .nil
  | both _ _ iha ihb => exact (iha hread).append (ihb fun k hk => List.mem_append_left _ (hread k hk))
  | spoken hk hl => exact .cons (.report hl fun hs => .inl ⟨_, hread _ hk, hs⟩) .nil
  | body hf =>
    rcases Rule.EmptyBody.findings_cases (sourceOf given) n with h | ⟨k, hk, -, hspeak⟩
    · rw [h] at hf
      cases hf
    · refine .cons (.report (hspeak _ hf).1 fun hs => ?_) .nil
      -- only on the line itself has the comment been read
      rcases Nat.eq_or_lt_of_le hk with rfl | hlt
      · exact .inl ⟨_, hread n (Nat.le_refl n), hs⟩
      · exact .inr (.body hlt hf)
  | semicolon =>
    rcases Rule.TrailingSemicolon.outcome_cases (sourceOf given) n with h | ⟨k, message, -, -, h⟩
    · rw [h]
      exact .nil
    · rw [h]
      -- the comments of the line below are read right before the report
      refine .cons (.suppress (k - 1)) (.cons (.suppress k) (.cons (.report rfl fun hs => .inl ⟨_, ?_, hs⟩) .nil))
      exact List.mem_append_right _ List.mem_cons_self
  | remark => exact .cons (.silent rfl) .nil
  | extra hr => exact .of_forall fun e he _ _ => .excuse fun f n hf => .extra hr he hf

theorem ToldFrom.timely {n : Nat} {read events : List Event} (h : ToldFrom c (sourceOf given) n events)
    (hread : ∀ k < n, .suppress ((sourceOf given).raw k) k ∈ read) :
    Timely (sourceOf given) (Early c given) read events := by
  induction h generalizing read with
  | stop => exact .nil
  | @line n here later hn hh _ ih =>
    have hnow : ∀ k ≤ n, .suppress ((sourceOf given).raw k) k ∈ read ++ [.suppress ((sourceOf given).raw n) n] := by
      intro k hk
      rcases Nat.eq_or_lt_of_le hk with rfl | hlt
      · exact List.mem_append_right _ List.mem_cons_self
      · exact List.mem_append_left _ (hread k hlt)
    refine Timely.append (.cons (.suppress n) (hh.timely hnow)) (ih fun k hk => ?_)
    have hk' := hnow k (by omega)
    rw [← List.singleton_append, ← List.append_assoc]
    exact List.mem_append_left _ hk'

/-! ## Before the lines -/

/-- The mark before the first line has no comment. -/
theorem silences_first (given : List Text) (category : Category) :
    Suppression.silences ((sourceOf given).raw 0) category = false := by
  obtain ⟨rest, h⟩ := sourceOf_lines given
  have hraw : (sourceOf given).raw 0 = firstMark := by simp [Source.raw, Source.line, h, Line.ofTexts]
  have hnone : Suppression.ofLine? firstMark = none := by decide +kernel
  unfold Suppression.silences
  rw [hraw, hnone]

theorem Due.report_first {excused : Finding → Nat → Prop} {read : List Event} {f : Finding}
    (hl : f.line = (0 : Nat)) : Due (sourceOf given) excused read (.report f) := by
  refine .report hl fun hs => ?_
  rw [silences_first] at hs
  cases hs

theorem preface_timely (read : List Event) : Timely (sourceOf given) (Early c given) read (preface given) := by
  refine (Timely.append (.of_forall fun e he _ _ => ?_) (.cons (.silent rfl) .nil)).append
    (.of_forall fun e he _ _ => ?_)
  · obtain ⟨f, hf, rfl⟩ := List.mem_map.mp he
    exact .report_first (Rule.WholeFile.copyright_speak _ f hf).1
  · obtain ⟨f, hf, rfl⟩ := List.mem_map.mp he
    exact .excuse fun g n hg => by
      cases hg
      exact .unclosed hf

theorem plain_getD (s : Source) (n : Nat) : (s.lines.toList.map Line.plain).getD n [] = s.plain n := by
  rw [List.getD_eq_getElem?_getD, List.getElem?_map, Array.getElem?_toList]
  unfold Source.plain Source.line Array.getD
  split
  · rename_i hn
    rw [Array.getElem?_eq_getElem hn]
    rfl
  · rename_i hn
    rw [Array.getElem?_eq_none (Nat.not_lt.mp hn)]
    rfl

section

variable {read events : List Event}
  (hh : c.isHeader = true)
  (hall : ∀ e ∈ events, e ∈ (HeaderGuard.outcome c.tree c.settings c.file (sourceOf given)).events)

include hh hall

theorem Due.suppress_plain {n : Nat} (he : .suppress ((sourceOf given).plain n) n ∈ events) :
    Due (sourceOf given) (Early c given) read (.suppress ((sourceOf given).plain n) n) := by
  intro f k hf hl hs
  refine .inr (.guard hh (hall _ he) hf ?_)
  obtain ⟨name, hname, rfl⟩ := Option.map_eq_some_iff.mp hf
  obtain rfl : n = k := Int.natCast_inj.mp hl
  by_contra hplain
  rw [Suppressions.unknown?_of_silences (Bool.not_eq_false _ ▸ hplain)] at hname
  cases hname

theorem saidOf_timely (h : HeaderGuard.SaidOf ((sourceOf given).lines.toList.map Line.plain) events) :
    Timely (sourceOf given) (Early c given) read events := by
  cases h with
  | nothing hn =>
    rw [plain_getD] at hall ⊢
    exact .cons (.suppress_plain hh hall List.mem_cons_self) .nil
  | @wrong n hn confidence _ message =>
    rw [plain_getD] at hall ⊢
    refine .cons (.suppress_plain hh hall List.mem_cons_self) (.cons (.report rfl fun hs => ?_) .nil)
    by_cases hplain : Suppression.silences ((sourceOf given).plain n) .buildHeaderGuard = true
    · exact .inl ⟨_, List.mem_append_right _ List.mem_cons_self, hplain⟩
    · have htold := hall _ (List.mem_cons_of_mem _ List.mem_cons_self)
      exact .inr (.guard hh htold rfl (Bool.not_eq_true _ ▸ hplain))

theorem spoken_timely (h : HeaderGuard.Spoken ((sourceOf given).lines.toList.map Line.plain) events) :
    Timely (sourceOf given) (Early c given) read events := by
  induction h generalizing read with
  | nothing => exact .nil
  | both _ _ iha ihb =>
    exact (iha fun e he => hall e (List.mem_append_left _ he)).append
      (ihb fun e he => hall e (List.mem_append_right _ he))
  | remark => exact .cons (.silent rfl) .nil
  | missing => exact .cons (.report_first rfl) .nil
  | ofLine h => exact saidOf_timely hh hall h

end

/-! ## The whole file -/

theorem file_timely (c : Context) (given : List Text) :
    Timely (sourceOf given) (Early c given) [] (file c given).events := by
  obtain ⟨guard, told, last, hevents, hguard, htold, hlast⟩ := file_events c given
  rw [hevents]
  refine (preface_timely []).append (.append ?_ (.append (htold.timely fun k hk => by omega) ?_))
  · rcases hguard with rfl | ⟨hh, rfl⟩
    · exact .nil
    · exact spoken_timely hh (fun e he => he) (HeaderGuard.outcome_spoken _ _ _ (sourceOf_first given).1)
  · rcases hlast with rfl | ⟨hread, fs, rfl, hfs⟩
    · exact .nil
    · have hsize : (sourceOf given).size = given.length + 2 := Source.marked_size given
      exact .reports hfs fun k hk => List.mem_append_right _ (hread k (by omega))

/-- A finding about a line whose first suppression comment silences it is not shown, unless it is one
of those that may be told early and no such comment has been read yet for the line. -/
theorem findings_are_silenced_unless_early (c : Context) (given : List Text) {before after : List Event} {e : Event}
    {f : Finding} {n : Nat} (htold : (file c given).events = before ++ e :: after) (hf : e.finding? = some f)
    (hl : f.line = n) (hs : Suppression.silences ((sourceOf given).raw n) f.category = true)
    (hok : (Suppressions.judge c.settings {} before).failure = none) :
    c.settings.shows (Suppressions.judge c.settings {} before).suppressions f.category.name f.confidence f.line
      = .ok false ∨
    (Early c given f n ∧ ∀ text, .suppress text n ∈ before → Suppression.silences text f.category = false) := by
  by_cases hread : ReadFor f.category n before
  · obtain ⟨text, hmem, htext⟩ := hread
    refine .inl ?_
    unfold Settings.shows
    rw [hl, if_pos (Suppressions.judge_hides hmem htext hok)]
  · have htimely := file_timely c given
    rw [htold] at htimely
    refine .inr ⟨(htimely.due f n hf hl hs).resolve_left hread, fun text hmem => ?_⟩
    by_contra hne
    exact hread ⟨text, hmem, Bool.not_eq_false _ ▸ hne⟩

def loopWithComments : List Text := ["while (a && // NOLINT".toList, "b);  // NOLINT".toList]

def emptyLoop : Finding := ⟨2, .whitespaceEmptyLoopBody, 5, "Empty loop bodies should use \x7b\x7d or continue"⟩

def closeComment : Finding :=
  ⟨1, .whitespaceComments, 2, "At least two spaces is best between code and comments"⟩

/-- While the first line is read, its own comment is in time for what is told about it, and the comment
below comes too late for the empty body. -/
theorem findings_are_silenced_unless_early_loop :
    (∃ before after, (file plainFile loopWithComments).events = before ++ .report emptyLoop :: after ∧
      plainFile.settings.shows (Suppressions.judge plainFile.settings {} before).suppressions
        emptyLoop.category.name 5 2 = .ok true ∧ Early plainFile loopWithComments emptyLoop 2) ∧
    (∃ before after, (file plainFile loopWithComments).events = before ++ .report closeComment :: after ∧
      plainFile.settings.shows (Suppressions.judge plainFile.settings {} before).suppressions
        closeComment.category.name 2 1 = .ok false) := by
  obtain ⟨hfirst, hloop, hclose⟩ : (sourceOf loopWithComments).raw 1 = "while (a && // NOLINT".toList ∧
      Suppression.silences ((sourceOf loopWithComments).raw 2) emptyLoop.category = true ∧
      Suppression.silences ((sourceOf loopWithComments).raw 1) closeComment.category = true := by decide +kernel
  generalize hevents : (file plainFile loopWithComments).events = events
  have hrun : events[4]? = some (.report emptyLoop) ∧ events[5]? = some (.report closeComment) ∧
      .suppress "while (a && // NOLINT".toList 1 ∈ events.take 5 ∧
      (Suppressions.judge plainFile.settings {} (events.take 4)).failure = none ∧
      (Suppressions.judge plainFile.settings {} (events.take 5)).failure = none ∧
      plainFile.settings.shows (Suppressions.judge plainFile.settings {} (events.take 4)).suppressions
        emptyLoop.category.name 5 2 = .ok true := by
    subst hevents
    decide +kernel
  obtain ⟨hat, hnext, hread, hokLoop, hokClose, hshown⟩ := hrun
  have hsplit (k : Nat) (e : Event) (h : events[k]? = some e) : events = events.take k ++ e :: events.drop (k + 1) := by
    obtain ⟨hk, rfl⟩ := List.getElem?_eq_some_iff.mp h
    rw [← List.drop_eq_getElem_cons hk, List.take_append_drop]
  refine ⟨⟨_, _, hsplit 4 _ hat, hshown, ?_⟩, ⟨_, _, hsplit 5 _ hnext, ?_⟩⟩
  · rcases findings_are_silenced_unless_early plainFile loopWithComments (hevents.trans (hsplit 4 _ hat)) rfl rfl hloop
      hokLoop with hhidden | ⟨hearly, -⟩
    · rw [show emptyLoop.confidence = 5 from rfl, show emptyLoop.line = 2 from rfl, hshown] at hhidden
      cases hhidden
    · exact hearly
  · rcases findings_are_silenced_unless_early plainFile loopWithComments (hevents.trans (hsplit 5 _ hnext)) rfl rfl
      hclose hokClose with hhidden | ⟨-, hlate⟩
    · exact hhidden
    · rw [← hfirst] at hread
      rw [hlate _ hread] at hclose
      cases hclose

end StyleCheck.Check
