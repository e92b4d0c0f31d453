/-
  StyleCheck.Proofs.Check.Told — all that can be told while a line is read.

  What the rules say about a line is a sequence of events. `Told` says once which sequences there
  are: findings about the line itself or a line above, in no category that belongs to the end of a
  file, findings about an empty body, which may speak of a line below, the one rule that reads
  suppression comments ahead, remarks, and what the rules of the user say. `line_events`: on every
  line the suppression comment of that line is read first, and all that follows is of this form.
  `ToldFrom` is the same for a run over lines, which may be cut short by a failure (`lines_events`).

  Whatever is kept by these forms is kept by every check of a file.
-/

import StyleCheck.Check.File
import StyleCheck.Proofs.Check.Account
import StyleCheck.Proofs.Rule.Speech
import StyleCheck.Proofs.Suppression.Judged

namespace StyleCheck

namespace Check

/-- The categories of findings that are told at the end of a file and nowhere else. -/
def closingTopics : List Category :=
  [.buildIncludeWhatYouUse, .readabilityUtf8, .readabilityNul, .whitespaceEndingNewline]

variable {c : Context} {s : Source} {n : Nat}

/-- What can be told about line `n` when its suppression comment has been read. -/
inductive Told (c : Context) (s : Source) (n : Nat) : List Event → Prop
  | nothing : Told c s n []
  | both {a b : List Event} (ha : Told c s n a) (hb : Told c s n b) : Told c s n (a ++ b)
  /-- Of the line, or of a line above. -/
  | spoken {f : Finding} {k : Nat} (hk : k ≤ n) (hl : f.line = k) (hr : f.Rated c.settings.verbosity)
      (ht : f.category ∉ closingTopics) : Told c s n [.report f]
  | body {f : Finding} (hf : f ∈ Rule.EmptyBody.findings s n) : Told c s n [.report f]
  | semicolon : Told c s n (Rule.TrailingSemicolon.outcome s n).events
  | remark (text : String) : Told c s n [.remark text]
  | extra {rule : LineRule} (hr : rule ∈ c.extra) : Told c s n (rule c.settings s n).events

namespace Told

theorem append {a b : Outcome} (ha : Told c s n a.events) (hb : Told c s n b.events) :
    Told c s n (a ++ b).events := by
  rw [Outcome.append_events]
  split
  · exact ha.both .nothing
  · exact ha.both hb

theorem sequence {os : List Outcome} (h : ∀ o ∈ os, Told c s n o.events) :
    Told c s n (Outcome.sequence os).events := by
  induction os with
  | nil => exact .nothing
  | cons o os ih =>
    obtain ⟨ho, hos⟩ := List.forall_mem_cons.mp h
    exact ho.append (ih hos)

/-- What holds of every finding as an event of its own holds of all of them in order. -/
theorem reports {fs : List Finding} (h : ∀ f ∈ fs, Told c s n [.report f]) :
    Told c s n (Outcome.ofFindings fs).events := by
  induction fs with
  | nil => exact .nothing
  | cons f fs ih =>
    obtain ⟨hf, hfs⟩ := List.forall_mem_cons.mp h
    exact hf.both (ih hfs)

variable {topics : List Category} {fs : List Finding}

theorem ofUpTo (h : Speak (UpTo n) topics fs) (htopics : ∀ t ∈ topics, t ∉ closingTopics) :
    Told c s n (Outcome.ofFindings fs).events := by
  refine reports fun f hf => ?_
  obtain ⟨⟨k, hk, hl⟩, ⟨hlow, hhigh⟩, -⟩ := h f hf
  exact .spoken hk hl ⟨hhigh, fun _ => hlow⟩ (h.avoids htopics f hf)

theorem of (h : Speak (· = n) topics fs) (htopics : ∀ t ∈ topics, t ∉ closingTopics) :
    Told c s n (Outcome.ofFindings fs).events :=
  ofUpTo (h.upTo (Nat.le_refl n)) htopics

theorem ofTells {o : Outcome} (h : Tells (· = n) topics o) (htopics : ∀ t ∈ topics, t ∉ closingTopics) :
    Told c s n o.events := by
  obtain ⟨fs, hfs, hf⟩ := h
  rw [hfs]
  exact of hf htopics

end Told

/-! ## One line -/

theorem told_extent : Told c s n (extent c s n).events := by
  unfold extent
  split
  · exact .nothing
  · exact .of (Rule.LineShape.extent_speak s n _ _) (by decide)
  · refine .append ?_ (.of (Rule.LineShape.extent_speak s n _ _) (by decide))
    unfold HeaderGuard.Name.remarks
    split
    · exact .nothing
    · exact .remark _

theorem told_sectionSpacing (st : Nesting) :
    Told c s n (Outcome.ofFindings (sectionSpacing s st n)).events := by
  unfold sectionSpacing
  split
  · exact .nothing
  · exact .of (Rule.SectionSpacing.findings_speak s n _ _) (by decide)

theorem told_style (st : Nesting) : Told c s n (style c s st n).events := by
  refine .sequence ?_
  simp only [List.forall_mem_cons, List.not_mem_nil, false_implies, implies_true, and_true]
  exact ⟨.of (Rule.LineShape.margins_speak s n) (by decide), told_extent,
    .of (Rule.Braces.findings_speak s n _) (by decide), .semicolon, .reports fun f hf => .body hf,
    .of (Rule.Spacing.findings_speak s st n) (by decide),
    .of (Rule.OperatorSpacing.findings_speak s n) (by decide), .of (Rule.ParenSpacing.findings_speak s n) (by decide),
    .of (Rule.CommaSpacing.findings_speak s n) (by decide), .of (Rule.BraceSpacing.findings_speak s st n) (by decide),
    .of (Rule.CallSpacing.findings_speak s n) (by decide), .of (Rule.Assertion.findings_speak s n) (by decide),
    .of (Rule.AltTokens.findings_speak s n) (by decide), told_sectionSpacing st⟩

theorem told_language (table : IncludeTable) : Told c s n (language c s table n).2.events := by
  unfold language
  simp only
  split
  · exact .nothing
  · split
    · exact .ofTells (IncludeLine.update_tells _ _ s n _) (by decide)
    · refine .sequence ?_
      simp only [List.forall_mem_cons, List.not_mem_nil, false_implies, implies_true, and_true]
      exact ⟨.ofTells (Rule.Casts.outcome_tells s n) (by decide),
        .of (Rule.GlobalString.findings_speak s n) (by decide), .of (Rule.Printf.findings_speak s n) (by decide),
        .of (Rule.Language.findings_speak s n _) (by decide)⟩

theorem told_code (p : Progress) : Told c s n (code c s p n).2.events := by
  refine .sequence ?_
  simp only [List.forall_mem_append, List.forall_mem_cons, List.not_mem_nil, false_implies, implies_true,
    and_true]
  refine ⟨⟨.reports fun f hf => ?_, .of (Rule.multiline_speak s n) (by decide), told_style _, told_language _,
    .of (Rule.References.findings_speak s _ n) (by decide), .ofTells (Rule.nonstandard_tells s _ n) (by decide),
    .of (Rule.verbosityLevel_speak s n) (by decide), .of (Rule.threadSafety_speak s n) (by decide),
    .of (Rule.invalidIncrement_speak s n) (by decide), .of (Rule.makePair_speak s n) (by decide),
    .of (Rule.redundantVirtual_speak s n) (by decide), .of (Rule.redundantOverride_speak s n) (by decide)⟩,
    fun o ho => ?_⟩
  · obtain ⟨hl, hr, ht⟩ := FunctionLength.update_rated hf
    exact .spoken (Nat.le_refl n) hl hr (by rw [ht]; decide)
  · obtain ⟨rule, hr, rfl⟩ := List.mem_map.mp ho
    exact .extra hr

/-- The suppression comment of a line is read before anything else is told about it. -/
theorem line_events (c : Context) (s : Source) (p : Progress) (n : Nat) :
    ∃ rest, (line c s p n).2.events = .suppress (s.raw n) n :: rest ∧ Told c s n rest := by
  have hblocks : Told c s n (Outcome.ofFindings (p.nesting.update s n).2).events :=
    .ofUpTo (Nesting.update_speak s p.nesting n) (by decide)
  have hindent (st : Nesting) : Told c s n (Outcome.ofFindings (Rule.namespaceIndent s st n)).events :=
    .of (Rule.namespaceIndent_speak s st n) (by decide)
  have hnew : Told c s n (Outcome.ofFindings (Rule.Features.cxx11 s n)).events :=
    .of (Rule.Features.cxx11_speak s n) (by decide)
  unfold line
  simp only
  split
  · exact ⟨_, rfl, (hblocks.both (hindent _)).both (Told.append .nothing (hnew.append .nothing))⟩
  · exact ⟨_, rfl, (hblocks.both (hindent _)).both
      (Told.append (told_code _) (hnew.append .nothing))⟩

/-! ## All lines -/

inductive ToldFrom (c : Context) (s : Source) : (n : Nat) → List Event → Prop
  | stop {n : Nat} : ToldFrom c s n []
  | line {n : Nat} {here later : List Event} (hn : n < s.size) (hh : Told c s n here)
      (hl : ToldFrom c s (n + 1) later) : ToldFrom c s n (.suppress (s.raw n) n :: here ++ later)

theorem lines_events (c : Context) (s : Source) (p : Progress) {n count : Nat} (hn : n + count ≤ s.size) :
    ToldFrom c s n (lines c s p n count).2.events := by
  induction count generalizing p n with
  | zero => exact .stop
  | succ count ih =>
    obtain ⟨rest, hline, htold⟩ := line_events c s p n
    unfold lines
    simp only
    split
    · rw [hline, ← List.append_nil (_ :: rest)]
      exact .line (by omega) htold .stop
    · rename_i hok
      rw [Outcome.append_events, if_neg hok, hline]
      exact .line (by omega) htold (ih _ (by omega))

/-- If no line fails, the suppression comments of all of them have been read. -/
theorem lines_read (c : Context) (s : Source) (p : Progress) {n count m : Nat}
    (h : (lines c s p n count).2.failure = none) (hm : n ≤ m) (hlt : m < n + count) :
    .suppress (s.raw m) m ∈ (lines c s p n count).2.events := by
  induction count generalizing p n with
  | zero => omega
  | succ count ih =>
    obtain ⟨rest, hline, -⟩ := line_events c s p n
    unfold lines at h ⊢
    simp only at h ⊢
    split at h
    · rename_i hfail
      rw [h] at hfail
      cases hfail
    · rename_i hok
      rw [if_neg hok, Outcome.append_events, if_neg hok, hline]
      rcases Nat.eq_or_lt_of_le hm with rfl | hlater
      · exact List.mem_append_left _ List.mem_cons_self
      · refine List.mem_append_right _ (ih _ ?_ hlater (by omega))
        have hnone : (line c s p n).2.failure = none := by simpa using hok
        rw [Outcome.append_failure, hnone] at h
        exact h

end Check

end StyleCheck
