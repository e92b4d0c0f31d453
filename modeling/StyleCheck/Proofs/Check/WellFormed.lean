/-
  StyleCheck.Proofs.Check.WellFormed — every finding is about something.

  A finding is well formed if its category can be listed, filtered and suppressed by name, its
  confidence is on the scale from 0 to 5, and its line is one of the file, counted with the marks
  before and after it. `every_finding_is_well_formed`: all findings of a file are, those told before a
  failure too, at every verbosity that is not negative.

  Two findings come close to the limits. The confidence of a finding about a long function is worked
  out from its length, and would be negative for a short function at a negative verbosity. A block
  comment that is opened on the last line and never closed is reported on the mark after it.
-/

import StyleCheck.Proofs.Check.Stages

namespace StyleCheck

theorem Category.mem_all (category : Category) : category ∈ all := by
  cases category <;> decide

/-- No two categories have the same name. -/
theorem Category.ofName?_name (category : Category) : ofName? category.name = some category := by
  have h : ∀ category ∈ all, all.find? (fun c => c.label == category.label) = some category := by decide +kernel
  have hsame (c : Category) : (c.name == category.name) = (c.label == category.label) := by
    rw [Bool.eq_iff_iff, beq_iff_eq, beq_iff_eq]
    exact String.toList_inj
  simp only [ofName?, hsame]
  exact h category category.mem_all

structure Finding.WellFormed (count : Nat) (f : Finding) : Prop where
  listed : f.category ∈ Category.all
  /-- Filters and suppression comments can name the category. -/
  named : Category.ofName? f.category.name = some f.category
  confident : 0 ≤ f.confidence ∧ f.confidence ≤ 5
  placed : 0 ≤ f.line ∧ f.line ≤ count + 1

theorem Finding.wellFormed_of {count k : Nat} {f : Finding} (hk : k ≤ count + 1) (hl : f.line = k)
    (hc : 0 ≤ f.confidence ∧ f.confidence ≤ 5) : f.WellFormed count where
  listed := Category.mem_all _
  named := Category.ofName?_name _
  confident := hc
  placed := by omega

namespace Check

def AllWellFormed (count : Nat) (events : List Event) : Prop :=
  ∀ e ∈ events, ∀ f, e.finding? = some f → f.WellFormed count

namespace AllWellFormed

variable {count : Nat}

theorem nil : AllWellFormed count [] := fun _ h => nomatch h

theorem append {a b : List Event} (ha : AllWellFormed count a) (hb : AllWellFormed count b) :
    AllWellFormed count (a ++ b) :=
  List.forall_mem_append.mpr ⟨ha, hb⟩

theorem cons {e : Event} {rest : List Event} (he : ∀ f, e.finding? = some f → f.WellFormed count)
    (hrest : AllWellFormed count rest) : AllWellFormed count (e :: rest) :=
  List.forall_mem_cons.mpr ⟨he, hrest⟩

theorem silent {e : Event} {rest : List Event} (he : e.finding? = none) (hrest : AllWellFormed count rest) :
    AllWellFormed count (e :: rest) :=
  hrest.cons fun f hf => by rw [he] at hf; cases hf

theorem report {f : Finding} {rest : List Event} (hf : f.WellFormed count) (hrest : AllWellFormed count rest) :
    AllWellFormed count (.report f :: rest) :=
  hrest.cons fun g hg => by cases hg; exact hf

/-- Reading a suppression comment may tell that it names no category, on its own line. -/
theorem suppress {text : Text} {n : Nat} {rest : List Event} (hn : n ≤ count + 1)
    (hrest : AllWellFormed count rest) : AllWellFormed count (.suppress text n :: rest) := by
  refine hrest.cons fun f hf => ?_
  obtain ⟨name, -, rfl⟩ := Option.map_eq_some_iff.mp hf
  exact Finding.wellFormed_of hn rfl ⟨Int.natCast_nonneg 5, Int.le_refl 5⟩

theorem of {n : Nat} {topics : List Category} {fs : List Finding} (h : Speak (UpTo n) topics fs)
    (hn : n ≤ count + 1) : AllWellFormed count (fs.map .report) := by
  intro e he f hf
  obtain ⟨g, hg, rfl⟩ := List.mem_map.mp he
  cases hf
  obtain ⟨⟨k, hk, hl⟩, hc, -⟩ := h f hg
  exact Finding.wellFormed_of (Nat.le_trans hk hn) hl hc

end AllWellFormed

/-! ## Lines -/

section

variable {c : Context} {s : Source} {count : Nat} (hs : s.size = count + 2) (hv : 0 ≤ c.settings.verbosity)
  (hextra : ∀ rule ∈ c.extra, ∀ n < s.size, AllWellFormed count (rule c.settings s n).events)

include hs hv hextra

theorem Told.allWellFormed {n : Nat} (hn : n < s.size) {events : List Event} (h : Told c s n events) :
    AllWellFormed count events := by
  induction h with
  | nothing => exact .nil
  | both _ _ iha ihb => exact iha.append ihb
  | spoken hk hl hr _ => exact .report (Finding.wellFormed_of (by omega) hl ⟨hr.2 hv, hr.1⟩) .nil
  | body hf =>
    rcases Rule.EmptyBody.findings_cases s n with h | ⟨k, -, hk, hspeak⟩
    · rw [h] at hf
      cases hf
    · have hlt := hk hn
      obtain ⟨hl, hc, -⟩ := hspeak _ hf
      exact .report (Finding.wellFormed_of (by omega) hl hc) .nil
  | semicolon =>
    rcases Rule.TrailingSemicolon.outcome_cases s n with h | ⟨k, message, -, hk, h⟩
    · rw [h]
      exact .nil
    · have hlt := hk hn
      have hreport : (⟨k, .readabilityBraces, 4, message⟩ : Finding).WellFormed count :=
        Finding.wellFormed_of (by omega) rfl ⟨Int.natCast_nonneg 4, Int.le_of_lt (Int.lt_succ 4)⟩
      rw [h]
      exact .suppress (by omega) (.suppress (by omega) (.report hreport .nil))
  | remark => exact .silent rfl .nil
  | extra hr => exact hextra _ hr n hn

theorem ToldFrom.allWellFormed {n : Nat} {events : List Event} (h : ToldFrom c s n events) :
    AllWellFormed count events := by
  induction h with
  | stop => exact .nil
  | line hn hh _ ih => exact (AllWellFormed.suppress (by omega) (hh.allWellFormed hs hv hextra hn)).append ih

end

/-! ## Header guards -/

variable {c : Context} {s : Source} {count : Nat}

theorem saidOf_allWellFormed {lines : List Text} (hl : lines.length = count + 2) {events : List Event}
    (h : HeaderGuard.SaidOf lines events) : AllWellFormed count events := by
  cases h with
  | nothing hn => exact .suppress (by omega) .nil
  | wrong hn hc message =>
    refine .suppress (by omega) (.report (Finding.wellFormed_of (by omega) rfl ?_) .nil)
    simp only
    omega

theorem spoken_allWellFormed {lines : List Text} (hl : lines.length = count + 2) {events : List Event}
    (h : HeaderGuard.Spoken lines events) : AllWellFormed count events := by
  induction h with
  | nothing => exact .nil
  | both _ _ iha ihb => exact iha.append ihb
  | remark => exact .silent rfl .nil
  | missing => exact .report (Finding.wellFormed_of (Nat.zero_le _) rfl ⟨Int.natCast_nonneg 5, Int.le_refl 5⟩) .nil
  | ofLine h => exact saidOf_allWellFormed hl h

/-! ## The whole file -/

theorem file_allWellFormed {given : List Text} (hv : 0 ≤ c.settings.verbosity)
    (hextra : ∀ rule ∈ c.extra, ∀ n < (sourceOf given).size,
      AllWellFormed given.length (rule c.settings (sourceOf given) n).events) :
    AllWellFormed given.length (file c given).events := by
  have hsize : (sourceOf given).size = given.length + 2 := Source.marked_size given
  obtain ⟨guard, told, last, hevents, hguard, htold, hlast⟩ := file_events c given
  have hpreface : AllWellFormed given.length (preface given) :=
    ((AllWellFormed.of ((Rule.WholeFile.copyright_speak _).upTo (Nat.zero_le 0)) (Nat.zero_le _)).append
      (.silent rfl .nil)).append (.of (Comment.unclosed_speak given) (Nat.le_refl _))
  rw [hevents]
  refine hpreface.append (.append ?_ ((htold.allWellFormed hsize hv hextra).append ?_))
  · rcases hguard with rfl | ⟨-, rfl⟩
    · exact .nil
    · refine spoken_allWellFormed ?_ (HeaderGuard.outcome_spoken _ _ _ (sourceOf_first given).1)
      rw [List.length_map, Array.length_toList]
      exact hsize
  · rcases hlast with rfl | ⟨-, fs, rfl, hfs⟩
    · exact .nil
    · exact .of hfs (Nat.le_refl _)

/-- Every finding of a file, told before a failure or not, has a listed category, a confidence from 0
to 5 and a line of the file or one of its marks, if the findings of the user's own rules have. So has
every finding on which a verdict is given. -/
theorem every_finding_is_well_formed (c : Context) (given : List Text) (hv : 0 ≤ c.settings.verbosity)
    (hextra : ∀ rule ∈ c.extra, ∀ n < (sourceOf given).size,
      AllWellFormed given.length (rule c.settings (sourceOf given) n).events) :
    (∀ e ∈ (file c given).events, ∀ f, e.finding? = some f → f.WellFormed given.length) ∧
    (∀ f shown, .verdict f shown ∈ (Suppressions.judge c.settings {} (file c given).events).entries →
      f.WellFormed given.length) := by
  have hall := file_allWellFormed hv hextra
  refine ⟨hall, fun f shown hverdict => ?_⟩
  obtain ⟨e, he, hf⟩ := Suppressions.judge_verdict hverdict
  exact hall e he f hf

/-- In a file of one line that opens a comment, the comment is reported on line 2, the last line there
can be. -/
theorem every_finding_is_well_formed_unclosed :
    .report (Comment.unclosed 2) ∈ (file plainFile ["/*".toList]).events ∧
    (Comment.unclosed 2).WellFormed 1 := by
  have hopen : Comment.unclosed 2 ∈ (Comment.blankAll (Source.marked ["/*".toList])).2 := by decide +kernel
  have htold : .report (Comment.unclosed 2) ∈ (file plainFile ["/*".toList]).events := by
    rw [file_events_preface]
    exact List.mem_append_left _ (List.mem_append_right _ (List.mem_map.mpr ⟨_, hopen, rfl⟩))
  exact ⟨htold, (every_finding_is_well_formed plainFile ["/*".toList] (by decide) nofun).1 _ htold _ rfl⟩

end Check

end StyleCheck
