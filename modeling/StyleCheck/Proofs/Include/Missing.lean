/-
  StyleCheck.Proofs.Include.Missing — which headers of the library a file is asked for.

  Nothing keeps a header of the library out of the table but that it is in the table already, so at the
  end the table holds it just if some line includes it and is remembered (`mem_table_iff`). Hence a file
  is never asked for a header that it includes on a line that is remembered to its end. But a line in a
  branch of a conditional is forgotten at the next branch, unless a conditional has been opened in between,
  and then the file is asked for what it includes (`headers_are_asked_for_only_if_forgotten`).
-/

import StyleCheck.Proofs.Bracket.Reading
import StyleCheck.Proofs.Check.Closing
import StyleCheck.Proofs.Include.Needed
import StyleCheck.Proofs.Include.Remembered
import StyleCheck.Proofs.Source.IncludeView

namespace StyleCheck

namespace IncludeLine

/-- A header that is neither a source file nor one from elsewhere is entered where it is new. -/
theorem header_enters {t : FileTree} {file : Text} {s : Source} {n : Nat} {inc : Include}
    {table table' : IncludeTable} {found : List Finding} (hsource : Text.endsWith inc.path ".cc".toList = false)
    (helsewhere : thirdPartyHeader.opens inc.path = false) (hnone : table.lineOf? inc.path = none)
    (hok : header t file s n inc table = .ok (table', found)) : ⟨inc.path, n⟩ ∈ table'.current := by
  have hforeign : isForeignSource t file inc.path = .ok false := by
    rw [isForeignSource, hsource, if_neg Bool.false_ne_true]
  have hentered : enter t file s n inc table = .ok (table', found) := by
    simpa [header, hnone, hforeign, helsewhere, bind, Except.bind] using hok
  rw [(enter_groups hentered).2]
  simp

end IncludeLine

namespace Check

open Required (Own)
open StyleCheck.Module (Brings)

/-! ## The table at the end -/

section

variable {c : Context} {s : Source} {path : Text}

theorem Includes.lt_size {m : Nat} (h : Includes s m path) : m < s.size := by
  refine Nat.lt_of_not_le fun hle => ?_
  have := h.directive
  rw [includesHeader, Bracket.elided_of_size_le hle] at this
  cases this

/-- If all lines have been read, none of them has failed. -/
theorem line_read (hlines : (lines c s (before c s 0) 0 s.size).2.failure = none) {m : Nat} (hm : m < s.size) :
    (line c s (before c s m) m).2.failure = none := by
  have hfails := (accounts_lines (P := fun i e => (line c s (before c s i) i).2.failure = some e)
    (fun i => .self _) 0 s.size).eq_none_iff.mp hlines
  exact Option.eq_none_iff_forall_ne_some.mpr fun e he => hfails e ⟨m, Nat.zero_le m, by omega, he⟩

theorem language_read {m : Nat} (hcode : IsCode s m) (hread : (line c s (before c s m) m).2.failure = none) :
    (language c s (before c s m).includes m).2.failure = none := by
  have hnesting : ((before c s m).nesting.update s m).1.inAssembly = false := by
    rw [before_nesting]
    exact hcode
  rw [line_failure, hnesting, if_neg Bool.false_ne_true, code_failure, Option.or_eq_none_iff,
    Option.or_eq_none_iff] at hread
  exact hread.2.1

/-- A header of the library is entered where it is included and not remembered. -/
theorem Includes.enters (hpath : path ∈ Required.headers) {m : Nat} (hinc : Includes s m path)
    (hnone : (before c s m).includes.lineOf? path = none) (hread : (line c s (before c s m) m).2.failure = none) :
    Enters c s m path := by
  have hplain : ∀ path ∈ Required.headers,
      Text.endsWith path ".cc".toList = false ∧ thirdPartyHeader.opens path = false := by decide +kernel
  obtain ⟨hcode, hline, inc, hheader, rfl⟩ := hinc
  have hlanguage := language_eq_update c (before c s m).includes hline
  have hupdate : (IncludeLine.update c.tree c.file s m (before c s m).includes).2.failure = none := by
    have := language_read hcode hread
    rwa [hlanguage] at this
  unfold Enters
  rw [before_includes_of_code c hcode, hlanguage]
  unfold IncludeLine.update at hupdate ⊢
  simp only [hheader] at hupdate ⊢
  split at hupdate
  · simp at hupdate
  · rename_i hok
    exact IncludeLine.header_enters (hplain _ hpath).1 (hplain _ hpath).2 hnone hok

/-- At the end the table holds the headers of the library that some line includes and that are remembered. -/
theorem mem_table_iff (hpath : path ∈ Required.headers)
    (hlines : (lines c s (before c s 0) 0 s.size).2.failure = none) :
    (∃ e ∈ (before c s s.size).includes.entries, e.path = path) ↔ ∃ m, Includes s m path ∧ Remembered s m s.size := by
  constructor
  · rintro ⟨e, he, rfl⟩
    obtain ⟨m, -, -, henters, hr⟩ := mem_entries_iff.mp he
    exact ⟨m, henters.cases.1, hr⟩
  · rintro ⟨m, hinc, hr⟩
    have hm := hinc.lt_size
    cases hold : (before c s m).includes.lineOf? path with
    | none =>
      have henters := hinc.enters hpath hold (line_read hlines hm)
      exact ⟨⟨path, m⟩, mem_entries_iff.mpr ⟨m, rfl, hm, henters, hr⟩, rfl⟩
    | some line =>
      -- an earlier line has entered it, and is remembered over this one
      obtain ⟨k, -, hk, henters, hrk⟩ := mem_entries_iff.mp (IncludeTable.lineOf?_eq_some hold)
      have hend : Remembered s k s.size := by
        intro j hkj hj hswitch
        by_cases hjm : j < m
        · exact hrk j hkj hjm hswitch
        · have hne : j ≠ m := by
            rintro rfl
            have := hinc.directive
            rw [includesHeader, Include.ofLine?_of_condition hswitch.2] at this
            cases this
          obtain ⟨o, hmo, ho, hopens⟩ := hr j (by omega) hj hswitch
          exact ⟨o, by omega, ho, hopens⟩
      exact ⟨⟨path, k⟩, mem_entries_iff.mpr ⟨k, rfl, by omega, henters, hend⟩, rfl⟩

end

/-! ## Requests -/

def AsksFor (events : List Event) (path : Text) : Prop :=
  ∃ e ∈ events, ∃ f, e.finding? = some f ∧ Required.Asks path f

/-- The header is used and not provided, and no line that includes it is remembered. -/
structure Missing (c : Context) (s : Source) (path : Text) : Prop where
  used : ∃ n < s.size, ∃ u ∈ Required.uses (s.elided n), u.header = Required.bracketed path
  forgotten : ∀ m, Includes s m path → ¬ Remembered s m s.size
  /-- No header of the module of the file includes it. -/
  notBrought : ∀ m header, Enters c s m header → Remembered s m s.size →
    ∀ text, Own c.tree (Required.modulePath c.tree c.file) header text → ¬ Brings text path
  /-- If the file is a source file, a header of its module could be read. -/
  readable : Text.endsWith c.file ".cc".toList = true → ∃ m header text,
    Enters c s m header ∧ Remembered s m s.size ∧ Own c.tree (Required.modulePath c.tree c.file) header text

theorem missing_iff {c : Context} {s : Source} {path : Text} (hpath : path ∈ Required.headers)
    (hlines : (lines c s (before c s 0) 0 s.size).2.failure = none) :
    Missing c s path ↔ Required.Needed c.tree c.file s (before c s s.size).includes path := by
  have htable := mem_table_iff hpath hlines
  constructor
  · intro h
    refine ⟨h.used, ?_, ?_, ?_⟩
    · intro e he heq
      obtain ⟨m, hinc, hr⟩ := htable.mp ⟨e, he, heq⟩
      exact h.forgotten m hinc hr
    · intro e he
      obtain ⟨m, -, -, henters, hr⟩ := mem_entries_iff.mp he
      exact h.notBrought m e.path henters hr
    · intro hcc
      obtain ⟨m, header, text, henters, hr, hown⟩ := h.readable hcc
      have hm := henters.cases.1.lt_size
      exact ⟨⟨header, m⟩, mem_entries_iff.mpr ⟨m, rfl, hm, henters, hr⟩, text, hown⟩
  · intro h
    refine ⟨h.used, ?_, ?_, ?_⟩
    · intro m hinc hr
      obtain ⟨e, he, heq⟩ := htable.mpr ⟨m, hinc, hr⟩
      exact h.absent e he heq
    · intro m header henters hr
      have hm := henters.cases.1.lt_size
      exact h.notBrought ⟨header, m⟩ (mem_entries_iff.mpr ⟨m, rfl, hm, henters, hr⟩)
    · intro hcc
      obtain ⟨e, he, text, hown⟩ := h.readable hcc
      obtain ⟨m, -, -, henters, hr⟩ := mem_entries_iff.mp he
      exact ⟨m, e.path, text, henters, hr, hown⟩

section

variable {c : Context} {given : List Text} {path : Text}

/-- A file is asked only for headers that are missing. -/
theorem missing_of_asksFor (hpath : path ∈ Required.headers)
    (hextra : ∀ rule ∈ c.extra, ∀ n, Silent (rule c.settings (sourceOf given) n).events)
    (h : AsksFor (file c given).events path) : Missing c (sourceOf given) path := by
  obtain ⟨e, he, f, hf, hasks⟩ := h
  have hcategory := hasks.1
  obtain ⟨hlines, hend⟩ := told_at_end hextra he hf (by rw [hcategory]; decide)
  rcases closing_cases hend hf with hother | ⟨-, htold⟩ | ⟨hother, -⟩
  · rw [hcategory] at hother
    exact absurd hother (by decide)
  · obtain ⟨fs, hevents, -⟩ := Required.outcome_tells c.tree c.file
      (before c (sourceOf given) (sourceOf given).size).includes (Nat.le_succ (sourceOf given).size)
    have hreport : e = .report f := by
      rw [hevents] at htold
      obtain ⟨g, -, rfl⟩ := List.mem_map.mp htold
      cases hf
      rfl
    rw [hreport] at htold
    exact (missing_iff hpath hlines).mpr ((Required.outcome_asks_iff _ _ _ _ hpath).mp ⟨f, htold, hasks⟩).2
  · rw [hcategory] at hother
    exact absurd hother (by decide)

/-- A file that is checked to its end is asked for all headers that are missing. -/
theorem asksFor_of_missing (hpath : path ∈ Required.headers) (hends : (file c given).failure = none)
    (h : Missing c (sourceOf given) path) : AsksFor (file c given).events path := by
  obtain ⟨hlines, hnone, htold⟩ := mem_file_of_ending hends
  have hrule : (Required.outcome c.tree c.file (sourceOf given)
      (before c (sourceOf given) (sourceOf given).size).includes).failure = none := by
    simp only [closing, ending, Outcome.sequence_cons_failure, Option.or_eq_none_iff] at hnone
    exact hnone.2.1
  obtain ⟨f, hf, hasks⟩ := (Required.outcome_asks_iff _ _ _ _ hpath).mpr ⟨hrule, (missing_iff hpath hlines).mp h⟩
  refine ⟨.report f, htold _ ?_, f, rfl, hasks⟩
  exact Outcome.mem_sequence_of_none hnone (by simp) hf

end

/-- Whether a file is asked for a header of the library. A line that reads as an include line includes its
header, whatever comments follow. If a line that includes the header is remembered to the end of the file,
the file is not asked for it. A file that is checked to its end is asked for it just if it is missing. -/
theorem headers_are_asked_for_only_if_forgotten (c : Context) (given : List Text) {path : Text}
    (hpath : path ∈ Required.headers)
    (hextra : ∀ rule ∈ c.extra, ∀ n, Silent (rule c.settings (sourceOf given) n).events) :
    (∀ m inc, IsCode (sourceOf given) m → Include.ofLine? ((sourceOf given).plain m) = some inc → inc.path = path →
      Includes (sourceOf given) m path) ∧
    (∀ m, Includes (sourceOf given) m path → Remembered (sourceOf given) m (sourceOf given).size →
      ¬ AsksFor (file c given).events path) ∧
    ((file c given).failure = none → (AsksFor (file c given).events path ↔ Missing c (sourceOf given) path)) := by
  refine ⟨?_, ?_, ?_⟩
  · intro m inc hcode hinc heq
    have hslash : ∀ path ∈ Required.headers, '/' ∉ path := by decide +kernel
    obtain ⟨hview, helided⟩ := Source.ofLine?_views hinc (heq ▸ hslash path hpath)
    exact ⟨hcode, by rw [includesHeader]; exact Option.isSome_of_eq_some helided, inc, hview, heq⟩
  · intro m hinc hr hasks
    exact (missing_of_asksFor hpath hextra hasks).forgotten m hinc hr
  · intro hends
    exact ⟨missing_of_asksFor hpath hextra, asksFor_of_missing hpath hends⟩

def looseFile : Context := { plainFile with file := "foo.cpp".toList, extension := "cpp".toList }

def firstBranch : List Text :=
  ["#if A".toList, "#include <string>".toList, "#else".toList, "#endif".toList, "std::string s;".toList]

/-- The header is asked for, since the second branch has made it forgotten. -/
theorem headers_are_asked_for_only_if_forgotten_firstBranch :
    ("string".toList ∈ Required.headers ∧
      (∀ rule ∈ looseFile.extra, ∀ n, Silent (rule looseFile.settings (sourceOf firstBranch) n).events) ∧
      (file looseFile firstBranch).failure = none) ∧
    Includes (sourceOf firstBranch) 2 "string".toList ∧
    AsksFor (file looseFile firstBranch).events "string".toList := by
  have hpath : "string".toList ∈ Required.headers := by decide +kernel
  have hextra : ∀ rule ∈ looseFile.extra, ∀ n,
      Silent (rule looseFile.settings (sourceOf firstBranch) n).events := nofun
  have hends : (file looseFile firstBranch).failure = none := by decide +kernel
  obtain ⟨hline, hcode, hswitches, hsize, honly, hused⟩ :
      Include.ofLine? ((sourceOf firstBranch).plain 2) = some ⟨true, "string".toList⟩ ∧
      IsCode (sourceOf firstBranch) 2 ∧ Switches (sourceOf firstBranch) 3 ∧ (sourceOf firstBranch).size = 7 ∧
      (∀ m < 7, includesHeader (sourceOf firstBranch) m = true → m = 2) ∧
      ⟨"<string>".toList, "string".toList⟩ ∈ Required.uses ((sourceOf firstBranch).elided 5) := by
    unfold Switches IsCode
    decide +kernel
  obtain ⟨hincludes, -, hasks⟩ := headers_are_asked_for_only_if_forgotten looseFile firstBranch hpath hextra
  have hinc : Includes (sourceOf firstBranch) 2 "string".toList := hincludes 2 _ hcode hline rfl
  refine ⟨⟨hpath, hextra, hends⟩, hinc, (hasks hends).mpr ⟨?_, ?_, ?_, ?_⟩⟩
  · exact ⟨5, by omega, _, hused, rfl⟩
  · intro m hm hr
    have hlt := hm.lt_size
    rw [hsize] at hlt
    obtain rfl := honly m hlt hm.directive
    obtain ⟨o, h2, h3, -⟩ := hr 3 (by omega) (by omega) hswitches
    omega
  · rintro m header - - text ⟨lead, -, htext⟩
    cases htext
  · intro hcc
    exact absurd hcc (by decide +kernel)

end Check

end StyleCheck
