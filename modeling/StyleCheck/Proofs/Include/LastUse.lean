/-
  StyleCheck.Proofs.Include.LastUse — a missing header is asked for once, where it is used last.

  The needs of a file are gathered line by line. A use takes the place of an earlier use of the same header,
  so that no header is needed twice and the line of a need is the last one so far (`Noted`, kept by every line
  in `Noted.line`). Templates are looked for only on lines with an angle bracket; as no template is written
  without one (`bracket_of_usedIn`), every line uses the same names as if all were looked for (`allUses_eq`).
-/

import Mathlib.Data.List.Nodup
import StyleCheck.Proofs.Include.Needed

namespace StyleCheck.Required

open StyleCheck.Module (Brings)

/-! ## Names that are looked for -/

def allNames : List Name := stringName :: functionNames ++ templateNames

/-- The names that a line uses if all names are looked for on every line. -/
def allUses (line : Text) : List Use :=
  if line.isEmpty || line.head? == some '#' then [] else (allNames.filter fun n => n.usedIn line).map (·.use)

/-- The line is code, and one of the names that come from the header is found on it. -/
def Recognised (path line : Text) : Prop :=
  line ≠ [] ∧ line.head? ≠ some '#' ∧ ∃ n ∈ allNames, n.use.header = bracketed path ∧ n.usedIn line = true

/-- A template is written with an angle bracket. -/
theorem bracket_of_usedIn {n : Name} (hn : n ∈ templateNames) {line : Text} (h : n.usedIn line = true) :
    '<' ∈ line := by
  obtain ⟨entry, -, hmem⟩ := List.mem_flatMap.mp hn
  obtain ⟨member, -, rfl⟩ := List.mem_map.mp hmem
  unfold Name.usedIn at h
  split at h
  · cases h
  · rename_i m hm
    rw [Pattern.search?_eq] at hm
    have hpossible := Pattern.possible_of_searchFrom? hm
    -- the bracket is the last part of the pattern
    obtain ⟨c, hc, hbracket⟩ := List.any_eq_true.mp (Bool.and_eq_true_iff.mp hpossible).2
    have heq : c = '<' := List.mem_singleton.mp (List.contains_iff_mem.mp hbracket)
    exact heq ▸ hc

theorem allUses_eq (line : Text) : allUses line = uses line := by
  unfold allUses uses allNames candidates
  by_cases hbracket : '<' ∈ line
  · rw [if_pos (List.contains_iff_mem.mpr hbracket)]
  · have hnone : templateNames.filter (fun n => n.usedIn line) = [] := by
      rw [List.filter_eq_nil_iff]
      intro n hn hused
      exact hbracket (bracket_of_usedIn hn hused)
    rw [if_neg (mt List.contains_iff_mem.mp hbracket), List.filter_append, hnone, List.append_nil, List.append_nil]

theorem recognised_iff {path line : Text} : Recognised path line ↔ ∃ u ∈ uses line, u.header = bracketed path := by
  rw [← allUses_eq]
  unfold Recognised allUses
  constructor
  · rintro ⟨hline, hsign, n, hn, hheader, hused⟩
    rw [if_neg (by simp [hline, hsign])]
    exact ⟨n.use, List.mem_map.mpr ⟨n, List.mem_filter.mpr ⟨hn, hused⟩, rfl⟩, hheader⟩
  · rintro ⟨u, hu, hheader⟩
    split at hu
    · cases hu
    · rename_i hcode
      obtain ⟨n, hn, rfl⟩ := List.mem_map.mp hu
      obtain ⟨hn, hused⟩ := List.mem_filter.mp hn
      simp only [Bool.or_eq_true, List.isEmpty_iff, beq_iff_eq, not_or] at hcode
      exact ⟨hcode.1, hcode.2, n, hn, hheader, hused⟩

/-! ## Needs line by line -/

section

variable {line : Nat} {u : Use} {found : List Need}

/-- A use takes the place of an earlier use of its header. -/
theorem note_replaces (hfound : (found.map (·.header)).Nodup) {need : Need} (h : need ∈ note line u found) :
    need = ⟨u.header, line, u.name⟩ ∨ need ∈ found ∧ need.header ≠ u.header := by
  induction found with
  | nil => exact .inl (List.mem_singleton.mp h)
  | cons first rest ih =>
    obtain ⟨hfirst, hrest⟩ := List.nodup_cons.mp hfound
    unfold note at h
    split at h
    · rename_i hsame
      rcases List.mem_cons.mp h with h | h
      · exact .inl h
      · refine .inr ⟨List.mem_cons_of_mem _ h, fun heq => hfirst ?_⟩
        exact List.mem_map.mpr ⟨need, h, heq.trans (eq_of_beq hsame).symm⟩
    · rename_i hother
      rcases List.mem_cons.mp h with rfl | h
      · exact .inr ⟨List.mem_cons_self, fun heq => hother (beq_iff_eq.mpr heq)⟩
      · rcases ih hrest h with h | ⟨h, hne⟩
        · exact .inl h
        · exact .inr ⟨List.mem_cons_of_mem _ h, hne⟩

theorem nodup_note (line : Nat) (u : Use) (hfound : (found.map (·.header)).Nodup) :
    ((note line u found).map (·.header)).Nodup := by
  induction found with
  | nil => exact List.nodup_cons.mpr ⟨nofun, List.nodup_nil⟩
  | cons first rest ih =>
    obtain ⟨hfirst, hrest⟩ := List.nodup_cons.mp hfound
    unfold note
    split
    · rename_i hsame
      rw [List.map_cons, ← eq_of_beq hsame]
      exact hfound
    · rename_i hother
      refine List.nodup_cons.mpr ⟨?_, ih hrest⟩
      intro hmem
      obtain ⟨need, hneed, hheader⟩ := List.mem_map.mp hmem
      rcases note_iff.mp ⟨need, hneed, hheader⟩ with ⟨old, hold, heq⟩ | heq
      · exact hfirst (heq ▸ List.mem_map_of_mem hold)
      · exact hother (beq_iff_eq.mpr heq.symm)

/-- After the uses of one line a need is as it was, unless the line uses its header. -/
theorem foldl_note (line : Nat) (us : List Use) (hfound : (found.map (·.header)).Nodup) :
    ((us.foldl (fun found u => note line u found) found).map (·.header)).Nodup ∧
    ∀ need ∈ us.foldl (fun found u => note line u found) found,
      (need ∈ found ∧ ∀ u ∈ us, u.header ≠ need.header) ∨ need.line = line ∧ ∃ u ∈ us, u.header = need.header := by
  induction us generalizing found with
  | nil => exact ⟨hfound, fun need hneed => .inl ⟨hneed, nofun⟩⟩
  | cons u us ih =>
    obtain ⟨hdistinct, hneeds⟩ := ih (nodup_note line u hfound)
    refine ⟨hdistinct, fun need hneed => ?_⟩
    rcases hneeds need hneed with ⟨hmem, hnot⟩ | ⟨hline, v, hv, hheader⟩
    · rcases note_replaces hfound hmem with rfl | ⟨hold, hne⟩
      · exact .inr ⟨rfl, u, List.mem_cons_self, rfl⟩
      · exact .inl ⟨hold, List.forall_mem_cons.mpr ⟨hne.symm, hnot⟩⟩
    · exact .inr ⟨hline, v, List.mem_cons_of_mem u hv, hheader⟩

end

/-- The needs of the lines above line `k`: every header once, with the last line that uses it. -/
structure Noted (s : Source) (k : Nat) (found : List Need) : Prop where
  distinct : (found.map (·.header)).Nodup
  used : ∀ need ∈ found, need.line < k ∧ ∃ u ∈ uses (s.elided need.line), u.header = need.header
  last : ∀ need ∈ found, ∀ m, need.line < m → m < k → ∀ u ∈ uses (s.elided m), u.header ≠ need.header

theorem Noted.line {s : Source} {k : Nat} {found : List Need} (h : Noted s k found) :
    Noted s (k + 1) ((uses (s.elided k)).foldl (fun found u => note k u found) found) := by
  obtain ⟨hdistinct, hneeds⟩ := foldl_note k (uses (s.elided k)) h.distinct
  refine ⟨hdistinct, ?_, ?_⟩
  · intro need hneed
    rcases hneeds need hneed with ⟨hold, -⟩ | ⟨hline, hu⟩
    · obtain ⟨hlt, hu⟩ := h.used need hold
      exact ⟨by omega, hu⟩
    · rw [hline]
      exact ⟨by omega, hu⟩
  · intro need hneed m hm hmk
    rcases hneeds need hneed with ⟨hold, hnot⟩ | ⟨hline, -⟩
    · by_cases hlast : m = k
      · rw [hlast]
        exact hnot
      · exact h.last need hold m hm (by omega)
    · omega

theorem noted_needs (s : Source) : Noted s s.size (needs uses s) := by
  have hlines (k : Nat) : Noted s k ((List.range k).foldl
      (fun found n => (uses (s.elided n)).foldl (fun found u => note n u found) found) []) := by
    induction k with
    | zero => exact ⟨List.nodup_nil, nofun, nofun⟩
    | succ k ih =>
      rw [List.range_succ, List.foldl_append]
      exact ih.line
  exact hlines s.size

/-! ## Requests -/

structure LastUse (s : Source) (path : Text) (n : Nat) : Prop where
  lt_size : n < s.size
  recognised : Recognised path (s.elided n)
  last : ∀ m, n < m → m < s.size → ¬ Recognised path (s.elided m)

theorem lastUse_of_mem_needs {s : Source} {path : Text} {need : Need} (hneed : need ∈ needs uses s)
    (hheader : need.header = bracketed path) : LastUse s path need.line := by
  obtain ⟨-, hused, hlast⟩ := noted_needs s
  obtain ⟨hlt, u, hu, hsame⟩ := hused need hneed
  refine ⟨hlt, recognised_iff.mpr ⟨u, hu, hsame.trans hheader⟩, ?_⟩
  intro m hm hsize hagain
  obtain ⟨v, hv, hsame⟩ := recognised_iff.mp hagain
  exact hlast need hneed m hm hsize v hv (hsame.trans hheader.symm)

def AsksOnce (events : List Event) (path : Text) (f : Finding) : Prop :=
  Asks path f ∧ ∃ before after, events = before ++ .report f :: after ∧
    ∀ g, Event.report g ∈ before ++ after → ¬ Asks path g

def Provides (t : FileTree) (file : Text) (table : IncludeTable) (path : Text) : Prop :=
  ∃ e ∈ table.entries, e.path = path ∨ ∃ text, Own t (modulePath t file) e.path text ∧ Brings text path

/-- The search for missing headers comes to its end: it does not fail, and for a source file a header of its
module has been read. -/
structure Reports (t : FileTree) (file : Text) (s : Source) (table : IncludeTable) : Prop where
  ends : (outcome t file s table).failure = none
  readable : Text.endsWith file ".cc".toList = true → ∃ e ∈ table.entries, ∃ text, Own t (modulePath t file) e.path text

section

variable {t : FileTree} {file : Text} {s : Source} {table : IncludeTable} {path : Text}

theorem needed_iff (h : Reports t file s table) :
    Needed t file s table path ↔ (∃ n < s.size, Recognised path (s.elided n)) ∧ ¬ Provides t file table path := by
  simp only [recognised_iff]
  constructor
  · intro hneeded
    refine ⟨hneeded.used, ?_⟩
    rintro ⟨e, he, heq | ⟨text, hown, hbrings⟩⟩
    · exact hneeded.absent e he heq
    · exact hneeded.notBrought e he text hown hbrings
  · rintro ⟨hused, hnot⟩
    refine ⟨hused, ?_, ?_, h.readable⟩
    · intro e he heq
      exact hnot ⟨e, he, .inl heq⟩
    · intro e he text hown hbrings
      exact hnot ⟨e, he, .inr ⟨text, hown, hbrings⟩⟩

/-- All that is told are the findings for some of the needs. -/
theorem outcome_events (t : FileTree) (file : Text) (s : Source) (table : IncludeTable) :
    ∃ missing : List Need, missing.Sublist (needs uses s) ∧
      (outcome t file s table).events = missing.map fun need => Event.report need.finding := by
  unfold outcome outcomeBy
  simp only
  split
  · exact ⟨[], List.nil_sublist _, rfl⟩
  · split
    · exact ⟨[], List.nil_sublist _, rfl⟩
    · exact ⟨_, List.filter_sublist, List.map_map⟩

theorem asksOnce_of_asks (hpath : path ∈ headers) {f : Finding}
    (hf : Event.report f ∈ (outcome t file s table).events) (hasks : Asks path f) :
    AsksOnce (outcome t file s table).events path f ∧ ∃ n : Nat, f.line = n ∧ LastUse s path n := by
  obtain ⟨missing, hsub, hevents⟩ := outcome_events t file s table
  rw [hevents] at hf ⊢
  obtain ⟨need, hneed, heq⟩ := List.mem_map.mp hf
  obtain rfl := Event.report.inj heq
  have hasks_iff {other : Need} (hother : other ∈ missing) :
      Asks path other.finding ↔ other.header = bracketed path := by
    obtain ⟨-, u, hu, hsame⟩ := (noted_needs s).used other (hsub.subset hother)
    exact finding_asks_iff hpath (hsame ▸ uses_header hu)
  have hheader := (hasks_iff hneed).mp hasks
  refine ⟨⟨hasks, ?_⟩, need.line, rfl, lastUse_of_mem_needs (hsub.subset hneed) hheader⟩
  obtain ⟨before, after, rfl⟩ := List.append_of_mem hneed
  refine ⟨_, _, List.map_append, ?_⟩
  intro g hg hagain
  rw [← List.map_append] at hg
  obtain ⟨other, hother, heq⟩ := List.mem_map.mp hg
  obtain rfl := Event.report.inj heq
  have hmem : other ∈ before ++ need :: after := by
    rcases List.mem_append.mp hother with h | h
    · exact List.mem_append_left _ h
    · exact List.mem_append_right _ (List.mem_cons_of_mem _ h)
  -- no header is needed twice, so another need is one of another header
  have hdistinct := ((hsub.map (·.header)).nodup (noted_needs s).distinct)
  rw [List.map_append, List.map_cons, List.nodup_middle, List.nodup_cons, ← List.map_append] at hdistinct
  apply hdistinct.1
  rw [hheader, ← (hasks_iff hmem).mp hagain]
  exact List.mem_map_of_mem hother

end

/-- A header of the library is asked for just if a line of code uses it and neither the file nor a header of its
module includes it. It is then asked for once, at the last line that uses it. That templates are looked for on
some lines only makes no difference. -/
theorem missing_headers_are_told_once_at_last_use (t : FileTree) (file : Text) (s : Source) (table : IncludeTable)
    (hreports : Reports t file s table) {path : Text} (hpath : path ∈ headers) :
    ((∃ f, Event.report f ∈ (outcome t file s table).events ∧ Asks path f) ↔
      (∃ n < s.size, Recognised path (s.elided n)) ∧ ¬ Provides t file table path) ∧
    (∀ f, Event.report f ∈ (outcome t file s table).events → Asks path f →
      AsksOnce (outcome t file s table).events path f ∧ ∃ n : Nat, f.line = n ∧ LastUse s path n) ∧
    outcomeBy allUses t file s table = outcome t file s table := by
  refine ⟨?_, ?_, ?_⟩
  · rw [outcome_asks_iff t file s table hpath, needed_iff hreports]
    exact and_iff_right hreports.ends
  · intro f hf hasks
    exact asksOnce_of_asks hpath hf hasks
  · rw [funext allUses_eq, outcome]

def withHeader : FileTree where
  here := "/proj".toList
  files := [("/proj/foo.cc".toList, some []), ("/proj/foo.h".toList, some "#include <vector>\n".toUTF8.toList)]

def ownHeader : IncludeTable := IncludeTable.add {} "foo.h".toList 0

def strings : Source :=
  Source.ofLines ["#include \"foo.h\"".toList, "std::string a;".toList, "std::vector<std::string> b;".toList,
    "int c;".toList]

/-- The header for strings is asked for at the second line; that for the template has been read. -/
theorem missing_headers_are_told_once_at_last_use_strings :
    (Reports withHeader "foo.cc".toList strings ownHeader ∧ "string".toList ∈ headers ∧ "vector".toList ∈ headers) ∧
    (∃ f, AsksOnce (outcome withHeader "foo.cc".toList strings ownHeader).events "string".toList f ∧ f.line = 2) ∧
    ¬ ∃ f, Event.report f ∈ (outcome withHeader "foo.cc".toList strings ownHeader).events ∧ Asks "vector".toList f := by
  obtain ⟨hstring, hvector⟩ : "string".toList ∈ headers ∧ "vector".toList ∈ headers := by decide +kernel
  have hentries : ownHeader.entries = [⟨"foo.h".toList, 0⟩] := rfl
  have hlead : Module.lead? withHeader (modulePath withHeader "foo.cc".toList) "foo.h".toList
      = .ok (some "/proj/".toList) := by decide +kernel
  have htext : withHeader.text? ("/proj/".toList ++ "foo.h".toList) = some "#include <vector>\n".toList := by
    decide +kernel
  have hown : Own withHeader (modulePath withHeader "foo.cc".toList) "foo.h".toList "#include <vector>\n".toList :=
    ⟨_, hlead, htext⟩
  have hlines : Text.brokenLines "#include <vector>\n".toList = ["#include <vector>\n".toList] ∧
      Include.ofLine? (Comment.drop "#include <vector>\n".toList) = some ⟨true, "vector".toList⟩ := by decide +kernel
  have hreports : Reports withHeader "foo.cc".toList strings ownHeader :=
    ⟨by decide +kernel, fun _ => ⟨_, hentries ▸ List.mem_singleton_self _, _, hown⟩⟩
  have huse : ⟨"<string>".toList, "string".toList⟩ ∈ uses (strings.elided 2) ∧ uses (strings.elided 3) = [] ∧
      strings.size = 4 := by decide +kernel
  have hused : Recognised "string".toList (strings.elided 2) := recognised_iff.mpr ⟨_, huse.1, rfl⟩
  have hlater : ¬ Recognised "string".toList (strings.elided 3) := by
    rw [recognised_iff, huse.2.1]
    exact nofun
  obtain ⟨hasked, honce, -⟩ :=
    missing_headers_are_told_once_at_last_use withHeader "foo.cc".toList strings ownHeader hreports hstring
  obtain ⟨hnotAsked, -⟩ :=
    missing_headers_are_told_once_at_last_use withHeader "foo.cc".toList strings ownHeader hreports hvector
  refine ⟨⟨hreports, hstring, hvector⟩, ?_, ?_⟩
  · have hmissing : ¬ Provides withHeader "foo.cc".toList ownHeader "string".toList := by
      rintro ⟨e, he, hprovides⟩
      rw [hentries, List.mem_singleton] at he
      subst he
      rcases hprovides with hpath | ⟨text, ⟨lead, hlead', htext'⟩, line, hline, inc, hinc, hpath⟩
      · exact absurd hpath (by decide)
      · obtain rfl : "/proj/".toList = lead := by
          rw [hlead] at hlead'
          exact Option.some.inj (Except.ok.inj hlead')
        obtain rfl := Option.some.inj (htext.symm.trans htext')
        rw [hlines.1, List.mem_singleton] at hline
        rw [hline, hlines.2] at hinc
        obtain rfl := Option.some.inj hinc
        exact absurd hpath (by decide)
    obtain ⟨f, hf, hasks⟩ := hasked.mpr ⟨⟨2, by rw [huse.2.2]; decide, hused⟩, hmissing⟩
    obtain ⟨hfonce, n, hline, hlt, hrecognised, hlast⟩ := honce f hf hasks
    refine ⟨f, hfonce, ?_⟩
    have hthree : n ≠ 3 := fun heq => hlater (heq ▸ hrecognised)
    have htwo : ¬ n < 2 := fun hn => hlast 2 hn (by omega) hused
    omega
  · rw [hnotAsked]
    rintro ⟨-, hnot⟩
    refine hnot ⟨_, hentries ▸ List.mem_singleton_self _, .inr ⟨_, hown, _, ?_, _, hlines.2, rfl⟩⟩
    rw [hlines.1]
    exact List.mem_singleton_self _

end StyleCheck.Required
