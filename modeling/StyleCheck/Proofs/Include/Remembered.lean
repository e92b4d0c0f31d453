/-
  StyleCheck.Proofs.Include.Remembered — which headers are remembered, and for how long.

  A header is entered in the last group of the table. Line by line a conditional that is opened begins a
  new group, an alternative empties the last one, and nothing else changes the groups (`groups_cases`).
  So a header is forgotten at the first alternative after it, unless a conditional has been opened in
  between; then it is remembered to the end of the file, for its group is not the last one any more
  (`mem_entries_iff`).

  An include line is reported as a duplicate just if its header is remembered from a line above. Of a
  conditional that encloses both lines there may be an alternative between them only where another
  conditional has been opened before it (`duplicates_are_remembered`): in branches without conditionals
  of their own, headers are never duplicates of each other.
-/

import Mathlib.Data.Nat.Find
import StyleCheck.Proofs.Check.Completion
import StyleCheck.Proofs.Nesting.Conditional
import StyleCheck.Proofs.Rule.Speech

namespace StyleCheck

/-! ## The groups of the table -/

namespace IncludeTable

theorem mem_entries {t : IncludeTable} {e : IncludeEntry} :
    e ∈ t.entries ↔ e ∈ t.earlier.flatten ∨ e ∈ t.current := by
  simp [entries, groups]

theorem lineOf?_eq_some {t : IncludeTable} {path : Text} {line : Int} (h : t.lineOf? path = some line) :
    ⟨path, line⟩ ∈ t.entries := by
  obtain ⟨e, he, rfl⟩ := Option.map_eq_some_iff.mp h
  have hpath : e.path = path := by simpa using List.find?_some he
  have hmem := List.mem_of_find?_eq_some he
  rwa [← hpath]

theorem lineOf?_of_mem {t : IncludeTable} {e : IncludeEntry} (h : e ∈ t.entries) :
    ∃ line, t.lineOf? e.path = some line := by
  cases hf : t.entries.find? (fun e' => e'.path == e.path) with
  | none => simpa using List.find?_eq_none.mp hf e h
  | some e' => exact ⟨e'.line, by simp [lineOf?, hf]⟩

theorem lineOf?_eq_none_iff {t : IncludeTable} {path : Text} :
    t.lineOf? path = none ↔ ∀ e ∈ t.entries, e.path ≠ path := by
  simp [lineOf?]

theorem proceed_groups (t : IncludeTable) (kind : HeaderKind) :
    (t.proceed kind).1.earlier = t.earlier ∧ (t.proceed kind).1.current = t.current := by
  unfold proceed
  split
  · exact ⟨rfl, rfl⟩
  · simp only
    split <;> exact ⟨rfl, rfl⟩

end IncludeTable

namespace IncludeLine

variable {t : FileTree} {file : Text} {s : Source} {n : Nat} {inc : Include} {table table' : IncludeTable}
  {found : List Finding}

theorem enter_groups (hok : enter t file s n inc table = .ok (table', found)) :
    table'.earlier = table.earlier ∧ table'.current = table.current ++ [⟨inc.path, n⟩] := by
  unfold enter at hok
  simp only [bind, Except.bind, pure, Except.pure] at hok
  split at hok
  · cases hok
  · rename_i kind _
    split at hok
    · cases hok
    · cases hok
      exact (table.add inc.path n).proceed_groups kind

/-- A header is entered in the last group, if it is not there already. -/
theorem header_groups (hok : header t file s n inc table = .ok (table', found)) :
    table'.earlier = table.earlier ∧
    (table'.current = table.current ∨
      table.lineOf? inc.path = none ∧ table'.current = table.current ++ [⟨inc.path, n⟩]) := by
  unfold header at hok
  split at hok
  · cases hok
    exact ⟨rfl, .inl rfl⟩
  · rename_i hnone
    simp only [bind, Except.bind, pure, Except.pure] at hok
    split at hok
    · cases hok
    · split at hok
      · cases hok
        exact ⟨rfl, .inl rfl⟩
      · split at hok
        · cases hok
          exact ⟨rfl, .inl rfl⟩
        · obtain ⟨hearlier, hcurrent⟩ := enter_groups hok
          exact ⟨hearlier, .inr ⟨hnone, hcurrent⟩⟩

theorem update_groups (t : FileTree) (file : Text) (s : Source) (n : Nat) (table : IncludeTable) :
    (update t file s n table).1.earlier = table.earlier ∧
    ((update t file s n table).1.current = table.current ∨
      ∃ inc, Include.ofLine? (s.code n) = some inc ∧ table.lineOf? inc.path = none ∧
        (update t file s n table).1.current = table.current ++ [⟨inc.path, n⟩]) := by
  unfold update
  simp only
  split
  · exact ⟨rfl, .inl rfl⟩
  · rename_i inc hinc
    split
    · exact ⟨rfl, .inl rfl⟩
    · rename_i hok
      obtain ⟨hearlier, hcurrent⟩ := header_groups hok
      exact ⟨hearlier, hcurrent.imp_right fun h => ⟨inc, hinc, h⟩⟩

/-! ## Duplicates -/

def duplicate (file path : Text) (n : Nat) (line : Int) : Finding :=
  ⟨n, .buildInclude, 4,
    "\"" ++ String.ofList path ++ "\" already included at " ++ String.ofList file ++ ":" ++ toString line⟩

/-- The message begins with the header, in quotes. -/
theorem duplicate_ne {f : Finding} (hf : f.message.toList.head? ≠ some '"') (file path : Text) (n : Nat) (line : Int) :
    duplicate file path n line ≠ f := by
  rintro rfl
  exact hf (by simp [duplicate])

theorem header_not_duplicate (hnone : table.lineOf? inc.path = none)
    (hok : header t file s n inc table = .ok (table', found)) (path : Text) (line : Int) :
    duplicate file path n line ∉ found := by
  unfold header at hok
  simp only [hnone, bind, Except.bind, pure, Except.pure] at hok
  split at hok
  · cases hok
  · split at hok
    · cases hok
      exact fun hmem => duplicate_ne (by simp) file path n line (List.mem_singleton.mp hmem)
    · split at hok
      · cases hok
        simp
      · intro hmem
        have hcategory := (enter_speak hok _ hmem).2.2
        exact absurd hcategory (show Category.buildInclude ∉ [.buildIncludeOrder, .buildIncludeAlpha] by decide)

theorem directory_not_duplicate (test : Bool) (file path : Text) (n : Nat) (line : Int) :
    duplicate file path n line ∉
      Finding.when test ⟨n, .buildInclude, 4, "Include the directory when naming .h files"⟩ := by
  unfold Finding.when
  split
  · exact fun hmem => duplicate_ne (by simp) file path n line (List.mem_singleton.mp hmem)
  · simp

theorem report_mem_append {f : Finding} {fs : List Finding} {o : Outcome} :
    Event.report f ∈ (Outcome.ofFindings fs ++ o).events ↔ f ∈ fs ∨ Event.report f ∈ o.events := by
  show Event.report f ∈ fs.map Event.report ++ o.events ↔ _
  simp

/-- A duplicate is told where the header is in the table, and then with the line it has there. -/
theorem update_duplicate (t : FileTree) (file : Text) (table : IncludeTable)
    (hinc : Include.ofLine? (s.code n) = some inc) :
    (∀ line, table.lineOf? inc.path = some line →
      Event.report (duplicate file inc.path n line) ∈ (update t file s n table).2.events) ∧
    (table.lineOf? inc.path = none →
      ∀ line, Event.report (duplicate file inc.path n line) ∉ (update t file s n table).2.events) := by
  unfold update
  simp only [hinc]
  constructor
  · intro line hline
    have hheader : header t file s n inc table = .ok (table, [duplicate file inc.path n line]) := by
      simp only [header, hline]
      rfl
    simp only [hheader]
    exact report_mem_append.mpr (.inr (List.mem_singleton.mpr rfl))
  · intro hnone line
    have hdirectory := directory_not_duplicate (namesNoDirectory (s.code n)) file inc.path n line
    split
    · intro hmem
      rcases report_mem_append.mp hmem with hf | hf
      · exact hdirectory hf
      · cases hf
    · rename_i hok
      intro hmem
      rcases report_mem_append.mp hmem with hf | hf
      · exact hdirectory hf
      · obtain ⟨f, hf, heq⟩ := List.mem_map.mp hf
        cases heq
        exact header_not_duplicate hnone hok _ _ hf

end IncludeLine

/-- A conditional directive includes nothing. -/
theorem Include.ofLine?_of_condition {line : Text} {condition : Directive.Condition}
    (h : Directive.condition? line = some condition) : Include.ofLine? line = none := by
  unfold Directive.condition? Directive.name? at h
  unfold ofLine?
  cases hb : Directive.body? line with
  | none => rfl
  | some body =>
    rw [hb, Option.map_some, Option.bind_some] at h
    have hword : body.take 7 ≠ "include".toList := by
      intro htake
      have hbody : body = "include".toList ++ body.drop 7 := by rw [← htake, List.take_append_drop]
      have hall : "include".toList.all Text.isWord = true := by decide +kernel
      have hname : body.takeWhile Text.isWord = "include".toList ++ (body.drop 7).takeWhile Text.isWord := by
        conv_lhs => rw [hbody]
        rw [List.takeWhile_append_of_pos (List.all_eq_true.mp hall)]
      rw [hname] at h
      simp [Directive.Condition.ofName?] at h
    simp only [beq_iff_eq, if_neg hword]

namespace Check

open Nesting (Conditional Alternative)

/-! ## Lines -/

def Opens (s : Source) (n : Nat) : Prop := IsCode s n ∧ Directive.condition? (s.elided n) = some .opening

def Switches (s : Source) (n : Nat) : Prop := IsCode s n ∧ Directive.condition? (s.elided n) = some .alternative

structure Includes (s : Source) (n : Nat) (path : Text) : Prop where
  code : IsCode s n
  directive : includesHeader s n = true
  header : ∃ inc, Include.ofLine? (s.code n) = some inc ∧ inc.path = path

def Enters (c : Context) (s : Source) (n : Nat) (path : Text) : Prop :=
  ⟨path, n⟩ ∈ (before c s (n + 1)).includes.current

/-- Between the lines `m` and `n` no conditional is opened and none is switched. -/
def Quiet (s : Source) (m n : Nat) : Prop := ∀ j, m < j → j < n → ¬ Opens s j ∧ ¬ Switches s j

/-- Before every alternative between the lines `m` and `n` a conditional is opened. -/
def Remembered (s : Source) (m n : Nat) : Prop :=
  ∀ j, m < j → j < n → Switches s j → ∃ o, m < o ∧ o < j ∧ Opens s o

theorem before_includes_of_code (c : Context) {s : Source} {n : Nat} (h : IsCode s n) :
    (before c s (n + 1)).includes = (language c s (before c s n).includes n).1 := by
  have hnesting : ((before c s n).nesting.update s n).1.inAssembly = false := by
    rw [before_nesting]
    exact h
  simp only [before, line, hnesting, Bool.false_eq_true, if_false, code]

theorem before_includes_of_not_code (c : Context) {s : Source} {n : Nat} (h : ¬ IsCode s n) :
    (before c s (n + 1)).includes = (before c s n).includes := by
  have hnesting : ((before c s n).nesting.update s n).1.inAssembly = true := by
    rw [before_nesting]
    simpa [IsCode, Nesting.before] using h
  simp only [before, line, hnesting, if_true]

/-- All that the rules for the language do to the groups of a table. -/
theorem language_groups (c : Context) (s : Source) (table : IncludeTable) (n : Nat) :
    (Directive.condition? (s.elided n) = some .opening ∧
      (language c s table n).1.earlier = table.earlier ++ [table.current] ∧ (language c s table n).1.current = []) ∨
    (Directive.condition? (s.elided n) = some .alternative ∧ (language c s table n).1.earlier = table.earlier ∧
      (language c s table n).1.current = []) ∨
    (Directive.condition? (s.elided n) ≠ some .opening ∧ Directive.condition? (s.elided n) ≠ some .alternative ∧
      (language c s table n).1.earlier = table.earlier ∧
      ((language c s table n).1.current = table.current ∨
        ∃ inc, includesHeader s n = true ∧ Include.ofLine? (s.code n) = some inc ∧ table.lineOf? inc.path = none ∧
          (language c s table n).1.current = table.current ++ [⟨inc.path, n⟩])) := by
  unfold language
  simp only
  cases hd : Directive.condition? (s.elided n) with
  | some condition =>
    have hnone := Include.ofLine?_of_condition hd
    have hvisible : (s.elided n).isEmpty = false := by
      rw [Bool.eq_false_iff]
      intro hempty
      rw [List.isEmpty_iff.mp hempty] at hd
      cases hd
    simp only [hvisible, hnone, Bool.false_eq_true, if_false, Option.isSome_none]
    cases condition with
    | opening => exact .inl ⟨rfl, rfl, rfl⟩
    | alternative => exact .inr (.inl ⟨rfl, rfl, rfl⟩)
    | closing => exact .inr (.inr ⟨by simp, by simp, rfl, .inl rfl⟩)
  | none =>
    refine .inr (.inr ⟨by simp, by simp, ?_⟩)
    split
    · exact ⟨rfl, .inl rfl⟩
    · split
      · rename_i hinc
        obtain ⟨hearlier, hcurrent⟩ := IncludeLine.update_groups c.tree c.file s n table
        refine ⟨hearlier, hcurrent.imp_right ?_⟩
        rintro ⟨inc, hadded⟩
        exact ⟨inc, hinc, hadded⟩
      · exact ⟨rfl, .inl rfl⟩

/-- All that a line can do to the groups of the table. -/
theorem groups_cases (c : Context) (s : Source) (n : Nat) :
    (Opens s n ∧
      (before c s (n + 1)).includes.earlier
        = (before c s n).includes.earlier ++ [(before c s n).includes.current] ∧
      (before c s (n + 1)).includes.current = []) ∨
    (Switches s n ∧ (before c s (n + 1)).includes.earlier = (before c s n).includes.earlier ∧
      (before c s (n + 1)).includes.current = []) ∨
    (¬ Opens s n ∧ ¬ Switches s n ∧ (before c s (n + 1)).includes.earlier = (before c s n).includes.earlier ∧
      ((before c s (n + 1)).includes.current = (before c s n).includes.current ∨
        ∃ path, Includes s n path ∧ (before c s n).includes.lineOf? path = none ∧
          (before c s (n + 1)).includes.current = (before c s n).includes.current ++ [⟨path, n⟩])) := by
  by_cases hcode : IsCode s n
  · rw [before_includes_of_code c hcode]
    rcases language_groups c s (before c s n).includes n with
      ⟨hd, hgroups⟩ | ⟨hd, hgroups⟩ | ⟨hopen, hswitch, hearlier, hcurrent⟩
    · exact .inl ⟨⟨hcode, hd⟩, hgroups⟩
    · exact .inr (.inl ⟨⟨hcode, hd⟩, hgroups⟩)
    · refine .inr (.inr ⟨fun h => hopen h.2, fun h => hswitch h.2, hearlier, hcurrent.imp_right ?_⟩)
      rintro ⟨inc, hinc, hheader, hnew, hgroup⟩
      exact ⟨inc.path, ⟨hcode, hinc, inc, hheader, rfl⟩, hnew, hgroup⟩
  · rw [before_includes_of_not_code c hcode]
    exact .inr (.inr ⟨fun h => hcode h.1, fun h => hcode h.1, rfl, .inl rfl⟩)

/-! ## The run -/

section

variable {c : Context} {s : Source}

/-- The last group holds the headers after which it has been quiet. -/
theorem mem_current_iff {n : Nat} {e : IncludeEntry} :
    e ∈ (before c s n).includes.current ↔
      ∃ m : Nat, e.line = m ∧ m < n ∧ Enters c s m e.path ∧ Quiet s m n := by
  induction n generalizing e with
  | zero => simp [before]
  | succ n ih =>
    -- the line itself holds the header, or a line above does
    have hself : e.line = n → (e ∈ (before c s (n + 1)).includes.current ↔ Enters c s n e.path) := by
      intro hline
      unfold Enters
      rw [← hline]
    have hquiet : ¬ Opens s n → ¬ Switches s n → ∀ m, Quiet s m (n + 1) ↔ Quiet s m n := by
      intro hopen hswitch m
      refine ⟨fun h j hj hn => h j hj (by omega), fun h j hj hn => ?_⟩
      rcases Nat.lt_succ_iff_lt_or_eq.mp hn with hlt | rfl
      · exact h j hj hlt
      · exact ⟨hopen, hswitch⟩
    have hempty : (Opens s n ∨ Switches s n) → (before c s (n + 1)).includes.current = [] →
        (e ∈ (before c s (n + 1)).includes.current ↔
          ∃ m : Nat, e.line = m ∧ m < n + 1 ∧ Enters c s m e.path ∧ Quiet s m (n + 1)) := by
      intro hloud hnil
      refine ⟨fun h => by simp [hnil] at h, ?_⟩
      rintro ⟨m, hline, hm, henters, hq⟩
      rcases Nat.lt_succ_iff_lt_or_eq.mp hm with hlt | rfl
      · have := hq n hlt (Nat.lt_succ_self n)
        exact (hloud.elim this.1 this.2).elim
      · exact (hself hline).mpr henters
    rcases groups_cases c s n with ⟨hopen, -, hnil⟩ | ⟨hswitch, -, hnil⟩ | ⟨hopen, hswitch, -, hcurrent⟩
    · exact hempty (.inl hopen) hnil
    · exact hempty (.inr hswitch) hnil
    · constructor
      · intro he
        have hcases : e ∈ (before c s n).includes.current ∨ e.line = n := by
          rcases hcurrent with hsame | ⟨path, -, -, hadded⟩
          · exact .inl (hsame ▸ he)
          · rw [hadded, List.mem_append, List.mem_singleton] at he
            rcases he with hold | rfl
            · exact .inl hold
            · exact .inr rfl
        rcases hcases with hold | hline
        · obtain ⟨m, hline, hm, henters, hq⟩ := ih.mp hold
          exact ⟨m, hline, by omega, henters, (hquiet hopen hswitch m).mpr hq⟩
        · exact ⟨n, hline, Nat.lt_succ_self n, (hself hline).mp he, fun j hj hn => by omega⟩
      · rintro ⟨m, hline, hm, henters, hq⟩
        rcases Nat.lt_succ_iff_lt_or_eq.mp hm with hlt | rfl
        · have hold := ih.mpr ⟨m, hline, hlt, henters, (hquiet hopen hswitch m).mp hq⟩
          rcases hcurrent with hsame | ⟨path, -, -, hadded⟩
          · rwa [hsame]
          · rw [hadded]
            exact List.mem_append_left _ hold
        · exact (hself hline).mpr henters

/-- The groups before it hold the headers after which it was quiet until a conditional was opened. -/
theorem mem_earlier_iff {n : Nat} {e : IncludeEntry} :
    e ∈ (before c s n).includes.earlier.flatten ↔
      ∃ m o : Nat, e.line = m ∧ m < o ∧ o < n ∧ Enters c s m e.path ∧ Quiet s m o ∧ Opens s o := by
  induction n generalizing e with
  | zero => simp [before]
  | succ n ih =>
    have hsame : ¬ Opens s n → (before c s (n + 1)).includes.earlier = (before c s n).includes.earlier →
        (e ∈ (before c s (n + 1)).includes.earlier.flatten ↔
          ∃ m o : Nat, e.line = m ∧ m < o ∧ o < n + 1 ∧ Enters c s m e.path ∧ Quiet s m o ∧ Opens s o) := by
      intro hopen hearlier
      rw [hearlier, ih]
      constructor
      · rintro ⟨m, o, hline, hm, ho, h⟩
        exact ⟨m, o, hline, hm, by omega, h⟩
      · rintro ⟨m, o, hline, hm, ho, henters, hq, hopens⟩
        have hne : o ≠ n := by
          rintro rfl
          exact hopen hopens
        exact ⟨m, o, hline, hm, by omega, henters, hq, hopens⟩
    rcases groups_cases c s n with ⟨hopen, hearlier, -⟩ | ⟨hswitch, hearlier, -⟩ | ⟨hopen, -, hearlier, -⟩
    · rw [hearlier, List.flatten_append, List.flatten_singleton, List.mem_append, ih, mem_current_iff]
      constructor
      · rintro (⟨m, o, hline, hm, ho, h⟩ | ⟨m, hline, hm, henters, hq⟩)
        · exact ⟨m, o, hline, hm, by omega, h⟩
        · exact ⟨m, n, hline, hm, Nat.lt_succ_self n, henters, hq, hopen⟩
      · rintro ⟨m, o, hline, hm, ho, henters, hq, hopens⟩
        rcases Nat.lt_succ_iff_lt_or_eq.mp ho with hlt | rfl
        · exact .inl ⟨m, o, hline, hm, hlt, henters, hq, hopens⟩
        · exact .inr ⟨m, hline, hm, henters, hq⟩
    · refine hsame (fun hopen => ?_) hearlier
      have := hopen.2.symm.trans hswitch.2
      cases this
    · exact hsame hopen hearlier

theorem remembered_iff {m n : Nat} :
    Remembered s m n ↔ Quiet s m n ∨ ∃ o, m < o ∧ o < n ∧ Quiet s m o ∧ Opens s o := by
  constructor
  · intro h
    by_cases hsome : ∃ o, m < o ∧ o < n ∧ Opens s o
    · -- the first conditional that is opened
      classical
      obtain ⟨o, ⟨hm, hn, ho⟩, hfirst⟩ : ∃ o, (m < o ∧ o < n ∧ Opens s o) ∧
          ∀ o', m < o' → o' < o → ¬ Opens s o' := by
        refine ⟨Nat.find hsome, Nat.find_spec hsome, fun o' hm' hlt hopens => ?_⟩
        have hn := (Nat.find_spec hsome).2.1
        exact Nat.find_min hsome hlt ⟨hm', by omega, hopens⟩
      refine .inr ⟨o, hm, hn, fun j hj hjo => ⟨hfirst j hj hjo, fun hswitch => ?_⟩, ho⟩
      obtain ⟨o', hm', hlt, hopens⟩ := h j hj (by omega) hswitch
      exact hfirst o' hm' (by omega) hopens
    · refine .inl fun j hj hn => ⟨fun hopens => hsome ⟨j, hj, hn, hopens⟩, fun hswitch => ?_⟩
      obtain ⟨o, hm, hlt, hopens⟩ := h j hj hn hswitch
      exact hsome ⟨o, hm, by omega, hopens⟩
  · rintro (hq | ⟨o, hm, hn, hq, ho⟩) j hj hlt hswitch
    · exact absurd hswitch (hq j hj hlt).2
    · rcases Nat.lt_trichotomy j o with hjo | rfl | hjo
      · exact absurd hswitch (hq j hj hjo).2
      · have := ho.2.symm.trans hswitch.2
        cases this
      · exact ⟨o, hm, hjo, ho⟩

/-- The table holds the headers that have been entered and are remembered. -/
theorem mem_entries_iff {n : Nat} {e : IncludeEntry} :
    e ∈ (before c s n).includes.entries ↔
      ∃ m : Nat, e.line = m ∧ m < n ∧ Enters c s m e.path ∧ Remembered s m n := by
  rw [IncludeTable.mem_entries, mem_earlier_iff, mem_current_iff]
  constructor
  · rintro (⟨m, o, hline, hm, hn, henters, hq, ho⟩ | ⟨m, hline, hm, henters, hq⟩)
    · exact ⟨m, hline, by omega, henters, remembered_iff.mpr (.inr ⟨o, hm, hn, hq, ho⟩)⟩
    · exact ⟨m, hline, hm, henters, remembered_iff.mpr (.inl hq)⟩
  · rintro ⟨m, hline, hm, henters, hr⟩
    rcases remembered_iff.mp hr with hq | ⟨o, hmo, hn, hq, ho⟩
    · exact .inr ⟨m, hline, hm, henters, hq⟩
    · exact .inl ⟨m, o, hline, hmo, hn, henters, hq, ho⟩

/-- A header is entered where it is included and not remembered. -/
theorem Enters.cases {n : Nat} {path : Text} (h : Enters c s n path) :
    Includes s n path ∧ (before c s n).includes.lineOf? path = none := by
  have hnew : ⟨path, (n : Int)⟩ ∉ (before c s n).includes.current := by
    intro hold
    obtain ⟨m, hline, hm, -⟩ := mem_current_iff.mp hold
    simp only at hline
    omega
  unfold Enters at h
  rcases groups_cases c s n with ⟨-, -, hnil⟩ | ⟨-, -, hnil⟩ | ⟨-, -, -, hsame | ⟨path', hinc, hnone, hadded⟩⟩
  · simp [hnil] at h
  · simp [hnil] at h
  · exact absurd (hsame ▸ h) hnew
  · rw [hadded, List.mem_append, List.mem_singleton] at h
    rcases h with hold | heq
    · exact absurd hold hnew
    · cases heq
      exact ⟨hinc, hnone⟩

/-- No header is remembered from two lines. -/
theorem lineOf?_of_remembered {m n : Nat} {path : Text} (hm : m < n) (henters : Enters c s m path)
    (hr : Remembered s m n) : (before c s n).includes.lineOf? path = some (m : Int) := by
  have hmem : ⟨path, (m : Int)⟩ ∈ (before c s n).includes.entries := mem_entries_iff.mpr ⟨m, rfl, hm, henters, hr⟩
  obtain ⟨line, hline⟩ := IncludeTable.lineOf?_of_mem hmem
  obtain ⟨m', hm', hlt', henters', hr'⟩ := mem_entries_iff.mp (IncludeTable.lineOf?_eq_some hline)
  simp only at hm'
  -- of two such lines the later one would not have entered the header
  have clash : ∀ {a b : Nat}, a < b → b < n → Enters c s a path → Remembered s a n → ¬ Enters c s b path := by
    intro a b hab hb ha hra hbe
    have hold : ⟨path, (a : Int)⟩ ∈ (before c s b).includes.entries :=
      mem_entries_iff.mpr ⟨a, rfl, hab, ha, fun j hj hjb => hra j hj (by omega)⟩
    obtain ⟨line, hsome⟩ := IncludeTable.lineOf?_of_mem hold
    have := hbe.cases.2
    simp only at hsome
    rw [hsome] at this
    cases this
  rcases Nat.lt_trichotomy m m' with hlt | rfl | hlt
  · exact absurd henters' (clash hlt hlt' henters hr)
  · rw [hline, hm']
  · exact absurd henters (clash hlt hm henters' hr')

end

/-! ## Reports -/

/-- When line `n` is read, the finding is told about what it uses of the language. -/
def Reported (c : Context) (s : Source) (n : Nat) (f : Finding) : Prop :=
  IsCode s n ∧ Event.report f ∈ (language c s (before c s n).includes n).2.events

theorem language_eq_update (c : Context) {s : Source} (table : IncludeTable) {m : Nat}
    (hline : includesHeader s m = true) :
    language c s table m = IncludeLine.update c.tree c.file s m table := by
  have hvisible : (s.elided m).isEmpty = false := by
    rw [Bool.eq_false_iff]
    intro hempty
    rw [includesHeader, List.isEmpty_iff.mp hempty] at hline
    cases hline
  have hinc : (Include.ofLine? (s.elided m)).isSome = true := hline
  simp only [language, hvisible, hinc, Bool.false_eq_true, if_false, if_true]

theorem reported_iff {c : Context} {s : Source} {n : Nat} (hcode : IsCode s n) (hline : includesHeader s n = true)
    (f : Finding) :
    Reported c s n f ↔ Event.report f ∈ (IncludeLine.update c.tree c.file s n (before c s n).includes).2.events := by
  simp only [Reported, language_eq_update c _ hline, hcode, true_and]

/-- An include line is reported as a duplicate just if its header is remembered, and it is reported with
the line from which it is. If a conditional encloses both lines and an alternative of it stands between
them, then a conditional is opened before that alternative and after the line that is remembered. -/
theorem duplicates_are_remembered (c : Context) (s : Source) {n : Nat} {inc : Include} (hcode : IsCode s n)
    (hline : includesHeader s n = true) (hinc : Include.ofLine? (s.code n) = some inc) :
    ((∃ line, Reported c s n (IncludeLine.duplicate c.file inc.path n line)) ↔
      ∃ m < n, Enters c s m inc.path ∧ Remembered s m n) ∧
    ∀ m < n, Enters c s m inc.path → Remembered s m n →
      Reported c s n (IncludeLine.duplicate c.file inc.path n m) ∧ Includes s m inc.path ∧
      ∀ i k j, Conditional s i k → i < m → n < k → Alternative s i k j → m < j → j < n → IsCode s j →
        ∃ o, m < o ∧ o < j ∧ Opens s o := by
  obtain ⟨htold, hsilent⟩ := IncludeLine.update_duplicate c.tree c.file (before c s n).includes hinc
  have hreported : ∀ m < n, Enters c s m inc.path → Remembered s m n →
      Reported c s n (IncludeLine.duplicate c.file inc.path n m) := by
    intro m hm henters hr
    rw [reported_iff hcode hline]
    exact htold m (lineOf?_of_remembered hm henters hr)
  refine ⟨⟨?_, ?_⟩, ?_⟩
  · rintro ⟨line, hrep⟩
    rw [reported_iff hcode hline] at hrep
    cases hfound : (before c s n).includes.lineOf? inc.path with
    | none => exact absurd hrep (hsilent hfound line)
    | some line' =>
      obtain ⟨m, -, hm, henters, hr⟩ := mem_entries_iff.mp (IncludeTable.lineOf?_eq_some hfound)
      exact ⟨m, hm, henters, hr⟩
  · rintro ⟨m, hm, henters, hr⟩
    exact ⟨m, hreported m hm henters hr⟩
  · intro m hm henters hr
    refine ⟨hreported m hm henters hr, henters.cases.1, ?_⟩
    intro i k j _ _ _ halt hmj hjn hj
    exact hr j hmj hjn ⟨hj, halt.directive⟩

def bothBranches : Source :=
  Source.ofLines
    ["#if A".toList, "#include \"a/x.h\"".toList, "#if B".toList, "#include \"a/y.h\"".toList, "#endif".toList,
      "#else".toList, "#include \"a/x.h\"".toList, "#endif".toList]

theorem bothBranches_conditional : Conditional bothBranches 0 7 where
  opened := by decide +kernel
  closed := by decide +kernel
  order := by decide
  inside := by
    have hall : ∀ j < 8, 0 < j →
        Nesting.directives .closing bothBranches 0 j < Nesting.directives .opening bothBranches 0 j := by
      decide +kernel
    intro j h0 h7
    exact hall j (by omega) h0
  balanced := by decide +kernel

theorem duplicates_are_remembered_bothBranches :
    (IsCode bothBranches 6 ∧ includesHeader bothBranches 6 = true ∧
      Include.ofLine? (bothBranches.code 6) = some ⟨false, "a/x.h".toList⟩) ∧
    Reported plainFile bothBranches 6 (IncludeLine.duplicate "foo.cc".toList "a/x.h".toList 6 1) ∧
    Conditional bothBranches 0 7 ∧ Alternative bothBranches 0 7 5 ∧ ∃ o, 1 < o ∧ o < 5 ∧ Opens bothBranches o := by
  have hcode : IsCode bothBranches 6 := by
    unfold IsCode
    decide +kernel
  have hline : includesHeader bothBranches 6 = true := by decide +kernel
  have hinc : Include.ofLine? (bothBranches.code 6) = some ⟨false, "a/x.h".toList⟩ := by decide +kernel
  have henters : Enters plainFile bothBranches 1 "a/x.h".toList := by
    unfold Enters
    decide +kernel
  have hopens : Opens bothBranches 2 := by
    unfold Opens IsCode
    decide +kernel
  have hswitches : IsCode bothBranches 5 := by
    unfold IsCode
    decide +kernel
  have halt : Alternative bothBranches 0 7 5 := ⟨by decide, by decide, by decide +kernel, by decide +kernel⟩
  have hr : Remembered bothBranches 1 6 := by
    have honly : ∀ j < 6, 1 < j → Directive.condition? (bothBranches.elided j) = some .alternative → 2 < j := by
      decide +kernel
    intro j h1 h6 hswitch
    exact ⟨2, by omega, honly j h6 h1 hswitch.2, hopens⟩
  obtain ⟨-, hall⟩ := duplicates_are_remembered plainFile bothBranches hcode hline hinc
  obtain ⟨hreported, -, hbranches⟩ := hall 1 (by decide) henters hr
  exact ⟨⟨hcode, hline, hinc⟩, hreported, bothBranches_conditional, halt,
    hbranches 0 7 5 bothBranches_conditional (by decide) (by decide) halt (by decide) (by decide) hswitches⟩

end Check

end StyleCheck
