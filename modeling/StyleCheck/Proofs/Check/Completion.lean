/-
  StyleCheck.Proofs.Check.Completion — when a file is checked to its end.

  The reasons for which the check of a file fails are listed by two relations. On a line of code
  (`BreaksAt`) a header may need the name of the file, the type of a cast may end its line, a bracket
  may stay open in the parameters of a constructor, and a rule of the user may fail. In the file as a
  whole (`Breaks`) there are its lines, and the names that header guards, missing headers and the
  file's own header depend on.

  `check_completes_iff_nothing_breaks`: a file is checked to its end just if there is no such reason,
  and a failure is always that of one of the reasons. The proof follows the check: what accounts for
  one line (`accounts_line`) accounts for a run over all lines (`accounts_lines`), and with what is
  told before and after them for the file (`accounts_file`).
-/

import StyleCheck.Proofs.Check.Checkout
import StyleCheck.Proofs.Check.OutOfRange
import StyleCheck.Proofs.Nesting.Run

namespace StyleCheck.Check

/-- The file as the rules see it. -/
def sourceOf (given : List Text) : Source := .ofLines (Comment.blankAll (Source.marked given)).1

def before (c : Context) (s : Source) : (n : Nat) → Progress
  | 0 => {}
  | n + 1 => (line c s (before c s n) n).1

def IsCode (s : Source) (n : Nat) : Prop := (Nesting.before s (n + 1)).inAssembly = false

def includesHeader (s : Source) (n : Nat) : Bool := (Include.ofLine? (s.elided n)).isSome

def GuardUnnamed (c : Context) : Prop :=
  c.isHeader = true ∧ Repository.Endless c.tree (HeaderGuard.spelledOut (HeaderGuard.permanent c.file))

inductive BreaksAt (c : Context) (s : Source) (n : Nat) : Failure → Prop
  /-- The line includes a header for which the name of the file is needed. -/
  | included (hi : includesHeader s n = true)
      (h : IncludeLine.AsksAt c.tree c.file s n (before c s n).includes)
      (he : Repository.Endless c.tree c.file) : BreaksAt c s n .endlessCheckout
  /-- The type of a cast whose address is taken ends its line. -/
  | cast (hi : includesHeader s n = false) (h : Rule.Casts.TypeEndsLine s n) : BreaksAt c s n .outOfRange
  /-- A bracket stays open in the parameters of a constructor. -/
  | parameters (h : Rule.ParametersLeftOpen s (Nesting.before s (n + 1)) n) : BreaksAt c s n .outOfRange
  | extra {e : Failure} {rule : LineRule} (hr : rule ∈ c.extra) (h : (rule c.settings s n).failure = some e) :
      BreaksAt c s n e

inductive Breaks (c : Context) (s : Source) : Failure → Prop
  | line {e : Failure} {n : Nat} (hn : n < s.size) (hc : IsCode s n) (h : BreaksAt c s n e) : Breaks c s e
  | guard (h : GuardUnnamed c) : Breaks c s .endlessCheckout
  /-- There are headers, and the module of the file cannot be told. -/
  | module (h : (before c s s.size).includes.entries ≠ [])
      (he : Repository.Endless c.tree (Required.modulePath c.tree c.file)) : Breaks c s .endlessCheckout
  | source (hx : isSourceExtension c.extension = true) (he : Repository.Endless c.tree c.file) :
      Breaks c s .endlessCheckout
  /-- The header that belongs to the file cannot be named. -/
  | ownHeader (hx : isSourceExtension c.extension = true) {header : Text}
      (h : OwnHeader.Expected c.tree c.file header) (he : Repository.Endless c.tree header) :
      Breaks c s .endlessCheckout

/-! ## One line -/

theorem line_nesting (c : Context) (s : Source) (p : Progress) (n : Nat) :
    (line c s p n).1.nesting = (p.nesting.update s n).1 := by
  unfold line
  simp only
  split <;> rfl

theorem before_nesting (c : Context) (s : Source) (n : Nat) : (before c s n).nesting = Nesting.before s n := by
  induction n with
  | zero => rfl
  | succ n ih =>
    show (line c s (before c s n) n).1.nesting = _
    rw [line_nesting, ih]
    rfl

theorem extent_failure (c : Context) (s : Source) (n : Nat) : (extent c s n).failure = failureOf (guard? c) := by
  unfold extent
  rcases guard? c with e | (_ | guard) <;> rfl

theorem trailingSemicolon_failure (s : Source) (n : Nat) : (Rule.TrailingSemicolon.outcome s n).failure = none := by
  unfold Rule.TrailingSemicolon.outcome
  split
  · rfl
  · simp only
    split
    · rfl
    · split <;> rfl

theorem style_failure (c : Context) (s : Source) (st : Nesting) (n : Nat) :
    (style c s st n).failure = failureOf (guard? c) := by
  simp only [style, Outcome.sequence_cons_failure, Outcome.sequence_nil_failure, Outcome.ofFindings_failure,
    trailingSemicolon_failure, extent_failure, Option.none_or, Option.or_none]

theorem code_failure (c : Context) (s : Source) (p : Progress) (n : Nat) :
    (code c s p n).2.failure
      = (failureOf (guard? c)).or ((language c s p.includes n).2.failure.or
          ((Rule.nonstandard s p.nesting n).failure.or
            (Outcome.sequence (c.extra.map fun rule => rule c.settings s n)).failure)) := by
  simp only [code, List.cons_append, List.nil_append, Outcome.sequence_cons_failure, Outcome.ofFindings_failure,
    style_failure, Option.none_or]

theorem line_failure (c : Context) (s : Source) (p : Progress) (n : Nat) :
    (line c s p n).2.failure
      = if (p.nesting.update s n).1.inAssembly then none
        else (code c s { p with nesting := (p.nesting.update s n).1 } n).2.failure := by
  simp only [line, Outcome.sequence_cons_failure, Outcome.sequence_nil_failure, Outcome.append_failure,
    Outcome.ofFindings_failure, Option.none_or, Option.or_none]
  split <;> rfl

theorem accounts_guard (c : Context) :
    Accounts (fun e => e = .endlessCheckout ∧ GuardUnnamed c) (failureOf (guard? c)) := by
  unfold guard? GuardUnnamed
  split
  · rename_i hh
    rw [failureOf_map]
    exact (HeaderGuard.accounts_nameOf c.tree c.settings c.file).congr fun e => by simp only [hh, true_and]
  · rename_i hh
    exact .ended fun e he => hh he.2.1

theorem accounts_language (c : Context) (s : Source) (table : IncludeTable) (n : Nat) :
    Accounts (fun e =>
        (includesHeader s n = true ∧ e = .endlessCheckout ∧ IncludeLine.AsksAt c.tree c.file s n table ∧
          Repository.Endless c.tree c.file) ∨
        (includesHeader s n = false ∧ e = .outOfRange ∧ Rule.Casts.TypeEndsLine s n))
      (language c s table n).2.failure := by
  unfold language
  simp only
  by_cases hl : (s.elided n).isEmpty = true
  · rw [if_pos hl]
    have hempty : s.elided n = [] := List.isEmpty_iff.mp hl
    refine .ended ?_
    rintro e (⟨hi, -⟩ | ⟨-, -, -, ha, -⟩)
    · rw [includesHeader, hempty] at hi
      exact absurd hi (by decide +kernel)
    · rw [hempty] at ha
      exact absurd ha (by decide +kernel)
  · rw [if_neg hl]
    by_cases hi : includesHeader s n = true
    · rw [if_pos (show (Include.ofLine? (s.elided n)).isSome = true from hi)]
      exact (IncludeLine.accounts_update c.tree c.file s n table).congr fun e => by simp [hi]
    · rw [if_neg (show ¬ (Include.ofLine? (s.elided n)).isSome = true from hi)]
      rw [Bool.not_eq_true] at hi
      simp only [Outcome.sequence_cons_failure, Outcome.sequence_nil_failure, Outcome.ofFindings_failure,
        Option.or_none]
      exact (Rule.Casts.accounts_outcome s n).congr fun e => by simp [hi]

theorem accounts_line (c : Context) (s : Source) (n : Nat) :
    Accounts (fun e => IsCode s n ∧ (e = .endlessCheckout ∧ GuardUnnamed c ∨ BreaksAt c s n e))
      (line c s (before c s n) n).2.failure := by
  have hst : ((before c s n).nesting.update s n).1 = Nesting.before s (n + 1) := by
    rw [before_nesting]
    rfl
  rw [line_failure, hst]
  by_cases ha : (Nesting.before s (n + 1)).inAssembly = true
  · rw [if_pos ha]
    refine .ended ?_
    rintro e ⟨hc, -⟩
    rw [IsCode, ha] at hc
    cases hc
  · rw [if_neg ha, code_failure]
    have hc : IsCode s n := by simpa [IsCode] using ha
    have hextra := Outcome.accounts_sequence (c.extra.map fun rule => rule c.settings s n)
    have hrules := (accounts_guard c).or fun _ => (accounts_language c s (before c s n).includes n).or fun _ =>
      (Rule.accounts_nonstandard s (Nesting.before s (n + 1)) n).or fun _ => hextra
    refine hrules.congr fun e => ⟨?_, ?_⟩
    · rintro (h | (⟨hi, rfl, h, he⟩ | ⟨hi, rfl, h⟩) | ⟨rfl, h⟩ | ⟨o, ho, h⟩)
      · exact ⟨hc, .inl h⟩
      · exact ⟨hc, .inr (.included hi h he)⟩
      · exact ⟨hc, .inr (.cast hi h)⟩
      · exact ⟨hc, .inr (.parameters h)⟩
      · obtain ⟨rule, hr, rfl⟩ := List.mem_map.mp ho
        exact ⟨hc, .inr (.extra hr h)⟩
    · rintro ⟨-, h | h⟩
      · exact .inl h
      · cases h with
        | included hi h he => exact .inr (.inl (.inl ⟨hi, rfl, h, he⟩))
        | cast hi h => exact .inr (.inl (.inr ⟨hi, rfl, h⟩))
        | parameters h => exact .inr (.inr (.inl ⟨rfl, h⟩))
        | extra hr h => exact .inr (.inr (.inr ⟨_, List.mem_map.mpr ⟨_, hr, rfl⟩, h⟩))

/-! ## All lines -/

theorem lines_stopped {c : Context} {s : Source} {n : Nat} (h : (line c s (before c s n) n).2.failure ≠ none)
    (count : Nat) : lines c s (before c s n) n (count + 1) = line c s (before c s n) n :=
  if_pos (Option.ne_none_iff_isSome.mp h)

theorem lines_continued {c : Context} {s : Source} {n : Nat} (h : (line c s (before c s n) n).2.failure = none)
    (count : Nat) :
    lines c s (before c s n) n (count + 1)
      = ((lines c s (before c s (n + 1)) (n + 1) count).1,
          (line c s (before c s n) n).2 ++ (lines c s (before c s (n + 1)) (n + 1) count).2) :=
  if_neg (by rw [h]; exact Bool.false_ne_true)

/-- What accounts for each line when all lines above it have been read accounts for a run over them. -/
theorem accounts_lines {c : Context} {s : Source} {P : Nat → Failure → Prop}
    (hP : ∀ i, Accounts (P i) (line c s (before c s i) i).2.failure) (n count : Nat) :
    Accounts (fun e => ∃ i, n ≤ i ∧ i < n + count ∧ P i e) (lines c s (before c s n) n count).2.failure := by
  induction count generalizing n with
  | zero =>
    refine .ended ?_
    rintro e ⟨i, hi, hlt, -⟩
    omega
  | succ count ih =>
    by_cases hl : (line c s (before c s n) n).2.failure = none
    · rw [lines_continued hl, Outcome.append_failure, hl, Option.none_or]
      refine (ih (n + 1)).congr fun e => ⟨?_, ?_⟩
      · rintro ⟨i, hi, hlt, h⟩
        exact ⟨i, by omega, by omega, h⟩
      · rintro ⟨i, hi, hlt, h⟩
        have hne : i ≠ n := by
          rintro rfl
          exact (hP i).eq_none_iff.mp hl e h
        exact ⟨i, by omega, by omega, h⟩
    · obtain ⟨e, he⟩ := Option.ne_none_iff_exists'.mp hl
      rw [lines_stopped hl, he]
      exact .failed ⟨n, Nat.le_refl n, by omega, (hP n).holds he⟩

theorem lines_progress (c : Context) (s : Source) (n count : Nat)
    (h : (lines c s (before c s n) n count).2.failure = none) :
    (lines c s (before c s n) n count).1 = before c s (n + count) := by
  induction count generalizing n with
  | zero => rfl
  | succ count ih =>
    by_cases hl : (line c s (before c s n) n).2.failure = none
    · rw [lines_continued hl, Outcome.append_failure, hl, Option.none_or] at h
      rw [lines_continued hl, show n + (count + 1) = n + 1 + count by omega]
      exact ih (n + 1) h
    · rw [lines_stopped hl] at h
      exact absurd h hl

/-! ## The first line -/

def firstMark : Text := "// marker so line numbers and indices both start at 1".toList

/-- A file begins with its mark, in which there is no raw string and no comment over several lines. -/
theorem sourceOf_lines (given : List Text) :
    ∃ rest, (sourceOf given).lines = (Line.ofTexts firstMark firstMark :: rest).toArray := by
  have hopen : Comment.opensBlock firstMark = false := by decide +kernel
  have hplain : RawString.emptyLine none firstMark = (firstMark, none) := by decide +kernel
  obtain ⟨after, ha⟩ : ∃ after, (Comment.blankAll (Source.marked given)).1 = firstMark :: after := by
    refine ⟨(Comment.blankBlocks 2 (given ++ ["// marker so line numbers end in a known way".toList])).1, ?_⟩
    show (Comment.blankBlocks 1 (firstMark :: (given ++ _))).1 = _
    rw [Comment.blankBlocks]
    simp only [hopen, Bool.false_eq_true, if_false]
  simp only [sourceOf, ha, Source.ofLines, RawString.emptyAll, RawString.emptyFrom, hplain, List.zipWith_cons_cons]
  exact ⟨_, rfl⟩

theorem sourceOf_first (given : List Text) : 0 < (sourceOf given).size ∧ (sourceOf given).elided 0 = [] := by
  obtain ⟨rest, h⟩ := sourceOf_lines given
  have hbare : (Line.ofTexts firstMark firstMark).elided = [] := by decide +kernel
  refine ⟨?_, ?_⟩
  · simp [Source.size, h]
  · simp [Source.elided, Source.line, h, hbare]

/-- No block is open yet, so a bare line can be nothing but code. -/
theorem isCode_first {s : Source} (h : s.elided 0 = []) : IsCode s 0 := by
  have hclass : Nesting.classDeclaration.match? [] = none := by decide +kernel
  have hnames : ∀ st, Nesting.enterNamespaces 0 st [] = (st, []) := by
    intro st
    rw [Nesting.enterNamespaces]
    rfl
  have htokens : ∀ st, Nesting.applyTokens s 0 st [] = (st, []) := by
    intro st
    rw [Nesting.applyTokens]
    rfl
  have henter : ∀ st, Nesting.enterClass s 0 st [] = (st, []) := by
    intro st
    unfold Nesting.enterClass
    rw [hclass]
  simp only [IsCode, Nesting.before, Nesting.update, h, hnames, henter, htokens]
  rfl

/-! ## The whole file -/

def guardSuppressed (s : Source) : Bool := (s.lines.toList.map Line.plain).any HeaderGuard.suppressed.occursIn

theorem headerGuard_failure (c : Context) (s : Source) :
    (if c.isHeader then HeaderGuard.outcome c.tree c.settings c.file s else .nothing).failure
      = if guardSuppressed s then none else failureOf (guard? c) := by
  unfold HeaderGuard.outcome guard? guardSuppressed
  simp only
  by_cases hh : c.isHeader = true
  · rw [if_pos hh, if_pos hh]
    split
    · rfl
    · rw [failureOf_map]
      cases HeaderGuard.nameOf c.tree c.settings c.file <;> rfl
  · rw [if_neg hh, if_neg hh]
    exact (ite_self _).symm

theorem ending_failure (c : Context) (s : Source) (p : Progress) (texts : List Text) :
    (ending c s p texts).failure
      = (Required.outcome c.tree c.file s p.includes).failure.or
          (if isSourceExtension c.extension then failureOf (OwnHeader.findings c.tree c.file p.includes) else none) := by
  simp only [ending, Outcome.sequence_cons_failure, Outcome.sequence_nil_failure, Outcome.ofFindings_failure,
    Option.none_or, Option.or_none]
  congr 1
  split
  · cases OwnHeader.findings c.tree c.file p.includes <;> rfl
  · rfl

def BreaksAtEnd (c : Context) (table : IncludeTable) (e : Failure) : Prop :=
  (table.entries ≠ [] ∧ e = .endlessCheckout ∧ Repository.Endless c.tree (Required.modulePath c.tree c.file)) ∨
  (isSourceExtension c.extension = true ∧ e = .endlessCheckout ∧
    (Repository.Endless c.tree c.file ∨
      ∃ header, OwnHeader.Expected c.tree c.file header ∧ Repository.Endless c.tree header))

theorem accounts_ending (c : Context) (s : Source) (p : Progress) (texts : List Text) :
    Accounts (BreaksAtEnd c p.includes) (ending c s p texts).failure := by
  rw [ending_failure, Required.outcome_failure]
  refine Accounts.or ?_ fun _ => ?_
  · split
    · rename_i hnil
      exact .ended fun e he => he.1 hnil
    · rename_i hnil
      exact (Repository.accounts_name c.tree _).congr fun e => by simp [hnil]
  · split
    · rename_i hx
      exact (OwnHeader.accounts_findings c.tree c.file p.includes).congr fun e => by simp [hx]
    · rename_i hx
      exact .ended fun e he => hx he.1

theorem file_failure (c : Context) (given : List Text) :
    (file c given).failure
      = (if c.isHeader then HeaderGuard.outcome c.tree c.settings c.file (sourceOf given) else .nothing).failure.or
          ((lines c (sourceOf given) (before c (sourceOf given) 0) 0 (sourceOf given).size).2.failure.or
            (ending c (sourceOf given) (lines c (sourceOf given) (before c (sourceOf given) 0) 0 (sourceOf given).size).1
              (Comment.blankAll (Source.marked given)).1).failure) := by
  unfold file
  generalize hs : sourceOf given = s
  unfold sourceOf at hs
  simp only [hs, Outcome.sequence_cons_failure, Outcome.sequence_nil_failure, Outcome.ofFindings_failure,
    Option.none_or, Option.or_none, before]

theorem accounts_file (c : Context) (given : List Text) :
    Accounts (Breaks c (sourceOf given)) (file c given).failure := by
  rw [file_failure, headerGuard_failure]
  generalize hs : sourceOf given = s
  obtain ⟨hsize, hbare⟩ := hs ▸ sourceOf_first given
  have hguard : Accounts (fun e => guardSuppressed s = false ∧ e = .endlessCheckout ∧ GuardUnnamed c)
      (if guardSuppressed s then none else failureOf (guard? c)) := by
    cases guardSuppressed s with
    | true => exact .ended fun e he => nomatch he.1
    | false => exact (accounts_guard c).congr fun e => by simp
  have hlines := accounts_lines (accounts_line c s) 0 s.size
  have hend : (lines c s (before c s 0) 0 s.size).2.failure = none →
      Accounts (BreaksAtEnd c (before c s s.size).includes)
        (ending c s (lines c s (before c s 0) 0 s.size).1 (Comment.blankAll (Source.marked given)).1).failure := by
    intro hnone
    rw [lines_progress c s 0 s.size hnone, Nat.zero_add]
    exact accounts_ending c s _ _
  refine (hguard.or fun _ => hlines.or hend).congr fun e => ⟨?_, ?_⟩
  · rintro (⟨-, rfl, h⟩ | ⟨n, -, hn, hc, ⟨rfl, h⟩ | h⟩ | ⟨h, rfl, he⟩ | ⟨hx, rfl, he | ⟨header, h, he⟩⟩)
    · exact .guard h
    · exact .guard h
    · exact .line (by omega) hc h
    · exact .module h he
    · exact .source hx he
    · exact .ownHeader hx h he
  · intro h
    cases h with
    | line hn hc h => exact .inr (.inl ⟨_, Nat.zero_le _, by omega, hc, .inr h⟩)
    -- the rule for the guard may be turned off, but the first line asks for its name all the same
    | guard h => exact .inr (.inl ⟨0, Nat.le_refl 0, by omega, isCode_first hbare, .inl ⟨rfl, h⟩⟩)
    | module h he => exact .inr (.inr (.inl ⟨h, rfl, he⟩))
    | source hx he => exact .inr (.inr (.inr ⟨hx, rfl, .inl he⟩))
    | ownHeader hx h he => exact .inr (.inr (.inr ⟨hx, rfl, .inr ⟨_, h, he⟩⟩))

/-- Every failure has its reason, and a file is checked to its end just if there is none. If no rules
are asked beside the usual ones, only two failures can occur. -/
theorem check_completes_iff_nothing_breaks (c : Context) (given : List Text) :
    ((file c given).failure = none ↔ ∀ e, ¬ Breaks c (sourceOf given) e) ∧
    (∀ e, (file c given).failure = some e → Breaks c (sourceOf given) e) ∧
    (c.extra = [] → ∀ e, (file c given).failure = some e → e = .outOfRange ∨ e = .endlessCheckout) := by
  have h := accounts_file c given
  refine ⟨h.eq_none_iff, fun e he => h.holds he, fun hextra e he => ?_⟩
  cases h.holds he with
  | line hn hc hat =>
    cases hat with
    | included => exact .inr rfl
    | cast => exact .inl rfl
    | parameters => exact .inl rfl
    | extra hr => simp [hextra] at hr
  | guard => exact .inr rfl
  | module => exact .inr rfl
  | source => exact .inr rfl
  | ownHeader => exact .inr rfl

def plainFile : Context where
  tree := { here := "/proj".toList }
  settings := {}
  file := "foo.cc".toList
  extension := "cc".toList

/-- The signs of a shift count as brackets that stay open. -/
def shiftedDefault : List Text := ["class Foo \x7b".toList, "  explicit Foo(int n = 1 << 4);".toList, "\x7d;".toList]

theorem check_completes_iff_nothing_breaks_shift :
    (plainFile.extra = [] ∧ (file plainFile shiftedDefault).failure = some .outOfRange ∧
      Breaks plainFile (sourceOf shiftedDefault) .outOfRange) ∧
    ((file plainFile []).failure = none ∧ ∀ e, ¬ Breaks plainFile (sourceOf []) e) := by
  have hfails : (file plainFile shiftedDefault).failure = some .outOfRange := by decide +kernel
  have hends : (file plainFile []).failure = none := by decide +kernel
  obtain ⟨-, hreason, -⟩ := check_completes_iff_nothing_breaks plainFile shiftedDefault
  obtain ⟨hnothing, -⟩ := check_completes_iff_nothing_breaks plainFile []
  exact ⟨⟨rfl, hfails, hreason _ hfails⟩, hends, hnothing.mp hends⟩

end StyleCheck.Check
