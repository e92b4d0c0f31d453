/-
  StyleCheck.Proofs.HeaderGuard.Accepted — a header with the guard it should have is accepted.

  The name of a guard consists of capitals, digits and low lines and ends in a low line (`mem_mangle`), whatever
  path it is made from. So it is a word of its line (`words_pair`), the first directives of the file are found to
  name it (`firstDirective?_append`), the comment of the last `#endif` is matched up to its end
  (`lineEnding_match?`), and no suppression comment with a category can be read from it (`unknown?_eq_none`).
-/

import StyleCheck.HeaderGuard.Check
import StyleCheck.Proofs.Pattern.Literal
import StyleCheck.Proofs.Suppression.Judged

namespace StyleCheck

/-! ## Words of a line -/

namespace Text

theorem words_go {word : Text} (h : ∀ c ∈ word, isBlank c = false) (taken rest : Text) :
    words.go taken (word ++ rest) = words.go (word.reverse ++ taken) rest := by
  induction word generalizing taken with
  | nil => rfl
  | cons c word ih =>
    obtain ⟨hc, hword⟩ := List.forall_mem_cons.mp h
    rw [List.cons_append, words.go, hc, if_neg Bool.false_ne_true, ih hword]
    simp

theorem forall_isBlank_eq_false {s : Text} (h : s.any isBlank = false) : ∀ c ∈ s, isBlank c = false := by
  intro c hc
  exact Bool.eq_false_iff.mpr (List.any_eq_false.mp h c hc)

/-- Two words with a space between them. -/
theorem words_pair {first second : Text} (hfirst : first ≠ []) (hsecond : second ≠ [])
    (hblank : ∀ c ∈ first ++ second, isBlank c = false) : words (first ++ ' ' :: second) = [first, second] := by
  obtain ⟨hblank, hblank'⟩ := List.forall_mem_append.mp hblank
  have hspace : isBlank ' ' = true := by decide
  have hend := words_go hblank' [] []
  rw [List.append_nil, List.append_nil] at hend
  rw [words, words_go hblank, words.go, hspace, if_pos rfl, hend]
  simp [words.go, words.close, hfirst, hsecond]

end Text

/-! ## Lines without a bracket -/

namespace Suppressions

open Pattern

/-- Without an opening bracket a suppression comment names no category. -/
theorem unknown?_eq_none {line : Text} (h : '(' ∉ line) : unknown? line = none := by
  unfold unknown? Suppression.ofLine?
  cases hm : Suppression.comment.search? line with
  | none => rfl
  | some m =>
    suffices hgroup : m.group? 2 = none by simp [hgroup]
    obtain ⟨c, hsuffix, hcaptures, hmatch⟩ := search?_eq_some hm
    obtain ⟨d, hrun, rfl⟩ := Option.map_eq_some_iff.mp hmatch
    have hline : ∀ {rest : Text}, rest <:+ c.rest → '(' ∉ rest := fun hrest hc => h (hsuffix.subset (hrest.subset hc))
    -- the part that would name a category fails, and what is remembered stays as it is
    have hend : ∀ e : Cursor, '(' ∉ e.rest →
        (edge ++ opt (group 2 ("(" ++ some1 (noneOf ")") ++ ")")) : Pattern).run some e = some d → e = d := by
      intro e he hd
      rcases run_opt (run_edge hd) with hgroup | hstay
      · have hpossible := possible_of_run hgroup
        simp [possible, literal, HAppend.hAppend, Append.append, CharSet.has, he] at hpossible
      · exact Option.some.inj hstay
    obtain ⟨rest, hrest, hopt⟩ := run_literal (run_edge hrun)
    rcases run_opt hopt with hnext | hnext
    · obtain ⟨rest', hrest', hlast⟩ := run_literal hnext
      rw [← hend _ (hline ?_) hlast]
      · simp [Match.group?, Cursor.remember, Cursor.advance, hcaptures]
      · exact hrest ▸ (hrest' ▸ List.suffix_append _ _).trans (List.suffix_append _ _)
    · rw [← hend _ (hline (hrest ▸ List.suffix_append _ _)) hnext]
      simp [Match.group?, Cursor.advance, hcaptures]

end Suppressions

namespace HeaderGuard

open Pattern

/-! ## The characters of a guard -/

theorem isPlain_toUpper {c : Char} (h : isPlain c = true) :
    Text.isWord c.toUpper = true ∧ Text.isBlank c.toUpper = false ∧ c.toUpper ≠ '(' := by
  have hall : ∀ n < 128, isPlain (Char.ofNat n) = true → Text.isWord (Char.ofNat n).toUpper = true ∧
      Text.isBlank (Char.ofNat n).toUpper = false ∧ (Char.ofNat n).toUpper ≠ '(' := by decide
  have hlt : c.toNat < 128 := by
    simp only [isPlain, Bool.or_eq_true, Bool.and_eq_true, decide_eq_true_eq, Char.le_def, UInt32.le_iff_toNat_le] at h
    have hz : 'z'.val.toNat = 122 := rfl
    have hZ : 'Z'.val.toNat = 90 := rfl
    have h9 : '9'.val.toNat = 57 := rfl
    rw [hz, hZ, h9] at h
    show c.val.toNat < 128
    omega
  have := hall c.toNat hlt
  rw [Char.ofNat_toNat] at this
  exact this h

/-- The name of a guard is one word, and no bracket stands in it. -/
theorem mem_mangle {p : Text} {c : Char} (h : c ∈ mangle p) :
    Text.isWord c = true ∧ Text.isBlank c = false ∧ c ≠ '(' := by
  have hlow : Text.isWord '_' = true ∧ Text.isBlank '_' = false ∧ '_' ≠ '(' := by decide
  rcases List.mem_append.mp h with h | h
  · obtain ⟨x, -, rfl⟩ := List.mem_map.mp h
    split
    · rename_i hx
      exact isPlain_toUpper hx
    · exact hlow
  · rw [List.mem_singleton.mp h]
    exact hlow

theorem mangle_ne_nil (p : Text) : mangle p ≠ [] := by simp [mangle]

/-! ## The lines of a guard -/

def ifndefLine (guard : Text) : Text := "#ifndef ".toList ++ guard

def defineLine (guard : Text) : Text := "#define ".toList ++ guard

def endifLine (guard : Text) : Text := "#endif  // ".toList ++ guard

/-- The lines have a guard of the given name. Nothing is said about those that it guards. -/
inductive GuardedBy (guard : Text) : List Text → Prop
  | intro (before body after : List Text)
      (opens : ∀ line ∈ before, ∀ word ∈ ["#ifndef", "#define"], (Text.words line).head? ≠ some word.toList)
      (closes : ∀ line ∈ after, Text.startsWith line "#endif".toList = false) :
      GuardedBy guard (before ++ ifndefLine guard :: defineLine guard :: (body ++ endifLine guard :: after))

theorem firstDirective?_append {name : String} {before : List Text}
    (hbefore : ∀ line ∈ before, (Text.words line).head? ≠ some name.toList) {line argument : Text}
    (hline : Text.words line = [name.toList, argument]) (rest : List Text) :
    firstDirective? name (before ++ line :: rest) = some (before.length, argument) := by
  have hnone : firstDirective? name before = none := by
    unfold firstDirective?
    rw [List.findSome?_eq_none_iff]
    intro ⟨other, n⟩ hother
    have hword := hbefore other (List.fst_mem_of_mem_zipIdx hother)
    simp only
    split
    · rename_i word argument more hwords
      rw [hwords] at hword
      rw [if_neg]
      intro heq
      exact hword (congrArg some (eq_of_beq heq))
    · rfl
  unfold firstDirective? at hnone ⊢
  rw [List.zipIdx_append, List.findSome?_append, hnone, Option.none_or, List.zipIdx_cons, List.findSome?_cons]
  simp [hline]

theorem lastEndif_append {line : Text} (hline : Text.startsWith line "#endif".toList = true) {after : List Text}
    (hafter : ∀ line ∈ after, Text.startsWith line "#endif".toList = false) (front : List Text) :
    lastEndif (front ++ line :: after) = (front.length, line) := by
  unfold lastEndif
  rw [List.zipIdx_append, List.foldl_append, List.zipIdx_cons, List.foldl_cons]
  simp only [hline, if_true, Nat.zero_add]
  -- the lines after the last one that counts change nothing
  refine List.foldlRecOn (motive := fun last : Nat × Text => last = (front.length, line)) _ _ rfl ?_
  intro last hlast ⟨other, n⟩ hother
  simp only [hafter other (List.fst_mem_of_mem_zipIdx hother), Bool.false_eq_true, if_false, hlast]

/-- A name that ends the line is matched to its end, so no second low line is seen. -/
theorem run_guard_end {guard : Text} (hne : guard ≠ []) (hword : ∀ c ∈ guard, Text.isWord c = true) {c : Cursor}
    (hrest : c.rest = guard) :
    (literal guard ++ opt (group 1 "_") ++ edge : Pattern).run some c = some (c.advance guard []) := by
  have hlast : (c.advance guard []).before = some (guard.getLast hne) := by
    rw [Cursor.advance, List.getLast?_eq_some_getLast hne, Option.some_or]
  have hedge : (c.advance guard []).atEdge = true := by
    rw [Cursor.atEdge, hlast, Cursor.isWordAt, hword _ (List.getLast_mem hne)]
    rfl
  have hend : edge.run some (c.advance guard []) = some (c.advance guard []) := by
    rw [run, if_pos hedge]
  show (literal guard).run ((opt (group 1 "_")).run (edge.run some)) c = some (c.advance guard [])
  rw [run_literal_append (hrest.trans (List.append_nil guard).symm)]
  exact hend

theorem lineEnding_match? {guard : Text} (hne : guard ≠ [])
    (hword : ∀ c ∈ guard, Text.isWord c = true ∧ Text.isBlank c = false) :
    ∃ m, (lineEnding guard).match? (endifLine guard) = some m ∧ m.group? 1 = none := by
  have hspaces : ∀ x ∈ "  ".toList, Text.isBlank x = true := List.all_eq_true.mp (by decide)
  have hspace : ∀ x ∈ " ".toList, Text.isBlank x = true := List.all_eq_true.mp (by decide)
  have hslash : ∀ x ∈ ("// ".toList ++ guard).head?, Text.isBlank x = false := by
    intro x hx
    cases hx
    decide
  have hhead : ∀ x ∈ guard.head?, Text.isBlank x = false := fun x hx => (hword x (List.mem_of_mem_head? hx)).2
  -- the places between the parts of the line
  let afterWord := (Cursor.ofText (endifLine guard)).advance "#endif".toList ("  // ".toList ++ guard)
  let atSlash := afterWord.advance "  ".toList ("// ".toList ++ guard)
  let afterSlash := atSlash.advance "//".toList (" ".toList ++ guard)
  let atName := afterSlash.advance " ".toList guard
  have hname : (literal guard ++ opt (group 1 "_") ++ edge : Pattern).run some atName
      = some (atName.advance guard []) := run_guard_end hne (fun c hc => (hword c hc).1) rfl
  have hrun : (lineEnding guard).run some (Cursor.ofText (endifLine guard)) = some (atName.advance guard []) := by
    show (literal "#endif".toList).run (blanks.run ((literal "//".toList).run (blanks.run
      ((literal guard ++ opt (group 1 "_") ++ edge : Pattern).run some)))) (Cursor.ofText (endifLine guard)) = _
    rw [run_literal_append (show (Cursor.ofText (endifLine guard)).rest
      = "#endif".toList ++ ("  // ".toList ++ guard) from rfl)]
    refine run_blanks hspaces hslash rfl ?_
    rw [run_literal_append (show atSlash.rest = "//".toList ++ (" ".toList ++ guard) from rfl)]
    exact run_blanks hspace hhead rfl hname
  refine ⟨_, by rw [match?_eq, matchAt?, hrun]; rfl, rfl⟩

/-! ## What is told -/

section

variable {guard : Text} {lines : List Text}

theorem words_directive {name : String} (hne : guard ≠ []) (hblank : ∀ c ∈ guard, Text.isBlank c = false)
    (hname : name = "#ifndef" ∨ name = "#define") : Text.words (name.toList ++ ' ' :: guard) = [name.toList, guard] := by
  have hplain : name.toList ≠ [] ∧ name.toList.any Text.isBlank = false := by rcases hname with rfl | rfl <;> decide
  exact Text.words_pair hplain.1 hne (List.forall_mem_append.mpr ⟨Text.forall_isBlank_eq_false hplain.2, hblank⟩)

/-- Both directives name the guard, and the first one stands where it is found. -/
theorem GuardedBy.directives (h : GuardedBy guard lines) (hne : guard ≠ [])
    (hblank : ∀ c ∈ guard, Text.isBlank c = false) :
    ∃ n k, firstDirective? "#ifndef" lines = some (n, guard) ∧ firstDirective? "#define" lines = some (k, guard) ∧
      lines[n]? = some (ifndefLine guard) := by
  obtain ⟨before, body, after, hopens, -⟩ := h
  have hifndef : Text.words (ifndefLine guard) = ["#ifndef".toList, guard] := words_directive hne hblank (.inl rfl)
  have hdefine : Text.words (defineLine guard) = ["#define".toList, guard] := words_directive hne hblank (.inr rfl)
  have hbefore : ∀ line ∈ before, (Text.words line).head? ≠ some "#ifndef".toList := by
    intro line hline
    exact hopens line hline "#ifndef" (by decide)
  have hbefore' : ∀ line ∈ before ++ [ifndefLine guard], (Text.words line).head? ≠ some "#define".toList := by
    intro line hline
    rcases List.mem_append.mp hline with hline | hline
    · exact hopens line hline "#define" (by decide)
    · rw [List.mem_singleton.mp hline, hifndef]
      simp
  have hdefined := firstDirective?_append hbefore' hdefine (body ++ endifLine guard :: after)
  rw [← List.append_cons] at hdefined
  exact ⟨before.length, _, firstDirective?_append hbefore hifndef _, hdefined, by simp⟩

theorem GuardedBy.lastEndif (h : GuardedBy guard lines) :
    ∃ n, lastEndif lines = (n, endifLine guard) ∧ lines[n]? = some (endifLine guard) := by
  obtain ⟨before, body, after, -, hcloses⟩ := h
  have hassoc : before ++ ifndefLine guard :: defineLine guard :: (body ++ endifLine guard :: after) =
      (before ++ ifndefLine guard :: defineLine guard :: body) ++ endifLine guard :: after := by simp
  rw [hassoc]
  refine ⟨_, lastEndif_append rfl hcloses _, ?_⟩
  rw [List.getElem?_append_right (Nat.le_refl _), Nat.sub_self]
  rfl

/-- With the right guard nothing is told: only the comment of the last line is looked at for suppressions. -/
theorem events_of_guardedBy (h : GuardedBy guard lines) (hne : guard ≠ [])
    (hword : ∀ c ∈ guard, Text.isWord c = true ∧ Text.isBlank c = false) :
    ∃ n, events lines guard = [.suppress (endifLine guard) n] := by
  obtain ⟨n, k, hifndef, hdefine, -⟩ := h.directives hne fun c hc => (hword c hc).2
  obtain ⟨last, hlast, hline⟩ := h.lastEndif
  obtain ⟨m, hmatch, hgroup⟩ := lineEnding_match? hne hword
  refine ⟨last, ?_⟩
  simp [events, endingEvents, hifndef, hdefine, hlast, hline, hmatch, hgroup]

/-- Another guard is told of, at the line that names it; a second low line at the end is of no weight. -/
theorem events_of_guardedBy_ne (h : GuardedBy guard lines) (hne : guard ≠ [])
    (hblank : ∀ c ∈ guard, Text.isBlank c = false) {right : Text} (hright : guard ≠ right) :
    ∃ n, lines[n]? = some (ifndefLine guard) ∧
      said n (if guard == right ++ ['_'] then 0 else 5)
        ("#ifndef header guard has wrong style, please use: " ++ String.ofList right) ∈ events lines right := by
  obtain ⟨n, k, hifndef, hdefine, hline⟩ := h.directives hne hblank
  refine ⟨n, hline, ?_⟩
  simp only [events, hifndef, hdefine, bne_self_eq_false, Bool.false_eq_true, if_false, beq_iff_eq, hright]
  exact List.mem_append_left _ (List.mem_cons_of_mem _ (List.mem_singleton_self _))

end

section

variable {t : FileTree} {settings : Settings} {p : Text} {name : Name}

theorem mangle_of_nameOf (hname : nameOf t settings p = .ok name) : ∃ path, name.text = mangle path := by
  cases hfound : Repository.name t (spelledOut (permanent p)) with
  | error e =>
    simp only [nameOf, hfound] at hname
    cases hname
  | ok found =>
    simp only [nameOf, hfound] at hname
    cases hname
    exact ⟨_, rfl⟩

theorem outcome_of_nameOf (hname : nameOf t settings p = .ok name) (s : Source) :
    outcome t settings p s = if (s.lines.toList.map Line.plain).any suppressed.occursIn then .nothing
      else ⟨name.remarks ++ events (s.lines.toList.map Line.plain) name.text, none⟩ := by
  simp only [outcome, hname]

end

theorem finding?_remarks {name : Name} {e : Event} (h : e ∈ name.remarks) : e.finding? = none := by
  unfold Name.remarks at h
  split at h
  · cases h
  · rw [List.mem_singleton.mp h]
    rfl

/-- A header with the guard that is suggested for it is accepted: no finding is told, for any path, any files
around it and any root. With any other guard in the same place there is a finding that suggests the right one,
unless the findings of this kind are suppressed in the file. -/
theorem suggested_guard_is_accepted (t : FileTree) (settings : Settings) (p : Text) {name : Name}
    (hname : nameOf t settings p = .ok name) (s : Source) {lines : List Text}
    (hlines : s.lines.toList.map Line.plain = lines) :
    (GuardedBy name.text lines →
      (outcome t settings p s).failure = none ∧ ∀ e ∈ (outcome t settings p s).events, e.finding? = none) ∧
    ∀ guard, GuardedBy guard lines → guard ≠ [] → (∀ c ∈ guard, Text.isBlank c = false) → guard ≠ name.text →
      (∀ line ∈ lines, suppressed.occursIn line = false) →
      ∃ n : Nat, lines[n]? = some (ifndefLine guard) ∧
        .report ⟨n, .buildHeaderGuard, if guard == name.text ++ ['_'] then 0 else 5,
          "#ifndef header guard has wrong style, please use: " ++ String.ofList name.text⟩
            ∈ (outcome t settings p s).events := by
  rw [outcome_of_nameOf hname, hlines]
  constructor
  · intro h
    obtain ⟨path, hpath⟩ := mangle_of_nameOf hname
    have hchars : ∀ c ∈ name.text, Text.isWord c = true ∧ Text.isBlank c = false ∧ c ≠ '(' := by
      intro c hc
      exact mem_mangle (hpath ▸ hc)
    have hbracket : '(' ∉ endifLine name.text := by
      intro hc
      rcases List.mem_append.mp hc with hc | hc
      · exact absurd hc (by decide)
      · exact (hchars _ hc).2.2 rfl
    obtain ⟨n, hevents⟩ := events_of_guardedBy h (hpath ▸ mangle_ne_nil path)
      fun c hc => ⟨(hchars c hc).1, (hchars c hc).2.1⟩
    split
    · exact ⟨rfl, fun e he => absurd he List.not_mem_nil⟩
    · refine ⟨rfl, ?_⟩
      intro e he
      rcases List.mem_append.mp he with he | he
      · exact finding?_remarks he
      · rw [hevents] at he
        rw [List.mem_singleton.mp he, Event.finding?, Suppressions.unknown?_eq_none hbracket]
        rfl
  · intro guard h hne hblank hother hshown
    obtain ⟨n, hline, hsaid⟩ := events_of_guardedBy_ne h hne hblank hother
    refine ⟨n, hline, ?_⟩
    rw [if_neg]
    · exact List.mem_append_right _ hsaid
    · intro hany
      obtain ⟨line, hmem, hsuppressed⟩ := List.any_eq_true.mp hany
      rw [hshown line hmem] at hsuppressed
      cases hsuppressed

def checkout : FileTree where
  here := "/w".toList
  files := [("/w/my-lib/a.b.h".toList, some [])]
  directories := ["/w/.git".toList]

def headerLines (guard : String) : List Text :=
  ["// Copyright", "#if defined(A)", "#endif"].map String.toList ++
    ifndefLine guard.toList :: defineLine guard.toList ::
    (["#ifndef B", "#define B 1", "#endif  // B", "class C;"].map String.toList ++
      endifLine guard.toList :: ["// NOLINT(build/header)".toList])

theorem guardedBy_headerLines (guard : String) : GuardedBy guard.toList (headerLines guard) :=
  .intro _ _ _ (by decide +kernel) (by decide +kernel)

/-- The name of this header has characters that cannot stand in the name of a guard. A guard made from the last
part of it alone is not accepted. -/
theorem suggested_guard_is_accepted_checkout :
    (∃ name, nameOf checkout {} "my-lib/a.b.h".toList = .ok name ∧ name.text = "MY_LIB_A_B_H_".toList) ∧
    (∀ e ∈ (outcome checkout {} "my-lib/a.b.h".toList (.ofLines (headerLines "MY_LIB_A_B_H_"))).events,
      e.finding? = none) ∧
    ∃ n : Nat, (headerLines "A_B_H_")[n]? = some "#ifndef A_B_H_".toList ∧
      .report ⟨n, .buildHeaderGuard, 5, "#ifndef header guard has wrong style, please use: MY_LIB_A_B_H_"⟩
        ∈ (outcome checkout {} "my-lib/a.b.h".toList (.ofLines (headerLines "A_B_H_"))).events := by
  have hname : ∃ name, nameOf checkout {} "my-lib/a.b.h".toList = .ok name ∧ name.text = "MY_LIB_A_B_H_".toList := by
    have htext : (nameOf checkout {} "my-lib/a.b.h".toList).toOption.map Name.text
        = some "MY_LIB_A_B_H_".toList := by decide +kernel
    cases h : nameOf checkout {} "my-lib/a.b.h".toList with
    | error e =>
      rw [h] at htext
      cases htext
    | ok name =>
      rw [h] at htext
      exact ⟨name, rfl, Option.some.inj htext⟩
  have hlines : (Source.ofLines (headerLines "MY_LIB_A_B_H_")).lines.toList.map Line.plain
        = headerLines "MY_LIB_A_B_H_" ∧
      (Source.ofLines (headerLines "A_B_H_")).lines.toList.map Line.plain = headerLines "A_B_H_" := by decide +kernel
  refine ⟨hname, ?_⟩
  obtain ⟨name, hok, htext⟩ := hname
  obtain ⟨haccepted, -⟩ := suggested_guard_is_accepted checkout {} _ hok _ hlines.1
  obtain ⟨-, hrefused⟩ := suggested_guard_is_accepted checkout {} _ hok _ hlines.2
  rw [htext] at haccepted hrefused
  refine ⟨(haccepted (guardedBy_headerLines _)).2, ?_⟩
  exact hrefused "A_B_H_".toList (guardedBy_headerLines _) (by decide) (Text.forall_isBlank_eq_false (by decide))
    (by decide) (by decide +kernel)

end HeaderGuard

end StyleCheck
