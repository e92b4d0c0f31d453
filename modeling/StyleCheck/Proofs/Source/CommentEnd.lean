/-
  StyleCheck.Proofs.Source.CommentEnd — on which line a block comment ends.

  The search for the end of a comment begins on the line that opens it. That a line goes beyond itself is asked
  with a closing mark looked for after the opening mark; that it closes a comment, with one looked for at its
  end. The two questions can be answered with yes for one line only, where the star of the opening mark is
  taken for the star of a closing one (`closesBlock_iff_sharesStar`).

  1. A search beginning on a line stays on it just if the line meets the test (`FromEnd.nextLine_of_get?`).
     So a comment ends below the line that opens it, unless that line shares its star.
  2. With such a line, one line is blanked and reading goes on inside of the comment: the closing mark has not
     been met yet (`Fills.over_iff`). Every other comment takes two lines or more and is over when reading goes on.
-/

import StyleCheck.FromEnd
import StyleCheck.Proofs.Source.IncludeView
import StyleCheck.Proofs.Source.Unclosed

namespace StyleCheck

/-! ## Searches that may begin at the end -/

namespace FromEnd

variable {α : Type} {xs : List α} {i : Int} {x : α}

theorem lt_length_of_get? (h : get? xs i = some x) : i < xs.length := by
  unfold get? at h
  split at h
  · have hlt := (List.getElem?_eq_some_iff.mp h).1
    omega
  · omega

/-- A search that begins at an element meets it first, and then the elements at later positions. -/
theorem onwards_of_get? (h : get? xs i = some x) :
    ∃ rest, onwards xs i = .ok ((i, x) :: rest) ∧ ∀ met ∈ rest, i < met.1 := by
  have hnumbered : ∀ k : Nat, xs[k]? = some x → ∃ rest : List (Int × α),
      numbered i (xs.drop k) = (i, x) :: rest ∧ ∀ met ∈ rest, i < met.1 := by
    intro k hk
    obtain ⟨hlt, hget⟩ := List.getElem?_eq_some_iff.mp hk
    refine ⟨(xs.drop (k + 1)).mapIdx fun j y => (i + ((j + 1 : Nat) : Int), y), ?_, ?_⟩
    · rw [List.drop_eq_getElem_cons hlt, numbered, List.mapIdx_cons, hget]
      simp
    · intro met hmet
      obtain ⟨j, hj, rfl⟩ := List.mem_mapIdx.mp hmet
      show i < i + ((j + 1 : Nat) : Int)
      omega
  unfold get? at h
  unfold onwards
  split at h
  · rename_i hpos
    obtain ⟨rest, hrest, hlater⟩ := hnumbered _ h
    exact ⟨rest, by simp only [if_pos hpos, hrest], hlater⟩
  · rename_i hneg
    split at h
    · rename_i hin
      obtain ⟨rest, hrest, hlater⟩ := hnumbered _ h
      refine ⟨rest ++ numbered 0 xs, ?_, ?_⟩
      · simp only [if_neg hneg, if_pos hin, hrest, List.cons_append]
      intro met hmet
      rcases List.mem_append.mp hmet with hmet | hmet
      · exact hlater met hmet
      · obtain ⟨j, hj, rfl⟩ := List.mem_mapIdx.mp hmet
        show i < 0 + (j : Int)
        omega
    · cases h

/-- What a search meets stands at the position it is met at. -/
theorem get?_of_mem_onwards {all : List (Int × α)} (h : onwards xs i = .ok all) {met : Int × α} (hmet : met ∈ all) :
    get? xs met.1 = some met.2 := by
  unfold onwards at h
  split at h
  · cases h
    obtain ⟨j, hj, rfl⟩ := List.mem_mapIdx.mp hmet
    rw [get?, if_pos (show 0 ≤ i + (j : Int) by omega), List.getElem_drop]
    rw [show (i + (j : Int)).toNat = i.toNat + j by omega]
    exact List.getElem?_eq_getElem _
  · split at h
    · cases h
      rcases List.mem_append.mp hmet with hmet | hmet
      · obtain ⟨j, hj, rfl⟩ := List.mem_mapIdx.mp hmet
        rw [List.length_drop] at hj
        rw [get?, if_neg (show ¬ 0 ≤ i + (j : Int) by omega), if_pos (by omega), List.getElem_drop]
        rw [show ((xs.length : Int) + (i + (j : Int))).toNat = ((xs.length : Int) + i).toNat + j by omega]
        exact List.getElem?_eq_getElem _
      · obtain ⟨j, hj, rfl⟩ := List.mem_mapIdx.mp hmet
        rw [get?, if_pos (show 0 ≤ (0 : Int) + (j : Int) by omega)]
        rw [show ((0 : Int) + (j : Int)).toNat = j by omega]
        exact List.getElem?_eq_getElem hj
    · cases h

variable {test : Text → Bool} {lines : List Text} {line : Text} {b : Int}

theorem nextLine_eq (test : Text → Bool) {all : List (Int × Text)} (h : onwards lines i = .ok all) :
    nextLine test lines i = .ok (((all.find? fun met => test met.2).map (·.1)).getD lines.length) := by
  rw [nextLine, h]
  rfl

/-- The line found meets the test. -/
theorem get?_of_nextLine (h : nextLine test lines i = .ok b) (hb : b ≠ lines.length) :
    ∃ line, get? lines b = some line ∧ test line = true := by
  cases hall : onwards lines i with
  | error failure =>
    rw [nextLine, hall] at h
    cases h
  | ok all =>
    rw [nextLine_eq test hall] at h
    cases hfind : all.find? fun met => test met.2 with
    | none =>
      rw [hfind] at h
      exact absurd (Except.ok.inj h).symm hb
    | some met =>
      rw [hfind] at h
      obtain rfl : met.1 = b := Except.ok.inj h
      exact ⟨met.2, get?_of_mem_onwards hall (List.mem_of_find?_eq_some hfind), by simpa using List.find?_some hfind⟩

/-- A search stays on the line it begins on just if the line meets the test. -/
theorem nextLine_of_get? (test : Text → Bool) (h : get? lines b = some line) :
    ∃ e, nextLine test lines b = .ok e ∧ b ≤ e ∧ (b < e ↔ test line = false) := by
  obtain ⟨rest, hall, hlater⟩ := onwards_of_get? h
  refine ⟨_, nextLine_eq test hall, ?_⟩
  by_cases htest : test line = true
  · rw [List.find?_cons_of_pos (p := fun met : Int × Text => test met.2) htest]
    simp [htest]
  · rw [List.find?_cons_of_neg (p := fun met : Int × Text => test met.2) htest]
    have hlt : b < ((rest.find? fun met => test met.2).map (·.1)).getD (lines.length : Int) := by
      cases hfind : rest.find? fun met => test met.2 with
      | none => exact lt_length_of_get? h
      | some met => exact hlater met (List.mem_of_find?_eq_some hfind)
    exact ⟨Int.le_of_lt hlt, iff_of_true hlt (by simpa using htest)⟩

end FromEnd

/-! ## A shared star -/

namespace Comment

def sharedStar : Text := "/*/".toList

def SharesStar (line : Text) : Prop := Text.strip line = sharedStar

instance (line : Text) : Decidable (SharesStar line) := inferInstanceAs (Decidable (_ = _))

/-- A line opens a comment if nothing but blanks stands before the opening mark and no closing mark after it. -/
theorem opensBlock_iff {line : Text} :
    opensBlock line = true ↔ ∃ rest, Text.strip line = '/' :: '*' :: rest ∧ ¬ "*/".toList <:+: rest := by
  unfold opensBlock
  generalize Text.strip line = s
  constructor
  · intro h
    obtain ⟨hstarts, hnone⟩ := Bool.and_eq_true_iff.mp h
    obtain ⟨rest, rfl⟩ := List.isPrefixOf_iff_prefix.mp hstarts
    have hlocate : Text.locate? "*/".toList rest = none := by simpa [Text.locateFrom?] using hnone
    exact ⟨rest, rfl, Text.not_infix_of_locate?_eq_none hlocate⟩
  · rintro ⟨rest, rfl, hfree⟩
    have hlocate := Text.locate?_eq_none_of_not_isInfix (show "*/".toList ≠ [] by decide) hfree
    simp only [Text.startsWith, Text.locateFrom?, List.drop_succ_cons, List.drop_zero, hlocate]
    rfl

/-- A line that opens a comment closes one only if the two marks share their star. -/
theorem closesBlock_iff_sharesStar {line : Text} (h : opensBlock line = true) :
    closesBlock line = true ↔ SharesStar line := by
  obtain ⟨rest, hstrip, hfree⟩ := opensBlock_iff.mp h
  unfold closesBlock SharesStar
  rw [hstrip]
  constructor
  · intro hends
    have hsuffix : ['*', '/'] <:+ '/' :: '*' :: rest := List.isSuffixOf_iff_suffix.mp hends
    rcases List.suffix_cons_iff.mp hsuffix with hwhole | hsuffix
    · cases hwhole
    · rcases List.suffix_cons_iff.mp hsuffix with hwhole | hsuffix
      · cases hwhole
        rfl
      · exact absurd hsuffix.isInfix hfree
  · intro hshared
    rw [hshared]
    decide

theorem strip_isInfix (s : Text) : Text.strip s <:+: s :=
  (Text.stripRight_isPrefix _).isInfix.trans (List.dropWhile_suffix _).isInfix

/-- The comment that line `b` opens is over at the end of line `e`: its closing mark stands after the opening
mark, or on a line below. -/
def Over (lines : List Text) (b e : Nat) : Prop :=
  (∃ line, lines[b]? = some line ∧ "*/".toList <:+: (Text.strip line).drop 2) ∨
  ∃ j line, b < j ∧ j ≤ e ∧ lines[j]? = some line ∧ "*/".toList <:+: line

namespace Fills

variable {lines : List Text} {b e : Nat} {opener : Text}

theorem lt_iff (h : Fills lines b e) (hl : lines[b]? = some opener) : b < e ↔ ¬ SharesStar opener := by
  obtain ⟨line, hline, hopen⟩ := h.opens
  rw [hl] at hline
  cases hline
  rw [← closesBlock_iff_sharesStar hopen]
  constructor
  · intro hlt
    simp [h.first b opener (Nat.le_refl b) hlt hl]
  · intro hclose
    refine Nat.lt_of_le_of_ne h.order ?_
    rintro rfl
    obtain ⟨closer, hcloser, hcloses⟩ := h.closes
    rw [hl] at hcloser
    cases hcloser
    exact hclose hcloses

/-- A comment is over where its last line ends, unless that is the line that opens it. -/
theorem over_iff (h : Fills lines b e) : Over lines b e ↔ b < e := by
  constructor
  · rintro (⟨line, hl, hmark⟩ | ⟨j, line, hlow, hhigh, -, -⟩)
    · -- the line that opens the comment goes beyond itself
      obtain ⟨opener, hopener, hopen⟩ := h.opens
      rw [hl] at hopener
      cases hopener
      obtain ⟨rest, hstrip, hfree⟩ := opensBlock_iff.mp hopen
      rw [hstrip] at hmark
      exact absurd hmark hfree
    · omega
  · intro hlt
    obtain ⟨closer, hcloser, hcloses⟩ := h.closes
    have hsuffix : "*/".toList <:+ Text.strip closer := List.isSuffixOf_iff_suffix.mp hcloses
    exact .inr ⟨e, closer, hlt, Nat.le_refl e, hcloser, hsuffix.isInfix.trans (strip_isInfix closer)⟩

end Fills

/-- The search for the end of a comment that a search for its opening has found ends on a later line, unless the
line that opens it shares its star: then it ends on that line. Blanking takes two lines or more for every other
comment, which is over when reading goes on. It takes one line for a comment with a shared star, and reading
goes on inside of the comment. -/
theorem comments_end_on_a_later_line_unless_star_is_shared (lines : List Text) :
    (∀ i b : Int, FromEnd.nextOpening lines i = .ok b → b ≠ lines.length →
      ∃ (opener : Text) (e : Int), FromEnd.get? lines b = some opener ∧ FromEnd.nextClosing lines b = .ok e ∧ b ≤ e ∧
        (b < e ↔ ¬ SharesStar opener)) ∧
    ∀ (b e : Nat) (opener : Text), Fills lines b e → lines[b]? = some opener →
      (∀ number, (blankBlocks number (lines.drop b)).1 = List.replicate (e + 1 - b) blankLine ++
        (blankBlocks (number + (e + 1 - b)) (lines.drop (e + 1))).1) ∧
      (2 ≤ e + 1 - b ↔ ¬ SharesStar opener) ∧ (Over lines b e ↔ ¬ SharesStar opener) := by
  constructor
  · intro i b hb hline
    obtain ⟨opener, hopener, hopen⟩ := FromEnd.get?_of_nextLine hb hline
    obtain ⟨e, he, hle, hlt⟩ := FromEnd.nextLine_of_get? closesBlock hopener
    refine ⟨opener, e, hopener, he, hle, ?_⟩
    rw [hlt, ← closesBlock_iff_sharesStar hopen, Bool.not_eq_true]
  · intro b e opener hf hl
    have hlt := hf.lt_iff hl
    refine ⟨fun number => by rw [blankBlocks_of_fills hf], ?_, hf.over_iff.trans hlt⟩
    rw [← hlt]
    omega

def slashComments : List Text :=
  ["/*/".toList, "int n;".toList, "*/".toList, "/* a".toList, "b */".toList]

/-- The first comment is taken to end on the line that opens it, where it is not over. -/
theorem comments_end_on_a_later_line_unless_star_is_shared_slash :
    (∃ e, FromEnd.nextClosing slashComments 0 = .ok e ∧ ¬ 0 < e) ∧ ¬ Over slashComments 0 0 ∧
    ∃ e, FromEnd.nextClosing slashComments 3 = .ok e ∧ 3 < e := by
  obtain ⟨hsearch, hblanked⟩ := comments_end_on_a_later_line_unless_star_is_shared slashComments
  have hfirst : FromEnd.nextOpening slashComments 0 = .ok 0 := by decide +kernel
  have hsecond : FromEnd.nextOpening slashComments 1 = .ok 3 := by decide +kernel
  have hfills : Fills slashComments 0 0 :=
    ⟨Nat.le_refl 0, ⟨_, rfl, by decide +kernel⟩, ⟨_, rfl, by decide +kernel⟩, fun j _ _ hj => by omega⟩
  obtain ⟨opener, e, hopener, he, -, hlt⟩ := hsearch 0 0 hfirst (by decide)
  obtain ⟨opener', e', hopener', he', -, hlt'⟩ := hsearch 1 3 hsecond (by decide)
  cases hopener
  cases hopener'
  refine ⟨⟨e, he, ?_⟩, ?_, e', he', ?_⟩
  · rw [hlt]
    decide +kernel
  · rw [(hblanked 0 0 _ hfills rfl).2.2]
    decide +kernel
  · rw [hlt']
    decide +kernel

end Comment

end StyleCheck
