/-
  StyleCheck.Proofs.Repository.Root — where the repository of a file begins.

  There are two ways up. If the directory of a file has the mark of a checkout that marks every directory, its
  root is the upper end of the chain of such marks (`ChainEnd`), and the way ends at the first gap. Otherwise the
  root is the topmost directory with a mark of any kind (`Topmost`), and the way goes on to the root of the file
  system. What one step of either way leaves to be found above is said by `Path.Tidy.above_iff`; from it follows
  what a whole way finds (`topmostMark_cases`, `chainTop_eq_ok_iff`), and that the root that is found is the
  one described (`root?_eq_some_iff`).
-/

import StyleCheck.Proofs.Path.Above
import StyleCheck.Repository

namespace StyleCheck.Repository

open StyleCheck.Path (Above isRoot Rooted Tidy)

/-- `dir` is marked and lies above the file, and no directory above `dir` is marked. -/
structure Topmost (t : FileTree) (full dir : Text) : Prop where
  above : Above dir full
  marked : hasMark t dir = true
  highest : ∀ d, Above d dir → hasMark t d = false

/-- All directories from that of the file up to `dir` have the mark of a checkout, and the one above `dir` has
none. -/
structure ChainEnd (t : FileTree) (full dir : Text) : Prop where
  above : Above dir full
  marked : ∀ d, Above d full → d = dir ∨ Above dir d → hasEntry t d ".svn" = true
  ends : hasEntry t (Path.directory dir) ".svn" = false

instance (t : FileTree) (full dir : Text) : Decidable (Topmost t full dir) :=
  decidable_of_iff (Above dir full ∧ hasMark t dir = true ∧ ∀ d, Above d dir → hasMark t d = false)
    ⟨fun ⟨above, marked, highest⟩ => ⟨above, marked, highest⟩, fun h => ⟨h.above, h.marked, h.highest⟩⟩

instance (t : FileTree) (full dir : Text) : Decidable (ChainEnd t full dir) :=
  decidable_of_iff (Above dir full ∧ (∀ d, Above d full → d = dir ∨ Above dir d → hasEntry t d ".svn" = true) ∧
      hasEntry t (Path.directory dir) ".svn" = false)
    ⟨fun ⟨above, marked, ends⟩ => ⟨above, marked, ends⟩, fun h => ⟨h.above, h.marked, h.ends⟩⟩

inductive IsRoot (t : FileTree) (full dir : Text) : Prop
  | chain (own : hasEntry t (Path.directory full) ".svn" = true) (ends : ChainEnd t full dir)
  | topmost (own : hasEntry t (Path.directory full) ".svn" = false) (top : Topmost t full dir)

section

variable {t : FileTree} {full dir top found : Text}

theorem Topmost.unique {other : Text} (h : Topmost t full dir) (h' : Topmost t full other) : dir = other := by
  rcases h.above.linear h'.above with heq | hup | hup
  · exact heq
  · exact absurd (h.marked.symm.trans (h'.highest dir hup)) (by decide)
  · exact absurd (h'.marked.symm.trans (h.highest other hup)) (by decide)

/-! ## The topmost mark -/

/-- On the way up from `dir` either no mark is met, or the result is the topmost directory that has one. -/
theorem topmostMark_cases (h : Tidy dir) (found : Text) :
    (topmostMark t dir found = found ∧ (isRoot dir = false → hasMark t dir = false) ∧
      ∀ d, Above d dir → hasMark t d = false) ∨
    (isRoot (topmostMark t dir found) = false ∧
      (topmostMark t dir found = dir ∨ Above (topmostMark t dir found) dir) ∧
      hasMark t (topmostMark t dir found) = true ∧
      ∀ d, Above d (topmostMark t dir found) → hasMark t d = false) := by
  fun_induction topmostMark t dir found with
  | case1 dir found up hup =>
    have hroot := h.directory_eq_self_iff.mp hup
    refine .inl ⟨rfl, ?_, fun d hd => absurd hd (Path.not_above_of_isRoot hroot)⟩
    intro hnot
    exact absurd (hnot.symm.trans hroot) (by decide)
  | case2 dir found up hup ih =>
    simp only [dite_eq_ite] at ih
    have hroot : isRoot dir = false := Bool.eq_false_iff.mpr (mt h.directory_eq_self_iff.mpr hup)
    rcases ih h.directory with ⟨hfound, hunmarked, habove⟩ | ⟨htop, hplace, hmark, hnone⟩
    · have hnone : ∀ d, Above d dir → hasMark t d = false := by
        intro d hd
        rcases h.above_iff.mp hd with ⟨rfl, hd⟩ | hd
        · exact hunmarked hd
        · exact habove d hd
      rw [hfound]
      cases hmark : hasMark t dir with
      | true => exact .inr ⟨hroot, .inl rfl, hmark, hnone⟩
      | false => exact .inl ⟨rfl, fun _ => rfl, hnone⟩
    · refine .inr ⟨htop, .inr (h.above_iff.mpr ?_), hmark, hnone⟩
      exact hplace.imp_left fun heq => ⟨heq, htop⟩

/-- If there is no chain, what is found is the topmost mark above the file. -/
theorem topmostMark_iff (h : Tidy full) :
    topmostMark t (Path.directory full) (Path.directory full) = dir ∧ hasMark t dir = true ∧ isRoot dir = false ↔
      Topmost t full dir := by
  rcases topmostMark_cases h.directory (Path.directory full) (t := t) with
    ⟨hfound, hown, hnone⟩ | ⟨hroot, hplace, hmark, hhighest⟩
  · constructor
    · rintro ⟨htop, hmark, hroot⟩
      obtain rfl := hfound.symm.trans htop
      exact absurd (hmark.symm.trans (hown hroot)) (by decide)
    · rintro ⟨habove, hmark, -⟩
      rcases h.above_iff.mp habove with ⟨rfl, hroot⟩ | hup
      · exact absurd (hmark.symm.trans (hown hroot)) (by decide)
      · exact absurd (hmark.symm.trans (hnone dir hup)) (by decide)
  · have htop : Topmost t full (topmostMark t (Path.directory full) (Path.directory full)) :=
      ⟨h.above_iff.mpr (hplace.imp_left fun heq => ⟨heq, hroot⟩), hmark, hhighest⟩
    constructor
    · rintro ⟨rfl, -⟩
      exact htop
    · intro hdir
      obtain rfl := htop.unique hdir
      exact ⟨rfl, hmark, hroot⟩

theorem exists_topmost (h : Tidy full) (hmarked : ∃ d, Above d full ∧ hasMark t d = true) :
    ∃ dir, Topmost t full dir := by
  rcases topmostMark_cases h.directory (Path.directory full) (t := t) with
    ⟨-, hown, hnone⟩ | ⟨hroot, hplace, hmark, hhighest⟩
  · obtain ⟨d, hd, hmark⟩ := hmarked
    rcases h.above_iff.mp hd with ⟨rfl, hroot⟩ | hup
    · exact absurd (hmark.symm.trans (hown hroot)) (by decide)
    · exact absurd (hmark.symm.trans (hnone d hup)) (by decide)
  · exact ⟨_, h.above_iff.mpr (hplace.imp_left fun heq => ⟨heq, hroot⟩), hmark, hhighest⟩

/-! ## The chain of marks -/

/-- The way up from `dir` ends at `top` just if all directories above `dir` and not above `top` have the mark,
and the next one has none. -/
theorem chainTop_eq_ok_iff (h : Tidy dir) (htop : isRoot top = false) :
    chainTop t dir = .ok top ↔ (top = dir ∨ Above top dir) ∧
      (∀ d, Above d dir → d = top ∨ Above top d → hasEntry t d ".svn" = true) ∧
      hasEntry t (Path.directory top) ".svn" = false := by
  fun_induction chainTop t dir with
  | case1 dir up hmark hup =>
    have hroot := h.directory_eq_self_iff.mp hup
    refine iff_of_false nofun ?_
    rintro ⟨rfl | habove, -⟩
    · exact absurd (htop.symm.trans hroot) (by decide)
    · exact Path.not_above_of_isRoot hroot habove
  | case2 dir up hmark hup ih =>
    rw [ih h.directory]
    constructor
    · rintro ⟨hplace, hchain, hends⟩
      refine ⟨.inr (h.above_iff.mpr (hplace.imp_left fun heq => ⟨heq, htop⟩)), fun d hd hbetween => ?_, hends⟩
      rcases h.above_iff.mp hd with ⟨rfl, -⟩ | hd
      · exact hmark
      · exact hchain d hd hbetween
    · rintro ⟨rfl | habove, hchain, hends⟩
      · exact absurd (hmark.symm.trans hends) (by decide)
      · refine ⟨(h.above_iff.mp habove).imp_left And.left, fun d hd => hchain d (h.above_iff.mpr (.inr hd)), hends⟩
  | case3 dir up hmark =>
    rw [Bool.not_eq_true] at hmark
    constructor
    · intro heq
      obtain rfl := Except.ok.inj heq
      refine ⟨.inl rfl, fun d hd hbetween => ?_, hmark⟩
      have hlt := hd.length_lt
      rcases hbetween with rfl | hd'
      · exact absurd hlt (Nat.lt_irrefl _)
      · exact absurd (Nat.lt_trans hlt hd'.length_lt) (Nat.lt_irrefl _)
    · rintro ⟨rfl | habove, hchain, -⟩
      · rfl
      · -- the gap is the next directory, which would have to belong to the chain
        have hgap : Above up dir ∧ (up = top ∨ Above top up) := by
          rcases h.above_iff.mp habove with ⟨rfl, hroot⟩ | hup
          · exact ⟨h.above_iff.mpr (.inl ⟨rfl, hroot⟩), .inl rfl⟩
          · have hroot : isRoot up = false := Bool.eq_false_iff.mpr fun hroot => Path.not_above_of_isRoot hroot hup
            exact ⟨h.above_iff.mpr (.inl ⟨rfl, hroot⟩), .inr hup⟩
        exact absurd ((hchain up hgap.1 hgap.2).symm.trans hmark) (by decide)

theorem chainTop_iff (h : Tidy full) (hown : hasEntry t (Path.directory full) ".svn" = true) :
    chainTop t (Path.directory full) = .ok dir ∧ isRoot dir = false ↔ ChainEnd t full dir := by
  constructor
  · rintro ⟨hchain, hroot⟩
    obtain ⟨hplace, hmarked, hends⟩ := (chainTop_eq_ok_iff h.directory hroot).mp hchain
    refine ⟨h.above_iff.mpr (hplace.imp_left fun heq => ⟨heq, hroot⟩), fun d hd hbetween => ?_, hends⟩
    rcases h.above_iff.mp hd with ⟨rfl, -⟩ | hd
    · exact hown
    · exact hmarked d hd hbetween
  · rintro ⟨habove, hmarked, hends⟩
    refine ⟨(chainTop_eq_ok_iff h.directory habove.1).mpr ⟨?_, ?_, hends⟩, habove.1⟩
    · exact (h.above_iff.mp habove).imp_left And.left
    · exact fun d hd => hmarked d (h.above_iff.mpr (.inr hd))

/-- A chain that begins below the root of the file system ends below it, if that has no mark. -/
theorem exists_chainTop {root : Text} (h : Rooted root dir) (hdir : isRoot dir = false)
    (hroot : hasEntry t root ".svn" = false) : ∃ top, chainTop t dir = .ok top ∧ isRoot top = false := by
  fun_induction chainTop t dir with
  | case1 dir up hmark hup => exact absurd (hdir.symm.trans (h.tidy.directory_eq_self_iff.mp hup)) (by decide)
  | case2 dir up hmark hup ih =>
    refine ih h.directory (Bool.eq_false_iff.mpr fun hall => ?_)
    have heq : up = root := h.directory.eq_root hall
    rw [heq, hroot] at hmark
    cases hmark
  | case3 dir up hmark => exact ⟨dir, rfl, hdir⟩

/-! ## The root, and the name of the file below it -/

/-- For a file that is there, the root below that of the file system is found as it is described. -/
theorem root?_eq_some_iff (h : Tidy full) (hthere : t.exists full = true) :
    root? t full = .ok (some dir) ∧ isRoot dir = false ↔ IsRoot t full dir := by
  unfold root?
  simp only [hthere, if_true]
  cases hown : hasEntry t (Path.directory full) ".svn" with
  | true =>
    have hmap : Except.map some (chainTop t (Path.directory full)) = .ok (some dir) ↔
        chainTop t (Path.directory full) = .ok dir := by
      cases chainTop t (Path.directory full) <;> simp [Except.map]
    simp only [if_true, hmap]
    rw [chainTop_iff h hown]
    refine ⟨.chain hown, fun hroot => ?_⟩
    cases hroot with
    | chain _ ends => exact ends
    | topmost own _ => exact absurd (own.symm.trans hown) (by decide)
  | false =>
    have hfound : (if hasMark t (topmostMark t (Path.directory full) (Path.directory full)) = true
        then some (topmostMark t (Path.directory full) (Path.directory full)) else none) = some dir ↔
        topmostMark t (Path.directory full) (Path.directory full) = dir ∧ hasMark t dir = true := by
      split
      · rename_i hmark
        rw [Option.some.injEq]
        exact ⟨fun heq => ⟨heq, heq ▸ hmark⟩, And.left⟩
      · rename_i hmark
        exact iff_of_false nofun fun ⟨heq, hmark'⟩ => hmark (heq ▸ hmark')
    simp only [Bool.false_eq_true, if_false, Except.ok.injEq, hfound]
    rw [and_assoc, topmostMark_iff h]
    refine ⟨.topmost hown, fun hroot => ?_⟩
    cases hroot with
    | chain own _ => exact absurd (own.symm.trans hown) (by decide)
    | topmost _ top => exact top

/-- A search that begins below the root of the file system comes to an end, if that has no mark. -/
theorem root?_cases {root : Text} (h : Rooted root full) (hdir : isRoot (Path.directory full) = false)
    (hroot : hasEntry t root ".svn" = false) :
    root? t full = .ok none ∨ ∃ top, root? t full = .ok (some top) ∧ isRoot top = false := by
  unfold root?
  split
  · simp only
    split
    · obtain ⟨top, htop, hbelow⟩ := exists_chainTop h.directory hdir hroot
      exact .inr ⟨top, by rw [htop]; rfl, hbelow⟩
    · rcases topmostMark_cases h.tidy.directory (Path.directory full) (t := t) with
        ⟨hfound, hown, -⟩ | ⟨hbelow, -, hmark, -⟩
      · rw [hfound, hown hdir]
        exact .inl rfl
      · rw [hmark]
        exact .inr ⟨_, rfl, hbelow⟩
  · exact .inl rfl

theorem IsRoot.above (h : IsRoot t full dir) : Above dir full := by
  cases h with
  | chain _ ends => exact ends.above
  | topmost _ top => exact top.above

theorem IsRoot.unique {other : Text} (htidy : Tidy full) (hthere : t.exists full = true) (h : IsRoot t full dir)
    (h' : IsRoot t full other) : dir = other := by
  have hdir := ((root?_eq_some_iff htidy hthere).mpr h).1
  have hother := ((root?_eq_some_iff htidy hthere).mpr h').1
  exact Option.some.inj (Except.ok.inj (hdir.symm.trans hother))

end

section

variable {t : FileTree} {p full dir : Text}

theorem fullName_eq (hfull : t.resolve p = full) (hslash : '\\' ∉ full) : fullName t p = full := by
  have hkeep : ∀ c ∈ full, (if c = '\\' then '/' else c) = id c := by
    intro c hc
    exact if_neg fun (heq : c = '\\') => hslash (heq ▸ hc)
  rw [fullName, hfull, Text.substitute_singleton, List.map_congr_left hkeep, List.map_id]

/-- The name of a file is what follows the root of its repository. -/
theorem name_of_isRoot (hfull : fullName t p = full) (htidy : Tidy full) (hthere : t.exists full = true)
    (hroot : IsRoot t full dir) : ∃ rest, full = dir ++ '/' :: rest ∧ name t p = .ok rest := by
  obtain ⟨rest, hrest⟩ := hroot.above.2
  refine ⟨rest, by rw [← hrest, List.append_assoc, List.singleton_append], ?_⟩
  rw [name, hfull, ((root?_eq_some_iff htidy hthere).mpr hroot).1]
  simp only [Except.map]
  rw [← hrest, show dir.length + 1 = (dir ++ ['/']).length by simp, List.drop_left]

/-- The name of a file is what follows the root of its repository, if it is there and in one; otherwise it is the
full path. -/
theorem name_rooted_cases {root : Text} (hfull : fullName t p = full) (h : Rooted root full)
    (hdir : isRoot (Path.directory full) = false) (hroot : hasEntry t root ".svn" = false) :
    (∃ dir rest, t.exists full = true ∧ IsRoot t full dir ∧ full = dir ++ '/' :: rest ∧ name t p = .ok rest) ∨
    ((t.exists full = true → ∀ dir, ¬ IsRoot t full dir) ∧ name t p = .ok full) := by
  cases hthere : t.exists full with
  | false =>
    refine .inr ⟨nofun, ?_⟩
    simp only [name, hfull, root?, hthere, Bool.false_eq_true, if_false]
    rfl
  | true =>
    rcases root?_cases h hdir hroot with hnone | ⟨top, htop, hbelow⟩
    · refine .inr ⟨fun _ dir hdir => ?_, ?_⟩
      · have hsome := ((root?_eq_some_iff h.tidy hthere).mpr hdir).1
        rw [hnone] at hsome
        cases hsome
      · rw [name, hfull, hnone]
        rfl
    · have hisRoot := (root?_eq_some_iff h.tidy hthere).mp ⟨htop, hbelow⟩
      obtain ⟨rest, hrest, hok⟩ := name_of_isRoot hfull h.tidy hthere hisRoot
      exact .inl ⟨top, rest, rfl, hisRoot, hrest, hok⟩

theorem name_of_unmarked (hfull : fullName t p = full) (htidy : Tidy full)
    (hnone : ∀ d, Above d full → hasMark t d = false) (hown : hasMark t (Path.directory full) = false) :
    name t p = .ok full := by
  have hroot : root? t full = .ok none := by
    have hsvn : hasEntry t (Path.directory full) ".svn" = false := (Bool.or_eq_false_iff.mp hown).2
    unfold root?
    split
    · have htop : hasMark t (topmostMark t (Path.directory full) (Path.directory full)) = false := by
        rcases topmostMark_cases htidy.directory (Path.directory full) (t := t) with
          ⟨hfound, -⟩ | ⟨hroot, hplace, -⟩
        · rw [hfound]
          exact hown
        · exact hnone _ (htidy.above_iff.mpr (hplace.imp_left fun heq => ⟨heq, hroot⟩))
      simp only [hsvn, htop, Bool.false_eq_true, if_false]
    · rfl
  rw [name, hfull, hroot]
  rfl

end

/-- The name of a file that is there, given its absolute path. If its directory has no mark of a checkout and some
directory above the file is marked, the name is what follows the topmost of these. If its directory has such a mark
and the chain of marks ends below the root, the name is what follows the upper end of the chain. If neither
its directory nor any directory above it is marked, the name is the path itself. -/
theorem names_follow_the_right_root (t : FileTree) (p : Text) {full : Text} (hfull : t.resolve p = full)
    (habsolute : Path.isAbsolute full = true) (hslash : '\\' ∉ full) (hthere : t.exists full = true) :
    (hasEntry t (Path.directory full) ".svn" = false → (∃ d, Above d full ∧ hasMark t d = true) →
      ∃ dir rest, Topmost t full dir ∧ full = dir ++ '/' :: rest ∧ name t p = .ok rest) ∧
    (hasEntry t (Path.directory full) ".svn" = true → ∀ dir, ChainEnd t full dir →
      ∃ rest, full = dir ++ '/' :: rest ∧ name t p = .ok rest) ∧
    ((∀ d, Above d full → hasMark t d = false) → hasMark t (Path.directory full) = false → name t p = .ok full) := by
  have htidy : Tidy full := by
    rw [← hfull] at habsolute ⊢
    exact Path.tidy_normal habsolute
  have hname := fullName_eq hfull hslash
  refine ⟨?_, ?_, ?_⟩
  · intro hown hmarked
    obtain ⟨dir, htop⟩ := exists_topmost htidy hmarked
    obtain ⟨rest, hrest, hok⟩ := name_of_isRoot hname htidy hthere (.topmost hown htop)
    exact ⟨dir, rest, htop, hrest, hok⟩
  · intro hown dir hends
    exact name_of_isRoot hname htidy hthere (.chain hown hends)
  · exact name_of_unmarked hname htidy

def places : FileTree where
  here := "/w/a/b".toList
  files := [("/w/a/b/x.h".toList, some []), ("/s/t/u/x.h".toList, some []), ("/f/x.h".toList, some [])]
  directories := ["/w/.git".toList, "/w/a/.hg".toList, "/s/t/u/.svn".toList, "/s/t/.svn".toList]

/-- The topmost mark counts, the upper end of the chain counts, and without a mark the whole path is the name. -/
theorem names_follow_the_right_root_places :
    (places.resolve "x.h".toList = "/w/a/b/x.h".toList ∧ Topmost places "/w/a/b/x.h".toList "/w".toList ∧
      name places "x.h".toList = .ok "a/b/x.h".toList) ∧
    (places.resolve "/s/t/u/x.h".toList = "/s/t/u/x.h".toList ∧ ChainEnd places "/s/t/u/x.h".toList "/s/t".toList ∧
      name places "/s/t/u/x.h".toList = .ok "u/x.h".toList) ∧
    places.resolve "../../../f/x.h".toList = "/f/x.h".toList ∧
      name places "../../../f/x.h".toList = .ok "/f/x.h".toList := by
  have hfull : places.resolve "x.h".toList = "/w/a/b/x.h".toList ∧
      places.resolve "/s/t/u/x.h".toList = "/s/t/u/x.h".toList ∧
      places.resolve "../../../f/x.h".toList = "/f/x.h".toList := by decide +kernel
  have htop : Topmost places "/w/a/b/x.h".toList "/w".toList := by decide +kernel
  have hends : ChainEnd places "/s/t/u/x.h".toList "/s/t".toList := by decide +kernel
  obtain ⟨hmarked, -, -⟩ := names_follow_the_right_root places "x.h".toList hfull.1
    (by decide) (by decide) (by decide +kernel)
  obtain ⟨-, hchain, -⟩ := names_follow_the_right_root places "/s/t/u/x.h".toList hfull.2.1
    (by decide) (by decide) (by decide +kernel)
  obtain ⟨-, -, hnone⟩ := names_follow_the_right_root places "../../../f/x.h".toList hfull.2.2
    (by decide) (by decide) (by decide +kernel)
  refine ⟨⟨hfull.1, htop, ?_⟩, ⟨hfull.2.1, hends, ?_⟩, hfull.2.2, hnone (by decide +kernel) (by decide +kernel)⟩
  · obtain ⟨dir, rest, hdir, hrest, hok⟩ := hmarked (by decide +kernel) ⟨_, htop.above, htop.marked⟩
    obtain rfl := hdir.unique htop
    have hsplit : "/w".toList ++ '/' :: "a/b/x.h".toList = "/w".toList ++ '/' :: rest := hrest
    rw [hok, (List.cons.inj (List.append_cancel_left hsplit)).2]
  · obtain ⟨rest, hrest, hok⟩ := hchain (by decide +kernel) _ hends
    have hsplit : "/s/t".toList ++ '/' :: "u/x.h".toList = "/s/t".toList ++ '/' :: rest := hrest
    rw [hok, (List.cons.inj (List.append_cancel_left hsplit)).2]

end StyleCheck.Repository
