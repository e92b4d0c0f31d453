/-
  StyleCheck.Proofs.Repository.Climb — whether the search for the top of a checkout ends.

  The search keeps two directories, the one it has come to and the one above it, and goes on as long as the one
  above has the mark of a checkout (`Climb`). Nothing in it asks whether it still gets higher. At the root of the file
  system both directories stay the same, so if the root has the mark as well, the search has no end.

  A search that ends is described by its rounds (`Ends`). What a round does to the two directories is what going up
  does to the first (`iterate_next_start`), so it ends at the first gap in the marks on the way up (`ends_start_iff`), and
  takes fewer rounds than the directory has components. `chainTop` finds the same directory as a search that ends, and
  fails for one that has no end (`chainTop_eq_ok_iff_ends`).
-/

import Mathlib.Data.Nat.Find
import StyleCheck.Proofs.Check.Checkout
import StyleCheck.Proofs.Path.Components

namespace StyleCheck.Repository

/-- A search for the top of a checkout: the directory it has come to, and the one above it. -/
structure Climb where
  dir : Text
  up : Text

namespace Climb

def start (dir : Text) : Climb := ⟨dir, Path.directory dir⟩

def goesOn (t : FileTree) (c : Climb) : Bool := hasEntry t c.up ".svn"

def next (c : Climb) : Climb := ⟨Path.directory c.dir, Path.directory c.up⟩

inductive Ends (t : FileTree) : Climb → Nat → Text → Prop
  | stop {c : Climb} (h : c.goesOn t = false) : Ends t c 0 c.dir
  | round {c : Climb} {n : Nat} {top : Text} (h : c.goesOn t = true) (rest : Ends t c.next n top) : Ends t c (n + 1) top

variable {t : FileTree} {c : Climb} {dir top : Text} {n : Nat}

/-- A search ends after the rounds in which it goes on. -/
theorem ends_iff : Ends t c n top ↔
    (∀ k < n, (next^[k] c).goesOn t = true) ∧ (next^[n] c).goesOn t = false ∧ top = (next^[n] c).dir := by
  induction n generalizing c with
  | zero =>
    constructor
    · intro h
      cases h with
      | stop h => exact ⟨nofun, h, rfl⟩
    · rintro ⟨-, h, rfl⟩
      exact .stop h
  | succ n ih =>
    constructor
    · intro h
      cases h with
      | round h rest =>
        obtain ⟨hbefore, hend, htop⟩ := ih.mp rest
        refine ⟨fun k hk => ?_, hend, htop⟩
        cases k with
        | zero => exact h
        | succ k => exact hbefore k (Nat.lt_of_succ_lt_succ hk)
    · rintro ⟨hbefore, hend, htop⟩
      exact .round (hbefore 0 n.succ_pos) (ih.mpr ⟨fun k hk => hbefore (k + 1) (Nat.succ_lt_succ hk), hend, htop⟩)

/-- The two directories are always one step apart. -/
theorem iterate_next_start (dir : Text) (n : Nat) : next^[n] (start dir) = start (Path.directory^[n] dir) :=
  have hstep : Function.Semiconj start Path.directory next := fun _ => rfl
  (hstep.iterate_right n dir).symm

theorem ends_start_iff : Ends t (start dir) n top ↔
    (∀ k < n, hasEntry t (Path.directory^[k + 1] dir) ".svn" = true) ∧
      hasEntry t (Path.directory^[n + 1] dir) ".svn" = false ∧ top = Path.directory^[n] dir := by
  simp only [ends_iff, iterate_next_start, Function.iterate_succ_apply']
  rfl

/-- The search ends just if there is a gap in the marks on the way up. -/
theorem exists_ends_iff : (∃ n top, Ends t (start dir) n top) ↔
    ∃ k, hasEntry t (Path.directory^[k + 1] dir) ".svn" = false := by
  simp only [ends_start_iff]
  constructor
  · rintro ⟨n, top, -, hend, -⟩
    exact ⟨n, hend⟩
  · intro hgap
    refine ⟨Nat.find hgap, _, fun k hk => ?_, Nat.find_spec hgap, rfl⟩
    rw [← Bool.not_eq_false]
    exact Nat.find_min hgap hk

/-- From the root on nothing changes, so the end is found before or never. -/
theorem Ends.lt_components (h : Ends t (start dir) n top) : n < (Path.components dir).length := by
  obtain ⟨hmarked, hgap, -⟩ := ends_start_iff.mp h
  by_contra hlong
  have hpos : 0 < (Path.components dir).length := List.length_pos_iff.mpr (Path.components_ne_nil dir)
  have hroot := hmarked ((Path.components dir).length - 1) (by omega)
  rw [Path.directory_iterate_end (by omega)] at hroot hgap
  exact absurd (hroot.symm.trans hgap) (by decide)

end Climb

open Climb (Ends)

variable {t : FileTree}

theorem chainTop_eq_ok_iff_ends {dir top : Text} :
    chainTop t dir = .ok top ↔ ∃ rounds, Ends t (.start dir) rounds top := by
  fun_induction chainTop t dir with
  | case1 dir up hmark hup =>
    refine iff_of_false (fun heq => by cases heq) ?_
    rintro ⟨rounds, hends⟩
    obtain ⟨-, hgap, -⟩ := Climb.ends_start_iff.mp hends
    rw [Function.iterate_fixed (show Path.directory dir = dir from hup), ← hup, hmark] at hgap
    cases hgap
  | case2 dir up hmark hup ih =>
    rw [ih]
    constructor
    · rintro ⟨rounds, hends⟩
      exact ⟨rounds + 1, .round hmark hends⟩
    · rintro ⟨rounds, hends⟩
      cases hends with
      | stop h => exact absurd (hmark.symm.trans h) (by decide)
      | round h rest => exact ⟨_, rest⟩
  | case3 dir up hmark =>
    rw [Bool.not_eq_true] at hmark
    constructor
    · intro heq
      obtain rfl := Except.ok.inj heq
      exact ⟨0, .stop hmark⟩
    · rintro ⟨rounds, hends⟩
      cases hends with
      | stop h => rfl
      | round h rest => exact absurd (hmark.symm.trans h) (by decide)

/-! ## The name of a file whose directory is marked -/

theorem endless_iff {p : Text} : Endless t p ↔ t.exists (fullName t p) = true ∧
    ∀ k < (Path.components (fullName t p)).length, hasEntry t (Path.directory^[k + 1] (fullName t p)) ".svn" = true := by
  refine and_congr_right fun _ => ⟨fun h k _ => h k, fun h k => ?_⟩
  by_cases hk : k < (Path.components (fullName t p)).length
  · exact h k hk
  · have hpos := List.length_pos_iff.mpr (Path.components_ne_nil (fullName t p))
    have hroot := h ((Path.components (fullName t p)).length - 1) (by omega)
    rw [Path.directory_iterate_end (by omega)] at hroot ⊢
    exact hroot

instance (t : FileTree) (p : Text) : Decidable (Endless t p) := decidable_of_iff' _ endless_iff

theorem name_of_ends {p top : Text} {rounds : Nat} (hthere : t.exists (fullName t p) = true)
    (hown : hasEntry t (Path.directory (fullName t p)) ".svn" = true)
    (h : Ends t (.start (Path.directory (fullName t p))) rounds top) :
    name t p = .ok ((fullName t p).drop (top.length + 1)) := by
  have htop := chainTop_eq_ok_iff_ends.mpr ⟨rounds, h⟩
  simp only [name, root?, hthere, hown, if_true, htop]
  rfl

/-- For a file that is there, its name is found just if some directory from its own up to the root lacks the mark of a
checkout. If its own has the mark, the search for the top of the checkout ends just then; it takes fewer rounds than
the directory has components, and the name is what follows the directory where it ends. It always ends if
the root has no mark. -/
theorem checkout_search_ends_iff_a_mark_is_missing (t : FileTree) (p : Text) (hthere : t.exists (fullName t p) = true) :
    ((∃ found, name t p = .ok found) ↔ ∃ k, hasEntry t (Path.directory^[k + 1] (fullName t p)) ".svn" = false) ∧
    (hasEntry t (Path.directory (fullName t p)) ".svn" = true →
      ((∃ rounds top, Ends t (.start (Path.directory (fullName t p))) rounds top) ↔
        ∃ k, hasEntry t (Path.directory^[k + 1] (fullName t p)) ".svn" = false) ∧
      ∀ rounds top, Ends t (.start (Path.directory (fullName t p))) rounds top →
        rounds < (Path.components (Path.directory (fullName t p))).length ∧
        name t p = .ok ((fullName t p).drop (top.length + 1))) ∧
    (hasEntry t ((fullName t p).takeWhile (· == '/')) ".svn" = false → ∃ found, name t p = .ok found) := by
  have hgap : ¬ Endless t p ↔ ∃ k, hasEntry t (Path.directory^[k + 1] (fullName t p)) ".svn" = false := by
    simp [Endless, hthere]
  have hfound : (∃ found, name t p = .ok found) ↔
      ∃ k, hasEntry t (Path.directory^[k + 1] (fullName t p)) ".svn" = false := by
    rw [← hgap]
    rcases name_cases t p with ⟨found, hok, hends⟩ | ⟨herror, hendless⟩
    · exact iff_of_true ⟨found, hok⟩ hends
    · refine iff_of_false ?_ (not_not.mpr hendless)
      rintro ⟨found, hok⟩
      cases hok.symm.trans herror
  refine ⟨hfound, fun hown => ⟨?_, fun rounds top hends => ⟨hends.lt_components, name_of_ends hthere hown hends⟩⟩, ?_⟩
  · rw [Climb.exists_ends_iff]
    constructor
    · rintro ⟨k, hk⟩
      exact ⟨k + 1, hk⟩
    · rintro ⟨k, hk⟩
      -- the first step leads to the directory of the file, which has the mark
      cases k with
      | zero => exact absurd (hown.symm.trans hk) (by decide)
      | succ k => exact ⟨k, hk⟩
  · intro hroot
    refine hfound.mpr ⟨(Path.components (fullName t p)).length, ?_⟩
    rw [Path.directory_iterate_end (Nat.le_succ _)]
    exact hroot

def markedRoot : FileTree where
  here := "/".toList
  files := [("/w/b/c/x.h".toList, some []), ("/a/x.h".toList, some [])]
  directories := ["/.svn".toList, "/a/.svn".toList, "/w/b/.svn".toList, "/w/b/c/.svn".toList]

/-- The search ends at the gap after one round; where there is none, the file has no name. -/
theorem checkout_search_ends_iff_a_mark_is_missing_markedRoot :
    (markedRoot.exists (fullName markedRoot "/w/b/c/x.h".toList) = true ∧
      Ends markedRoot (.start "/w/b/c".toList) 1 "/w/b".toList ∧
      name markedRoot "/w/b/c/x.h".toList = .ok "c/x.h".toList) ∧
    markedRoot.exists (fullName markedRoot "/a/x.h".toList) = true ∧
      (∀ rounds top, ¬ Ends markedRoot (.start "/a".toList) rounds top) ∧
      ∀ found, name markedRoot "/a/x.h".toList ≠ .ok found := by
  have hfull : fullName markedRoot "/w/b/c/x.h".toList = "/w/b/c/x.h".toList ∧
      fullName markedRoot "/a/x.h".toList = "/a/x.h".toList := by decide +kernel
  have hdir : Path.directory "/w/b/c/x.h".toList = "/w/b/c".toList ∧ Path.directory "/a/x.h".toList = "/a".toList := by
    decide +kernel
  have hthere : markedRoot.exists (fullName markedRoot "/w/b/c/x.h".toList) = true ∧
      markedRoot.exists (fullName markedRoot "/a/x.h".toList) = true := by decide +kernel
  have hends : Ends markedRoot (.start "/w/b/c".toList) 1 "/w/b".toList :=
    .round (by decide +kernel) (.stop (by decide +kernel))
  have hendless : Endless markedRoot "/a/x.h".toList := by decide +kernel
  obtain ⟨-, hgap, -⟩ := checkout_search_ends_iff_a_mark_is_missing markedRoot "/w/b/c/x.h".toList hthere.1
  obtain ⟨hfound, hsearch, -⟩ := checkout_search_ends_iff_a_mark_is_missing markedRoot "/a/x.h".toList hthere.2
  have hnone : ¬ ∃ k, hasEntry markedRoot (Path.directory^[k + 1] (fullName markedRoot "/a/x.h".toList)) ".svn" = false :=
    fun ⟨k, hk⟩ => absurd ((hendless.2 k).symm.trans hk) (by decide)
  rw [hfull.1, hdir.1] at hgap
  rw [hfull.2, hdir.2] at hsearch
  rw [hfull.2] at hnone
  refine ⟨⟨hthere.1, hends, ((hgap (by decide +kernel)).2 1 _ hends).2⟩, hthere.2, ?_, ?_⟩
  · intro rounds top h
    exact hnone ((hsearch (by decide +kernel)).1.mp ⟨rounds, top, h⟩)
  · intro found h
    rw [hfull.2] at hfound
    exact hnone (hfound.mp ⟨found, h⟩)

end StyleCheck.Repository
