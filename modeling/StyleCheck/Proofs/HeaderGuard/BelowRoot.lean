/-
  StyleCheck.Proofs.HeaderGuard.BelowRoot — guards below a root that the user has set.

  The root is compared with the name of the header, component by component (`below?_eq_some_iff`). If the name lies
  below the root, what follows it makes the guard, from its first component to its last (`below?_append`). A
  root that is only the beginning of a component does not count, and neither does one that the full path does not
  lie below: then the guard is made from the whole name (`path_of_outside`).
-/

import StyleCheck.Proofs.HeaderGuard.CheckoutPlace
import StyleCheck.Proofs.Path.Components

namespace StyleCheck.HeaderGuard

open StyleCheck.Path (NormalRelative SingleSlashed components)

/-! ## Below a directory -/

theorem below?_eq_some_iff {dir p : Text} {rest : List Text} :
    below? dir p = some rest ↔ components p = components dir ++ rest := by
  simp only [below?]
  constructor
  · intro h
    split at h
    · rename_i htake
      have hsplit := List.take_append_drop (components dir).length (components p)
      rw [eq_of_beq htake, Option.some.inj h] at hsplit
      exact hsplit.symm
    · cases h
  · intro h
    rw [h, List.take_left, List.drop_left, if_pos BEq.rfl]

theorem below?_append {r x : Text} (hr : Path.isRoot r = false) (h : SingleSlashed (r ++ '/' :: x)) :
    below? r (r ++ '/' :: x) = some (components x) := by
  rw [below?_eq_some_iff, Path.components_append hr h,
    Path.components_of_relative (h.head?_ne hr) (h.of_append hr)]

/-! ## The path of a header -/

section

variable {t : FileTree} {r : Text} {h : Header}

theorem path_of_inside (hr : r ≠ []) {rest : List Text} (hrest : rest ≠ []) (hinside : below? r h.name = some rest) :
    (path t (some r) h).1 = Path.joinAll rest := by
  obtain ⟨c, cs, rfl⟩ := List.exists_cons_of_ne_nil hrest
  obtain ⟨d, ds, rfl⟩ := List.exists_cons_of_ne_nil hr
  simp only [path, hinside]

/-- A root that nothing lies below is ignored. -/
theorem path_of_outside (hinside : ¬ components r <+: components h.name)
    (houtside : ¬ (components (t.resolve r) <+: components h.full ∧ components (t.resolve r) ≠ components h.full)) :
    (path t (some r) h).1 = h.name := by
  have hnone : below? r h.name = none := by
    rw [Option.eq_none_iff_forall_ne_some]
    intro rest hrest
    exact hinside ⟨rest, (below?_eq_some_iff.mp hrest).symm⟩
  cases r with
  | nil => rfl
  | cons c r =>
    simp only [path, hnone]
    split
    · rename_i d ds hbelow
      have hparts := below?_eq_some_iff.mp hbelow
      refine absurd ⟨⟨d :: ds, hparts.symm⟩, fun heq => ?_⟩ houtside
      rw [hparts] at heq
      exact List.cons_ne_nil d ds (List.append_right_eq_self.mp heq.symm)
    · rfl

end

/-- A root takes whole components off the name of a header. If the name lies below the root, the guard is made from
what follows; if it does not begin with the components of the root, and the full path does not lie below the root
either, the guard is made from the whole name. Taking components off and putting the others together changes nothing else,
since a path with no two slashes together is what its components, put together, give. -/
theorem root_takes_whole_components_off (t : FileTree) (settings : Settings) :
    (∀ p, SingleSlashed p →
      Path.joinAll (components p) = p ∧ ∀ c ∈ components p, '/' ∈ c → Path.isRoot c = true) ∧
    ∀ file q r, spelledOut (permanent file) = file → Repository.name t file = .ok q → NormalRelative q →
      settings.root = some r → NormalRelative r →
      (∀ x, q = r ++ '/' :: x → ∃ guard, nameOf t settings file = .ok guard ∧ guard.text = mangle x) ∧
      (¬ components r <+: components q →
        ¬ (components (t.resolve r) <+: components (Repository.fullName t file) ∧
          components (t.resolve r) ≠ components (Repository.fullName t file)) →
        ∃ guard, nameOf t settings file = .ok guard ∧ guard.text = mangle q) := by
  refine ⟨fun p hp => ⟨Path.joinAll_components hp, fun c => Path.isRoot_of_mem_components⟩, ?_⟩
  intro file q r hfile hname hq hroot hr
  have hguard : ∃ guard, nameOf t settings file = .ok guard ∧
      guard.text = mangle (path t (some r) ⟨q, Repository.fullName t file⟩).1 := by
    rw [← hfile] at hname
    obtain ⟨guard, hok, htext⟩ := nameOf_of_name settings hname
    rw [hroot, hfile] at htext
    exact ⟨guard, hok, htext⟩
  refine ⟨?_, ?_⟩
  · rintro x rfl
    have hx : SingleSlashed x := hq.singleSlashed.of_append hr.isRoot
    rw [path_of_inside hr.ne_nil (Path.components_ne_nil x) (below?_append hr.isRoot hq.singleSlashed),
      Path.joinAll_components hx] at hguard
    exact hguard
  · intro hinside houtside
    rw [path_of_outside hinside houtside] at hguard
    exact hguard

def sources : FileTree where
  here := "/top/src".toList
  files := [("/top/src/chrome/browser/ui/browser.h".toList, some [])]
  directories := ["/top/src/.git".toList]

/-- The root takes a component off the name, but not a part of one. -/
theorem root_takes_whole_components_off_sources :
    Path.joinAll (components "//top/src/chrome/".toList) = "//top/src/chrome/".toList ∧
    Repository.name sources "chrome/browser/ui/browser.h".toList = .ok "chrome/browser/ui/browser.h".toList ∧
    (∃ guard, nameOf sources { root := some "chrome".toList } "chrome/browser/ui/browser.h".toList = .ok guard ∧
      guard.text = "BROWSER_UI_BROWSER_H_".toList) ∧
    ∃ guard, nameOf sources { root := some "chro".toList } "chrome/browser/ui/browser.h".toList = .ok guard ∧
      guard.text = "CHROME_BROWSER_UI_BROWSER_H_".toList := by
  have hfile : spelledOut (permanent "chrome/browser/ui/browser.h".toList) = "chrome/browser/ui/browser.h".toList := by
    rw [permanent_of_not_isInfix (by decide +kernel) (by decide +kernel)]
    exact spelledOut_of_not_isInfix (by decide +kernel) (by decide +kernel)
  have hname : Repository.name sources "chrome/browser/ui/browser.h".toList = .ok "chrome/browser/ui/browser.h".toList := by
    decide +kernel
  have hq : NormalRelative "chrome/browser/ui/browser.h".toList := ⟨by decide +kernel, by decide +kernel⟩
  have hmangle : mangle "browser/ui/browser.h".toList = "BROWSER_UI_BROWSER_H_".toList ∧
      mangle "chrome/browser/ui/browser.h".toList = "CHROME_BROWSER_UI_BROWSER_H_".toList := by decide +kernel
  have hjoined := (root_takes_whole_components_off sources {}).1 "//top/src/chrome/".toList (by decide +kernel)
  have hinside := ((root_takes_whole_components_off sources { root := some "chrome".toList }).2 _ _ _ hfile hname hq rfl
    ⟨by decide +kernel, by decide +kernel⟩).1 "browser/ui/browser.h".toList rfl
  have houtside := ((root_takes_whole_components_off sources { root := some "chro".toList }).2 _ _ _ hfile hname hq rfl
    ⟨by decide +kernel, by decide +kernel⟩).2 (by decide +kernel) (by decide +kernel)
  rw [hmangle.1] at hinside
  rw [hmangle.2] at houtside
  exact ⟨hjoined.1, hname, hinside, houtside⟩

end StyleCheck.HeaderGuard
