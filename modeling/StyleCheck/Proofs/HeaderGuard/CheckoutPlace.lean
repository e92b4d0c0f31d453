/-
  StyleCheck.Proofs.HeaderGuard.CheckoutPlace — guards and the place of a checkout.

  The name of a guard should be made from the path of a header within its checkout, so that it is the same
  wherever the checkout lies. But the name of the language is spelled out before the root of the checkout is looked
  for, in the whole path, and the search is made for the path that results. Spelling out works on every component of
  a path by itself (`spelledOut_append`) and makes a path of the same kind (`rooted_spelledOut`). So the guard leaves
  out the place of the checkout just if the spelled-out path leads to a file in a checkout of its own, with the
  spelled-out root; if it leads nowhere, the guard is made from all of it.
-/

import StyleCheck.HeaderGuard.Name
import StyleCheck.Proofs.Pattern.Literal
import StyleCheck.Proofs.Repository.Root

namespace StyleCheck

namespace Repository

open StyleCheck.Path (Above Rooted)

/-- The file is there, it lies in a checkout at `dir`, and no other directory from that of the file up to the root
is marked. -/
structure SoleCheckout (t : FileTree) (full dir : Text) : Prop where
  absolute : Path.isAbsolute full = true
  normal : Path.normal full = full
  there : t.exists full = true
  above : Above dir full
  marked : hasEntry t dir ".git" = true
  sole : ∀ d, Above d full → d ≠ dir → hasMark t d = false
  root : hasMark t (Path.rootOf full) = false

namespace SoleCheckout

variable {t : FileTree} {full dir : Text}

theorem rooted (h : SoleCheckout t full dir) : Rooted (Path.rootOf full) full := by
  have habsolute := h.absolute
  rw [← h.normal] at habsolute
  obtain ⟨root, hrooted⟩ := Path.exists_rooted_normal habsolute
  rw [h.normal] at hrooted
  rw [hrooted.rootOf]
  exact hrooted

/-- The directory where the file is checked out is the root that is looked for. -/
theorem isRoot (h : SoleCheckout t full dir) : IsRoot t full dir := by
  have htidy := h.rooted.tidy
  cases hown : hasEntry t (Path.directory full) ".svn" with
  | false =>
    refine .topmost hown ⟨h.above, by simp [hasMark, h.marked], ?_⟩
    intro d hd
    refine h.sole d (hd.trans h.above) ?_
    rintro rfl
    exact absurd hd.length_lt (Nat.lt_irrefl _)
  | true =>
    have hdirectory : Above (Path.directory full) full :=
      htidy.above_iff.mpr (.inl ⟨rfl, htidy.isRoot_directory h.above⟩)
    -- the directory of the file is marked, so it is the one of the checkout
    have hdir : Path.directory full = dir := by
      by_contra hne
      have hnot := h.sole _ hdirectory hne
      simp [hasMark, hown] at hnot
    subst hdir
    refine .chain hown ⟨hdirectory, ?_, ?_⟩
    · intro d hd hbetween
      rcases hbetween with rfl | hbelow
      · exact hown
      · rcases htidy.above_iff.mp hd with ⟨rfl, -⟩ | hd
        · exact hown
        · exact absurd (Nat.lt_trans hd.length_lt hbelow.length_lt) (Nat.lt_irrefl _)
    · have hunmarked : hasMark t (Path.directory (Path.directory full)) = false := by
        cases hroot : Path.isRoot (Path.directory (Path.directory full)) with
        | true => rw [h.rooted.directory.directory.eq_root hroot, h.root]
        | false =>
          have hup : Above (Path.directory (Path.directory full)) (Path.directory full) :=
            htidy.directory.above_iff.mpr (.inl ⟨rfl, hroot⟩)
          refine h.sole _ (hup.trans hdirectory) ?_
          intro heq
          rw [heq] at hup
          exact absurd hup.length_lt (Nat.lt_irrefl _)
      exact (Bool.or_eq_false_iff.mp hunmarked).2

end SoleCheckout

end Repository

namespace HeaderGuard

open Pattern

/-! ## Spelling out -/

theorem spelledOut_append (s t : Text) : spelledOut (s ++ '/' :: t) = spelledOut s ++ '/' :: spelledOut t := by
  have hslash : '/' ∉ "C++".toList ∧ '/' ∉ "c++".toList := by decide
  unfold spelledOut
  rw [Text.substitute_append_cons hslash.1 (by decide), Text.substitute_append_cons hslash.2 (by decide)]

theorem spelledOut_eq_or_mem (s : Text) : spelledOut s = s ∨ 'p' ∈ spelledOut s := by
  have hp : 'p' ∈ "cpp".toList := by decide
  unfold spelledOut
  rcases Text.substitute_eq_or_mem "c++".toList hp (Text.substitute "C++".toList "cpp".toList s) with heq | hmem
  · rw [heq]
    exact Text.substitute_eq_or_mem "C++".toList hp s
  · exact .inr hmem

theorem notMem_spelledOut {s : Text} {x : Char} (h : x ∉ s) (hx : x ∉ "cpp".toList) : x ∉ spelledOut s := by
  intro hmem
  rcases Text.mem_substitute hmem with hmem | hmem
  · exact (Text.mem_substitute hmem).elim h hx
  · exact hx hmem

theorem spelledOut_of_not_isInfix {s : Text} (h : ¬ "C++".toList <:+: s) (h' : ¬ "c++".toList <:+: s) :
    spelledOut s = s := by
  unfold spelledOut
  rw [Text.substitute_of_not_isInfix h, Text.substitute_of_not_isInfix h']

theorem isComponent_spelledOut {c : Text} (h : Path.IsComponent c) : Path.IsComponent (spelledOut c) := by
  have hslash : '/' ∉ spelledOut c := notMem_spelledOut h.noSlash (by decide)
  rcases spelledOut_eq_or_mem c with heq | hp
  · rw [heq]
    exact h
  · refine ⟨List.ne_nil_of_mem hp, hslash, ?_, ?_⟩ <;>
    · intro heq
      rw [heq] at hp
      exact absurd hp (by decide)

theorem spelledOut_joinWith (parts : List Text) :
    spelledOut (Text.joinWith ['/'] parts) = Text.joinWith ['/'] (parts.map spelledOut) := by
  fun_induction Text.joinWith ['/'] parts with
  | case1 => rfl
  | case2 c => rfl
  | case3 c rest hrest ih =>
    obtain ⟨next, rest, rfl⟩ := List.exists_cons_of_ne_nil hrest
    rw [List.append_assoc, List.singleton_append, spelledOut_append, ih]
    simp [Text.joinWith]

theorem rooted_spelledOut {root p : Text} (h : Path.Rooted root p) : Path.Rooted root (spelledOut p) := by
  obtain ⟨parts, hparts, rfl⟩ := h.parts
  refine ⟨h.slashes, parts.map spelledOut, ?_, ?_⟩
  · intro c hc
    obtain ⟨part, hpart, rfl⟩ := List.mem_map.mp hc
    exact isComponent_spelledOut (hparts part hpart)
  · have hslash (s : Text) : spelledOut ('/' :: s) = '/' :: spelledOut s := spelledOut_append [] s
    rcases h.slashes with rfl | rfl <;> simp [hslash, spelledOut_joinWith]

theorem isRoot_spelledOut {s : Text} (h : Path.isRoot s = false) : Path.isRoot (spelledOut s) = false := by
  rcases spelledOut_eq_or_mem s with heq | hp
  · rw [heq]
    exact h
  · rw [Bool.eq_false_iff]
    intro hall
    exact absurd (List.all_eq_true.mp hall 'p' hp) (by decide)

theorem resolve_of_rooted (t : FileTree) {root p : Text} (h : Path.Rooted root p) : t.resolve p = p := by
  have habsolute := h.tidy.absolute
  unfold FileTree.resolve Path.resolve Path.join
  rw [if_pos habsolute, h.normal]

/-! ## Names of temporary files -/

theorem permanent_of_not_isInfix {p : Text} (h : ¬ "_flymake.h".toList <:+: p) (h' : ¬ "/.flymake/".toList <:+: p) :
    permanent p = p := by
  have hname : temporaryName.search? p = none := by
    rw [search?_eq]
    refine searchFrom?_eq_none ?_ none 0
    intro c hc
    rw [Option.eq_none_iff_forall_ne_some]
    intro d hd
    apply h
    rcases run_literal_finish hd with hrest | hrest
    · exact hrest ▸ hc.isInfix
    · exact (List.prefix_append _ _).isInfix.trans (hrest ▸ hc.isInfix)
  have hdir : temporaryDirectory.search? p = none := by
    rw [search?_eq]
    refine searchFrom?_eq_none ?_ none 0
    intro c hc
    rw [Option.eq_none_iff_forall_ne_some]
    intro d hd
    obtain ⟨rest, hrest, -⟩ := run_literal hd
    exact h' ((List.prefix_append _ _).isInfix.trans (hrest ▸ hc.isInfix))
  simp only [permanent, replaceAll_of_none hname, hdir]

/-! ## The guard -/

theorem nameOf_of_name {t : FileTree} (settings : Settings) {p name : Text}
    (hname : Repository.name t (spelledOut (permanent p)) = .ok name) :
    ∃ guard, nameOf t settings p = .ok guard ∧
      guard.text = mangle (path t settings.root ⟨name, Repository.fullName t (spelledOut (permanent p))⟩).1 := by
  simp only [nameOf, hname]
  exact ⟨_, rfl, rfl⟩

theorem nameOf_of_root_eq_none {t : FileTree} {settings : Settings} (hroot : settings.root = none) {p name : Text}
    (hname : Repository.name t (spelledOut (permanent p)) = .ok name) :
    ∃ guard, nameOf t settings p = .ok guard ∧ guard.text = mangle name := by
  have hguard := nameOf_of_name settings hname
  rw [hroot] at hguard
  exact hguard

theorem length_mangle (p : Text) : (mangle p).length = p.length + 1 := by simp [mangle]

section

open StyleCheck.Path (Above)
open StyleCheck.Repository (IsRoot SoleCheckout)

/-- The spelled-out path, its repository and the name the file has in it. -/
theorem name_spelledOut {t : FileTree} {full dir p : Text} (h : SoleCheckout t full dir)
    (hfull : full = dir ++ '/' :: p) (hslash : '\\' ∉ full) :
    ∃ name, Repository.name t (spelledOut full) = .ok name ∧
      (name.length = (spelledOut p).length ↔
        t.exists (spelledOut full) = true ∧ IsRoot t (spelledOut full) (spelledOut dir)) ∧
      (t.exists (spelledOut full) = true → IsRoot t (spelledOut full) (spelledOut dir) → name = spelledOut p) ∧
      (t.exists (spelledOut full) = false → name = spelledOut full) := by
  have hrooted := rooted_spelledOut h.rooted
  have hsplit : spelledOut full = spelledOut dir ++ '/' :: spelledOut p := by rw [hfull, spelledOut_append]
  have habove : Above (spelledOut dir) (spelledOut full) :=
    ⟨isRoot_spelledOut h.above.1, spelledOut p, by rw [hsplit]; simp⟩
  have hsvn : Repository.hasEntry t (Path.rootOf full) ".svn" = false := (Bool.or_eq_false_iff.mp h.root).2
  have hfullName : Repository.fullName t (spelledOut full) = spelledOut full :=
    Repository.fullName_eq (resolve_of_rooted t hrooted) (notMem_spelledOut hslash (by decide))
  rcases Repository.name_rooted_cases hfullName hrooted (hrooted.tidy.isRoot_directory habove) hsvn with
    ⟨top, rest, hthere, htop, hrest, hok⟩ | ⟨hnone, hok⟩
  · -- both ways to cut the path have a slash between the parts
    have hcut : spelledOut dir ++ '/' :: spelledOut p = top ++ '/' :: rest := hsplit.symm.trans hrest
    refine ⟨rest, hok, ⟨fun hlength => ⟨hthere, ?_⟩, fun ⟨_, hdir⟩ => ?_⟩, fun _ hdir => ?_, ?_⟩
    · obtain ⟨rfl, -⟩ := List.append_inj' hcut (by simp [hlength])
      exact htop
    · obtain rfl := htop.unique hrooted.tidy hthere hdir
      rw [(List.cons.inj (List.append_cancel_left hcut)).2]
    · obtain rfl := htop.unique hrooted.tidy hthere hdir
      exact (List.cons.inj (List.append_cancel_left hcut)).2.symm
    · rw [hthere]
      exact nofun
  · have hlong : (spelledOut full).length ≠ (spelledOut p).length := by
      rw [hsplit, List.length_append, List.length_cons]
      omega
    refine ⟨_, hok, iff_of_false hlong fun ⟨hthere, hdir⟩ => hnone hthere _ hdir, ?_, fun _ => rfl⟩
    intro hthere hdir
    exact absurd hdir (hnone hthere _)

/-- The guard of a header in a checkout, with no other mark around it. If the name of the language is not in the
path, the guard is made from what follows the checkout. In any case the guard is made from the spelled-out form
of that just if the spelled-out path leads to a file whose repository has the spelled-out root; if there is
no such file, the guard is made from the whole path. -/
theorem guard_leaves_out_place_iff_spelled_out_file_is_there (t : FileTree) (settings : Settings)
    (hroot : settings.root = none) {full dir p : Text} (h : SoleCheckout t full dir) (hfull : full = dir ++ '/' :: p)
    (hslash : '\\' ∉ full) (hname : ¬ "_flymake.h".toList <:+: full) (hdir : ¬ "/.flymake/".toList <:+: full) :
    ∃ guard, nameOf t settings full = .ok guard ∧
      (¬ "C++".toList <:+: full → ¬ "c++".toList <:+: full → guard.text = mangle p) ∧
      (guard.text = mangle (spelledOut p) ↔
        t.exists (spelledOut full) = true ∧ IsRoot t (spelledOut full) (spelledOut dir)) ∧
      (t.exists (spelledOut full) = false → guard.text = mangle (spelledOut full)) := by
  obtain ⟨name, hok, hlength, hinside, hwhole⟩ := name_spelledOut h hfull hslash
  rw [← permanent_of_not_isInfix hname hdir] at hok
  obtain ⟨guard, hguard, htext⟩ := nameOf_of_root_eq_none hroot hok
  have hiff : guard.text = mangle (spelledOut p) ↔
      t.exists (spelledOut full) = true ∧ IsRoot t (spelledOut full) (spelledOut dir) := by
    rw [htext]
    constructor
    · intro heq
      have := congrArg List.length heq
      rw [length_mangle, length_mangle] at this
      exact hlength.mp (Nat.succ.inj this)
    · intro ⟨hthere, hisRoot⟩
      rw [hinside hthere hisRoot]
  refine ⟨guard, hguard, ?_, hiff, fun hgone => by rw [htext, hwhole hgone]⟩
  intro hupper hlower
  have hpart (s : Text) (hs : s <:+: full) : spelledOut s = s :=
    spelledOut_of_not_isInfix (fun hin => hupper (hin.trans hs)) fun hin => hlower (hin.trans hs)
  have hp : spelledOut p = p := hpart p ⟨dir ++ ['/'], [], by simp [hfull]⟩
  rw [hp, hpart full List.infix_rfl, hpart dir h.above.begins.isInfix] at hiff
  exact hiff.mpr ⟨h.there, h.isRoot⟩

def checkouts : FileTree where
  here := "/".toList
  files := [("/w/a.h".toList, some []), ("/home/c++/foo.h".toList, some []), ("/proj/c++/x.h".toList, some []),
    ("/proj/cpp/x.h".toList, some [])]
  directories := ["/w/.git".toList, "/home/c++/.git".toList, "/proj/.git".toList]

/-- The place is left out of the first guard and of the last one, but not of the second. -/
theorem guard_leaves_out_place_iff_spelled_out_file_is_there_checkouts :
    (SoleCheckout checkouts "/w/a.h".toList "/w".toList ∧
      ∃ guard, nameOf checkouts {} "/w/a.h".toList = .ok guard ∧ guard.text = "A_H_".toList) ∧
    (SoleCheckout checkouts "/home/c++/foo.h".toList "/home/c++".toList ∧
      ∃ guard, nameOf checkouts {} "/home/c++/foo.h".toList = .ok guard ∧ guard.text = "_HOME_CPP_FOO_H_".toList) ∧
    SoleCheckout checkouts "/proj/c++/x.h".toList "/proj".toList ∧
      ∃ guard, nameOf checkouts {} "/proj/c++/x.h".toList = .ok guard ∧ guard.text = "CPP_X_H_".toList := by
  have hplain : SoleCheckout checkouts "/w/a.h".toList "/w".toList := by constructor <;> decide +kernel
  have houtside : SoleCheckout checkouts "/home/c++/foo.h".toList "/home/c++".toList := by
    constructor <;> decide +kernel
  have hinside : SoleCheckout checkouts "/proj/c++/x.h".toList "/proj".toList := by constructor <;> decide +kernel
  have hspelled : mangle "a.h".toList = "A_H_".toList ∧
      mangle (spelledOut "/home/c++/foo.h".toList) = "_HOME_CPP_FOO_H_".toList ∧
      mangle (spelledOut "c++/x.h".toList) = "CPP_X_H_".toList ∧
      spelledOut "/proj/c++/x.h".toList = "/proj/cpp/x.h".toList ∧ spelledOut "/proj".toList = "/proj".toList := by
    decide +kernel
  obtain ⟨hfirst, hsecond, hthird, hpath, hdir⟩ := hspelled
  refine ⟨⟨hplain, ?_⟩, ⟨houtside, ?_⟩, hinside, ?_⟩
  · obtain ⟨guard, hok, htext, -⟩ := guard_leaves_out_place_iff_spelled_out_file_is_there checkouts {} rfl hplain
      (p := "a.h".toList) rfl (by decide) (by decide +kernel) (by decide +kernel)
    exact ⟨guard, hok, (htext (by decide +kernel) (by decide +kernel)).trans hfirst⟩
  · obtain ⟨guard, hok, -, -, htext⟩ := guard_leaves_out_place_iff_spelled_out_file_is_there checkouts {} rfl houtside
      (p := "foo.h".toList) rfl (by decide) (by decide +kernel) (by decide +kernel)
    exact ⟨guard, hok, (htext (by decide +kernel)).trans hsecond⟩
  · obtain ⟨guard, hok, -, htext, -⟩ := guard_leaves_out_place_iff_spelled_out_file_is_there checkouts {} rfl hinside
      (p := "c++/x.h".toList) rfl (by decide) (by decide +kernel) (by decide +kernel)
    rw [hpath, hdir, hthird] at htext
    have hroot : IsRoot checkouts "/proj/cpp/x.h".toList "/proj".toList :=
      .topmost (by decide +kernel) (by decide +kernel)
    exact ⟨guard, hok, htext.mpr ⟨by decide +kernel, hroot⟩⟩

end

end HeaderGuard

end StyleCheck
