/-
  StyleCheck.Proofs.Path.Components — a path and its components.

  The components are split off from the right, each together with the slash before it, until slashes alone or a
  single component are left (`components_snoc`). In a path with no two slashes together but at its beginning
  (`SingleSlashed`) nothing gets lost on the way: put together again, the components give the path
  (`joinAll_components`). So the components of a path below another one are those of the one and then what stands
  between the slashes of the rest (`components_append`). There are at least as many of them as steps up to the root
  (`directory_iterate_components`).
-/

import Mathlib.Logic.Function.Iterate
import StyleCheck.Proofs.Path.Above

namespace StyleCheck.Path

/-- Behind the slashes at the beginning, no two slashes stand together. -/
def SingleSlashed (p : Text) : Prop := ¬ ['/', '/'] <:+: p.dropWhile (· == '/')

instance (p : Text) : Decidable (SingleSlashed p) := inferInstanceAs (Decidable (¬ _))

theorem isAbsolute_iff {p : Text} : isAbsolute p = true ↔ p.head? = some '/' := by
  cases p with
  | nil => exact iff_of_false nofun nofun
  | cons c p =>
    rw [isAbsolute, Text.startsWith, List.isPrefixOf_iff_prefix, List.cons_prefix_cons, List.head?_cons,
      Option.some.injEq, eq_comm, and_iff_left List.nil_prefix]

/-! ## The last component -/

theorem lead_of_notMem {p : Text} (h : '/' ∉ p) : lead p = [] := by
  rw [lead, Text.locateLast?_of_notMem h]

theorem directory_of_notMem {p : Text} (h : '/' ∉ p) : directory p = [] := by
  rw [directory, lead_of_notMem h]
  rfl

theorem base_of_notMem {p : Text} (h : '/' ∉ p) : base p = p := by
  rw [base, lead_of_notMem h]
  rfl

theorem base_append {last : Text} (h : '/' ∉ last) (s : Text) : base (s ++ '/' :: last) = last := by
  have hsplit : s ++ '/' :: last = (s ++ ['/']) ++ last := List.append_cons s '/' last
  rw [base, lead_append h, hsplit, List.drop_left]

theorem notMem_base (p : Text) : '/' ∉ base p := by
  by_cases hp : '/' ∈ p
  · obtain ⟨s, last, rfl, hlast⟩ := exists_last_slash hp
    rw [base_append hlast]
    exact hlast
  · rw [base_of_notMem hp]
    exact hp

theorem base_append_of_mem {x : Text} (h : '/' ∈ x) (s : Text) : base (s ++ x) = base x := by
  obtain ⟨y, last, rfl, hlast⟩ := exists_last_slash h
  rw [← List.append_assoc, base_append hlast, base_append hlast]

/-- The last component is that of what follows any slash. -/
theorem base_append_cons (s x : Text) : base (s ++ '/' :: x) = base x := by
  by_cases hx : '/' ∈ x
  · rw [List.append_cons, base_append_of_mem hx]
  · rw [base_append hx, base_of_notMem hx]

theorem base_append_of_notMem {x : Text} (h : '/' ∉ x) (s : Text) : base (s ++ x) = base s ++ x := by
  by_cases hs : '/' ∈ s
  · obtain ⟨y, last, rfl, hlast⟩ := exists_last_slash hs
    have hboth : '/' ∉ last ++ x := by simp [hlast, h]
    rw [List.append_assoc, List.cons_append, base_append hboth, base_append hlast]
  · have hboth : '/' ∉ s ++ x := by simp [hs, h]
    rw [base_of_notMem hs, base_of_notMem hboth]

theorem base_eq_nil_iff {s : Text} : base s = [] ↔ s = [] ∨ s.getLast? = some '/' := by
  by_cases hs : '/' ∈ s
  · obtain ⟨y, last, rfl, hlast⟩ := exists_last_slash hs
    rw [base_append hlast]
    constructor
    · rintro rfl
      exact .inr (by simp)
    · rintro (hnil | hend)
      · simp at hnil
      · by_contra hne
        rw [Text.getLast?_of_suffix ⟨y ++ ['/'], by simp⟩ hne] at hend
        exact hlast (List.mem_of_getLast? hend)
  · rw [base_of_notMem hs]
    refine ⟨.inl, ?_⟩
    rintro (hnil | hend)
    · exact hnil
    · exact absurd (List.mem_of_getLast? hend) hs

/-! ## The way up -/

theorem isRoot_iff {p : Text} : isRoot p = true ↔ p.dropWhile (· == '/') = [] := by
  rw [List.dropWhile_eq_nil_iff, isRoot, List.all_eq_true]

/-- What ends the way up is made of slashes alone. -/
theorem directory_eq_self_iff {p : Text} : directory p = p ↔ isRoot p = true := by
  constructor
  · intro hself
    by_cases hp : '/' ∈ p
    · obtain ⟨s, last, rfl, hlast⟩ := exists_last_slash hp
      cases hs : isRoot s with
      | true =>
        rw [directory_append_of_isRoot hlast hs] at hself
        rw [← hself, isRoot_concat, hs]
      | false =>
        -- the slash before the last component is trimmed away
        have hshort : (directory (s ++ '/' :: last)).length ≤ s.length := by
          have hroot : (s ++ ['/']).all (· == '/') = false := isRoot_concat.trans hs
          simp only [directory, lead_append hlast, hroot, Bool.false_eq_true, if_false, Text.trimRight,
            List.reverse_append, List.reverse_singleton, List.singleton_append, List.length_reverse]
          rw [List.dropWhile_cons_of_pos rfl]
          exact (Text.length_dropWhile_le _ _).trans_eq List.length_reverse
        rw [hself, List.length_append, List.length_cons] at hshort
        omega
    · rw [← hself, directory_of_notMem hp]
      rfl
  · intro hroot
    cases p with
    | nil => rfl
    | cons c p =>
      have hc : c = '/' := by simpa using List.all_eq_true.mp hroot c List.mem_cons_self
      have htidy : Tidy (c :: p) := ⟨by rw [hc]; rfl, fun dir hdir => absurd hdir (not_above_of_isRoot hroot)⟩
      exact htidy.directory_eq_self_iff.mpr hroot

/-- A directory that is no root lies behind the slashes at the beginning. -/
theorem isRoot_directory_append {s last : Text} (hlast : '/' ∉ last) (hs : isRoot s = false) :
    isRoot (directory (s ++ '/' :: last)) = false := by
  have hroot : (s ++ ['/']).all (· == '/') = false := isRoot_concat.trans hs
  simp only [directory, lead_append hlast, hroot, Bool.false_eq_true, if_false]
  rw [Bool.eq_false_iff]
  intro htrimmed
  -- what is trimmed away are slashes too
  have hback : Text.trimRight (· == '/') (s ++ ['/']) ++ ((s ++ ['/']).reverse.takeWhile (· == '/')).reverse
      = s ++ ['/'] := by
    rw [Text.trimRight, ← List.reverse_append, List.takeWhile_append_dropWhile, List.reverse_reverse]
  rw [← hback, List.all_append, show (Text.trimRight (· == '/') (s ++ ['/'])).all (· == '/') = true from htrimmed,
    List.all_reverse, List.all_takeWhile] at hroot
  cases hroot

/-- The directory of a path begins with the same slashes as the path. -/
theorem takeWhile_directory (p : Text) : (directory p).takeWhile (· == '/') = p.takeWhile (· == '/') := by
  have hstop {last : Text} (h : '/' ∉ last) : last.takeWhile (· == '/') = [] := by
    cases last with
    | nil => rfl
    | cons c last =>
      have hc : c ≠ '/' := fun heq => h (heq ▸ List.mem_cons_self)
      simp [hc]
  by_cases hp : '/' ∈ p
  · obtain ⟨s, last, rfl, hlast⟩ := exists_last_slash hp
    cases hs : isRoot s with
    | true =>
      have hall : ∀ c ∈ s ++ ['/'], (c == '/') = true := List.all_eq_true.mp (isRoot_concat.trans hs)
      have hsplit : s ++ '/' :: last = (s ++ ['/']) ++ last := List.append_cons s '/' last
      rw [directory_append_of_isRoot hlast hs, hsplit, List.takeWhile_append_of_pos hall, hstop hlast,
        List.takeWhile_eq_self_iff.mpr hall, List.append_nil]
    | false =>
      have hroot := isRoot_directory_append hlast hs
      obtain ⟨rest, hrest⟩ := directory_isPrefix (s ++ '/' :: last)
      generalize directory (s ++ '/' :: last) = dir at hroot hrest
      rw [← hrest, List.takeWhile_append, if_neg]
      intro hwhole
      rw [isRoot, Bool.eq_false_iff] at hroot
      exact hroot (List.all_eq_true.mpr (List.takeWhile_eq_self_iff.mp ((List.takeWhile_prefix _).eq_of_length hwhole)))
  · rw [directory_of_notMem hp, hstop hp]
    rfl

/-- There are at least as many components as there are steps to the end of the way up. -/
theorem directory_iterate_components (p : Text) :
    isRoot (directory^[(components p).length] p) = true := by
  fun_induction components p with
  | case1 p head hself =>
    rw [← directory_eq_self_iff]
    show directory (directory p) = directory p
    rw [show directory p = p from hself, show directory p = p from hself]
  | case2 p head hself hbase =>
    have hp : '/' ∉ p := hbase ▸ notMem_base p
    show isRoot (directory p) = true
    rw [directory_of_notMem hp]
    rfl
  | case3 p head hself hbase ih =>
    rw [List.length_append, List.length_singleton, Function.iterate_succ_apply]
    exact ih

/-- The way up ends at the slashes at the beginning of the path. -/
theorem directory_iterate_end {p : Text} {n : Nat} (h : (components p).length ≤ n) :
    directory^[n] p = p.takeWhile (· == '/') := by
  have hkept : ∀ n, (directory^[n] p).takeWhile (· == '/') = p.takeWhile (· == '/') := by
    intro n
    induction n with
    | zero => rfl
    | succ n ih => rw [Function.iterate_succ_apply', takeWhile_directory, ih]
  have hroot := directory_iterate_components p
  have hfixed := directory_eq_self_iff.mpr hroot
  obtain ⟨more, rfl⟩ := Nat.exists_eq_add_of_le' h
  rw [Function.iterate_add_apply, Function.iterate_fixed hfixed, ← hkept (components p).length, eq_comm,
    List.takeWhile_eq_self_iff]
  exact List.all_eq_true.mp hroot

/-! ## One slash between components -/

namespace SingleSlashed

theorem of_begins {dir p : Text} (h : SingleSlashed p) (hdir : dir <+: p) : SingleSlashed dir := by
  obtain ⟨rest, rfl⟩ := hdir
  intro hin
  rw [SingleSlashed, List.dropWhile_append] at h
  split at h
  · rename_i hnil
    rw [List.isEmpty_iff.mp hnil] at hin
    cases List.infix_nil.mp hin
  · exact h (hin.trans (List.prefix_append _ _).isInfix)

theorem getLast?_ne {s last : Text} (h : SingleSlashed (s ++ '/' :: last)) (hs : isRoot s = false) :
    s.getLast? ≠ some '/' := by
  intro hend
  obtain ⟨front, rfl⟩ := List.getLast?_eq_some_iff.mp hend
  rw [isRoot_concat, Bool.eq_false_iff, Ne, isRoot_iff] at hs
  apply h
  rw [List.append_assoc, List.dropWhile_append, if_neg (mt List.isEmpty_iff.mp hs)]
  exact ⟨front.dropWhile (· == '/'), last, by simp⟩

/-- What follows a slash begins with none. -/
theorem head?_ne {s x : Text} (h : SingleSlashed (s ++ '/' :: x)) (hs : isRoot s = false) : x.head? ≠ some '/' := by
  intro hhead
  obtain ⟨rest, rfl⟩ := List.head?_eq_some_iff.mp hhead
  rw [List.append_cons] at h
  exact h.getLast?_ne (isRoot_concat.trans hs) (by simp)

theorem of_append {s x : Text} (h : SingleSlashed (s ++ '/' :: x)) (hs : isRoot s = false) : SingleSlashed x := by
  intro hin
  rw [Bool.eq_false_iff, Ne, isRoot_iff] at hs
  apply h
  rw [List.dropWhile_append, if_neg (mt List.isEmpty_iff.mp hs)]
  refine hin.trans ((List.dropWhile_suffix _).isInfix.trans ?_)
  exact ⟨s.dropWhile (· == '/') ++ ['/'], [], by simp⟩

end SingleSlashed

structure NormalRelative (p : Text) : Prop where
  normal : normal p = p
  relative : isAbsolute p = false

namespace NormalRelative

variable {p : Text}

theorem head?_ne (h : NormalRelative p) : p.head? ≠ some '/' :=
  mt isAbsolute_iff.mpr (Bool.eq_false_iff.mp h.relative)

theorem ne_nil (h : NormalRelative p) : p ≠ [] := by
  rintro rfl
  cases h.normal

theorem isRoot (h : NormalRelative p) : isRoot p = false := by
  obtain ⟨c, rest, rfl⟩ := List.exists_cons_of_ne_nil h.ne_nil
  have hc : c ≠ '/' := fun heq => h.head?_ne (congrArg some heq)
  simp [Path.isRoot, hc]

theorem singleSlashed (h : NormalRelative p) : SingleSlashed p := by
  intro hin
  have hin : ['/', '/'] <:+: p := hin.trans (List.dropWhile_suffix _).isInfix
  obtain ⟨parts, hparts, hnormal | ⟨-, hnormal⟩⟩ := normal_parts p
  · have hroot : rootOf p = [] := by
      rcases rootOf_cases p with hroot | hroot
      · exact hroot
      · -- a root would be the beginning of the path
        refine absurd ?_ h.head?_ne
        rw [← h.normal, hnormal]
        rcases hroot with hroot | hroot <;> rw [hroot] <;> rfl
    rw [← h.normal, hnormal, hroot, List.nil_append] at hin
    exact not_infix_joinWith (fun c hc => ⟨(hparts c hc).1, (hparts c hc).2.1⟩) hin
  · rw [← h.normal, hnormal] at hin
    exact absurd hin (by decide)

end NormalRelative

/-! ## Components -/

theorem components_ne_nil (p : Text) : components p ≠ [] := by
  fun_cases components p <;> simp

theorem components_of_notMem {p : Text} (h : '/' ∉ p) : components p = [p] := by
  unfold components
  simp only
  split
  · rename_i hself
    rw [hself]
  · rw [if_pos (base_of_notMem h)]

/-- Only the slashes at the beginning are a component with a slash. -/
theorem isRoot_of_mem_components {p c : Text} (hc : c ∈ components p) (hslash : '/' ∈ c) : isRoot c = true := by
  fun_induction components p with
  | case1 p head hself =>
    rw [List.mem_singleton.mp hc, show head = p from hself]
    exact directory_eq_self_iff.mp hself
  | case2 p head hself hwhole =>
    rw [List.mem_singleton.mp hc, ← hwhole] at hslash
    exact absurd hslash (notMem_base p)
  | case3 p head hself hwhole ih =>
    rcases List.mem_append.mp hc with hc | hc
    · exact ih hc
    · rw [List.mem_singleton.mp hc] at hslash
      exact absurd hslash (notMem_base p)

/-- A component behind a slash is split off, and the slash with it; the slashes at the beginning stay. -/
theorem components_snoc {s last : Text} (hlast : '/' ∉ last) (h : SingleSlashed (s ++ '/' :: last))
    (hs : isRoot s = false) : components (s ++ '/' :: last) = components s ++ [last] := by
  have hbase := base_append hlast s
  have hdirectory := directory_append hlast hs (h.getLast?_ne hs)
  rw [components, dif_neg, if_neg, hbase, hdirectory]
  · rw [hbase]
    intro heq
    exact hlast (heq ▸ List.mem_append_right s List.mem_cons_self)
  · rw [hdirectory]
    intro heq
    have := congrArg List.length heq
    rw [List.length_append, List.length_cons] at this
    omega

/-- The components of a path below `r` are those of `r` and what stands between the slashes of the rest. -/
theorem components_append {r x : Text} (hr : isRoot r = false) (h : SingleSlashed (r ++ '/' :: x)) :
    components (r ++ '/' :: x) = components r ++ x.splitOn '/' := by
  by_cases hx : '/' ∈ x
  · obtain ⟨y, last, rfl, hlast⟩ := exists_last_slash hx
    have hsplit : r ++ '/' :: (y ++ '/' :: last) = (r ++ '/' :: y) ++ '/' :: last := by simp
    have hbelow : isRoot (r ++ '/' :: y) = false := by
      rw [Bool.eq_false_iff] at hr ⊢
      exact fun hroot => hr (isRoot_of_isPrefix (List.prefix_append _ _) hroot)
    rw [hsplit] at h ⊢
    rw [components_snoc hlast h hbelow, components_append hr (h.of_begins (List.prefix_append _ _)),
      List.splitOn_append_cons_self, List.splitOn_eq_singleton hlast, List.append_assoc]
  · rw [components_snoc hx h hr, List.splitOn_eq_singleton hx]
termination_by x.length

theorem components_of_relative {p : Text} (hp : p.head? ≠ some '/') (h : SingleSlashed p) :
    components p = p.splitOn '/' := by
  by_cases hslash : '/' ∈ p
  · obtain ⟨first, x, rfl, hfirst⟩ := List.eq_append_cons_of_mem hslash
    have hroot : isRoot first = false := by
      cases first with
      | nil => exact absurd rfl hp
      | cons c first =>
        have hc : c ≠ '/' := fun heq => hp (congrArg some heq)
        simp [isRoot, hc]
    rw [components_append hroot h, components_of_notMem hfirst, List.splitOn_append_cons_self,
      List.splitOn_eq_singleton hfirst]
  · rw [components_of_notMem hslash, List.splitOn_eq_singleton hslash]

theorem joinAll_concat {parts : List Text} (h : parts ≠ []) (last : Text) :
    joinAll (parts ++ [last]) = join (joinAll parts) last := by
  obtain ⟨first, rest, rfl⟩ := List.exists_cons_of_ne_nil h
  simp [joinAll]

/-- A path is its directory and its last component put together. -/
theorem join_directory_base {p : Text} (h : SingleSlashed p) : join (directory p) (base p) = p := by
  by_cases hp : '/' ∈ p
  · obtain ⟨s, last, rfl, hlast⟩ := exists_last_slash hp
    have hrelative : isAbsolute last = false := by
      rw [Bool.eq_false_iff]
      intro habsolute
      exact hlast (List.mem_of_mem_head? (isAbsolute_iff.mp habsolute))
    rw [base_append hlast, join, hrelative, if_neg Bool.false_ne_true]
    cases hs : isRoot s with
    | true =>
      have hend : Text.endsWith (s ++ ['/']) ['/'] = true := List.isSuffixOf_iff_suffix.mpr (List.suffix_append _ _)
      rw [directory_append_of_isRoot hlast hs, hend, Bool.or_true, if_pos rfl, List.append_cons s '/' last]
    | false =>
      have hlast' := h.getLast?_ne hs
      have hne : s.isEmpty = false := by
        cases s with
        | nil => cases hs
        | cons c s => rfl
      have hend : Text.endsWith s ['/'] = false := by
        rw [Bool.eq_false_iff]
        intro hsuffix
        obtain ⟨front, rfl⟩ := List.isSuffixOf_iff_suffix.mp hsuffix
        exact hlast' (by simp)
      rw [directory_append hlast hs hlast', hne, hend, Bool.or_self, if_neg Bool.false_ne_true]
  · rw [directory_of_notMem hp, base_of_notMem hp, join]
    simp

/-- The components put together give the path again. -/
theorem joinAll_components {p : Text} (h : SingleSlashed p) : joinAll (components p) = p := by
  fun_induction components p with
  | case1 p head hself => exact hself
  | case2 p head hself hbase => rfl
  | case3 p head hself hbase ih =>
    rw [joinAll_concat (components_ne_nil _), ih (h.of_begins (directory_isPrefix p)), join_directory_base h]

end StyleCheck.Path
