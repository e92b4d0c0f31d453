/-
  StyleCheck.Proofs.Path.Above — the directories above a path.

  A directory lies above a path if the path begins with it and a slash (`Above`); roots, which consist of slashes
  alone, are left out. Going up is seen in the text only: `directory` cuts the path before its last slash. In a
  path without double slashes below its root (`Tidy`), the directories above it are the one it lies in and those
  above that one (`Tidy.above_iff`), so all of them are met on the way up, and the way ends at the root
  (`Tidy.directory_eq_self_iff`).

  Normal paths are tidy: they are made of a root and of components (`exists_rooted_normal`), and a path that is made
  so is normal (`Rooted.normal`). On the way up one component after the other is taken away (`Rooted.directory`).
-/

import StyleCheck.Path
import StyleCheck.Proofs.Text.Cut

namespace StyleCheck.Path

def isRoot (p : Text) : Bool := p.all (· == '/')

/-- `dir` is a directory above `p`, other than the root. -/
def Above (dir p : Text) : Prop := isRoot dir = false ∧ dir ++ ['/'] <+: p

instance (dir p : Text) : Decidable (Above dir p) := inferInstanceAs (Decidable (_ ∧ _))

/-- An absolute path with no two slashes together but at its beginning. -/
structure Tidy (p : Text) : Prop where
  absolute : isAbsolute p = true
  single : ∀ dir, Above dir p → dir.getLast? ≠ some '/'

/-! ## The last slash -/

theorem exists_last_slash {p : Text} (h : '/' ∈ p) : ∃ s last, p = s ++ '/' :: last ∧ '/' ∉ last := by
  obtain ⟨last, s, hp, hlast⟩ := List.eq_append_cons_of_mem (List.mem_reverse.mpr h)
  refine ⟨s.reverse, last.reverse, ?_, by simpa using hlast⟩
  rw [← List.reverse_reverse p, hp]
  simp

theorem lead_append {last : Text} (h : '/' ∉ last) (s : Text) : lead (s ++ '/' :: last) = s ++ ['/'] := by
  unfold lead
  rw [Text.locateLast?_append h]
  simp only
  rw [List.append_cons, show s.length + 1 = (s ++ ['/']).length by simp, List.take_left]

/-- A text that ends in a slash begins a path just if it begins the part up to the last slash. -/
theorem prefix_iff_of_notMem {last : Text} (h : '/' ∉ last) (dir s : Text) :
    dir ++ ['/'] <+: s ++ '/' :: last ↔ dir = s ∨ dir ++ ['/'] <+: s := by
  have hsplit : s ++ '/' :: last = (s ++ ['/']) ++ last := List.append_cons s '/' last
  have hcut : dir ++ ['/'] <+: (s ++ ['/']) ++ last ↔ dir ++ ['/'] <+: s ++ ['/'] := by
    refine ⟨fun hp => ?_, fun hp => hp.trans (List.prefix_append _ _)⟩
    rcases List.prefix_or_prefix_of_prefix hp (List.prefix_append _ _) with hp' | ⟨more, hmore⟩
    · exact hp'
    · -- what reaches further would bring a slash into the last part
      rw [← hmore, List.prefix_append_right_inj] at hp
      rcases List.eq_nil_or_concat more with rfl | ⟨front, c, rfl⟩
      · have heq : dir ++ ['/'] = s ++ ['/'] := by rw [← hmore, List.append_nil]
        exact heq ▸ List.prefix_rfl
      · rw [List.concat_eq_append, ← List.append_assoc] at hmore
        obtain ⟨-, hc⟩ := List.append_inj' hmore rfl
        obtain rfl := (List.cons.inj hc).1
        exact absurd (hp.subset (by simp)) h
  rw [hsplit, hcut, List.prefix_concat_iff, List.append_left_inj]

/-! ## Roots -/

theorem isRoot_of_isPrefix {dir p : Text} (h : dir <+: p) (hp : isRoot p = true) : isRoot dir = true :=
  List.all_eq_true.mpr fun c hc => List.all_eq_true.mp hp c (h.subset hc)

theorem isRoot_concat {s : Text} : isRoot (s ++ ['/']) = isRoot s := by simp [isRoot]

theorem Above.begins {dir p : Text} (h : Above dir p) : dir <+: p := (List.prefix_append dir ['/']).trans h.2

theorem Above.trans {dir mid p : Text} (h : Above dir mid) (h' : Above mid p) : Above dir p :=
  ⟨h.1, h.2.trans h'.begins⟩

theorem Above.length_lt {dir p : Text} (h : Above dir p) : dir.length < p.length := by
  have := h.2.length_le
  rwa [List.length_append] at this

theorem forall_above_iff {p : Text} {P : Text → Prop} :
    (∀ dir, Above dir p → P dir) ↔ ∀ n < p.length, Above (p.take n) p → P (p.take n) := by
  refine ⟨fun h n _ => h (p.take n), fun h dir hdir => ?_⟩
  have htake : p.take dir.length = dir := (List.prefix_iff_eq_take.mp hdir.begins).symm
  have := h dir.length hdir.length_lt
  rw [htake] at this
  exact this hdir

instance (p : Text) (P : Text → Prop) [DecidablePred P] : Decidable (∀ dir, Above dir p → P dir) :=
  decidable_of_iff' _ forall_above_iff

/-- Of two directories above a path, one lies above the other. -/
theorem Above.linear {dir other p : Text} (h : Above dir p) (h' : Above other p) :
    dir = other ∨ Above dir other ∨ Above other dir := by
  have hcut {a b : Text} (hab : a ++ ['/'] <+: b ++ ['/']) : a = b ∨ a ++ ['/'] <+: b :=
    (List.prefix_concat_iff.mp hab).imp_left List.append_cancel_right
  rcases List.prefix_or_prefix_of_prefix h.2 h'.2 with hbegins | hbegins
  · exact (hcut hbegins).imp_right fun hp => .inl ⟨h.1, hp⟩
  · exact (hcut hbegins).imp Eq.symm fun hp => .inr ⟨h'.1, hp⟩

theorem not_above_of_isRoot {dir p : Text} (hp : isRoot p = true) : ¬ Above dir p := by
  intro h
  have := isRoot_of_isPrefix h.begins hp
  rw [h.1] at this
  cases this

/-! ## Going up -/

theorem directory_append_of_isRoot {s last : Text} (h : '/' ∉ last) (hs : isRoot s = true) :
    directory (s ++ '/' :: last) = s ++ ['/'] := by
  have hroot : (s ++ ['/']).all (· == '/') = true := isRoot_concat.trans hs
  simp only [directory, lead_append h, hroot, if_true]

theorem directory_append {s last : Text} (h : '/' ∉ last) (hs : isRoot s = false) (hend : s.getLast? ≠ some '/') :
    directory (s ++ '/' :: last) = s := by
  have hroot : (s ++ ['/']).all (· == '/') = false := isRoot_concat.trans hs
  simp only [directory, lead_append h, hroot, Bool.false_eq_true, if_false]
  rcases List.eq_nil_or_concat s with rfl | ⟨front, c, rfl⟩
  · cases hs
  · have hc : (c == '/') = false := by simpa using hend
    simp [Text.trimRight, hc]

namespace Tidy

variable {p : Text}

theorem slash_mem (h : Tidy p) : '/' ∈ p := by
  obtain ⟨rest, hrest⟩ := List.isPrefixOf_iff_prefix.mp h.absolute
  rw [← hrest]
  exact List.mem_cons_self

/-- Above a path lie its directory, if it is not the root, and what is above that. -/
theorem above_iff (h : Tidy p) {dir : Text} :
    Above dir p ↔ dir = Path.directory p ∧ isRoot dir = false ∨ Above dir (Path.directory p) := by
  obtain ⟨s, last, rfl, hlast⟩ := exists_last_slash h.slash_mem
  cases hs : isRoot s with
  | true =>
    rw [directory_append_of_isRoot hlast hs]
    have hroot : isRoot (s ++ ['/']) = true := isRoot_concat.trans hs
    constructor
    · intro hdir
      rcases (prefix_iff_of_notMem hlast dir s).mp hdir.2 with rfl | hp
      · exact absurd (hdir.1.symm.trans hs) (by decide)
      · exact absurd ⟨hdir.1, hp⟩ (not_above_of_isRoot hs)
    · rintro (⟨rfl, hdir⟩ | hdir)
      · exact absurd (hdir.symm.trans hroot) (by decide)
      · exact absurd hdir (not_above_of_isRoot hroot)
  | false =>
    have habove : Above s (s ++ '/' :: last) := ⟨hs, (prefix_iff_of_notMem hlast s s).mpr (.inl rfl)⟩
    rw [directory_append hlast hs (h.single s habove)]
    unfold Above
    rw [prefix_iff_of_notMem hlast, and_or_left, and_comm (b := dir = s)]

/-- If there is a directory above the path, that of the path is none of slashes alone. -/
theorem isRoot_directory (h : Tidy p) {dir : Text} (hdir : Above dir p) : isRoot (Path.directory p) = false := by
  rcases h.above_iff.mp hdir with ⟨rfl, hroot⟩ | hup
  · exact hroot
  · exact Bool.eq_false_iff.mpr fun hroot => not_above_of_isRoot hroot hup

theorem directory (h : Tidy p) : Tidy (directory p) := by
  refine ⟨?_, fun dir hdir => h.single dir ⟨hdir.1, hdir.2.trans (directory_isPrefix p)⟩⟩
  obtain ⟨s, last, hp, hlast⟩ := exists_last_slash h.slash_mem
  have hstart := h.absolute
  subst hp
  cases hs : isRoot s with
  | true =>
    rw [directory_append_of_isRoot hlast hs]
    cases s with
    | nil => rfl
    | cons c s => exact hstart
  | false =>
    rw [directory_append hlast hs (h.single s ⟨hs, (prefix_iff_of_notMem hlast s s).mpr (.inl rfl)⟩)]
    cases s with
    | nil => cases hs
    | cons c s => exact hstart

/-- The way up ends at the root. -/
theorem directory_eq_self_iff (h : Tidy p) : Path.directory p = p ↔ isRoot p = true := by
  constructor
  · intro heq
    rw [← Bool.not_eq_false]
    intro hroot
    have hself : Above p p := h.above_iff.mpr (.inl ⟨heq.symm, hroot⟩)
    exact absurd hself.length_lt (Nat.lt_irrefl _)
  · intro hroot
    obtain ⟨s, last, rfl, hlast⟩ := exists_last_slash h.slash_mem
    have hall := List.all_eq_true.mp hroot
    have hnil : last = [] := by
      refine List.eq_nil_iff_forall_not_mem.mpr fun c hc => hlast ?_
      have : c = '/' := by simpa using hall c (by simp [hc])
      exact this ▸ hc
    subst hnil
    exact directory_append_of_isRoot hlast (isRoot_of_isPrefix (List.prefix_append _ _) hroot)

end Tidy

/-! ## Components -/

structure IsComponent (c : Text) : Prop where
  nonempty : c ≠ []
  noSlash : '/' ∉ c
  notHere : c ≠ ['.']
  notUp : c ≠ ['.', '.']

/-- Only a path that is not rooted keeps its ways up. -/
theorem mem_reduce {rooted : Bool} {done parts : List Text}
    (hdone : ∀ c ∈ done, c ≠ [] ∧ '/' ∉ c ∧ (rooted = true → IsComponent c)) (hparts : ∀ c ∈ parts, '/' ∉ c) :
    ∀ c ∈ reduce rooted done parts, c ≠ [] ∧ '/' ∉ c ∧ (rooted = true → IsComponent c) := by
  fun_induction reduce rooted done parts with
  | case1 done => exact hdone
  | case2 done c rest _ ih => exact ih hdone (List.forall_mem_cons.mp hparts).2
  | case3 done c rest hkeep hup ih =>
    obtain ⟨hc, hrest⟩ := List.forall_mem_cons.mp hparts
    simp only [Bool.or_eq_true, List.isEmpty_iff, beq_iff_eq, not_or] at hkeep
    have hcomponent : IsComponent c := ⟨hkeep.1, hc, hkeep.2, bne_iff_ne.mp hup⟩
    exact ih (List.forall_mem_cons.mpr ⟨⟨hkeep.1, hc, fun _ => hcomponent⟩, hdone⟩) hrest
  | case4 c rest _ _ _ ih => exact ih nofun (List.forall_mem_cons.mp hparts).2
  | case5 c rest hkeep _ hrooted ih =>
    obtain ⟨hc, hrest⟩ := List.forall_mem_cons.mp hparts
    simp only [Bool.or_eq_true, List.isEmpty_iff, not_or] at hkeep
    exact ih (List.forall_mem_singleton.mpr ⟨hkeep.1, hc, fun h => absurd h hrooted⟩) hrest
  | case6 c rest hkeep _ top lower htop ih =>
    obtain ⟨hc, hrest⟩ := List.forall_mem_cons.mp hparts
    simp only [Bool.or_eq_true, List.isEmpty_iff, not_or] at hkeep
    -- a way up is kept only after another one, and a rooted path has none
    have hnot : rooted = true → IsComponent c := fun h =>
      absurd (eq_of_beq htop) ((List.forall_mem_cons.mp hdone).1.2.2 h).notUp
    exact ih (List.forall_mem_cons.mpr ⟨⟨hkeep.1, hc, hnot⟩, hdone⟩) hrest
  | case7 c rest _ _ top lower _ ih => exact ih (List.forall_mem_cons.mp hdone).2 (List.forall_mem_cons.mp hparts).2

/-- Components stay as they are. -/
theorem reduce_components {parts : List Text} (h : ∀ c ∈ parts, IsComponent c) (rooted : Bool) (done : List Text) :
    reduce rooted done parts = parts.reverse ++ done := by
  induction parts generalizing done with
  | nil => rfl
  | cons c parts ih =>
    obtain ⟨hc, hparts⟩ := List.forall_mem_cons.mp h
    simp [reduce, hc.nonempty, hc.notHere, hc.notUp, ih hparts]

theorem rootOf_cases (p : Text) : rootOf p = [] ∨ rootOf p = ['/'] ∨ rootOf p = ['/', '/'] := by
  unfold rootOf
  split <;> simp

theorem normal_parts (p : Text) : ∃ parts : List Text,
    (∀ c ∈ parts, c ≠ [] ∧ '/' ∉ c ∧ (rootOf p ≠ [] → IsComponent c)) ∧
    (normal p = rootOf p ++ Text.joinWith ['/'] parts ∨ rootOf p = [] ∧ normal p = ['.']) := by
  have hpieces : ∀ c ∈ Text.pieces ['/'] p, '/' ∉ c := by
    intro c hc
    rw [Text.pieces_singleton] at hc
    exact Text.notMem_of_mem_splitOn hc
  have hreduce : ∀ c ∈ reduce (!(rootOf p).isEmpty) [] (Text.pieces ['/'] p),
      c ≠ [] ∧ '/' ∉ c ∧ ((!(rootOf p).isEmpty) = true → IsComponent c) := mem_reduce nofun hpieces
  refine ⟨(reduce (!(rootOf p).isEmpty) [] (Text.pieces ['/'] p)).reverse, ?_, ?_⟩
  · intro c hc
    obtain ⟨hne, hslash, hcomponent⟩ := hreduce c (List.mem_reverse.mp hc)
    exact ⟨hne, hslash, fun hroot => hcomponent (by simpa using hroot)⟩
  · unfold normal
    simp only
    split
    · rename_i hempty
      exact .inr ⟨(List.append_eq_nil_iff.mp (List.isEmpty_iff.mp hempty)).1, rfl⟩
    · exact .inl rfl

section

variable {parts : List Text}

/-- What is made of parts begins with none of the slashes between them, and has no two of them together. -/
theorem head?_joinWith (h : ∀ c ∈ parts, c ≠ [] ∧ '/' ∉ c) : (Text.joinWith ['/'] parts).head? ≠ some '/' := by
  have hfirst {c : Text} (hc : c ≠ [] ∧ '/' ∉ c) (rest : Text) : (c ++ rest).head? ≠ some '/' := by
    obtain ⟨x, xs, rfl⟩ := List.exists_cons_of_ne_nil hc.1
    intro hx
    exact hc.2 (Option.some.inj hx ▸ List.mem_cons_self)
  fun_cases Text.joinWith ['/'] parts with
  | case1 => exact nofun
  | case2 c => simpa using hfirst (h c List.mem_cons_self) []
  | case3 c rest => simpa using hfirst (h c List.mem_cons_self) ('/' :: Text.joinWith ['/'] rest)

theorem not_infix_joinWith (h : ∀ c ∈ parts, c ≠ [] ∧ '/' ∉ c) : ¬ ['/', '/'] <:+: Text.joinWith ['/'] parts := by
  have hskip {c : Text} (hc : '/' ∉ c) (rest : Text) : ['/', '/'] <:+: c ++ rest → ['/', '/'] <:+: rest := by
    induction c with
    | nil => exact id
    | cons x c ih =>
      rw [List.mem_cons, not_or] at hc
      intro hin
      rcases List.infix_cons_iff.mp hin with hstart | hin
      · exact absurd (List.cons_prefix_cons.mp hstart).1 hc.1
      · exact ih hc.2 hin
  fun_induction Text.joinWith ['/'] parts with
  | case1 => simp
  | case2 c =>
    intro hin
    have := hskip (h c List.mem_cons_self).2 [] (by simpa using hin)
    simp at this
  | case3 c rest _ ih =>
    obtain ⟨hc, hrest⟩ := List.forall_mem_cons.mp h
    intro hin
    rw [List.append_assoc] at hin
    rcases List.infix_cons_iff.mp (hskip hc.2 _ hin) with hstart | hin
    · obtain ⟨more, hmore⟩ : ['/'] <+: Text.joinWith ['/'] rest := (List.cons_prefix_cons.mp hstart).2
      exact head?_joinWith hrest (hmore ▸ rfl)
    · exact ih hrest hin

variable {root : Text} (hroot : root = ['/'] ∨ root = ['/', '/'])

include hroot

theorem rootOf_append {s : Text} (hs : s.head? ≠ some '/') : rootOf (root ++ s) = root := by
  cases s with
  | nil => rcases hroot with rfl | rfl <;> rfl
  | cons c s =>
    have hc : c ≠ '/' := fun heq => hs (congrArg some heq)
    rcases hroot with rfl | rfl <;> simp [rootOf, hc]

theorem tidy_rooted (h : ∀ c ∈ parts, c ≠ [] ∧ '/' ∉ c) : Tidy (root ++ Text.joinWith ['/'] parts) := by
  have hall : isRoot root = true := by rcases hroot with rfl | rfl <;> rfl
  refine ⟨by rcases hroot with rfl | rfl <;> rfl, ?_⟩
  rintro dir ⟨hdir, hbegins⟩ hend
  obtain ⟨front, rfl⟩ := List.getLast?_eq_some_iff.mp hend
  rw [isRoot_concat] at hdir
  have hfront : front <+: root ++ Text.joinWith ['/'] parts := by
    rw [List.append_assoc] at hbegins
    exact (List.prefix_append _ _).trans hbegins
  -- both slashes stand behind the root
  rcases List.prefix_or_prefix_of_prefix hfront (List.prefix_append _ _) with hshort | ⟨more, rfl⟩
  · exact absurd (isRoot_of_isPrefix hshort hall) (by simp [hdir])
  · simp only [List.append_assoc, List.prefix_append_right_inj] at hbegins
    exact not_infix_joinWith h ((List.suffix_append more _).isInfix.trans hbegins.isInfix)

/-- A path that is made of a root and components is normal. -/
theorem normal_rooted (h : ∀ c ∈ parts, IsComponent c) :
    normal (root ++ Text.joinWith ['/'] parts) = root ++ Text.joinWith ['/'] parts := by
  have hparts : reduce true [] ((Text.joinWith ['/'] parts).splitOn '/') = parts.reverse := by
    by_cases hnil : parts = []
    · subst hnil
      rfl
    · rw [Text.joinWith_eq_intercalate, List.splitOn_intercalate '/' (fun c hc => (h c hc).noSlash) hnil,
        reduce_components h, List.append_nil]
  have hpieces : reduce true [] (Text.pieces ['/'] (root ++ Text.joinWith ['/'] parts)) = parts.reverse := by
    rw [Text.pieces_singleton]
    rcases hroot with rfl | rfl <;> simpa [List.splitOn_cons_eq_if_modifyHead, reduce] using hparts
  have hne : root.isEmpty = false := by rcases hroot with rfl | rfl <;> rfl
  simp only [normal, rootOf_append hroot (head?_joinWith fun c hc => ⟨(h c hc).nonempty, (h c hc).noSlash⟩), hne,
    Bool.not_false, hpieces, List.reverse_reverse]
  rw [if_neg]
  intro hempty
  rw [List.append_eq_nil_iff.mp (List.isEmpty_iff.mp hempty) |>.1] at hne
  cases hne

end

structure Rooted (root p : Text) : Prop where
  slashes : root = ['/'] ∨ root = ['/', '/']
  parts : ∃ parts, (∀ c ∈ parts, IsComponent c) ∧ p = root ++ Text.joinWith ['/'] parts

/-- A normal path that is absolute is made of a root and components. -/
theorem exists_rooted_normal {p : Text} (h : isAbsolute (normal p) = true) : ∃ root, Rooted root (normal p) := by
  obtain ⟨parts, hparts, hnormal | ⟨-, hnormal⟩⟩ := normal_parts p
  · rcases rootOf_cases p with hroot | hroot
    · rw [hnormal, hroot, List.nil_append] at h
      obtain ⟨rest, hrest⟩ := List.isPrefixOf_iff_prefix.mp h
      exact absurd (hrest ▸ rfl) (head?_joinWith fun c hc => ⟨(hparts c hc).1, (hparts c hc).2.1⟩)
    · have hne : rootOf p ≠ [] := by rcases hroot with hroot | hroot <;> simp [hroot]
      exact ⟨rootOf p, hroot, parts, fun c hc => (hparts c hc).2.2 hne, hnormal⟩
  · rw [hnormal] at h
    cases h

namespace Rooted

variable {root p : Text}

theorem normal (h : Rooted root p) : normal p = p := by
  obtain ⟨parts, hparts, rfl⟩ := h.parts
  exact normal_rooted h.slashes hparts

theorem tidy (h : Rooted root p) : Tidy p := by
  obtain ⟨parts, hparts, rfl⟩ := h.parts
  exact tidy_rooted h.slashes fun c hc => ⟨(hparts c hc).nonempty, (hparts c hc).noSlash⟩

theorem rootOf (h : Rooted root p) : rootOf p = root := by
  obtain ⟨parts, hparts, rfl⟩ := h.parts
  exact rootOf_append h.slashes (head?_joinWith fun c hc => ⟨(hparts c hc).nonempty, (hparts c hc).noSlash⟩)

theorem eq_root (h : Rooted root p) (hp : isRoot p = true) : p = root := by
  obtain ⟨parts, hparts, rfl⟩ := h.parts
  have hhead := head?_joinWith fun c hc => ⟨(hparts c hc).nonempty, (hparts c hc).noSlash⟩
  cases hrest : Text.joinWith ['/'] parts with
  | nil => exact List.append_nil root
  | cons c rest =>
    rw [hrest] at hp hhead
    have hc : c = '/' := by simpa using List.all_eq_true.mp hp c (by simp)
    exact absurd (congrArg some hc) hhead

/-- Going up takes the last component away. -/
theorem directory (h : Rooted root p) : Rooted root (directory p) := by
  obtain ⟨parts, hparts, rfl⟩ := h.parts
  rcases List.eq_nil_or_concat parts with rfl | ⟨front, last, rfl⟩
  · have hroot : isRoot (root ++ Text.joinWith ['/'] []) = true := by
      rcases h.slashes with hslashes | hslashes <;> subst hslashes <;> rfl
    rw [h.tidy.directory_eq_self_iff.mpr hroot]
    exact h
  · rw [List.concat_eq_append] at hparts ⊢
    obtain ⟨hfront, hlast⟩ := List.forall_mem_append.mp hparts
    have hlast := hlast last List.mem_cons_self
    refine ⟨h.slashes, front, hfront, ?_⟩
    cases front with
    | nil =>
      rcases h.slashes with hslashes | hslashes
      · subst hslashes
        exact directory_append_of_isRoot hlast.noSlash (s := []) rfl
      · subst hslashes
        exact directory_append_of_isRoot hlast.noSlash (s := ['/']) rfl
    | cons c front =>
      have hs : Rooted root (root ++ Text.joinWith ['/'] (c :: front)) := ⟨h.slashes, _, hfront, rfl⟩
      have hne : Text.joinWith ['/'] (c :: front) ≠ [] := by
        have hc := (hfront c List.mem_cons_self).nonempty
        cases front <;> simp [Text.joinWith, hc]
      have hroot : isRoot (root ++ Text.joinWith ['/'] (c :: front)) = false := by
        rw [Bool.eq_false_iff]
        intro hroot
        exact hne (List.append_right_eq_self.mp (hs.eq_root hroot))
      have hsplit : root ++ Text.joinWith ['/'] (c :: front ++ [last]) =
          (root ++ Text.joinWith ['/'] (c :: front)) ++ '/' :: last := by
        rw [Text.joinWith_snoc _ (List.cons_ne_nil c front)]
        simp
      have habove : Above (root ++ Text.joinWith ['/'] (c :: front)) (root ++ Text.joinWith ['/'] (c :: front ++ [last])) :=
        ⟨hroot, by rw [hsplit]; exact (prefix_iff_of_notMem hlast.noSlash _ _).mpr (.inl rfl)⟩
      have hend := h.tidy.single _ (by simpa using habove)
      rw [hsplit]
      exact directory_append hlast.noSlash hroot hend

end Rooted

theorem tidy_normal {p : Text} (h : isAbsolute (normal p) = true) : Tidy (normal p) := by
  obtain ⟨root, hrooted⟩ := exists_rooted_normal h
  exact hrooted.tidy

end StyleCheck.Path
