/-
  StyleCheck.Proofs.Nesting.Conditional — conditionals put the nesting back.

  A conditional is a line that opens one together with the line that closes it, found by counting
  (`Conditional`); its alternatives are those that stand at the same depth (`Alternative`). Between
  the two lines the frame of the conditional lies below the frames of those nested in it, whatever
  the lines do to the stack of blocks (`Inside`): no directive at a greater depth touches it. So at
  every alternative the stack is again what it was before the conditional, at the end it is what it
  was before the first alternative, and the frames are what they were before it
  (`conditionals_restore_the_nesting`).
-/

import StyleCheck.Proofs.Nesting.Run

namespace StyleCheck.Nesting

/-- The number of lines from line `i` up to, not including, line `j` that have the directive `c`. -/
def directives (c : Directive.Condition) (s : Source) (i j : Nat) : Nat :=
  (List.range' i (j - i)).countP fun n => Directive.condition? (s.elided n) == some c

/-- The conditional that is opened on line `i` is closed on line `k`: there for the first time as
many have been closed as opened. -/
structure Conditional (s : Source) (i k : Nat) : Prop where
  opened : Directive.condition? (s.elided i) = some .opening
  closed : Directive.condition? (s.elided k) = some .closing
  order : i < k
  inside : ∀ j, i < j → j ≤ k → directives .closing s i j < directives .opening s i j
  balanced : directives .closing s i (k + 1) = directives .opening s i (k + 1)

structure Alternative (s : Source) (i n j : Nat) : Prop where
  after : i < j
  above : j < n
  directive : Directive.condition? (s.elided j) = some .alternative
  depth : directives .opening s i j = directives .closing s i j + 1

/-! ## Counting -/

theorem directives_succ (c : Directive.Condition) (s : Source) {i j : Nat} (h : i ≤ j) :
    directives c s i (j + 1)
      = directives c s i j + if Directive.condition? (s.elided j) = some c then 1 else 0 := by
  have hlen : j + 1 - i = (j - i) + 1 := by omega
  have hlast : i + 1 * (j - i) = j := by omega
  simp only [directives, hlen, List.range'_concat, hlast, List.countP_append, List.countP_singleton,
    beq_iff_eq]

theorem directives_self (c : Directive.Condition) (s : Source) (i : Nat) : directives c s i i = 0 := by
  simp [directives]

/-! ## Within a conditional -/

/-- Before line `n` of the conditional that is opened on line `i`: `frame` is its frame, and the
frames `inner` are those of the conditionals nested in it. -/
structure Inside (s : Source) (i n : Nat) (inner : List Frame) (frame : Frame) : Prop where
  frames : (before s n).frames = inner ++ frame :: (before s i).frames
  height : directives .opening s i n = directives .closing s i n + inner.length + 1
  saved : frame.beforeIf = (before s i).stack
  unseen : frame.seenElse = false → ∀ j, ¬ Alternative s i n j
  seen : frame.seenElse = true → ∃ j, Alternative s i n j ∧ (∀ j', Alternative s i n j' → j ≤ j') ∧
    frame.beforeElse = (before s j).stack

/-- Alternatives above the next line: those above this one, and perhaps this one. -/
theorem alternative_succ {s : Source} {i n j : Nat} :
    Alternative s i (n + 1) j ↔ Alternative s i n j ∨ (j = n ∧ Alternative s i (n + 1) n) := by
  constructor
  · intro h
    rcases Nat.lt_succ_iff_lt_or_eq.mp h.above with hlt | rfl
    · exact Or.inl ⟨h.after, hlt, h.directive, h.depth⟩
    · exact Or.inr ⟨rfl, h⟩
  · rintro (h | ⟨rfl, h⟩)
    · exact ⟨h.after, Nat.lt_succ_of_lt h.above, h.directive, h.depth⟩
    · exact h

/-- Where line `n` is no alternative of the conditional, its frame says what it said before. -/
theorem Inside.keep {s : Source} {i n : Nat} {inner inner' : List Frame} {frame : Frame}
    (h : Inside s i n inner frame) (hn : ¬ Alternative s i (n + 1) n)
    (hf : (before s (n + 1)).frames = inner' ++ frame :: (before s i).frames)
    (hh : directives .opening s i (n + 1) = directives .closing s i (n + 1) + inner'.length + 1) :
    Inside s i (n + 1) inner' frame := by
  have same : ∀ j, Alternative s i (n + 1) j ↔ Alternative s i n j := by
    intro j
    rw [alternative_succ]
    exact ⟨fun h => h.elim id fun h => absurd h.2 hn, Or.inl⟩
  refine ⟨hf, hh, h.saved, ?_, ?_⟩
  · intro hu j
    rw [same]
    exact h.unseen hu j
  · intro hs
    obtain ⟨j, hj, hfirst, hb⟩ := h.seen hs
    exact ⟨j, (same j).mpr hj, fun j' hj' => hfirst j' ((same j').mp hj'), hb⟩

theorem inside_start {s : Source} {i : Nat} (h : Directive.condition? (s.elided i) = some .opening) :
    Inside s i (i + 1) [] { beforeIf := (before s i).stack } := by
  have none : ∀ j, ¬ Alternative s i (i + 1) j := by
    intro j hj
    have := hj.after
    have := hj.above
    omega
  refine ⟨?_, ?_, rfl, fun _ => none, fun hs => absurd hs (by simp)⟩
  · rw [before_succ_frames]
    simp [directed, preprocess, h, openConditional]
  · rw [directives_succ _ s (Nat.le_refl i), directives_succ _ s (Nat.le_refl i), directives_self,
      directives_self, h]
    simp

section Step

variable {s : Source} {i n : Nat} {inner : List Frame} {frame : Frame}

/-- A line that opens a conditional within this one. -/
theorem Inside.opening (h : Inside s i n inner frame) (hi : i < n)
    (hd : Directive.condition? (s.elided n) = some .opening) :
    Inside s i (n + 1) ({ beforeIf := (before s n).stack } :: inner) frame := by
  refine h.keep (fun ha => by simpa [hd] using ha.directive) ?_ ?_
  · rw [before_succ_frames]
    simp [directed, preprocess, hd, openConditional, h.frames]
  · have hh := h.height
    rw [directives_succ _ s (Nat.le_of_lt hi), directives_succ _ s (Nat.le_of_lt hi), hd]
    simp only [Option.some.injEq, reduceCtorEq, if_false, if_true, List.length_cons]
    omega

/-- A line that closes a conditional within this one. -/
theorem Inside.closing {top : Frame} (h : Inside s i n (top :: inner) frame) (hi : i < n)
    (hd : Directive.condition? (s.elided n) = some .closing) : Inside s i (n + 1) inner frame := by
  refine h.keep (fun ha => by simpa [hd] using ha.directive) ?_ ?_
  · have hf : (before s n).beginLine.frames = top :: (inner ++ frame :: (before s i).frames) := h.frames
    rw [before_succ_frames]
    simp only [directed, preprocess, hd, closeConditional, hf]
  · have hh := h.height
    rw [directives_succ _ s (Nat.le_of_lt hi), directives_succ _ s (Nat.le_of_lt hi), hd]
    simp only [Option.some.injEq, reduceCtorEq, if_false, if_true, List.length_cons] at hh ⊢
    omega

theorem Inside.height_alternative (h : Inside s i n inner frame) (hi : i < n)
    (hd : Directive.condition? (s.elided n) = some .alternative) :
    directives .opening s i (n + 1) = directives .closing s i (n + 1) + inner.length + 1 := by
  have hh := h.height
  rw [directives_succ _ s (Nat.le_of_lt hi), directives_succ _ s (Nat.le_of_lt hi), hd]
  simp only [Option.some.injEq, reduceCtorEq, if_false]
  omega

/-- An alternative of a conditional within this one changes the frame of that one only. -/
theorem Inside.alternative_within {top : Frame} (h : Inside s i n (top :: inner) frame) (hi : i < n)
    (hd : Directive.condition? (s.elided n) = some .alternative) :
    ∃ top', Inside s i (n + 1) (top' :: inner) frame := by
  have hf : (before s n).beginLine.frames = top :: (inner ++ frame :: (before s i).frames) := h.frames
  refine ⟨if top.seenElse then top else { top with seenElse := true, beforeElse := (before s n).stack },
    h.keep ?_ ?_ (h.height_alternative hi hd)⟩
  · intro ha
    have hdepth := ha.depth
    have hh := h.height
    simp only [List.length_cons] at hh
    omega
  · rw [before_succ_frames]
    simp only [directed, preprocess, hd, switchConditional, hf, beginLine_stack, List.cons_append]

/-- At the first alternative of this conditional its frame keeps the stack; at later ones it stays. -/
theorem Inside.alternative (h : Inside s i n [] frame) (hi : i < n)
    (hd : Directive.condition? (s.elided n) = some .alternative) :
    ∃ frame', Inside s i (n + 1) [] frame' := by
  have hf : (before s n).beginLine.frames = frame :: (before s i).frames := h.frames
  have hh := h.height_alternative hi hd
  cases hs : frame.seenElse with
  | true =>
    refine ⟨frame, ?_, hh, h.saved, fun hu => by simp [hs] at hu, fun _ => ?_⟩
    · rw [before_succ_frames]
      simp only [directed, preprocess, hd, switchConditional, hf, hs, if_true, List.nil_append]
    · obtain ⟨j, hj, hfirst, hb⟩ := h.seen hs
      refine ⟨j, alternative_succ.mpr (Or.inl hj), fun j' hj' => ?_, hb⟩
      rcases alternative_succ.mp hj' with hj' | ⟨rfl, -⟩
      · exact hfirst j' hj'
      · exact Nat.le_of_lt hj.above
  | false =>
    have hn : Alternative s i (n + 1) n := ⟨hi, Nat.lt_succ_self n, hd, h.height⟩
    refine ⟨{ frame with seenElse := true, beforeElse := (before s n).stack }, ?_, hh, h.saved,
      fun hu => by simp at hu, fun _ => ⟨n, hn, fun j' hj' => ?_, rfl⟩⟩
    · rw [before_succ_frames]
      simp only [directed, preprocess, hd, switchConditional, hf, hs, Bool.false_eq_true, if_false,
        beginLine_stack, List.nil_append]
    · rcases alternative_succ.mp hj' with hj' | ⟨rfl, -⟩
      · exact absurd hj' (h.unseen hs j')
      · exact Nat.le_refl _

/-- One line within the conditional. -/
theorem Inside.step (h : Inside s i n inner frame) (hi : i < n)
    (hopen : directives .closing s i (n + 1) < directives .opening s i (n + 1)) :
    ∃ inner' frame', Inside s i (n + 1) inner' frame' := by
  rcases hd : Directive.condition? (s.elided n) with _ | c
  · refine ⟨inner, frame, h.keep (fun ha => by simpa [hd] using ha.directive) ?_ ?_⟩
    · rw [before_succ_frames, ← h.frames]
      simp [directed, preprocess, hd]
    · rw [directives_succ _ s (Nat.le_of_lt hi), directives_succ _ s (Nat.le_of_lt hi), hd]
      exact h.height
  cases c with
  | opening => exact ⟨_, frame, h.opening hi hd⟩
  | closing =>
    cases inner with
    | nil =>
      -- this conditional itself is not closed yet
      have hh := h.height
      rw [directives_succ _ s (Nat.le_of_lt hi), directives_succ _ s (Nat.le_of_lt hi), hd] at hopen
      simp only [Option.some.injEq, reduceCtorEq, if_false, if_true, List.length_nil] at hh hopen
      omega
    | cons top inner => exact ⟨inner, frame, h.closing hi hd⟩
  | alternative =>
    cases inner with
    | nil =>
      obtain ⟨frame', h'⟩ := h.alternative hi hd
      exact ⟨[], frame', h'⟩
    | cons top inner =>
      obtain ⟨top', h'⟩ := h.alternative_within hi hd
      exact ⟨top' :: inner, frame, h'⟩

end Step

/-- All lines of a conditional up to the one that closes it. -/
theorem Conditional.inside_before {s : Source} {i k : Nat} (h : Conditional s i k) {n : Nat} (hi : i < n)
    (hk : n ≤ k) : ∃ inner frame, Inside s i n inner frame := by
  induction n with
  | zero => omega
  | succ n ih =>
    rcases Nat.lt_succ_iff_lt_or_eq.mp hi with hlt | rfl
    · obtain ⟨inner, frame, hin⟩ := ih hlt (by omega)
      exact hin.step hlt (h.inside (n + 1) hi hk)
    · exact ⟨[], _, inside_start h.opened⟩

/-- On the line that closes the conditional, its frame is the innermost one. -/
theorem Conditional.inside_closing {s : Source} {i k : Nat} (h : Conditional s i k) :
    ∃ frame, Inside s i k [] frame := by
  obtain ⟨inner, frame, hin⟩ := h.inside_before h.order (Nat.le_refl k)
  have hh := hin.height
  have hb := h.balanced
  rw [directives_succ _ s (Nat.le_of_lt h.order), directives_succ _ s (Nat.le_of_lt h.order), h.closed] at hb
  simp only [Option.some.injEq, reduceCtorEq, if_false, if_true] at hb
  obtain rfl : inner = [] := List.eq_nil_of_length_eq_zero (by omega)
  exact ⟨frame, hin⟩

/-- On an alternative of the conditional, its frame is the innermost one. -/
theorem Conditional.inside_alternative {s : Source} {i k j : Nat} (h : Conditional s i k)
    (hj : Alternative s i k j) : ∃ frame, Inside s i j [] frame := by
  obtain ⟨inner, frame, hin⟩ := h.inside_before hj.after (Nat.le_of_lt hj.above)
  have hh := hin.height
  have hdepth := hj.depth
  obtain rfl : inner = [] := List.eq_nil_of_length_eq_zero (by omega)
  exact ⟨frame, hin⟩

/-! ## Restoring -/

theorem Inside.stack_at_alternative {s : Source} {i n : Nat} {frame : Frame} (h : Inside s i n [] frame)
    (hd : Directive.condition? (s.elided n) = some .alternative) :
    (directed s n).stack = (before s i).stack := by
  have hf : (before s n).beginLine.frames = frame :: (before s i).frames := h.frames
  simp only [directed, preprocess, hd, switchConditional, hf, swap_stack]
  split
  · exact h.saved
  · exact h.saved

theorem Inside.at_closing {s : Source} {i n : Nat} {frame : Frame} (h : Inside s i n [] frame)
    (hd : Directive.condition? (s.elided n) = some .closing) :
    (directed s n).frames = (before s i).frames ∧
      (directed s n).stack = if frame.seenElse then frame.beforeElse else (before s n).stack := by
  have hf : (before s n).beginLine.frames = frame :: (before s i).frames := h.frames
  simp only [directed, preprocess, hd, closeConditional, hf, true_and]
  split <;> rfl

/-- At every alternative of a conditional the stack is what it was before the conditional. At its
end it is what it was before the first alternative, and without one it is left alone. The frames
after it are those before it. -/
theorem conditionals_restore_the_nesting (s : Source) (i k : Nat) (h : Conditional s i k) :
    (∀ j, Alternative s i k j → (directed s j).stack = (before s i).stack) ∧
    (∀ j, Alternative s i k j → (∀ j', Alternative s i k j' → j ≤ j') →
      (directed s k).stack = (before s j).stack) ∧
    ((∀ j, ¬ Alternative s i k j) → (directed s k).stack = (before s k).stack) ∧
    (before s (k + 1)).frames = (before s i).frames := by
  obtain ⟨frame, hin⟩ := h.inside_closing
  obtain ⟨hframes, hstack⟩ := hin.at_closing h.closed
  refine ⟨fun j hj => ?_, fun j hj hfirst => ?_, fun hnone => ?_, ?_⟩
  · obtain ⟨frame', hin'⟩ := h.inside_alternative hj
    exact hin'.stack_at_alternative hj.directive
  · cases hs : frame.seenElse with
    | false => exact absurd hj (hin.unseen hs j)
    | true =>
      obtain ⟨j', hj', hfirst', hb⟩ := hin.seen hs
      rw [hstack, if_pos hs, hb, Nat.le_antisymm (hfirst' j hj) (hfirst j' hj')]
  · cases hs : frame.seenElse with
    | false => rw [hstack, if_neg (by simp [hs])]
    | true =>
      obtain ⟨j', hj', -⟩ := hin.seen hs
      exact absurd hj' (hnone j')
  · rw [before_succ_frames, hframes]

def twoHeads : Source :=
  Source.ofLines
    ["namespace n \x7b".toList, "#ifdef A".toList, "struct B \x7b".toList, "#if C".toList,
      "void f() \x7b".toList, "#endif".toList, "#else".toList, "struct B : D \x7b".toList,
      "#endif".toList, "\x7d".toList]

theorem twoHeads_conditional : Conditional twoHeads 1 8 where
  opened := by decide +kernel
  closed := by decide +kernel
  order := by decide
  inside := by
    have hall : ∀ j < 9, 1 < j → directives .closing twoHeads 1 j < directives .opening twoHeads 1 j := by
      decide +kernel
    intro j h1 h8
    exact hall j (by omega) h1
  balanced := by decide +kernel

theorem twoHeads_alternative : Alternative twoHeads 1 8 6 :=
  ⟨by decide, by decide, by decide +kernel, by decide +kernel⟩

theorem conditionals_restore_the_nesting_twoHeads :
    Conditional twoHeads 1 8 ∧ Alternative twoHeads 1 8 6 ∧
      (directed twoHeads 6).stack = (before twoHeads 1).stack ∧
      (before twoHeads 9).frames = (before twoHeads 1).frames := by
  have h := conditionals_restore_the_nesting twoHeads 1 8 twoHeads_conditional
  exact ⟨twoHeads_conditional, twoHeads_alternative, h.1 6 twoHeads_alternative, h.2.2.2⟩

end StyleCheck.Nesting
