/-
  StyleCheck.Proofs.Rule.TypeName — the search for template parameters stays within the file.

  The search for a parameter goes over the blocks from the inside out. For each block it goes up, line
  by line, from the beginning of the block to the beginning of the next one in search of the keyword,
  and from the keyword down again. `Search.step` is one step of it with the line counted down and up
  as a whole number, which may leave the file: a line that does not exist breaks the search off. A
  derivation of `Ends` is a run of finitely many steps to an answer, in which no line is missing.

  `stacks_are_in_order_and_searched_safely`: after every line of a file all stacks are in order, so
  every search that starts there ends, and its answer is that of `isParameter`.
-/

import StyleCheck.Proofs.Nesting.Order
import StyleCheck.Rule.TypeName

namespace StyleCheck.Rule.TypeName

/-! ## The search step by step -/

inductive Search where
  /-- The blocks are still to be looked at. -/
  | blocks (stack : List Block)
  /-- On the way up from the beginning of `b`, at line `line`. -/
  | up (b : Block) (outer : List Block) (line : Int)
  /-- On the way down to the beginning of `b`, at line `line`. -/
  | down (b : Block) (outer : List Block) (line : Int)

inductive Outlook where
  | next (search : Search)
  | answer (found : Bool)
  /-- The line to be read is not there. -/
  | broken

def lineAt? (s : Source) (line : Int) : Option Text :=
  if 0 ≤ line ∧ line < s.size then some (s.elided line.toNat) else none

/-- The line above which the way up from the innermost block but those of `outer` does not go. -/
def lowest (outer : List Block) : Nat := (outer.head?.map Block.start).getD 0

def Search.step (s : Source) (token : Text) : Search → Outlook
  | .blocks [] => .answer false
  | .blocks (b :: outer) => if b.isNamespace then .answer false else .next (.up b outer b.start)
  | .up b outer line =>
    if line < lowest outer then .next (.blocks outer)
    else
      match lineAt? s line with
      | none => .broken
      | some text =>
        if Text.holds text "template".toList then .next (.down b outer line) else .next (.up b outer (line - 1))
  | .down b outer line =>
    if b.start < line then .next (.blocks outer)
    else
      match lineAt? s line with
      | none => .broken
      | some text => if (parameterNamed token).occursIn text then .answer true else .next (.down b outer (line + 1))

inductive Ends (s : Source) (token : Text) : Search → Bool → Prop
  | answer {search : Search} {found : Bool} : search.step s token = .answer found → Ends s token search found
  | next {search search' : Search} {found : Bool} :
      search.step s token = .next search' → Ends s token search' found → Ends s token search found

theorem lineAt?_ofNat {s : Source} {n : Nat} (h : n < s.size) : lineAt? s n = some (s.elided n) := by
  unfold lineAt?
  rw [if_pos (by omega), Int.toNat_natCast]

section

variable {s : Source} {token : Text} {b : Block} {outer : List Block} {found : Bool}

/-- On the way down, `count` lines being left. -/
theorem ends_down (hb : b.start < s.size) (hout : Ends s token (.blocks outer) found) (count : Nat) {line : Nat}
    (hline : line + count = b.start + 1) :
    Ends s token (.down b outer line)
      ((s.textFrom Line.elided line count).any (parameterNamed token).occursIn || found) := by
  induction count generalizing line with
  | zero =>
    refine .next ?_ hout
    rw [Search.step, if_pos (by omega)]
  | succ count ih =>
    have hstep : Search.step s token (.down b outer line) =
        if (parameterNamed token).occursIn (s.elided line) then .answer true else .next (.down b outer (line + 1)) := by
      rw [Search.step, if_neg (by omega), lineAt?_ofNat (by omega)]
    have hlater := ih (show line + 1 + count = b.start + 1 by omega)
    have hany : (s.textFrom Line.elided line (count + 1)).any (parameterNamed token).occursIn =
        ((parameterNamed token).occursIn (s.elided line) ||
          (s.textFrom Line.elided (line + 1) count).any (parameterNamed token).occursIn) := by
      simp only [Source.textFrom, List.range'_succ, List.map_cons, List.any_cons]
      rfl
    rw [hany]
    by_cases hp : (parameterNamed token).occursIn (s.elided line) = true
    · rw [if_pos hp] at hstep
      rw [hp]
      exact .answer hstep
    · rw [if_neg hp] at hstep
      rw [Bool.not_eq_true] at hp
      rw [hp, Bool.false_or]
      exact .next hstep hlater

def answerFrom (s : Source) (token : Text) (b : Block) (found : Bool) : Option Nat → Bool
  | none => found
  | some first =>
    (s.textFrom Line.elided first (b.start + 1 - first)).any (parameterNamed token).occursIn || found

/-- On the way up, `line` being at or above the beginning of the block. -/
theorem ends_up (hb : b.start < s.size) (hout : Ends s token (.blocks outer) found) {line : Nat}
    (hline : line ≤ b.start) :
    Ends s token (.up b outer line) (answerFrom s token b found (templateAbove? s (lowest outer) line)) := by
  have hstep : ∀ {n : Nat}, n ≤ b.start → lowest outer ≤ n → Search.step s token (.up b outer n) =
      if Text.holds (s.elided n) "template".toList then .next (.down b outer n) else .next (.up b outer (n - 1)) := by
    intro n hn hlow
    rw [Search.step, if_neg (by omega), lineAt?_ofNat (by omega)]
  have hpast : ∀ {line : Int}, line < lowest outer → Ends s token (.up b outer line) found := by
    intro line hlow
    refine .next ?_ hout
    rw [Search.step, if_pos hlow]
  have hkeyword : ∀ {n : Nat}, n ≤ b.start → lowest outer ≤ n → Text.holds (s.elided n) "template".toList = true →
      Ends s token (.up b outer n) (answerFrom s token b found (some n)) := by
    intro n hn hlow hk
    refine .next ?_ (ends_down hb hout (b.start + 1 - n) (by omega))
    rw [hstep hn hlow, if_pos hk]
  induction line with
  | zero =>
    rw [templateAbove?]
    by_cases hlow : lowest outer = 0
    · by_cases hk : Text.holds (s.elided 0) "template".toList = true
      · rw [if_pos (by simp only [hlow, hk, beq_self_eq_true, Bool.and_self])]
        exact hkeyword hline (by omega) hk
      · rw [if_neg (by simp only [hk, Bool.and_false, Bool.false_eq_true, not_false_eq_true])]
        refine .next ?_ (hpast (show ((0 : Nat) : Int) - 1 < lowest outer by omega))
        rw [hstep hline (by omega), if_neg hk]
    · rw [if_neg (by simp [hlow])]
      exact hpast (by omega)
  | succ line ih =>
    rw [templateAbove?]
    by_cases hlow : line + 1 < lowest outer
    · rw [if_pos hlow]
      exact hpast (by omega)
    · rw [if_neg hlow]
      by_cases hk : Text.holds (s.elided (line + 1)) "template".toList = true
      · rw [if_pos hk]
        exact hkeyword hline (by omega) hk
      · rw [if_neg hk]
        refine .next ?_ (ih (by omega))
        rw [hstep hline (by omega), if_neg hk]
        congr 2
        omega

end

theorem isParameter_cons {s : Source} {token : Text} {b : Block} (hb : ¬ b.isNamespace = true) (outer : List Block) :
    isParameter s token (b :: outer) =
      answerFrom s token b (isParameter s token outer) (templateAbove? s (lowest outer) b.start) := by
  rw [isParameter, if_neg hb]
  rfl

/-- If no block begins below the file, the search ends with the answer of `isParameter`. -/
theorem ends_blocks {s : Source} (token : Text) {stack : List Block} (h : ∀ b ∈ stack, b.start < s.size) :
    Ends s token (.blocks stack) (isParameter s token stack) := by
  induction stack with
  | nil => exact .answer rfl
  | cons b outer ih =>
    obtain ⟨hb, houter⟩ := List.forall_mem_cons.mp h
    by_cases hn : b.isNamespace = true
    · rw [isParameter, if_pos hn]
      refine .answer ?_
      rw [Search.step, if_pos hn]
    · rw [isParameter_cons hn]
      refine .next ?_ (ends_up hb (ih houter) (Nat.le_refl b.start))
      rw [Search.step, if_neg hn]

/-- After every line the present stack and all stacks put aside are in order: inner blocks do not begin
above outer ones, none begins below the line, only classes and namespaces wait for their bracket, and
only plain blocks are assembly code as a whole. So the search for a template parameter, whatever its
name, reads existing lines only and ends. -/
theorem stacks_are_in_order_and_searched_safely (s : Source) (i : Nat) (hi : i < s.size) :
    (∀ stack ∈ (Nesting.before s (i + 1)).allStacks, Nesting.InOrder i stack) ∧
    ∀ token, Ends s token (.blocks (Nesting.before s (i + 1)).stack)
      (isParameter s token (Nesting.before s (i + 1)).stack) := by
  have hall := Nesting.stacks_inOrder s i
  refine ⟨hall, fun token => ends_blocks token fun b hb => ?_⟩
  exact Nat.lt_of_le_of_lt ((hall _ (Nesting.stack_mem_allStacks _)).begun b hb) hi

def templated : Source :=
  Source.ofLines
    ["template <typename T>".toList, "class A \x7b".toList, "#if B".toList, "struct C : D \x7b".toList,
      "  T t;".toList]

theorem stacks_are_in_order_and_searched_safely_templated :
    4 < templated.size ∧ (Nesting.before templated 5).allStacks.map (·.map Block.start) = [[3, 1], [1], []] ∧
      (∀ stack ∈ (Nesting.before templated 5).allStacks, Nesting.InOrder 4 stack) ∧
      Ends templated "T".toList (.blocks (Nesting.before templated 5).stack) true := by
  have hsize : 4 < templated.size := by decide +kernel
  have hstarts : (Nesting.before templated 5).allStacks.map (·.map Block.start) = [[3, 1], [1], []] := by
    decide +kernel
  have hfound : isParameter templated "T".toList (Nesting.before templated 5).stack = true := by decide +kernel
  obtain ⟨hall, hends⟩ := stacks_are_in_order_and_searched_safely templated 4 hsize
  exact ⟨hsize, hstarts, hall, hfound ▸ hends "T".toList⟩

end StyleCheck.Rule.TypeName
