/-
  StyleCheck.Proofs.Nesting.Run — the nesting of blocks through a file.

  `before` is the state when all lines above a line have been read in order, and `directed` the one
  right after the directive of the line, if it is one, has taken effect. All else that a line does
  leaves the frames of the conditionals alone (`update_frames`).
-/

import StyleCheck.Nesting.Update

namespace StyleCheck.Nesting

def before (s : Source) : (n : Nat) → Nesting
  | 0 => {}
  | n + 1 => ((before s n).update s n).1

/-- The state on line `n` right after its directive has taken effect. -/
def directed (s : Source) (n : Nat) : Nesting := (before s n).beginLine.preprocess (s.elided n)

/-! ## What leaves the frames alone -/

@[simp] theorem beginLine_frames (st : Nesting) : st.beginLine.frames = st.frames := rfl

@[simp] theorem beginLine_stack (st : Nesting) : st.beginLine.stack = st.stack := rfl

@[simp] theorem push_frames (st : Nesting) (b : Block) : (st.push b).frames = st.frames := rfl

@[simp] theorem swap_frames (st : Nesting) (stack : List Block) : (st.swap stack).frames = st.frames := rfl

@[simp] theorem swap_stack (st : Nesting) (stack : List Block) : (st.swap stack).stack = stack := rfl

@[simp] theorem pop_frames (st : Nesting) : st.pop.frames = st.frames := by
  unfold pop
  split <;> rfl

@[simp] theorem mapTop_frames (st : Nesting) (f : Block → Block) : (st.mapTop f).frames = st.frames := by
  unfold mapTop
  split <;> rfl

theorem enterNamespaces_frames (line : Nat) (st : Nesting) (text : Text) :
    (enterNamespaces line st text).1.frames = st.frames := by
  fun_induction enterNamespaces line st text with
  | case1 => rfl
  | case2 st text head _ ih => exact ih

theorem enterClass_frames (s : Source) (line : Nat) (st : Nesting) (text : Text) :
    (enterClass s line st text).1.frames = st.frames := by
  unfold enterClass
  split
  · rfl
  · simp only
    split <;> rfl

theorem noteBases_frames (s : Source) (line : Nat) (st : Nesting) : (noteBases s line st).frames = st.frames := by
  unfold noteBases
  split
  · rfl
  · split
    · exact mapTop_frames _ _
    · rfl

theorem noteAccess_frames (line : Nat) (st : Nesting) (text : Text) :
    (noteAccess line st text).1.frames = st.frames := by
  unfold noteAccess
  split
  · exact mapTop_frames _ _
  · rfl

theorem applyToken_frames (s : Source) (line : Nat) (st : Nesting) (text : Text) (c : Char) :
    (applyToken s line st text c).1.frames = st.frames := by
  unfold applyToken openCurly closeCurly endDeclaration
  repeat' split
  all_goals simp

theorem applyTokens_frames (s : Source) (line : Nat) (st : Nesting) (text : Text) :
    (applyTokens s line st text).1.frames = st.frames := by
  fun_induction applyTokens s line st text with
  | case1 => rfl
  | case2 st text c rest _ st' here happ st'' later hlater ih =>
    have h := applyToken_frames s line st text c
    rw [happ] at h
    rw [hlater] at ih
    exact ih.trans h

/-- Of all that a line does, only its directive touches the frames. -/
theorem update_frames (s : Source) (st : Nesting) (line : Nat) :
    (st.update s line).1.frames = (st.beginLine.preprocess (s.elided line)).frames := by
  simp only [update, applyTokens_frames, noteAccess_frames, noteBases_frames, enterClass_frames,
    enterNamespaces_frames, mapTop_frames]

theorem before_succ_frames (s : Source) (n : Nat) : (before s (n + 1)).frames = (directed s n).frames :=
  update_frames s (before s n) n

end StyleCheck.Nesting
