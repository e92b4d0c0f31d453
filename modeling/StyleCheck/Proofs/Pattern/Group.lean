/-
  StyleCheck.Proofs.Pattern.Group — a group at the start of a text, and the character that follows it.

  Many rules look for a character with the text before it as a group, and take the length of the group for the column of
  the character. What a group remembers is what has been taken since it began (`group_remember`), and whatever is known
  about the places where the pattern of the group can end is known about the place before the character
  (`run_start_group`). So the character stands at that column (`match?_start_group`).
-/

import StyleCheck.Proofs.Pattern.Taken

namespace StyleCheck.Pattern

variable {next : Cursor → Option Cursor} {c d : Cursor}

/-- A group holds what has been taken since it began. -/
theorem group_remember {e : Cursor} {taken : Text} (hrest : c.rest = taken ++ e.rest)
    (hcolumn : e.column = c.column + taken.length) (k start stop : Nat) (source rest : Text) :
    (Match.mk start stop source rest (c.remember e k).captures).group k = taken := by
  simp [Match.group, Match.group?, Cursor.remember, Capture.text, hrest, hcolumn]

/-- After the group stands the character, and the group ends where its pattern can end. -/
theorem run_start_group {q : Pattern} {k : Nat} {x : Char} {ends : Cursor → Prop}
    (hq : ∀ next d, q.run next c = some d → ∃ e, next e = some d ∧ ends e)
    (h : (seq (seq start (group k q)) (literal [x])).run next c = some d) :
    ∃ e rest, ends e ∧ e.rest = x :: rest ∧ next ((c.remember e k).step x rest) = some d := by
  have hgroup : q.run (fun e => (literal [x]).run next (c.remember e k)) c = some d := by
    rw [run, run, run] at h
    split at h
    · exact h
    · cases h
  obtain ⟨e, he, hends⟩ := hq _ _ hgroup
  obtain ⟨rest, hrest, hnext⟩ := run_among he
  exact ⟨e, rest, hends, hrest, hnext⟩

/-- The length of the group is the column of the character. -/
theorem match?_start_group {q : Pattern} {set : CharSet} {k : Nat} {x : Char} {text : Text} {m : Match}
    (h : (seq (seq (seq start (group k q)) (literal [x])) (one set)).match? text = some m) :
    text[(m.group k).length]? = some x := by
  rw [match?_eq] at h
  obtain ⟨d, hd, rfl⟩ := Option.map_eq_some_iff.mp h
  obtain ⟨e, rest, ⟨taken, htaken, hcolumn⟩, hrest, hone⟩ := run_start_group (forward_run q · _ ·) hd
  simp only [run, Cursor.step] at hone
  split at hone
  · cases hone
  · split at hone
    · cases hone
      rw [group_remember htaken hcolumn]
      simp [show text = taken ++ e.rest from htaken, hrest]
    · cases hone

end StyleCheck.Pattern
