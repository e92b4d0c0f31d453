/-
  StyleCheck.Proofs.Nesting.TemplateRounds — the rounds of the test for template arguments.

  A round looks for the first mark from a place on. It settles the question, or it goes on: on the next line if there is
  no mark, and behind the bracket that closes it if the mark is an opening angle bracket. Every round that goes on does so
  further down in the file, at a place that the file has (`round_forward`), and so the rounds come to an end
  (`settles_insideFrom`). `template_rounds_go_forward_and_end` says all of it, and that the search for a closing bracket
  always starts at an opening angle bracket of the file.
-/

import StyleCheck.Proofs.Bracket.Reading
import StyleCheck.Proofs.Nesting.Template

namespace StyleCheck.Template

/-- Some number of rounds from `p` on give the answer. -/
inductive Settles (s : Source) : (rounds : Nat) → Place → Bool → Prop
  | now {p : Place} {answer : Bool} : round s p = .inr answer → Settles s 1 p answer
  | later {p q : Place} {rounds : Nat} {answer : Bool} :
      round s p = .inl q → Settles s rounds q answer → Settles s (rounds + 1) p answer

variable {s : Source}

/-- A place on a line of the file, or the end of the file. -/
def InFile (s : Source) (p : Place) : Prop :=
  (p.line < s.size ∧ p.column ≤ (s.elided p.line).length) ∨ p = ⟨s.size, 0⟩

theorem inFile_next {line : Nat} (h : line < s.size) : InFile s ⟨line + 1, 0⟩ := by
  rcases Nat.lt_or_eq_of_le (Nat.succ_le_of_lt h) with hlt | heq
  · exact .inl ⟨hlt, Nat.zero_le _⟩
  · exact .inr (congrArg (Place.mk · 0) heq)

/-- A round that goes on goes forward in the file. -/
theorem round_forward {p q : Place} (h : round s p = .inl q) : p.Before q ∧ InFile s q := by
  rcases round_cases h with ⟨hline, rfl⟩ | ⟨a, hasked, hplace⟩
  · exact ⟨.inl (Nat.lt_succ_self _), inFile_next hline⟩
  · obtain ⟨haline, hle, hlt, -⟩ := asked?_eq_some hasked
    refine ⟨?_, .inl ⟨(Bracket.findClose_line hplace).2 hlt, Bracket.findClose_column hplace⟩⟩
    rcases Bracket.findClose_after hplace with ⟨hsame, hafter, -⟩ | ⟨hbelow, -⟩
    · exact .inr ⟨haline.symm.trans hsame.symm, Nat.lt_of_le_of_lt hle hafter⟩
    · exact .inl (haline ▸ hbelow)

/-- If there are more steps than characters to come, the rounds end before the steps do. -/
theorem settles_insideFrom {steps : Nat} {p : Place} (h : toCome s p.line p.column < steps) :
    ∃ rounds ≤ steps, Settles s rounds p (insideFrom s steps p) := by
  induction steps generalizing p with
  | zero => exact absurd h (Nat.not_lt_zero _)
  | succ steps ih =>
    rw [insideFrom]
    cases hround : round s p with
    | inr answer => exact ⟨1, Nat.succ_le_succ (Nat.zero_le _), .now hround⟩
    | inl q =>
      obtain ⟨rounds, hle, hsettles⟩ := ih (Nat.lt_of_lt_of_le (toCome_round hround) (Nat.le_of_lt_succ h))
      exact ⟨rounds + 1, Nat.succ_le_succ hle, .later hround hsettles⟩

/-- From every place the rounds come to the answer of the test, after no more of them than the file has characters and
lines; each one that goes on does so further down in the file, and the search for a closing bracket starts at an opening
angle bracket of the file each time. -/
theorem template_rounds_go_forward_and_end (s : Source) (p : Place) :
    (∃ rounds ≤ extent s + 1, Settles s rounds p (inside s p.line p.column)) ∧
    (∀ q r, round s q = .inl r → q.Before r ∧ InFile s r) ∧
    ∀ q a, asked? s q = some a → a.line < s.size ∧ (s.elided a.line)[a.column]? = some '<' := by
  refine ⟨?_, fun q r h => round_forward h, fun q a h => (asked?_eq_some h).2.2⟩
  exact settles_insideFrom (Nat.lt_succ_of_le (toCome_le_extent s p.line p.column))

def skipped : Source := Source.ofLines ["a<b> c".toList, "= d".toList]

theorem template_rounds_go_forward_and_end_skipped :
    asked? skipped ⟨0, 0⟩ = some ⟨0, 1⟩ ∧ (skipped.elided 0)[1]? = some '<' ∧
    round skipped ⟨0, 0⟩ = .inl ⟨0, 4⟩ ∧ Place.Before ⟨0, 0⟩ ⟨0, 4⟩ ∧
    ∃ rounds ≤ extent skipped + 1, Settles skipped rounds ⟨0, 0⟩ (inside skipped 0 0) := by
  have hasked : asked? skipped ⟨0, 0⟩ = some ⟨0, 1⟩ := by decide +kernel
  have hround : round skipped ⟨0, 0⟩ = .inl ⟨0, 4⟩ := by decide +kernel
  obtain ⟨hsettles, hforward, hangle⟩ := template_rounds_go_forward_and_end skipped ⟨0, 0⟩
  exact ⟨hasked, (hangle _ _ hasked).2, hround, (hforward _ _ hround).1, hsettles⟩

end StyleCheck.Template
