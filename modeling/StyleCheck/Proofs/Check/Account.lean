/-
  StyleCheck.Proofs.Check.Account — accounting for failures.

  A property of failures accounts for how something ended (`Accounts`) if it holds of the failure
  there was, and of no failure at all if there was none: every failure has its reason, and no reason
  is passed over. Where one thing comes after another, the failure is that of the first one to fail,
  and what accounts for it is that one of the two properties holds (`Accounts.or`).
-/

import StyleCheck.Finding

namespace StyleCheck

/-- `P` holds of the failure, and if there is none it holds of no failure. -/
inductive Accounts (P : Failure → Prop) : Option Failure → Prop
  | failed {e : Failure} (h : P e) : Accounts P (some e)
  | ended (h : ∀ e, ¬ P e) : Accounts P none

def failureOf {α : Type} : Except Failure α → Option Failure
  | .ok _ => none
  | .error e => some e

@[simp] theorem failureOf_map {α β : Type} (f : α → β) (x : Except Failure α) :
    failureOf (x.map f) = failureOf x := by
  cases x <;> rfl

namespace Accounts

variable {P Q : Failure → Prop} {f g : Option Failure}

theorem self (f : Option Failure) : Accounts (fun e => f = some e) f := by
  cases f with
  | none => exact .ended fun e he => by cases he
  | some e => exact .failed rfl

theorem congr (h : Accounts P f) (hpq : ∀ e, P e ↔ Q e) : Accounts Q f := by
  cases h with
  | failed h => exact .failed ((hpq _).mp h)
  | ended h => exact .ended fun e he => h e ((hpq e).mpr he)

theorem holds (h : Accounts P f) {e : Failure} (he : f = some e) : P e := by
  subst he
  cases h with
  | failed h => exact h

theorem eq_none_iff (h : Accounts P f) : f = none ↔ ∀ e, ¬ P e := by
  cases h with
  | failed h => exact ⟨fun hf => (nomatch hf), fun hn => absurd h (hn _)⟩
  | ended h => exact ⟨fun _ => h, fun _ => rfl⟩

/-- What comes second has to be accounted for only if the first did not fail. -/
theorem or (hf : Accounts P f) (hg : f = none → Accounts Q g) : Accounts (fun e => P e ∨ Q e) (f.or g) := by
  cases hf with
  | failed h => exact .failed (.inl h)
  | ended h =>
    cases hg rfl with
    | failed h' => exact .failed (.inr h')
    | ended h' => exact .ended fun e he => he.elim (h e) (h' e)

end Accounts

namespace Outcome

@[simp] theorem ofFindings_failure (fs : List Finding) : (ofFindings fs).failure = none := rfl

@[simp] theorem append_failure (a b : Outcome) : (a ++ b).failure = a.failure.or b.failure := by
  show (andThen a b).failure = _
  unfold andThen
  cases a.failure <;> rfl

/-- Of what comes second nothing is said if the first fails. -/
theorem append_events (a b : Outcome) :
    (a ++ b).events = a.events ++ if a.failure.isSome then [] else b.events := by
  show (andThen a b).events = _
  unfold andThen
  cases a.failure with
  | none => rfl
  | some e => exact (List.append_nil _).symm

theorem append_events_of_none {a : Outcome} (h : a.failure = none) (b : Outcome) :
    (a ++ b).events = a.events ++ b.events := by
  rw [append_events, h]
  rfl

@[simp] theorem sequence_nil_failure : (sequence []).failure = none := rfl

@[simp] theorem sequence_cons_failure (o : Outcome) (os : List Outcome) :
    (sequence (o :: os)).failure = o.failure.or (sequence os).failure := append_failure o (sequence os)

theorem accounts_sequence (os : List Outcome) :
    Accounts (fun e => ∃ o ∈ os, o.failure = some e) (sequence os).failure := by
  induction os with
  | nil => exact .ended fun e he => by simp at he
  | cons o os ih =>
    rw [sequence_cons_failure]
    exact ((Accounts.self o.failure).or fun _ => ih).congr fun e => by simp

end Outcome

end StyleCheck
