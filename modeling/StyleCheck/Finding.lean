/-
  StyleCheck.Finding — what the rules have to say about a file.

  A rule looks at a line and answers with an outcome: the events in the order in which they
  happen, and possibly a failure after which nothing more is said. An event is a finding, a
  remark, or the reading of a suppression comment: suppressions are collected while the rules run,
  and a finding is judged by those collected so far.

  Outcomes are put one after the other by `andThen`, which stops at the first failure.
-/

import StyleCheck.Category
import StyleCheck.Failure

namespace StyleCheck

structure Finding where
  line : Int
  category : Category
  /-- From 0, a guess, to 5, a certainty. -/
  confidence : Int
  message : String
  deriving DecidableEq, Repr

inductive Event where
  | report (f : Finding)
  /-- The suppression comment of line `line`, if it has one, comes into force. -/
  | suppress (text : Text) (line : Nat)
  /-- The marks for whole files that stand in `lines` come into force. -/
  | suppressFile (lines : List Text)
  /-- Something is told that is no finding. -/
  | remark (text : String)
  deriving DecidableEq, Repr

structure Outcome where
  events : List Event
  failure : Option Failure := none

namespace Outcome

def nothing : Outcome := ⟨[], none⟩

def ofFindings (fs : List Finding) : Outcome := ⟨fs.map .report, none⟩

instance : Coe (List Finding) Outcome := ⟨ofFindings⟩

def andThen (a b : Outcome) : Outcome :=
  match a.failure with
  | some e => ⟨a.events, some e⟩
  | none => ⟨a.events ++ b.events, b.failure⟩

instance : Append Outcome := ⟨andThen⟩

def sequence (os : List Outcome) : Outcome := os.foldr andThen nothing

end Outcome

/-- `found` if `test`, and nothing otherwise. -/
def Finding.when (test : Bool) (found : Finding) : List Finding := if test then [found] else []

end StyleCheck
