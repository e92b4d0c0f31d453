/-
  StyleCheck.Session — a run of the checker.

  A session holds the settings, the suppressions of the file in hand, the count of the findings
  shown so far, what has been written, and what is left of the text given to the program. The
  events of a file are judged in order (`Suppressions.judge`): a suppression comes into force, a
  finding gets its verdict by what is in force at that moment. A session takes the entries in,
  writes and counts the findings that are shown.
-/

import StyleCheck.Settings

namespace StyleCheck

/-- What comes of an event. -/
inductive Entry where
  /-- A finding, shown or not. -/
  | verdict (f : Finding) (shown : Bool)
  | remark (text : String)
  deriving DecidableEq, Repr

/-- The outcome of judging events: the suppressions in force at the end, and the entries. -/
structure Trial where
  suppressions : Suppressions
  entries : List Entry := []
  failure : Option Failure := none

namespace Suppressions

def judgeFinding (settings : Settings) (s : Suppressions) (f : Finding) : Trial :=
  match settings.shows s f.category.name f.confidence f.line with
  | .ok shown => ⟨s, [.verdict f shown], none⟩
  | .error e => ⟨s, [], some e⟩

def judgeEvent (settings : Settings) (s : Suppressions) : Event → Trial
  | .report f => s.judgeFinding settings f
  | .suppress text line =>
    match unknown? text with
    | none => ⟨s.readLine text line, [], none⟩
    | some name =>
      s.judgeFinding settings ⟨line, .readabilityNolint, 5, unknownMessage name⟩
  | .suppressFile lines => ⟨s.readAllMarks lines, [], none⟩
  | .remark text => ⟨s, [.remark text], none⟩

/-- Judges events in order, up to the first failure. -/
def judge (settings : Settings) (s : Suppressions) : List Event → Trial
  | [] => ⟨s, [], none⟩
  | e :: rest =>
    let here := s.judgeEvent settings e
    match here.failure with
    | some _ => here
    | none =>
      let later := here.suppressions.judge settings rest
      ⟨later.suppressions, here.entries ++ later.entries, later.failure⟩

end Suppressions

/-- The findings shown so far: how many, and how many under each name, in order of first
appearance. -/
structure Tally where
  total : Nat := 0
  byName : List (Text × Nat) := []
  deriving DecidableEq, Repr

namespace Tally

def bump (name : Text) : List (Text × Nat) → List (Text × Nat)
  | [] => [(name, 1)]
  | (other, n) :: rest =>
    if other == name then (other, n + 1) :: rest else (other, n) :: bump name rest

/-- The family of a category: its name up to the slash. -/
def family (category : Text) : Text := (Text.divide '/' category).1

def count (t : Tally) (counting : Counting) (category : Text) : Tally :=
  let byName :=
    match counting with
    | .topLevel => bump (family category) t.byName
    | .detailed => bump category t.byName
    | .totalOnly _ => t.byName
  ⟨t.total + 1, byName⟩

def categoryLine (entry : Text × Nat) : String :=
  "Category '" ++ String.ofList entry.1 ++ "' errors found: " ++ toString entry.2 ++ "\n"

def totalLine (t : Tally) : String := "Total errors found: " ++ toString t.total ++ "\n"

end Tally

/-- What has been written, as results and as messages. -/
structure Console where
  out : String := ""
  err : String := ""
  deriving DecidableEq, Repr

structure Session where
  settings : Settings := {}
  suppressions : Suppressions := {}
  tally : Tally := {}
  console : Console := {}
  /-- What is left to read of the text given to the program. -/
  given : Text := []

namespace Session

def print (s : Session) (text : String) : Session :=
  { s with console := { s.console with out := s.console.out ++ text } }

def warn (s : Session) (text : String) : Session :=
  { s with console := { s.console with err := s.console.err ++ text } }

/-- Writes and counts a finding that is shown. -/
def record (s : Session) (file : Text) (line : Int) (category : Text) (confidence : Int)
    (message : Text) : Session :=
  let s := { s with tally := s.tally.count s.settings.counting category }
  s.warn (s.settings.layout.render file line category confidence message)

/-- Reports a finding of any category. -/
def report (s : Session) (file : Text) (line : Int) (category : Text) (confidence : Int)
    (message : Text) : Session × Option Failure :=
  match s.settings.shows s.suppressions category confidence line with
  | .ok true => (s.record file line category confidence message, none)
  | .ok false => (s, none)
  | .error e => (s, some e)

def takeEntry (file : Text) (s : Session) : Entry → Session
  | .verdict f true => s.record file f.line f.category.name f.confidence f.message.toList
  | .verdict _ false => s
  | .remark text => s.warn text

/-- Judges events and takes the entries in. -/
def take (s : Session) (file : Text) (events : List Event) : Session × Option Failure :=
  let trial := s.suppressions.judge s.settings events
  let s := { s with suppressions := trial.suppressions }
  (trial.entries.foldl (takeEntry file) s, trial.failure)

/-- Reads the suppression comment of a line of `file`. -/
def suppressLine (s : Session) (file : Text) (text : Text) (line : Int) : Session × Option Failure :=
  match Suppressions.unknown? text with
  | none => ({ s with suppressions := s.suppressions.readLine text line }, none)
  | some name =>
    s.report file line Category.readabilityNolint.name 5 (Suppressions.unknownMessage name).toList

/-- Writes the counts. -/
def printTally (s : Session) : Session :=
  (s.tally.byName.foldl (fun s entry => s.warn (Tally.categoryLine entry)) s).print
    s.tally.totalLine

end Session

end StyleCheck
