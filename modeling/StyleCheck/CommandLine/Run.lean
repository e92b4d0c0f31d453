/-
  StyleCheck.CommandLine.Run — a run of the program.

  The switches are taken in order, and the first one that is wrong ends the program. Some of them
  are in force at once; the others are kept in a draft and come into force together, after it is
  known that there are files to check.
-/

import StyleCheck.Check.Run
import StyleCheck.CommandLine.Switch
import StyleCheck.CommandLine.Usage

namespace StyleCheck.CommandLine

/-- How the program ends. -/
inductive Ending where
  | exit (code : Nat)
  /-- With a last message, and the code 1. -/
  | fatal (message : String)
  | failed (f : Failure)
  deriving DecidableEq, Repr

/-- What was written, and how the program ended. -/
structure Result where
  session : Session
  ending : Ending

/-- The settings that are wanted. -/
structure Draft where
  session : Session
  verbosity : Int
  layout : Text
  quiet : Bool
  filters : Text := []
  counting : Text := []

namespace Draft

def ofSession (s : Session) : Draft where
  session := s
  verbosity := s.settings.verbosity
  layout := s.settings.layout.name
  quiet := s.settings.quiet

def set (d : Draft) (f : Settings → Settings) : Draft :=
  { d with session := { d.session with settings := f d.session.settings } }

def usageError (d : Draft) (message : String) : Result :=
  ⟨d.session.warn usage, .fatal ("\nFATAL ERROR: " ++ message)⟩

/-- The list of all categories. -/
def categories (d : Draft) : Result :=
  ⟨Category.all.foldl (fun s c => s.warn ("  " ++ c.label ++ "\n")) d.session, .exit 0⟩

def take (d : Draft) (switch : Switch) (value : Text) : Except Result Draft :=
  match switch with
  | .help => .error ⟨d.session.warn usage, .exit 1⟩
  | .output =>
    if ["emacs".toList, "vs7".toList, "eclipse".toList].contains value then
      .ok { d with layout := value }
    else .error (d.usageError "The only allowed output formats are emacs, vs7 and eclipse.")
  | .quiet => .ok { d with quiet := true }
  | .verbose =>
    match Text.readInt? value with
    | some n => .ok { d with verbosity := n }
    | none => .error ⟨d.session, .failed (.notAnInteger value)⟩
  | .filter => if value.isEmpty then .error d.categories else .ok { d with filters := value }
  | .counting =>
    if ["total".toList, "toplevel".toList, "detailed".toList].contains value then
      .ok { d with counting := value }
    else .error (d.usageError "Valid counting options are total, toplevel, and detailed")
  | .root => .ok (d.set fun s => { s with root := some value })
  | .lineLength =>
    match Text.readInt? value with
    | some n => .ok (d.set fun s => { s with lineLength := n })
    | none => .error (d.usageError "Line length must be digits.")
  | .extensions => .ok (d.set fun s => { s with extensions := (Text.pieces [','] value).eraseDups })
  | .headers => .ok (d.set fun s => s.setHeaders value)

/-- Brings the draft into force. -/
def settle (d : Draft) : Except Result Session :=
  let settings :=
    { d.session.settings with
      layout := .ofName d.layout
      quiet := d.quiet
      verbosity := d.verbosity }
  match settings.setFilters d.filters with
  | (settings, some e) => .error ⟨{ d.session with settings := settings }, .failed e⟩
  | (settings, none) =>
    .ok { d.session with settings := { settings with counting := .ofName d.counting } }

end Draft

/-- The session that the arguments ask for, and the files to check. -/
def prepare (s : Session) (args : List Text) : Except Result (Session × List Text) :=
  let draft := Draft.ofSession s
  match Arguments.read? args with
  | none => .error (draft.usageError "Invalid arguments.")
  | some a =>
    match a.switches.foldlM (fun d (switch, value) => d.take switch value) draft with
    | .error result => .error result
    | .ok draft =>
      if a.files.isEmpty then .error (draft.usageError "No files were specified.")
      else draft.settle.map fun s => (s, a.files)

/-- Runs the program on a tree of files, beginning with the session `s`. -/
def run (tree : FileTree) (s : Session) (args : List Text) : Result :=
  match prepare s args with
  | .error result => result
  | .ok (s, files) =>
    match Session.checkFiles tree { s with tally := {} } files with
    | (s, some e) => ⟨s, .failed e⟩
    | (s, none) =>
      let any := 0 < s.tally.total
      let s := if !s.settings.quiet || any then s.printTally else s
      ⟨s, .exit (if any then 1 else 0)⟩

end StyleCheck.CommandLine
