/-
  StyleCheck.Check.Run — checking files one after another.

  A file is checked under the configurations of its directories. Their filters hold for this file
  only; their other settings stay in force for the files that follow. The file `-` stands for the
  text given to the program, which can be read only once: after that the file is empty.
-/

import StyleCheck.Check.File
import StyleCheck.Configuration

namespace StyleCheck

/-- The lines of a file, without the returns before the line feeds. -/
structure FileText where
  lines : List Text
  /-- The numbers of the lines that end in a return. -/
  returned : List Nat
  /-- Some line ends in a line feed alone. -/
  hasPlain : Bool
  deriving DecidableEq, Repr

namespace FileText

def endsInReturn (line : Text) : Bool := line.getLast? == some '\r'

def ofText (text : Text) : FileText :=
  let all := Text.feedLines text
  let ended := all.dropLast
  { lines := ended.map (Text.trimRight (· == '\r')) ++ all.getLast?.toList
    returned := ((ended.zipIdx 1).filter fun l => endsInReturn l.1).map (·.2)
    hasPlain := ended.any fun l => !endsInReturn l }

/-- Returns are reported only if not all lines have them. -/
def returnFindings (f : FileText) : List Finding :=
  if f.hasPlain then
    f.returned.map fun (n : Nat) =>
      ⟨n, .whitespaceNewline, 1, "Unexpected \\r (^M) found; better to use only \\n"⟩
  else []

end FileText

/-- What follows the last point of a file name; the whole name if there is none. -/
def lastExtension (file : Text) : Text :=
  match Text.locateLast? '.' file with
  | some i => file.drop (i + 1)
  | none => file

namespace Session

/-- The text of a file, and the session after it has been read. -/
def fetch? (s : Session) (tree : FileTree) (file : Text) : Option (Text × Session) :=
  if file == ['-'] then some (s.given, { s with given := [] })
  else (tree.text? file).map fun text => (text, s)

def restoreFilters (s : Session) : Session := { s with settings := s.settings.restoreFilters }

/-- Applies all rules to a file with the given text. -/
def checkText (s : Session) (tree : FileTree) (file text : Text) : Session × Option Failure :=
  let given := FileText.ofText text
  let c : Context := { tree, settings := s.settings, file, extension := lastExtension file }
  let said := Check.file c given.lines ++ (given.returnFindings : Outcome)
  let (s, failure) := { s with suppressions := {} }.take file said.events
  (s, failure.or said.failure)

def foreignMessage (s : Session) (file : Text) : String :=
  "Ignoring " ++ String.ofList file ++ "; not a valid file name ("
    ++ ", ".intercalate ((Text.sorted s.settings.extensions).map String.ofList) ++ ")\n"

/-- Checks a file that could be read. -/
def checkRead (s : Session) (tree : FileTree) (file text : Text) : Session × Option Failure :=
  if file != ['-'] && !s.settings.extensions.contains (lastExtension file) then
    (s.warn (s.foreignMessage file), none)
  else s.checkText tree file text

/-- Checks a file under the configurations of its directories. -/
def checkFile (s : Session) (tree : FileTree) (file : Text) : Session × Option Failure :=
  let before := s.tally.total
  match Configuration.apply tree { s with settings := s.settings.saveFilters } file with
  | (s, .error e) => (s, some e)
  | (s, .ok false) => (s.restoreFilters, none)
  | (s, .ok true) =>
    match s.fetch? tree file with
    | none =>
      ((s.warn ("Skipping input '" ++ String.ofList file ++ "': Can't open for reading\n")).restoreFilters,
        none)
    | some (text, s) =>
      match s.checkRead tree file text with
      | (s, some e) => (s, some e)
      | (s, none) =>
        let s :=
          if !s.settings.quiet || s.tally.total != before then
            s.print ("Done processing " ++ String.ofList file ++ "\n")
          else s
        (s.restoreFilters, none)

/-- Checks files in order, up to the first failure. -/
def checkFiles (tree : FileTree) : Session → List Text → Session × Option Failure
  | s, [] => (s, none)
  | s, file :: rest =>
    match s.checkFile tree file with
    | (s, some e) => (s, some e)
    | (s, none) => checkFiles tree s rest

end Session

end StyleCheck
