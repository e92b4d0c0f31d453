/-
  StyleCheck.Settings — what the user has asked for.

  The settings say which findings are shown, how they are written and counted, and what the rules
  have to know about the project: the longest line, the root of header guard names, and the
  extensions of headers and of all source files.
-/

import StyleCheck.Filter
import StyleCheck.Suppression

namespace StyleCheck

/-- How the findings are counted, beside their total. -/
inductive Counting where
  /-- By the family of the category. -/
  | topLevel
  | detailed
  /-- Only the total; the name is kept as it was given. -/
  | totalOnly (name : Text)
  deriving DecidableEq, Repr

namespace Counting

def ofName (s : Text) : Counting :=
  if s == "toplevel".toList then topLevel
  else if s == "detailed".toList then detailed
  else totalOnly s

def name : Counting → Text
  | topLevel => "toplevel".toList
  | detailed => "detailed".toList
  | totalOnly name => name

end Counting

/-- How a finding is written. -/
inductive Layout where
  | vs7
  | eclipse
  /-- The usual layout; the name is kept as it was given. -/
  | usual (name : Text)
  deriving DecidableEq, Repr

namespace Layout

def ofName (s : Text) : Layout :=
  if s == "vs7".toList then vs7 else if s == "eclipse".toList then eclipse else usual s

def name : Layout → Text
  | vs7 => "vs7".toList
  | eclipse => "eclipse".toList
  | usual name => name

def render (layout : Layout) (file : Text) (line : Int) (category : Text) (confidence : Int)
    (message : Text) : String :=
  let file := String.ofList file
  let category := String.ofList category
  let message := String.ofList message
  let line := toString line
  let confidence := toString confidence
  match layout with
  | vs7 =>
    file ++ "(" ++ line ++ "): error cpplint: [" ++ category ++ "] " ++ message ++ " ["
      ++ confidence ++ "]\n"
  | eclipse =>
    file ++ ":" ++ line ++ ": warning: " ++ message ++ "  [" ++ category ++ "] [" ++ confidence
      ++ "]\n"
  | usual _ =>
    file ++ ":" ++ line ++ ":  " ++ message ++ "  [" ++ category ++ "] [" ++ confidence ++ "]\n"

end Layout

structure Settings where
  /-- Findings of a lower confidence are not shown. -/
  verbosity : Int := 1
  filters : List Filter := Filter.defaults
  /-- The filters put aside while the configuration of a file is in force. -/
  savedFilters : List Filter := Filter.defaults
  counting : Counting := .totalOnly "total".toList
  layout : Layout := .usual "emacs".toList
  quiet : Bool := false
  lineLength : Int := 80
  root : Option Text := none
  /-- Tell how the root is made out. -/
  traceRoot : Bool := false
  headers : List Text := ["h".toList]
  extensions : List Text :=
    ["cc".toList, "h".toList, "cpp".toList, "cu".toList, "cuh".toList]
  deriving DecidableEq, Repr

namespace Settings

/-- Adds filters to those in force. A filter without a sign is reported after it has been added. -/
def addFilters (s : Settings) (text : Text) : Settings × Option Failure :=
  let filters := s.filters ++ Filter.read text
  ({ s with filters := filters }, (Filter.unsigned? filters).map .unsignedFilter)

/-- Puts filters in place of those in force. -/
def setFilters (s : Settings) (text : Text) : Settings × Option Failure :=
  { s with filters := Filter.defaults }.addFilters text

def saveFilters (s : Settings) : Settings := { s with savedFilters := s.filters }

def restoreFilters (s : Settings) : Settings := { s with filters := s.savedFilters }

/-- The extensions of headers, separated by commas. All of them are extensions of source files. -/
def setHeaders (s : Settings) (text : Text) : Settings :=
  let headers := (Text.pieces [','] text).eraseDups
  { s with
    headers := headers
    extensions := s.extensions ++ headers.filter fun e => !s.extensions.contains e }

def isHeader (s : Settings) (extension : Text) : Bool := s.headers.contains extension

/-- Is a finding to be shown? It must not be suppressed, be confident enough, and pass the filters. -/
def shows (s : Settings) (suppressions : Suppressions) (category : Text) (confidence line : Int) :
    Except Failure Bool :=
  if suppressions.hides category line then .ok false
  else if confidence < s.verbosity then .ok false
  else (Filter.hides category false s.filters).map (!·)

end Settings

/-- The extensions of files that are compiled on their own. -/
def isSourceExtension (extension : Text) : Bool :=
  ["c".toList, "cc".toList, "cpp".toList, "cxx".toList].contains extension

end StyleCheck
