/-
  StyleCheck.Configuration — the settings of a directory.

  Every directory may hold a configuration file. For a file to be checked, the configurations of
  its directory and of the directories above it are read from the inside out, up to one that wants
  no more above it.

  1. A configuration is made of lines `name = value`; what follows a number sign does not count.
  2. Its settings come into force as they are read. The filters are collected, and come into force
     at the end with those of the outermost directory first, so that the innermost decide.
  3. A configuration may exclude a file by the last component of its path, or by the name of a
     directory on the way up to the configuration. Then nothing more is read.
-/

import StyleCheck.FileTree
import StyleCheck.Pattern.Reader
import StyleCheck.Session
import StyleCheck.Text.Integer
import StyleCheck.Text.LineBreak

namespace StyleCheck.Configuration

/-- What a line of a configuration asks for. -/
inductive Entry where
  /-- The directories above have no say. -/
  | topmost
  | filter (text : Text)
  /-- Files and directories whose names match are not to be checked. -/
  | exclude (pattern : Text)
  | lineLength (text : Text)
  /-- The root of header guard names, seen from the directory of the configuration. -/
  | root (path : Text)
  | headers (text : Text)
  | unknown (name : Text)
  deriving DecidableEq, Repr

namespace Entry

def ofName (name value : Text) : Entry :=
  match String.ofList name with
  | "set noparent" => topmost
  | "filter" => filter value
  | "exclude_files" => exclude value
  | "linelength" => lineLength value
  | "root" => root value
  | "headers" => headers value
  | _ => unknown name

/-- The entry on a line; `none` if there is nothing but a comment. -/
def ofLine? (line : Text) : Option Entry :=
  let line := (Text.divide '#' line).1
  if Text.allBlank line then none
  else
    let (name, value) := Text.divide '=' line
    some (ofName (Text.strip name) (Text.strip value))

end Entry

/-- Why the reading of configurations ends early. -/
inductive Halt where
  /-- The file is not to be checked. -/
  | excluded
  | failed (f : Failure)
  deriving DecidableEq, Repr

/-- What has been read so far. -/
structure Reading where
  session : Session
  /-- The filters, the latest first. -/
  filters : List Text := []
  /-- The directories above have a say. -/
  goesUp : Bool := true
  halt : Option Halt := none

namespace Reading

def warn (r : Reading) (text : String) : Reading := { r with session := r.session.warn text }

def set (r : Reading) (f : Settings → Settings) : Reading :=
  { r with session := { r.session with settings := f r.session.settings } }

end Reading

/-- The configuration at the path `config`, read for `file`; `component` is the part of its path
that lies directly in the same directory. -/
structure Place where
  file : Text
  config : Text
  component : Text

namespace Place

def excludedMessage (p : Place) (pattern : Text) : String :=
  "Ignoring \"" ++ String.ofList p.file ++ "\": file excluded by \"" ++ String.ofList p.config
    ++ "\". File path component \"" ++ String.ofList p.component ++ "\" matches pattern \""
    ++ String.ofList pattern ++ "\"\n"

def exclude (p : Place) (pattern : Text) (r : Reading) : Reading :=
  match Pattern.read {} pattern with
  | .error e => { r with halt := some (.failed e) }
  | .ok compiled =>
    if compiled.opens p.component then
      let r := if r.session.settings.quiet then r else r.warn (p.excludedMessage pattern)
      { r with halt := some .excluded }
    else r

def take (p : Place) (r : Reading) : Entry → Reading
  | .topmost => { r with goesUp := false }
  | .filter text => { r with filters := text :: r.filters }
  | .exclude pattern => p.exclude pattern r
  | .lineLength text =>
    match Text.readInt? text with
    | some n => r.set fun s => { s with lineLength := n }
    | none => r.warn "Line length must be numeric."
  | .root path => r.set fun s => { s with root := some (Path.join (Path.directory p.config) path) }
  | .headers text => r.set fun s => s.setHeaders text
  | .unknown name =>
    r.warn ("Invalid configuration option (" ++ String.ofList name ++ ") in file "
      ++ String.ofList p.config ++ "\n")

/-- Takes the entries in, up to one that ends the reading. -/
def takeAll (p : Place) : Reading → List Entry → Reading
  | r, [] => r
  | r, e :: rest =>
    let r := p.take r e
    if r.halt.isSome then r else p.takeAll r rest

/-- Reads the configuration, if there is one. One that cannot be read is the last. -/
def read (p : Place) (t : FileTree) (r : Reading) : Reading :=
  if t.isFile p.config then
    match t.text? p.config with
    | some text => p.takeAll r ((Text.plainLines text).filterMap Entry.ofLine?)
    | none =>
      { r.warn ("Skipping config file '" ++ String.ofList p.config
          ++ "': Can't open for reading\n") with goesUp := false }
  else r

end Place

def fileName : Text := "CPPLINT.cfg".toList

/-- Reads the configurations of the given directories, each with the component below it. -/
def readUp (t : FileTree) (file : Text) : Reading → List (Text × Text) → Reading
  | r, [] => r
  | r, (dir, component) :: above =>
    let r := Place.read ⟨file, Path.join dir fileName, component⟩ t r
    if r.goesUp && r.halt.isNone then readUp t file r above else r

/-- Brings filters into force one after another. -/
def applyFilters : Session → List Text → Session × Option Failure
  | s, [] => (s, none)
  | s, text :: rest =>
    match s.settings.addFilters text with
    | (settings, none) => applyFilters { s with settings := settings } rest
    | (settings, some e) => ({ s with settings := settings }, some e)

/-- The session under the configurations for `file`, and whether the file is to be checked. -/
def apply (t : FileTree) (s : Session) (file : Text) : Session × Except Failure Bool :=
  let r := readUp t file { session := s } (Path.ascent (t.resolve file))
  match r.halt with
  | some .excluded => (r.session, .ok false)
  | some (.failed e) => (r.session, .error e)
  | none =>
    match applyFilters r.session r.filters with
    | (s, none) => (s, .ok true)
    | (s, some e) => (s, .error e)

end StyleCheck.Configuration
