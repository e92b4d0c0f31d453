/-
  StyleCheck.CommandLine.Switch — reading the arguments of the program.

  Switches come first, each beginning with two hyphens; they end at the first argument that does
  not begin with a hyphen, at a single hyphen, which names a file, or after two hyphens alone. A
  switch may be shortened as long as it is clear which one is meant. Its value follows after an
  equals sign or as the next argument.
-/

import StyleCheck.Text.Basic

namespace StyleCheck.CommandLine

inductive Switch where
  | help
  | output
  | verbose
  | counting
  | filter
  | root
  | lineLength
  | extensions
  | headers
  | quiet
  deriving DecidableEq, Repr

namespace Switch

def all : List Switch :=
  [help, output, verbose, counting, filter, root, lineLength, extensions, headers, quiet]

def name : Switch → Text
  | help => "help".toList
  | output => "output".toList
  | verbose => "verbose".toList
  | counting => "counting".toList
  | filter => "filter".toList
  | root => "root".toList
  | lineLength => "linelength".toList
  | extensions => "extensions".toList
  | headers => "headers".toList
  | quiet => "quiet".toList

def takesValue : Switch → Bool
  | help | quiet => false
  | _ => true

/-- The switch of which `text` is the name, or the only one of which it is a beginning. -/
def ofText? (text : Text) : Option Switch :=
  match all.find? fun s => s.name == text with
  | some s => some s
  | none =>
    match all.filter fun s => Text.startsWith s.name text with
    | [s] => some s
    | _ => none

end Switch

/-- The switches that were given, with their values, and the files. -/
structure Arguments where
  switches : List (Switch × Text) := []
  files : List Text := []
  deriving DecidableEq, Repr

namespace Arguments

def add (s : Switch) (value : Text) (a : Arguments) : Arguments :=
  { a with switches := (s, value) :: a.switches }

/-- The switch of an argument, and the value after its equals sign. -/
def switch? (arg : Text) : Option (Switch × Option Text) :=
  match arg with
  | '-' :: '-' :: body =>
    let (name, value) := Text.divide '=' body
    (Switch.ofText? name).map fun s => (s, if body.contains '=' then some value else none)
  | _ => none

/-- The argument begins the list of files. -/
def isFile (arg : Text) : Bool := !Text.startsWith arg ['-'] || arg == ['-']

def read? (args : List Text) : Option Arguments :=
  match args with
  | [] => some {}
  | arg :: rest =>
    if isFile arg then some { files := arg :: rest }
    else if arg == ['-', '-'] then some { files := rest }
    else
      match switch? arg with
      | none => none
      | some (s, value) =>
        match s.takesValue, value, rest with
        | true, some value, rest => (read? rest).map (add s value)
        | true, none, value :: rest => (read? rest).map (add s value)
        | true, none, [] => none
        | false, none, rest => (read? rest).map (add s [])
        | false, some _, _ => none
termination_by args.length

end Arguments

end StyleCheck.CommandLine
