/-
  StyleCheck.Main — the program.

  Reads the files that may matter into a tree, runs the checker on it, and writes what it has to
  say.
-/

import StyleCheck.CommandLine.Survey

namespace StyleCheck.Program

open CommandLine

/-- The contents of a file, `some none` if it is there and cannot be read. -/
def contentsOf (path : Text) : IO (Option (Option (List UInt8))) := do
  let place := (← IO.currentDir) / String.ofList path
  if !(← place.pathExists) || (← place.isDir) then return none
  try return some (some (← IO.FS.readBinFile place).toList)
  catch _ => return some none

def isThere (path : Text) : IO Bool := do
  ((← IO.currentDir) / String.ofList path).pathExists

/-- The entries for those of the given paths that are files. -/
def entriesOf (paths : List Text) : IO (List (Text × Option (List UInt8))) :=
  paths.filterMapM fun path => return (← contentsOf path).map (path, ·)

def readTree (here : Text) (files : List Text) : IO FileTree := do
  let entries ← entriesOf (files.flatMap (Survey.nearby here))
  let marks ← (files.flatMap (Survey.marks here)).filterM isThere
  let tree := FileTree.ofEntries here entries marks
  let more ← entriesOf (files.flatMap (Survey.companions tree))
  return FileTree.ofEntries here (entries ++ more) marks

/-- Runs the checker with the given arguments, and answers with the exit code. -/
def run (args : List String) : IO UInt32 := do
  let args := args.map String.toList
  let files := Survey.files args
  let tree ← readTree (← IO.currentDir).toString.toList files
  let given ←
    if (CommandLine.prepare {} args).toOption.any (·.2.contains ['-']) then
      (← IO.getStdin).readBinToEnd
    else pure .empty
  let result := CommandLine.run tree { given := Text.Utf8.decode given.toList } args
  IO.print result.session.console.out
  IO.eprint result.session.console.err
  match result.ending with
  | .exit code => return code.toUInt32
  | .fatal message =>
    IO.eprintln message
    return 1
  | .failed e =>
    IO.eprintln e.message
    return 1

end StyleCheck.Program

def main (args : List String) : IO UInt32 := StyleCheck.Program.run args
