/-
  StyleCheck.Include.Module — the files of one module, and the headers a header brings along.

  A source file and a header belong to one module if the path of the source file, without
  extension and test ending, ends in the path of the header without its ending; directories for
  public and internal files are left out on both sides. What stands before is needed to find the
  header.
-/

import StyleCheck.Pattern.Search
import StyleCheck.Repository
import StyleCheck.Settings
import StyleCheck.Source.Comment
import StyleCheck.Source.Directive
import StyleCheck.Text.LineBreak

namespace StyleCheck.Module

open Pattern in
def testEnding : Pattern := group 1 (oneOf ["_test", "_unittest", "_regtest"]) ++ finish

/-- The path without directories for public and internal files. -/
def withoutDivisions (p : Text) : Text :=
  Text.substitute "/internal/".toList ['/'] (Text.substitute "/public/".toList ['/'] p)

/-- The path of a source file as it is compared; `none` if it is no source file. -/
def sourceKey? (t : FileTree) (file : Text) : Except Failure (Option Text) :=
  (Repository.parts t file).map fun parts =>
    if isSourceExtension (parts.extension.drop 1) then
      let path := file.take (file.length - parts.extension.length)
      let path :=
        match testEnding.search? parts.base with
        | some m => path.take (path.length - (m.group 1).length)
        | none => path
      some (withoutDivisions path)
    else none

/-- The path of a header as it is compared. -/
def headerKey? (header : Text) : Option Text :=
  if Text.endsWith header ".h".toList then
    let path := header.take (header.length - 2)
    let path := if Text.endsWith path "-inl".toList then path.take (path.length - 4) else path
    some (withoutDivisions path)
  else none

/-- If the files belong to one module, what has to be put before the path of the header. -/
def lead? (t : FileTree) (file header : Text) : Except Failure (Option Text) :=
  (sourceKey? t file).map fun source =>
    match source, headerKey? header with
    | some source, some key =>
      if Text.endsWith source key then
        some (if key.isEmpty then [] else source.take (source.length - key.length))
      else none
    | _, _ => none

/-- Headers and the lines that include them, a header only once. -/
abbrev Provided := List (Text × Int)

def Provided.add (known : Provided) (path : Text) (line : Int) : Provided :=
  if known.any fun h => h.1 == path then known else known ++ [(path, line)]

/-- Adds what a readable file includes. -/
def Provided.read? (t : FileTree) (known : Provided) (file : Text) : Option Provided :=
  (t.text? file).map fun text =>
    ((Text.brokenLines text).zipIdx 1).foldl
      (fun known (line, n) =>
        match Include.ofLine? (Comment.drop line) with
        | some inc => Provided.add known inc.path n
        | none => known)
      known

end StyleCheck.Module
