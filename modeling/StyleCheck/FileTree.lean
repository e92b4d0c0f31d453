/-
  StyleCheck.FileTree — the files the checker can see.

  A tree is a list of files and directories, and the directory from which relative paths are
  resolved. A file may be there without being readable. Whatever lies above a file or a directory
  exists too, and so does the root.
-/

import StyleCheck.Path
import StyleCheck.Text.Utf8

namespace StyleCheck

structure FileTree where
  here : Text
  /-- Absolute paths and contents; a file without contents cannot be read. -/
  files : List (Text × Option (List UInt8)) := []
  directories : List Text := []

namespace FileTree

/-- A tree from paths that may be relative. -/
def ofEntries (here : Text) (files : List (Text × Option (List UInt8))) (directories : List Text) :
    FileTree where
  here := here
  files := files.map fun (p, content) => (Path.resolve here p, content)
  directories := directories.map (Path.resolve here)

def resolve (t : FileTree) (p : Text) : Text := Path.resolve t.here p

def isFile (t : FileTree) (p : Text) : Bool :=
  let p := t.resolve p
  t.files.any fun f => f.1 == p

def «exists» (t : FileTree) (p : Text) : Bool :=
  let p := t.resolve p
  p == ['/'] || t.files.any (fun f => f.1 == p || Path.isUnder p f.1)
    || t.directories.any fun d => d == p || Path.isUnder p d

/-- The contents of a readable file. -/
def octets? (t : FileTree) (p : Text) : Option (List UInt8) := (t.files.lookup (t.resolve p)).join

/-- The contents of a readable file as text. -/
def text? (t : FileTree) (p : Text) : Option Text := (t.octets? p).map Text.Utf8.decode

end FileTree

end StyleCheck
