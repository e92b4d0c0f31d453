/-
  StyleCheck.Repository — the name of a file within its repository.

  The root of the repository is found by going up from the directory of the file. If that directory
  itself has the mark of a checkout that marks every directory, the root is the last directory of
  an unbroken chain of such marks. Otherwise it is the topmost directory below the root of the file
  system that has a mark of any kind. The name is what follows the root, or the full name if there
  is no root.

  The chain is followed as long as the directory above has a mark. The directory above the root of
  the file system is the root itself, so if that has a mark there is no end to it.
-/

import StyleCheck.FileTree
import StyleCheck.Finding

namespace StyleCheck.Repository

/-- The absolute path of a file, written with slashes. -/
def fullName (t : FileTree) (p : Text) : Text :=
  Text.substitute ['\\'] ['/'] (t.resolve p)

def hasEntry (t : FileTree) (dir : Text) (name : String) : Bool :=
  t.exists (Path.join dir name.toList)

def hasMark (t : FileTree) (dir : Text) : Bool :=
  hasEntry t dir ".git" || hasEntry t dir ".hg" || hasEntry t dir ".svn"

/-- The upper end of the chain of marked directories that begins at `dir`. -/
def chainTop (t : FileTree) (dir : Text) : Except Failure Text :=
  let up := Path.directory dir
  if hasEntry t up ".svn" then
    if _h : up = dir then .error .endlessCheckout else chainTop t up
  else .ok dir
termination_by dir.length
decreasing_by exact Path.directory_length _h

/-- The topmost marked directory from `dir` on upwards; `found` if there is none. The root of the
file system is not looked at. -/
def topmostMark (t : FileTree) (dir found : Text) : Text :=
  let up := Path.directory dir
  if _h : up = dir then found else topmostMark t up (if hasMark t dir then dir else found)
termination_by dir.length
decreasing_by exact Path.directory_length _h

/-- The root of the repository that holds a file of the given full name. -/
def root? (t : FileTree) (full : Text) : Except Failure (Option Text) :=
  if t.exists full then
    let dir := Path.directory full
    if hasEntry t dir ".svn" then (chainTop t dir).map some
    else
      let top := topmostMark t dir dir
      .ok (if hasMark t top then some top else none)
  else .ok none

/-- The name of a file within its repository. -/
def name (t : FileTree) (p : Text) : Except Failure Text :=
  let full := fullName t p
  (root? t full).map fun
    | some top => full.drop (top.length + 1)
    | none => full

/-- The parts of such a name. -/
structure Parts where
  directory : Text
  base : Text
  extension : Text
  deriving DecidableEq, Repr

def Parts.ofName (name : Text) : Parts :=
  let last := Path.base name
  ⟨Path.directory name, Path.withoutExtension last, Path.extension last⟩

def parts (t : FileTree) (p : Text) : Except Failure Parts := (name t p).map Parts.ofName

/-- The name without its extension. -/
def Parts.stem (p : Parts) : Text := p.directory ++ '/' :: p.base

end StyleCheck.Repository
