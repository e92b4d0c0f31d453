/-
  StyleCheck.Include.Line — rules for include lines.

  A header is named with its directory, included once, and in order. Source files of other
  directories are not included at all. Headers from elsewhere are not entered in the table.
-/

import StyleCheck.Include.Table

namespace StyleCheck.IncludeLine

open Pattern in
def withoutDirectory : Pattern :=
  "#include" ++ blanks ++ "\"" ++ group 1 (some1 (noneOf "/") ++ ".h") ++ "\""

def namesNoDirectory (line : Text) : Bool :=
  match withoutDirectory.match? line with
  | none => false
  | some m => !thirdPartyHeader.opens (m.group 1)

/-- What is said of a header that is out of order. -/
def misplaced (t : FileTree) (file : Text) (n : Nat) : Option String → Except Failure (List Finding)
  | none => .ok []
  | some message =>
    (Repository.parts t file).map fun parts =>
      [⟨n, .buildIncludeOrder, 4,
        message ++ ". Should be: " ++ String.ofList parts.base ++
          ".h, c system, c++ system, other."⟩]

/-- Enters a header in the table and says if it is out of order. -/
def enter (t : FileTree) (file : Text) (s : Source) (n : Nat) (inc : Include)
    (table : IncludeTable) : Except Failure (IncludeTable × List Finding) := do
  let kind ← HeaderKind.ofInclude t file inc.path inc.system
  let (table, message) := (table.add inc.path n).proceed kind
  let order ← misplaced t file n message
  let key := IncludeTable.sortKey inc.path
  let alphabet :=
    Finding.when (!table.inOrder s n key)
      ⟨n, .buildIncludeAlpha, 4,
        "Include \"" ++ String.ofList inc.path ++ "\" not in alphabetical order"⟩
  return (table.setLast key, order ++ alphabet)

/-- The header is a source file of another directory. -/
def isForeignSource (t : FileTree) (file header : Text) : Except Failure Bool :=
  if Text.endsWith header ".cc".toList then
    (Repository.name t file).map fun name => Path.directory name != Path.directory header
  else .ok false

/-- What is to be said about the header of an include line, and the table after it. -/
def header (t : FileTree) (file : Text) (s : Source) (n : Nat) (inc : Include)
    (table : IncludeTable) : Except Failure (IncludeTable × List Finding) :=
  match table.lineOf? inc.path with
  | some earlier =>
    .ok (table,
      [⟨n, .buildInclude, 4,
        "\"" ++ String.ofList inc.path ++ "\" already included at " ++ String.ofList file ++ ":" ++
          toString earlier⟩])
  | none => do
    if ← isForeignSource t file inc.path then
      return (table, [⟨n, .buildInclude, 4, "Do not include .cc files from other packages"⟩])
    else if thirdPartyHeader.opens inc.path then return (table, [])
    else enter t file s n inc table

def update (t : FileTree) (file : Text) (s : Source) (n : Nat) (table : IncludeTable) :
    IncludeTable × Outcome :=
  let line := s.code n
  let directory : List Finding :=
    Finding.when (namesNoDirectory line)
      ⟨n, .buildInclude, 4, "Include the directory when naming .h files"⟩
  match Include.ofLine? line with
  | none => (table, directory)
  | some inc =>
    match header t file s n inc table with
    | .error e => (table, (directory : Outcome) ++ ⟨[], some e⟩)
    | .ok (table, found) => (table, directory ++ found)

end StyleCheck.IncludeLine
