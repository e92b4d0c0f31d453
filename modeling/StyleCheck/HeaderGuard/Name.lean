/-
  StyleCheck.HeaderGuard.Name — the name a header guard should have.

  It is the path of the header within its repository, or below the root the user has set: every
  character that is not a letter or a digit becomes a low line, all letters become capitals, and a
  low line is added. Names given by editors to temporary files are undone first.
-/

import StyleCheck.Pattern.Search
import StyleCheck.Repository
import StyleCheck.Settings
import StyleCheck.Text.Quoted

namespace StyleCheck.HeaderGuard

open Pattern in
def temporaryName : Pattern := "_flymake.h" ++ finish

open Pattern in
def temporaryDirectory : Pattern := "/.flymake/" ++ group 1 (many (noneOf "/")) ++ finish

/-- The path of the header itself, if `p` is a temporary copy of it. -/
def permanent (p : Text) : Text :=
  let p := temporaryName.replaceAll ".h".toList p
  match temporaryDirectory.search? p with
  | none => p
  | some m => p.take m.start ++ '/' :: m.group 1 ++ m.rest

/-- The name of the language in a path is written with letters. -/
def spelledOut (p : Text) : Text :=
  Text.substitute "c++".toList "cpp".toList (Text.substitute "C++".toList "cpp".toList p)

def isPlain (c : Char) : Bool :=
  ('a' ≤ c && c ≤ 'z') || ('A' ≤ c && c ≤ 'Z') || ('0' ≤ c && c ≤ '9')

/-- A path as the name of a header guard. -/
def mangle (p : Text) : Text :=
  (p.map fun c => if isPlain c then c.toUpper else '_') ++ ['_']

/-- The components after those of `dir`, if there are any. -/
def below? (dir p : Text) : Option (List Text) :=
  let dirs := Path.components dir
  let parts := Path.components p
  if parts.take dirs.length == dirs then some (parts.drop dirs.length) else none

/-- A list of components as it is shown. -/
def shownParts : Option (List Text) → String
  | none => "None"
  | some parts => String.ofList (Text.quotedList parts)

/-- What is known about a header when its guard is named: its name in the repository and its full
name. -/
structure Header where
  name : Text
  full : Text

/-- The path from which the guard is named, and the account of how it was found. -/
def path (t : FileTree) (root : Option Text) (h : Header) : Text × String :=
  let name := String.ofList h.name
  let opening (root : String) : String :=
    "\n_root fixup, _root = '" ++ root ++ "', repository name = '" ++ name ++ "'\n"
  match root with
  | none => (h.name, opening "None" ++ "_root unspecified\n")
  | some [] => (h.name, opening "" ++ "_root unspecified\n")
  | some root =>
    let shown := String.ofList root
    let inside := below? root h.name
    let told := opening shown ++ "_root lstrip (maybe_path=" ++ shownParts inside ++
      ", file_path_from_root=" ++ name ++ ", _root=" ++ shown ++ ")\n"
    match inside with
    | some (c :: cs) => (Path.joinAll (c :: cs), told)
    | _ =>
      let absolute := t.resolve root
      let outside := below? absolute h.full
      let told := told ++ "_root prepend (maybe_path=" ++ shownParts outside ++ ", full_path=" ++
        String.ofList h.full ++ ", root_abspath=" ++ String.ofList absolute ++ ")\n"
      match outside with
      | some (c :: cs) => (Path.joinAll (c :: cs), told)
      | _ => (h.name, told ++ "_root ignore, returning " ++ name ++ "\n")

/-- The name of a guard, and what is told about it if the user asked for that. -/
structure Name where
  text : Text
  account : String

def Name.remarks (n : Name) : List Event := if n.account.isEmpty then [] else [.remark n.account]

def nameOf (t : FileTree) (settings : Settings) (p : Text) : Except Failure Name :=
  let p := spelledOut (permanent p)
  (Repository.name t p).map fun name =>
    let (path, account) := path t settings.root ⟨name, Repository.fullName t p⟩
    ⟨mangle path, if settings.traceRoot then account else ""⟩

end StyleCheck.HeaderGuard
