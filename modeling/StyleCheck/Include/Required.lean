/-
  StyleCheck.Include.Required — headers of the library that a file uses and does not include.

  1. The names of the library tell which header they come from. A name in a scope other than that
     of the library is another name.
  2. What the file includes counts, and what the headers of its own module include. A source file
     for which no such header can be read is left alone, as the header might include anything.
  3. Every missing header is reported once, at the last line that uses it, in the order in which
     they were first used.
-/

import StyleCheck.Include.Module
import StyleCheck.Include.Table

namespace StyleCheck.Required

open Pattern

/-- Templates and the headers that define them. -/
def templates : List (String × List String) :=
  [("<deque>", ["deque"]),
   ("<functional>", ["unary_function", "binary_function", "plus", "minus", "multiplies",
     "divides", "modulus", "negate", "equal_to", "not_equal_to", "greater", "less",
     "greater_equal", "less_equal", "logical_and", "logical_or", "logical_not", "unary_negate",
     "not1", "binary_negate", "not2", "bind1st", "bind2nd", "pointer_to_unary_function",
     "pointer_to_binary_function", "ptr_fun", "mem_fun_t", "mem_fun", "mem_fun1_t",
     "mem_fun1_ref_t", "mem_fun_ref_t", "const_mem_fun_t", "const_mem_fun1_t",
     "const_mem_fun_ref_t", "const_mem_fun1_ref_t", "mem_fun_ref"]),
   ("<limits>", ["numeric_limits"]),
   ("<list>", ["list"]),
   ("<map>", ["map", "multimap"]),
   ("<memory>", ["allocator", "make_shared", "make_unique", "shared_ptr", "unique_ptr",
     "weak_ptr"]),
   ("<queue>", ["queue", "priority_queue"]),
   ("<set>", ["set", "multiset"]),
   ("<stack>", ["stack"]),
   ("<string>", ["char_traits", "basic_string"]),
   ("<tuple>", ["tuple"]),
   ("<unordered_map>", ["unordered_map", "unordered_multimap"]),
   ("<unordered_set>", ["unordered_set", "unordered_multiset"]),
   ("<utility>", ["pair"]),
   ("<vector>", ["vector"]),
   ("<hash_map>", ["hash_map", "hash_multimap"]),
   ("<hash_set>", ["hash_set", "hash_multiset"]),
   ("<slist>", ["slist"])]

/-- Functions, which may be called with template arguments or without. -/
def functions : List (String × List String) :=
  [("<algorithm>", ["copy", "max", "min", "min_element", "sort", "transform"]),
   ("<utility>", ["forward", "make_pair", "move", "swap"])]

/-- The use of a name of the library. -/
structure Use where
  header : Text
  name : Text
  deriving DecidableEq, Repr

structure Name where
  pattern : Pattern
  /-- A name in another scope may be a different one. -/
  checksScope : Bool
  use : Use

def Name.ofFunction (header name : String) : Name where
  pattern :=
    noneOf ">." ++ edge ++ literal name.toList ++ opt (group 1 ("<" ++ few any ++ ">")) ++ "("
      ++ noneOf ")"
  checksScope := false
  use := ⟨header.toList, name.toList⟩

def Name.ofTemplate (header name : String) : Name where
  pattern := group 1 ("<" ||| edge) ++ literal name.toList ++ blanks ++ "<"
  checksScope := true
  use := ⟨header.toList, (name ++ "<>").toList⟩

def names (of : String → String → Name) (table : List (String × List String)) : List Name :=
  table.flatMap fun (header, members) => members.map (of header)

/-- The string type is the only name of the library that is used without brackets. -/
def stringName : Name where
  pattern := edge ++ "string" ++ edge
  checksScope := true
  use := ⟨"<string>".toList, "string".toList⟩

def functionNames : List Name := names Name.ofFunction functions

def templateNames : List Name := names Name.ofTemplate templates

/-- What stands before a name shows that it belongs to the library, or does not show anything. -/
def inLibraryScope (before : Text) : Bool :=
  Text.endsWith before "std::".toList || !Text.endsWith before "::".toList

/-- The line uses the name; only its first occurrence counts. -/
def Name.usedIn (n : Name) (line : Text) : Bool :=
  match n.pattern.search? line with
  | none => false
  | some m => !n.checksScope || inLibraryScope (line.take m.start)

/-- The names a line may use. All templates need an angle bracket. -/
def candidates (line : Text) : List Name :=
  stringName :: functionNames ++ if line.contains '<' then templateNames else []

/-- The names of the library that a line uses. Directives are left out. -/
def uses (line : Text) : List Use :=
  if line.isEmpty || line.head? == some '#' then []
  else ((candidates line).filter fun n => n.usedIn line).map (·.use)

/-- A header that is needed: the last line that uses it, and the last name used on it. -/
structure Need where
  header : Text
  line : Nat
  name : Text
  deriving DecidableEq, Repr

/-- Notes a use, in place of an earlier one of the same header. -/
def note (line : Nat) (u : Use) : List Need → List Need
  | [] => [⟨u.header, line, u.name⟩]
  | need :: rest =>
    if need.header == u.header then ⟨u.header, line, u.name⟩ :: rest else need :: note line u rest

/-- The needs of a file, `read` telling the names that a line uses. -/
def needs (read : Text → List Use) (s : Source) : List Need :=
  (List.range s.size).foldl
    (fun found n => (read (s.elided n)).foldl (fun found u => note n u found) found) []

/-- The header as include lines name it. -/
def Need.path (n : Need) : Text := Text.trim (fun c => c == '<' || c == '>' || c == '"') n.header

/-! ## What is provided -/

def temporarySource : Pattern := "_flymake.cc" ++ finish

/-- The path under which the headers of the module of a file are looked for. -/
def modulePath (t : FileTree) (file : Text) : Text :=
  temporarySource.replaceAll ".cc".toList (Repository.fullName t file)

/-- Adds what a header of the file's module includes, and tells if it or one before it was read. -/
def provideOne (t : FileTree) (file : Text) (state : Module.Provided × Bool) (header : Text) :
    Except Failure (Module.Provided × Bool) :=
  (Module.lead? t file header).map fun
    | none => state
    | some lead =>
      match state.1.read? t (lead ++ header) with
      | some known => (known, true)
      | none => state

def provide (t : FileTree) (file : Text) (headers : List Text) (known : Module.Provided) :
    Except Failure (Module.Provided × Bool) :=
  headers.foldlM (provideOne t file) (known, false)

/-- The headers of the table, each with the line that includes it last. -/
def included (table : IncludeTable) : Module.Provided :=
  table.entries.foldl
    (fun known e =>
      if known.any fun h => h.1 == e.path then
        known.map fun h => if h.1 == e.path then (h.1, e.line) else h
      else known ++ [(e.path, e.line)])
    []

def Need.finding (n : Need) : Finding :=
  ⟨n.line, .buildIncludeWhatYouUse, 4,
    "Add #include " ++ String.ofList n.header ++ " for " ++ String.ofList n.name⟩

/-- The search for missing headers, `read` telling the names that a line uses. -/
def outcomeBy (read : Text → List Use) (t : FileTree) (file : Text) (s : Source) (table : IncludeTable) :
    Outcome :=
  let known := included table
  match provide t (modulePath t file) (known.map (·.1)) known with
  | .error e => ⟨[], some e⟩
  | .ok (known, found) =>
    if Text.endsWith file ".cc".toList && !found then .nothing
    else ((needs read s).filter fun n => !known.any fun h => h.1 == n.path).map Need.finding

def outcome (t : FileTree) (file : Text) (s : Source) (table : IncludeTable) : Outcome :=
  outcomeBy uses t file s table

end StyleCheck.Required
