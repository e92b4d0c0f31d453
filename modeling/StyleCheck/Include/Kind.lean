/-
  StyleCheck.Include.Kind — what kind of header a file includes.

  Headers in angle brackets are headers of the system, of the C++ library or of C. A header in
  quotes is the file's own if it has the same name, endings aside, and stands in the same directory
  or in the public one beside it; it may be its own if the names begin alike.
-/

import StyleCheck.Pattern.Search
import StyleCheck.Repository

namespace StyleCheck

inductive HeaderKind where
  | cSystem
  | cppSystem
  | own
  | perhapsOwn
  | other
  deriving DecidableEq, Repr

namespace HeaderKind

def title : HeaderKind → String
  | cSystem => "C system header"
  | cppSystem => "C++ system header"
  | own => "header this file implements"
  | perhapsOwn => "header this file may implement"
  | other => "other header"

/-- The headers of the C++ library, old ones included. -/
def library : List String :=
  ["algobase.h", "algo.h", "alloc.h", "builtinbuf.h", "bvector.h", "complex.h", "defalloc.h",
   "deque.h", "editbuf.h", "fstream.h", "function.h", "hash_map", "hash_map.h", "hash_set",
   "hash_set.h", "hashtable.h", "heap.h", "indstream.h", "iomanip.h", "iostream.h", "istream.h",
   "iterator.h", "list.h", "map.h", "multimap.h", "multiset.h", "ostream.h", "pair.h",
   "parsestream.h", "pfstream.h", "procbuf.h", "pthread_alloc", "pthread_alloc.h", "rope",
   "rope.h", "ropeimpl.h", "set.h", "slist", "slist.h", "stack.h", "stdiostream.h",
   "stl_alloc.h", "stl_relops.h", "streambuf.h", "stream.h", "strfile.h", "strstream.h",
   "tempbuf.h", "tree.h", "type_traits.h", "vector.h", "algorithm", "array", "atomic", "bitset",
   "chrono", "codecvt", "complex", "condition_variable", "deque", "exception", "forward_list",
   "fstream", "functional", "future", "initializer_list", "iomanip", "ios", "iosfwd", "iostream",
   "istream", "iterator", "limits", "list", "locale", "map", "memory", "mutex", "new", "numeric",
   "ostream", "queue", "random", "ratio", "regex", "scoped_allocator", "set", "sstream", "stack",
   "stdexcept", "streambuf", "string", "strstream", "system_error", "thread", "tuple",
   "typeindex", "typeinfo", "type_traits", "unordered_map", "unordered_set", "utility",
   "valarray", "vector", "cassert", "ccomplex", "cctype", "cerrno", "cfenv", "cfloat",
   "cinttypes", "ciso646", "climits", "clocale", "cmath", "csetjmp", "csignal", "cstdalign",
   "cstdarg", "cstdbool", "cstddef", "cstdint", "cstdio", "cstdlib", "cstring", "ctgmath",
   "ctime", "cuchar", "cwchar", "cwctype"]

/-- Endings, after a hyphen or a low line, of files that belong to another one. -/
def endings : List String :=
  ["test.cc", "regtest.cc", "unittest.cc", "inl.h", "impl.h", "internal.h"]

/-- The path without its ending, a hyphen or low line before it included. -/
def withoutEnding? (p : Text) (ending : Text) : Option Text :=
  if Text.endsWith p ('-' :: ending) || Text.endsWith p ('_' :: ending) then
    some (p.take (p.length - ending.length - 1))
  else none

/-- The path of the file that this one belongs to, without extension. -/
def stem (p : Text) : Text :=
  match endings.findSome? fun e => withoutEnding? p e.toList with
  | some s => s
  | none => Path.withoutExtension p

/-- A name up to the first hyphen, low line or point. -/
def firstPart (name : Text) : Text := name.takeWhile fun c => c != '-' && c != '_' && c != '.'

/-- The kind of a header in quotes, included by the file of the given name in its repository. -/
def quoted (file header : Text) : HeaderKind :=
  let file := stem file
  let header := stem header
  let dir := Path.directory file
  if Path.base file == Path.base header
      && (Path.directory header == dir
        || Path.directory header == Path.normal (dir ++ "/../public".toList)) then own
  else if !(firstPart (Path.base file)).isEmpty
      && firstPart (Path.base file) == firstPart (Path.base header) then perhapsOwn
  else other

def ofInclude (t : FileTree) (file header : Text) (system : Bool) : Except Failure HeaderKind :=
  if system then
    .ok (if library.any fun h => h.toList == header then cppSystem else cSystem)
  else (Repository.name t file).map fun name => quoted name header

end HeaderKind

open Pattern in
/-- Headers from elsewhere, which follow their own rules. -/
def thirdPartyHeader : Pattern :=
  start
    ++ (many (noneOf "/") ++ one (.range 'A' 'Z') ++ many (noneOf "/") ++ ".h" ||| "lua.h"
      ||| "lauxlib.h" ||| "lualib.h")
    ++ finish

end StyleCheck
