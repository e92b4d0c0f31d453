/-
  StyleCheck.Path — file paths.

  A path is a text; slashes separate its components. All operations look at the text only and know
  nothing of files. Two slashes at the beginning are kept apart from one.

  `directory` gives a beginning of the path (`directory_isPrefix`), so going up from a path comes to
  an end (`directory_length`).
-/

import StyleCheck.Text.Basic

namespace StyleCheck.Path

/-- The part of a path up to and including the last slash. -/
def lead (p : Text) : Text :=
  match Text.locateLast? '/' p with
  | some i => p.take (i + 1)
  | none => []

/-- The last component. -/
def base (p : Text) : Text := p.drop (lead p).length

/-- All before the last component, without the slashes between them; slashes alone are kept. -/
def directory (p : Text) : Text :=
  let head := lead p
  if head.all (· == '/') then head else Text.trimRight (· == '/') head

theorem isPrefix_trimRight (f : Char → Bool) (s : Text) : Text.trimRight f s <+: s := by
  unfold Text.trimRight
  have h := List.dropWhile_suffix f (l := s.reverse)
  simpa using List.reverse_prefix.2 h

theorem isPrefix_lead (p : Text) : lead p <+: p := by
  unfold lead
  split
  · exact List.take_prefix _ _
  · exact List.nil_prefix

theorem directory_isPrefix (p : Text) : directory p <+: p := by
  simp only [directory]
  split
  · exact isPrefix_lead p
  · exact (isPrefix_trimRight _ _).trans (isPrefix_lead p)

theorem directory_length {p : Text} (h : directory p ≠ p) : (directory p).length < p.length := by
  have hp := directory_isPrefix p
  exact Nat.lt_of_le_of_ne hp.length_le fun e => h (hp.eq_of_length e)

def isAbsolute (p : Text) : Bool := Text.startsWith p ['/']

def join (a b : Text) : Text :=
  if isAbsolute b then b
  else if a.isEmpty || Text.endsWith a ['/'] then a ++ b
  else a ++ '/' :: b

def joinAll : List Text → Text
  | [] => []
  | p :: rest => rest.foldl join p

/-- A last component without its extension, and the extension with its point. Points at the
beginning of the component do not begin an extension. -/
def splitExtension (p : Text) : Text × Text :=
  let name := base p
  let points := (name.takeWhile (· == '.')).length
  match Text.locateLast? '.' name with
  | none => (p, [])
  | some i =>
    if points ≤ i then (p.take ((lead p).length + i), name.drop i) else (p, [])

def extension (p : Text) : Text := (splitExtension p).2

def withoutExtension (p : Text) : Text := (splitExtension p).1

/-- The components of a normal path, the last one first. `rooted` paths do not go above the root. -/
def reduce (rooted : Bool) : (done : List Text) → List Text → List Text
  | done, [] => done
  | done, c :: rest =>
    if c.isEmpty || c == ['.'] then reduce rooted done rest
    else if c != ['.', '.'] then reduce rooted (c :: done) rest
    else
      match done with
      | [] => if rooted then reduce rooted [] rest else reduce rooted [c] rest
      | top :: lower =>
        if top == ['.', '.'] then reduce rooted (c :: done) rest else reduce rooted lower rest

/-- The slashes a path begins with, as far as they matter. -/
def rootOf (p : Text) : Text :=
  match p with
  | '/' :: '/' :: '/' :: _ => ['/']
  | '/' :: '/' :: _ => ['/', '/']
  | '/' :: _ => ['/']
  | _ => []

/-- The path without empty components, points and ways up. -/
def normal (p : Text) : Text :=
  let root := rootOf p
  let path := root ++ Text.joinWith ['/'] (reduce (!root.isEmpty) [] (Text.pieces ['/'] p)).reverse
  if path.isEmpty then ['.'] else path

/-- The path seen from the directory `here`. -/
def resolve (here p : Text) : Text := normal (join here p)

/-- The components from the left; the root of an absolute path is one of them. -/
def components (p : Text) : List Text :=
  let head := directory p
  if _h : head = p then [head]
  else if base p = p then [p]
  else components head ++ [base p]
termination_by p.length
decreasing_by exact directory_length _h

theorem directory_length_of_base {p : Text} (h : base p ≠ []) :
    (directory p).length < p.length := by
  have hlead : (lead p).length < p.length := by
    simpa [base, List.drop_eq_nil_iff] using h
  have hle : (directory p).length ≤ (lead p).length := by
    simp only [directory]
    split
    · exact Nat.le_refl _
    · exact (isPrefix_trimRight _ _).length_le
  exact Nat.lt_of_le_of_lt hle hlead

/-- The components of a path from the right, each with the directory it lies in. -/
def ascent (p : Text) : List (Text × Text) :=
  if _h : base p = [] then [] else (directory p, base p) :: ascent (directory p)
termination_by p.length
decreasing_by exact directory_length_of_base _h

/-- The path `p` lies under the directory `dir`. -/
def isUnder (dir p : Text) : Bool :=
  Text.startsWith p (dir ++ ['/']) || (dir == ['/', '/'] && p != dir && Text.startsWith p dir)

end StyleCheck.Path
