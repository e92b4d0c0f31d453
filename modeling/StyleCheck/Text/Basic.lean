/-
  StyleCheck.Text.Basic — text as a list of characters.

  A line, a path or a message part is a list of characters; a column is the number of
  characters before a place. Searching, counting, replacing and splitting read from the left
  and never look twice at a character they have matched: `occurrences`, `substitute` and `pieces`
  carry the number of characters of the last occurrence still to be passed over.
-/

namespace StyleCheck

abbrev Text := List Char

namespace Text

def startsWith (s stem : Text) : Bool := stem.isPrefixOf s

def endsWith (s tail : Text) : Bool := tail.isSuffixOf s

/-- The column of the first occurrence of `needle`. -/
def locate? (needle : Text) : Text → Option Nat
  | [] => if needle.isEmpty then some 0 else none
  | c :: cs =>
    if needle.isPrefixOf (c :: cs) then some 0
    else (locate? needle cs).map (· + 1)

/-- The column of the first occurrence of `needle` at or after column `start`. -/
def locateFrom? (needle : Text) (start : Nat) (s : Text) : Option Nat :=
  (locate? needle (s.drop start)).map (· + start)

def holds (s needle : Text) : Bool := (locate? needle s).isSome

/-- The column of the last `c`. -/
def locateLast? (c : Char) : Text → Option Nat
  | [] => none
  | x :: xs =>
    match locateLast? c xs with
    | some i => some (i + 1)
    | none => if x == c then some 0 else none

/-- How often `needle` occurs, occurrences not overlapping. -/
def occurrences (needle : Text) (s : Text) : Nat := go 0 s
where
  go : Nat → Text → Nat
    | _, [] => 0
    | skip + 1, _ :: cs => go skip cs
    | 0, c :: cs =>
      if needle.isPrefixOf (c :: cs) then 1 + go (needle.length - 1) cs else go 0 cs

def substitute (old new : Text) (s : Text) : Text := go 0 s
where
  go : Nat → Text → Text
    | _, [] => []
    | skip + 1, _ :: cs => go skip cs
    | 0, c :: cs =>
      if old.isPrefixOf (c :: cs) then new ++ go (old.length - 1) cs else c :: go 0 cs

/-- The pieces between the occurrences of `sep`: one more than there are occurrences. -/
def pieces (sep : Text) (s : Text) : List Text := go 0 [] s
where
  go : Nat → Text → Text → List Text
    | _, piece, [] => [piece.reverse]
    | skip + 1, piece, _ :: cs => go skip piece cs
    | 0, piece, c :: cs =>
      if sep.isPrefixOf (c :: cs) then piece.reverse :: go (sep.length - 1) [] cs
      else go 0 (c :: piece) cs

/-- What stands before the first `c`, and what stands after it: nothing if there is no `c`. -/
def divide (c : Char) (s : Text) : Text × Text :=
  (s.takeWhile (· != c), (s.dropWhile (· != c)).drop 1)

def trimLeft (p : Char → Bool) (s : Text) : Text := s.dropWhile p

def trimRight (p : Char → Bool) (s : Text) : Text := (s.reverse.dropWhile p).reverse

def trim (p : Char → Bool) (s : Text) : Text := trimRight p (trimLeft p s)

/-- The characters from column `start` up to column `stop`. -/
def slice (start stop : Nat) (s : Text) : Text := (s.take stop).drop start

/-- A line feed ends a line. What is left of one line is known only when no line feed stands
in it, the last character apart. -/
def restOfLine? (s : Text) : Option Text :=
  let body := s.takeWhile (· != '\n')
  match s.dropWhile (· != '\n') with
  | [] | [_] => some body
  | _ => none

def joinWith (sep : Text) : List Text → Text
  | [] => []
  | [s] => s
  | s :: rest => s ++ sep ++ joinWith sep rest

/-- The texts in the order of their characters' numbers. -/
def sorted (ss : List Text) : List Text := ss.mergeSort fun a b => !decide (b < a)

/-- `n` in decimal notation. -/
def ofNat (n : Nat) : Text := (toString n).toList

theorem length_dropWhile_le (p : Char → Bool) (s : Text) : (s.dropWhile p).length ≤ s.length :=
  (List.dropWhile_sublist p).length_le

theorem length_takeWhile_le (p : Char → Bool) (s : Text) : (s.takeWhile p).length ≤ s.length :=
  (List.takeWhile_sublist p).length_le

theorem locate?_length {needle s : Text} {i : Nat} (h : locate? needle s = some i) :
    i + needle.length ≤ s.length := by
  induction s generalizing i with
  | nil =>
    simp only [locate?] at h
    split at h
    · cases h; simp_all
    · cases h
  | cons c cs ih =>
    simp only [locate?] at h
    split at h
    · rename_i hp
      cases h
      simpa using (List.isPrefixOf_iff_prefix.1 hp).length_le
    · obtain ⟨j, hj, rfl⟩ := Option.map_eq_some_iff.1 h
      have := ih hj
      simp only [List.length_cons]
      omega

theorem restOfLine?_length {s t : Text} (h : restOfLine? s = some t) : t.length ≤ s.length := by
  simp only [restOfLine?] at h
  split at h <;> simp_all
  all_goals subst h; exact length_takeWhile_le _ _

end Text

end StyleCheck
