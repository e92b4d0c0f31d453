/-
  StyleCheck.Text.Blank — white space.

  Blank are the tabs, the line ends, the four information separators and every space of any
  width. `strip` takes blanks off both ends, `words` takes the runs of other characters.
-/

import StyleCheck.Text.Basic

namespace StyleCheck.Text

/-- The blanks above 127. -/
def Blank.others : List Nat :=
  [0x85, 0xA0, 0x1680, 0x2000, 0x2001, 0x2002, 0x2003, 0x2004, 0x2005, 0x2006, 0x2007, 0x2008,
   0x2009, 0x200A, 0x2028, 0x2029, 0x202F, 0x205F, 0x3000]

def isBlank (c : Char) : Bool :=
  let n := c.toNat
  if n < 128 then n == 32 || (9 ≤ n && n ≤ 13) || (28 ≤ n && n ≤ 31) else Blank.others.contains n

/-- The blanks of the C locale: the space and the controls from the tab to the return. -/
def isAsciiBlank (c : Char) : Bool := c == ' ' || (9 ≤ c.toNat && c.toNat ≤ 13)

def stripLeft (s : Text) : Text := trimLeft isBlank s

def stripRight (s : Text) : Text := trimRight isBlank s

def strip (s : Text) : Text := trim isBlank s

/-- A line is blank if no other character stands in it. -/
def allBlank (s : Text) : Bool := s.all isBlank

/-- The first character that is not blank is `c`. -/
def opensWith (c : Char) (s : Text) : Bool := (s.dropWhile isBlank).head? == some c

/-- The number of spaces a line begins with, if a visible character follows them. -/
def indentation (s : Text) : Nat :=
  match s.dropWhile (· == ' ') with
  | [] => 0
  | c :: _ => if isBlank c then 0 else (s.takeWhile (· == ' ')).length

/-- The runs of characters between blanks; `word` holds the current one, last character first. -/
def words (s : Text) : List Text := go [] s
where
  close (word : Text) : List Text := if word.isEmpty then [] else [word.reverse]
  go : Text → Text → List Text
    | word, [] => close word
    | word, c :: cs => if isBlank c then close word ++ go [] cs else go (c :: word) cs

end StyleCheck.Text
