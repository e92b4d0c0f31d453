/-
  StyleCheck.Text.Composed — the composed normal form of a text.

  Composites are taken apart as far as possible, the marks after a base are put in the order of
  their combining classes, and then every base is joined with each later mark that it forms a
  composite with, unless another mark of the same or a higher class stands between them. Hangul
  syllables are taken apart and joined by calculation.
-/

import StyleCheck.Text.CombiningClass
import StyleCheck.Text.Decomposition

namespace StyleCheck.Text

namespace Composed

/-! ## Hangul -/

def syllableBase : Nat := 0xAC00
def leadBase : Nat := 0x1100
def vowelBase : Nat := 0x1161
def tailBase : Nat := 0x11A7
def leadCount : Nat := 19
def vowelCount : Nat := 21
def tailCount : Nat := 28

def splitSyllable? (c : Char) : Option Text :=
  let n := c.toNat - syllableBase
  if syllableBase ≤ c.toNat && n < leadCount * vowelCount * tailCount then
    let lead := Char.ofNat (leadBase + n / (vowelCount * tailCount))
    let vowel := Char.ofNat (vowelBase + n / tailCount % vowelCount)
    if n % tailCount == 0 then some [lead, vowel]
    else some [lead, vowel, Char.ofNat (tailBase + n % tailCount)]
  else none

def joinSyllable? (c d : Char) : Option Char :=
  let l := c.toNat - leadBase
  let v := d.toNat - vowelBase
  let s := c.toNat - syllableBase
  let t := d.toNat - tailBase
  if leadBase ≤ c.toNat && l < leadCount && vowelBase ≤ d.toNat && v < vowelCount then
    some (Char.ofNat (syllableBase + (l * vowelCount + v) * tailCount))
  else if syllableBase ≤ c.toNat && s < leadCount * vowelCount * tailCount && s % tailCount == 0
      && tailBase < d.toNat && t < tailCount then
    some (Char.ofNat (c.toNat + t))
  else none

/-! ## Taking apart -/

/-- One step of taking a character apart. -/
def split? (c : Char) : Option Text :=
  if c.toNat < 0xC0 then none
  else
    match splitSyllable? c with
    | some parts => some parts
    | none =>
      match Decomposition.composites.find? (fun x => x.whole == c)
        <|> Decomposition.broken.find? (fun x => x.whole == c) with
      | some x => some [x.base, x.mark]
      | none => (Decomposition.singles.lookup c).map fun d => [d]

/-- No character has to be taken apart more than four times. -/
def splitAll : (steps : Nat) → Char → Text
  | 0, c => [c]
  | steps + 1, c =>
    match split? c with
    | none => [c]
    | some parts => parts.flatMap (splitAll steps)

/-- Puts a character before a text in order, passing over marks of a lower class. -/
def insertMark (c : Char) : Text → Text
  | [] => [c]
  | d :: ds =>
    if combiningClass d != 0 && combiningClass d < combiningClass c then d :: insertMark c ds
    else c :: d :: ds

def orderMarks (s : Text) : Text := s.foldr insertMark []

/-! ## Joining -/

def join? (c d : Char) : Option Char :=
  match joinSyllable? c d with
  | some x => some x
  | none => (Decomposition.composites.find? fun x => x.base == c && x.mark == d).map (·.whole)

/-- Joins the base `base` with the marks that follow it; `passed` are the marks that were not
joined, the last one first. -/
def joinFrom (base : Char) (passed : Text) : Text → Text
  | [] => base :: passed.reverse
  | c :: cs =>
    let level := combiningClass c
    let free :=
      match passed with
      | [] => true
      | d :: _ => combiningClass d < level
    match if free then join? base c else none with
    | some whole => joinFrom whole passed cs
    | none =>
      if level == 0 then base :: passed.reverse ++ joinFrom c [] cs
      else joinFrom base (c :: passed) cs

def joinAll : Text → Text
  | [] => []
  | c :: cs => if combiningClass c == 0 then joinFrom c [] cs else c :: joinAll cs

end Composed

def composed (s : Text) : Text :=
  if s.all fun c => c.toNat < 128 then s
  else Composed.joinAll (Composed.orderMarks (s.flatMap (Composed.splitAll 4)))

end StyleCheck.Text
