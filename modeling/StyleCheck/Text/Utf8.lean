/-
  StyleCheck.Text.Utf8 — reading octets as text, errors and all.

  A sequence that breaks off becomes one replacement character, and the octet at which it broke
  off is read afresh; so does an octet that can begin no sequence. A sequence that is still open
  when the octets end leaves nothing behind.
-/

import StyleCheck.Text.Basic

namespace StyleCheck.Text.Utf8

/-- An open sequence: its value so far, how many octets are to come, and the bounds of the next. -/
structure Partial where
  value : Nat
  left : Nat
  low : Nat := 0x80
  high : Nat := 0xBF

inductive Opening where
  | char (c : Char)
  | sequence (p : Partial)
  | invalid

def opening (octet : Nat) : Opening :=
  if octet < 0x80 then .char (Char.ofNat octet)
  else if octet < 0xC2 then .invalid
  else if octet < 0xE0 then .sequence { value := octet - 0xC0, left := 1 }
  else if octet == 0xE0 then .sequence { value := 0, left := 2, low := 0xA0 }
  else if octet == 0xED then .sequence { value := 0xD, left := 2, high := 0x9F }
  else if octet < 0xF0 then .sequence { value := octet - 0xE0, left := 2 }
  else if octet == 0xF0 then .sequence { value := 0, left := 3, low := 0x90 }
  else if octet == 0xF4 then .sequence { value := 4, left := 3, high := 0x8F }
  else if octet < 0xF4 then .sequence { value := octet - 0xF0, left := 3 }
  else .invalid

def replacement : Char := '\ufffd'

/-- The text read so far, last character first, and the open sequence. -/
structure Reader where
  text : Text := []
  pending : Option Partial := none

namespace Reader

def emit (r : Reader) (c : Char) : Reader := ⟨c :: r.text, none⟩

def begin (r : Reader) (octet : Nat) : Reader :=
  match opening octet with
  | .char c => r.emit c
  | .sequence p => ⟨r.text, some p⟩
  | .invalid => r.emit replacement

def step (r : Reader) (octet : UInt8) : Reader :=
  let n := octet.toNat
  match r.pending with
  | none => r.begin n
  | some p =>
    if p.low ≤ n && n ≤ p.high then
      let value := 64 * p.value + (n - 0x80)
      if p.left == 1 then r.emit (Char.ofNat value)
      else ⟨r.text, some { value := value, left := p.left - 1 }⟩
    else (r.emit replacement).begin n

end Reader

def decode (octets : List UInt8) : Text := ((octets.foldl Reader.step {}).text).reverse

end StyleCheck.Text.Utf8
