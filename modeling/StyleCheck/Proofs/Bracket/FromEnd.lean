/-
  StyleCheck.Proofs.Bracket.FromEnd — searches for brackets at places that are not counted from the end.

  At natural positions the searches of `FromEnd` are those that the rules use: on a line (`scan_ofNat`,
  `scanBack_ofNat`), on the lines below it (`closeBelow_ofNat`), and over the whole file (`findClose_ofNat`,
  `findOpen_ofNat`). They differ in one respect only. A search that does not begin at a character of the
  file is an error here, and finds nothing there.
-/

import StyleCheck.FromEnd
import StyleCheck.Proofs.Bracket.Reading

namespace StyleCheck.FromEnd

def Scan.ofPlain : Bracket.Scan → Scan
  | .found column => .found column
  | .broken => .broken
  | .unfinished stack => .unfinished stack

/-! ## Positions -/

theorem get?_ofNat {α : Type} (xs : List α) (n : Nat) : get? xs n = xs[n]? := by
  simp [get?]

theorem numbered_cons {α : Type} (first : Int) (x : α) (xs : List α) :
    numbered first (x :: xs) = (first, x) :: numbered (first + 1) xs := by
  have hnext : ∀ k : Nat, first + ((k + 1 : Nat) : Int) = first + 1 + k := by
    intro k
    omega
  simp only [numbered, List.mapIdx_cons, hnext]
  simp

theorem onwards_ofNat {α : Type} (xs : List α) (n : Nat) : onwards xs n = .ok (numbered n (xs.drop n)) := by
  simp [onwards]

/-! ## One line -/

theorem scanOver_ofNat (before rest : Text) (stack : Bracket.Stack) :
    scanOver (before ++ rest) stack (numbered before.length rest) =
      .ofPlain (Bracket.scan stack before.reverse before.length rest) := by
  induction rest generalizing before stack with
  | nil => rfl
  | cons c rest ih =>
    have hbefore : ((before ++ c :: rest).take (before.length : Int).toNat).reverse = before.reverse := by
      rw [Int.toNat_natCast, List.take_left]
    rw [numbered_cons, scanOver, Bracket.scan, hbefore]
    cases Bracket.effect before.reverse c stack with
    | complete => rfl
    | broken => rfl
    | proceed stack' =>
      have hread := ih (before ++ [c]) stack'
      rw [List.append_assoc, List.reverse_append, List.length_append] at hread
      exact hread

/-- From a natural column on, a line is read as the rules read it. -/
theorem scan_ofNat (stack : Bracket.Stack) (line : Text) (column : Nat) :
    scan stack line column = .ok (.ofPlain (Bracket.scanFrom stack line column)) := by
  rw [scan, onwards_ofNat, Bracket.scanFrom]
  refine congrArg Except.ok ?_
  rcases Nat.lt_or_ge line.length column with hbeyond | hwithin
  · rw [List.drop_eq_nil_of_le (Nat.le_of_lt hbeyond)]
    rfl
  · have hread := scanOver_ofNat (line.take column) (line.drop column) stack
    rwa [List.take_append_drop, List.length_take_of_le hwithin] at hread

/-- So it is backwards, from a character of the line on. -/
theorem scanBack_ofNat (stack : Bracket.Stack) {line : Text} {column : Nat} (h : column < line.length) :
    scanBack stack line column = .ok (Bracket.scanBackFrom stack line column) := by
  rw [scanBack, if_neg (Int.not_lt.mpr (Int.natCast_nonneg column)), Int.toNat_natCast, if_neg (Nat.not_le.mpr h)]

/-! ## The lines below -/

theorem closeBelow_ofNat (s : Source) {count line : Nat} (h : line + 1 + count = s.size) (text : Text)
    (stack : Bracket.Stack) :
    closeBelow text stack (numbered (line + 1) ((s.lines.toList.map Line.elided).drop (line + 1))) =
      .ofPlain (Bracket.closeBelow s count line text stack) := by
  induction count generalizing line text stack with
  | zero =>
    have hend : (s.lines.toList.map Line.elided).length ≤ line + 1 := by
      rw [List.length_map, Array.length_toList]
      exact Nat.le_of_eq h.symm
    rw [List.drop_eq_nil_of_le hend]
    rfl
  | succ count ih =>
    have hbelow : line + 1 + 1 + count = s.size := by omega
    have hnext : (s.lines.toList.map Line.elided)[line + 1]? = some (s.elided (line + 1)) := by
      rw [Bracket.getElem?_elided, if_pos (by omega)]
    obtain ⟨hlt, hget⟩ := List.getElem?_eq_some_iff.mp hnext
    rw [List.drop_eq_getElem_cons hlt, hget, numbered_cons, closeBelow, Bracket.closeBelow]
    by_cases hstack : stack.isEmpty = true
    · rw [if_pos hstack, if_pos hstack]
      rfl
    · rw [if_neg hstack, if_neg hstack]
      dsimp only
      cases Bracket.scan stack [] 0 (s.elided (line + 1)) with
      | found column => rfl
      | broken => rfl
      | unfinished stack' => exact ih hbelow _ stack'

/-! ## The whole file -/

theorem start_ofNat (s : Source) (line column : Nat) :
    start s line column =
      match (s.elided line)[column]? with
      | some c => .ok (s.elided line, c)
      | none => .error .outOfRange := by
  unfold start
  rw [get?_ofNat, Bracket.getElem?_elided]
  by_cases hline : line < s.size
  · simp only [if_pos hline, get?_ofNat]
    cases (s.elided line)[column]? with
    | none => rfl
    | some c => rfl
  · have hempty : s.elided line = [] := Bracket.elided_of_size_le (Nat.le_of_not_lt hline)
    simp only [if_neg hline, hempty]
    rfl

theorem findClose_ofNat (s : Source) (line column : Nat) :
    findClose s line column =
      if column < (s.elided line).length then .ok (.ofPlain (Bracket.findClose s line column))
      else .error .outOfRange := by
  unfold findClose
  rw [start_ofNat]
  by_cases hcolumn : column < (s.elided line).length
  · have hbelow := onwards_ofNat (s.lines.toList.map Line.elided) (line + 1)
    rw [Int.natCast_add, Int.natCast_one] at hbelow
    rw [if_pos hcolumn, List.getElem?_eq_getElem hcolumn, Bracket.findClose]
    simp only [bind, Except.bind, if_pos (Int.natCast_nonneg column), Int.toNat_natCast, scan_ofNat]
    by_cases hopen : Bracket.canOpen ((s.elided line).drop column) = true
    · rw [if_pos hopen, if_pos hopen]
      cases Bracket.scanFrom [] (s.elided line) column with
      | found stop =>
        simp only [Scan.ofPlain, if_pos (Int.natCast_nonneg stop)]
        rfl
      | broken => rfl
      | unfinished stack =>
        have hline := Bracket.line_lt_size (p := ⟨line, column⟩) (List.getElem?_eq_getElem hcolumn)
        have hcount : line + 1 + (s.size - 1 - line) = s.size := by
          simp only at hline
          omega
        simp only [Scan.ofPlain, hbelow, closeBelow_ofNat s hcount]
        rfl
    · rw [if_neg hopen, if_neg hopen]
      rfl
  · rw [if_neg hcolumn, List.getElem?_eq_none (Nat.le_of_not_lt hcolumn)]
    rfl

theorem findOpen_ofNat (s : Source) (line column : Nat) :
    findOpen s line column =
      if column < (s.elided line).length then .ok (.ofPlain (Bracket.findOpen s line column))
      else .error .outOfRange := by
  unfold findOpen
  rw [start_ofNat]
  by_cases hcolumn : column < (s.elided line).length
  · have hhead : (((s.elided line).drop column).head?.map Bracket.canClose).getD false
        = Bracket.canClose (s.elided line)[column] := by
      rw [List.drop_eq_getElem_cons hcolumn]
      rfl
    rw [if_pos hcolumn, List.getElem?_eq_getElem hcolumn, Bracket.findOpen]
    simp only [bind, Except.bind, scanBack_ofNat [] hcolumn, hhead]
    by_cases hclose : Bracket.canClose (s.elided line)[column] = true
    · rw [if_pos hclose, if_pos hclose]
      cases Bracket.scanBackFrom [] (s.elided line) column with
      | found begin => rfl
      | broken => rfl
      | unfinished stack => rfl
    · rw [if_neg hclose, if_neg hclose]
      rfl
  · rw [if_neg hcolumn, List.getElem?_eq_none (Nat.le_of_not_lt hcolumn)]
    rfl

end StyleCheck.FromEnd
