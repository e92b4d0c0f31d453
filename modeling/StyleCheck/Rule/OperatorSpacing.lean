/-
  StyleCheck.Rule.OperatorSpacing — blanks around operators.

  1. The names of operator functions are masked first: what follows the word `operator` up to the
     parameter list is written over with low lines, so that every other character keeps its
     column. One name is masked at a time, the last one of the line first, until none is left;
     every time fewer signs remain (`signs`).
  2. Assignments, comparisons and shifts stand between blanks. An angle bracket that belongs to a
     template argument list does not count.
-/

import StyleCheck.Bracket.Match

namespace StyleCheck.Rule.OperatorSpacing

open Pattern

/-! ## Masking -/

/-- How much of what follows the word `operator` is to be masked: the longest part of it, without
blanks, that is followed by a round bracket, with blanks between them or not. -/
def nameLength? (rest : Text) : Option Nat :=
  let run := rest.takeWhile fun c => !Text.isBlank c
  let after := (rest.dropWhile fun c => !Text.isBlank c).dropWhile Text.isBlank
  if run.isEmpty then none
  else if after.head? == some '(' && (Text.restOfLine? after).isSome then some run.length
  else
    match Text.locateLast? '(' run with
    | some (i + 1) => if (Text.restOfLine? (rest.drop (i + 1))).isSome then some (i + 1) else none
    | _ => none

/-- The end of a line, with a line feed at its very end dropped. -/
def withoutFinalFeed (s : Text) : Text := if s.getLast? == some '\n' then s.dropLast else s

/-- What follows the word `operator`, the name masked. A word that goes on is another word. -/
def maskName? (rest : Text) : Option Text :=
  if (rest.head?.map Text.isWord).getD true then none
  else
    (nameLength? rest).map fun k =>
      List.replicate k '_' ++ withoutFinalFeed (rest.drop k)

/-- Masks the last name of an operator function on the line; `before` is the character before. -/
def maskLast? (before : Option Char) : Text → Option Text
  | [] => none
  | c :: rest =>
    if c == '\n' then none
    else
      match maskLast? (some c) rest with
      | some masked => some (c :: masked)
      | none =>
        if !(before.map Text.isWord).getD false && Text.startsWith (c :: rest) "operator".toList then
          (maskName? (rest.drop 7)).map ("operator".toList ++ ·)
        else none

/-- The number of characters that are neither blank nor part of a word. -/
def signs (s : Text) : Nat := s.countP fun c => !Text.isBlank c && !Text.isWord c

theorem signs_append (s t : Text) : signs (s ++ t) = signs s + signs t := List.countP_append

theorem signs_withoutFinalFeed (s : Text) : signs (withoutFinalFeed s) ≤ signs s := by
  unfold withoutFinalFeed
  split
  · exact List.Sublist.countP_le (List.dropLast_sublist s)
  · exact Nat.le_refl _

theorem signs_replicate (k : Nat) : signs (List.replicate k '_') = 0 := by
  simp only [signs, List.countP_replicate]
  have : (!Text.isBlank '_' && !Text.isWord '_') = false := by decide
  simp [this]

theorem nameLength?_pos {rest : Text} {k : Nat} (h : nameLength? rest = some k) :
    0 < k ∧ (rest.head?.map fun c => !Text.isBlank c).getD false = true := by
  simp only [nameLength?] at h
  cases rest with
  | nil => simp at h
  | cons c cs =>
    by_cases hc : Text.isBlank c
    · simp [List.takeWhile, hc] at h
    · refine ⟨?_, by simp [hc]⟩
      split at h
      · cases h
      · rename_i hrun
        split at h
        · cases h
          exact List.length_pos_iff.2 (by simpa using hrun)
        · split at h
          · split at h
            · cases h
              exact Nat.succ_pos _
            · cases h
          · cases h

theorem maskName?_signs {rest masked : Text} (h : maskName? rest = some masked) :
    signs masked < signs rest := by
  simp only [maskName?] at h
  split at h
  · cases h
  · rename_i hw
    obtain ⟨k, hk, rfl⟩ := Option.map_eq_some_iff.1 h
    obtain ⟨hpos, hblank⟩ := nameLength?_pos hk
    cases rest with
    | nil => simp at hblank
    | cons c cs =>
      obtain ⟨k, rfl⟩ := Nat.exists_eq_succ_of_ne_zero (Nat.pos_iff_ne_zero.1 hpos)
      have hle := signs_withoutFinalFeed (cs.drop k)
      have hdrop : signs (cs.drop k) ≤ signs cs := List.Sublist.countP_le (List.drop_sublist k cs)
      have hcons : signs (c :: cs) = signs cs + 1 := by
        simp at hblank hw
        simp [signs, hblank, hw]
      rw [signs_append, signs_replicate, hcons]
      simp only [List.drop_succ_cons]
      omega

theorem maskLast?_signs {before : Option Char} {line masked : Text}
    (h : maskLast? before line = some masked) : signs masked < signs line := by
  induction line generalizing before masked with
  | nil => simp [maskLast?] at h
  | cons c rest ih =>
    simp only [maskLast?] at h
    split at h
    · cases h
    · split at h
      · rename_i m hm
        cases h
        have := ih hm
        simp only [signs, List.countP_cons] at *
        omega
      · split at h
        · rename_i hop
          obtain ⟨m, hm, rfl⟩ := Option.map_eq_some_iff.1 h
          have hlt := maskName?_signs hm
          have hsplit : c :: rest = "operator".toList ++ rest.drop 7 := by
            have hp := (Bool.and_eq_true _ _ ▸ hop).2
            obtain ⟨t, ht⟩ := List.isPrefixOf_iff_prefix.1 hp
            have : rest.drop 7 = t := by
              have := congrArg (List.drop 8) ht
              simpa using this.symm
            rw [this, ht]
          rw [hsplit, signs_append, signs_append]
          omega
        · cases h

/-- The line with the names of operator functions masked. -/
def mask (line : Text) : Text :=
  match _h : maskLast? none line with
  | none => line
  | some masked => mask masked
termination_by signs line
decreasing_by exact maskLast?_signs _h

/-! ## Operators -/

def equalsAfterWord : Pattern := one (.union [.word, .among ".".toList]) ++ "="

def equalsBeforeWord : Pattern := "=" ++ one (.union [.word, .among ".".toList])

def statementHead : Pattern := edge ++ group 1 (oneOf ["if", "while", "for"]) ++ " "

def compoundEquals : Pattern :=
  group 1 (oneOf [">=", "<=", "==", "!=", "&=", "^=", "|=", "+=", "*=", "/=", "%="])

def operatorEquals : Pattern := "operator="

def tightComparison : Pattern :=
  one (.other (.union [.blank, .among "<>=!".toList])) ++ group 1 (oneOf ["==", "!=", "<=", ">=", "||"])
    ++ one (.other (.union [.blank, .among "<>=!,;)".toList]))

def includeLine : Pattern := "#" ++ anything ++ "include"

def tightLess : Pattern :=
  start ++ group 1 (anything ++ one (.other (.union [.blank, .among "<".toList]))) ++ "<"
    ++ one (.other (.union [.blank, .among "=<,".toList]))

def tightGreater : Pattern :=
  start ++ group 1 (anything ++ one (.other (.union [.blank, .among "->".toList]))) ++ ">"
    ++ one (.other (.union [.blank, .among "=>,".toList]))

def tightLeftShift : Pattern :=
  group 1 ("operator" ||| one (.other (.union [.blank, .among "(<".toList])))
    ++ opt (oneOf ["L", "UL", "LL", "ULL", "l", "ul", "ll", "ull"]) ++ "<<"
    ++ group 2 (one (.other (.union [.blank, .among ",=<".toList])))

def tightRightShift : Pattern :=
  ">>" ++ one (.union [.range 'a' 'z', .range 'A' 'Z', .among "_".toList])

def looseUnary : Pattern :=
  group 1
    ("!" ++ blank ||| "~" ++ blank ||| blank ++ "--" ++ one (.union [.blank, .among ";".toList])
      ||| blank ++ "++" ++ one (.union [.blank, .among ";".toList]))

/-- A shift may be written without blanks between digits, and in the name of its operator. -/
def isTightShift (m : Match) : Bool :=
  let left := m.group 1
  let right := m.group 2
  !(left.all Text.isDigit && right.all Text.isDigit)
    && !(left == "operator".toList && right == [';'])

def missing (n : Nat) (operator : String) : Finding :=
  ⟨n, .whitespaceOperators, 3, "Missing spaces around " ++ operator⟩

def angles (s : Source) (n : Nat) (line : Text) : List Finding :=
  let less :=
    match tightLess.match? line with
    | none => []
    | some m =>
      Finding.when (Bracket.findClose s n (m.group 1).length).place.isNone (missing n "<")
  let greater :=
    match tightGreater.match? line with
    | none => []
    | some m =>
      Finding.when (Bracket.findOpen s n (m.group 1).length).place.isNone (missing n ">")
  less ++ greater

def findings (s : Source) (n : Nat) : List Finding :=
  let line := mask (s.elided n)
  Finding.when
      ((equalsAfterWord.occursIn line || equalsBeforeWord.occursIn line)
        && !statementHead.occursIn line && !compoundEquals.occursIn line
        && !operatorEquals.occursIn line)
      ⟨n, .whitespaceOperators, 4, "Missing spaces around ="⟩
    ++ (match tightComparison.search? line with
      | some m => [missing n (String.ofList (m.group 1))]
      | none => if includeLine.opens line then [] else angles s n line)
    ++ (match tightLeftShift.search? line with
      | some m => Finding.when (isTightShift m) (missing n "<<")
      | none => [])
    ++ Finding.when (tightRightShift.occursIn line) (missing n ">>")
    ++ match looseUnary.search? line with
      | some m =>
        [⟨n, .whitespaceOperators, 4,
          "Extra space for operator " ++ String.ofList (m.group 1)⟩]
      | none => []

end StyleCheck.Rule.OperatorSpacing
