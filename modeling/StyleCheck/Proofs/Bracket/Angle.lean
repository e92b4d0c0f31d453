/-
  StyleCheck.Proofs.Bracket.Angle — the search from an opening angle bracket.

  An opening angle bracket is only tentative, so the search from it may give up. While it goes on, the
  bracket lies at the bottom of the stack: shifts, closing brackets and semicolons take away what lies
  above it, and if they reach the bottom, the search is broken (`effect_keeps`). So nothing but a closing
  angle bracket can end the search with a place. The stack above the bottom, without its angle brackets,
  is the one of the plain walk over what has been read, and at a semicolon it is not empty (`Crosses`).
  From characters this goes on to lines (`scan_keeps`) and to the file (`findClose_reached`).
-/

import StyleCheck.Proofs.Bracket.Pairing

namespace StyleCheck.Bracket

/-! ## What stands before a place -/

def Follows (s : Source) (p : Place) (c : Char) : Prop :=
  ∃ k, p.column = k + 1 ∧ (s.elided p.line)[k]? = some c

theorem follows_iff {s : Source} {p : Place} {c : Char} (h : p.column ≤ (s.elided p.line).length) :
    Follows s p c ↔ ((s.elided p.line).take p.column).reverse.head? = some c := by
  rw [List.head?_reverse, List.getLast?_eq_getElem?, List.length_take, Nat.min_eq_left h]
  unfold Follows
  cases hc : p.column with
  | zero => simp
  | succ k => simp

structure Divided (s : Source) (line column : Nat) (before text : Text) : Prop where
  line : s.elided line = before.reverse ++ text
  column : column = before.length

theorem Divided.start (s : Source) (line : Nat) : Divided s line 0 [] (s.elided line) := ⟨rfl, rfl⟩

theorem Divided.next {s : Source} {line column : Nat} {before text : Text} {c : Char}
    (h : Divided s line column before (c :: text)) : Divided s line (column + 1) (c :: before) text :=
  ⟨by simp [h.line], by simp [h.column]⟩

theorem Divided.follows_iff {s : Source} {line column : Nat} {before text : Text}
    (h : Divided s line column before text) (c : Char) : Follows s ⟨line, column⟩ c ↔ before.head? = some c := by
  have hlength : column = before.reverse.length := by simp [h.column]
  rw [Bracket.follows_iff (by simp [h.line, h.column])]
  simp only [h.line, hlength, List.take_left, List.reverse_reverse]

def NamesOperator (t : Text) : Prop :=
  ∃ front blanks, t = front ++ "operator".toList ++ blanks ∧ (∀ c ∈ blanks, Text.isBlank c = true) ∧
    ∀ c, front.getLast? = some c → Text.isWord c = false

theorem endsInOperator_iff (t : Text) : endsInOperator t.reverse = true ↔ NamesOperator t := by
  unfold endsInOperator endsInWord NamesOperator
  simp only [Bool.and_eq_true, List.isPrefixOf_iff_prefix, Bool.not_eq_true']
  constructor
  · rintro ⟨⟨z, hz⟩, hedge⟩
    have hcut := List.takeWhile_append_dropWhile (p := Text.isBlank) (l := t.reverse)
    refine ⟨z.reverse, (t.reverse.takeWhile Text.isBlank).reverse, ?_, ?_, ?_⟩
    · rw [← hz] at hcut
      simpa using congrArg List.reverse hcut.symm
    · intro c hc
      exact List.all_eq_true.mp List.all_takeWhile c (List.mem_reverse.mp hc)
    · intro c hc
      rw [← hz, List.drop_left' (by simp)] at hedge
      rw [List.getLast?_reverse] at hc
      simpa [hc] using hedge
  · rintro ⟨front, blanks, rfl, hblanks, hedge⟩
    have hrest : (front ++ "operator".toList ++ blanks).reverse.dropWhile Text.isBlank
        = "operator".toList.reverse ++ front.reverse := by
      rw [List.reverse_append, List.reverse_append,
        List.dropWhile_append_of_pos fun c hc => hblanks c (List.mem_reverse.mp hc)]
      rfl
    rw [hrest, List.drop_left' (by simp), List.head?_reverse]
    refine ⟨List.prefix_append _ _, ?_⟩
    cases hlast : front.getLast? with
    | none => rfl
    | some c => simpa [hlast] using hedge c hlast

/-- A closing angle bracket at `r` counts: it is the second sign neither of an arrow nor of a named operator. -/
structure Counts (s : Source) (r : Place) : Prop where
  noArrow : ¬ Follows s r '-'
  noName : ¬ NamesOperator ((s.elided r.line).take (r.column - 1))

theorem Divided.counts_iff {s : Source} {line column : Nat} {before text : Text}
    (h : Divided s line column before text) :
    Counts s ⟨line, column⟩ ↔ (before.head? == some '-' || endsInOperator (before.drop 1)) = false := by
  have htake : (s.elided line).take (column - 1) = (before.drop 1).reverse := by
    cases before with
    | nil => simp [h.column]
    | cons c before => simp [h.line, h.column]
  have hname : NamesOperator ((s.elided line).take (column - 1)) ↔ endsInOperator (before.drop 1) = true := by
    rw [htake, ← endsInOperator_iff, List.reverse_reverse]
  rw [Bool.or_eq_false_iff, beq_eq_false_iff_ne, Ne, ← h.follows_iff, ← Bool.not_eq_true, ← hname]
  exact ⟨fun h => ⟨h.noArrow, h.noName⟩, fun h => ⟨h.1, h.2⟩⟩

/-! ## A walk over brackets and statements -/

theorem walk_chars_cons {d : Way} {stack mid : Stack} {x : Cell} (h : step d stack x.2 = some mid)
    (cells : List Cell) : walk d stack (chars (x :: cells)) = walk d mid (chars cells) := by
  simp only [chars, List.map_cons, walk, h, Option.bind_some]

theorem walk_chars_append {d : Way} {stack mid : Stack} {u : List Cell} (h : walk d stack (chars u) = some mid)
    (v : List Cell) : walk d stack (chars (u ++ v)) = walk d mid (chars v) := by
  rw [chars] at h ⊢
  rw [List.map_append, walk_append, h]
  rfl

/-- The brackets of `cells` lead from one stack to the other, and a statement ends only where some
bracket is open. -/
inductive Crosses : Stack → List Cell → Stack → Prop
  | nothing (stack : Stack) : Crosses stack [] stack
  | cell {stack mid stack' : Stack} {q : Place} {c : Char} {cells : List Cell} :
      step .forwards stack c = some mid → (c = ';' → stack ≠ []) → Crosses mid cells stack' →
      Crosses stack ((q, c) :: cells) stack'

theorem Crosses.append {stack mid stack' : Stack} {cells cells' : List Cell} (h : Crosses stack cells mid)
    (h' : Crosses mid cells' stack') : Crosses stack (cells ++ cells') stack' := by
  induction h with
  | nothing => exact h'
  | cell hs hc _ ih => exact .cell hs hc (ih h')

theorem Crosses.walk {stack stack' : Stack} {cells : List Cell} (h : Crosses stack cells stack') :
    walk .forwards stack (chars cells) = some stack' := by
  induction h with
  | nothing => rfl
  | cell hs _ _ ih => exact (walk_chars_cons hs _).trans ih

theorem Crosses.open_at_semicolon {stack stack' : Stack} {u v : List Cell} {q : Place}
    (h : Crosses stack (u ++ (q, ';') :: v) stack') :
    ∃ b lower, Bracket.walk .forwards stack (chars u) = some (b :: lower) := by
  induction u generalizing stack with
  | nil =>
    cases h with
    | cell _ hc _ =>
      obtain ⟨b, lower, rfl⟩ := List.exists_cons_of_ne_nil (hc rfl)
      exact ⟨b, lower, rfl⟩
  | cons x u ih =>
    cases h with
    | cell hs _ hrest =>
      rw [walk_chars_cons hs]
      exact ih hrest

/-! ## The stack above an angle bracket -/

/-- What a character may do above an angle bracket: only a closing one that counts completes the
search. -/
def Effect.Keeps (upper : Stack) (before : Text) (c : Char) : Effect → Prop
  | .complete => c = '>' ∧ upper = [] ∧ (before.head? == some '-' || endsInOperator (before.drop 1)) = false
  | .broken => True
  | .proceed stack => ∃ upper', stack = upper' ++ [angle] ∧
      step .forwards (firm upper) c = some (firm upper') ∧ (c = ';' → firm upper ≠ [])

theorem dropAngles_above (upper : Stack) :
    dropAngles (upper ++ [angle]) = [] ∨
    ∃ top lower, dropAngles (upper ++ [angle]) = top :: (lower ++ [angle]) ∧ firm upper = top :: firm lower := by
  induction upper with
  | nil => exact .inl rfl
  | cons b upper ih =>
    by_cases hb : b = angle
    · subst hb
      exact ih
    · refine .inr ⟨b, upper, ?_, firm_cons hb upper⟩
      simp [dropAngles, hb]

theorem pair_keeps {upper : Stack} (before : Text) {c : Char} {b : Bracket} (hc : closes? c = some b) :
    (pair b (upper ++ [angle])).Keeps upper before c := by
  have hl : Way.forwards.leaves c = some b := hc
  unfold pair
  rcases dropAngles_above upper with hd | ⟨top, lower, hd, hf⟩
  · rw [hd]
    trivial
  · simp only [hd]
    split
    · rename_i htop
      obtain rfl := beq_iff_eq.mp htop
      rw [Effect.ofRest, if_neg (by simp)]
      exact ⟨lower, rfl, by rw [hf, step_leaves hl], by simp [hf]⟩
    · trivial

theorem endStatement_keeps (upper : Stack) (before : Text) : (endStatement (upper ++ [angle])).Keeps upper before ';' := by
  unfold endStatement
  rcases dropAngles_above upper with hd | ⟨top, lower, hd, hf⟩
  · rw [hd]
    trivial
  · have hfirm := firm_dropAngles (upper ++ [angle])
    rw [hd] at hfirm ⊢
    refine ⟨top :: lower, rfl, ?_, by simp [hf]⟩
    have hsame : firm (top :: lower) = firm upper := by simpa [firm, List.filter_append, List.filter_cons] using hfirm
    rw [hsame]
    exact step_other (d := .forwards) rfl rfl _

theorem openAngle_keeps (upper : Stack) (before : Text) : (openAngle before (upper ++ [angle])).Keeps upper before '<' := by
  have hstep : ∀ stack, step .forwards stack '<' = some stack := step_other (d := .forwards) rfl rfl
  have hsame : Effect.Keeps upper before '<' (.proceed (upper ++ [angle])) := ⟨upper, rfl, hstep _, by simp⟩
  unfold openAngle
  split
  · cases upper with
    | nil => trivial
    | cons b upper =>
      cases b with
      | angle =>
        simp only [List.cons_append]
        rw [if_neg (by simp)]
        exact ⟨upper, rfl, hstep _, by simp⟩
      | _ => exact hsame
  · split
    · exact hsame
    · exact ⟨angle :: upper, rfl, hstep _, by simp⟩

theorem closeAngle_keeps (upper : Stack) (before : Text) :
    (closeAngle before (upper ++ [angle])).Keeps upper before '>' := by
  have hstep : ∀ stack, step .forwards stack '>' = some stack := step_other (d := .forwards) rfl rfl
  have hsame : Effect.Keeps upper before '>' (.proceed (upper ++ [angle])) := ⟨upper, rfl, hstep _, by simp⟩
  unfold closeAngle
  split
  · exact hsame
  · rename_i hcounts
    cases upper with
    | nil => exact ⟨rfl, rfl, Bool.eq_false_iff.mpr hcounts⟩
    | cons b upper =>
      cases b with
      | angle =>
        simp only [List.cons_append, Effect.ofRest]
        rw [if_neg (by simp)]
        exact ⟨upper, rfl, hstep _, by simp⟩
      | _ => exact hsame

/-- Whatever is read, the angle bracket stays at the bottom until the search ends. -/
theorem effect_keeps (upper : Stack) (before : Text) (c : Char) :
    (effect before c (upper ++ [angle])).Keeps upper before c := by
  unfold effect
  split
  · rename_i b ho
    refine ⟨b :: upper, rfl, ?_, ?_⟩
    · rw [step_enters (d := .forwards) ho, firm_cons (of_opens? ho).1]
    · rintro rfl
      cases ho
  · rename_i b ho hc
    exact pair_keeps before hc
  · rename_i ho hc
    split
    · rename_i h
      obtain rfl := beq_iff_eq.mp h
      exact openAngle_keeps upper before
    · split
      · rename_i h
        obtain rfl := beq_iff_eq.mp h
        exact closeAngle_keeps upper before
      · split
        · rename_i h
          obtain rfl := beq_iff_eq.mp h
          exact endStatement_keeps upper before
        · rename_i h
          exact ⟨upper, rfl, step_other (d := .forwards) ho hc _, fun e => absurd (beq_iff_eq.mpr e) h⟩

/-! ## Lines and files -/

def Scan.Keeps (s : Source) (line column : Nat) (upper : Stack) (text : Text) : Scan → Prop
  | .found stop => ∃ u v, text = u ++ '>' :: v ∧ stop = column + u.length + 1 ∧
      Crosses (firm upper) (cellsOf line column u) [] ∧ Counts s ⟨line, column + u.length⟩
  | .broken => True
  | .unfinished stack => ∃ upper', stack = upper' ++ [angle] ∧
      Crosses (firm upper) (cellsOf line column text) (firm upper')

theorem scan_keeps {s : Source} {line column : Nat} {before text : Text} (hdivided : Divided s line column before text)
    (upper : Stack) :
    (scan (upper ++ [angle]) before column text).Keeps s line column upper text := by
  induction text generalizing upper before column with
  | nil => exact ⟨upper, rfl, .nothing _⟩
  | cons c text ih =>
    have hkeeps := effect_keeps upper before c
    rw [scan]
    cases he : effect before c (upper ++ [angle]) with
    | complete =>
      rw [he] at hkeeps
      obtain ⟨rfl, rfl, hcounts⟩ := hkeeps
      exact ⟨[], text, rfl, rfl, .nothing [], hdivided.counts_iff.mpr hcounts⟩
    | broken => trivial
    | proceed stack =>
      rw [he] at hkeeps
      obtain ⟨upper', rfl, hs, hc⟩ := hkeeps
      have hrest := ih hdivided.next upper'
      simp only
      cases hscan : scan (upper' ++ [angle]) (c :: before) (column + 1) text with
      | found stop =>
        rw [hscan] at hrest
        obtain ⟨u, v, rfl, rfl, hcross, hcounts⟩ := hrest
        have hlength : column + 1 + u.length = column + (c :: u).length := by
          simp only [List.length_cons]
          omega
        rw [hlength] at hcounts
        exact ⟨c :: u, v, rfl, by rw [hlength], .cell hs hc hcross, hcounts⟩
      | broken => trivial
      | unfinished stack =>
        rw [hscan] at hrest
        obtain ⟨upper'', rfl, hcross⟩ := hrest
        exact ⟨upper'', rfl, .cell hs hc hcross⟩

def Reached (s : Source) (stack : Stack) (cells : List Cell) (q : Place) : Prop :=
  ∃ m r v, cells = m ++ (r, '>') :: v ∧ q = ⟨r.line, r.column + 1⟩ ∧ Crosses stack m [] ∧ Counts s r

theorem Reached.append {s : Source} {stack mid : Stack} {cells cells' : List Cell} {q : Place}
    (hcross : Crosses stack cells mid) (h : Reached s mid cells' q) : Reached s stack (cells ++ cells') q := by
  obtain ⟨m, r, v, rfl, hq, hm, hcounts⟩ := h
  exact ⟨cells ++ m, r, v, by simp, hq, hcross.append hm, hcounts⟩

/-- A bracket found by the scan of a line is reached, whatever is to be read after the line. -/
theorem Scan.Keeps.reached {s : Source} {line column : Nat} {upper : Stack} {text : Text} {stop : Nat}
    (h : Scan.Keeps s line column upper text (.found stop)) (rest : List Cell) :
    Reached s (firm upper) (cellsOf line column text ++ rest) ⟨line, stop⟩ := by
  obtain ⟨u, v, rfl, rfl, hcross, hcounts⟩ := h
  refine ⟨cellsOf line column u, ⟨line, column + u.length⟩, cellsOf line (column + u.length + 1) v ++ rest, ?_,
    rfl, hcross, hcounts⟩
  simp [cellsOf_append, cellsOf]

theorem closeBelow_reached {s : Source} {count line : Nat} {text : Text} {upper : Stack} {q : Place}
    (h : (closeBelow s count line text (upper ++ [angle])).place = some q) :
    Reached s (firm upper) (cellsFrom s (line + 1) count) q := by
  induction count generalizing line text upper with
  | zero => cases h
  | succ count ih =>
    rw [closeBelow, if_neg (by simp)] at h
    simp only at h
    have hkeeps := scan_keeps (.start s (line + 1)) upper
    split at h
    · rename_i stop hscan
      cases h
      rw [hscan] at hkeeps
      exact hkeeps.reached _
    · cases h
    · rename_i stack hscan
      rw [hscan] at hkeeps
      obtain ⟨upper', rfl, hcross⟩ := hkeeps
      exact .append hcross (ih h)

/-- An angle bracket that is no second sign of a shift and belongs to no name of an operator is put on
the stack. -/
theorem scanFrom_angle {s : Source} {p : Place} (hp : (s.elided p.line)[p.column]? = some '<')
    (hshift : ¬ Follows s p '<') (hname : ¬ NamesOperator ((s.elided p.line).take p.column)) :
    ∃ before, Divided s p.line (p.column + 1) before ((s.elided p.line).drop (p.column + 1)) ∧
      scanFrom [] (s.elided p.line) p.column
        = scan ([] ++ [angle]) before (p.column + 1) ((s.elided p.line).drop (p.column + 1)) := by
  obtain ⟨hlt, hc⟩ := List.getElem?_eq_some_iff.mp hp
  have hopen : effect ((s.elided p.line).take p.column).reverse '<' [] = .proceed ([] ++ [angle]) := by
    rw [follows_iff (Nat.le_of_lt hlt)] at hshift
    rw [← endsInOperator_iff] at hname
    show openAngle _ [] = _
    unfold openAngle
    rw [if_neg (by simpa using hshift), if_neg hname]
    rfl
  refine ⟨'<' :: ((s.elided p.line).take p.column).reverse, ⟨?_, ?_⟩, ?_⟩
  · have htake := List.take_succ_eq_append_getElem hlt
    rw [hc] at htake
    rw [List.reverse_cons, List.reverse_reverse, ← htake, List.take_append_drop]
  · simp [Nat.min_eq_left (Nat.le_of_lt hlt)]
  · rw [scanFrom, List.drop_eq_getElem_cons hlt, hc, scan]
    simp only [hopen]

theorem findClose_reached {s : Source} {p q : Place} (hp : (s.elided p.line)[p.column]? = some '<')
    (hshift : ¬ Follows s p '<') (hname : ¬ NamesOperator ((s.elided p.line).take p.column))
    (h : (findClose s p.line p.column).place = some q) :
    Reached s [] (ahead s ⟨p.line, p.column + 1⟩) q := by
  obtain ⟨before, hdivided, hscan⟩ := scanFrom_angle hp hshift hname
  have hkeeps := scan_keeps hdivided []
  unfold findClose at h
  simp only [hscan] at h
  split at h
  · split at h
    · rename_i stop hfound
      cases h
      rw [hfound] at hkeeps
      exact hkeeps.reached _
    · cases h
    · rename_i stack hunfinished
      rw [hunfinished] at hkeeps
      obtain ⟨upper', rfl, hcross⟩ := hkeeps
      exact .append hcross (closeBelow_reached h)
  · cases h

end StyleCheck.Bracket
