/-
  StyleCheck.Proofs.Source.RawSettled — emptying raw strings a second time changes nothing.

  The search for raw strings on a line goes in rounds (`turn`). A round empties a raw string that begins and
  ends on the line, and the search goes on in what is left. The last round finds no opener, or one in a line
  comment, or one whose raw string is not closed on the line.

  1. Every round but the last leaves a shorter line, so the search ends (`search_eq`).
  2. On what the last round leaves no raw string opens (`Settled`, `turn_settled`). This needs an argument where
     the line is cut off at an opener and an empty string written in its place: read as an opener again, the
     new text would need a bracket, and that one would stand before the first opener (`findOpener?_before`).
  3. So every line is settled when its raw strings have been emptied, whatever was open when it began
     (`emptyFrom_settled`), and settled lines are left as they are (`emptyFrom_of_settled`). Hence
     `emptying_raw_strings_is_idempotent`.
-/

import StyleCheck.Proofs.Source.RawBody

namespace StyleCheck.RawString

/-! ## Rounds -/

inductive Turn where
  /-- A raw string has been emptied, and the search goes on in `line`. -/
  | again (line : Text)
  /-- The search is over; `pending` closes the raw string that is still open. -/
  | last (line : Text) (pending : Option Text)

def turn (line : Text) : Turn :=
  match opener? line with
  | none => .last line none
  | some o =>
    if lineComment.opens o.before then .last line none
    else
      match Text.locate? (closing o.delimiter) o.body with
      | some i => .again (o.before ++ Literal.emptyString ++ o.body.drop (i + (closing o.delimiter).length))
      | none => .last (o.before ++ Literal.emptyString) (some (closing o.delimiter))

def search (rounds : Nat) (line : Text) : Option (Text × Option Text) :=
  match rounds with
  | 0 => none
  | rounds + 1 =>
    match turn line with
    | .again next => search rounds next
    | .last left pending => some (left, pending)

/-- No raw string opens on the line: there is no opener, or the first one is in a line comment. -/
def Settled (line : Text) : Prop := ∀ o, opener? line = some o → lineComment.opens o.before = true

/-- The three ways in which a round ends. -/
theorem turn_cases (line : Text) :
    (Settled line ∧ turn line = .last line none) ∨
    ∃ o, opener? line = some o ∧ lineComment.opens o.before = false ∧
      ((∃ i, Text.locate? (closing o.delimiter) o.body = some i ∧
          turn line = .again (o.before ++ Literal.emptyString ++ o.body.drop (i + (closing o.delimiter).length))) ∨
       (Text.locate? (closing o.delimiter) o.body = none ∧
          turn line = .last (o.before ++ Literal.emptyString) (some (closing o.delimiter)))) := by
  unfold turn
  cases ho : opener? line with
  | none =>
    refine .inl ⟨?_, rfl⟩
    intro o hsome
    rw [ho] at hsome
    cases hsome
  | some o =>
    cases hcode : lineComment.opens o.before with
    | true =>
      refine .inl ⟨?_, by simp only [hcode, if_true]⟩
      intro o' hsome
      rw [ho] at hsome
      cases hsome
      exact hcode
    | false =>
      refine .inr ⟨o, rfl, hcode, ?_⟩
      cases hi : Text.locate? (closing o.delimiter) o.body with
      | some i => exact .inl ⟨i, rfl, by simp [hcode, hi]⟩
      | none => exact .inr ⟨rfl, by simp [hcode, hi]⟩

theorem turn_length {line next : Text} (h : turn line = .again next) : next.length < line.length := by
  rcases turn_cases line with ⟨-, hlast⟩ | ⟨o, ho, -, ⟨i, hi, hnext⟩ | ⟨-, hlast⟩⟩
  · rw [hlast] at h
    cases h
  · rw [hnext] at h
    cases h
    have hopener := opener?_length ho
    have hclosing := Text.locate?_length hi
    have hlong : 2 ≤ (closing o.delimiter).length := by simp [closing]
    simp only [List.length_append, List.length_drop, Literal.emptyString, List.length_cons, List.length_nil]
    omega
  · rw [hlast] at h
    cases h

/-- The raw strings of a line are emptied by one round, and then by the others. -/
theorem emptyOpeners_eq (line : Text) :
    emptyOpeners line = match turn line with
      | .again next => emptyOpeners next
      | .last left pending => (left, pending) := by
  rw [emptyOpeners, turn]
  split
  · rename_i hnone
    simp only [hnone]
  · rename_i o hsome
    simp only [hsome]
    split
    · rfl
    · split
      · rename_i i hi
        simp only [hi]
      · rename_i hi
        simp only [hi]

/-- With as many rounds as there are characters on the line, and one more, the search ends. -/
theorem search_eq {rounds : Nat} {line : Text} (h : line.length < rounds) :
    search rounds line = some (emptyOpeners line) := by
  induction rounds generalizing line with
  | zero => omega
  | succ rounds ih =>
    rw [search, emptyOpeners_eq]
    split
    · rename_i next hnext
      have hless := turn_length hnext
      exact ih (by omega)
    · rfl

/-! ## The text before an opener -/

theorem openerAt?_eq_some {s delimiter body : Text} (h : openerAt? s = some (delimiter, body)) :
    ∃ mark ∈ marks, s = opening mark delimiter ++ body := by
  unfold openerAt? at h
  split at h
  · cases h
  · rename_i mark hmark
    simp only at h
    split at h
    · rename_i after hafter
      cases h
      have hprefix : mark.isPrefixOf s = true := by simpa using List.find?_some hmark
      obtain ⟨rest, rfl⟩ := List.isPrefixOf_iff_prefix.mp hprefix
      rw [List.drop_left] at hafter ⊢
      refine ⟨mark, List.mem_of_find?_eq_some hmark, ?_⟩
      rw [opening, List.append_assoc, List.append_assoc, List.singleton_append, ← hafter,
        List.takeWhile_append_dropWhile]
    · cases h

theorem openerAt?_of_notMem {s : Text} (h : '(' ∉ s) : openerAt? s = none := by
  cases hat : openerAt? s with
  | none => rfl
  | some found =>
    obtain ⟨mark, -, rfl⟩ := openerAt?_eq_some hat
    exact absurd (by simp [opening]) h

/-- An opener with its bracket in `front` is one whatever follows. -/
theorem openerAt?_front {front t : Text} (ht : '(' ∉ t) (h : openerAt? (front ++ t) ≠ none) (t' : Text) :
    openerAt? (front ++ t') ≠ none := by
  obtain ⟨⟨delimiter, body⟩, hfound⟩ := Option.ne_none_iff_exists'.mp h
  obtain ⟨mark, -, hs⟩ := openerAt?_eq_some hfound
  rw [opening, List.append_assoc, List.singleton_append] at hs
  rcases List.append_eq_append_iff.mp hs with ⟨rest, -, rfl⟩ | ⟨rest, rfl, hrest⟩
  · exact absurd (by simp) ht
  · cases rest with
    | nil =>
      rw [List.nil_append] at hrest
      exact absurd (hrest ▸ List.mem_cons_self) ht
    | cons c rest =>
      obtain ⟨rfl, -⟩ := List.cons.inj hrest
      rw [List.append_assoc, List.cons_append, openerAt?_bracket] at h ⊢
      rwa [Ne, Option.map_eq_none_iff] at h ⊢

theorem findOpener?_of_notMem {s : Text} (h : '(' ∉ s) (passed : Text) : findOpener? passed s = none := by
  induction s generalizing passed with
  | nil =>
    rw [findOpener?.eq_def, openerAt?_of_notMem h]
    simp
  | cons c s ih =>
    rw [findOpener?.eq_def, openerAt?_of_notMem h]
    simp only [ite_self]
    exact ih (fun hmem => h (List.mem_cons_of_mem c hmem)) _

/-- What stands before the first opener holds no opener, nor does it with a text without brackets after it. -/
theorem findOpener?_before {passed s : Text} {o : Opener} (h : findOpener? passed s = some o) :
    ∃ front, front <+: s ∧ o.before = passed.reverse ++ front ∧
      ∀ t, '(' ∉ t → findOpener? passed (front ++ t) = none := by
  fun_induction findOpener? passed s with
  | case1 s passed =>
    cases h
    exact ⟨[], List.nil_prefix, by simp, fun t ht => findOpener?_of_notMem ht _⟩
  | case2 => cases h
  | case3 passed inWord c cs hnone ih =>
    obtain ⟨front, ⟨rest, rfl⟩, hbefore, hfree⟩ := ih h
    refine ⟨c :: front, ⟨rest, rfl⟩, by simp [hbefore], ?_⟩
    intro t ht
    have hhere : (if inWord = true then none else openerAt? (c :: (front ++ t))) = none := by
      by_cases hword : inWord = true
      · rw [if_pos hword]
      · rw [if_neg hword] at hnone ⊢
        -- an opener here would have its bracket before `t`, and so be one on the line as it was
        by_contra hat
        have hlong : openerAt? (c :: front ++ rest) ≠ none := openerAt?_front ht hat rest
        exact hlong hnone
    rw [List.cons_append, findOpener?.eq_def]
    simp only
    rw [hhere]
    exact hfree t ht

theorem notMem_of_restOfLine? {s body : Text} (h : Text.restOfLine? s = some body) : '\n' ∉ body := by
  have hbody : body = s.takeWhile (· != '\n') := by
    unfold Text.restOfLine? at h
    simp only at h
    split at h
    · exact (Option.some.inj h).symm
    · exact (Option.some.inj h).symm
    · cases h
  intro hmem
  rw [hbody] at hmem
  simpa using List.all_eq_true.mp List.all_takeWhile '\n' hmem

/-- A line that ends where a raw string began has no opener. -/
theorem opener?_before {line : Text} {o : Opener} (h : opener? line = some o) :
    opener? (o.before ++ Literal.emptyString) = none := by
  obtain ⟨body, hbody, hfound⟩ := Option.bind_eq_some_iff.mp h
  obtain ⟨front, hstart, hbefore, hfree⟩ := findOpener?_before hfound
  rw [List.reverse_nil, List.nil_append] at hbefore
  have hfront : '\n' ∉ front := fun hmem => notMem_of_restOfLine? hbody (hstart.subset hmem)
  have hline : '\n' ∉ front ++ Literal.emptyString := by simp [Literal.emptyString, hfront]
  rw [hbefore, opener?_of_notMem hline]
  exact hfree Literal.emptyString (by decide)

/-! ## Settled lines -/

theorem settled_of_none {line : Text} (h : opener? line = none) : Settled line := by
  intro o ho
  rw [h] at ho
  cases ho

theorem settled_emptyString : Settled Literal.emptyString := by
  refine settled_of_none ?_
  rw [opener?_of_notMem (by decide)]
  exact findOpener?_of_notMem (by decide) []

theorem emptyOpeners_of_settled {line : Text} (h : Settled line) : emptyOpeners line = (line, none) := by
  rw [emptyOpeners]
  split
  · rfl
  · rename_i o ho
    rw [if_pos (h o ho)]

/-- What the last round leaves is settled. -/
theorem turn_settled {line left : Text} {pending : Option Text} (h : turn line = .last left pending) :
    Settled left := by
  rcases turn_cases line with ⟨hsettled, hlast⟩ | ⟨o, ho, -, ⟨i, -, hnext⟩ | ⟨-, hlast⟩⟩
  · rw [hlast] at h
    cases h
    exact hsettled
  · rw [hnext] at h
    cases h
  · rw [hlast] at h
    cases h
    exact settled_of_none (opener?_before ho)

theorem search_settled {rounds : Nat} {line : Text} {result : Text × Option Text}
    (h : search rounds line = some result) : Settled result.1 := by
  induction rounds generalizing line with
  | zero => cases h
  | succ rounds ih =>
    rw [search] at h
    split at h
    · exact ih h
    · rename_i hlast
      cases h
      exact turn_settled hlast

theorem emptyOpeners_settled (line : Text) : Settled (emptyOpeners line).1 :=
  search_settled (search_eq (Nat.lt_succ_self line.length))

theorem emptyLine_settled (pending : Option Text) (line : Text) : Settled (emptyLine pending line).1 := by
  unfold emptyLine
  split
  · exact emptyOpeners_settled line
  · split
    · exact emptyOpeners_settled _
    · exact settled_emptyString

theorem emptyFrom_settled (pending : Option Text) (lines : List Text) :
    ∀ line ∈ emptyFrom pending lines, Settled line := by
  induction lines generalizing pending with
  | nil =>
    intro line hline
    cases hline
  | cons first rest ih => exact List.forall_mem_cons.mpr ⟨emptyLine_settled pending first, ih _⟩

/-- On settled lines no raw string is ever open. -/
theorem emptyFrom_of_settled {lines : List Text} (h : ∀ line ∈ lines, Settled line) : emptyFrom none lines = lines := by
  induction lines with
  | nil => rfl
  | cons first rest ih =>
    obtain ⟨hfirst, hrest⟩ := List.forall_mem_cons.mp h
    have hline : emptyLine none first = (first, none) := emptyOpeners_of_settled hfirst
    rw [emptyFrom, hline]
    exact congrArg (first :: ·) (ih hrest)

/-- When the raw strings of a file have been emptied, no raw string opens on any of its lines, and emptying them
once more changes nothing. The search on a line ends within one round more than the line has characters. -/
theorem emptying_raw_strings_is_idempotent (lines : List Text) :
    emptyAll (emptyAll lines) = emptyAll lines ∧
    (∀ line ∈ emptyAll lines, Settled line) ∧
    ∀ line : Text, search (line.length + 1) line = some (emptyOpeners line) := by
  have hsettled := emptyFrom_settled none lines
  exact ⟨emptyFrom_of_settled hsettled, hsettled, fun line => search_eq (Nat.lt_succ_self line.length)⟩

end StyleCheck.RawString
