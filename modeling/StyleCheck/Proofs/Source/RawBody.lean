/-
  StyleCheck.Proofs.Source.RawBody — what stands in a raw string is not seen.

  A raw string stands at a place: lines above it, a text before and after it, lines below (`Place`). Its body
  is on one line, or begins on one line and ends on a later one (`Body`). `Place.lines` are the lines of the
  whole.

  1. Where an opener is found is decided by the text up to its bracket (`opener?_bracket`). So the body can
     hold anything that looks like an opener, a quote or a comment.
  2. When the opener is reached, the pass is outside of any raw string and has something in place of what
     stands before on the line: raw strings that end or lie there have been emptied (`Passed`).
  3. From there the emptied lines can be told (`emptyFrom_inline`, `emptyFrom_spanning`): they show how many
     lines the body has and the blanks before its last line (`remnant`), and nothing else of it. Hence
     `raw_string_bodies_are_invisible`.
-/

import Mathlib.Data.List.Find
import StyleCheck.Proofs.Source.Blanking
import StyleCheck.Proofs.Text.Cut

namespace StyleCheck.RawString

def opening (mark delimiter : Text) : Text := mark ++ delimiter ++ ['(']

inductive Body where
  | inline (text : Text)
  | spanning (first : Text) (between : List Text) (last : Text)

namespace Body

def lines (start finish : Text) : Body → List Text
  | inline text => [start ++ (text ++ finish)]
  | spanning first between last => (start ++ first) :: (between ++ [last ++ finish])

def opened (finish : Text) : Body → Text
  | inline text => text ++ finish
  | spanning first _ _ => first

def EndsWith (close : Text) : Body → Prop
  | inline text => Text.Ends close text
  | spanning first between last =>
    ¬ close <:+: first ∧ (∀ line ∈ between, ¬ close <:+: line) ∧ Text.Ends close last

instance (close : Text) : (body : Body) → Decidable (body.EndsWith close)
  | inline text => inferInstanceAs (Decidable (Text.Ends close text))
  | spanning first between last =>
    inferInstanceAs (Decidable (¬ close <:+: first ∧ (∀ line ∈ between, ¬ close <:+: line) ∧ Text.Ends close last))

/-- The blanks at the beginning of the line on which the raw string ends, if it began on another one. -/
def margin (finish : Text) : Body → Option Text
  | inline _ => none
  | spanning _ _ last => some ((last ++ finish).takeWhile Text.isBlank)

end Body

structure Place where
  above : List Text
  /-- The text before it on its first line. -/
  front : Text
  mark : Text
  delimiter : Text
  /-- The text after it on its last line. -/
  after : Text
  below : List Text

def Place.lines (p : Place) (body : Body) : List Text :=
  p.above ++ (body.lines (p.front ++ opening p.mark p.delimiter) (closing p.delimiter ++ p.after) ++ p.below)

def pendingAfter (pending : Option Text) : List Text → Option Text
  | [] => pending
  | line :: rest => pendingAfter (emptyLine pending line).2 rest

/-- With `pending` at the beginning of a line, no raw string is open after `front`, and `before` has taken its
place. -/
inductive Passed : (pending : Option Text) → (front before : Text) → Prop where
  | outside (front : Text) : Passed none front front
  /-- The raw string from the lines above ends. -/
  | closed {delimiter last front : Text} : Text.Ends (closing delimiter) last →
      Passed (some (closing delimiter)) (last ++ (closing delimiter ++ front))
        (last.takeWhile Text.isBlank ++ (Literal.emptyString ++ front))
  /-- A raw string begins and ends. -/
  | emptied {pending : Option Text} {front before mark delimiter text after : Text} :
      Passed pending front (before ++ (opening mark delimiter ++ (text ++ (closing delimiter ++ after)))) →
      opener? (before ++ opening mark delimiter) = some ⟨before, delimiter, []⟩ →
      lineComment.opens before = false → Text.Ends (closing delimiter) text →
      Passed pending front (before ++ (Literal.emptyString ++ after))

/-- The opener of the raw string at this place is the next one to be found after `before`, and it is not in a
line comment. -/
structure Place.Recognised (p : Place) (before : Text) (body : Body) : Prop where
  passed : Passed (pendingAfter none p.above) p.front before
  opener : opener? (before ++ (opening p.mark p.delimiter ++ body.opened (closing p.delimiter ++ p.after))) =
    some ⟨before, p.delimiter, body.opened (closing p.delimiter ++ p.after)⟩
  code : lineComment.opens before = false

/-! ## Openers -/

theorem closing_ne_nil (delimiter : Text) : closing delimiter ≠ [] := List.cons_ne_nil _ _

theorem isPrefixOf_bracket {mark : Text} (h : '(' ∉ mark) (front t : Text) :
    mark.isPrefixOf (front ++ '(' :: t) = mark.isPrefixOf (front ++ ['(']) := by
  induction mark generalizing front with
  | nil => simp [List.isPrefixOf]
  | cons c mark ih =>
    rw [List.mem_cons, not_or] at h
    cases front with
    | nil =>
      have hc : (c == '(') = false := by simpa using Ne.symm h.1
      simp [List.isPrefixOf, hc]
    | cons d front => simp [List.isPrefixOf, ih h.2 front]

/-- A mark found before a bracket lies before it. -/
theorem length_le_of_isPrefixOf {mark front : Text} (h : '(' ∉ mark) (hpre : mark.isPrefixOf (front ++ ['(']) = true) :
    mark.length ≤ front.length := by
  have hprefix := List.isPrefixOf_iff_prefix.mp hpre
  rcases List.prefix_concat_iff.mp hprefix with rfl | hshort
  · exact absurd (List.mem_append_right front (List.mem_singleton_self '(')) h
  · exact hshort.length_le

theorem openerAt?_bracket (front t : Text) :
    openerAt? (front ++ '(' :: t) = (openerAt? (front ++ ['('])).map fun found => (found.1, found.2 ++ t) := by
  have hmarks : ∀ mark ∈ marks, '(' ∉ mark := by decide
  have hstop : isDelimiterChar '(' = false := by decide
  have hfind : (marks.find? fun mark => mark.isPrefixOf (front ++ '(' :: t))
      = marks.find? fun mark => mark.isPrefixOf (front ++ ['(']) :=
    List.find?_congr fun mark hmark => isPrefixOf_bracket (hmarks mark hmark) front t
  unfold openerAt?
  rw [hfind]
  cases hmark : marks.find? fun mark => mark.isPrefixOf (front ++ ['(']) with
  | none => rfl
  | some mark =>
    have hlength := length_le_of_isPrefixOf (hmarks mark (List.mem_of_find?_eq_some hmark))
      (by simpa using List.find?_some hmark)
    simp only
    rw [List.drop_append_of_le_length hlength, List.drop_append_of_le_length hlength,
      Text.dropWhile_append_stop hstop, Text.dropWhile_append_stop hstop, Text.takeWhile_append_stop hstop,
      Text.takeWhile_append_stop hstop]
    rcases (front.drop mark.length).dropWhile isDelimiterChar with _ | ⟨c, rest⟩
    · rfl
    · by_cases hc : c = '('
      · subst hc
        simp
      · simp [hc]

/-- Whether an opener is found at a bracket does not depend on what follows the bracket. -/
theorem findOpener?_bracket {passed front before delimiter rest : Text}
    (h : findOpener? passed (front ++ '(' :: rest) = some ⟨before, delimiter, rest⟩) (rest' : Text) :
    findOpener? passed (front ++ '(' :: rest') = some ⟨before, delimiter, rest'⟩ := by
  have hlook : ∀ (front t : Text) (inWord : Bool),
      (if inWord = true then none else openerAt? (front ++ '(' :: t))
        = (if inWord = true then none else openerAt? (front ++ ['('])).map fun found => (found.1, found.2 ++ t) := by
    intro front t inWord
    cases inWord with
    | true => rfl
    | false => exact openerAt?_bracket front t
  have hfound : ∀ {x d r : Text}, some (Opener.mk x d (r ++ rest)) = some ⟨before, delimiter, rest⟩ →
      some (Opener.mk x d (r ++ rest')) = some ⟨before, delimiter, rest'⟩ := by
    intro x d r heq
    simp only [Option.some.injEq, Opener.mk.injEq] at heq ⊢
    obtain ⟨hbefore, hdelimiter, hrest⟩ := heq
    exact ⟨hbefore, hdelimiter, by simpa using hrest⟩
  induction front generalizing passed with
  | nil =>
    rw [findOpener?.eq_def] at h ⊢
    simp only [hlook [] rest, hlook [] rest'] at h ⊢
    cases hat : if (passed.head?.map Text.isWord).getD false = true then none else openerAt? ([] ++ ['(']) with
    | none =>
      -- an opener after the bracket would have less after it
      rw [hat] at h
      have := findOpener?_length h
      simp only [List.length_cons] at this
      omega
    | some found =>
      rw [hat] at h
      exact hfound h
  | cons c front ih =>
    rw [findOpener?.eq_def] at h ⊢
    simp only [hlook (c :: front) rest, hlook (c :: front) rest'] at h ⊢
    cases hat : if (passed.head?.map Text.isWord).getD false = true then none else openerAt? (c :: front ++ ['(']) with
    | none =>
      rw [hat] at h
      exact ih h
    | some found =>
      rw [hat] at h
      exact hfound h

theorem opener?_of_notMem {line : Text} (h : '\n' ∉ line) : opener? line = findOpener? [] line := by
  rw [opener?, Text.restOfLine?_of_notMem h]
  rfl

theorem opener?_bracket {before mark delimiter rest : Text}
    (h : opener? (before ++ (opening mark delimiter ++ rest)) = some ⟨before, delimiter, rest⟩)
    (hline : '\n' ∉ before ++ (opening mark delimiter ++ rest)) {rest' : Text}
    (hline' : '\n' ∉ before ++ (opening mark delimiter ++ rest')) :
    opener? (before ++ (opening mark delimiter ++ rest')) = some ⟨before, delimiter, rest'⟩ := by
  have hshape : ∀ t, before ++ (opening mark delimiter ++ t) = before ++ (mark ++ delimiter) ++ '(' :: t := by
    simp [opening]
  rw [opener?_of_notMem hline, hshape] at h
  rw [opener?_of_notMem hline', hshape]
  exact findOpener?_bracket h rest'

/-! ## One line -/

section

variable {line : Text} {o : Opener} (ho : opener? line = some o) (hcode : lineComment.opens o.before = false)

include ho hcode

theorem emptyOpeners_of_closed {i : Nat} (hi : Text.locate? (closing o.delimiter) o.body = some i) :
    emptyOpeners line =
      emptyOpeners (o.before ++ Literal.emptyString ++ o.body.drop (i + (closing o.delimiter).length)) := by
  rw [emptyOpeners]
  split
  · rename_i hnone
    rw [ho] at hnone
    cases hnone
  · rename_i o' hsome
    rw [ho] at hsome
    cases hsome
    rw [hcode, if_neg Bool.false_ne_true]
    split
    · rename_i j hj
      rw [hi] at hj
      cases hj
      rfl
    · rename_i hj
      rw [hi] at hj
      cases hj

theorem emptyOpeners_of_open (hi : Text.locate? (closing o.delimiter) o.body = none) :
    emptyOpeners line = (o.before ++ Literal.emptyString, some (closing o.delimiter)) := by
  rw [emptyOpeners]
  split
  · rename_i hnone
    rw [ho] at hnone
    cases hnone
  · rename_i o' hsome
    rw [ho] at hsome
    cases hsome
    rw [hcode, if_neg Bool.false_ne_true]
    split
    · rename_i j hj
      rw [hi] at hj
      cases hj
    · rfl

end

theorem emptyOpeners_inline {before mark delimiter text after : Text}
    (ho : opener? (before ++ (opening mark delimiter ++ (text ++ (closing delimiter ++ after)))) =
      some ⟨before, delimiter, text ++ (closing delimiter ++ after)⟩)
    (hcode : lineComment.opens before = false) (hends : Text.Ends (closing delimiter) text) :
    emptyOpeners (before ++ (opening mark delimiter ++ (text ++ (closing delimiter ++ after)))) =
      emptyOpeners (before ++ (Literal.emptyString ++ after)) := by
  rw [emptyOpeners_of_closed ho hcode (Text.locate?_of_ends (closing_ne_nil delimiter) hends after),
    Text.drop_append_append, List.append_assoc]

theorem margin_closing (delimiter last rest : Text) :
    (last ++ (closing delimiter ++ rest)).takeWhile Text.isBlank = last.takeWhile Text.isBlank :=
  Text.takeWhile_append_stop (by decide) last (delimiter ++ ['"'] ++ rest)

/-- The line on which a raw string from above ends. -/
theorem emptyLine_closed {delimiter last : Text} (hends : Text.Ends (closing delimiter) last) (rest : Text) :
    emptyLine (some (closing delimiter)) (last ++ (closing delimiter ++ rest)) =
      emptyOpeners (last.takeWhile Text.isBlank ++ (Literal.emptyString ++ rest)) := by
  unfold emptyLine
  simp only [Text.locate?_of_ends (closing_ne_nil delimiter) hends rest]
  rw [Text.drop_append_append, margin_closing, List.append_assoc]

theorem Passed.notMem {pending : Option Text} {front before : Text} (h : Passed pending front before)
    (hfront : '\n' ∉ front) : '\n' ∉ before := by
  induction h with
  | outside front => exact hfront
  | @closed delimiter last front _ =>
    intro hmem
    simp only [Literal.emptyString, List.mem_append, List.mem_cons, List.not_mem_nil, or_false] at hmem hfront
    rcases hmem with hmem | hmem | hmem
    · exact hfront (.inl ((List.takeWhile_sublist _).mem hmem))
    · exact absurd hmem (by decide)
    · exact hfront (.inr (.inr hmem))
  | emptied _ _ _ _ ih =>
    intro hmem
    have hall := ih hfront
    simp only [Literal.emptyString, List.mem_append, List.mem_cons, List.not_mem_nil, or_false] at hmem hall
    rcases hmem with hmem | hmem | hmem
    · exact hall (.inl hmem)
    · exact absurd hmem (by decide)
    · exact hall (.inr (.inr (.inr (.inr hmem))))

/-- What has been passed is replaced, and the search goes on in the rest of the line. -/
theorem Passed.emptyLine {pending : Option Text} {front before : Text} (h : Passed pending front before) {rest : Text}
    (hline : '\n' ∉ front ++ rest) : emptyLine pending (front ++ rest) = emptyOpeners (before ++ rest) := by
  rw [List.mem_append, not_or] at hline
  induction h with
  | outside front => rfl
  | closed hends => simpa only [List.append_assoc] using emptyLine_closed hends _
  | @emptied pending front before mark delimiter text after hpassed hopener hcode hends ih =>
    have hclean := hpassed.notMem hline.1
    simp only [List.mem_append, not_or] at hclean
    rw [← List.append_nil (opening mark delimiter)] at hopener
    have hall : '\n' ∉ before ++ (opening mark delimiter ++ (text ++ (closing delimiter ++ (after ++ rest)))) := by
      simp [hclean, hline.2]
    have hfound := opener?_bracket hopener (by simp [hclean.1, hclean.2.1]) hall
    have hnext := emptyOpeners_inline hfound hcode hends
    rw [ih hline]
    simpa only [List.append_assoc] using hnext

/-! ## All lines -/

theorem emptyFrom_append (pending : Option Text) (lines more : List Text) :
    emptyFrom pending (lines ++ more) = emptyFrom pending lines ++ emptyFrom (pendingAfter pending lines) more := by
  induction lines generalizing pending with
  | nil => rfl
  | cons line lines ih => exact congrArg ((emptyLine pending line).1 :: ·) (ih _)

/-- Lines within a raw string become empty strings. -/
theorem emptyFrom_between {close : Text} (hclose : close ≠ []) {between : List Text}
    (h : ∀ line ∈ between, ¬ close <:+: line) (rest : List Text) :
    emptyFrom (some close) (between ++ rest) =
      List.replicate between.length Literal.emptyString ++ emptyFrom (some close) rest := by
  induction between with
  | nil => rfl
  | cons line between ih =>
    obtain ⟨hline, hothers⟩ := List.forall_mem_cons.mp h
    have hempty : emptyLine (some close) line = (Literal.emptyString, some close) := by
      unfold emptyLine
      simp only [Text.locate?_eq_none_of_not_isInfix hclose hline]
    rw [List.cons_append, emptyFrom, hempty]
    exact congrArg (Literal.emptyString :: ·) (ih hothers)

def resumed (text : Text) (below : List Text) : List Text :=
  (emptyOpeners text).1 :: emptyFrom (emptyOpeners text).2 below

section

variable {pending : Option Text} {front before mark delimiter after : Text} {below : List Text}
  (hpassed : Passed pending front before) (hcode : lineComment.opens before = false)

include hpassed hcode

theorem emptyFrom_inline {text : Text}
    (hopener : opener? (before ++ (opening mark delimiter ++ (text ++ (closing delimiter ++ after)))) =
      some ⟨before, delimiter, text ++ (closing delimiter ++ after)⟩)
    (hends : Text.Ends (closing delimiter) text)
    (hline : '\n' ∉ front ++ (opening mark delimiter ++ (text ++ (closing delimiter ++ after)))) :
    emptyFrom pending
        ((Body.inline text).lines (front ++ opening mark delimiter) (closing delimiter ++ after) ++ below) =
      resumed (before ++ (Literal.emptyString ++ after)) below := by
  rw [Body.lines, List.singleton_append, emptyFrom, List.append_assoc, hpassed.emptyLine hline,
    emptyOpeners_inline hopener hcode hends]
  rfl

theorem emptyFrom_spanning {first last : Text} {between : List Text}
    (hopener : opener? (before ++ (opening mark delimiter ++ first)) = some ⟨before, delimiter, first⟩)
    (hends : (Body.spanning first between last).EndsWith (closing delimiter))
    (hline : '\n' ∉ front ++ (opening mark delimiter ++ first)) :
    emptyFrom pending ((Body.spanning first between last).lines (front ++ opening mark delimiter)
        (closing delimiter ++ after) ++ below) =
      (before ++ Literal.emptyString) :: (List.replicate between.length Literal.emptyString ++
        resumed (last.takeWhile Text.isBlank ++ (Literal.emptyString ++ after)) below) := by
  obtain ⟨hfirst, hbetween, hlast⟩ := hends
  have hopen := emptyOpeners_of_open hopener hcode
    (Text.locate?_eq_none_of_not_isInfix (closing_ne_nil delimiter) hfirst)
  rw [Body.lines, List.cons_append, emptyFrom, List.append_assoc, hpassed.emptyLine hline, hopen]
  simp only
  rw [List.append_assoc, emptyFrom_between (closing_ne_nil delimiter) hbetween, List.singleton_append, emptyFrom,
    emptyLine_closed hlast]
  rfl

end

theorem Body.first_mem (start finish : Text) (body : Body) : start ++ body.opened finish ∈ body.lines start finish := by
  cases body <;> exact List.mem_cons_self

def remnant (before after : Text) (below : List Text) (count : Nat) : (margin : Option Text) → List Text
  | none => resumed (before ++ (Literal.emptyString ++ after)) below
  | some margin =>
    (before ++ Literal.emptyString) :: (List.replicate (count - 2) Literal.emptyString ++
      resumed (margin ++ (Literal.emptyString ++ after)) below)

namespace Place.Recognised

variable {p : Place} {before : Text} {body : Body} (h : p.Recognised before body)

include h

/-- On the first line of a raw string no line feed stands, nor in what has taken its place. -/
theorem first_notMem {b : Body} (hlines : ∀ line ∈ p.lines b, '\n' ∉ line) :
    '\n' ∉ p.front ++ (opening p.mark p.delimiter ++ b.opened (closing p.delimiter ++ p.after)) ∧
    '\n' ∉ before ++ (opening p.mark p.delimiter ++ b.opened (closing p.delimiter ++ p.after)) := by
  have hmem := b.first_mem (p.front ++ opening p.mark p.delimiter) (closing p.delimiter ++ p.after)
  have hfirst := hlines _ (List.mem_append_right _ (List.mem_append_left _ hmem))
  rw [List.append_assoc] at hfirst
  refine ⟨hfirst, ?_⟩
  rw [List.mem_append, not_or] at hfirst ⊢
  exact ⟨h.passed.notMem hfirst.1, hfirst.2⟩

/-- The opener is recognised whatever the body is. -/
theorem other {body' : Body} (hlines : ∀ line ∈ p.lines body, '\n' ∉ line)
    (hlines' : ∀ line ∈ p.lines body', '\n' ∉ line) : p.Recognised before body' where
  passed := h.passed
  opener := opener?_bracket h.opener (h.first_notMem hlines).2 (h.first_notMem hlines').2
  code := h.code

theorem emptyAll_lines (hlines : ∀ line ∈ p.lines body, '\n' ∉ line) (hends : body.EndsWith (closing p.delimiter)) :
    emptyAll (p.lines body) = emptyFrom none p.above ++
      remnant before p.after p.below
        (body.lines (p.front ++ opening p.mark p.delimiter) (closing p.delimiter ++ p.after)).length
        (body.margin (closing p.delimiter ++ p.after)) := by
  have hline := (h.first_notMem hlines).1
  obtain ⟨hpassed, hopener, hcode⟩ := h
  rw [emptyAll, lines, emptyFrom_append]
  cases body with
  | inline text => exact congrArg _ (emptyFrom_inline hpassed hcode hopener hends hline)
  | spanning first between last =>
    simp only [Body.opened] at hopener hline
    rw [emptyFrom_spanning hpassed hcode hopener hends hline, Body.margin, margin_closing]
    simp [remnant, Body.lines]

end Place.Recognised

/-- Lines that differ only in what stands in one raw string become the same lines when raw strings are emptied.
The raw string may be anywhere: its opener is the first one found where the pass stands outside of raw strings,
its closing text first occurs at its end, and if it goes over several lines, the line on which it ends begins
with the same blanks. -/
theorem raw_string_bodies_are_invisible (p : Place) (before : Text) (body body' : Body)
    (hlines : ∀ line ∈ p.lines body ++ p.lines body', '\n' ∉ line)
    (hlength : (p.lines body).length = (p.lines body').length) (hrecognised : p.Recognised before body)
    (hends : body.EndsWith (closing p.delimiter)) (hends' : body'.EndsWith (closing p.delimiter))
    (hmargin : body.margin (closing p.delimiter ++ p.after) = body'.margin (closing p.delimiter ++ p.after)) :
    emptyAll (p.lines body) = emptyAll (p.lines body') ∧ (emptyAll (p.lines body)).length = (p.lines body).length := by
  obtain ⟨hhere, hthere⟩ := List.forall_mem_append.mp hlines
  have hcount : (body.lines (p.front ++ opening p.mark p.delimiter) (closing p.delimiter ++ p.after)).length =
      (body'.lines (p.front ++ opening p.mark p.delimiter) (closing p.delimiter ++ p.after)).length := by
    simp only [Place.lines, List.length_append] at hlength
    omega
  refine ⟨?_, emptyFrom_length none _⟩
  rw [hrecognised.emptyAll_lines hhere hends, (hrecognised.other hhere hthere).emptyAll_lines hthere hends', hcount,
    hmargin]

/-- After another raw string on its line; its body holds quotes, comment marks, an opener and the end of a raw
string with another delimiter. -/
theorem raw_string_bodies_are_invisible_lookalikes :
    emptyAll ["f(R\"(1)\", R\"x(say \"hi\" // )y\" R\"y(".toList, "/* )\"".toList, "  )x)x\"); // R\"(".toList,
        "int n;".toList] =
      emptyAll ["f(R\"(1)\", R\"x(".toList, "".toList, "  */)x\"); // R\"(".toList, "int n;".toList] := by
  have hpassed : Passed none "f(R\"(1)\", ".toList "f(\"\", ".toList :=
    @Passed.emptied none _ "f(".toList "R\"".toList [] "1".toList ", ".toList (.outside _) (by decide +kernel)
      (by decide +kernel) (by decide +kernel)
  have hinvisible := raw_string_bodies_are_invisible
    ⟨[], "f(R\"(1)\", ".toList, "R\"".toList, "x".toList, "); // R\"(".toList, ["int n;".toList]⟩ "f(\"\", ".toList
    (.spanning "say \"hi\" // )y\" R\"y(".toList ["/* )\"".toList] "  )x".toList)
    (.spanning [] [[]] "  */".toList) (by decide +kernel) rfl ⟨hpassed, by decide +kernel, by decide +kernel⟩
    (by decide +kernel) (by decide +kernel) (by decide +kernel)
  simpa [Place.lines, Body.lines, opening, closing] using hinvisible.1

end StyleCheck.RawString
