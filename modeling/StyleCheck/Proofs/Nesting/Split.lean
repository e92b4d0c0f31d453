/-
  StyleCheck.Proofs.Nesting.Split — a line written on two.

  (1) A curly bracket cuts a line in two for the search for brackets: what stands before it says nothing
      about the signs after it (`scan_after_curly`).
  (2) So when a line is split after a curly bracket, the test for template arguments comes out the same
      at every place after the bracket (`SplitAt.inside_eq`).
  (3) A namespace is opened at the beginning of a line, and something follows the bracket. The line then
      leads to the same outline as the two lines it can be split into
      (`rest_of_line_nests_as_on_its_own`), but for one case. A class after the bracket is tested for
      being a template argument, and the test looks at the line from the column that the name of the
      class has in the text after the bracket, not from the name itself. The theorem asks that this makes
      no difference.
-/

import StyleCheck.Proofs.Bracket.Reading
import StyleCheck.Proofs.Nesting.Outline
import StyleCheck.Proofs.Nesting.Template

namespace StyleCheck

namespace Bracket

/-! ## Signs after a curly bracket -/

theorem isPrefixOf_append_cons {w : Text} {x : Char} (hx : x ∉ w) (t more : Text) :
    w.isPrefixOf (t ++ x :: more) = w.isPrefixOf t := by
  induction w generalizing t with
  | nil => simp
  | cons y w ih =>
    simp only [List.mem_cons, not_or] at hx
    cases t with
    | nil => simp [List.isPrefixOf, Ne.symm hx.1]
    | cons z t => simp [List.isPrefixOf, ih hx.2 t]

theorem endsInOperator_append (before more : Text) : endsInOperator (before ++ '{' :: more) = endsInOperator before := by
  have hdrop : (before ++ '{' :: more).dropWhile Text.isBlank = before.dropWhile Text.isBlank ++ '{' :: more := by
    rw [List.dropWhile_append]
    split
    · rename_i hnil
      rw [List.isEmpty_iff.mp hnil]
      rfl
    · rfl
  have hnot : '{' ∉ "operator".toList.reverse := by decide
  have hword : Text.isWord '{' = false := by decide
  unfold endsInOperator endsInWord
  simp only [hdrop, isPrefixOf_append_cons hnot]
  -- a word that is there leaves the bracket, or what stood before it, as the character before
  by_cases hp : "operator".toList.reverse.isPrefixOf (before.dropWhile Text.isBlank) = true
  · have hlen := (List.isPrefixOf_iff_prefix.mp hp).length_le
    rw [List.length_reverse] at hlen
    rw [List.drop_append_of_le_length hlen]
    cases (before.dropWhile Text.isBlank).drop "operator".toList.length with
    | nil => simp [hword]
    | cons y rest => rfl
  · rw [Bool.eq_false_iff.mpr hp, Bool.false_and, Bool.false_and]

theorem effect_append {before : Text} {c : Char} (h : before ≠ [] ∨ c ≠ '>') (more : Text) (stack : Stack) :
    effect (before ++ '{' :: more) c stack = effect before c stack := by
  have hopen : openAngle (before ++ '{' :: more) stack = openAngle before stack := by
    simp only [openAngle, endsInOperator_append]
    cases before <;> simp
  unfold effect
  split
  · rfl
  · rfl
  · rw [hopen]
    split
    · rfl
    · split
      · -- the sign passes over one character to see the word before it, and that is not the bracket
        rename_i hc
        cases before with
        | nil => simp_all
        | cons b before => simp only [closeAngle, List.cons_append, List.head?_cons, List.drop_one, List.tail_cons,
            endsInOperator_append]
      · rfl

def Scan.shift (w : Nat) : Scan → Scan
  | .found column => .found (w + column)
  | .broken => .broken
  | .unfinished stack => .unfinished stack

theorem scan_after_curly (w : Nat) (more : Text) {before text : Text} (h : before ≠ [] ∨ text.head? ≠ some '>')
    (stack : Stack) (column : Nat) :
    scan stack (before ++ '{' :: more) (w + column) text = (scan stack before column text).shift w := by
  induction text generalizing stack before column with
  | nil => rfl
  | cons c rest ih =>
    rw [scan, scan, effect_append (by simpa using h)]
    split
    · rfl
    · rfl
    · rename_i stack' _
      have hbefore : c :: before ≠ [] := by simp
      exact ih (.inl hbefore) stack' (column + 1)

end Bracket

namespace Nesting

/-! ## A split line -/

/-- Line `k` of `s` is written on two lines in `s'`, the first of which ends in a curly bracket; the lines
below are the same. -/
structure SplitAt (s s' : Source) (k : Nat) (first second : Text) : Prop where
  curly : ∃ ahead, first = ahead ++ ['{']
  within : k < s.size
  size : s'.size = s.size + 1
  joined : s.elided k = first ++ second
  first : s'.elided k = first
  second : s'.elided (k + 1) = second
  below : ∀ n, k < n → s'.elided (n + 1) = s.elided n

theorem elided_eq (s : Source) (n : Nat) : s.elided n = (s.lines.toList.map Line.elided)[n]?.getD [] := by
  rw [Bracket.getElem?_elided]
  split
  · rfl
  · exact Bracket.elided_of_size_le (by omega)

theorem SplitAt.of_lines {s s' : Source} {above below : List Text} {first second : Text}
    (hcurly : ∃ ahead, first = ahead ++ ['{'])
    (hs : s.lines.toList.map Line.elided = above ++ (first ++ second) :: below)
    (hs' : s'.lines.toList.map Line.elided = above ++ first :: second :: below) :
    SplitAt s s' above.length first second where
  curly := hcurly
  within := by
    have := congrArg List.length hs
    simp only [List.length_map, Array.length_toList, List.length_append, List.length_cons] at this
    simp only [Source.size, this]
    omega
  size := by
    have := congrArg List.length hs
    have := congrArg List.length hs'
    simp only [List.length_map, Array.length_toList, List.length_append, List.length_cons] at *
    simp only [Source.size]
    omega
  joined := by simp [elided_eq, hs]
  first := by simp [elided_eq, hs']
  second := by simp [elided_eq, hs']
  below := by
    intro n hn
    obtain ⟨m, rfl⟩ : ∃ m, n = above.length + (m + 1) := ⟨n - above.length - 1, by omega⟩
    rw [elided_eq, elided_eq, hs, hs', List.getElem?_append_right (by omega), List.getElem?_append_right (by omega),
      show above.length + (m + 1) + 1 - above.length = m + 1 + 1 by omega, Nat.add_sub_cancel_left]
    simp only [List.getElem?_cons_succ]

/-- Where a place from line `k + 1` on comes to stand when the line is joined to line `k`, which is `w`
characters long. -/
def rejoin (k w : Nat) (p : Place) : Place :=
  if p.line = k + 1 then ⟨k, w + p.column⟩ else ⟨p.line - 1, p.column⟩

namespace SplitAt

variable {s s' : Source} {k : Nat} {first second : Text}

theorem rest (h : SplitAt s s' k first second) {p : Place} (hp : k < p.line) :
    (s.elided (rejoin k first.length p).line).drop (rejoin k first.length p).column
      = (s'.elided p.line).drop p.column := by
  unfold rejoin
  split
  · rename_i hline
    rw [hline, h.joined, h.second, List.drop_append, List.drop_eq_nil_of_le (Nat.le_add_right _ _), List.nil_append,
      Nat.add_sub_cancel_left]
  · obtain ⟨line, hline⟩ : ∃ line, p.line = line + 1 := ⟨p.line - 1, by omega⟩
    have hbelow := h.below line (by omega)
    simp only [hline, Nat.add_sub_cancel, hbelow]

theorem line_lt_size (h : SplitAt s s' k first second) {p : Place} (hp : k < p.line) :
    (rejoin k first.length p).line < s.size ↔ p.line < s'.size := by
  have hsize := h.size
  have hwithin := h.within
  unfold rejoin
  split
  · simp only
    omega
  · simp only
    omega

theorem next_line {p : Place} (hp : k < p.line) (w : Nat) :
    rejoin k w ⟨p.line + 1, 0⟩ = ⟨(rejoin k w p).line + 1, 0⟩ := by
  unfold rejoin
  grind

theorem closeBelow_place (h : SplitAt s s' k first second) (count : Nat) {line : Nat} (hline : k ≤ line)
    (text text' : Text) (stack : Bracket.Stack) :
    (Bracket.closeBelow s count line text stack).place
      = (Bracket.closeBelow s' count (line + 1) text' stack).place.map (rejoin k first.length) := by
  induction count generalizing line text text' stack with
  | zero => rfl
  | succ count ih =>
    have hnext : s'.elided (line + 1 + 1) = s.elided (line + 1) := h.below (line + 1) (by omega)
    rw [Bracket.closeBelow, Bracket.closeBelow]
    split
    · rfl
    · simp only [hnext]
      split
      · have hrejoin : rejoin k first.length ⟨line + 1 + 1, ‹Nat›⟩ = ⟨line + 1, ‹Nat›⟩ := by
          simp only [rejoin]
          rw [if_neg (by omega)]
          rfl
        simp [hrejoin]
      · rfl
      · exact ih (Nat.le_succ_of_le hline) _ _ _

theorem findClose_place (h : SplitAt s s' k first second) {p : Place} (hp : k < p.line) :
    (Bracket.findClose s (rejoin k first.length p).line (rejoin k first.length p).column).place
      = (Bracket.findClose s' p.line p.column).place.map (rejoin k first.length) := by
  unfold Bracket.findClose
  simp only [h.rest hp]
  split
  · rename_i hopen
    by_cases hline : p.line = k + 1
    · -- the line that was split: the scan does not look back beyond the curly bracket
      have hscan : Bracket.scanFrom [] (s.elided k) (first.length + p.column)
          = (Bracket.scanFrom [] (s'.elided (k + 1)) p.column).shift first.length := by
        obtain ⟨ahead, hfirst⟩ := h.curly
        have hhead : (second.drop p.column).head? ≠ some '>' := by
          intro hgt
          rw [hline, h.second] at hopen
          cases hd : second.drop p.column with
          | nil => simp [hd] at hgt
          | cons c rest =>
            rw [hd] at hgt hopen
            cases hgt
            cases hopen
        have hbefore : ((first ++ second).take (first.length + p.column)).reverse
            = (second.take p.column).reverse ++ '{' :: ahead.reverse := by
          rw [List.take_length_add_append, List.reverse_append, hfirst, List.reverse_append]
          rfl
        rw [h.joined, h.second]
        unfold Bracket.scanFrom
        rw [hbefore, List.drop_length_add_append]
        exact Bracket.scan_after_curly first.length ahead.reverse (.inr hhead) [] p.column
      have hrejoin : rejoin k first.length p = ⟨k, first.length + p.column⟩ := if_pos hline
      have hcount : s'.size - 1 - (k + 1) = s.size - 1 - k := by
        rw [h.size]
        omega
      rw [hrejoin]
      simp only [hline, hscan, hcount]
      cases Bracket.scanFrom [] (s'.elided (k + 1)) p.column with
      | found column => simp [Bracket.Scan.shift, rejoin]
      | broken => rfl
      | unfinished stack => exact h.closeBelow_place _ (Nat.le_refl k) _ _ stack
    · -- a line below is the same
      obtain ⟨line, hbelow⟩ : ∃ line, p.line = line + 1 := ⟨p.line - 1, by omega⟩
      have hrejoin : rejoin k first.length p = ⟨line, p.column⟩ := by
        rw [rejoin, if_neg hline, hbelow]
        rfl
      have hsame := h.below line (by omega)
      have hcount : s'.size - 1 - (line + 1) = s.size - 1 - line := by
        rw [h.size]
        omega
      rw [hrejoin]
      simp only [hbelow, hsame, hcount]
      cases Bracket.scanFrom [] (s.elided line) p.column with
      | found column =>
        simp only [Option.map_some, rejoin]
        rw [if_neg (by omega)]
        rfl
      | broken => rfl
      | unfinished stack => exact h.closeBelow_place _ (by omega) _ _ stack
  · rfl

theorem seen_rejoin (h : SplitAt s s' k first second) {p : Place} (hp : k < p.line) :
    Template.seen s (rejoin k first.length p) = Template.seen s' p := by
  unfold Template.seen
  simp only [h.line_lt_size hp, h.rest hp]

theorem round_rejoin (h : SplitAt s s' k first second) {p : Place} (hp : k < p.line) :
    Template.round s (rejoin k first.length p) = (Template.round s' p).map (rejoin k first.length) id := by
  unfold Template.round Template.asked?
  rw [h.seen_rejoin hp]
  cases Template.seen s' p with
  | nothing => exact congrArg Sum.inl (next_line hp first.length).symm
  | settled answer => rfl
  | angle skipped =>
    have hskip : rejoin k first.length ⟨p.line, p.column + skipped⟩
        = ⟨(rejoin k first.length p).line, (rejoin k first.length p).column + skipped⟩ := by
      unfold rejoin
      grind
    have hclose := h.findClose_place (p := ⟨p.line, p.column + skipped⟩) hp
    rw [hskip] at hclose
    simp only [hclose]
    cases (Bracket.findClose s' p.line (p.column + skipped)).place with
    | none => rfl
    | some q => rfl

theorem insideFrom_rejoin (h : SplitAt s s' k first second) (steps : Nat) {p : Place} (hp : k < p.line) :
    Template.insideFrom s steps (rejoin k first.length p) = Template.insideFrom s' steps p := by
  induction steps generalizing p with
  | zero => rfl
  | succ steps ih =>
    rw [Template.insideFrom, Template.insideFrom, h.round_rejoin hp]
    cases hround : Template.round s' p with
    | inl q => exact ih (Nat.lt_of_lt_of_le hp (Template.line_le_of_round hround))
    | inr answer => rfl

/-- Every place after the bracket is a template argument on the joined line if it is one on its own. -/
theorem inside_eq (h : SplitAt s s' k first second) (column : Nat) :
    Template.inside s k (first.length + column) = Template.inside s' (k + 1) column := by
  have hs := Template.inside_eq_insideFrom (s := s) (Nat.lt_succ_of_le (Nat.le_max_left _ (Template.extent s')))
  have hs' := Template.inside_eq_insideFrom (s := s') (Nat.lt_succ_of_le (Nat.le_max_right (Template.extent s) _))
  have hrejoin : rejoin k first.length ⟨k + 1, column⟩ = ⟨k, first.length + column⟩ := if_pos rfl
  rw [hs, hs', ← hrejoin]
  exact h.insideFrom_rejoin _ (Nat.lt_succ_self k)

end SplitAt

/-! ## A namespace and the rest of its line -/

def opening (name : Text) : Text := "namespace ".toList ++ name ++ " \x7b".toList

theorem opening_append (name text : Text) :
    opening name ++ text = "namespace ".toList ++ (name ++ ' ' :: '{' :: text) := by
  have hcurly : " \x7b".toList = [' ', '{'] := by simp
  unfold opening
  rw [hcurly, List.append_assoc, List.append_assoc, List.cons_append, List.cons_append, List.nil_append]

theorem opening_curly (name : Text) : ∃ ahead, opening name = ahead ++ ['{'] := by
  refine ⟨"namespace ".toList ++ name ++ [' '], ?_⟩
  have := opening_append name []
  rw [List.append_nil] at this
  rw [this, List.append_assoc, List.append_assoc]
  rfl

theorem condition?_opening (name text : Text) : Directive.condition? (opening name ++ text) = none := by
  have hblank : Text.isBlank 'n' = false := by decide
  simp [opening_append, Directive.condition?, Directive.name?, Directive.body?, hblank]

theorem namespaceHead?_opening {name text : Text} (hne : name ≠ []) (hword : ∀ c ∈ name, Text.isWord c = true)
    (hline : '\n' ∉ text) : namespaceHead? (opening name ++ text) = some ⟨name, true, text⟩ := by
  have hnamed : (' ' :: (name ++ ' ' :: '{' :: text)).dropWhile Text.isBlank = name ++ ' ' :: '{' :: text := by
    obtain ⟨c, more, rfl⟩ := List.exists_cons_of_ne_nil hne
    have hc := Text.isBlank_of_isWord (hword c (by simp))
    simp [hc, show Text.isBlank ' ' = true from rfl]
  have hchars : ∀ c ∈ name, isNameChar c = true := fun c hc => by simp [isNameChar, hword c hc]
  have hdrop : (name ++ ' ' :: '{' :: text).dropWhile isNameChar = ' ' :: '{' :: text := by
    rw [List.dropWhile_append_of_pos hchars]
    rfl
  have htake : (name ++ ' ' :: '{' :: text).takeWhile isNameChar = name := by
    rw [List.takeWhile_append_of_pos hchars, List.takeWhile_cons_of_neg (by decide), List.append_nil]
  have hrest : Text.restOfLine? (' ' :: '{' :: text) = some (' ' :: '{' :: text) :=
    Text.restOfLine?_of_notMem (by simp [hline])
  have hspace : Text.isWord ' ' = false := by decide
  have hblank : Text.isBlank 'n' = false := by decide
  rw [opening_append]
  simp [namespaceHead?, hspace, hblank, hnamed, hdrop, htake, hrest]

/-- Only a directive that switches or closes an open conditional changes the stack. -/
theorem preprocess_stack {st : Nesting} {text : Text}
    (h : st.frames = [] ∨
      (Directive.condition? text ≠ some .alternative ∧ Directive.condition? text ≠ some .closing)) :
    (st.preprocess text).stack = st.stack := by
  unfold preprocess
  split
  · rfl
  · rename_i hc
    rcases h with h | h
    · simp [switchConditional, h]
    · exact absurd hc h.1
  · rename_i hc
    rcases h with h | h
    · simp [closeConditional, h]
    · exact absurd hc h.2
  · rfl

/-- The line that only opens a namespace. -/
theorem read_opening (s : Source) (line : Nat) (st : Nesting) {name : Text} (hne : name ≠ [])
    (hword : ∀ c ∈ name, Text.isWord c = true) :
    read s line st (opening name) = st.push ⟨.space name, line, true, 0, .none⟩ := by
  have hhead := namespaceHead?_opening hne hword (show '\n' ∉ ([] : Text) by simp)
  rw [List.append_nil] at hhead
  have hclass : classDeclaration.match? [] = none := by decide +kernel
  rw [read_of_namespace s line st hhead]
  have hspace : namespaceHead? [] = none := rfl
  simp only [read, heads, enterNamespaces_of_none line _ hspace, enterClass_of_none s line _ hclass]
  rw [applyTokens]
  rfl

/-- The text after the bracket of a namespace nests as it does on a line of its own. A directive counts
only at the beginning of a line, so the text must not switch or close a conditional that is open. If it
declares a class, the test for template arguments must come out the same at the column that the name of
the class has in what is left of the text and at its column on the line. -/
theorem rest_of_line_nests_as_on_its_own {s s' : Source} {above below : List Text} {name text : Text} (st : Nesting)
    (hne : name ≠ []) (hword : ∀ c ∈ name, Text.isWord c = true) (hline : '\n' ∉ text)
    (hparens : text.count '(' = text.count ')')
    (hs : s.lines.toList.map Line.elided = above ++ (opening name ++ text) :: below)
    (hs' : s'.lines.toList.map Line.elided = above ++ opening name :: text :: below)
    (hdirective : st.frames = [] ∨
      (Directive.condition? text ≠ some .alternative ∧ Directive.condition? text ≠ some .closing))
    (hcolumn : ∀ m, classDeclaration.match? (afterNamespaces text) = some m →
      Template.inside s above.length (m.group 1).length
        = Template.inside s above.length ((opening name).length + (m.group 1).length)) :
    (st.update s above.length).1.outline
      = ((st.update s' above.length).1.update s' (above.length + 1)).1.outline := by
  have hsplit := SplitAt.of_lines (opening_curly name) hs hs'
  generalize above.length = k at hsplit hcolumn ⊢
  -- the state in which the rest of the line is read, on the line of the namespace and on its own
  let outer := st.beginLine.mapTop (countParens (opening name ++ text))
  let space : Block := ⟨.space name, k, true, 0, .none⟩
  have hjoined : (st.update s k).1 = read s k (outer.push space) text := by
    rw [update_eq_read, hsplit.joined, preprocess, condition?_opening,
      read_of_namespace s k _ (namespaceHead?_opening hne hword hline)]
  have hfirst : (st.update s' k).1 = (st.beginLine.mapTop (countParens (opening name))).push space := by
    have hdir := condition?_opening name []
    rw [List.append_nil] at hdir
    rw [update_eq_read, hsplit.first, preprocess, hdir, read_opening s' k _ hne hword]
  have hstack : ((st.update s' k).1.beginLine.preprocess text).stack = (st.update s' k).1.stack := by
    apply preprocess_stack
    rw [hfirst]
    simpa using hdirective
  have hcount : (((st.update s' k).1.beginLine.preprocess text).mapTop (countParens text)).stack
      = countParens text space :: (st.beginLine.mapTop (countParens (opening name))).stack := by
    rw [hfirst] at hstack
    rw [hfirst, mapTop, hstack]
    rfl
  rw [hjoined, update_eq_read, hsplit.second]
  apply read_outline
  · rw [outline_push, outline_mapTop (countParens_entry _), outline_beginLine]
    simp only [outline, hcount, List.map_cons, countParens_entry]
    have := outline_mapTop (countParens_entry (opening name)) st.beginLine
    rw [outline_beginLine] at this
    exact congrArg _ this.symm
  · exact .push outer rfl
  · intro b hb
    rw [top?, hcount, List.head?_cons, Option.some.injEq] at hb
    rw [← hb]
    simp [countParens, hparens, space]
  · intro m hm
    rw [hcolumn m hm, hsplit.inside_eq]

def onOneLine : Source :=
  Source.ofLines
    ["int x;".toList, "namespace implementation_details \x7b template <class T> class D : public C \x7b".toList,
      "  int y;".toList]

def onTwoLines : Source :=
  Source.ofLines
    ["int x;".toList, "namespace implementation_details \x7b".toList,
      " template <class T> class D : public C \x7b".toList, "  int y;".toList]

theorem rest_of_line_nests_as_on_its_own_template :
    (({} : Nesting).update onOneLine 1).1.outline
        = [(.type "D".toList, true), (.space "implementation_details".toList, true)] ∧
      ((({} : Nesting).update onTwoLines 1).1.update onTwoLines 2).1.outline
        = [(.type "D".toList, true), (.space "implementation_details".toList, true)] := by
  have hlines : onOneLine.lines.toList.map Line.elided = ["int x;".toList]
      ++ (opening "implementation_details".toList ++ " template <class T> class D : public C \x7b".toList)
      :: ["  int y;".toList] := by decide +kernel
  have hlines' : onTwoLines.lines.toList.map Line.elided = ["int x;".toList]
      ++ opening "implementation_details".toList :: " template <class T> class D : public C \x7b".toList
      :: ["  int y;".toList] := by decide +kernel
  have hword : "implementation_details".toList.all Text.isWord = true := by decide +kernel
  have hsame := rest_of_line_nests_as_on_its_own {} (by decide) (List.all_eq_true.mp hword) (by decide) (by decide)
    hlines hlines' (.inl rfl) (by decide +kernel)
  have hone : (({} : Nesting).update onOneLine 1).1.outline
      = [(.type "D".toList, true), (.space "implementation_details".toList, true)] := by decide +kernel
  exact ⟨hone, hsame ▸ hone⟩

/-- The name of the class stands further to the right in what follows the bracket than the bracket on
the line, so the test looks at the name, and takes the bracket of the arguments for the end of a list. -/
example :
    let one := Source.ofLines ["namespace N \x7b template <class T> class A \x7b".toList]
    let two := Source.ofLines ["namespace N \x7b".toList, " template <class T> class A \x7b".toList]
    (({} : Nesting).update one 0).1.outline = [(.plain, true), (.space "N".toList, true)] ∧
      ((({} : Nesting).update two 0).1.update two 1).1.outline
        = [(.type "A".toList, true), (.space "N".toList, true)] := by
  decide +kernel

end Nesting

end StyleCheck
