/-
  StyleCheck.Proofs.Bracket.Inside — the two ways to find the end of brackets in one text agree.

  `textInside` counts the characters up to the closing bracket with a stack of round, square and curly
  brackets and knows nothing of angle brackets; `scanFrom` keeps tentative angle brackets on its stack.
  Both are the plain search: the first one directly (`insideLength?_eq`), the second one because its
  stack without angle brackets is the stack of that search (`scan_agrees`). So they agree on every text,
  also where a bracket does not fit or is never closed (`text_readers_agree`).
-/

import StyleCheck.Bracket.Inside
import StyleCheck.Proofs.Bracket.Projection

namespace StyleCheck.Bracket

def Verdict.distance? (column : Nat) : Verdict → Option Nat
  | .found q => some (q.column - column)
  | .misfit _ | .unfinished => none

/-- Counted from one character further to the left, the bracket stands one character further off. -/
theorem distance?_succ (stack : Stack) (line column : Nat) (text : Text) :
    ((search .forwards stack (cellsOf line (column + 1) text)).distance? (column + 1)).map (· + 1)
      = (search .forwards stack (cellsOf line (column + 1) text)).distance? column := by
  have hspec := search_spec .forwards stack (cellsOf line (column + 1) text)
  cases hv : search .forwards stack (cellsOf line (column + 1) text) with
  | found q =>
    rw [hv] at hspec
    obtain ⟨u, c, v, hcells, -⟩ := hspec
    have hmem : (q, c) ∈ cellsOf line (column + 1) text := by simp [hcells]
    have hcolumn : column + 1 ≤ q.column := (mem_cellsOf hmem).2
    simp only [Verdict.distance?, Option.map_some, Option.some.injEq]
    omega
  | misfit q => rfl
  | unfinished => rfl

/-- The characters are counted up to the bracket that the plain search finds. -/
theorem insideLength?_eq (line column : Nat) (text : Text) {top : Bracket} {outer : Stack}
    (h : angle ∉ top :: outer) :
    insideLength? (top :: outer) text
      = (search .forwards (top :: outer) (cellsOf line column text)).distance? column := by
  induction text generalizing top outer column with
  | nil => rfl
  | cons c text ih =>
    have htop : top ≠ angle := fun e => h (by simp [e])
    rw [insideLength?, cellsOf, search]
    rcases char_cases c with ⟨b, hb, rfl, ho, hc⟩ | ⟨b, hb, rfl, hc, ho⟩ | ⟨ho, hc⟩
    · have hne : b.opening ≠ top.closing := by
        intro e
        rw [e, opens?_closing] at ho
        cases ho
      have hstep : step .forwards (top :: outer) b.opening = some (b :: top :: outer) :=
        step_enters (d := .forwards) ho _
      simp only [beq_iff_eq, hne, if_false, hc, ho, hstep, Option.isSome_none, Bool.false_eq_true]
      rw [ih (column + 1) (by simpa [hb.symm] using h), distance?_succ]
    · by_cases hfits : top = b
      · subst hfits
        have hstep : step .forwards (top :: outer) top.closing = some outer := step_leaves (d := .forwards) hc outer
        simp only [beq_self_eq_true, if_true, hstep]
        cases outer with
        | nil => simp [Verdict.distance?]
        | cons next outer =>
          simp only [List.isEmpty_cons, Bool.false_eq_true, if_false]
          rw [ih (column + 1) (fun e => h (List.mem_cons_of_mem _ e)), distance?_succ]
      · have hne : b.closing ≠ top.closing := fun e => hfits (closing_inj e).symm
        have hstep : step .forwards (top :: outer) b.closing = none := step_misfit (d := .forwards) hc hfits outer
        simp only [beq_iff_eq, hne, if_false, hc, Option.isSome_some, if_true, hstep]
        rfl
    · have hne : c ≠ top.closing := by
        rintro rfl
        rw [closes?_closing htop] at hc
        cases hc
      have hstep : step .forwards (top :: outer) c = some (top :: outer) := step_other (d := .forwards) ho hc _
      simp only [beq_iff_eq, hne, if_false, hc, ho, hstep, Option.isSome_none, Bool.false_eq_true]
      rw [ih (column + 1) h, distance?_succ]

def Scan.inside? (text : Text) (start : Nat) : Scan → Option Text
  | .found stop => some ((text.take (stop - 1)).drop start)
  | .broken | .unfinished _ => none

theorem scan_inside? (text : Text) (before : Text) (start : Nat) {b : Bracket} (hb : b ≠ angle) :
    (scan [b] before start (text.drop start)).inside? text start
      = (insideLength? [b] (text.drop start)).map fun n => (text.drop start).take n := by
  have hfirm : firm [b] = [b] := firm_cons hb []
  have hagrees := scan_agrees 0 [] (text.drop start) before start (grounded_singleton hb)
  rw [hfirm, List.append_nil] at hagrees
  rw [insideLength?_eq 0 start _ (by simpa using hb.symm)]
  cases hscan : scan [b] before start (text.drop start) with
  | found stop =>
    rw [hscan] at hagrees
    obtain ⟨c, rfl, hv⟩ := hagrees
    rw [hv]
    simp only [Scan.inside?, Verdict.distance?, Option.map_some, Nat.add_sub_cancel, List.drop_take]
  | broken =>
    rw [hscan] at hagrees
    obtain ⟨q, hv⟩ := hagrees
    rw [hv]
    rfl
  | unfinished stack =>
    rw [hscan] at hagrees
    rw [hagrees.2]
    rfl

/-- Where the first match of a pattern ends after an opening bracket, the text inside it is what the scan
from that bracket on finds, and there is none just if the scan finds no end. -/
theorem text_readers_agree (p : Pattern) (text : Text) {m : Pattern.Match} (hm : p.search? text = some m)
    {column : Nat} (hstop : m.stop = column + 1) {b : Bracket} (hb : b ≠ angle)
    (hopen : text[column]? = some b.opening) :
    textInside p text = .ok ((scanFrom [] text column).inside? text (column + 1)) := by
  obtain ⟨hlt, hc⟩ := List.getElem?_eq_some_iff.mp hopen
  have hlast : (text.take m.stop).getLast? = some b.opening := by
    rw [hstop, List.take_succ_eq_append_getElem hlt, hc, List.getLast?_concat]
  have hrest : m.rest = text.drop (column + 1) := by rw [(Pattern.search?_rest hm).2, hstop]
  simp only [textInside, hm, hlast, Option.bind_some, opens?_opening hb, hrest]
  rw [scanFrom_opening hb hopen, scan_inside? text _ _ hb]

def blockCall : Text := "x = f(a->b[1 << 2], \x7b y < 3; \x7d) > 4".toList

theorem text_readers_agree_blockCall :
    (("f(" : Pattern).search? blockCall).map (·.stop) = some 6 ∧ scanFrom [] blockCall 5 = .found 31 ∧
    textInside "f(" blockCall = .ok (some "a->b[1 << 2], \x7b y < 3; \x7d".toList) := by
  have hsearch : (("f(" : Pattern).search? blockCall).map (·.stop) = some 6 := by decide +kernel
  have hscan : scanFrom [] blockCall 5 = .found 31 := by decide +kernel
  obtain ⟨m, hm, hstop⟩ := Option.map_eq_some_iff.mp hsearch
  refine ⟨hsearch, hscan, ?_⟩
  rw [text_readers_agree _ _ hm hstop (b := round) (by decide) (by decide +kernel), hscan]
  exact congrArg Except.ok (by decide +kernel)

end StyleCheck.Bracket
