/-
  StyleCheck.Proofs.Source.CutLiteral — where a curly bracket comes from that is left when literals are emptied.

  Each step that empties literals goes over a line from left to right. A curly bracket that is left stands on the line
  as well, and what is made of the line up to there does not depend on what follows (`Shows`).

  1. Escape sequences (`dropEscapes_shows`).
  2. Quotes: the bracket stands before the first literal or after it, and so on (`traced_closed`, `traced_number`,
     `collapseQuotes_shows`).
  3. Both, on a line that is no include line (`collapse_shows`).

  Of what stands after the bracket, all that is not blank can get lost with its escape sequences only (`Kept`).
-/

import StyleCheck.Proofs.Bracket.Reading
import StyleCheck.Proofs.Pattern.Taken
import StyleCheck.Proofs.Source.LineComment

namespace StyleCheck

def IsCurly (c : Char) : Prop := c = '{' ∨ c = '}'

theorem IsCurly.isBlank {c : Char} (h : IsCurly c) : Text.isBlank c = false := by
  rcases h with rfl | rfl <;> rfl

theorem IsCurly.isQuote {c : Char} (h : IsCurly c) : Literal.isQuote c = false := by
  rcases h with rfl | rfl <;> rfl

theorem IsCurly.isNumberPart {c : Char} (h : IsCurly c) : Literal.isNumberPart c = false := by
  rcases h with rfl | rfl <;> decide

theorem IsCurly.isWord {c : Char} (h : IsCurly c) : Text.isWord c = false := by
  rcases h with rfl | rfl <;> decide

theorem IsCurly.ne_quote {c quote : Char} (h : IsCurly c) (hquote : Literal.isQuote quote = true) : quote ≠ c := by
  intro heq
  cases hquote.symm.trans (heq ▸ h.isQuote)

theorem IsCurly.notMem_emptyString {c : Char} (h : IsCurly c) : c ∉ Literal.emptyString := by
  rcases h with rfl | rfl <;> decide

theorem IsCurly.ne_backslash {c : Char} (h : IsCurly c) : c ≠ '\\' := by
  rcases h with rfl | rfl <;> decide

/-- On a line that begins with `a` and the bracket `c`, the step `f` shows the bracket after `x`. -/
structure Shows (f : Text → Text) (c : Char) (a x : Text) : Prop where
  before : f a = x
  upTo : f (a ++ [c]) = x ++ [c]

/-- So it does up to blanks before the bracket, which get lost if the line ends there. -/
structure Seen (f : Text → Text) (c : Char) (a x : Text) : Prop where
  before : Text.stripRight (f a) = Text.stripRight x
  upTo : f (a ++ [c]) = x ++ [c]

theorem Seen.comp {f g : Text → Text} {c : Char} {a x w : Text} (hf : Shows f c a x) (hg : Seen g c x w) :
    Seen (fun t => g (f t)) c a w where
  before := by rw [hf.before, hg.before]
  upTo := by rw [hf.upTo, hg.upTo]

/-- What becomes of the rest `r` of a line: no characters are added but quotes, and what is not blank does not get lost
altogether. -/
structure Kept (r y : Text) : Prop where
  subset : ∀ d ∈ y, d ∈ r ∨ d = '"'
  blank : (∀ d ∈ y, Text.isBlank d = true) → r = y

theorem Kept.refl (r : Text) : Kept r r := ⟨fun _ hd => .inl hd, fun _ => rfl⟩

theorem Kept.trans {r y z : Text} (h : Kept r y) (h' : Kept y z) : Kept r z where
  subset d hd := (h'.subset d hd).elim (h.subset d) .inr
  blank hall := by
    have heq := h'.blank hall
    rw [h.blank (heq ▸ hall), heq]

theorem Kept.of_visible {r y : Text} {d : Char} (h : ∀ d ∈ y, d ∈ r ∨ d = '"') (hd : d ∈ y)
    (hvisible : Text.isBlank d = false) : Kept r y where
  subset := h
  blank hall := by cases (hall d hd).symm.trans hvisible

theorem Kept.notMem {r y : Text} (h : Kept r y) {d : Char} (hquote : d ≠ '"') (hd : d ∉ r) : d ∉ y :=
  fun hmem => (h.subset d hmem).elim hd hquote

theorem notMem_upTo {c d : Char} {u v : Text} (h : d ∉ u ++ c :: v) : d ∉ u ++ [c] := by
  simp only [List.mem_append, List.mem_cons, not_or] at h ⊢
  exact ⟨h.1, h.2.1, List.not_mem_nil⟩

/-- If a line is no include line, no beginning of it is. -/
theorem Include.ofLine?_front {u v : Text} (hline : '\n' ∉ u ++ v) (h : ofLine? (u ++ v) = none) : ofLine? u = none := by
  rw [← Option.not_isSome_iff_eq_none]
  intro hsome
  have hlong := isSome_ofLine?_append hsome hline
  rw [h] at hlong
  cases hlong

namespace Literal

/-! ## Escape sequences -/

variable {c : Char}

/-- No escape sequence goes over a curly bracket. -/
theorem escapeLength?_curly (hc : IsCurly c) (u r : Text) : escapeLength? (u ++ c :: r) = escapeLength? u := by
  have hdecimal : Text.isDecimal c = false := by rcases hc with rfl | rfl <;> decide
  have hhex : isHexDigit c = false := by rcases hc with rfl | rfl <;> decide
  cases u with
  | nil => rcases hc with rfl | rfl <;> rfl
  | cons d u =>
    have hdigits : (d :: (u ++ c :: r)).takeWhile Text.isDecimal = (d :: u).takeWhile Text.isDecimal :=
      Text.takeWhile_append_stop hdecimal (d :: u) r
    have hmore : (u ++ c :: r).takeWhile isHexDigit = u.takeWhile isHexDigit := Text.takeWhile_append_stop hhex u r
    rw [List.cons_append, escapeLength?, escapeLength?, hdigits, hmore]

theorem escapeLength?_le {s : Text} {n : Nat} (h : escapeLength? s = some n) : n ≤ s.length := by
  unfold escapeLength? at h
  cases s with
  | nil => cases h
  | cons d s =>
    simp only at h
    split at h
    · cases h
      exact Nat.succ_le_succ (Nat.zero_le _)
    · split at h
      · cases h
        exact Text.length_takeWhile_le _ _
      · split at h
        · split at h
          · cases h
          · rename_i k hk
            cases h
            have := Text.length_takeWhile_le isHexDigit s
            rw [List.length_cons]
            omega
        · cases h

theorem dropEscapes_backslash {s : Text} (h : escapeLength? s = none) : dropEscapes ('\\' :: s) = '\\' :: dropEscapes s := by
  rw [dropEscapes, dropEscapes.go, if_pos (beq_self_eq_true '\\')]
  simp only [h]
  rfl

theorem dropEscapes_curly (hc : IsCurly c) (u r : Text) :
    dropEscapes (u ++ c :: r) = dropEscapes u ++ c :: dropEscapes r := by
  induction hlength : u.length using Nat.strongRecOn generalizing u with
  | _ length ih =>
    cases u with
    | nil => exact dropEscapes_cons hc.ne_backslash r
    | cons d u =>
      rw [List.length_cons] at hlength
      by_cases hd : d = '\\'
      · subst hd
        cases he : escapeLength? u with
        | none =>
          have hlong := escapeLength?_curly hc u r
          rw [he] at hlong
          rw [List.cons_append, dropEscapes_backslash hlong, dropEscapes_backslash he, ih u.length (by omega) u rfl,
            List.cons_append]
        | some n =>
          have hlong := escapeLength?_curly hc u r
          rw [he] at hlong
          have hle := escapeLength?_le he
          rw [List.cons_append, dropEscapes_escape hlong, dropEscapes_escape he, List.drop_append_of_le_length hle]
          refine ih (u.drop n).length ?_ (u.drop n) rfl
          rw [List.length_drop]
          omega
      · rw [List.cons_append, dropEscapes_cons hd, dropEscapes_cons hd, ih u.length (by omega) u rfl, List.cons_append]

theorem dropEscapes_shows (hc : IsCurly c) {line x y : Text} (h : dropEscapes line = x ++ c :: y) :
    ∃ a r, line = a ++ c :: r ∧ Shows dropEscapes c a x ∧ dropEscapes r = y := by
  induction hlength : line.length using Nat.strongRecOn generalizing line x with
  | _ length ih =>
    have hmem : c ∈ line := (dropEscapes_sublist line).subset (by rw [h]; simp)
    obtain ⟨u, r, rfl, hu⟩ := List.eq_append_cons_of_mem hmem
    have hshows (a : Text) : Shows dropEscapes c a (dropEscapes a) := ⟨rfl, dropEscapes_curly hc a []⟩
    have hnone : c ∉ dropEscapes u := fun hmem => hu ((dropEscapes_sublist u).subset hmem)
    rw [dropEscapes_curly hc] at h
    rcases Bracket.cut_cases h with ⟨rfl, -, hy⟩ | ⟨z, rfl, hz⟩ | ⟨z, hz, -⟩
    · exact ⟨u, r, rfl, hshows u, hy⟩
    · rw [List.length_append, List.length_cons] at hlength
      obtain ⟨a, r', rfl, ha, hy⟩ := ih r.length (by omega) hz rfl
      refine ⟨u ++ c :: a, r', by simp, ?_, hy⟩
      rw [← ha.before, ← dropEscapes_curly hc]
      exact hshows _
    · exact absurd (by rw [hz]; simp) hnone

/-! ## Quotes -/

def Quoteless (s : Text) : Prop := ∀ d ∈ s, isQuote d = false

def Separates (head : Text) (quote : Char) : Prop := quote = '\'' ∧ numberAtEnd.occursIn head = true

theorem atQuote?_split {head tail : Text} {quote : Char} (hhead : Quoteless head) (hquote : isQuote quote = true)
    (htail : '\n' ∉ tail) : atQuote? (head ++ quote :: tail) = some ⟨head, quote, tail⟩ := by
  have hall : ∀ d ∈ head, (!isQuote d) = true := fun d hd => by rw [hhead d hd]; rfl
  have hstop : (!isQuote quote) = false := by rw [hquote]; rfl
  have hdrop : (head ++ quote :: tail).dropWhile (fun d => !isQuote d) = quote :: tail := by
    rw [List.dropWhile_append_of_pos hall, List.dropWhile_cons_of_neg (by simp [hquote])]
  have htake : (head ++ quote :: tail).takeWhile (fun d => !isQuote d) = head := by
    rw [Text.takeWhile_append_stop hstop, List.takeWhile_eq_self_iff.mpr hall]
  simp only [atQuote?, hdrop, htake, Text.restOfLine?_of_notMem htail, Option.map_some]

theorem after?_split {quote : Char} {body : Text} (hbody : quote ∉ body) (rest : Text) :
    after? quote (body ++ quote :: rest) = some rest := by
  simp only [after?]
  rw [List.dropWhile_append_of_pos (Text.forall_bne_of_notMem hbody), List.dropWhile_cons_of_neg (by simp)]

theorem after?_of_notMem {quote : Char} {s : Text} (h : quote ∉ s) : after? quote s = none := by
  simp only [after?]
  rw [List.dropWhile_eq_nil_iff.mpr (Text.forall_bne_of_notMem h)]

section

variable {head tail : Text} {quote : Char}

theorem collapseQuotes_code (h : Quoteless head) : collapseQuotes head = head := by
  have hnone : atQuote? head = none := by
    have hdrop : head.dropWhile (fun d => !isQuote d) = [] :=
      List.dropWhile_eq_nil_iff.mpr fun d hd => by rw [h d hd]; rfl
    simp only [atQuote?, hdrop]
  rw [collapseQuotes_eq]
  simp only [round?, hnone, Option.elim_none]

variable (hhead : Quoteless head) (hquote : isQuote quote = true) (htail : '\n' ∉ tail)

include hhead hquote htail

/-- At a quote that does not separate digits, the literal is emptied if it is closed. -/
theorem round?_literal (hnumber : ¬ Separates head quote) :
    round? (head ++ quote :: tail) = (after? quote tail).map fun rest => (head ++ [quote, quote], rest) := by
  rw [round?, atQuote?_split hhead hquote htail]
  simp only
  by_cases hdouble : quote = '"'
  · subst hdouble
    rfl
  · have hsingle : quote = '\'' := by simpa [isQuote, hdouble] using hquote
    subst hsingle
    have hother : ¬ numberAtEnd.occursIn head = true := fun h => hnumber ⟨rfl, h⟩
    rw [if_neg (by decide), if_neg hother]
    rfl

theorem collapseQuotes_closed (hnumber : ¬ Separates head quote) {rest : Text} (hafter : after? quote tail = some rest) :
    collapseQuotes (head ++ quote :: tail) = head ++ [quote, quote] ++ collapseQuotes rest := by
  rw [collapseQuotes_eq, round?_literal hhead hquote htail hnumber, hafter]
  rfl

theorem collapseQuotes_unmatched (hnumber : ¬ Separates head quote) (hafter : quote ∉ tail) :
    collapseQuotes (head ++ quote :: tail) = head ++ quote :: tail := by
  rw [collapseQuotes_eq, round?_literal hhead hquote htail hnumber, after?_of_notMem hafter]
  rfl

theorem collapseQuotes_number (hnumber : Separates head quote) :
    collapseQuotes (head ++ quote :: tail)
      = head ++ (takeDigits (quote :: tail)).1 ++ collapseQuotes (takeDigits (quote :: tail)).2 := by
  obtain ⟨rfl, hoccurs⟩ := hnumber
  have hround : round? (head ++ '\'' :: tail)
      = some (head ++ (takeDigits ('\'' :: tail)).1, (takeDigits ('\'' :: tail)).2) := by
    rw [round?, atQuote?_split hhead hquote htail]
    simp only
    rw [if_neg (by decide), if_pos hoccurs]
  rw [collapseQuotes_eq, hround]
  rfl

end

inductive AtFirstQuote : Text → Prop
  | code {line : Text} : Quoteless line → AtFirstQuote line
  | closed {head body rest : Text} {quote : Char} : Quoteless head → isQuote quote = true → ¬ Separates head quote →
      quote ∉ body → AtFirstQuote (head ++ quote :: (body ++ quote :: rest))
  | unmatched {head tail : Text} {quote : Char} : Quoteless head → isQuote quote = true → ¬ Separates head quote →
      quote ∉ tail → AtFirstQuote (head ++ quote :: tail)
  | number {head tail : Text} {quote : Char} : Quoteless head → isQuote quote = true → Separates head quote →
      AtFirstQuote (head ++ quote :: tail)

theorem atFirstQuote {line : Text} (hline : '\n' ∉ line) : AtFirstQuote line := by
  cases hat : atQuote? line with
  | none => exact .code (atQuote?_eq_none hline hat)
  | some q =>
    obtain ⟨hsplit, hhead⟩ := atQuote?_eq_some hline hat
    have hquote := isQuote_of_atQuote? hat
    rw [hsplit]
    by_cases hnumber : Separates q.head q.quote
    · exact .number hhead hquote hnumber
    · cases hafter : after? q.quote q.tail with
      | none => exact .unmatched hhead hquote hnumber (after?_eq_none hafter)
      | some rest =>
        obtain ⟨body, hbody, htail⟩ := after?_eq_some hafter
        rw [htail]
        exact .closed hhead hquote hnumber hbody

/-- The digits that are taken do not depend on where the line ends after them. -/
theorem takeDigits_cut (s : Text) : ∃ text, s = text ++ (takeDigits s).2 ∧
    ∀ u v, (takeDigits s).2 = u ++ v → takeDigits (text ++ u) = ((takeDigits s).1, u) := by
  fun_induction takeDigits s with
  | case1 =>
    refine ⟨[], rfl, fun u v h => ?_⟩
    obtain ⟨rfl, -⟩ := List.append_eq_nil_iff.mp h.symm
    rfl
  | case2 c s hpart digits after heq ih =>
    rw [heq] at ih
    obtain ⟨text, hs, hcut⟩ := ih
    refine ⟨c :: text, by rw [List.cons_append, ← hs], fun u v h => ?_⟩
    rw [List.cons_append, takeDigits.eq_def]
    simp only [hpart, if_true, hcut u v h]
  | case3 c hnot hsingle d s hpart digits after heq ih =>
    rw [heq] at ih
    obtain ⟨text, hs, hcut⟩ := ih
    refine ⟨c :: d :: text, by rw [List.cons_append, List.cons_append, ← hs], fun u v h => ?_⟩
    rw [List.cons_append, List.cons_append, takeDigits.eq_def]
    simp only [hnot, hsingle, hpart, if_true, hcut u v h]
    rfl
  | case4 c hnot hsingle d s hpart =>
    refine ⟨[], rfl, fun u v h => ?_⟩
    rcases u with _ | ⟨c', _ | ⟨d', u⟩⟩
    · rfl
    · cases h
      simp [takeDigits, hnot, hsingle]
    · cases h
      simp [takeDigits, hnot, hsingle, hpart]
  | case5 c hnot hsingle =>
    refine ⟨[], rfl, fun u v h => ?_⟩
    rcases u with _ | ⟨c', u⟩
    · rfl
    · obtain ⟨rfl, hnil⟩ := List.cons.inj h
      obtain ⟨rfl, -⟩ := List.append_eq_nil_iff.mp hnil.symm
      simp [takeDigits, hnot, hsingle]
  | case6 c s hnot hsingle =>
    refine ⟨[], rfl, fun u v h => ?_⟩
    rcases u with _ | ⟨c', u⟩
    · rfl
    · cases h
      rw [List.nil_append, takeDigits.eq_def]
      simp [hnot, hsingle]

theorem isNumberPart_iff (c : Char) : isNumberPart c = true ↔
    (48 ≤ c.toNat ∧ c.toNat ≤ 57) ∨ (65 ≤ c.toNat ∧ c.toNat ≤ 90) ∨ c.toNat = 95 ∨ (97 ≤ c.toNat ∧ c.toNat ≤ 122) := by
  have hunderscore : (c == '_') = true ↔ c.toNat = 95 := by
    rw [beq_iff_eq, ← Char.toNat_inj]
    rfl
  rw [isNumberPart, Bool.or_eq_true, hunderscore]
  delta Char.isAlphanum Char.isAlpha Char.isUpper Char.isLower Char.isDigit
  simp only [Bool.or_eq_true, Bool.and_eq_true, decide_eq_true_eq, ge_iff_le, UInt32.le_iff_toNat_le, Char.toNat]
  grind

theorem isBlank_of_isNumberPart {d : Char} (h : isNumberPart d = true) : Text.isBlank d = false := by
  rw [isNumberPart_iff] at h
  have hlt : d.toNat < 128 := by omega
  rw [Bool.eq_false_iff]
  intro hblank
  simp only [Text.isBlank, hlt, if_true, Bool.or_eq_true, beq_iff_eq, Bool.and_eq_true, decide_eq_true_eq] at hblank
  omega

theorem isNumberPart_of_range {first last d : Char} (h : (CharSet.range first last).has d = true)
    (hrange : (48 ≤ first.toNat ∧ last.toNat ≤ 57) ∨ (65 ≤ first.toNat ∧ last.toNat ≤ 90) ∨
      (97 ≤ first.toNat ∧ last.toNat ≤ 122)) : isNumberPart d = true := by
  have hbounds : first.toNat ≤ d.toNat ∧ d.toNat ≤ last.toNat := by
    simpa [CharSet.has, Char.le_def, UInt32.le_iff_toNat_le] using h
  rw [isNumberPart_iff]
  omega

/-- Up to its end the pattern of a number takes digits only. -/
theorem numberAtEnd_avoids : ∃ digits, numberAtEnd = .seq digits .finish ∧
    ∀ d, isNumberPart d = false → digits.avoids d = true := by
  refine ⟨.seq (.seq .edge (.alt (.seq (.one (.among ['0'])) (.alt (.one (.among "bBxX".toList)) .empty))
    (.one (.range '1' '9')))) (.many (.one (.either (.range '0' '9') (.either (.range 'a' 'f') (.range 'A' 'F'))))),
    rfl, fun d hd => ?_⟩
  have hamong : ∀ {chars : List Char}, chars.all isNumberPart = true → (CharSet.among chars).has d = false := by
    intro chars hall
    rw [Bool.eq_false_iff]
    intro hmem
    cases (List.all_eq_true.mp hall d (List.contains_iff_mem.mp hmem)).symm.trans hd
  have hrange : ∀ {first last : Char}, ((48 ≤ first.toNat ∧ last.toNat ≤ 57) ∨ (65 ≤ first.toNat ∧ last.toNat ≤ 90) ∨
      (97 ≤ first.toNat ∧ last.toNat ≤ 122)) → (CharSet.range first last).has d = false := by
    intro first last hwithin
    rw [Bool.eq_false_iff]
    intro hmem
    cases (isNumberPart_of_range hmem hwithin).symm.trans hd
  have hzero : (CharSet.among ['0']).has d = false := hamong (by decide)
  have hbase : (CharSet.among "bBxX".toList).has d = false := hamong (by decide)
  have hfirst : (CharSet.range '1' '9').has d = false := hrange (by decide)
  have hdigit : (CharSet.range '0' '9').has d = false := hrange (by decide)
  have hlower : (CharSet.range 'a' 'f').has d = false := hrange (by decide)
  have hupper : (CharSet.range 'A' 'F').has d = false := hrange (by decide)
  have hmore : (CharSet.either (.range '0' '9') (.either (.range 'a' 'f') (.range 'A' 'F'))).has d = false := by
    show ((CharSet.range '0' '9').has d || ((CharSet.range 'a' 'f').has d || (CharSet.range 'A' 'F').has d)) = false
    rw [hdigit, hlower, hupper]
    rfl
  simp only [Pattern.avoids, hzero, hbase, hfirst, hmore]
  rfl

/-- The last character of a number is a digit of it. -/
theorem number_last {head : Text} (hline : '\n' ∉ head) (h : numberAtEnd.occursIn head = true) :
    ∃ d, head.getLast? = some d ∧ isNumberPart d = true := by
  obtain ⟨m, hm⟩ := Option.isSome_iff_exists.mp h
  obtain ⟨cursor, hsuffix, -, hmatch⟩ := Pattern.search?_eq_some hm
  obtain ⟨e, he, -⟩ := Option.map_eq_some_iff.mp hmatch
  have hne : cursor.rest ≠ [] := by
    intro hnil
    have hpossible := Pattern.possible_of_run he
    rw [hnil] at hpossible
    revert hpossible
    decide
  obtain ⟨d, hd⟩ := List.getLast?_isSome.mpr hne |> Option.isSome_iff_exists.mp
  refine ⟨d, (Text.getLast?_of_suffix hsuffix hne).trans hd, ?_⟩
  by_cases hpart : isNumberPart d = true
  · exact hpart
  · obtain ⟨digits, heq, havoids⟩ := numberAtEnd_avoids
    rw [heq] at he
    obtain ⟨e', he', taken, hrest, -, htaken⟩ := Pattern.avoids_run (havoids d (by simpa using hpart)) _ _ _ he
    have hfinish := Pattern.isSome_run_finish.mp (Option.isSome_iff_exists.mpr ⟨e, he'⟩)
    have hnil : e'.rest = [] := by
      refine hfinish.resolve_right fun hfeed => hline (hsuffix.subset ?_)
      rw [hrest, hfeed]
      simp
    rw [hnil, List.append_nil] at hrest
    exact absurd (hrest ▸ List.mem_of_getLast? hd) htaken

/-- A number goes to the end of its digits, wherever the line ends after them. -/
theorem collapseQuotes_number_cut {head tail : Text} {quote : Char} (hhead : Quoteless head) (hquote : isQuote quote = true)
    (hline : '\n' ∉ quote :: tail) (hnumber : Separates head quote) :
    ∃ text digits rest, quote :: tail = text ++ rest ∧ (∀ d ∈ digits, d ∈ text ∧ isNumberPart d = true) ∧
      ∀ u v, rest = u ++ v → text ++ u ≠ [] → collapseQuotes (head ++ (text ++ u)) = head ++ digits ++ collapseQuotes u := by
  obtain ⟨text, htext, hcut⟩ := takeDigits_cut (quote :: tail)
  obtain ⟨text', htext', hdigits, hparts⟩ := takeDigits_eq (quote :: tail)
  obtain rfl : text' = text := List.append_cancel_right (htext'.symm.trans htext)
  refine ⟨text', (takeDigits (quote :: tail)).1, (takeDigits (quote :: tail)).2, htext, fun d hd => ?_,
    fun u v huv hne => ?_⟩
  · rw [hdigits, List.mem_filter] at hd
    exact ⟨hd.1, (hparts d hd.1).resolve_right (by simpa using hd.2)⟩
  · -- What is left of the line begins with the same quote.
    have hwhole : text' ++ u ++ v = quote :: tail := by
      rw [List.append_assoc, ← huv, ← htext]
    have htaken := hcut u v huv
    cases hstart : text' ++ u with
    | nil => exact absurd hstart hne
    | cons d t =>
      rw [hstart] at hwhole htaken
      obtain ⟨rfl, rfl⟩ := List.cons.inj hwhole
      have hfeed : '\n' ∉ t := fun hmem => hline (List.mem_cons_of_mem _ (List.mem_append_left _ hmem))
      rw [collapseQuotes_number hhead hquote hfeed hnumber, htaken]

theorem mem_of_mem_collapseQuotes {line : Text} (hline : '\n' ∉ line) {d : Char} (h : d ∈ collapseQuotes line) :
    d ∈ line := by
  induction hlength : line.length using Nat.strongRecOn generalizing line with
  | _ length ih =>
    cases atFirstQuote hline with
    | code hcode => rwa [collapseQuotes_code hcode] at h
    | @closed head body rest quote hhead hquote hnumber hbody =>
      simp only [List.mem_append, List.mem_cons, not_or] at hline
      have htail : '\n' ∉ body ++ quote :: rest := by simp [hline]
      rw [collapseQuotes_closed hhead hquote htail hnumber (after?_split hbody rest), List.mem_append] at h
      rcases h with h | h
      · simp only [List.mem_append, List.mem_cons, List.not_mem_nil, or_false, or_self] at h ⊢
        exact h.imp_right .inl
      · have hrest := ih rest.length (by simp [← hlength]; omega) hline.2.2.2.2 h rfl
        simp [hrest]
    | @unmatched head tail quote hhead hquote hnumber hnone =>
      simp only [List.mem_append, List.mem_cons, not_or] at hline
      rwa [collapseQuotes_unmatched hhead hquote hline.2.2 hnumber hnone] at h
    | @number head tail quote hhead hquote hnumber =>
      have htail : '\n' ∉ quote :: tail := fun hmem => hline (List.mem_append_right _ hmem)
      obtain ⟨text, digits, rest, htext, hdigits, hcut⟩ := collapseQuotes_number_cut hhead hquote htail hnumber
      have hless : rest.length < length := by
        have := congrArg List.length htext
        have := List.length_pos_iff.mpr (head_ne_nil_of_number hnumber.2)
        simp only [List.length_append] at *
        omega
      rw [htext, hcut rest [] (List.append_nil _).symm (htext ▸ List.cons_ne_nil _ _), List.mem_append, List.mem_append] at h
      rw [htext, List.mem_append, List.mem_append]
      rcases h with (h | h) | h
      · exact .inl h
      · exact .inr (.inl (hdigits d h).1)
      · refine .inr (.inr (ih _ hless (fun hmem => htail ?_) h rfl))
        rw [htext]
        exact List.mem_append_right _ hmem

/-! ## Brackets beside literals -/

theorem isBlank_of_isQuote {d : Char} (h : isQuote d = true) : Text.isBlank d = false := by
  rcases Bool.or_eq_true_iff.mp h with hd | hd <;> rw [eq_of_beq hd] <;> rfl

def Traced (c : Char) (line x y : Text) : Prop := ∃ a r, line = a ++ c :: r ∧ Shows collapseQuotes c a x ∧ Kept r y

/-- A bracket after text without quotes is left as it is. -/
theorem shows_code {x : Text} (hc : IsCurly c) (h : Quoteless x) : Shows collapseQuotes c x x where
  before := collapseQuotes_code h
  upTo := collapseQuotes_code fun d hd => by
    rcases List.mem_append.mp hd with hd | hd
    · exact h d hd
    · rw [List.mem_singleton.mp hd]
      exact hc.isQuote

/-- Where a number goes on at a quote, it has a digit after the bracket. -/
theorem exists_digit (hc : IsCurly c) {head x v : Text} (hline : '\n' ∉ head) (hnumber : numberAtEnd.occursIn head = true)
    (hsplit : head = x ++ c :: v) : ∃ d ∈ v, Text.isBlank d = false := by
  obtain ⟨last, hlast, hpart⟩ := number_last hline hnumber
  refine ⟨last, ?_, isBlank_of_isNumberPart hpart⟩
  rw [Text.getLast?_of_suffix (hsplit ▸ List.suffix_append x (c :: v)) (List.cons_ne_nil _ _)] at hlast
  cases v with
  | nil =>
    obtain rfl : c = last := by simpa using hlast
    cases hpart.symm.trans hc.isNumberPart
  | cons d v =>
    rw [List.getLast?_cons_cons] at hlast
    exact List.mem_of_getLast? hlast

section

variable {head : Text} {quote : Char} {x y : Text} (hc : IsCurly c) (hhead : Quoteless head)
  (hquote : isQuote quote = true)

include hc hhead

theorem shows_head {v : Text} (hsplit : head = x ++ c :: v) : Shows collapseQuotes c x x :=
  shows_code hc fun d hd => hhead d (by rw [hsplit]; exact List.mem_append_left _ hd)

include hquote

/-- A bracket after a quote that has no partner on the line is left as it is, too. -/
theorem shows_unmatched {tail : Text} (hnumber : ¬ Separates head quote) (hnone : quote ∉ tail) (hline : '\n' ∉ tail) :
    Shows collapseQuotes c (head ++ quote :: tail) (head ++ quote :: tail) where
  before := collapseQuotes_unmatched hhead hquote hline hnumber hnone
  upTo := by
    have hfeed : '\n' ≠ c := by rcases hc with rfl | rfl <;> decide
    rw [List.append_assoc, List.cons_append]
    refine collapseQuotes_unmatched hhead hquote ?_ hnumber ?_
    · simp [hline, hfeed]
    · simp [hnone, hc.ne_quote hquote]

theorem traced_unmatched {tail : Text} (hline : '\n' ∉ tail) (hnumber : ¬ Separates head quote) (hnone : quote ∉ tail)
    (h : collapseQuotes (head ++ quote :: tail) = x ++ c :: y) : Traced c (head ++ quote :: tail) x y := by
  rw [collapseQuotes_unmatched hhead hquote hline hnumber hnone] at h
  refine ⟨x, y, h, ?_, .refl y⟩
  rcases Bracket.cut_append h with ⟨m, rfl, hm⟩ | ⟨v, hv, -⟩
  · cases m with
    | nil => exact absurd (List.cons.inj hm).1 (hc.ne_quote hquote)
    | cons d m =>
      rw [List.cons_append] at hm
      obtain ⟨rfl, rfl⟩ := List.cons.inj hm
      simp only [List.mem_append, List.mem_cons, not_or] at hline hnone
      exact shows_unmatched hc hhead hquote hnumber hnone.1 hline.1
  · exact shows_head hc hhead hv

/-- The bracket stands before a closed literal or after it. -/
theorem traced_closed {body rest : Text} (hline : '\n' ∉ body ++ quote :: rest) (hnumber : ¬ Separates head quote)
    (hbody : quote ∉ body) (hrest : ∀ {x}, collapseQuotes rest = x ++ c :: y → Traced c rest x y)
    (h : collapseQuotes (head ++ quote :: (body ++ quote :: rest)) = x ++ c :: y) :
    Traced c (head ++ quote :: (body ++ quote :: rest)) x y := by
  simp only [List.mem_append, List.mem_cons, not_or] at hline
  have hclosed : ∀ u, '\n' ∉ u →
      collapseQuotes (head ++ quote :: (body ++ quote :: u)) = head ++ [quote, quote] ++ collapseQuotes u :=
    fun u hu => collapseQuotes_closed hhead hquote (by simp [hline, hu]) hnumber (after?_split hbody u)
  rw [hclosed rest hline.2.2] at h
  rcases Bracket.cut_append h with ⟨m, rfl, hm⟩ | ⟨v, hv, rfl⟩
  · obtain ⟨a, r, rfl, hshows, hkept⟩ := hrest hm
    simp only [List.mem_append, List.mem_cons, not_or] at hline
    refine ⟨head ++ quote :: (body ++ quote :: a), r, by simp, ⟨?_, ?_⟩, hkept⟩
    · rw [hclosed a hline.2.2.1, hshows.before]
    · have hcut := hclosed (a ++ [c]) (by simp [hline])
      rw [hshows.upTo] at hcut
      simpa using hcut
  · rcases Bracket.cut_append hv with ⟨m, -, hm⟩ | ⟨v, hsplit, rfl⟩
    · have hin : c ∈ [quote, quote] := by
        rw [hm]
        simp
      exact absurd (by simpa using hin) (hc.ne_quote hquote).symm
    · refine ⟨x, v ++ quote :: (body ++ quote :: rest), by simp [hsplit], shows_head hc hhead hsplit, ?_⟩
      refine .of_visible (d := quote) (fun d hd => .inl ?_) (by simp) (isBlank_of_isQuote hquote)
      simp only [List.mem_append, List.mem_cons, List.not_mem_nil, or_false] at hd ⊢
      rcases hd with (hd | hd | hd) | hd
      · exact .inl hd
      · exact .inr (.inl hd)
      · exact .inr (.inl hd)
      · exact .inr (.inr (.inr (.inr (mem_of_mem_collapseQuotes hline.2.2 hd))))

/-- The bracket stands before a number with quotes in it or after it. -/
theorem traced_number {tail : Text} (hline : '\n' ∉ head ++ quote :: tail) (hnumber : Separates head quote)
    (hrest : ∀ {rest x}, '\n' ∉ rest → rest.length < (head ++ quote :: tail).length →
      collapseQuotes rest = x ++ c :: y → Traced c rest x y)
    (h : collapseQuotes (head ++ quote :: tail) = x ++ c :: y) : Traced c (head ++ quote :: tail) x y := by
  have htail : '\n' ∉ quote :: tail := fun hmem => hline (List.mem_append_right _ hmem)
  obtain ⟨text, digits, rest, htext, hdigits, hcut⟩ := collapseQuotes_number_cut hhead hquote htail hnumber
  have hrestline : '\n' ∉ rest := fun hmem => htail (by rw [htext]; exact List.mem_append_right _ hmem)
  have hless : rest.length < (head ++ quote :: tail).length := by
    have := List.length_pos_iff.mpr (head_ne_nil_of_number hnumber.2)
    rw [htext, List.length_append, List.length_append]
    omega
  rw [htext, hcut rest [] (List.append_nil _).symm (htext ▸ List.cons_ne_nil _ _)] at h
  rw [htext]
  rcases Bracket.cut_append h with ⟨m, rfl, hm⟩ | ⟨v, hv, rfl⟩
  · obtain ⟨a, r, rfl, hshows, hkept⟩ := hrest hrestline hless hm
    refine ⟨head ++ (text ++ a), r, by simp, ⟨?_, ?_⟩, hkept⟩
    · rw [hcut a (c :: r) rfl ?_, hshows.before]
      intro hnil
      obtain ⟨rfl, rfl⟩ := List.append_eq_nil_iff.mp hnil
      exact hc.ne_quote hquote (List.cons.inj htext).1
    · have hmore := hcut (a ++ [c]) r (by simp) (by simp)
      rw [hshows.upTo] at hmore
      simpa using hmore
  · rcases Bracket.cut_append hv with ⟨m, -, hm⟩ | ⟨v, hsplit, rfl⟩
    · have hin : c ∈ digits := by
        rw [hm]
        simp
      cases (hdigits c hin).2.symm.trans hc.isNumberPart
    · have hheadline : '\n' ∉ head := fun hmem => hline (List.mem_append_left _ hmem)
      obtain ⟨digit, hdigit, hvisible⟩ := exists_digit hc hheadline hnumber.2 hsplit
      refine ⟨x, v ++ (text ++ rest), by simp [hsplit], shows_head hc hhead hsplit, ?_⟩
      refine .of_visible (d := digit) (fun d hd => .inl ?_) (by simp [hdigit]) hvisible
      simp only [List.mem_append] at hd ⊢
      rcases hd with (hd | hd) | hd
      · exact .inl hd
      · exact .inr (.inl (hdigits d hd).1)
      · exact .inr (.inr (mem_of_mem_collapseQuotes hrestline hd))

end

/-- A bracket that is left when the literals are emptied. -/
theorem collapseQuotes_shows (hc : IsCurly c) {line x y : Text} (hline : '\n' ∉ line)
    (h : collapseQuotes line = x ++ c :: y) : Traced c line x y := by
  induction hlength : line.length using Nat.strongRecOn generalizing line x with
  | _ length ih =>
    cases atFirstQuote hline with
    | code hcode =>
      rw [collapseQuotes_code hcode] at h
      subst h
      exact ⟨x, y, rfl, shows_code hc fun d hd => hcode d (List.mem_append_left _ hd), .refl y⟩
    | @unmatched head tail quote hhead hquote hnumber hnone =>
      have htail : '\n' ∉ tail := fun hmem => hline (by simp [hmem])
      exact traced_unmatched hc hhead hquote htail hnumber hnone h
    | @closed head body rest quote hhead hquote hnumber hbody =>
      have htail : '\n' ∉ body ++ quote :: rest := fun hmem => hline (by simp [hmem])
      have hrest : '\n' ∉ rest := fun hmem => htail (by simp [hmem])
      refine traced_closed hc hhead hquote htail hnumber hbody (fun hx => ?_) h
      exact ih rest.length (by simp [← hlength]; omega) hrest hx rfl
    | @number head tail quote hhead hquote hnumber =>
      refine traced_number hc hhead hquote hline hnumber (fun hrest hless hx => ?_) h
      exact ih _ (hlength ▸ hless) hrest hx rfl

/-! ## The line -/

/-- What is not blank does not get lost altogether: a literal leaves its quotes, and a number the digits before its
first quote. -/
theorem collapseQuotes_kept {line : Text} (hline : '\n' ∉ line) : Kept line (collapseQuotes line) := by
  have hsubset : ∀ d ∈ collapseQuotes line, d ∈ line ∨ d = '"' := fun d hd => .inl (mem_of_mem_collapseQuotes hline hd)
  cases atFirstQuote hline with
  | code hcode =>
    rw [collapseQuotes_code hcode]
    exact .refl line
  | @closed head body rest quote hhead hquote hnumber hbody =>
    have htail : '\n' ∉ body ++ quote :: rest := fun hmem => hline (by simp [hmem])
    rw [collapseQuotes_closed hhead hquote htail hnumber (after?_split hbody rest)] at hsubset ⊢
    exact .of_visible (d := quote) hsubset (by simp) (isBlank_of_isQuote hquote)
  | @unmatched head tail quote hhead hquote hnumber hnone =>
    have htail : '\n' ∉ tail := fun hmem => hline (by simp [hmem])
    rw [collapseQuotes_unmatched hhead hquote htail hnumber hnone]
    exact .refl _
  | @number head tail quote hhead hquote hnumber =>
    have htail : '\n' ∉ tail := fun hmem => hline (by simp [hmem])
    have hheadline : '\n' ∉ head := fun hmem => hline (List.mem_append_left _ hmem)
    obtain ⟨last, hlast, hpart⟩ := number_last hheadline hnumber.2
    rw [collapseQuotes_number hhead hquote htail hnumber] at hsubset ⊢
    exact .of_visible (d := last) hsubset (by simp [List.mem_of_getLast? hlast]) (isBlank_of_isNumberPart hpart)

/-- A bracket that is left when literals are emptied, on a line with no include directive. -/
theorem collapse_shows (hc : IsCurly c) {line x y : Text} (hline : '\n' ∉ line) (hcode : Include.ofLine? line = none)
    (h : collapse line = x ++ c :: y) :
    ∃ a r, line = a ++ c :: r ∧ Shows collapse c a x ∧ ('\\' ∉ r → Kept r y) := by
  rw [collapse_of_code hcode] at h
  have hescapes : '\n' ∉ dropEscapes line := fun hmem => hline ((dropEscapes_sublist line).subset hmem)
  obtain ⟨w, r', hsplit, hquotes, hkept⟩ := collapseQuotes_shows hc hescapes h
  obtain ⟨a, r, rfl, hcut, hrest⟩ := dropEscapes_shows hc hsplit
  refine ⟨a, r, rfl, ⟨?_, ?_⟩, fun hbackslash => ?_⟩
  · rw [collapse_of_code (Include.ofLine?_front hline hcode), hcut.before, hquotes.before]
  · have hupTo : a ++ c :: r = a ++ [c] ++ r := by simp
    rw [hupTo] at hline hcode
    rw [collapse_of_code (Include.ofLine?_front hline hcode), hcut.upTo, hquotes.upTo]
  · rw [dropEscapes_of_notMem hbackslash] at hrest
    rw [hrest]
    exact hkept

/-- What is blank with its literals emptied is so from the beginning, unless escapes are taken out. -/
theorem collapse_kept {line : Text} (hline : '\n' ∉ line) (hbackslash : '\\' ∉ line) : Kept line (collapse line) := by
  by_cases hinclude : (Include.ofLine? line).isSome = true
  · rw [collapse_of_include hinclude]
    exact .refl line
  · rw [collapse_of_code (Option.not_isSome_iff_eq_none.mp hinclude), dropEscapes_of_notMem hbackslash]
    exact collapseQuotes_kept hline

end Literal

end StyleCheck
