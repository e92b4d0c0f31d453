/-
  StyleCheck.Proofs.Source.StringLiteral — strings are emptied, and nothing else is touched.

  A line is code with strings in it (`quoted`). A string holds plain characters, single quotes among
  them, and escape sequences (`Body`); the code around it holds neither quotes nor backslashes (`Bare`).

  1. Escape sequences are taken out of the whole line before quotes are paired. Digits are taken with
     the sequence as far as they go, and a string may go on with digits of its own. They never go beyond
     the quote that closes the string, so every string keeps its two quotes (`dropEscapes_body`).
  2. After that the first quote of the line opens a string and the next double quote closes it
     (`collapseQuotes_string`).
  3. Both together, string after string: `collapse_empties_exactly_the_strings`.
-/

import StyleCheck.Proofs.Text.Cut
import StyleCheck.Source.Literal

namespace StyleCheck

namespace Literal

/-! ## Lines with strings in them -/

inductive Escape : Text → Prop where
  | simple {c : Char} : c ∈ "abfnrtv?\"\\'".toList → Escape [c]
  | decimal {c : Char} {more : Text} : (∀ d ∈ c :: more, Text.isDecimal d = true) → Escape (c :: more)
  | hexadecimal {c : Char} {more : Text} : (∀ d ∈ c :: more, isHexDigit d = true) → Escape ('x' :: c :: more)

inductive Body : Text → Prop where
  | nil : Body []
  | plain {c : Char} {s : Text} : c ≠ '"' → c ≠ '\\' → Body s → Body (c :: s)
  | escape {e s : Text} : Escape e → Body s → Body ('\\' :: (e ++ s))

def Bare (s : Text) : Prop := ∀ c ∈ s, c ≠ '"' ∧ c ≠ '\'' ∧ c ≠ '\\'

instance (s : Text) : Decidable (Bare s) := List.decidableBAll _ s

/-- The text `code` and the given strings after it, each followed by its own piece of code. -/
def quoted (code : Text) : List (Text × Text) → Text
  | [] => code
  | (body, after) :: rest => code ++ '"' :: (body ++ '"' :: quoted after rest)

/-! ## Escapes -/

theorem dropEscapes_go (n : Nat) (s : Text) : dropEscapes.go n s = dropEscapes (s.drop n) := by
  induction n generalizing s with
  | zero => rfl
  | succ n ih =>
    cases s with
    | nil => rfl
    | cons c s => exact ih s

theorem dropEscapes_cons {c : Char} (hc : c ≠ '\\') (s : Text) : dropEscapes (c :: s) = c :: dropEscapes s := by
  unfold dropEscapes
  rw [dropEscapes.go, if_neg (by simpa using hc)]

theorem dropEscapes_escape {s : Text} {n : Nat} (h : escapeLength? s = some n) :
    dropEscapes ('\\' :: s) = dropEscapes (s.drop n) := by
  rw [dropEscapes, dropEscapes.go, if_pos (beq_self_eq_true '\\')]
  simp only [h]
  exact dropEscapes_go n s

theorem dropEscapes_append {s : Text} (h : '\\' ∉ s) (t : Text) : dropEscapes (s ++ t) = s ++ dropEscapes t := by
  induction s with
  | nil => rfl
  | cons c s ih =>
    rw [List.mem_cons, not_or] at h
    rw [List.cons_append, dropEscapes_cons (Ne.symm h.1), ih h.2, List.cons_append]

theorem dropEscapes_of_notMem {s : Text} (h : '\\' ∉ s) : dropEscapes s = s := by
  have hwhole := dropEscapes_append h []
  rw [List.append_nil] at hwhole
  rw [hwhole]
  exact List.append_nil s

theorem dropEscapes_sublist (s : Text) : (dropEscapes s).Sublist s := by
  unfold dropEscapes
  generalize 0 = n
  fun_induction dropEscapes.go n s with
  | case1 => exact List.Sublist.refl []
  | case2 n c s ih => exact ih.cons c
  | case3 c s _ n _ ih => exact ih.cons c
  | case4 c s _ _ ih => exact ih.cons_cons c
  | case5 c s _ ih => exact ih.cons_cons c

/-- An escape sequence is taken out with the digits that follow it. -/
theorem dropEscapes_sequence {e : Text} (h : Escape e) (s t : Text) :
    ∃ p : Char → Bool, p '\\' = false ∧
      dropEscapes ('\\' :: (e ++ (s ++ '"' :: t))) = dropEscapes (s.dropWhile p ++ '"' :: t) := by
  have hset : ∀ {c : Char}, Text.isDecimal c = true → "abfnrtv?\"\\'".toList.contains c = false := by
    intro c hdec
    rw [Bool.eq_false_iff]
    intro hmem
    have hall : "abfnrtv?\"\\'".toList.all (fun d => !Text.isDecimal d) = true := by decide
    have hnot := List.all_eq_true.mp hall c (List.contains_iff_mem.mp hmem)
    rw [hdec] at hnot
    cases hnot
  cases h with
  | simple hc =>
    refine ⟨fun _ => false, rfl, ?_⟩
    have hlength : ∀ rest, escapeLength? (_ :: rest) = some 1 := fun rest => by
      rw [escapeLength?, if_pos (List.contains_iff_mem.mpr hc)]
    rw [List.singleton_append, dropEscapes_escape (hlength _), List.drop_one, List.tail_cons]
    cases s <;> rfl
  | @decimal c more hall =>
    refine ⟨Text.isDecimal, by decide, ?_⟩
    have hc := hall c List.mem_cons_self
    have hlength : escapeLength? (c :: more ++ (s ++ '"' :: t))
        = some ((c :: more ++ (s ++ '"' :: t)).takeWhile Text.isDecimal).length := by
      rw [List.cons_append, escapeLength?, hset hc, if_neg Bool.false_ne_true, if_pos hc]
    rw [dropEscapes_escape hlength, Text.drop_length_takeWhile, List.dropWhile_append_of_pos hall,
      Text.dropWhile_append_stop (by decide)]
  | @hexadecimal c more hall =>
    refine ⟨isHexDigit, by decide, ?_⟩
    have hc := hall c List.mem_cons_self
    have hlength : escapeLength? ('x' :: c :: more ++ (s ++ '"' :: t))
        = some (((c :: more ++ (s ++ '"' :: t)).takeWhile isHexDigit).length + 1) := by
      have hx : "abfnrtv?\"\\'".toList.contains 'x' = false := by decide
      have hd : Text.isDecimal 'x' = false := by decide
      have hsome : ((c :: more ++ (s ++ '"' :: t)).takeWhile isHexDigit).length
          = ((more ++ (s ++ '"' :: t)).takeWhile isHexDigit).length + 1 := by
        rw [List.cons_append, List.takeWhile_cons_of_pos hc, List.length_cons]
      rw [List.cons_append, List.cons_append, escapeLength?, hx, hd]
      simp only [Bool.false_eq_true, if_false, beq_self_eq_true, if_true]
      rw [← List.cons_append, hsome]
    rw [dropEscapes_escape hlength]
    show dropEscapes ((c :: more ++ (s ++ '"' :: t)).drop _) = _
    rw [Text.drop_length_takeWhile, List.dropWhile_append_of_pos hall, Text.dropWhile_append_stop (by decide)]

/-- Of the inside of a string something without double quotes is left, and the quote that closes it
stays where it is. -/
theorem dropEscapes_body {s : Text} (h : Body s) (t : Text) :
    ∃ s', '"' ∉ s' ∧ dropEscapes (s ++ '"' :: t) = s' ++ '"' :: dropEscapes t := by
  -- for the digits that an escape takes with it: any characters may be missing at the front
  suffices hfront : ∀ p : Char → Bool, p '\\' = false →
      ∃ s', '"' ∉ s' ∧ dropEscapes (s.dropWhile p ++ '"' :: t) = s' ++ '"' :: dropEscapes t by
    have hwhole : s.dropWhile (fun _ => false) = s := by cases s <;> rfl
    have hall := hfront (fun _ => false) rfl
    rwa [hwhole] at hall
  induction h with
  | nil =>
    intro p _
    exact ⟨[], by simp, dropEscapes_cons (by decide) t⟩
  | @plain c s hquote hslash _ ih =>
    intro p hp
    by_cases hc : p c = true
    · rw [List.dropWhile_cons_of_pos hc]
      exact ih p hp
    · obtain ⟨s', hs', hdrop⟩ := ih (fun _ => false) rfl
      have hwhole : s.dropWhile (fun _ => false) = s := by cases s <;> rfl
      rw [hwhole] at hdrop
      refine ⟨c :: s', by simp [Ne.symm hquote, hs'], ?_⟩
      rw [List.dropWhile_cons_of_neg hc, List.cons_append, dropEscapes_cons hslash, hdrop, List.cons_append]
  | @escape e s he _ ih =>
    intro p hp
    obtain ⟨q, hq, hdrop⟩ := dropEscapes_sequence he s t
    obtain ⟨s', hs', hrest⟩ := ih q hq
    refine ⟨s', hs', ?_⟩
    rw [List.dropWhile_cons_of_neg (by simp [hp]), List.cons_append, List.append_assoc, hdrop, hrest]

/-! ## Quotes -/

theorem Bare.isQuote {s : Text} (h : Bare s) : ∀ c ∈ s, (!isQuote c) = true := by
  intro c hc
  obtain ⟨hdouble, hsingle, -⟩ := h c hc
  simp [Literal.isQuote, hdouble, hsingle]

theorem Bare.backslash_notMem {s : Text} (h : Bare s) : '\\' ∉ s := fun hmem => (h '\\' hmem).2.2 rfl

theorem collapseQuotes_bare {s : Text} (h : Bare s) : collapseQuotes s = s := by
  have hnone : atQuote? s = none := by
    have hrest : s.dropWhile (fun c => !isQuote c) = [] := List.dropWhile_eq_nil_iff.mpr h.isQuote
    unfold atQuote?
    rw [hrest]
  rw [collapseQuotes]
  split
  · rfl
  · rename_i hsome
    rw [hnone] at hsome
    cases hsome

/-- The first string of a line is emptied, and the search goes on after it. -/
theorem collapseQuotes_string {code body rest : Text} (hcode : Bare code) (hbody : '"' ∉ body)
    (hline : '\n' ∉ body ++ '"' :: rest) :
    collapseQuotes (code ++ '"' :: (body ++ '"' :: rest)) = code ++ emptyString ++ collapseQuotes rest := by
  have hstop : (!isQuote '"') = false := rfl
  have hquote : atQuote? (code ++ '"' :: (body ++ '"' :: rest)) = some ⟨code, '"', body ++ '"' :: rest⟩ := by
    unfold atQuote?
    rw [List.dropWhile_append_of_pos hcode.isQuote, List.dropWhile_cons_of_neg (by simp [hstop])]
    simp only
    rw [Text.restOfLine?_of_notMem hline, List.takeWhile_append_of_pos hcode.isQuote,
      List.takeWhile_cons_of_neg (by simp [hstop]), List.append_nil]
    rfl
  have hafter : after? '"' (body ++ '"' :: rest) = some rest := by
    unfold after?
    rw [List.dropWhile_append_of_pos (Text.forall_bne_of_notMem hbody), List.dropWhile_cons_of_neg (by simp)]
  rw [collapseQuotes]
  split
  · rename_i hnone
    rw [hquote] at hnone
    cases hnone
  · rename_i q hsome
    rw [hquote] at hsome
    cases hsome
    simp only [beq_self_eq_true, if_true]
    split
    · rename_i rest' hrest
      rw [hafter] at hrest
      cases hrest
      rfl
    · rename_i hnone
      rw [hafter] at hnone
      cases hnone

/-! ## All strings of a line -/

theorem collapseQuotes_quoted {code : Text} {strings : List (Text × Text)} (hcode : Bare code)
    (hstrings : ∀ string ∈ strings, Body string.1 ∧ Bare string.2) (hline : '\n' ∉ quoted code strings) :
    collapseQuotes (dropEscapes (quoted code strings)) = quoted code (strings.map fun string => ([], string.2)) := by
  induction strings generalizing code with
  | nil =>
    rw [quoted, dropEscapes_of_notMem hcode.backslash_notMem, collapseQuotes_bare hcode]
    rfl
  | cons string strings ih =>
    obtain ⟨body, after⟩ := string
    obtain ⟨⟨hbody, hafter⟩, hrest⟩ := List.forall_mem_cons.mp hstrings
    obtain ⟨body', hquote, hdrop⟩ := dropEscapes_body hbody (quoted after strings)
    have hlater : '\n' ∉ quoted after strings := fun hmem => hline (by simp [quoted, hmem])
    -- the line without escapes: its first string still ends where it did
    have hescapes : dropEscapes (quoted code ((body, after) :: strings))
        = code ++ '"' :: (body' ++ '"' :: dropEscapes (quoted after strings)) := by
      rw [quoted, dropEscapes_append hcode.backslash_notMem, dropEscapes_cons (by decide), hdrop]
    have hfeed : '\n' ∉ body' ++ '"' :: dropEscapes (quoted after strings) := by
      intro hmem
      have hsub := dropEscapes_sublist (quoted code ((body, after) :: strings))
      rw [hescapes] at hsub
      exact hline (hsub.mem (List.mem_append_right code (List.mem_cons_of_mem _ hmem)))
    rw [hescapes, collapseQuotes_string hcode hquote hfeed, ih hafter hrest hlater]
    simp [quoted, emptyString]

theorem collapse_of_include {line : Text} (h : (Include.ofLine? line).isSome = true) : collapse line = line := by
  rw [collapse, if_pos h]

theorem collapse_of_code {line : Text} (h : Include.ofLine? line = none) :
    collapse line = collapseQuotes (dropEscapes line) := by
  rw [collapse, h, Option.isSome_none, if_neg Bool.false_ne_true]

theorem collapse_bare {s : Text} (h : Bare s) : collapse s = s := by
  cases hinclude : Include.ofLine? s with
  | none => rw [collapse_of_code hinclude, dropEscapes_of_notMem h.backslash_notMem, collapseQuotes_bare h]
  | some inc => exact collapse_of_include (hinclude ▸ rfl)

/-- On a line of code with any number of strings in it every string becomes empty, whatever it holds, and
all the code between the strings is kept. Only include lines are left as they are. -/
theorem collapse_empties_exactly_the_strings (code : Text) (strings : List (Text × Text)) (hcode : Bare code)
    (hstrings : ∀ string ∈ strings, Body string.1 ∧ Bare string.2) (hline : '\n' ∉ quoted code strings)
    (hinclude : Include.ofLine? (quoted code strings) = none) :
    collapse (quoted code strings) = quoted code (strings.map fun string => ([], string.2)) := by
  unfold collapse
  rw [hinclude, Option.isSome_none, if_neg Bool.false_ne_true]
  exact collapseQuotes_quoted hcode hstrings hline

/-- Two strings: one with an apostrophe, an escaped quote and an escaped backslash at its end, one with
escapes that digits follow. -/
theorem collapse_empties_exactly_the_strings_escaped :
    collapse "f(\"'\\\"\\\\\", \"\\189\\x4a5z\");".toList = "f(\"\", \"\");".toList := by
  have hfirst : Body ['\'', '\\', '"', '\\', '\\'] :=
    .plain (by decide) (by decide) (.escape (.simple (by decide)) (.escape (.simple (by decide)) .nil))
  have hsecond : Body ['\\', '1', '8', '9', '\\', 'x', '4', 'a', '5', 'z'] :=
    .escape (e := ['1', '8']) (.decimal (List.all_eq_true.mp (by decide)))
      (.plain (by decide) (by decide)
        (.escape (e := ['x', '4']) (.hexadecimal (List.all_eq_true.mp (by decide)))
          (.plain (by decide) (by decide) (.plain (by decide) (by decide) (.plain (by decide) (by decide) .nil)))))
  have hbare : Bare "f(".toList ∧ Bare ", ".toList ∧ Bare ");".toList := by decide
  exact collapse_empties_exactly_the_strings "f(".toList [(_, ", ".toList), (_, ");".toList)] hbare.1
    (by simp only [List.mem_cons, List.not_mem_nil, or_false, forall_eq_or_imp, forall_eq]
        exact ⟨⟨hfirst, hbare.2.1⟩, hsecond, hbare.2.2⟩)
    (by decide) (by decide)

end Literal

end StyleCheck
