/-
  StyleCheck.Proofs.Source.CutRawString — where a curly bracket comes from that is left when raw strings are emptied.

  An opener is one whatever follows it on the line (`opener?_append`), and the first raw string of a line is emptied in
  the same way wherever the line ends after it (`emptyOpeners_cases`). So a bracket that is left stands on the line, and
  what is made of the line up to there does not depend on what follows (`emptyOpeners_shows`), with a raw string that is
  open when the line begins as well (`emptyLine_shows`). A raw string always leaves its quotes (`emptyLine_kept`).
-/

import StyleCheck.Proofs.Source.CutLiteral
import StyleCheck.Proofs.Source.RawSettled

namespace StyleCheck.RawString

/-! ## Openers -/

variable {c : Char}

theorem openerAt?_append {u : Text} (h : '(' ∈ u) (v : Text) :
    openerAt? (u ++ v) = (openerAt? u).map fun found => (found.1, found.2 ++ v) := by
  obtain ⟨front, t, rfl⟩ := List.append_of_mem h
  rw [List.append_assoc, List.cons_append, openerAt?_bracket, openerAt?_bracket front t, Option.map_map]
  simp only [Function.comp_def, List.append_assoc]

theorem bracket_mem_of_findOpener? {passed s : Text} {o : Opener} (h : findOpener? passed s = some o) : '(' ∈ s := by
  by_cases hmem : '(' ∈ s
  · exact hmem
  · rw [findOpener?_of_notMem hmem] at h
    cases h

/-- An opener is one whatever follows. -/
theorem findOpener?_append {passed u : Text} {o : Opener} (h : findOpener? passed u = some o) (v : Text) :
    findOpener? passed (u ++ v) = some ⟨o.before, o.delimiter, o.body ++ v⟩ := by
  fun_induction findOpener? passed u with
  | case1 s passed inWord delimiter body hfound =>
    cases h
    by_cases hword : inWord = true
    · rw [if_pos hword] at hfound
      cases hfound
    · rw [if_neg hword] at hfound
      obtain ⟨mark, -, hs⟩ := openerAt?_eq_some hfound
      have hmem : '(' ∈ s := by simp [hs, opening]
      have hlong := openerAt?_append hmem v
      rw [hfound] at hlong
      rw [findOpener?.eq_def]
      simp only
      rw [if_neg hword, hlong]
      rfl
  | case2 => cases h
  | case3 passed inWord d s hnone ih =>
    have hmem : '(' ∈ d :: s := List.mem_cons_of_mem d (bracket_mem_of_findOpener? h)
    have hlong : (if inWord = true then none else openerAt? (d :: (s ++ v))) = none := by
      by_cases hword : inWord = true
      · rw [if_pos hword]
      · rw [if_neg hword] at hnone ⊢
        rw [← List.cons_append, openerAt?_append hmem, hnone]
        rfl
    rw [List.cons_append, findOpener?.eq_def]
    simp only
    rw [hlong]
    exact ih h

theorem findOpener?_eq_some {passed s : Text} {o : Opener} (h : findOpener? passed s = some o) :
    ∃ front mark, s = front ++ (opening mark o.delimiter ++ o.body) ∧ o.before = passed.reverse ++ front := by
  fun_induction findOpener? passed s with
  | case1 s passed inWord delimiter body hfound =>
    cases h
    by_cases hword : inWord = true
    · rw [if_pos hword] at hfound
      cases hfound
    · rw [if_neg hword] at hfound
      obtain ⟨mark, -, hs⟩ := openerAt?_eq_some hfound
      exact ⟨[], mark, hs, (List.append_nil _).symm⟩
  | case2 => cases h
  | case3 passed inWord d s hnone ih =>
    obtain ⟨front, mark, hs, hbefore⟩ := ih h
    exact ⟨d :: front, mark, by rw [hs]; rfl, by simp [hbefore]⟩

theorem opener?_eq_some {line : Text} {o : Opener} (hline : '\n' ∉ line) (h : opener? line = some o) :
    ∃ mark, line = o.before ++ (opening mark o.delimiter ++ o.body) := by
  rw [opener?_of_notMem hline] at h
  obtain ⟨front, mark, hs, hbefore⟩ := findOpener?_eq_some h
  refine ⟨mark, ?_⟩
  rw [hs, hbefore]
  rfl

theorem opener?_append {u v : Text} {o : Opener} (hline : '\n' ∉ u ++ v) (h : opener? u = some o) :
    opener? (u ++ v) = some ⟨o.before, o.delimiter, o.body ++ v⟩ := by
  have hu : '\n' ∉ u := fun hmem => hline (List.mem_append_left _ hmem)
  rw [opener?_of_notMem hu] at h
  rw [opener?_of_notMem hline]
  exact findOpener?_append h v

/-- Where nothing is to be emptied in a line, nothing is in its beginning. -/
theorem Settled.front {u v : Text} (hline : '\n' ∉ u ++ v) (h : Settled (u ++ v)) : Settled u :=
  fun o ho => h ⟨o.before, o.delimiter, o.body ++ v⟩ (opener?_append hline ho)

/-- A line that is cut before its first opener has none. -/
theorem opener?_front {line u v : Text} {o : Opener} (hline : '\n' ∉ line) (h : opener? line = some o)
    (hbefore : o.before = u ++ v) : opener? u = none := by
  obtain ⟨mark, hsplit⟩ := opener?_eq_some hline h
  have hlong : line = u ++ (v ++ (opening mark o.delimiter ++ o.body)) := by
    rw [hsplit, hbefore, List.append_assoc]
  cases hu : opener? u with
  | none => rfl
  | some o' =>
    have hsame := opener?_append (hlong ▸ hline) hu
    rw [← hlong, h] at hsame
    have hu' : '\n' ∉ u := fun hmem => hline (by rw [hlong]; exact List.mem_append_left _ hmem)
    obtain ⟨mark', hsplit'⟩ := opener?_eq_some hu' hu
    have hlength := congrArg List.length hsplit'
    have heq : o'.before = u ++ v := by
      rw [← hbefore, Option.some.inj hsame]
    rw [heq] at hlength
    simp only [opening, List.length_append, List.length_cons] at hlength
    omega

/-! ## Lines with raw strings -/

/-- The three ways in which the search for raw strings goes on from the beginning of a line. -/
theorem emptyOpeners_cases {line : Text} (hline : '\n' ∉ line) :
    (Settled line ∧ emptyOpeners line = (line, none)) ∨
    (∃ o, opener? line = some o ∧ emptyOpeners line = (o.before ++ Literal.emptyString, some (closing o.delimiter))) ∨
    ∃ before mark delimiter text after,
      line = before ++ (opening mark delimiter ++ (text ++ (closing delimiter ++ after))) ∧
      '\n' ∉ before ++ (Literal.emptyString ++ after) ∧
      ∀ after', '\n' ∉ after' → emptyOpeners (before ++ (opening mark delimiter ++ (text ++ (closing delimiter ++ after'))))
        = emptyOpeners (before ++ (Literal.emptyString ++ after')) := by
  cases ho : opener? line with
  | none => exact .inl ⟨settled_of_none ho, emptyOpeners_of_settled (settled_of_none ho)⟩
  | some o =>
    by_cases hcode : lineComment.opens o.before = true
    · have hsettled : Settled line := fun o' ho' => by
        cases ho.symm.trans ho'
        exact hcode
      exact .inl ⟨hsettled, emptyOpeners_of_settled hsettled⟩
    · rw [Bool.not_eq_true] at hcode
      cases hi : Text.locate? (closing o.delimiter) o.body with
      | none => exact .inr (.inl ⟨o, rfl, emptyOpeners_of_open ho hcode hi⟩)
      | some i =>
        obtain ⟨mark, hsplit⟩ := opener?_eq_some hline ho
        obtain ⟨⟨after, hbody⟩, hends⟩ := Text.locate?_eq_some (closing_ne_nil _) hi
        have hall : line = o.before ++ (opening mark o.delimiter ++
            (o.body.take i ++ (closing o.delimiter ++ after))) := by rw [← hbody, ← hsplit]
        have hparts : '\n' ∉ o.before ∧ '\n' ∉ opening mark o.delimiter ∧ '\n' ∉ o.body.take i ∧
            '\n' ∉ closing o.delimiter ∧ '\n' ∉ after := by
          rw [hall] at hline
          simpa only [List.mem_append, not_or] using hline
        refine .inr (.inr ⟨o.before, mark, o.delimiter, o.body.take i, after, hall, ?_, fun after' hafter' => ?_⟩)
        · simp [Literal.emptyString, hparts]
        · refine emptyOpeners_inline (opener?_bracket (hsplit ▸ ho) (hsplit ▸ hline) ?_) hcode hends
          simp only [List.mem_append, not_or]
          exact ⟨hparts.1, hparts.2.1, hparts.2.2.1, hparts.2.2.2.1, hafter'⟩

/-- What is emptied leaves its quotes. -/
theorem kept_of_emptied {line before after : Text} (hbefore : ∀ d ∈ before, d ∈ line) (hafter : ∀ d ∈ after, d ∈ line) :
    Kept line (before ++ (Literal.emptyString ++ after)) := by
  refine .of_visible (d := '"') (fun d hd => ?_) (by simp [Literal.emptyString]) (by decide)
  simp only [Literal.emptyString, List.mem_append, List.mem_cons, List.not_mem_nil, or_false, or_self] at hd
  rcases hd with hd | hd | hd
  · exact .inl (hbefore d hd)
  · exact .inr hd
  · exact .inl (hafter d hd)

theorem shows_settled {u : Text} (hline : '\n' ∉ u ++ [c]) (h : Settled (u ++ [c])) :
    Shows (fun t => (emptyOpeners t).1) c u u where
  before := by rw [emptyOpeners_of_settled (h.front hline)]
  upTo := by rw [emptyOpeners_of_settled h]

/-- A bracket that is left when raw strings are emptied. -/
theorem emptyOpeners_shows (hc : IsCurly c) {line x y : Text} (hline : '\n' ∉ line)
    (h : (emptyOpeners line).1 = x ++ c :: y) :
    ∃ a r, line = a ++ c :: r ∧ Shows (fun t => (emptyOpeners t).1) c a x ∧ Kept r y := by
  induction hlength : line.length using Nat.strongRecOn generalizing line x with
  | _ length ih =>
    rcases emptyOpeners_cases hline with
      ⟨hsettled, heq⟩ | ⟨o, ho, heq⟩ | ⟨before, mark, delimiter, text, after, rfl, hnext, heq⟩
    · rw [heq] at h
      have hsplit : line = x ++ [c] ++ y := by rw [List.append_assoc]; exact h
      rw [hsplit] at hsettled hline
      exact ⟨x, y, h, shows_settled (notMem_upTo (by simpa using hline)) (hsettled.front hline), .refl y⟩
    · rw [heq] at h
      obtain ⟨mark, hsplit⟩ := opener?_eq_some hline ho
      rcases Bracket.cut_append h with ⟨m, -, hm⟩ | ⟨v, hv, rfl⟩
      · exact absurd (by rw [hm]; simp) hc.notMem_emptyString
      · have hwhole : line = x ++ c :: (v ++ (opening mark o.delimiter ++ o.body)) := by
          rw [hsplit, hv]
          simp
        have hbefore : o.before = x ++ [c] ++ v := by rw [hv]; simp
        have hsettled := settled_of_none (opener?_front hline ho hbefore)
        refine ⟨x, _, hwhole, shows_settled (notMem_upTo (hwhole ▸ hline)) hsettled, ?_⟩
        have hkept : Kept (v ++ (opening mark o.delimiter ++ o.body)) (v ++ (Literal.emptyString ++ [])) :=
          kept_of_emptied (fun d hd => List.mem_append_left _ hd) fun d hd => by cases hd
        simpa using hkept
    · have hafter : '\n' ∉ after := fun hmem => hnext (by simp [hmem])
      rw [heq after hafter] at h
      obtain ⟨a, r, hsplit, hshows, hkept⟩ :=
        ih _ (by simp [← hlength, Literal.emptyString, opening, closing]; omega) hnext h rfl
      rcases Bracket.cut_append hsplit with ⟨m, rfl, hm⟩ | ⟨v, rfl, rfl⟩
      · rcases Bracket.cut_append hm with ⟨m, rfl, rfl⟩ | ⟨v, hv, -⟩
        · -- The bracket stands after the raw string, which is emptied however the line is cut after it.
          have hm : '\n' ∉ m := fun hmem => hafter (List.mem_append_left _ hmem)
          refine ⟨before ++ (opening mark delimiter ++ (text ++ (closing delimiter ++ m))), r, by simp, ⟨?_, ?_⟩, hkept⟩
          · exact (congrArg Prod.fst (heq m hm)).trans hshows.before
          · have hcut := heq (m ++ [c]) (notMem_upTo hafter)
            have hupTo := hshows.upTo
            simp only [List.append_assoc] at hcut hupTo ⊢
            rw [hcut]
            exact hupTo
        · exact absurd (by rw [hv]; simp) hc.notMem_emptyString
      · refine ⟨a, v ++ (opening mark delimiter ++ (text ++ (closing delimiter ++ after))), by simp, hshows, .trans ?_ hkept⟩
        refine kept_of_emptied (fun d hd => List.mem_append_left _ hd) fun d hd => ?_
        simp [hd]

theorem emptyOpeners_kept {line : Text} (hline : '\n' ∉ line) : Kept line (emptyOpeners line).1 := by
  induction hlength : line.length using Nat.strongRecOn generalizing line with
  | _ length ih =>
    rcases emptyOpeners_cases hline with ⟨-, heq⟩ | ⟨o, ho, heq⟩ | ⟨before, mark, delimiter, text, after, rfl, hnext, heq⟩
    · rw [heq]
      exact .refl line
    · rw [heq]
      obtain ⟨mark, hsplit⟩ := opener?_eq_some hline ho
      have hkept : Kept line (o.before ++ (Literal.emptyString ++ [])) :=
        kept_of_emptied (fun d hd => by rw [hsplit]; exact List.mem_append_left _ hd) fun d hd => by cases hd
      simpa using hkept
    · rw [heq after fun hmem => hnext (by simp [hmem])]
      refine .trans (kept_of_emptied (fun d hd => ?_) fun d hd => ?_)
        (ih _ (by simp [← hlength, Literal.emptyString, opening, closing]; omega) hnext rfl)
      · exact List.mem_append_left _ hd
      · simp [hd]

/-! ## Raw strings from above -/

/-- No raw string is open, or one that its own closing text ends. -/
def Closable (pending : Option Text) : Prop := pending = none ∨ ∃ delimiter, pending = some (closing delimiter)

theorem emptyOpeners_closable {line : Text} (hline : '\n' ∉ line) : Closable (emptyOpeners line).2 := by
  induction hlength : line.length using Nat.strongRecOn generalizing line with
  | _ length ih =>
    rcases emptyOpeners_cases hline with ⟨-, heq⟩ | ⟨o, -, heq⟩ | ⟨before, mark, delimiter, text, after, rfl, hnext, heq⟩
    · rw [heq]
      exact .inl rfl
    · rw [heq]
      exact .inr ⟨o.delimiter, rfl⟩
    · rw [heq after fun hmem => hnext (by simp [hmem])]
      exact ih _ (by simp [← hlength, Literal.emptyString, opening, closing]; omega) hnext rfl

/-- The line on which a raw string from above ends, or one that lies within it. -/
theorem emptyLine_pending (delimiter line : Text) :
    emptyLine (some (closing delimiter)) line = (Literal.emptyString, some (closing delimiter)) ∨
    ∃ last rest, line = last ++ (closing delimiter ++ rest) ∧
      ∀ rest', emptyLine (some (closing delimiter)) (last ++ (closing delimiter ++ rest'))
        = emptyOpeners (last.takeWhile Text.isBlank ++ (Literal.emptyString ++ rest')) := by
  cases hi : Text.locate? (closing delimiter) line with
  | none =>
    left
    simp only [emptyLine, hi]
  | some i =>
    obtain ⟨⟨rest, hsplit⟩, hends⟩ := Text.locate?_eq_some (closing_ne_nil _) hi
    exact .inr ⟨line.take i, rest, hsplit, emptyLine_closed hends⟩

theorem notMem_margin {d : Char} (hd : Text.isBlank d = false) (s : Text) : d ∉ s.takeWhile Text.isBlank := by
  intro hmem
  cases (List.all_eq_true.mp List.all_takeWhile d hmem).symm.trans hd

/-- The line that is left when the raw string from above has ended. -/
theorem feed_notMem_left {delimiter last rest : Text} (hline : '\n' ∉ last ++ (closing delimiter ++ rest)) :
    '\n' ∉ last.takeWhile Text.isBlank ++ (Literal.emptyString ++ rest) := by
  simp only [List.mem_append, not_or] at hline ⊢
  exact ⟨fun hmem => hline.1 ((List.takeWhile_sublist _).subset hmem), by decide, hline.2.2⟩

theorem emptyLine_closable {pending : Option Text} (hpending : Closable pending) {line : Text} (hline : '\n' ∉ line) :
    Closable (emptyLine pending line).2 := by
  rcases hpending with rfl | ⟨delimiter, rfl⟩
  · exact emptyOpeners_closable hline
  · rcases emptyLine_pending delimiter line with heq | ⟨last, rest, rfl, heq⟩
    · rw [heq]
      exact .inr ⟨delimiter, rfl⟩
    · rw [heq]
      exact emptyOpeners_closable (feed_notMem_left hline)

theorem pendingAfter_closable {lines : List Text} (hlines : ∀ line ∈ lines, '\n' ∉ line) {pending : Option Text}
    (hpending : Closable pending) : Closable (pendingAfter pending lines) := by
  induction lines generalizing pending with
  | nil => exact hpending
  | cons line lines ih =>
    obtain ⟨hline, hlines⟩ := List.forall_mem_cons.mp hlines
    exact ih hlines (emptyLine_closable hpending hline)

theorem emptyLine_kept {pending : Option Text} (hpending : Closable pending) {line : Text} (hline : '\n' ∉ line) :
    Kept line (emptyLine pending line).1 := by
  rcases hpending with rfl | ⟨delimiter, rfl⟩
  · exact emptyOpeners_kept hline
  · rcases emptyLine_pending delimiter line with heq | ⟨last, rest, rfl, heq⟩
    · rw [heq]
      have hkept : Kept line ([] ++ (Literal.emptyString ++ [])) :=
        kept_of_emptied (fun d hd => by cases hd) fun d hd => by cases hd
      exact hkept
    · rw [heq]
      refine .trans (kept_of_emptied (fun d hd => ?_) fun d hd => ?_) (emptyOpeners_kept (feed_notMem_left hline))
      · exact List.mem_append_left _ ((List.takeWhile_sublist _).subset hd)
      · simp [hd]

/-- A bracket that is left on a line when raw strings are emptied. -/
theorem emptyLine_shows (hc : IsCurly c) {pending : Option Text} (hpending : Closable pending) {line x y : Text}
    (hline : '\n' ∉ line) (h : (emptyLine pending line).1 = x ++ c :: y) :
    ∃ a r, line = a ++ c :: r ∧ Shows (fun t => (emptyLine pending t).1) c a x ∧ Kept r y := by
  have hempty := hc.notMem_emptyString
  rcases hpending with rfl | ⟨delimiter, rfl⟩
  · exact emptyOpeners_shows hc hline h
  · rcases emptyLine_pending delimiter line with heq | ⟨last, rest, rfl, heq⟩
    · rw [heq] at h
      exact absurd (show c ∈ Literal.emptyString by rw [show Literal.emptyString = _ from h]; simp) hempty
    · rw [heq] at h
      obtain ⟨a, r, hsplit, hshows, hkept⟩ := emptyOpeners_shows hc (feed_notMem_left hline) h
      rcases Bracket.cut_append hsplit with ⟨m, rfl, hm⟩ | ⟨v, hv, -⟩
      · rcases Bracket.cut_append hm with ⟨m, rfl, rfl⟩ | ⟨v, hv, -⟩
        · refine ⟨last ++ (closing delimiter ++ m), r, by simp, ⟨?_, ?_⟩, hkept⟩
          · exact (congrArg Prod.fst (heq m)).trans hshows.before
          · have hcut := heq (m ++ [c])
            have hupTo := hshows.upTo
            simp only [List.append_assoc] at hcut hupTo ⊢
            rw [hcut]
            exact hupTo
        · exact absurd (by rw [hv]; simp) hempty
      · exact absurd (by rw [hv]; simp) (notMem_margin hc.isBlank last)

end StyleCheck.RawString
