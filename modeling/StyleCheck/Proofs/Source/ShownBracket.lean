/-
  StyleCheck.Proofs.Source.ShownBracket — where a curly bracket stands that the rules see.

  1. A bracket that is left on a line when all that does not count is taken out stands on the line as it was read. Up to
     the bracket the line is seen as if it ended there (`elide_shows`).
  2. What is seen as blank is blank, unless it holds a slash or a backslash: all that gets lost is a comment or an escape
     sequence (`elide_blank`, `elide_pair`).
  3. So it is with the lines of a file. What stands between two brackets that are seen with blanks between them is blank,
     or something may have got lost (`exists_seenAt_same`, `exists_seenAt_apart`).
-/

import StyleCheck.Proofs.Source.CutComment

namespace StyleCheck

open RawString Literal

/-! ## A line -/

/-- What the rules see of a line, given the closing text of the raw string it begins in. -/
def elide (pending : Option Text) (line : Text) : Text := Comment.drop (collapse (emptyLine pending line).1)

def NoInclude (pending : Option Text) (line : Text) : Prop := Include.ofLine? (emptyLine pending line).1 = none

section

variable {c : Char} {pending : Option Text} {line : Text} (hpending : Closable pending) (hline : '\n' ∉ line)

include hpending hline

theorem emptyLine_notMem : '\n' ∉ (emptyLine pending line).1 :=
  (emptyLine_kept hpending hline).notMem (by decide) hline

/-- A bracket that is seen on a line. -/
theorem elide_shows (hc : IsCurly c) (hcode : NoInclude pending line) {x y : Text} (h : elide pending line = x ++ c :: y) :
    ∃ a r, line = a ++ c :: r ∧ Seen (elide pending) c a x ∧ NoInclude pending a ∧
      ('/' ∉ r → '\\' ∉ r → Text.allBlank y = true → r = y) := by
  have hplainline := emptyLine_notMem hpending hline
  obtain ⟨u, r₃, hdrop, hblock, hrest₃⟩ := Comment.dropBlockComments_shows hc h
  obtain ⟨r₂, hcollapse, hmark, hrest₂⟩ := Comment.dropLineComment_shows hdrop
  obtain ⟨v, r₁, hplain, hliterals, hrest₁⟩ := collapse_shows hc hplainline hcode hcollapse
  obtain ⟨a, r, rfl, hraw, hrest⟩ := emptyLine_shows hc hpending hline hplain
  have hseen := Seen.comp hraw (Seen.comp hliterals (Seen.comp hmark hblock))
  refine ⟨a, r, rfl, hseen, ?_, fun hslash hbackslash hy => ?_⟩
  · show Include.ofLine? (emptyLine pending a).1 = none
    rw [hraw.before]
    unfold NoInclude at hcode
    rw [hplain] at hcode hplainline
    exact Include.ofLine?_front hplainline hcode
  · have hkept := hrest.trans (hrest₁ (hrest.notMem (by decide) hbackslash))
    have hslash₂ : '/' ∉ r₂ := hkept.notMem (by decide) hslash
    have heq : r₂ = y := by
      rw [← hrest₃ (hrest₂ hslash₂ ▸ hslash₂), hrest₂ hslash₂]
    rw [heq] at hkept
    exact hkept.blank (List.all_eq_true.mp hy)

/-- What is seen as blank is blank, unless comments or escapes are taken out. -/
theorem elide_blank (hslash : '/' ∉ line) (hbackslash : '\\' ∉ line) (h : Text.allBlank (elide pending line) = true) :
    Text.allBlank line = true := by
  have hraw := emptyLine_kept hpending hline
  have hliterals := collapse_kept (emptyLine_notMem hpending hline) (hraw.notMem (by decide) hbackslash)
  have hkept := hraw.trans hliterals
  have hmark : '/' ∉ collapse (emptyLine pending line).1 := hkept.notMem (by decide) hslash
  have hdrop : elide pending line = collapse (emptyLine pending line).1 := Comment.drop_of_notMem hmark
  rw [hdrop] at h
  rw [hkept.blank (List.all_eq_true.mp h)]
  exact h

/-- Two brackets that are seen on a line with blanks between them. -/
theorem elide_pair (hcode : NoInclude pending line) {x m y : Text} (h : elide pending line = x ++ '{' :: (m ++ '}' :: y))
    (hm : Text.allBlank m = true) :
    ∃ a b r, line = a ++ '{' :: (b ++ '}' :: r) ∧ Seen (elide pending) '{' a x ∧
      Seen (elide pending) '}' (a ++ '{' :: b) (x ++ '{' :: m) ∧
      ('/' ∉ b → '\\' ∉ b → Text.allBlank b = true) := by
  have hsplit : elide pending line = (x ++ '{' :: m) ++ '}' :: y := by rw [h]; simp
  obtain ⟨front, r, rfl, hclosing, hfront, -⟩ := elide_shows hpending hline (.inr rfl) hcode hsplit
  have hfrontline : '\n' ∉ front := fun hmem => hline (List.mem_append_left _ hmem)
  -- Up to the closing bracket the line shows the opening one, and then blanks.
  have hbefore : Text.stripRight (elide pending front) = x ++ ['{'] := by
    rw [hclosing.before, Text.stripRight_cons (by decide), Text.stripRight_of_blank (List.all_eq_true.mp hm)]
  obtain ⟨blanks, hshown, hblanks⟩ := Text.exists_stripRight (elide pending front)
  rw [hbefore, List.append_assoc] at hshown
  obtain ⟨a, b, rfl, hopening, -, hblank⟩ := elide_shows hpending hfrontline (.inl rfl) hfront hshown
  refine ⟨a, b, r, by simp, hopening, hclosing, fun hslash hbackslash => ?_⟩
  rw [hblank hslash hbackslash hblanks]
  exact hblanks

end

/-! ## The lines of a file -/

namespace RawString

def pendingAt (raws : List Text) (n : Nat) : Option Text := pendingAfter none (raws.take n)

theorem pendingAt_closable {raws : List Text} (h : ∀ raw ∈ raws, '\n' ∉ raw) (n : Nat) : Closable (pendingAt raws n) :=
  pendingAfter_closable (fun raw hraw => h raw (List.mem_of_mem_take hraw)) (.inl rfl)

theorem getElem?_emptyAll {raws : List Text} {n : Nat} {line : Text} (h : raws[n]? = some line) :
    (emptyAll raws)[n]? = some (emptyLine (pendingAt raws n) line).1 := by
  obtain ⟨hn, -⟩ := List.getElem?_eq_some_iff.mp h
  have hlength : (emptyFrom none (raws.take n)).length = n := by
    rw [emptyFrom_length, List.length_take]
    omega
  have hempty : emptyAll raws
      = emptyFrom none (raws.take n) ++ emptyFrom (pendingAt raws n) (line :: raws.drop (n + 1)) := by
    rw [emptyAll, pendingAt, ← emptyFrom_append, ← Bracket.cut_at h]
  rw [hempty, List.getElem?_append_right (by omega), hlength, Nat.sub_self]
  rfl

end RawString

namespace Source

variable {raws : List Text} {n : Nat} {line : Text}

theorem line_of_getElem? (h : raws[n]? = some line) :
    (ofLines raws).line n = Line.ofTexts line (emptyLine (pendingAt raws n) line).1 := by
  simp only [Source.line, ofLines, Array.getD_eq_getD_getElem?, List.getElem?_toArray, List.getElem?_zipWith, h,
    getElem?_emptyAll h, Option.getD_some]

theorem raw_of_getElem? (h : raws[n]? = some line) : (ofLines raws).raw n = line := by
  rw [raw, line_of_getElem? h]
  rfl

theorem plain_of_getElem? (h : raws[n]? = some line) : (ofLines raws).plain n = (emptyLine (pendingAt raws n) line).1 := by
  rw [plain, line_of_getElem? h]
  rfl

theorem elided_of_getElem? (h : raws[n]? = some line) : (ofLines raws).elided n = elide (pendingAt raws n) line := by
  rw [elided, line_of_getElem? h]
  rfl

def before (raws : List Text) (p : Place) : Source :=
  ofLines (raws.take p.line ++ [((ofLines raws).raw p.line).take p.column])

theorem elided_before (h : raws[n]? = some line) (column : Nat) :
    (before raws ⟨n, column⟩).elided n = elide (pendingAt raws n) (line.take column) := by
  obtain ⟨hn, -⟩ := List.getElem?_eq_some_iff.mp h
  have hlength : (raws.take n).length = n := by
    rw [List.length_take]
    omega
  have hlast : (raws.take n ++ [line.take column])[n]? = some (line.take column) := by
    rw [List.getElem?_append_right (by omega), hlength, Nat.sub_self]
    rfl
  have hpending : pendingAt (raws.take n ++ [line.take column]) n = pendingAt raws n := by
    rw [pendingAt, List.take_append_of_le_length (by omega), List.take_take, Nat.min_self, pendingAt]
  show (ofLines (raws.take n ++ [((ofLines raws).raw n).take column])).elided n = _
  rw [raw_of_getElem? h, elided_of_getElem? hlast, hpending]

/-- What the rules see at `p` stands at `q`: the same character, and the file that ends there shows what the rules see up
to `p`. If it ends right before, blanks may be missing. -/
structure SeenAt (raws : List Text) (p q : Place) : Prop where
  line : q.line = p.line
  char : ((ofLines raws).raw q.line)[q.column]? = ((ofLines raws).elided p.line)[p.column]?
  upTo : (before raws ⟨q.line, q.column + 1⟩).elided q.line = ((ofLines raws).elided p.line).take (p.column + 1)
  front : Text.stripRight ((before raws q).elided q.line)
    = Text.stripRight (((ofLines raws).elided p.line).take p.column)

theorem seenAt_of_seen {c : Char} {a r x y : Text} (h : raws[n]? = some (a ++ c :: r))
    (helided : (ofLines raws).elided n = x ++ c :: y) (hseen : Seen (elide (pendingAt raws n)) c a x) :
    SeenAt raws ⟨n, x.length⟩ ⟨n, a.length⟩ where
  line := rfl
  char := by
    rw [raw_of_getElem? h, helided]
    simp
  upTo := by
    show (before raws ⟨n, a.length + 1⟩).elided n = ((ofLines raws).elided n).take (x.length + 1)
    have hcut : ∀ s t : Text, (s ++ c :: t).take (s.length + 1) = s ++ [c] := fun s t => List.take_length_add_append 1
    rw [elided_before h, hcut, helided, hcut, hseen.upTo]
  front := by
    show Text.stripRight ((before raws ⟨n, a.length⟩).elided n) = Text.stripRight (((ofLines raws).elided n).take x.length)
    rw [elided_before h, List.take_left, helided, List.take_left, hseen.before]

/-! ## Between two brackets -/

def rawBetween (s : Source) (p q : Place) : Text :=
  if p.line = q.line then Text.slice (p.column + 1) q.column (s.raw p.line)
  else (s.raw p.line).drop (p.column + 1) ++ (s.textFrom Line.raw (p.line + 1) (q.line - (p.line + 1))).flatten
    ++ (s.raw q.line).take q.column

def BlankOrLost (text : Text) : Prop := '/' ∉ text → '\\' ∉ text → Text.allBlank text = true

theorem allBlank_iff_of_blankOrLost {text : Text} (h : BlankOrLost text) :
    Text.allBlank text = true ↔ '/' ∉ text ∧ '\\' ∉ text := by
  constructor
  · intro hblank
    have hvisible : ∀ d, Text.isBlank d = false → d ∉ text := by
      intro d hd hmem
      cases (List.all_eq_true.mp hblank d hmem).symm.trans hd
    exact ⟨hvisible _ (by decide), hvisible _ (by decide)⟩
  · intro hnone
    exact h hnone.1 hnone.2

theorem BlankOrLost.append {s t : Text} (hs : BlankOrLost s) (ht : BlankOrLost t) : BlankOrLost (s ++ t) := by
  intro hslash hbackslash
  simp only [List.mem_append, not_or] at hslash hbackslash
  have hleft := hs hslash.1 hbackslash.1
  have hright := ht hslash.2 hbackslash.2
  unfold Text.allBlank at *
  rw [List.all_append, hleft, hright]
  rfl

theorem blankOrLost_of_allBlank {s : Text} (h : Text.allBlank s = true) : BlankOrLost s := fun _ _ => h

/-- What is seen on a line cuts it, and the line is one of the file. -/
theorem exists_cut {column : Nat} {c : Char} (h : ((ofLines raws).elided n)[column]? = some c) :
    ∃ line x y, raws[n]? = some line ∧ (ofLines raws).elided n = x ++ c :: y ∧ column = x.length := by
  obtain ⟨hlt, -⟩ := List.getElem?_eq_some_iff.mp h
  cases hline : raws[n]? with
  | some line => exact ⟨line, _, _, rfl, Bracket.cut_at h, by rw [List.length_take]; omega⟩
  | none =>
    rw [List.getElem?_eq_none_iff, ← ofLines_size raws] at hline
    rw [Bracket.elided_of_size_le hline] at h
    cases h

theorem rawBetween_same {a b r : Text} {c d : Char} (h : raws[n]? = some (a ++ c :: (b ++ d :: r))) :
    rawBetween (ofLines raws) ⟨n, a.length⟩ ⟨n, (a ++ c :: b).length⟩ = b := by
  have hcut : a ++ c :: (b ++ d :: r) = (a ++ c :: b) ++ d :: r := by simp
  have hfront : a ++ c :: b = (a ++ [c]) ++ b := by simp
  have hlength : a.length + 1 = (a ++ [c]).length := by simp
  rw [rawBetween, if_pos rfl, raw_of_getElem? h, Text.slice, hcut, List.take_left, hfront, hlength, List.drop_left]

theorem mem_textFrom_raw {s : Source} {text : Text} {first count : Nat} (h : text ∈ s.textFrom Line.raw first count) :
    ∃ k, first ≤ k ∧ k < first + count ∧ text = s.raw k := by
  obtain ⟨k, hk, rfl⟩ := List.mem_map.mp h
  obtain ⟨hle, hlt⟩ := List.mem_range'_1.mp hk
  exact ⟨k, hle, hlt, rfl⟩

section

variable (hlines : ∀ raw ∈ raws, '\n' ∉ raw) {k l : Nat}

include hlines

/-- Two brackets that are seen on one line with blanks between them. -/
theorem exists_seenAt_same (hkl : k < l) (hk : ((ofLines raws).elided n)[k]? = some '{')
    (hl : ((ofLines raws).elided n)[l]? = some '}') (hcode : Include.ofLine? ((ofLines raws).plain n) = none)
    (hblank : Text.allBlank (Text.slice (k + 1) l ((ofLines raws).elided n)) = true) :
    ∃ i j, SeenAt raws ⟨n, k⟩ ⟨n, i⟩ ∧ SeenAt raws ⟨n, l⟩ ⟨n, j⟩ ∧ BlankOrLost (rawBetween (ofLines raws) ⟨n, i⟩ ⟨n, j⟩) := by
  obtain ⟨line, x, y, hline, hclose, rfl⟩ := exists_cut hl
  rw [hclose, List.getElem?_append_left hkl] at hk
  have hopen := Bracket.cut_at hk
  have hx : (x.take k).length = k := by
    rw [List.length_take]
    omega
  have hm : Text.slice (k + 1) x.length (x ++ '}' :: y) = x.drop (k + 1) := by
    rw [Text.slice, List.take_left]
  rw [hclose, hm] at hblank
  have hboth : elide (pendingAt raws n) line = x.take k ++ '{' :: (x.drop (k + 1) ++ '}' :: y) := by
    rw [← elided_of_getElem? hline, hclose, ← List.cons_append, ← List.append_assoc, ← hopen]
  rw [plain_of_getElem? hline] at hcode
  obtain ⟨a, b, r, rfl, hopening, hclosing, hblank⟩ :=
    elide_pair (pendingAt_closable hlines n) (hlines _ (List.mem_of_getElem? hline)) hcode hboth hblank
  rw [← hopen] at hclosing
  refine ⟨a.length, (a ++ '{' :: b).length, ?_, ?_, ?_⟩
  · have hseen := seenAt_of_seen hline ((elided_of_getElem? hline).trans hboth) hopening
    rwa [hx] at hseen
  · have hsplit : a ++ '{' :: (b ++ '}' :: r) = (a ++ '{' :: b) ++ '}' :: r := by simp
    exact seenAt_of_seen (hsplit ▸ hline) hclose hclosing
  · rw [rawBetween_same hline]
    exact hblank

/-- Two brackets that are seen on different lines with blanks between them. -/
theorem exists_seenAt_apart {m : Nat} (hnm : n < m) (hk : ((ofLines raws).elided n)[k]? = some '{')
    (hl : ((ofLines raws).elided m)[l]? = some '}') (hncode : Include.ofLine? ((ofLines raws).plain n) = none)
    (hmcode : Include.ofLine? ((ofLines raws).plain m) = none)
    (hfirst : Text.allBlank (((ofLines raws).elided n).drop (k + 1)) = true)
    (hmiddle : ∀ i, n < i → i < m → Text.allBlank ((ofLines raws).raw i) = true)
    (hlast : Text.allBlank (((ofLines raws).elided m).take l) = true) :
    ∃ i j, SeenAt raws ⟨n, k⟩ ⟨n, i⟩ ∧ SeenAt raws ⟨m, l⟩ ⟨m, j⟩ ∧ BlankOrLost (rawBetween (ofLines raws) ⟨n, i⟩ ⟨m, j⟩) := by
  obtain ⟨first, x, y, hn, hopen, rfl⟩ := exists_cut hk
  obtain ⟨last, x', y', hm, hclose, rfl⟩ := exists_cut hl
  have hnline := hlines _ (List.mem_of_getElem? hn)
  have hmline := hlines _ (List.mem_of_getElem? hm)
  rw [plain_of_getElem? hn] at hncode
  rw [plain_of_getElem? hm] at hmcode
  rw [hopen, List.drop_length_add_append] at hfirst
  rw [hclose, List.take_left] at hlast
  obtain ⟨a, r, rfl, hopening, -, hrest⟩ := elide_shows (pendingAt_closable hlines n) hnline (.inl rfl) hncode
    ((elided_of_getElem? hn).symm.trans hopen)
  obtain ⟨a', r', rfl, hclosing, -, -⟩ := elide_shows (pendingAt_closable hlines m) hmline (.inr rfl) hmcode
    ((elided_of_getElem? hm).symm.trans hclose)
  refine ⟨a.length, a'.length, seenAt_of_seen hn hopen hopening, seenAt_of_seen hm hclose hclosing, ?_⟩
  rw [rawBetween, if_neg (show n ≠ m by omega)]
  refine (BlankOrLost.append ?_ ?_).append ?_
  · show BlankOrLost (((ofLines raws).raw n).drop (a.length + 1))
    rw [raw_of_getElem? hn, List.drop_length_add_append]
    intro hslash hbackslash
    rw [show (('{' :: r).drop 1) = y from hrest hslash hbackslash hfirst]
    exact hfirst
  · refine blankOrLost_of_allBlank (List.all_eq_true.mpr fun d hd => ?_)
    obtain ⟨text, htext, hd⟩ := List.mem_flatten.mp hd
    obtain ⟨i, hle, hlt, rfl⟩ := mem_textFrom_raw htext
    exact List.all_eq_true.mp (hmiddle i (by simp only at hle; omega) (by simp only at hlt; omega)) d hd
  · show BlankOrLost (((ofLines raws).raw m).take a'.length)
    rw [raw_of_getElem? hm, List.take_left]
    have hfront : '\n' ∉ a' := fun hmem => hmline (List.mem_append_left _ hmem)
    intro hslash hbackslash
    refine elide_blank (pendingAt_closable hlines m) hfront hslash hbackslash (Text.allBlank_of_stripRight ?_)
    rw [hclosing.before, Text.stripRight_of_blank (List.all_eq_true.mp hlast)]

end

end Source

end StyleCheck
