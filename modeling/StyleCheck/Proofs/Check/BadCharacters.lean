/-
  StyleCheck.Proofs.Check.BadCharacters — on which lines bad characters are found.

  Replacement characters and null characters are looked for at the end, in the lines as they are by then.
  Raw strings, literals and comments within a line are still there, since emptying and dropping them
  makes new views of a line. But block comments that fill whole lines have been blanked in place, and
  what stood in them is gone. So a bad character is found on every line but those
  (`bad_characters_are_found_outside_block_comments`).
-/

import StyleCheck.Proofs.Check.Closing
import StyleCheck.Proofs.Source.BlockComment

namespace StyleCheck

namespace Rule.WholeFile

def badSigns : List (Category × Char) := [(.readabilityUtf8, '\ufffd'), (.readabilityNul, '\x00')]

variable {lines : List Text} {category : Category} {bad : Char}

/-- Each of the two characters is found by itself. -/
theorem badCharacters_iff (hsign : (category, bad) ∈ badSigns) {k : Int} :
    (∃ f ∈ badCharacters lines, f.category = category ∧ f.line = k) ↔
      ∃ (n : Nat) (line : Text), k = n ∧ lines[n]? = some line ∧ bad ∈ line := by
  constructor
  · rintro ⟨f, hf, rfl, rfl⟩
    obtain ⟨⟨line, n⟩, hmem, hf⟩ := List.mem_flatMap.mp hf
    have hline : lines[n]? = some line := List.mem_zipIdx_iff_getElem?.mp hmem
    rcases List.mem_append.mp hf with hf | hf
    · obtain ⟨hheld, rfl⟩ := Finding.mem_when.mp hf
      obtain rfl : bad = '\ufffd' := by simpa [badSigns] using hsign
      exact ⟨n, line, rfl, hline, List.contains_iff_mem.mp hheld⟩
    · obtain ⟨hheld, rfl⟩ := Finding.mem_when.mp hf
      obtain rfl : bad = '\x00' := by simpa [badSigns] using hsign
      exact ⟨n, line, rfl, hline, List.contains_iff_mem.mp hheld⟩
  · rintro ⟨n, line, rfl, hline, hbad⟩
    have hmem : (line, n) ∈ lines.zipIdx := List.mem_zipIdx_iff_getElem?.mpr hline
    have hheld := List.contains_iff_mem.mpr hbad
    simp only [badSigns, List.mem_cons, List.not_mem_nil, or_false, Prod.mk.injEq] at hsign
    rcases hsign with ⟨rfl, rfl⟩ | ⟨rfl, rfl⟩
    · exact ⟨_, List.mem_flatMap.mpr ⟨(line, n), hmem, List.mem_append_left _ (Finding.mem_when.mpr ⟨hheld, rfl⟩)⟩,
        rfl, rfl⟩
    · exact ⟨_, List.mem_flatMap.mpr ⟨(line, n), hmem, List.mem_append_right _ (Finding.mem_when.mpr ⟨hheld, rfl⟩)⟩,
        rfl, rfl⟩

end Rule.WholeFile

namespace Check

open Rule.WholeFile (badSigns)

def TellsOf (events : List Event) (category : Category) (line : Int) : Prop :=
  ∃ e ∈ events, ∃ f, e.finding? = some f ∧ f.category = category ∧ f.line = line

/-- The line of number `k`, counted from 1, holds the character and is no part of a block comment that
fills whole lines. -/
def HoldsOutside (given : List Text) (bad : Char) (k : Int) : Prop :=
  ∃ (i : Nat) (line : Text), k = i + 1 ∧ given[i]? = some line ∧ bad ∈ line ∧ ¬ Comment.Inside given i

variable {c : Context} {given : List Text} {category : Category} {bad : Char}

/-- A bad character is told just if it is still in the lines when all comments have been blanked. -/
theorem tellsOf_badSign_iff (hsign : (category, bad) ∈ badSigns)
    (hextra : ∀ rule ∈ c.extra, ∀ n, Silent (rule c.settings (sourceOf given) n).events)
    (hends : (file c given).failure = none) {k : Int} :
    TellsOf (file c given).events category k ↔
      ∃ (n : Nat) (line : Text),
        k = n ∧ (Comment.blankAll (Source.marked given)).1[n]? = some line ∧ bad ∈ line := by
  rw [← Rule.WholeFile.badCharacters_iff hsign]
  have hclosing : ∀ sign ∈ badSigns, sign.1 ∈ closingTopics ∧ sign.1 ≠ .buildIncludeWhatYouUse ∧
      sign.1 ∉ [.buildClass, .buildNamespaces, .buildInclude, .whitespaceEndingNewline] := by decide
  obtain ⟨htopic, hneed, hother⟩ := hclosing _ hsign
  constructor
  · rintro ⟨e, he, f, hf, rfl, hline⟩
    obtain ⟨-, hend⟩ := told_at_end hextra he hf htopic
    rcases closing_cases hend hf with h | ⟨h, -⟩ | ⟨-, hmem⟩
    · exact absurd h hother
    · exact absurd h hneed
    · exact ⟨f, hmem, rfl, hline⟩
  · rintro ⟨f, hf, hcategory, hline⟩
    obtain ⟨-, hnone, htold⟩ := mem_file_of_ending hends
    refine ⟨.report f, htold _ ?_, f, rfl, hcategory, hline⟩
    refine Outcome.mem_sequence_of_none hnone (o := Rule.WholeFile.badCharacters _) ?_ (List.mem_map.mpr ⟨f, hf, rfl⟩)
    simp

/-- Blanked lines hold no bad characters, and neither do the marks. -/
theorem mem_blanked_iff (hsign : (category, bad) ∈ badSigns) {k : Int} :
    (∃ (n : Nat) (line : Text),
      k = n ∧ (Comment.blankAll (Source.marked given)).1[n]? = some line ∧ bad ∈ line) ↔ HoldsOutside given bad k := by
  have hclean : ∀ sign ∈ badSigns, sign.2 ∉ Comment.blankLine ∧
      sign.2 ∉ "// marker so line numbers and indices both start at 1".toList ∧
      sign.2 ∉ "// marker so line numbers end in a known way".toList := by decide +kernel
  obtain ⟨hblank, hfirst, hlast⟩ := hclean _ hsign
  constructor
  · rintro ⟨n, line, rfl, hline, hbad⟩
    obtain ⟨hin, hout⟩ := Comment.getElem?_blankBlocks 1 (Source.marked given) n
    have hnot : ¬ Comment.Inside (Source.marked given) n := by
      intro h
      have hsame := (hin h).symm.trans hline
      cases hsame
      exact hblank hbad
    have hmarked : (Source.marked given)[n]? = some line := (hout hnot).symm.trans hline
    cases n with
    | zero =>
      cases hmarked
      exact absurd hbad hfirst
    | succ i =>
      have hrest : (given ++ ["// marker so line numbers end in a known way".toList])[i]? = some line := hmarked
      have hlt : i < given.length := by
        refine Nat.lt_of_not_le fun hge => ?_
        rw [List.getElem?_append_right hge] at hrest
        have hmem := List.mem_of_getElem? hrest
        rw [List.mem_singleton.mp hmem] at hbad
        exact hlast hbad
      rw [List.getElem?_append_left hlt] at hrest
      exact ⟨i, line, by simp, hrest, hbad, fun h => hnot (Comment.inside_marked_iff.mpr h)⟩
  · rintro ⟨i, line, rfl, hline, hbad, hnot⟩
    obtain ⟨-, hout⟩ := Comment.getElem?_blankBlocks 1 (Source.marked given) (i + 1)
    have hlt := (List.getElem?_eq_some_iff.mp hline).1
    refine ⟨i + 1, line, by simp, ?_, hbad⟩
    refine (hout fun h => hnot (Comment.inside_marked_iff.mp h)).trans ?_
    exact (Comment.getElem?_between _ _ hlt).trans hline

/-- In a file that is checked to its end, a replacement character is told about a line just if the line
holds one and is no part of a block comment that fills whole lines, and so is a null character. -/
theorem bad_characters_are_found_outside_block_comments (c : Context) (given : List Text)
    (hextra : ∀ rule ∈ c.extra, ∀ n, Silent (rule c.settings (sourceOf given) n).events)
    (hends : (file c given).failure = none) (k : Int) :
    (TellsOf (file c given).events .readabilityUtf8 k ↔ HoldsOutside given '\ufffd' k) ∧
    (TellsOf (file c given).events .readabilityNul k ↔ HoldsOutside given '\x00' k) := by
  have hutf8 : (.readabilityUtf8, '\ufffd') ∈ badSigns := by decide
  have hnul : (.readabilityNul, '\x00') ∈ badSigns := by decide
  exact ⟨(tellsOf_badSign_iff hutf8 hextra hends).trans (mem_blanked_iff hutf8),
    (tellsOf_badSign_iff hnul hextra hends).trans (mem_blanked_iff hnul)⟩

def hiddenCharacter : List Text := ["/*".toList, ['\ufffd'], "*/".toList, "// \ufffd".toList]

/-- Only the one in the line comment is found. -/
theorem bad_characters_are_found_outside_block_comments_hidden :
    ((∀ rule ∈ plainFile.extra, ∀ n, Silent (rule plainFile.settings (sourceOf hiddenCharacter) n).events) ∧
      (file plainFile hiddenCharacter).failure = none) ∧
    TellsOf (file plainFile hiddenCharacter).events .readabilityUtf8 4 ∧
    (hiddenCharacter[1]? = some ['\ufffd'] ∧ ¬ TellsOf (file plainFile hiddenCharacter).events .readabilityUtf8 2) := by
  have hextra : ∀ rule ∈ plainFile.extra, ∀ n,
      Silent (rule plainFile.settings (sourceOf hiddenCharacter) n).events := nofun
  have hends : (file plainFile hiddenCharacter).failure = none := by decide +kernel
  have hfills : Comment.Fills hiddenCharacter 0 2 := by
    refine ⟨by decide, ⟨_, rfl, by decide +kernel⟩, ⟨_, rfl, by decide +kernel⟩, fun j line _ hj hl => ?_⟩
    have hall : ∀ j < 2, ∀ line ∈ hiddenCharacter[j]?, Comment.closesBlock line = false := by decide +kernel
    exact hall j hj line hl
  have hcomment : Comment.Outside hiddenCharacter 3 := .after .top hfills
  refine ⟨⟨hextra, hends⟩, ?_, rfl, ?_⟩
  · refine (bad_characters_are_found_outside_block_comments plainFile hiddenCharacter hextra hends 4).1.mpr ?_
    refine ⟨3, _, rfl, rfl, by decide, ?_⟩
    rintro ⟨b, e, hb, hf, hle, he⟩
    have hopener : ∀ b < 4, ∀ line ∈ hiddenCharacter[b]?, Comment.opensBlock line = true → b = 0 := by decide +kernel
    obtain ⟨line, hl, hopens⟩ := hf.opens
    obtain rfl := hopener b (by omega) line hl hopens
    have := hf.end_unique hfills
    omega
  · rw [(bad_characters_are_found_outside_block_comments plainFile hiddenCharacter hextra hends 2).1]
    rintro ⟨i, line, hi, -, -, hnot⟩
    exact hnot ⟨0, 2, .top, hfills, Nat.zero_le i, by omega⟩

end Check

end StyleCheck
