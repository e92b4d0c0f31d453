/-
  StyleCheck.Proofs.Rule.WholeFile — what the rules for a whole file speak of.

  These rules find their lines in what has been gathered: the beginnings of blocks, the table of
  headers, the last use of a name, the directives of the header guard. All of them are lines of the
  file, so their findings speak of its last line or of a line above (`UpTo`).

  The rule for header guards reads the suppression comment of a line right before it speaks of that
  line (`HeaderGuard.Spoken`).
-/

import StyleCheck.Check.File
import StyleCheck.Proofs.Nesting.Order
import StyleCheck.Proofs.Rule.Speech
import StyleCheck.Proofs.Source.Blanking

namespace StyleCheck

/-! ## Comments and characters -/

theorem Comment.unclosed_speak (given : List Text) :
    Speak (UpTo (given.length + 1)) [.readabilityMultilineComment] (blankAll (Source.marked given)).2 := by
  intro f hf
  obtain ⟨k, rfl, -, hk⟩ := unclosed_line hf
  exact ⟨⟨k, hk, rfl⟩, ⟨Int.natCast_nonneg 5, Int.le_refl 5⟩, List.mem_singleton_self _⟩

theorem Rule.WholeFile.copyright_speak (lines : List Text) :
    Speak (· = (0 : Nat)) [.legalCopyright] (copyright lines) := by
  unfold copyright
  simp

theorem Rule.WholeFile.badCharacters_speak {lines : List Text} {n : Nat} (hn : lines.length ≤ n + 1) :
    Speak (UpTo n) [.readabilityUtf8, .readabilityNul] (badCharacters lines) := by
  refine speak_flatMap fun numbered h => ?_
  have hlt := (List.mem_zipIdx h).2.1
  refine Speak.upTo ?_ (show numbered.2 ≤ n by omega)
  simp

theorem Rule.WholeFile.finalLineFeed_speak {lines : List Text} {n : Nat} (hn : lines.length ≤ n + 1) :
    Speak (UpTo n) [.whitespaceEndingNewline] (finalLineFeed lines) := by
  unfold finalLineFeed
  refine Speak.upTo ?_ (show lines.length - 2 ≤ n by omega)
  simp

/-! ## Blocks and headers -/

theorem Nesting.incomplete_speak {n : Nat} {st : Nesting} (h : StartedBy n st) :
    Speak (UpTo n) [.buildClass, .buildNamespaces] st.incomplete := by
  refine speak_flatMap fun b hb => ?_
  refine Speak.upTo ?_ (h.stack b (List.mem_reverse.mp hb))
  split
  · simp
  · simp
  · simp
  · simp

namespace Required

theorem mem_note {line : Nat} {u : Use} {found : List Need} {need : Need} (h : need ∈ note line u found) :
    need ∈ found ∨ need.line = line := by
  induction found with
  | nil =>
    rw [List.mem_singleton.mp h]
    exact .inr rfl
  | cons first rest ih =>
    unfold note at h
    split at h
    · rcases List.mem_cons.mp h with rfl | h
      · exact .inr rfl
      · exact .inl (List.mem_cons_of_mem _ h)
    · rcases List.mem_cons.mp h with rfl | h
      · exact .inl List.mem_cons_self
      · exact (ih h).imp_left (List.mem_cons_of_mem _)

/-- A header is needed on a line of the file. -/
theorem needs_line (s : Source) : ∀ need ∈ needs uses s, need.line < s.size := by
  refine List.foldlRecOn (motive := fun found : List Need => ∀ need ∈ found, need.line < s.size) _ _ nofun ?_
  intro found hfound n hn
  refine List.foldlRecOn (motive := fun found : List Need => ∀ need ∈ found, need.line < s.size) _ _ hfound ?_
  intro found hfound u _ need hneed
  rcases mem_note hneed with h | h
  · exact hfound need h
  · rw [h]
    exact List.mem_range.mp hn

theorem outcome_tells (t : FileTree) (file : Text) {s : Source} (table : IncludeTable) {n : Nat}
    (hn : s.size ≤ n + 1) : Tells (UpTo n) [.buildIncludeWhatYouUse] (outcome t file s table) := by
  unfold outcome outcomeBy
  simp only
  split
  · exact .nothing
  · split
    · exact .nothing
    · refine ⟨_, rfl, ?_⟩
      intro f hf
      obtain ⟨need, hneed, rfl⟩ := List.mem_map.mp hf
      have hlt := needs_line s need (List.mem_filter.mp hneed).1
      exact ⟨⟨need.line, by omega, rfl⟩, ⟨Int.natCast_nonneg 4, Int.le_of_lt (Int.lt_succ 4)⟩,
        List.mem_singleton_self _⟩

end Required

def IncludeTable.FilledBy (n : Nat) (table : IncludeTable) : Prop :=
  ∀ entry ∈ table.entries, ∃ k : Nat, k ≤ n ∧ entry.line = k

theorem OwnHeader.firstLine_le {n : Nat} {table : IncludeTable} (h : table.FilledBy n) :
    ∃ k : Nat, k ≤ n ∧ firstLine table.entries = k := by
  unfold firstLine
  cases hfind : table.entries.find? fun e => e.line != 0 with
  | none => exact ⟨0, Nat.zero_le n, rfl⟩
  | some entry => exact h entry (List.mem_of_find?_eq_some hfind)

theorem OwnHeader.findings_speak {t : FileTree} {file : Text} {table : IncludeTable} {n : Nat}
    {found : List Finding} (htable : table.FilledBy n) (h : findings t file table = .ok found) :
    Speak (UpTo n) [.buildInclude] found := by
  obtain ⟨k, hk, hline⟩ := firstLine_le htable
  unfold findings at h
  simp only [bind, Except.bind, pure, Except.pure] at h
  split at h
  · cases h
  · split at h
    · cases h
      exact speak_nil
    · split at h
      · cases h
      · cases h
        refine Speak.upTo ?_ hk
        rw [hline]
        simp

/-! ## Header guards -/

namespace HeaderGuard

theorem firstDirective?_lt {name : String} {lines : List Text} {n : Nat} {argument : Text}
    (h : firstDirective? name lines = some (n, argument)) : n < lines.length := by
  obtain ⟨⟨line, k⟩, hmem, hk⟩ := List.exists_of_findSome?_eq_some h
  have hlt := (List.mem_zipIdx hmem).2.1
  simp only at hk
  split at hk
  · split at hk
    · cases hk
      omega
    · cases hk
  · cases hk

theorem lastEndif_lt {lines : List Text} (h : 0 < lines.length) : (lastEndif lines).1 < lines.length := by
  unfold lastEndif
  refine List.foldlRecOn (motive := fun last : Nat × Text => last.1 < lines.length) _ _ h ?_
  intro last hlast numbered hmem
  have hlt := (List.mem_zipIdx hmem).2.1
  simp only
  split
  · simp only
    omega
  · exact hlast

/-- The comment of a line of the file is read, and then something may be said about this line. -/
inductive SaidOf (lines : List Text) : List Event → Prop
  | nothing {n : Nat} (hn : n < lines.length) : SaidOf lines [.suppress (lines.getD n []) n]
  | wrong {n : Nat} (hn : n < lines.length) {confidence : Int} (hc : confidence = 0 ∨ confidence = 5)
      (message : String) : SaidOf lines [.suppress (lines.getD n []) n, said n confidence message]

theorem endingEvents_saidOf {lines : List Text} (h : 0 < lines.length) (guard : Text) :
    SaidOf lines (.suppress (lines.getD (lastEndif lines).1 []) (lastEndif lines).1 :: endingEvents lines guard) := by
  have hlt := lastEndif_lt h
  unfold endingEvents
  simp only
  split
  · split
    · exact .wrong hlt (.inl rfl) _
    · exact .nothing hlt
  · split
    · split
      · exact .wrong hlt (.inl rfl) _
      · exact .nothing hlt
    · exact .wrong hlt (.inr rfl) _

inductive Spoken (lines : List Text) : List Event → Prop
  | nothing : Spoken lines []
  | both {a b : List Event} (ha : Spoken lines a) (hb : Spoken lines b) : Spoken lines (a ++ b)
  | remark (text : String) : Spoken lines [.remark text]
  /-- There is no guard at all. -/
  | missing (message : String) : Spoken lines [said 0 5 message]
  | ofLine {events : List Event} (h : SaidOf lines events) : Spoken lines events

theorem events_spoken {lines : List Text} (h : 0 < lines.length) (guard : Text) : Spoken lines (events lines guard) := by
  unfold events
  simp only
  split
  · rename_i n name _ defined hfirst _
    split
    · exact .missing _
    · refine .both ?_ (.ofLine (endingEvents_saidOf h guard))
      split
      · exact .nothing
      · refine .ofLine (.wrong (firstDirective?_lt hfirst) ?_ _)
        split
        · exact .inl rfl
        · exact .inr rfl
  · exact .missing _

theorem outcome_spoken (t : FileTree) (settings : Settings) (file : Text) {s : Source} (hs : 0 < s.size) :
    Spoken (s.lines.toList.map Line.plain) (outcome t settings file s).events := by
  have hlength : 0 < (s.lines.toList.map Line.plain).length := by
    rw [List.length_map, Array.length_toList]
    exact hs
  unfold outcome
  simp only
  split
  · exact .nothing
  · split
    · exact .nothing
    · refine .both ?_ (events_spoken hlength _)
      unfold Name.remarks
      split
      · exact .nothing
      · exact .remark _

end HeaderGuard

end StyleCheck
