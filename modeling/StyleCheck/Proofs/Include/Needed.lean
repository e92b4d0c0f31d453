/-
  StyleCheck.Proofs.Include.Needed — when a file is asked to include a header of the library.

  The headers of the table and those that the headers of the file's module bring along are gathered in
  two folds over lists of known headers. Both are followed by the paths that are known after them
  (`has_read?`, `provide_ok`), and the fold over the uses of the lines by the headers that are needed
  (`needs_iff`). A header is asked for just if it is used and neither in the table nor brought along,
  unless the file is a source file for which no header of its module could be read (`outcome_asks_iff`).
-/

import StyleCheck.Proofs.Check.Checkout

namespace StyleCheck

/-- If each step makes `P` hold just where `Q` does, it holds after a fold that has met a `Q`. -/
theorem foldl_gains {α β : Type} {f : β → α → β} {P : β → Prop} {Q : α → Prop}
    (step : ∀ b a, P (f b a) ↔ P b ∨ Q a) (as : List α) (b : β) : P (as.foldl f b) ↔ P b ∨ ∃ a ∈ as, Q a := by
  induction as generalizing b with
  | nil => simp
  | cons a as ih =>
    rw [List.foldl_cons, ih (f b a), step]
    simp [or_assoc]

theorem foldlM_gains {ε α β : Type} {f : β → α → Except ε β} {P : β → Prop} {Q : α → Prop}
    (step : ∀ {b a b'}, f b a = .ok b' → (P b' ↔ P b ∨ Q a)) {as : List α} {b b' : β}
    (h : as.foldlM f b = .ok b') : P b' ↔ P b ∨ ∃ a ∈ as, Q a := by
  induction as generalizing b with
  | nil =>
    cases h
    simp
  | cons a as ih =>
    rw [List.foldlM_cons] at h
    cases hstep : f b a with
    | error e =>
      rw [hstep] at h
      cases h
    | ok next =>
      rw [hstep] at h
      rw [ih h, step hstep]
      simp [or_assoc]

/-! ## Known headers -/

namespace Module

def Brings (text path : Text) : Prop :=
  ∃ line ∈ Text.brokenLines text, ∃ inc, Include.ofLine? (Comment.drop line) = some inc ∧ inc.path = path

namespace Provided

def Has (known : Provided) (path : Text) : Prop := ∃ h ∈ known, h.1 = path

theorem any_iff {known : Provided} {path : Text} : (known.any fun h => h.1 == path) = true ↔ known.Has path := by
  simp [Has]

theorem has_append {known more : Provided} {path : Text} :
    Has (known ++ more) path ↔ Has known path ∨ Has more path := by
  simp [Has, or_and_right, exists_or]

theorem has_singleton {path p : Text} {line : Int} : Has [(path, line)] p ↔ path = p := by
  simp [Has]

theorem has_add {known : Provided} {path p : Text} {line : Int} :
    Has (add known path line) p ↔ Has known p ∨ path = p := by
  unfold add
  split
  · rename_i hany
    refine ⟨.inl, ?_⟩
    rintro (h | rfl)
    · exact h
    · exact any_iff.mp hany
  · rw [has_append, has_singleton]

theorem has_read? {t : FileTree} {known known' : Provided} {file : Text} (h : known.read? t file = some known') :
    ∃ text, t.text? file = some text ∧ ∀ path, known'.Has path ↔ known.Has path ∨ Brings text path := by
  obtain ⟨text, htext, rfl⟩ := Option.map_eq_some_iff.mp h
  refine ⟨text, htext, fun path => ?_⟩
  refine (foldl_gains (P := fun known : Provided => known.Has path)
    (Q := fun line : Text × Nat => ∃ inc, Include.ofLine? (Comment.drop line.1) = some inc ∧ inc.path = path)
    ?_ _ known).trans (or_congr_right ?_)
  · intro known line
    obtain ⟨line, n⟩ := line
    simp only
    cases Include.ofLine? (Comment.drop line) with
    | none => simp
    | some inc => simp [has_add]
  constructor
  · rintro ⟨line, hline, hinc⟩
    exact ⟨line.1, List.fst_mem_of_mem_zipIdx hline, hinc⟩
  · rintro ⟨line, hline, hinc⟩
    obtain ⟨i, hi⟩ := List.mem_iff_getElem?.mp hline
    exact ⟨(line, 1 + i), List.mem_zipIdx_iff_le_and_getElem?_sub.mpr ⟨by omega, by simpa using hi⟩, hinc⟩

end Provided

end Module

namespace Required

open StyleCheck.Module (Provided Brings)

section

variable {t : FileTree} {file path : Text} {known known' : Provided} {found found' : Bool}

/-- The header belongs to the module of the file, and this is what it holds. -/
def Own (t : FileTree) (file header text : Text) : Prop :=
  ∃ lead, Module.lead? t file header = .ok (some lead) ∧ t.text? (lead ++ header) = some text

theorem provideOne_ok {header : Text} (h : provideOne t file (known, found) header = .ok (known', found')) :
    (∀ path, known'.Has path ↔ known.Has path ∨ ∃ text, Own t file header text ∧ Brings text path) ∧
    (found' = true ↔ found = true ∨ ∃ text, Own t file header text) := by
  unfold provideOne at h
  cases hlead : Module.lead? t file header with
  | error e =>
    rw [hlead] at h
    cases h
  | ok lead? =>
    rw [hlead] at h
    cases lead? with
    | none =>
      cases h
      simp [Own, hlead]
    | some lead =>
      have hown : ∀ text, Own t file header text ↔ t.text? (lead ++ header) = some text := by
        intro text
        simp [Own, hlead]
      simp only [hown]
      cases hread : known.read? t (lead ++ header) with
      | none =>
        simp only [Except.map, hread] at h
        cases h
        have hnone : t.text? (lead ++ header) = none := by simpa [Provided.read?] using hread
        simp [hnone]
      | some read =>
        simp only [Except.map, hread] at h
        cases h
        obtain ⟨text, htext, hhas⟩ := Provided.has_read? hread
        simp [htext, hhas]

theorem provide_ok {headers : List Text} (h : provide t file headers known = .ok (known', found)) :
    (∀ path, known'.Has path ↔
      known.Has path ∨ ∃ header ∈ headers, ∃ text, Own t file header text ∧ Brings text path) ∧
    (found = true ↔ ∃ header ∈ headers, ∃ text, Own t file header text) := by
  have hhas (path : Text) := foldlM_gains (P := fun state : Provided × Bool => state.1.Has path)
    (Q := fun header => ∃ text, Own t file header text ∧ Brings text path)
    (fun hone => (provideOne_ok hone).1 path) h
  have hfound := foldlM_gains (P := fun state : Provided × Bool => state.2 = true)
    (Q := fun header => ∃ text, Own t file header text) (fun hone => (provideOne_ok hone).2) h
  exact ⟨hhas, by simpa using hfound⟩

end

/-- The headers of the table are known from it. -/
theorem has_included {table : IncludeTable} {path : Text} :
    (included table).Has path ↔ ∃ e ∈ table.entries, e.path = path := by
  have hstep : ∀ (known : Provided) (e : IncludeEntry),
      Provided.Has (if known.any fun h => h.1 == e.path then
          known.map fun h => if h.1 == e.path then (h.1, e.line) else h
        else known ++ [(e.path, e.line)]) path ↔ known.Has path ∨ e.path = path := by
    intro known e
    split
    · rename_i hany
      have hsame : Provided.Has (known.map fun h => if h.1 == e.path then (h.1, e.line) else h) path
          ↔ known.Has path := by
        unfold Provided.Has
        simp only [List.mem_map, exists_exists_and_eq_and]
        refine exists_congr fun h => and_congr_right fun _ => ?_
        split <;> rfl
      rw [hsame]
      refine ⟨.inl, ?_⟩
      rintro (h | rfl)
      · exact h
      · exact Provided.any_iff.mp hany
    · rw [Provided.has_append, Provided.has_singleton]
  have hfold := foldl_gains (P := fun known : Provided => known.Has path) hstep table.entries []
  have hnil : ¬ Provided.Has [] path := by simp [Provided.Has]
  exact hfold.trans (or_iff_right hnil)

/-- What is known when the headers of the table have been looked into. -/
theorem provide_included_ok {t : FileTree} {file : Text} {table : IncludeTable} {known : Provided} {found : Bool}
    (h : provide t file ((included table).map (·.1)) (included table) = .ok (known, found)) :
    (∀ path, known.Has path ↔ (∃ e ∈ table.entries, e.path = path) ∨
      ∃ e ∈ table.entries, ∃ text, Own t file e.path text ∧ Brings text path) ∧
    (found = true ↔ ∃ e ∈ table.entries, ∃ text, Own t file e.path text) := by
  have hheaders : ∀ {P : Text → Prop},
      (∃ header ∈ (included table).map (·.1), P header) ↔ ∃ e ∈ table.entries, P e.path := by
    intro P
    have hmem : ∀ header, header ∈ (included table).map (·.1) ↔ ∃ e ∈ table.entries, e.path = header := by
      intro header
      rw [← has_included, List.mem_map]
      rfl
    constructor
    · rintro ⟨header, hheader, hP⟩
      obtain ⟨e, he, rfl⟩ := (hmem header).mp hheader
      exact ⟨e, he, hP⟩
    · rintro ⟨e, he, hP⟩
      exact ⟨e.path, (hmem e.path).mpr ⟨e, he, rfl⟩, hP⟩
  obtain ⟨hknown, hfound⟩ := provide_ok h
  exact ⟨fun path => by rw [hknown, has_included, hheaders], hfound.trans hheaders⟩

/-! ## Needs -/

theorem note_iff {line : Nat} {u : Use} {found : List Need} {header : Text} :
    (∃ need ∈ note line u found, need.header = header) ↔
      (∃ need ∈ found, need.header = header) ∨ u.header = header := by
  induction found with
  | nil => simp [note]
  | cons first rest ih =>
    unfold note
    split
    · rename_i hsame
      have : first.header = u.header := eq_of_beq hsame
      simp only [List.mem_cons, exists_eq_or_imp, this]
      rw [or_comm, or_assoc, or_self, or_comm]
    · simp only [List.mem_cons, exists_eq_or_imp, ih, or_assoc]

/-- The headers that are needed are those of the names that some line uses. -/
theorem needs_iff {s : Source} {header : Text} :
    (∃ need ∈ needs uses s, need.header = header) ↔ ∃ n < s.size, ∃ u ∈ uses (s.elided n), u.header = header := by
  have hline : ∀ (found : List Need) (n : Nat),
      (∃ need ∈ (uses (s.elided n)).foldl (fun found u => note n u found) found, need.header = header) ↔
        (∃ need ∈ found, need.header = header) ∨ ∃ u ∈ uses (s.elided n), u.header = header :=
    fun found n => foldl_gains (P := fun found : List Need => ∃ need ∈ found, need.header = header)
      (Q := fun u : Use => u.header = header) (fun _ _ => note_iff) (uses (s.elided n)) found
  have hfold := foldl_gains (P := fun found : List Need => ∃ need ∈ found, need.header = header) hline
    (List.range s.size) []
  refine hfold.trans ?_
  simp

/-! ## Headers of the library -/

def headers : List Text := (templates ++ functions).map fun entry => (entry.1.toList.drop 1).dropLast

def bracketed (path : Text) : Text := '<' :: path ++ ['>']

theorem headers_bracketed :
    ∀ entry ∈ templates ++ functions, entry.1.toList = bracketed (entry.1.toList.drop 1).dropLast := by
  decide +kernel

theorem names_header {of : String → String → Name} (hof : ∀ header name, (of header name).use.header = header.toList)
    {table : List (String × List String)} {n : Name} (h : n ∈ names of table) :
    ∃ entry ∈ table, n.use.header = entry.1.toList := by
  obtain ⟨entry, hentry, hmem⟩ := List.mem_flatMap.mp h
  obtain ⟨member, -, rfl⟩ := List.mem_map.mp hmem
  exact ⟨entry, hentry, hof entry.1 member⟩

/-- A name of the library comes from one of the headers. -/
theorem uses_header {line : Text} {u : Use} (h : u ∈ uses line) : ∃ path ∈ headers, u.header = bracketed path := by
  have hentry : ∀ entry ∈ templates ++ functions, ∃ path ∈ headers, entry.1.toList = bracketed path :=
    fun entry hmem => ⟨_, List.mem_map.mpr ⟨entry, hmem, rfl⟩, headers_bracketed entry hmem⟩
  unfold uses at h
  split at h
  · cases h
  · obtain ⟨name, hname, rfl⟩ := List.mem_map.mp h
    have hcandidate := (List.mem_filter.mp hname).1
    unfold candidates at hcandidate
    rcases List.mem_cons.mp hcandidate with rfl | hcandidate
    · exact ⟨"string".toList, by decide +kernel, rfl⟩
    · rcases List.mem_append.mp hcandidate with hfunction | htemplate
      · obtain ⟨entry, hmem, heq⟩ := names_header (fun _ _ => rfl) hfunction
        rw [heq]
        exact hentry entry (List.mem_append_right _ hmem)
      · split at htemplate
        · obtain ⟨entry, hmem, heq⟩ := names_header (fun _ _ => rfl) htemplate
          rw [heq]
          exact hentry entry (List.mem_append_left _ hmem)
        · cases htemplate

theorem path_of_header {need : Need} {path : Text} (hpath : path ∈ headers) (h : need.header = bracketed path) :
    need.path = path := by
  have htrim : ∀ path ∈ headers, Text.trim (fun c => c == '<' || c == '>' || c == '"') (bracketed path) = path := by
    decide +kernel
  rw [Need.path, h, htrim path hpath]

/-! ## Requests -/

def Asks (path : Text) (f : Finding) : Prop :=
  f.category = .buildIncludeWhatYouUse ∧ ∃ rest, f.message = "Add #include <" ++ String.ofList path ++ ">" ++ rest

/-- The header is used, not provided by the file or by its module, and may be asked for. -/
structure Needed (t : FileTree) (file : Text) (s : Source) (table : IncludeTable) (path : Text) : Prop where
  used : ∃ n < s.size, ∃ u ∈ uses (s.elided n), u.header = bracketed path
  absent : ∀ e ∈ table.entries, e.path ≠ path
  notBrought : ∀ e ∈ table.entries, ∀ text, Own t (modulePath t file) e.path text → ¬ Brings text path
  /-- A source file is asked for headers only if a header of its module has been read. -/
  readable : Text.endsWith file ".cc".toList = true → ∃ e ∈ table.entries, ∃ text, Own t (modulePath t file) e.path text

theorem finding_asks_iff {need : Need} {path : Text} (hpath : path ∈ headers)
    (hneed : ∃ p ∈ headers, need.header = bracketed p) :
    Asks path need.finding ↔ need.header = bracketed path := by
  have hclosing : ∀ path ∈ headers, '>' ∉ path := by decide +kernel
  -- the path ends at the first closing bracket
  have hends : ∀ {path : Text}, path ∈ headers → ∀ rest, (path ++ '>' :: rest).takeWhile (· != '>') = path := by
    intro path hpath rest
    have hall : ∀ c ∈ path, (c != '>') = true := by
      intro c hc
      have : c ≠ '>' := fun heq => hclosing path hpath (heq ▸ hc)
      simpa using this
    rw [List.takeWhile_append_of_pos hall, List.takeWhile_cons_of_neg (by simp), List.append_nil]
  obtain ⟨p, hp, hheader⟩ := hneed
  constructor
  · rintro ⟨-, rest, hmessage⟩
    have htext : p ++ '>' :: (" for ".toList ++ need.name) = path ++ '>' :: rest.toList := by
      have := congrArg String.toList hmessage
      simpa [Need.finding, hheader, bracketed] using this
    have hsame := congrArg (List.takeWhile (· != '>')) htext
    rw [hends hp, hends hpath] at hsame
    rw [hheader, hsame]
  · intro h
    refine ⟨rfl, " for " ++ String.ofList need.name, ?_⟩
    apply String.toList_injective
    simp [Need.finding, h, bracketed]

/-- A header of the library is asked for just if it is needed, as long as nothing fails. -/
theorem outcome_asks_iff (t : FileTree) (file : Text) (s : Source) (table : IncludeTable) {path : Text}
    (hpath : path ∈ headers) :
    (∃ f, Event.report f ∈ (outcome t file s table).events ∧ Asks path f) ↔
      (outcome t file s table).failure = none ∧ Needed t file s table path := by
  unfold outcome outcomeBy
  simp only
  cases hprovide : provide t (modulePath t file) ((included table).map (·.1)) (included table) with
  | error e => simp
  | ok provided =>
    obtain ⟨known, found⟩ := provided
    obtain ⟨hknown, hfound⟩ := provide_included_ok hprovide
    have hmissing : ¬ known.Has path ↔ (∀ e ∈ table.entries, e.path ≠ path) ∧
        ∀ e ∈ table.entries, ∀ text, Own t (modulePath t file) e.path text → ¬ Brings text path := by
      rw [hknown]
      grind
    simp only
    split
    · rename_i hleft
      rw [Bool.and_eq_true, Bool.not_eq_true'] at hleft
      constructor
      · rintro ⟨f, hf, -⟩
        cases hf
      · rintro ⟨-, hneeded⟩
        have := hfound.mpr (hneeded.readable hleft.1)
        rw [hleft.2] at this
        cases this
    · rename_i hasked
      have hreadable : Text.endsWith file ".cc".toList = true →
          ∃ e ∈ table.entries, ∃ text, Own t (modulePath t file) e.path text := by
        intro hcc
        rw [hcc, Bool.true_and] at hasked
        exact hfound.mp (by simpa using hasked)
      constructor
      · rintro ⟨f, hf, hasks⟩
        obtain ⟨f', hf', heq⟩ := List.mem_map.mp hf
        cases heq
        obtain ⟨need, hneed, rfl⟩ := List.mem_map.mp hf'
        obtain ⟨hneed, hnew⟩ := List.mem_filter.mp hneed
        obtain ⟨n, hn, u, hu, hheader⟩ := needs_iff.mp ⟨need, hneed, rfl⟩
        have hbracketed := (finding_asks_iff hpath (hheader ▸ uses_header hu)).mp hasks
        have hunknown : ¬ known.Has path := by
          rw [← path_of_header hpath hbracketed, ← Provided.any_iff, Bool.not_eq_true]
          rwa [Bool.not_eq_true'] at hnew
        obtain ⟨habsent, hnot⟩ := hmissing.mp hunknown
        exact ⟨rfl, ⟨n, hn, u, hu, hheader.trans hbracketed⟩, habsent, hnot, hreadable⟩
      · rintro ⟨-, hneeded⟩
        obtain ⟨need, hneed, hheader⟩ := needs_iff.mpr hneeded.used
        have hunknown := hmissing.mpr ⟨hneeded.absent, hneeded.notBrought⟩
        rw [← path_of_header hpath hheader, ← Provided.any_iff, Bool.not_eq_true] at hunknown
        have hmem : need ∈ (needs uses s).filter fun n => !known.any fun h => h.1 == n.path :=
          List.mem_filter.mpr ⟨hneed, by rw [hunknown]; rfl⟩
        exact ⟨need.finding, List.mem_map.mpr ⟨_, List.mem_map.mpr ⟨need, hmem, rfl⟩, rfl⟩,
          (finding_asks_iff hpath ⟨path, hpath, hheader⟩).mpr hheader⟩

end Required

end StyleCheck
