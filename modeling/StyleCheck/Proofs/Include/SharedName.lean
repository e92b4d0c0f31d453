/-
  StyleCheck.Proofs.Include.SharedName — whether the files of one module share their name.

  A source file and a header belong to one module if the path of the one, without its endings, ends in the path of the
  other. Leaving out the directories for public and internal files does not touch the last component of a path
  (`base_withoutDivisions`). But the header may begin in the middle of a component of the source file, and then their last
  components differ; and the path of a header that has nothing but its ending is empty, and then the text that is to be
  put before it is not what stands before it (`module_shares_name_iff_header_begins_a_component`).
-/

import StyleCheck.Include.Module
import StyleCheck.Proofs.Path.Components

namespace StyleCheck.Module

/-- A path without the ending of a test, if the name of the file has one. -/
def withoutTestEnding (name path : Text) : Text :=
  match testEnding.search? name with
  | some m => path.take (path.length - (m.group 1).length)
  | none => path

def sourceStem (file : Text) (parts : Repository.Parts) : Text :=
  withoutTestEnding parts.base (file.take (file.length - parts.extension.length))

inductive HeaderStem (header stem : Text) : Prop
  | plain (path : header = stem ++ ".h".toList) (notInline : ¬ "-inl".toList <:+ stem)
  | inline (path : header = stem ++ "-inl.h".toList)

/-- The source file has the path `source` and the header the path `stem`, both without their endings, and with some
directories left out the one ends in the other, behind `front`. -/
structure EndsIn (t : FileTree) (file header source stem front : Text) : Prop where
  isSource : ∃ parts, Repository.parts t file = .ok parts ∧ isSourceExtension (parts.extension.drop 1) = true ∧
    source = sourceStem file parts
  isHeader : HeaderStem header stem
  ends : withoutDivisions source = front ++ withoutDivisions stem

/-! ## Directories that are left out -/

section

variable {old : Text}

/-- What is put in place of a directory is a slash, as what is left out begins and ends with one. -/
theorem slash_mem_substitute (hold : '/' ∈ old) (s : Text) : '/' ∈ Text.substitute old ['/'] s ↔ '/' ∈ s := by
  constructor
  · intro hmem
    by_contra hs
    rw [Text.substitute_of_not_isInfix fun hin => hs (hin.subset hold)] at hmem
    exact hs hmem
  · intro hs
    rcases Text.substitute_eq_or_mem old (x := '/') List.mem_cons_self s with heq | hmem
    · rw [heq]
      exact hs
    · exact hmem

theorem base_substitute (front s : Text) :
    Path.base (Text.substitute (front ++ ['/']) ['/'] s) = Path.base s := by
  by_cases hstart : front ++ ['/'] <+: s
  · obtain ⟨rest, rfl⟩ := hstart
    rw [Text.substitute_append (by simp), List.singleton_append, ← List.nil_append ('/' :: _), Path.base_append_cons,
      base_substitute front rest, ← List.append_cons front, Path.base_append_cons]
  · cases s with
    | nil => rfl
    | cons c s =>
      have hold : '/' ∈ front ++ ['/'] := List.mem_append_right front List.mem_cons_self
      have hstep : Text.substitute (front ++ ['/']) ['/'] (c :: s) = c :: Text.substitute (front ++ ['/']) ['/'] s := by
        show Text.substitute.go (front ++ ['/']) ['/'] 0 (c :: s) = _
        rw [Text.substitute.go, if_neg (mt List.isPrefixOf_iff_prefix.mp hstart)]
        rfl
      rw [hstep]
      by_cases hs : '/' ∈ s
      · have hcut {x : Text} (hx : '/' ∈ x) : Path.base (c :: x) = Path.base x := Path.base_append_of_mem hx [c]
        rw [hcut ((slash_mem_substitute hold s).mpr hs), hcut hs, base_substitute front s]
      · rw [Text.substitute_of_not_isInfix fun hin => hs (hin.subset hold)]
termination_by s.length

theorem substitute_eq_nil {s : Text} : Text.substitute old ['/'] s = [] ↔ s = [] := by
  constructor
  · intro hnil
    rcases Text.substitute_eq_or_mem old (x := '/') List.mem_cons_self s with heq | hmem
    · exact heq.symm.trans hnil
    · rw [hnil] at hmem
      cases hmem
  · rintro rfl
    rfl

end

theorem base_withoutDivisions (p : Text) : Path.base (withoutDivisions p) = Path.base p := by
  have hends : "/public/".toList = "/public".toList ++ ['/'] ∧ "/internal/".toList = "/internal".toList ++ ['/'] := by decide
  rw [withoutDivisions, hends.1, hends.2, base_substitute, base_substitute]

theorem slash_mem_withoutDivisions {p : Text} : '/' ∈ withoutDivisions p ↔ '/' ∈ p := by
  have hmem : '/' ∈ "/public/".toList ∧ '/' ∈ "/internal/".toList := by decide
  rw [withoutDivisions, slash_mem_substitute hmem.2, slash_mem_substitute hmem.1]

theorem withoutDivisions_eq_nil {p : Text} : withoutDivisions p = [] ↔ p = [] := by
  rw [withoutDivisions, substitute_eq_nil, substitute_eq_nil]

/-! ## Names that are compared -/

theorem take_append_length (s ending : Text) : (s ++ ending).take ((s ++ ending).length - ending.length) = s := by
  rw [List.length_append, Nat.add_sub_cancel, List.take_left]

theorem HeaderStem.headerKey?_eq {header stem : Text} (h : HeaderStem header stem) :
    headerKey? header = some (withoutDivisions stem) := by
  have hkey (path : Text) : headerKey? (path ++ ".h".toList) = some (withoutDivisions
      (if Text.endsWith path "-inl".toList then path.take (path.length - 4) else path)) := by
    have hends : Text.endsWith (path ++ ".h".toList) ".h".toList = true :=
      List.isSuffixOf_iff_suffix.mpr (List.suffix_append _ _)
    have hpath : (path ++ ".h".toList).take ((path ++ ".h".toList).length - 2) = path := take_append_length path ".h".toList
    simp only [headerKey?, hends, hpath, if_true]
  cases h with
  | plain path notInline =>
    have hends : Text.endsWith stem "-inl".toList = false :=
      Bool.eq_false_iff.mpr (mt List.isSuffixOf_iff_suffix.mp notInline)
    rw [path, hkey, hends, if_neg Bool.false_ne_true]
  | inline path =>
    have hends : Text.endsWith (stem ++ "-inl".toList) "-inl".toList = true :=
      List.isSuffixOf_iff_suffix.mpr (List.suffix_append _ _)
    have hsplit : header = (stem ++ "-inl".toList) ++ ".h".toList := by rw [path, List.append_assoc]; rfl
    have hstem : (stem ++ "-inl".toList).take ((stem ++ "-inl".toList).length - 4) = stem :=
      take_append_length stem "-inl".toList
    rw [hsplit, hkey, hends, if_pos rfl, hstem]

theorem exists_headerStem {header key : Text} (h : headerKey? header = some key) :
    ∃ stem, HeaderStem header stem ∧ key = withoutDivisions stem := by
  have hends : ".h".toList <:+ header := by
    by_contra hnot
    have hends : Text.endsWith header ".h".toList = false :=
      Bool.eq_false_iff.mpr (mt List.isSuffixOf_iff_suffix.mp hnot)
    rw [headerKey?, hends, if_neg Bool.false_ne_true] at h
    cases h
  obtain ⟨path, rfl⟩ := hends
  obtain ⟨stem, hstem⟩ : ∃ stem, HeaderStem (path ++ ".h".toList) stem := by
    by_cases hinline : "-inl".toList <:+ path
    · obtain ⟨stem, rfl⟩ := hinline
      exact ⟨stem, .inline (by rw [List.append_assoc]; rfl)⟩
    · exact ⟨path, .plain rfl hinline⟩
  rw [hstem.headerKey?_eq] at h
  exact ⟨stem, hstem, (Option.some.inj h).symm⟩

theorem sourceKey?_eq (t : FileTree) (file : Text) : sourceKey? t file = (Repository.parts t file).map fun parts =>
    if isSourceExtension (parts.extension.drop 1) then some (withoutDivisions (sourceStem file parts)) else none := rfl

section

variable {t : FileTree} {file header source stem front lead : Text}

/-- What has to be put before the path of a header is what stands before it in that of the source file, unless
the path is empty. -/
theorem EndsIn.lead?_eq (h : EndsIn t file header source stem front) :
    lead? t file header = .ok (some (if stem = [] then [] else front)) := by
  obtain ⟨parts, hparts, hextension, rfl⟩ := h.isSource
  have hends : Text.endsWith (front ++ withoutDivisions stem) (withoutDivisions stem) = true :=
    List.isSuffixOf_iff_suffix.mpr (List.suffix_append _ _)
  simp only [lead?, sourceKey?_eq, hparts, hextension, if_true, h.isHeader.headerKey?_eq, h.ends, Except.map, hends,
    take_append_length, List.isEmpty_iff, withoutDivisions_eq_nil]

theorem exists_endsIn (h : lead? t file header = .ok (some lead)) :
    ∃ source stem front, EndsIn t file header source stem front := by
  unfold lead? at h
  rw [sourceKey?_eq] at h
  cases hparts : Repository.parts t file with
  | error e =>
    rw [hparts] at h
    cases h
  | ok parts =>
    rw [hparts] at h
    simp only [Except.map, Except.ok.injEq] at h
    split at h
    · rename_i source key hsource hkey
      split at hsource
      · rename_i hextension
        obtain ⟨stem, hstem, rfl⟩ := exists_headerStem hkey
        split at h
        · rename_i hends
          obtain ⟨front, hfront⟩ := List.isSuffixOf_iff_suffix.mp hends
          refine ⟨_, stem, front, ⟨parts, hparts, hextension, rfl⟩, hstem, ?_⟩
          rw [Option.some.inj hsource, hfront]
        · cases h
      · cases hsource
    · cases h

/-- The last components are the same just if the path of the header begins where a component of the other begins, or
has a component of its own before the last. -/
theorem EndsIn.base_eq_iff (h : EndsIn t file header source stem front) :
    Path.base source = Path.base stem ↔ '/' ∈ stem ∨ front = [] ∨ front.getLast? = some '/' := by
  rw [← base_withoutDivisions source, ← base_withoutDivisions stem, h.ends, ← slash_mem_withoutDivisions]
  by_cases hslash : '/' ∈ withoutDivisions stem
  · exact iff_of_true (Path.base_append_of_mem hslash front) (.inl hslash)
  · rw [Path.base_append_of_notMem hslash, Path.base_of_notMem hslash, List.append_left_eq_self, Path.base_eq_nil_iff,
      or_iff_right hslash]

end

/-- A source file and a header are of one module just if the path of the source file, without its endings and with some
directories left out, ends in that of the header. Their names, the last components, are the same just if the path of
the header begins a component there or has a slash in it. What has to be put before the path of the header
gives that of the source file just if the path of the header is not empty, or that of the source file is too. -/
theorem module_shares_name_iff_header_begins_a_component (t : FileTree) (file header lead : Text) :
    (lead? t file header = .ok (some lead) ↔
      ∃ source stem front, EndsIn t file header source stem front ∧ lead = if stem = [] then [] else front) ∧
    ∀ source stem front, EndsIn t file header source stem front → lead? t file header = .ok (some lead) →
      (Path.base source = Path.base stem ↔ '/' ∈ stem ∨ front = [] ∨ front.getLast? = some '/') ∧
      (withoutDivisions source = lead ++ withoutDivisions stem ↔ stem ≠ [] ∨ front = []) := by
  have hlead {source stem front : Text} (hends : EndsIn t file header source stem front)
      (h : lead? t file header = .ok (some lead)) : lead = if stem = [] then [] else front :=
    Option.some.inj (Except.ok.inj (h.symm.trans hends.lead?_eq))
  refine ⟨⟨fun h => ?_, ?_⟩, fun source stem front hends h => ⟨hends.base_eq_iff, ?_⟩⟩
  · obtain ⟨source, stem, front, hends⟩ := exists_endsIn h
    exact ⟨source, stem, front, hends, hlead hends h⟩
  · rintro ⟨source, stem, front, hends, rfl⟩
    exact hends.lead?_eq
  · rw [hends.ends, hlead hends h, List.append_left_inj]
    by_cases hstem : stem = []
    · simp [hstem]
    · simp [hstem]

def emptyTree : FileTree where
  here := "/proj".toList

/-- A header that begins a component, one that begins in the middle of one, and one that has no name. -/
theorem module_shares_name_iff_header_begins_a_component_emptyTree :
    (EndsIn emptyTree "x/base/internal/foo_test.cc".toList "base/public/foo.h".toList "x/base/internal/foo".toList
        "base/public/foo".toList "x/".toList ∧
      lead? emptyTree "x/base/internal/foo_test.cc".toList "base/public/foo.h".toList = .ok (some "x/".toList) ∧
      Path.base "x/base/internal/foo".toList = Path.base "base/public/foo".toList) ∧
    (EndsIn emptyTree "a/xfoo.cc".toList "foo-inl.h".toList "a/xfoo".toList "foo".toList "a/x".toList ∧
      lead? emptyTree "a/xfoo.cc".toList "foo-inl.h".toList = .ok (some "a/x".toList) ∧
      Path.base "a/xfoo".toList ≠ Path.base "foo".toList) ∧
    EndsIn emptyTree "foo.cc".toList ".h".toList "foo".toList [] "foo".toList ∧
      lead? emptyTree "foo.cc".toList ".h".toList = .ok (some []) ∧
      withoutDivisions "foo".toList ≠ [] ++ withoutDivisions [] := by
  have hwhole : EndsIn emptyTree "x/base/internal/foo_test.cc".toList "base/public/foo.h".toList
      "x/base/internal/foo".toList "base/public/foo".toList "x/".toList :=
    ⟨⟨⟨"/proj/x/base/internal".toList, "foo_test".toList, ".cc".toList⟩, by decide +kernel, by decide +kernel,
        by decide +kernel⟩,
      .plain rfl (by decide), by decide +kernel⟩
  have hmiddle : EndsIn emptyTree "a/xfoo.cc".toList "foo-inl.h".toList "a/xfoo".toList "foo".toList "a/x".toList :=
    ⟨⟨⟨"/proj/a".toList, "xfoo".toList, ".cc".toList⟩, by decide +kernel, by decide +kernel, by decide +kernel⟩,
      .inline rfl, by decide +kernel⟩
  have hnameless : EndsIn emptyTree "foo.cc".toList ".h".toList "foo".toList [] "foo".toList :=
    ⟨⟨⟨"/proj".toList, "foo".toList, ".cc".toList⟩, by decide +kernel, by decide +kernel, by decide +kernel⟩,
      .plain rfl (by decide), by decide +kernel⟩
  obtain ⟨hwholeLead, hwholeFacts⟩ := module_shares_name_iff_header_begins_a_component emptyTree
    "x/base/internal/foo_test.cc".toList "base/public/foo.h".toList "x/".toList
  obtain ⟨hmiddleLead, hmiddleFacts⟩ := module_shares_name_iff_header_begins_a_component emptyTree
    "a/xfoo.cc".toList "foo-inl.h".toList "a/x".toList
  obtain ⟨hnamelessLead, hnamelessFacts⟩ := module_shares_name_iff_header_begins_a_component emptyTree
    "foo.cc".toList ".h".toList []
  have hwholeLead := hwholeLead.mpr ⟨_, _, _, hwhole, rfl⟩
  have hmiddleLead := hmiddleLead.mpr ⟨_, _, _, hmiddle, rfl⟩
  have hnamelessLead := hnamelessLead.mpr ⟨_, _, _, hnameless, rfl⟩
  refine ⟨⟨hwhole, hwholeLead, (hwholeFacts _ _ _ hwhole hwholeLead).1.mpr (by decide)⟩,
    ⟨hmiddle, hmiddleLead, mt (hmiddleFacts _ _ _ hmiddle hmiddleLead).1.mp (by decide)⟩,
    hnameless, hnamelessLead, mt (hnamelessFacts _ _ _ hnameless hnamelessLead).2.mp (by decide)⟩

end StyleCheck.Module
