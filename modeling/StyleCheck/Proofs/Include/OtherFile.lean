/-
  StyleCheck.Proofs.Include.OtherFile — the headers read for a source file are other files.

  Of the headers a file includes, those of its own module are read too. Such a header ends in `.h`, and
  the file has the extension of a source file. To be one file they would have to end in the same
  character: resolving a path keeps its last character (`getLast?_resolve`), and so do all changes
  that are made to the name of the file before its extension is taken (`getLast?_fullName`,
  `replaceAll_temporarySource`, `extension_suffix`). Hence `resolve_ne_of_lead?`.
-/

import StyleCheck.Include.Required
import StyleCheck.Proofs.Pattern.Literal
import StyleCheck.Proofs.Text.Cut

namespace StyleCheck

namespace Path

theorem suffix_join (a p : Text) : p <:+ join a p := by
  unfold join
  split
  · exact List.suffix_rfl
  · split
    · exact List.suffix_append _ _
    · exact (List.suffix_cons _ _).trans (List.suffix_append _ _)

theorem base_suffix (p : Text) : base p <:+ p := List.drop_suffix _ _

theorem extension_suffix (p : Text) : extension p <:+ p := by
  unfold extension splitExtension
  simp only
  split
  · exact List.nil_suffix
  · split
    · exact (List.drop_suffix _ _).trans (base_suffix p)
    · exact List.nil_suffix

theorem reduce_concat (rooted : Bool) (done parts : List Text) {last : Text} (hlast : last ≠ []) (hdot : last ≠ ['.'])
    (hup : last ≠ ['.', '.']) : reduce rooted done (parts ++ [last]) = last :: reduce rooted done parts := by
  fun_induction reduce rooted done parts with
  | case1 done => simp [reduce, hlast, hdot, hup]
  | _ => simp_all [reduce]

/-- The last component of a path stays the last one, unless it is a way up or stands for the directory itself. -/
theorem getLast?_normal {p : Text} {c : Char} (hp : p.getLast? = some c) (hslash : c ≠ '/') (hdot : c ≠ '.') :
    (normal p).getLast? = some c := by
  obtain ⟨parts, last, hpieces, hlast⟩ := Text.splitOn_last hp hslash
  rw [← Text.pieces_singleton] at hpieces
  have hne : last ≠ [] := by
    rintro rfl
    cases hlast
  have hreduce := reduce_concat (!(rootOf p).isEmpty) [] parts hne
    (by rintro rfl; exact hdot (Option.some.inj hlast).symm) (by rintro rfl; exact hdot (Option.some.inj hlast).symm)
  unfold normal
  simp only [hpieces, hreduce, List.reverse_cons]
  have hsuffix := (Text.suffix_joinWith ['/'] last
    (reduce (!(rootOf p).isEmpty) [] parts).reverse).trans (List.suffix_append (rootOf p) _)
  have hend := Text.getLast?_of_suffix hsuffix hne
  rw [if_neg, hend, hlast]
  intro hempty
  rw [List.isEmpty_iff.mp hempty] at hend
  rw [hlast] at hend
  cases hend

theorem getLast?_resolve (here : Text) {p : Text} {c : Char} (hp : p.getLast? = some c) (hslash : c ≠ '/')
    (hdot : c ≠ '.') : (resolve here p).getLast? = some c := by
  have hne : p ≠ [] := by
    rintro rfl
    cases hp
  have hjoin := Text.getLast?_of_suffix (suffix_join here p) hne
  exact getLast?_normal (hjoin.trans hp) hslash hdot

end Path

/-! ## The name of a source file -/

theorem Repository.getLast?_fullName {t : FileTree} {p : Text} (h : (t.resolve p).getLast? = some 'h') :
    (fullName t p).getLast? = some 'h' := by
  rw [fullName, Text.substitute_singleton, List.getLast?_map, h]
  rfl

/-- The name of a file in its repository is the end of its full name. -/
theorem Repository.name_suffix {t : FileTree} {p name : Text} (h : Repository.name t p = .ok name) :
    name <:+ fullName t p := by
  simp only [Repository.name] at h
  cases hroot : root? t (fullName t p) with
  | error e =>
    rw [hroot] at h
    cases h
  | ok top =>
    rw [hroot] at h
    cases top with
    | none =>
      cases h
      exact List.suffix_rfl
    | some top =>
      cases h
      exact List.drop_suffix _ _

theorem Repository.extension_ofName_suffix (name : Text) : (Parts.ofName name).extension <:+ name :=
  (Path.extension_suffix _).trans (Path.base_suffix name)

theorem isSourceExtension_getLast? {extension : Text} (h : isSourceExtension extension = true) :
    extension ≠ [] ∧ extension.getLast? ≠ some 'h' := by
  have hall : ∀ e ∈ ["c".toList, "cc".toList, "cpp".toList, "cxx".toList], e ≠ [] ∧ e.getLast? ≠ some 'h' := by decide
  exact hall extension (List.contains_iff_mem.mp h)

namespace Required

/-- No file whose name ends in the last letter of a header is a temporary copy of a source file. -/
theorem replaceAll_temporarySource {p : Text} (h : p.getLast? = some 'h') (new : Text) :
    temporarySource.replaceAll new p = p := by
  refine Pattern.replaceAll_of_none ?_ new
  rw [Pattern.search?_eq]
  refine Pattern.searchFrom?_eq_none (fun c hc => ?_) none 0
  refine Option.eq_none_iff_forall_ne_some.mpr fun d hd => ?_
  have hends := Pattern.run_literal_finish hd
  have hne : c.rest ≠ [] := by
    rcases hends with hends | hends <;> simp [hends]
  have hlast := Text.getLast?_of_suffix hc hne
  rw [h] at hlast
  rcases hends with hends | hends <;> simp [hends] at hlast

end Required

namespace Module

theorem lead?_ok {t : FileTree} {file header lead : Text} (h : lead? t file header = .ok (some lead)) :
    (∃ parts, Repository.parts t file = .ok parts ∧ isSourceExtension (parts.extension.drop 1) = true) ∧
    ".h".toList <:+ header := by
  simp only [lead?, sourceKey?] at h
  cases hparts : Repository.parts t file with
  | error e =>
    rw [hparts] at h
    cases h
  | ok parts =>
    rw [hparts] at h
    simp only [Except.map, Except.ok.injEq] at h
    by_cases hsource : isSourceExtension (parts.extension.drop 1) = true
    · refine ⟨⟨parts, rfl, hsource⟩, ?_⟩
      by_cases hheader : Text.endsWith header ".h".toList = true
      · exact List.isSuffixOf_iff_suffix.mp hheader
      · rw [if_pos hsource, show headerKey? header = none from if_neg hheader] at h
        cases h
    · rw [if_neg hsource] at h
      cases h

/-- A header of the file's own module is not the file itself. -/
theorem resolve_ne_of_lead? {t : FileTree} {file header lead : Text}
    (h : lead? t (Required.temporarySource.replaceAll ".cc".toList (Repository.fullName t file)) header
      = .ok (some lead)) :
    t.resolve (lead ++ header) ≠ t.resolve file := by
  intro hsame
  obtain ⟨⟨parts, hparts, hsource⟩, hheader⟩ := lead?_ok h
  have hend : (lead ++ header).getLast? = some 'h' :=
    Text.getLast?_of_suffix (hheader.trans (List.suffix_append lead header)) (by decide)
  have hresolved : (t.resolve file).getLast? = some 'h' := by
    rw [← hsame]
    exact Path.getLast?_resolve t.here hend (by decide) (by decide)
  have hfull := Repository.getLast?_fullName hresolved
  rw [Required.replaceAll_temporarySource hfull] at hparts
  cases hname : Repository.name t (Repository.fullName t file) with
  | error e =>
    rw [Repository.parts, hname] at hparts
    cases hparts
  | ok name =>
    rw [Repository.parts, hname] at hparts
    cases hparts
    have hsuffix := ((List.drop_suffix 1 _).trans (Repository.extension_ofName_suffix name)).trans
      (Repository.name_suffix hname)
    obtain ⟨hne, hlast⟩ := isSourceExtension_getLast? hsource
    have hagain := Repository.getLast?_fullName (Path.getLast?_resolve t.here hfull (by decide) (by decide))
    rw [Text.getLast?_of_suffix hsuffix hne] at hagain
    exact hlast hagain

end Module

end StyleCheck
