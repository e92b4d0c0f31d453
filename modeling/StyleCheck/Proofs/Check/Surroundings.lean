/-
  StyleCheck.Proofs.Check.Surroundings — what the check of a file sees of the tree.

  The text of the file is given to the check, and the check does not read it again. From the tree it learns
  which files and directories there are, and what the headers of the file's module include, which are
  other files (`Module.resolve_ne_of_lead?`). So in two trees that differ only in the contents of the file
  (`FileTree.SameBut`) all is said in the same way, given the same lines (`file_same`).

  Configurations are read for the file before that. The file can be one of them; then its options have to be
  the same in both trees (`apply_same`).
-/

import StyleCheck.Configuration
import StyleCheck.Proofs.Include.Needed
import StyleCheck.Proofs.Include.OtherFile

namespace StyleCheck

/-- The trees have the same files and directories, with the same contents but for the file at `p`. -/
structure FileTree.SameBut (p : Text) (t t' : FileTree) : Prop where
  here : t'.here = t.here
  directories : t'.directories = t.directories
  paths : t'.files.map (·.1) = t.files.map (·.1)
  contents : ∀ q, t.resolve q ≠ t.resolve p → t'.octets? q = t.octets? q

section

variable {p : Text} {t t' : FileTree} (h : t.SameBut p t')

include h

/-! ## Names -/

namespace FileTree.SameBut

theorem resolve : t'.resolve = t.resolve := by
  unfold FileTree.resolve
  rw [h.here]

theorem any_files (f : Text → Bool) : (t'.files.any fun entry => f entry.1) = t.files.any fun entry => f entry.1 := by
  have hany := congrArg (List.any · f) h.paths
  simp only [List.any_map] at hany
  exact hany

theorem isFile : t'.isFile = t.isFile := by
  funext q
  unfold FileTree.isFile
  rw [h.resolve]
  exact h.any_files (· == t.resolve q)

theorem «exists» : t'.exists = t.exists := by
  funext q
  unfold FileTree.exists
  rw [h.resolve, h.directories]
  have hany := h.any_files fun path => path == t.resolve q || Path.isUnder (t.resolve q) path
  simp only at hany ⊢
  rw [hany]

theorem text? {q : Text} (hq : t.resolve q ≠ t.resolve p) : t'.text? q = t.text? q := by
  unfold FileTree.text?
  rw [h.contents q hq]

end FileTree.SameBut

namespace Repository

theorem fullName_same : fullName t' = fullName t := by
  funext q
  rw [fullName, fullName, h.resolve]

theorem hasEntry_same : hasEntry t' = hasEntry t := by
  funext dir name
  rw [hasEntry, hasEntry, h.exists]

theorem hasMark_same : hasMark t' = hasMark t := by
  funext dir
  rw [hasMark, hasMark, hasEntry_same h]

theorem chainTop_same (dir : Text) : chainTop t' dir = chainTop t dir := by
  fun_induction chainTop t dir with
  | case1 dir up hmark hup =>
    rw [chainTop, hasEntry_same h]
    simp only [up] at hmark hup
    rw [if_pos hmark, dif_pos hup]
  | case2 dir up hmark hup ih =>
    rw [chainTop, hasEntry_same h]
    simp only [up] at hmark hup
    rw [if_pos hmark, dif_neg hup]
    exact ih
  | case3 dir up hmark =>
    rw [chainTop, hasEntry_same h]
    simp only [up] at hmark
    rw [if_neg hmark]

theorem topmostMark_same (dir found : Text) : topmostMark t' dir found = topmostMark t dir found := by
  fun_induction topmostMark t dir found with
  | case1 dir found up hup =>
    rw [topmostMark]
    exact dif_pos hup
  | case2 dir found up hup ih =>
    rw [topmostMark, hasMark_same h]
    simp only [up] at hup
    rw [dif_neg hup]
    exact ih

theorem name_same : name t' = name t := by
  funext q
  unfold name root?
  simp only [fullName_same h, h.exists, hasEntry_same h, hasMark_same h, chainTop_same h, topmostMark_same h]

theorem parts_same : parts t' = parts t := by
  funext q
  rw [parts, parts, name_same h]

end Repository

/-! ## Headers and header guards -/

theorem HeaderKind.ofInclude_same : ofInclude t' = ofInclude t := by
  funext file header system
  rw [ofInclude, ofInclude, Repository.name_same h]

namespace IncludeLine

theorem misplaced_same : misplaced t' = misplaced t := by
  funext file n message
  cases message with
  | none => rfl
  | some message => rw [misplaced, misplaced, Repository.parts_same h]

theorem header_same : header t' = header t := by
  funext file s n inc table
  unfold header enter isForeignSource
  rw [Repository.name_same h, HeaderKind.ofInclude_same h, misplaced_same h]

theorem update_same : update t' = update t := by
  funext file s n table
  rw [update, update, header_same h]

end IncludeLine

namespace HeaderGuard

theorem path_same : path t' = path t := by
  funext root header
  unfold path
  rw [h.resolve]

theorem nameOf_same : nameOf t' = nameOf t := by
  funext settings q
  rw [nameOf, nameOf, Repository.name_same h, path_same h, Repository.fullName_same h]

theorem outcome_same : outcome t' = outcome t := by
  funext settings q s
  rw [outcome, outcome, nameOf_same h]

end HeaderGuard

theorem OwnHeader.findings_same : findings t' = findings t := by
  funext file table
  rw [findings, findings, Repository.name_same h, h.exists]

theorem Module.lead?_same : lead? t' = lead? t := by
  funext file header
  unfold lead? sourceKey?
  rw [Repository.parts_same h]

namespace Required

/-- The headers of the file's module are read from elsewhere. -/
theorem provideOne_same : provideOne t' (modulePath t p) = provideOne t (modulePath t p) := by
  funext state header
  unfold provideOne
  rw [Module.lead?_same h]
  cases hlead : Module.lead? t (modulePath t p) header with
  | error e => rfl
  | ok lead =>
    cases lead with
    | none => rfl
    | some lead =>
      have hread : state.1.read? t' (lead ++ header) = state.1.read? t (lead ++ header) := by
        rw [Module.Provided.read?, Module.Provided.read?, h.text? (Module.resolve_ne_of_lead? hlead)]
      simp only [Except.map, hread]

theorem outcome_same (s : Source) (table : IncludeTable) : outcome t' p s table = outcome t p s table := by
  have hpath : modulePath t' p = modulePath t p := by rw [modulePath, modulePath, Repository.fullName_same h]
  unfold outcome outcomeBy provide
  rw [hpath, provideOne_same h]

end Required

end

/-! ## Lines and files -/

namespace Check

variable {c : Context} {t' : FileTree} (h : c.tree.SameBut c.file t')

include h

theorem guard?_same : guard? { c with tree := t' } = guard? c := by
  unfold guard?
  rw [HeaderGuard.nameOf_same h]
  rfl

theorem style_same (s : Source) (st : Nesting) (n : Nat) : style { c with tree := t' } s st n = style c s st n := by
  unfold style extent
  rw [guard?_same h]

theorem language_same (s : Source) (table : IncludeTable) (n : Nat) :
    language { c with tree := t' } s table n = language c s table n := by
  unfold language
  rw [IncludeLine.update_same h]
  rfl

theorem code_same (s : Source) (p : Progress) (n : Nat) : code { c with tree := t' } s p n = code c s p n := by
  unfold code
  simp only [style_same h, language_same h]

theorem line_same (s : Source) (p : Progress) (n : Nat) : line { c with tree := t' } s p n = line c s p n := by
  unfold line
  simp only [code_same h]

theorem lines_same (s : Source) (p : Progress) (n count : Nat) :
    lines { c with tree := t' } s p n count = lines c s p n count := by
  induction count generalizing p n with
  | zero => rfl
  | succ count ih =>
    unfold lines
    simp only [line_same h, ih]

theorem ending_same (s : Source) (p : Progress) (lines : List Text) :
    ending { c with tree := t' } s p lines = ending c s p lines := by
  unfold ending
  rw [Required.outcome_same h, OwnHeader.findings_same h]

/-- Of the tree, the contents of the file itself do not matter to its check. -/
theorem file_same (given : List Text) : file { c with tree := t' } given = file c given := by
  unfold file
  simp only [HeaderGuard.outcome_same h, lines_same h, ending_same h]
  rfl

end Check

/-! ## Configurations -/

namespace Configuration

def entriesOf (text : Text) : List Entry := (Text.plainLines text).filterMap Entry.ofLine?

variable {p : Text} {t t' : FileTree} (h : t.SameBut p t')
  (hself : (t'.text? p).map entriesOf = (t.text? p).map entriesOf)

include h hself

/-- The file may be a configuration itself, if its options are the same in both trees. -/
theorem Place.read_same (place : Place) : place.read t' = place.read t := by
  have hentries : (t'.text? place.config).map entriesOf = (t.text? place.config).map entriesOf := by
    by_cases hconfig : t.resolve place.config = t.resolve p
    · have hconfig' : t'.resolve place.config = t'.resolve p := by rw [h.resolve, hconfig]
      simp only [FileTree.text?, FileTree.octets?, hconfig, hconfig'] at hself ⊢
      exact hself
    · rw [h.text? hconfig]
  funext r
  unfold Place.read
  rw [h.isFile]
  cases htext : t.text? place.config with
  | none =>
    rw [htext] at hentries
    rw [Option.map_eq_none_iff.mp hentries]
  | some text =>
    rw [htext] at hentries
    obtain ⟨text', htext', hsame⟩ := Option.map_eq_some_iff.mp hentries
    rw [htext']
    unfold entriesOf at hsame
    simp only [hsame]

theorem readUp_same (file : Text) (r : Reading) (dirs : List (Text × Text)) :
    readUp t' file r dirs = readUp t file r dirs := by
  induction dirs generalizing r with
  | nil => rfl
  | cons dir above ih =>
    unfold readUp
    simp only [Place.read_same h hself, ih]

theorem apply_same (s : Session) (file : Text) : apply t' s file = apply t s file := by
  unfold apply
  rw [h.resolve]
  simp only [readUp_same h hself]

end Configuration

end StyleCheck
