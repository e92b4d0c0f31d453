/-
  StyleCheck.Proofs.Rule.Speech — what a rule speaks of, how sure it is, and in which categories.

  Every rule speaks of certain lines, with a confidence from 0 to 5, and in a few categories that are its
  own (`Speak`). There is one lemma for each rule. Nearly all rules that look at a line speak of that line
  and of no other. Three stand apart:

  (1) A block that ends may have something to say about a line above, within the block (`UpTo`).
  (2) An empty body is reported where the head of its statement ends, which may be a line below
      (`EmptyBody.findings_cases`).
  (3) The confidence of a finding about a long function is worked out from its length; it is not
      below 0 if the verbosity is not (`FunctionLength.update_rated`).

  A rule that may fail, or is made of several, has an outcome that tells such findings (`Tells`).
-/

import StyleCheck.Check.Line
import StyleCheck.Proofs.Bracket.Forward
import StyleCheck.Proofs.Check.Account

namespace StyleCheck

theorem Finding.mem_when {test : Bool} {found f : Finding} : f ∈ Finding.when test found ↔ test = true ∧ f = found := by
  cases test <;> simp [Finding.when]

/-- The findings speak of these lines, in these categories, with a confidence from 0 to 5. -/
def Speak (lines : Int → Prop) (topics : List Category) (fs : List Finding) : Prop :=
  ∀ f ∈ fs, lines f.line ∧ (0 ≤ f.confidence ∧ f.confidence ≤ 5) ∧ f.category ∈ topics

def UpTo (n : Nat) (line : Int) : Prop := ∃ k : Nat, k ≤ n ∧ line = k

section

variable {lines : Int → Prop} {topics more : List Category} {f : Finding} {fs gs : List Finding}

theorem Speak.mono (h : Speak lines topics fs) (hmore : ∀ t ∈ topics, t ∈ more) : Speak lines more fs := by
  intro f hf
  obtain ⟨hl, hc, ht⟩ := h f hf
  exact ⟨hl, hc, hmore _ ht⟩

theorem Speak.avoids {others : List Category} (h : Speak lines topics fs) (hothers : ∀ t ∈ topics, t ∉ others) :
    ∀ f ∈ fs, f.category ∉ others :=
  fun f hf => hothers _ (h f hf).2.2

theorem Speak.upTo {k n : Nat} (h : Speak (· = k) topics fs) (hk : k ≤ n) : Speak (UpTo n) topics fs := by
  intro f hf
  obtain ⟨hl, h⟩ := h f hf
  exact ⟨⟨k, hk, hl⟩, h⟩

-- The messages of findings are long texts that no lemma here looks at. The arrows let `simp` take a
-- list of findings apart before it could look into them.

@[simp ↓] theorem speak_nil : Speak lines topics [] := fun _ h => nomatch h

@[simp ↓] theorem speak_cons : Speak lines topics (f :: fs) ↔
    (lines f.line ∧ (0 ≤ f.confidence ∧ f.confidence ≤ 5) ∧ f.category ∈ topics) ∧ Speak lines topics fs :=
  List.forall_mem_cons

@[simp ↓] theorem speak_append : Speak lines topics (fs ++ gs) ↔ Speak lines topics fs ∧ Speak lines topics gs :=
  List.forall_mem_append

@[simp ↓] theorem speak_when {test : Bool}
    (h : lines f.line ∧ (0 ≤ f.confidence ∧ f.confidence ≤ 5) ∧ f.category ∈ topics) :
    Speak lines topics (Finding.when test f) := by
  intro g hg
  rw [(Finding.mem_when.mp hg).2]
  exact h

@[simp ↓] theorem speak_map {α : Type} {g : α → Finding} {l : List α}
    (h : ∀ a, lines (g a).line ∧ (0 ≤ (g a).confidence ∧ (g a).confidence ≤ 5) ∧ (g a).category ∈ topics) :
    Speak lines topics (l.map g) :=
  List.forall_mem_map.mpr fun a _ => h a

@[simp ↓] theorem speak_flatMap {α : Type} {g : α → List Finding} {l : List α} (h : ∀ a ∈ l, Speak lines topics (g a)) :
    Speak lines topics (l.flatMap g) := by
  intro f hf
  obtain ⟨a, ha, hfa⟩ := List.mem_flatMap.mp hf
  exact h a ha f hfa

end

namespace Rule

variable (s : Source) (st : Nesting) (n : Nat)

/-! ## How a line is written -/

theorem LineShape.margins_speak :
    Speak (· = n) [.whitespaceTab, .whitespaceIndent, .whitespaceEndOfLine] (margins s n) := by
  unfold margins
  simp

theorem LineShape.extent_speak (settings : Settings) (guard : Option Text) :
    Speak (· = n) [.whitespaceLineLength, .whitespaceNewline] (extent settings guard s n) := by
  unfold extent
  simp

theorem Braces.ending_speak (last : Nat) : Speak (· = n) [.readabilityBraces] (ending s n last) := by
  unfold ending
  simp only
  repeat' split
  all_goals simp

theorem Braces.bareStatement_speak : Speak (· = n) [.readabilityBraces] (bareStatement s n) := by
  unfold bareStatement
  repeat' split
  all_goals simp [ending_speak]

theorem Braces.findings_speak (settings : Settings) :
    Speak (· = n) [.whitespaceBraces, .whitespaceNewline, .readabilityBraces] (findings settings s n) := by
  unfold findings position sharedLine
  simp [(bareStatement_speak s n).mono]

theorem CommentStyle.toDoFindings_speak (comment : Text) :
    Speak (· = n) [.whitespaceTodo, .readabilityTodo] (toDoFindings n comment) := by
  unfold toDoFindings
  split
  · simp
  · simp

theorem CommentStyle.findings_speak (line : Text) (nextStart : Nat) :
    Speak (· = n) [.whitespaceComments, .whitespaceTodo, .readabilityTodo] (findings line n nextStart) := by
  unfold findings
  repeat' split
  all_goals simp [(toDoFindings_speak n _).mono]

theorem Spacing.blankLine_speak : Speak (· = n) [.whitespaceBlankLine] (blankLine s n) := by
  unfold blankLine
  simp only
  split
  · simp
  · simp

theorem Spacing.findings_speak :
    Speak (· = n) [.whitespaceBlankLine, .whitespaceComments, .whitespaceTodo, .readabilityTodo, .whitespaceBraces,
      .whitespaceForcolon] (findings s st n) := by
  unfold findings
  simp only
  split
  · simp [(blankLine_speak s n).mono, (CommentStyle.findings_speak n _ _).mono]
  · simp [(CommentStyle.findings_speak n _ _).mono]

theorem OperatorSpacing.angles_speak (line : Text) : Speak (· = n) [.whitespaceOperators] (angles s n line) := by
  unfold angles missing
  simp only
  repeat' split
  all_goals simp

theorem OperatorSpacing.findings_speak : Speak (· = n) [.whitespaceOperators] (findings s n) := by
  unfold findings missing
  simp only
  repeat' split
  all_goals simp [angles_speak]

theorem ParenSpacing.findings_speak : Speak (· = n) [.whitespaceParens] (findings s n) := by
  unfold findings
  simp only
  repeat' split
  all_goals simp

theorem CommaSpacing.findings_speak : Speak (· = n) [.whitespaceComma, .whitespaceSemicolon] (findings s n) := by
  unfold findings
  simp

theorem BraceSpacing.beforeCurly_speak : Speak (· = n) [.whitespaceBraces] (beforeCurly s st n) := by
  unfold beforeCurly
  split
  · simp
  · simp

theorem BraceSpacing.semicolon_speak (line : Text) : Speak (· = n) [.whitespaceSemicolon] (semicolon line n) := by
  unfold semicolon
  simp only
  repeat' split
  all_goals simp

theorem BraceSpacing.findings_speak : Speak (· = n) [.whitespaceBraces, .whitespaceSemicolon] (findings s st n) := by
  unfold findings
  simp [(beforeCurly_speak s st n).mono, (semicolon_speak n _).mono]

theorem CallSpacing.findings_speak : Speak (· = n) [.whitespaceParens] (findings s n) := by
  unfold findings
  simp only
  repeat' split
  all_goals simp

theorem Assertion.findings_speak : Speak (· = n) [.readabilityCheck] (findings s n) := by
  unfold findings
  split
  · simp
  · simp only
    repeat' split
    all_goals simp

theorem AltTokens.findings_speak : Speak (· = n) [.readabilityAltTokens] (findings s n) := by
  unfold findings
  simp only
  split
  · simp
  · simp

theorem SectionSpacing.findings_speak (b : Block) (head : ClassHead) :
    Speak (· = n) [.whitespaceBlankLine] (findings s b head n) := by
  unfold findings
  repeat' split
  all_goals simp

theorem multiline_speak :
    Speak (· = n) [.readabilityMultilineComment, .readabilityMultilineString] (multiline s n) := by
  unfold multiline
  simp

/-! ## What a line uses of the language -/

theorem Casts.oldCast_speak (c : OldCast) : Speak (· = n) [.readabilityCasting] (c.findings s n) := by
  unfold OldCast.findings
  split
  · simp
  · simp

theorem Casts.oldCasts_speak (expects : Bool) : Speak (· = n) [.readabilityCasting] (oldCasts s n expects) := by
  unfold oldCasts
  simp only
  repeat' split
  all_goals simp [oldCast_speak]

theorem GlobalString.findings_speak : Speak (· = n) [.runtimeString, .runtimeInit] (findings s n) := by
  unfold findings strings
  simp only
  repeat' split
  all_goals simp

theorem Printf.findings_speak : Speak (· = n) [.runtimePrintf] (findings s n) := by
  unfold findings
  simp only
  repeat' split
  all_goals simp

theorem Language.integerTypes_speak (line : Text) : Speak (· = n) [.runtimeInt] (integerTypes line n) := by
  unfold integerTypes
  repeat' split
  all_goals simp

theorem Language.formatString_speak (line : Text) : Speak (· = n) [.runtimePrintf] (formatString line n) := by
  unfold formatString
  repeat' split
  all_goals simp

theorem Language.swappedArguments_speak (line : Text) :
    Speak (· = n) [.runtimeMemset] (swappedArguments line n) := by
  unfold swappedArguments
  split
  · simp
  · simp

theorem Language.variableLength_speak (line : Text) : Speak (· = n) [.runtimeArrays] (variableLength line n) := by
  unfold variableLength
  split
  · simp
  · simp

theorem Language.findings_speak (isHeader : Bool) :
    Speak (· = n) [.runtimeInt, .runtimeOperator, .readabilityBraces, .runtimePrintf, .runtimeMemset, .buildNamespaces,
      .runtimeArrays] (findings isHeader s n) := by
  unfold findings
  simp [(integerTypes_speak n _).mono, (formatString_speak n _).mono, (swappedArguments_speak n _).mono,
    (variableLength_speak n _).mono]

theorem References.findings_speak : Speak (· = n) [.runtimeReferences] (findings s st n) := by
  unfold findings parameterFindings
  simp only
  repeat' split
  all_goals simp

theorem nonstandardConstructs_speak :
    Speak (· = n) [.runtimePrintfFormat, .buildPrintfFormat, .buildStorageClass, .buildEndifComment, .buildForwardDecl,
      .buildDeprecated, .runtimeMemberStringReferences] (nonstandardConstructs s n) := by
  unfold nonstandardConstructs
  simp

theorem explicitFindings_speak (name : Text) (isExplicit : Bool) (params : List Text) :
    Speak (· = n) [.runtimeExplicit] (explicitFindings n name isExplicit params) := by
  unfold explicitFindings
  simp only
  split
  · simp
  · simp

theorem threadSafety_speak : Speak (· = n) [.runtimeThreadsafeFn] (threadSafety s n) := by
  unfold threadSafety
  simp

theorem verbosityLevel_speak : Speak (· = n) [.runtimeVlog] (verbosityLevel s n) := by
  unfold verbosityLevel
  simp

theorem invalidIncrement_speak : Speak (· = n) [.runtimeInvalidIncrement] (invalidIncrement s n) := by
  unfold invalidIncrement
  simp

theorem makePair_speak : Speak (· = n) [.buildExplicitMakePair] (makePair s n) := by
  unfold makePair
  simp

theorem specifiersFrom_speak (line column count : Nat) :
    Speak (· = n) [.readabilityInheritance] (specifiersFrom s n line column count) := by
  induction count generalizing line column with
  | zero => exact speak_nil
  | succ count ih =>
    unfold specifiersFrom
    simp only
    repeat' split
    all_goals simp [ih]

theorem redundantVirtual_speak : Speak (· = n) [.readabilityInheritance] (redundantVirtual s n) := by
  unfold redundantVirtual
  simp only
  repeat' split
  all_goals simp [specifiersFrom_speak]

theorem redundantOverride_speak : Speak (· = n) [.readabilityInheritance] (redundantOverride s n) := by
  unfold redundantOverride
  simp only
  split
  · simp
  · simp

theorem Features.cxx11_speak : Speak (· = n) [.buildTr1, .buildCxx11] (Features.cxx11 s n) := by
  unfold Features.cxx11
  simp only
  repeat' split
  all_goals simp

theorem namespaceIndent_speak : Speak (· = n) [.runtimeIndentationNamespace] (namespaceIndent s st n) := by
  unfold namespaceIndent
  simp

end Rule

/-! ## Includes -/

namespace IncludeLine

variable {t : FileTree} {file : Text} {s : Source} {n : Nat} {inc : Include} {table table' : IncludeTable}
  {found : List Finding}

theorem misplaced_speak {message : Option String} (h : misplaced t file n message = .ok found) :
    Speak (· = n) [.buildIncludeOrder] found := by
  unfold misplaced at h
  split at h
  · cases h
    simp
  · cases hp : Repository.parts t file with
    | error e =>
      rw [hp] at h
      cases h
    | ok parts =>
      rw [hp] at h
      cases h
      simp

theorem enter_speak (h : enter t file s n inc table = .ok (table', found)) :
    Speak (· = n) [.buildIncludeOrder, .buildIncludeAlpha] found := by
  unfold enter at h
  simp only [bind, Except.bind, pure, Except.pure] at h
  split at h
  · cases h
  · split at h
    · cases h
    · rename_i order horder
      cases h
      simp [(misplaced_speak horder).mono]

theorem header_speak (h : header t file s n inc table = .ok (table', found)) :
    Speak (· = n) [.buildInclude, .buildIncludeOrder, .buildIncludeAlpha] found := by
  unfold header at h
  split at h
  · cases h
    simp
  · simp only [bind, Except.bind, pure, Except.pure] at h
    split at h
    · cases h
    · split at h
      · cases h
        simp
      · split at h
        · cases h
          simp
        · exact (enter_speak h).mono (by decide)

end IncludeLine

/-! ## Outcomes -/

def Tells (lines : Int → Prop) (topics : List Category) (o : Outcome) : Prop :=
  ∃ fs, o.events = fs.map .report ∧ Speak lines topics fs

section

variable {lines : Int → Prop} {topics more : List Category} {a b : Outcome}

theorem Tells.nothing {failure : Option Failure} : Tells lines topics ⟨[], failure⟩ := ⟨[], rfl, speak_nil⟩

theorem Tells.of {fs : List Finding} (h : Speak lines topics fs) : Tells lines topics fs := ⟨fs, rfl, h⟩

theorem Tells.mono (h : Tells lines topics a) (hmore : ∀ t ∈ topics, t ∈ more) : Tells lines more a := by
  obtain ⟨fs, hfs, hf⟩ := h
  exact ⟨fs, hfs, hf.mono hmore⟩

theorem Tells.append (ha : Tells lines topics a) (hb : Tells lines topics b) : Tells lines topics (a ++ b) := by
  obtain ⟨fs, hfs, hf⟩ := ha
  obtain ⟨gs, hgs, hg⟩ := hb
  unfold Tells
  rw [Outcome.append_events, hfs, hgs]
  split
  · exact ⟨fs, List.append_nil _, hf⟩
  · exact ⟨fs ++ gs, List.map_append.symm, speak_append.mpr ⟨hf, hg⟩⟩

end

namespace Rule

variable (s : Source) (st : Nesting) (n : Nat)

theorem Casts.addresses_tells : Tells (· = n) [.readabilityCasting, .runtimeCasting] (addresses s n) := by
  unfold addresses
  split
  · split
    · exact .nothing
    · exact .of (by simp)
    · exact .of (by simp)
  · exact .nothing

theorem Casts.outcome_tells : Tells (· = n) [.readabilityCasting, .runtimeCasting] (outcome s n) := by
  have hold (expects : Bool) : Speak (· = n) [.readabilityCasting, .runtimeCasting] (oldCasts s n expects) :=
    (oldCasts_speak s n expects).mono (by decide)
  unfold outcome
  simp only
  split
  · exact .nothing
  · exact .append (.of (by simp [hold])) (addresses_tells s n)
  · exact .append (.of (hold _)) (addresses_tells s n)

theorem explicitConstructors_tells : Tells (· = n) [.runtimeExplicit] (explicitConstructors s st n) := by
  unfold explicitConstructors
  split
  · exact .nothing
  · simp only
    split
    · split
      · exact .nothing
      · split
        · exact .nothing
        · exact .of (explicitFindings_speak n _ _ _)
    · exact .nothing

theorem nonstandard_tells :
    Tells (· = n) [.runtimePrintfFormat, .buildPrintfFormat, .buildStorageClass, .buildEndifComment,
      .buildForwardDecl, .buildDeprecated, .runtimeMemberStringReferences, .runtimeExplicit] (nonstandard s st n) :=
  .append (.of ((nonstandardConstructs_speak s n).mono (by decide)))
    ((explicitConstructors_tells s st n).mono (by decide))

end Rule

theorem IncludeLine.update_tells (t : FileTree) (file : Text) (s : Source) (n : Nat) (table : IncludeTable) :
    Tells (· = n) [.buildInclude, .buildIncludeOrder, .buildIncludeAlpha] (update t file s n table).2 := by
  unfold update
  simp only
  split
  · exact .of (by simp)
  · split
    · exact .append (.of (by simp)) .nothing
    · rename_i hok
      exact .append (.of (by simp)) (.of (header_speak hok))

/-! ## Lines below -/

namespace Rule

/-- An empty body is reported on the line on which the head of its statement ends. -/
theorem EmptyBody.findings_cases (s : Source) (n : Nat) :
    findings s n = [] ∨
    ∃ k : Nat, n ≤ k ∧ (n < s.size → k < s.size) ∧
      Speak (· = k) [.whitespaceEmptyConditionalBody, .whitespaceEmptyLoopBody, .whitespaceEmptyIfBody]
        (findings s n) := by
  unfold findings
  simp only
  split
  · exact .inl rfl
  · split
    · exact .inl rfl
    · rename_i p hp
      obtain ⟨hle, hlt⟩ := Bracket.findClose_line hp
      refine .inr ⟨p.line, hle, hlt, ?_⟩
      split
      · simp
      · simp

/-- A semicolon after a block is reported on the line of the closing bracket, after the comments there
and on the line above have been read. -/
theorem TrailingSemicolon.outcome_cases (s : Source) (n : Nat) :
    (outcome s n).events = [] ∨
    ∃ (k : Nat) (message : String), n ≤ k ∧ (n < s.size → k < s.size) ∧
      (outcome s n).events =
        [.suppress (s.raw (k - 1)) (k - 1 : Nat), .suppress (s.raw k) k,
          .report ⟨k, .readabilityBraces, 4, message⟩] := by
  unfold outcome
  split
  · exact .inl rfl
  · simp only
    split
    · exact .inl rfl
    · rename_i p hp
      split
      · obtain ⟨hle, hlt⟩ := Bracket.findClose_line hp
        exact .inr ⟨p.line, _, hle, hlt, rfl⟩
      · exact .inl rfl

end Rule

/-! ## Long functions -/

/-- The confidence is 5 at most, and it is not below 0 if the verbosity is not. -/
def Finding.Rated (verbosity : Int) (f : Finding) : Prop :=
  f.confidence ≤ 5 ∧ (0 ≤ verbosity → 0 ≤ f.confidence)

namespace FunctionLength

/-- A function that exceeds the limit at a verbosity not below 0 is at least as long as the base. -/
theorem level_nonneg {lines base : Nat} {verbosity : Int} (hv : 0 ≤ verbosity)
    (h : exceeds lines base verbosity = true) : 0 ≤ level lines base := by
  obtain ⟨v, rfl⟩ := Int.eq_ofNat_of_zero_le hv
  have hlt : base <<< v < lines := (exceeds_ofNat lines base v).mp h
  have hbase : base ≤ base <<< v := by
    rw [Nat.shiftLeft_eq]
    exact Nat.le_mul_of_pos_right base (Nat.two_pow_pos v)
  unfold level
  rw [if_pos (by omega)]
  exact Int.natCast_nonneg _

theorem check_rated {fl : FunctionLength} {verbosity line : Int} {f : Finding}
    (h : f ∈ fl.check verbosity line) :
    f.line = line ∧ f.Rated verbosity ∧ f.category = .readabilityFnSize := by
  unfold check at h
  simp only at h
  split at h
  · rename_i hlong
    rw [List.mem_singleton.mp h]
    refine ⟨rfl, ⟨Int.min_le_right _ _, fun hv => ?_⟩, rfl⟩
    have := level_nonneg hv (Bool.and_eq_true _ _ ▸ hlong).2
    simp only
    omega
  · cases h

theorem update_rated {verbosity : Int} {s : Source} {fl : FunctionLength} {n : Nat} {f : Finding}
    (h : f ∈ (fl.update verbosity s n).2) :
    f.line = n ∧ f.Rated verbosity ∧ f.category = .readabilityFnSize := by
  unfold update at h
  simp only at h
  split at h
  · split at h
    · cases h
    · cases h
    · rw [List.mem_singleton.mp h]
      exact ⟨rfl, ⟨Int.le_refl 5, fun _ => Int.natCast_nonneg 5⟩, rfl⟩
  · split at h
    · exact check_rated h
    · split at h
      · cases h
      · cases h

end FunctionLength

/-! ## Blocks -/

namespace BlockEnd

theorem misplacedMacro_speak (s : Source) (className : Text) {n : Nat} {line : Nat} (hn : line ≤ n)
    (seen : Bool) (count : Nat) :
    Speak (UpTo n) [.readabilityConstructors] (misplacedMacro s className line seen count) := by
  induction count generalizing line seen with
  | zero => exact speak_nil
  | succ count ih =>
    unfold misplacedMacro
    simp only
    split
    · refine Speak.upTo ?_ (show line - 1 ≤ n by omega)
      simp
    · exact ih (by omega) _

theorem ofClass_speak (s : Source) (b : Block) (c : ClassHead) (n : Nat) :
    Speak (UpTo n) [.readabilityConstructors, .whitespaceIndent] (ofClass s b c n) := by
  refine speak_append.mpr ⟨(misplacedMacro_speak s c.name (Nat.le_refl n) _ _).mono (by decide),
    Speak.upTo ?_ (Nat.le_refl n)⟩
  split
  · simp
  · simp

theorem ofNamespace_speak (s : Source) (b : Block) (name : Text) (n : Nat) :
    Speak (· = n) [.readabilityNamespace] (ofNamespace s b name n) := by
  unfold ofNamespace
  simp only
  repeat' split
  all_goals simp

theorem findings_speak (s : Source) (b : Block) (n : Nat) :
    Speak (UpTo n) [.readabilityConstructors, .whitespaceIndent, .readabilityNamespace] (findings s b n) := by
  unfold findings
  split
  · exact (ofClass_speak s b _ n).mono (by decide)
  · exact ((ofNamespace_speak s b _ n).upTo (Nat.le_refl n)).mono (by decide)
  · exact speak_nil
  · exact speak_nil

end BlockEnd

namespace Nesting

theorem noteAccess_speak (n : Nat) (st : Nesting) (text : Text) :
    Speak (· = n) [.whitespaceIndent] (noteAccess n st text).2 := by
  unfold noteAccess
  split
  · simp
  · simp

theorem applyToken_speak (s : Source) (n : Nat) (st : Nesting) (text : Text) (c : Char) :
    Speak (UpTo n) [.readabilityConstructors, .whitespaceIndent, .readabilityNamespace]
      (applyToken s n st text c).2 := by
  unfold applyToken closeCurly
  repeat' split
  · exact speak_nil
  · exact speak_nil
  · exact BlockEnd.findings_speak s _ n
  · exact speak_nil

theorem applyTokens_speak (s : Source) (n : Nat) (st : Nesting) (text : Text) :
    Speak (UpTo n) [.readabilityConstructors, .whitespaceIndent, .readabilityNamespace]
      (applyTokens s n st text).2 := by
  fun_induction applyTokens s n st text with
  | case1 => exact speak_nil
  | case2 st text c rest _ st' here happ st'' later hlater ih =>
    have hhere := applyToken_speak s n st text c
    rw [happ] at hhere
    rw [hlater] at ih
    exact speak_append.mpr ⟨hhere, ih⟩

theorem update_speak (s : Source) (st : Nesting) (n : Nat) :
    Speak (UpTo n) [.readabilityConstructors, .whitespaceIndent, .readabilityNamespace] (st.update s n).2 :=
  speak_append.mpr ⟨((noteAccess_speak n _ _).upTo (Nat.le_refl n)).mono (by decide), applyTokens_speak s n _ _⟩

end Nesting

end StyleCheck
