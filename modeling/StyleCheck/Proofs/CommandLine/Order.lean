/-
  StyleCheck.Proofs.CommandLine.Order — what the order of the switches has to do with the settings.

  If every switch is given at most once, the settings are told by what each switch was given, wherever it
  stands (`configured`). The extensions of source files are the exception, as two switches write them:
  one puts its list in place of what was there, the other adds the extensions of headers to what is there.
  If the headers come first, what they have added is lost.

  1. Every accepted switch is taken in, and what it does to the draft is what `asked` says (`takeAll_asked`).
  2. So the program starts with the settings that `configured` tells (`prepare_given`).
  3. Of two orders of the same switches, all settings but the extensions are the same. The extensions are the
     same just if the two switches stand in the same order, or the headers are among the extensions anyway
     (`order_matters_to_extensions_only`).
-/

import Mathlib.Data.List.Nodup
import Mathlib.Data.List.Perm.Subperm
import StyleCheck.CommandLine.Run
import StyleCheck.Proofs.CommandLine.Spelling

namespace StyleCheck.CommandLine

/-- The value is one that the switch can have, and the program goes on after it. -/
def Accepted : Switch → Text → Prop
  | .help, _ => False
  | .output, value => value ∈ ["emacs".toList, "vs7".toList, "eclipse".toList]
  | .counting, value => value ∈ ["total".toList, "toplevel".toList, "detailed".toList]
  | .verbose, value | .lineLength, value => (Text.readInt? value).isSome = true
  | .filter, value => value ≠ [] ∧ Filter.unsigned? (Filter.read value) = none
  | .root, _ | .extensions, _ | .headers, _ | .quiet, _ => True

def listed (value : Text) : List Text := (Text.pieces [','] value).eraseDups

def extend (extensions : List Text) (given : Switch × Text) : List Text :=
  if given.1 = .extensions then listed given.2
  else if given.1 = .headers then
    extensions ++ (listed given.2).filter fun e => !extensions.contains e
  else extensions

def extends? (given : Switch × Text) : Bool := given.1 = .extensions || given.1 = .headers

section

variable (switches : List (Switch × Text))

/-- What a switch was given, as `read` understands it; `before` if it was not given. -/
def told {α : Type} (switch : Switch) (read : Text → Option α) (before : α) : α :=
  ((switches.lookup switch).bind read).getD before

def configured (σ : Settings) : Settings :=
  { σ with
    verbosity := told switches .verbose Text.readInt? σ.verbosity
    filters := Filter.defaults ++ Filter.read (told switches .filter some [])
    counting := .ofName (told switches .counting some [])
    layout := .ofName (told switches .output some σ.layout.name)
    quiet := told switches .quiet (fun _ => some true) σ.quiet
    lineLength := told switches .lineLength Text.readInt? σ.lineLength
    root := told switches .root (fun value => some (some value)) σ.root
    headers := told switches .headers (fun value => some (listed value)) σ.headers
    extensions := switches.foldl extend σ.extensions }

def Draft.asked (d : Draft) : Draft :=
  { d with
    session.settings :=
      { d.session.settings with
        lineLength := told switches .lineLength Text.readInt? d.session.settings.lineLength
        root := told switches .root (fun value => some (some value)) d.session.settings.root
        headers := told switches .headers (fun value => some (listed value)) d.session.settings.headers
        extensions := switches.foldl extend d.session.settings.extensions }
    verbosity := told switches .verbose Text.readInt? d.verbosity
    layout := told switches .output some d.layout
    quiet := told switches .quiet (fun _ => some true) d.quiet
    filters := told switches .filter some d.filters
    counting := told switches .counting some d.counting }

end

/-! ## Taking the switches in -/

/-- A switch that does not come again may be looked at before the others. -/
theorem told_cons {given : Switch × Text} {rest : List (Switch × Text)} (h : given.1 ∉ rest.map (·.1)) {α : Type}
    (switch : Switch) (read : Text → Option α) (before : α) :
    told rest switch read (told [given] switch read before) = told (given :: rest) switch read before := by
  obtain ⟨given, value⟩ := given
  by_cases hswitch : switch = given
  · have hnone : rest.lookup switch = none := by
      rw [List.lookup_eq_none_iff]
      intro other hother
      rw [bne_iff_ne]
      intro heq
      exact h (List.mem_map.mpr ⟨other, hother, heq.symm.trans hswitch⟩)
    subst hswitch
    simp [told, hnone]
  · have hother : (switch == given) = false := by simpa using hswitch
    simp [told, List.lookup_cons, hother]

namespace Draft

theorem take_accepted {switch : Switch} {value : Text} (h : Accepted switch value) (d : Draft) :
    d.take switch value = .ok (d.asked [(switch, value)]) := by
  cases switch with
  | help => exact h.elim
  | output => exact if_pos (List.contains_iff_mem.mpr h)
  | counting => exact if_pos (List.contains_iff_mem.mpr h)
  | filter => exact if_neg (by simpa using h.1)
  | verbose =>
    obtain ⟨n, hn⟩ := Option.isSome_iff_exists.mp h
    show _ = Except.ok { d with verbosity := (Text.readInt? value).getD d.verbosity }
    simp only [take, hn, Option.getD_some]
  | lineLength =>
    obtain ⟨n, hn⟩ := Option.isSome_iff_exists.mp h
    show _ = Except.ok (d.set fun s => { s with lineLength := (Text.readInt? value).getD s.lineLength })
    simp only [take, hn, Option.getD_some]
  | quiet | root | extensions | headers => rfl

theorem asked_cons {given : Switch × Text} {rest : List (Switch × Text)} (h : given.1 ∉ rest.map (·.1)) (d : Draft) :
    (d.asked [given]).asked rest = d.asked (given :: rest) := by
  simp only [asked, told_cons h, List.foldl_cons, List.foldl_nil]

theorem takeAll_asked {switches : List (Switch × Text)} (hdistinct : (switches.map (·.1)).Nodup)
    (haccepted : ∀ given ∈ switches, Accepted given.1 given.2) (d : Draft) :
    switches.foldlM (fun (d : Draft) (switch, value) => d.take switch value) d = .ok (d.asked switches) := by
  induction switches generalizing d with
  | nil => rfl
  | cons given rest ih =>
    obtain ⟨hnew, hrest⟩ := List.nodup_cons.mp hdistinct
    obtain ⟨hgiven, hothers⟩ := List.forall_mem_cons.mp haccepted
    rw [List.foldlM_cons]
    simp only [take_accepted hgiven]
    show rest.foldlM (fun (d : Draft) (switch, value) => d.take switch value) (d.asked [given]) = _
    rw [ih hrest hothers, asked_cons hnew]

end Draft

/-- With accepted switches, each at most once, and files the program goes on to check the files under the
settings that the switches tell. -/
theorem prepare_given (s : Session) {given : List Given} {names files : List Text} (hnames : Names names files)
    (hfiles : files ≠ []) (hdistinct : (given.map (·.switch)).Nodup)
    (haccepted : ∀ g ∈ given, Accepted g.switch g.value) :
    prepare s (given.flatMap (·.words) ++ names) =
      .ok ({ s with settings := configured (given.map fun g => (g.switch, g.value)) s.settings }, files) := by
  have hkeys : ((given.map fun g => (g.switch, g.value)).map (·.1)).Nodup := by rwa [List.map_map]
  have hall : ∀ pair ∈ given.map (fun g => (g.switch, g.value)), Accepted pair.1 pair.2 := by
    simpa using haccepted
  unfold prepare
  rw [Arguments.read?_given given hnames]
  simp only
  rw [Draft.takeAll_asked hkeys hall]
  generalize given.map (fun g => (g.switch, g.value)) = switches at hall
  have hsigned : Filter.unsigned? (Filter.defaults ++ Filter.read (told switches .filter some [])) = none := by
    show Filter.unsigned? (Filter.read (((switches.lookup .filter).bind some).getD [])) = none
    cases hfilter : switches.lookup .filter with
    | none => rfl
    | some value =>
      obtain ⟨before, after, rfl, -⟩ := List.lookup_eq_some_iff.mp hfilter
      exact (hall (.filter, value) (by simp)).2
  simp [Draft.settle, Draft.asked, Draft.ofSession, Settings.setFilters, Settings.addFilters, hfiles, hsigned,
    configured, Except.map]

/-! ## Two orders -/

section

variable {switches switches' : List (Switch × Text)} (hdistinct : (switches.map (·.1)).Nodup)
  (horder : switches'.Perm switches)

include hdistinct horder

/-- What a switch was given does not depend on where it stands. -/
theorem lookup_perm (switch : Switch) : switches'.lookup switch = switches.lookup switch := by
  have hmem : ∀ {l : List (Switch × Text)}, (l.map (·.1)).Nodup → ∀ value,
      l.lookup switch = some value ↔ (switch, value) ∈ l := by
    intro l hl value
    rw [List.lookup_eq_some_iff]
    constructor
    · rintro ⟨before, after, rfl, -⟩
      simp
    · intro h
      obtain ⟨before, after, rfl⟩ := List.append_of_mem h
      refine ⟨before, after, rfl, ?_⟩
      intro other hother
      rw [bne_iff_ne]
      intro heq
      rw [List.map_append, List.nodup_append] at hl
      exact hl.2.2 other.1 (List.mem_map_of_mem hother) switch (by simp) heq.symm
  have hdistinct' : (switches'.map (·.1)).Nodup := (horder.map _).nodup_iff.mpr hdistinct
  refine Option.ext fun value => ?_
  rw [hmem hdistinct', hmem hdistinct, horder.mem_iff]

theorem configured_perm (σ : Settings) :
    { configured switches' σ with extensions := (configured switches σ).extensions } = configured switches σ := by
  simp only [configured, told, lookup_perm hdistinct horder]

end

theorem foldl_extend_filter (switches : List (Switch × Text)) (extensions : List Text) :
    (switches.filter extends?).foldl extend extensions = switches.foldl extend extensions := by
  induction switches generalizing extensions with
  | nil => rfl
  | cons given rest ih =>
    by_cases h : extends? given = true
    · rw [List.filter_cons_of_pos h, List.foldl_cons, List.foldl_cons, ih]
    · have hsame : extend extensions given = extensions := by
        simp only [extends?, Bool.or_eq_true, decide_eq_true_eq, not_or] at h
        simp [extend, h.1, h.2]
      rw [List.filter_cons_of_neg h, List.foldl_cons, hsame, ih]

theorem mem_listed {e value : Text} : e ∈ listed value ↔ e ∈ Text.pieces [','] value := List.mem_eraseDups

/-- Headers after extensions are added to them, and before them they are lost. -/
theorem mem_extend_two {headers extensions e : Text} (start : List Text) :
    (e ∈ [(.extensions, extensions), (.headers, headers)].foldl extend start ↔
      e ∈ listed extensions ∨ e ∈ listed headers) ∧
    (e ∈ [(.headers, headers), (.extensions, extensions)].foldl extend start ↔ e ∈ listed extensions) := by
  constructor
  · simp only [extend, List.foldl_cons, List.foldl_nil, if_true, reduceCtorEq, if_false, List.mem_append, List.mem_filter]
    by_cases h : e ∈ listed extensions <;> simp [h]
  · simp [extend]

/-- Two orders of at most two switches are the same, or the two are exchanged. -/
theorem perm_cases {switches switches' : List (Switch × Text)} (hdistinct : (switches.map (·.1)).Nodup)
    (horder : switches'.Perm switches) (hall : ∀ given ∈ switches, extends? given = true) :
    switches' = switches ∨ ∃ headers extensions,
      (switches = [(.headers, headers), (.extensions, extensions)] ∧
        switches' = [(.extensions, extensions), (.headers, headers)]) ∨
      (switches = [(.extensions, extensions), (.headers, headers)] ∧
        switches' = [(.headers, headers), (.extensions, extensions)]) := by
  have hlength : switches.length ≤ 2 := by
    have hsub : switches.map (·.1) ⊆ [.extensions, .headers] := by
      intro switch hswitch
      obtain ⟨given, hgiven, rfl⟩ := List.mem_map.mp hswitch
      simpa [extends?] using hall given hgiven
    simpa using (List.subperm_of_subset hdistinct hsub).length_le
  rcases switches with _ | ⟨a, _ | ⟨b, _ | ⟨c, rest⟩⟩⟩
  · exact .inl (List.perm_nil.mp horder)
  · exact .inl (List.perm_singleton.mp horder)
  · obtain ⟨c, d, rfl⟩ := List.length_eq_two.mp horder.length_eq
    obtain ⟨kind, value⟩ := a
    obtain ⟨kind', value'⟩ := b
    have ha := hall (kind, value) (by simp)
    have hb := hall (kind', value') (by simp)
    have hne : kind ≠ kind' := by simpa using hdistinct
    have hc : c = (kind, value) ∨ c = (kind', value') := by simpa using horder.subset (List.mem_cons_self)
    rcases hc with rfl | rfl
    · obtain rfl : d = (kind', value') := by
        simpa using (List.perm_cons _).mp horder
      exact .inl rfl
    · obtain rfl : d = (kind, value) := by
        simpa using (List.perm_cons _).mp (horder.trans (List.Perm.swap _ _ _))
      simp only [extends?, Bool.or_eq_true, decide_eq_true_eq] at ha hb
      rcases ha with rfl | rfl <;> rcases hb with rfl | rfl <;> simp_all
  · simp only [List.length_cons] at hlength
    omega

/-- The extensions that switches ask for are the same in two orders just if the two switches that write them
stand in the same order, or all headers are among the extensions. -/
theorem extensions_perm_iff {switches switches' : List (Switch × Text)} (hdistinct : (switches.map (·.1)).Nodup)
    (horder : switches'.Perm switches) (start : List Text) :
    (∀ e, e ∈ switches'.foldl extend start ↔ e ∈ switches.foldl extend start) ↔
      switches'.filter extends? = switches.filter extends? ∨
      ∀ headers extensions, (.headers, headers) ∈ switches → (.extensions, extensions) ∈ switches →
        Text.pieces [','] headers ⊆ Text.pieces [','] extensions := by
  rw [← foldl_extend_filter switches, ← foldl_extend_filter switches']
  have hheaders : ∀ value, (.headers, value) ∈ switches ↔ (.headers, value) ∈ switches.filter extends? := by
    simp [extends?]
  have hextensions : ∀ value, (.extensions, value) ∈ switches ↔ (.extensions, value) ∈ switches.filter extends? := by
    simp [extends?]
  simp only [hheaders, hextensions]
  have hkeys : ((switches.filter extends?).map (·.1)).Nodup := hdistinct.sublist (List.filter_sublist.map _)
  have hall : ∀ given ∈ switches.filter extends?, extends? given = true := fun _ h => (List.mem_filter.mp h).2
  rcases perm_cases hkeys (horder.filter extends?) hall with hsame | ⟨headers, extensions, ⟨h, h'⟩ | ⟨h, h'⟩⟩
  · simp [hsame]
  · simp only [h, h', (mem_extend_two start).1, (mem_extend_two start).2, mem_listed]
    simp [List.subset_def]
  · simp only [h, h', (mem_extend_two start).1, (mem_extend_two start).2, mem_listed]
    simp [List.subset_def]

/-- The switches of a command line, each given at most once and with a value it can have, in two orders: both
times the same files are checked, and the settings are the same but for the extensions of source files. These
are the same just if the switches for extensions and for headers have kept their order, or the headers are
among the extensions anyway. -/
theorem order_matters_to_extensions_only (s : Session) (given given' : List Given) (names files : List Text)
    (hnames : Names names files) (hfiles : files ≠ []) (hdistinct : (given.map (·.switch)).Nodup)
    (haccepted : ∀ g ∈ given, Accepted g.switch g.value) (horder : given'.Perm given) :
    ∃ σ σ' : Settings,
      prepare s (given.flatMap (·.words) ++ names) = .ok ({ s with settings := σ }, files) ∧
      prepare s (given'.flatMap (·.words) ++ names) = .ok ({ s with settings := σ' }, files) ∧
      { σ' with extensions := σ.extensions } = σ ∧
      ((∀ e, e ∈ σ'.extensions ↔ e ∈ σ.extensions) ↔
        ((given'.map fun g => (g.switch, g.value)).filter extends? =
          (given.map fun g => (g.switch, g.value)).filter extends? ∨
        ∀ headers extensions, (.headers, headers) ∈ given.map (fun g => (g.switch, g.value)) →
          (.extensions, extensions) ∈ given.map (fun g => (g.switch, g.value)) →
          Text.pieces [','] headers ⊆ Text.pieces [','] extensions)) := by
  have hkeys : ((given.map fun g => (g.switch, g.value)).map (·.1)).Nodup := by rwa [List.map_map]
  have hpairs := horder.map fun g => (g.switch, g.value)
  have hdistinct' : (given'.map (·.switch)).Nodup := (horder.map _).nodup_iff.mpr hdistinct
  have haccepted' : ∀ g ∈ given', Accepted g.switch g.value := fun g hg => haccepted g (horder.subset hg)
  exact ⟨_, _, prepare_given s hnames hfiles hdistinct haccepted, prepare_given s hnames hfiles hdistinct' haccepted',
    configured_perm hkeys hpairs s.settings, extensions_perm_iff hkeys hpairs s.settings.extensions⟩

/-- The extension of headers is lost if it is given first, and the settings are otherwise the same. -/
theorem order_matters_to_extensions_only_lost :
    ∃ σ σ' : Settings,
      prepare {} ["--extensions=cc".toList, "--headers=hpp".toList, "--verb".toList, "3".toList, "x.hpp".toList] =
        .ok ({ settings := σ }, ["x.hpp".toList]) ∧
      prepare {} ["--headers=hpp".toList, "--verb".toList, "3".toList, "--extensions=cc".toList, "x.hpp".toList] =
        .ok ({ settings := σ' }, ["x.hpp".toList]) ∧
      { σ' with extensions := σ.extensions } = σ ∧ ¬ (∀ e, e ∈ σ'.extensions ↔ e ∈ σ.extensions) := by
  let extensions : Given := ⟨_, _, _, @Spelling.joined .extensions "extensions".toList "cc".toList (by decide) rfl⟩
  let headers : Given := ⟨_, _, _, @Spelling.joined .headers "headers".toList "hpp".toList (by decide) rfl⟩
  let verbose : Given := ⟨_, _, _, @Spelling.apart .verbose "verb".toList "3".toList (by decide) rfl⟩
  have hnumber : (Text.readInt? "3".toList).isSome = true := by decide
  have horder : [headers, verbose, extensions].Perm [extensions, headers, verbose] :=
    (List.Perm.cons headers (.swap extensions verbose [])).trans (.swap extensions headers [verbose])
  obtain ⟨σ, σ', h, h', hothers, hextensions⟩ := order_matters_to_extensions_only {} [extensions, headers, verbose]
    [headers, verbose, extensions] ["x.hpp".toList] ["x.hpp".toList] (.plain (by decide)) (by decide) (by decide)
    (by simp only [List.mem_cons, List.not_mem_nil, or_false, forall_eq_or_imp, forall_eq]
        exact ⟨trivial, trivial, hnumber⟩) horder
  refine ⟨σ, σ', h, h', hothers, ?_⟩
  rw [hextensions]
  rintro (hsame | hamong)
  · exact absurd hsame (by decide)
  · have hsub := hamong "hpp".toList "cc".toList (by decide) (by decide)
    exact absurd (hsub (a := "hpp".toList) (by decide)) (by decide)

end StyleCheck.CommandLine
