/-
  StyleCheck.Proofs.Run.Lasting — what a checked file leaves behind in the settings.

  The filters of configurations hold for one file: they are put aside before the configurations are
  read and taken up again afterwards. The longest line, the root of header guard names and the
  extensions are not put aside. What the configurations of a file say about them stays in force for
  the files that follow, in whatever directories they are (`only_lasting_options_stay_in_force`).
-/

import StyleCheck.Check.Run
import StyleCheck.Proofs.Configuration.Consulted

namespace StyleCheck

/-- The settings `σ` with the options of `τ` that configurations can set. -/
def Settings.withOptions (σ τ : Settings) : Settings :=
  { σ with lineLength := τ.lineLength, root := τ.root, headers := τ.headers, extensions := τ.extensions }

namespace Configuration

/-- Options see and change nothing but options. -/
theorem Place.settle_withOptions (p : Place) (σ τ : Settings) (e : Entry) :
    p.settle (σ.withOptions τ) e = σ.withOptions (p.settle τ e) := by
  cases e with
  | lineLength text =>
    unfold settle
    simp only
    cases Text.readInt? text <;> rfl
  | _ => rfl

theorem settleAll_withOptions (σ τ : Settings) (options : List (Place × Entry)) :
    settleAll (σ.withOptions τ) options = σ.withOptions (settleAll τ options) := by
  induction options generalizing τ with
  | nil => rfl
  | cons option rest ih =>
    unfold settleAll at ih ⊢
    simp only [List.foldl_cons]
    rw [Place.settle_withOptions, ih]

theorem settleAll_of_not_lasts {options : List (Place × Entry)} (h : ∀ option ∈ options, option.2.lasts = false)
    (σ : Settings) : settleAll σ options = σ := by
  induction options with
  | nil => rfl
  | cons option rest ih =>
    obtain ⟨hoption, hrest⟩ := List.forall_mem_cons.mp h
    have hsame : option.1.settle σ option.2 = σ := by
      obtain ⟨p, e⟩ := option
      cases e with
      | lineLength | root | headers => cases hoption
      | topmost | filter | exclude | unknown => rfl
    unfold settleAll at ih ⊢
    rw [List.foldl_cons, hsame]
    exact ih hrest

end Configuration

namespace Session

/-! ## What leaves the settings alone -/

theorem takeEntry_settings (file : Text) (s : Session) (entry : Entry) :
    (takeEntry file s entry).settings = s.settings := by
  unfold takeEntry
  split <;> rfl

theorem take_settings (s : Session) (file : Text) (events : List Event) :
    (s.take file events).1.settings = s.settings := by
  unfold take
  simp only
  refine List.foldlRecOn (motive := fun t : Session => t.settings = s.settings) _ _ rfl ?_
  intro t ht entry _
  rw [takeEntry_settings, ht]

theorem checkText_settings (s : Session) (tree : FileTree) (file text : Text) :
    (s.checkText tree file text).1.settings = s.settings := by
  unfold checkText
  exact take_settings { s with suppressions := {} } file _

theorem checkRead_settings (s : Session) (tree : FileTree) (file text : Text) :
    (s.checkRead tree file text).1.settings = s.settings := by
  unfold checkRead
  split
  · rfl
  · exact checkText_settings s tree file text

theorem fetch?_settings {s s' : Session} {tree : FileTree} {file text : Text}
    (h : s.fetch? tree file = some (text, s')) : s'.settings = s.settings := by
  unfold fetch? at h
  split at h
  · cases h
    rfl
  · obtain ⟨_, -, heq⟩ := Option.map_eq_some_iff.mp h
    cases heq
    rfl

/-! ## One file -/

/-- After a file the settings are those under its configurations, with the old filters. -/
theorem checkFile_settings {tree : FileTree} {s : Session} {file : Text} (h : (s.checkFile tree file).2 = none) :
    (s.checkFile tree file).1.settings =
      (Configuration.apply tree { s with settings := s.settings.saveFilters } file).1.settings.restoreFilters := by
  unfold checkFile at h ⊢
  simp only at h ⊢
  split at h
  · cases h
  · rename_i excluded happly
    rw [happly]
    rfl
  · rename_i configured happly
    rw [happly]
    split at h
    · rfl
    · rename_i text fetched hfetch
      rw [← fetch?_settings hfetch, ← checkRead_settings fetched tree file text]
      split at h
      · cases h
      · rename_i checked hchecked
        rw [hchecked]
        simp only
        split <;> rfl

theorem checkFile_leaves {tree : FileTree} {s : Session} {file : Text} (h : (s.checkFile tree file).2 = none) :
    (s.checkFile tree file).1.settings =
      s.settings.saveFilters.withOptions
        (Configuration.settleAll s.settings (Configuration.consulted tree file)) := by
  obtain ⟨filters, happly⟩ :=
    Configuration.apply_settings tree { s with settings := s.settings.saveFilters } file
  have hsaved := Configuration.settleAll_withOptions s.settings.saveFilters s.settings
    (Configuration.consulted tree file)
  rw [show s.settings.saveFilters.withOptions s.settings = s.settings.saveFilters from rfl] at hsaved
  rw [checkFile_settings h, happly, hsaved]
  rfl

/-- Without lasting options the settings are as before; the filters have been put aside and taken up. -/
theorem checkFile_keeps {tree : FileTree} {s : Session} {file : Text} (h : (s.checkFile tree file).2 = none)
    (hoptions : ∀ option ∈ Configuration.consulted tree file, option.2.lasts = false) :
    (s.checkFile tree file).1.settings = s.settings.saveFilters := by
  rw [checkFile_leaves h, Configuration.settleAll_of_not_lasts hoptions]
  rfl

/-- The settings after a file that was checked, excluded, unreadable or of another kind: the options
of all configurations consulted for it are in force, and nothing else has changed. If none of them
sets a lasting option, the settings are as before. -/
theorem only_lasting_options_stay_in_force (tree : FileTree) (s : Session) (file : Text)
    (h : (s.checkFile tree file).2 = none) :
    (s.checkFile tree file).1.settings =
      s.settings.saveFilters.withOptions
        (Configuration.settleAll s.settings (Configuration.consulted tree file)) ∧
    ((∀ option ∈ Configuration.consulted tree file, option.2.lasts = false) →
      (s.checkFile tree file).1.settings = s.settings.saveFilters) :=
  ⟨checkFile_leaves h, checkFile_keeps h⟩

/-! ## Two directories -/

def configuredTree : FileTree where
  here := "/p".toList
  files := [("/p/a/CPPLINT.cfg".toList, some ("linelength=99".toList.map fun c => c.toNat.toUInt8))]

/-- A line of 99 characters is allowed after a file of the configured directory, wherever the next
file is. A file of the other directory leaves the settings as they are. -/
theorem only_lasting_options_stay_in_force_elsewhere :
    (let s : Session := {}
     (s.checkFile configuredTree "a/x.cc".toList).1.settings.lineLength = 99 ∧
      s.settings.lineLength = 80 ∧
      (s.checkFile configuredTree "b/y.cc".toList).1.settings = s.settings.saveFilters) := by
  have ha : (checkFile {} configuredTree "a/x.cc".toList).2 = none := by decide +kernel
  have hb : (checkFile {} configuredTree "b/y.cc".toList).2 = none := by decide +kernel
  have hnone : Configuration.consulted configuredTree "b/y.cc".toList = [] := by decide +kernel
  refine ⟨?_, rfl, (only_lasting_options_stay_in_force configuredTree {} "b/y.cc".toList hb).2 ?_⟩
  · rw [(only_lasting_options_stay_in_force configuredTree {} "a/x.cc".toList ha).1]
    decide +kernel
  · rw [hnone]
    nofun

end Session

end StyleCheck
