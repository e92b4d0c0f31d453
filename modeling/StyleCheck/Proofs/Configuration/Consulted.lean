/-
  StyleCheck.Proofs.Configuration.Consulted — which options are taken in for a file.

  The options that count for a file are found without looking at the settings (`consulted`): those of
  the configuration in its directory and in the directories above, each up to the first option that
  excludes the file or fails, and no further up than a configuration that wants no more above it or
  cannot be read.

  The settings after reading are those of before, changed by these options in order (`Place.settle`);
  nothing else touches them (`readUp_settings`). The filters come into force last (`apply_settings`).
-/

import StyleCheck.Configuration

namespace StyleCheck.Configuration

/-- The option changes a setting at once, and no one takes it back. -/
def Entry.lasts : Entry → Bool
  | .lineLength _ | .root _ | .headers _ => true
  | .topmost | .filter _ | .exclude _ | .unknown _ => false

namespace Place

def settle (p : Place) (settings : Settings) : Entry → Settings
  | .lineLength text =>
    match Text.readInt? text with
    | some n => { settings with lineLength := n }
    | none => settings
  | .root path => { settings with root := some (Path.join (Path.directory p.config) path) }
  | .headers text => settings.setHeaders text
  | .topmost | .filter _ | .exclude _ | .unknown _ => settings

def halt? (p : Place) : Entry → Option Halt
  | .exclude pattern =>
    match Pattern.read {} pattern with
    | .error e => some (.failed e)
    | .ok compiled => if compiled.opens p.component then some .excluded else none
  | _ => none

/-- The options up to the one at which the reading ends. -/
def taken (p : Place) : List Entry → List Entry
  | [] => []
  | e :: rest => e :: if (p.halt? e).isSome then [] else p.taken rest

def entries (p : Place) (t : FileTree) : List Entry :=
  if t.isFile p.config then
    match t.text? p.config with
    | some text => (Text.plainLines text).filterMap Entry.ofLine?
    | none => []
  else []

def passes (p : Place) (t : FileTree) : Bool :=
  (!t.isFile p.config || (t.text? p.config).isSome)
    && (p.taken (p.entries t)).all fun e => e != .topmost && (p.halt? e).isNone

/-! ## One configuration -/

variable (p : Place) (r : Reading)

@[simp] theorem exclude_settings (pattern : Text) :
    (p.exclude pattern r).session.settings = r.session.settings := by
  unfold exclude
  split
  · rfl
  · split
    · simp only
      split <;> rfl
    · rfl

theorem take_settings (e : Entry) : (p.take r e).session.settings = p.settle r.session.settings e := by
  cases e with
  | exclude pattern => exact exclude_settings p r pattern
  | lineLength text =>
    unfold take settle
    simp only
    cases Text.readInt? text <;> rfl
  | _ => rfl

theorem take_goesUp (e : Entry) : (p.take r e).goesUp = (r.goesUp && e != .topmost) := by
  cases e with
  | topmost => exact (Bool.and_false _).symm
  | exclude pattern =>
    unfold take exclude
    rw [show (Entry.exclude pattern != .topmost) = true from rfl, Bool.and_true]
    simp only
    split
    · rfl
    · split
      · simp only
        split <;> rfl
      · rfl
  | lineLength text =>
    unfold take
    rw [show (Entry.lineLength text != .topmost) = true from rfl, Bool.and_true]
    simp only
    split <;> rfl
  | _ => exact (Bool.and_true _).symm

theorem take_halt (h : r.halt = none) (e : Entry) : (p.take r e).halt = p.halt? e := by
  cases e with
  | exclude pattern =>
    unfold take exclude halt?
    simp only
    cases Pattern.read {} pattern with
    | error e => rfl
    | ok compiled =>
      simp only
      split
      · rfl
      · exact h
  | lineLength text =>
    unfold take
    simp only
    split <;> exact h
  | _ => exact h

theorem takeAll_settings (h : r.halt = none) (es : List Entry) :
    (p.takeAll r es).session.settings = (p.taken es).foldl p.settle r.session.settings := by
  induction es generalizing r with
  | nil => rfl
  | cons e rest ih =>
    unfold takeAll taken
    simp only [List.foldl_cons, ← take_settings, take_halt p r h]
    split
    · rfl
    · rename_i hgoes
      exact ih (p.take r e) (by rw [take_halt p r h]; simpa using hgoes)

/-- The reading goes on above just if it went on before and no option taken in speaks against it. -/
theorem takeAll_goes (h : r.halt = none) (es : List Entry) :
    ((p.takeAll r es).goesUp && (p.takeAll r es).halt.isNone)
      = (r.goesUp && (p.taken es).all fun e => e != .topmost && (p.halt? e).isNone) := by
  induction es generalizing r with
  | nil => simp [takeAll, taken, h]
  | cons e rest ih =>
    unfold takeAll taken
    simp only [List.all_cons, take_halt p r h]
    cases hhalt : p.halt? e with
    | some halt => simp [take_halt p r h, hhalt]
    | none =>
      have hnone : (p.take r e).halt = none := by rw [take_halt p r h, hhalt]
      simp only [Option.isSome_none, Bool.false_eq_true, if_false, Option.isNone_none, Bool.and_true]
      rw [ih (p.take r e) hnone, take_goesUp, Bool.and_assoc]

theorem read_settings (h : r.halt = none) (t : FileTree) :
    (p.read t r).session.settings = (p.taken (p.entries t)).foldl p.settle r.session.settings := by
  unfold read entries
  split
  · cases t.text? p.config with
    | some text => exact takeAll_settings p r h _
    | none => rfl
  · rfl

theorem read_goes (h : r.halt = none) (t : FileTree) :
    ((p.read t r).goesUp && (p.read t r).halt.isNone) = (r.goesUp && p.passes t) := by
  unfold read passes entries
  by_cases hfile : t.isFile p.config = true
  · cases htext : t.text? p.config with
    | some text =>
      simp only [hfile, if_true, Bool.not_true, Option.isSome_some, Bool.or_true, Bool.true_and]
      exact takeAll_goes p r h _
    | none => simp [hfile]
  · simp [hfile, taken, h]

end Place

/-! ## All configurations -/

def consultedUp (t : FileTree) (file : Text) : List (Text × Text) → List (Place × Entry)
  | [] => []
  | (dir, component) :: above =>
    let p : Place := ⟨file, Path.join dir fileName, component⟩
    (p.taken (p.entries t)).map (p, ·) ++ if p.passes t then consultedUp t file above else []

/-- The options that count for `file`, in the order in which they are read. -/
def consulted (t : FileTree) (file : Text) : List (Place × Entry) :=
  consultedUp t file (Path.ascent (t.resolve file))

def settleAll (settings : Settings) (options : List (Place × Entry)) : Settings :=
  options.foldl (fun settings option => option.1.settle settings option.2) settings

theorem readUp_settings (t : FileTree) (file : Text) {r : Reading} (hgo : r.goesUp = true) (hhalt : r.halt = none)
    (dirs : List (Text × Text)) :
    (readUp t file r dirs).session.settings = settleAll r.session.settings (consultedUp t file dirs) := by
  induction dirs generalizing r with
  | nil => rfl
  | cons dir above ih =>
    obtain ⟨dir, component⟩ := dir
    unfold readUp consultedUp
    simp only
    generalize hp : (⟨file, Path.join dir fileName, component⟩ : Place) = p
    have hhere : (p.read t r).session.settings = settleAll r.session.settings ((p.taken (p.entries t)).map (p, ·)) := by
      rw [p.read_settings r hhalt t, settleAll, List.foldl_map]
    -- whether the directories above are read is decided by the place alone
    have hgoes := p.read_goes r hhalt t
    rw [hgo, Bool.true_and] at hgoes
    rw [hgoes]
    unfold settleAll at hhere ⊢
    rw [List.foldl_append, ← hhere]
    split
    · rename_i hpass
      rw [hpass, Bool.and_eq_true_iff] at hgoes
      exact ih hgoes.1 (Option.isNone_iff_eq_none.mp hgoes.2)
    · rfl

/-! ## Filters -/

theorem applyFilters_settings (s : Session) (texts : List Text) :
    ∃ filters, (applyFilters s texts).1.settings = { s.settings with filters := filters } := by
  induction texts generalizing s with
  | nil => exact ⟨s.settings.filters, rfl⟩
  | cons text rest ih =>
    have hadd : (s.settings.addFilters text).1 =
        { s.settings with filters := s.settings.filters ++ Filter.read text } := rfl
    unfold applyFilters
    split
    · rename_i settings heq
      obtain ⟨filters, h⟩ := ih { s with settings := settings }
      rw [heq] at hadd
      cases hadd
      exact ⟨filters, h⟩
    · rename_i settings e heq
      rw [heq] at hadd
      exact ⟨_, hadd⟩

theorem apply_settings (t : FileTree) (s : Session) (file : Text) :
    ∃ filters, (apply t s file).1.settings = { settleAll s.settings (consulted t file) with filters := filters } := by
  have hread := readUp_settings t file (r := { session := s }) rfl rfl (Path.ascent (t.resolve file))
  unfold apply
  simp only
  split
  · exact ⟨_, hread⟩
  · exact ⟨_, hread⟩
  · obtain ⟨filters, h⟩ := applyFilters_settings
      (readUp t file { session := s } (Path.ascent (t.resolve file))).session
      (readUp t file { session := s } (Path.ascent (t.resolve file))).filters
    rw [hread] at h
    split
    · rename_i heq
      rw [heq] at h
      exact ⟨filters, h⟩
    · rename_i heq
      rw [heq] at h
      exact ⟨filters, h⟩

end StyleCheck.Configuration
