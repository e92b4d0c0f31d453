/-
  StyleCheck.Proofs.Configuration.Frame — configurations see nothing of a session but its settings.

  Reading configurations changes the settings and writes messages. Neither what it does to the
  settings nor what it writes depends on what else is in the session: reading commutes with grafting
  the session on another one (`graft`), from a single option up to all configurations of a file. So
  it can be done on a session that has nothing but settings, and the rest added afterwards
  (`apply_eq_graft`).
-/

import StyleCheck.Proofs.Configuration.Consulted

namespace StyleCheck

/-- All of `base`, with the settings of `s` and, after what `base` has written, the messages of `s`. -/
def Session.graft (base s : Session) : Session :=
  { base with settings := s.settings, console := { base.console with err := base.console.err ++ s.console.err } }

@[simp] theorem Session.graft_warn (base s : Session) (text : String) :
    base.graft (s.warn text) = (base.graft s).warn text := by
  simp [graft, warn, String.append_assoc]

namespace Configuration

def Reading.graft (base : Session) (r : Reading) : Reading := { r with session := base.graft r.session }

variable (base : Session)

@[simp] theorem Reading.graft_warn (r : Reading) (text : String) :
    (r.warn text).graft base = (r.graft base).warn text := by
  simp [Reading.graft, Reading.warn]

theorem Place.exclude_graft (p : Place) (pattern : Text) (r : Reading) :
    p.exclude pattern (r.graft base) = (p.exclude pattern r).graft base := by
  unfold exclude
  cases Pattern.read {} pattern with
  | error e => rfl
  | ok compiled =>
    simp only
    split
    · rw [show (r.graft base).session.settings = r.session.settings from rfl]
      by_cases hquiet : r.session.settings.quiet = true
      · simp only [hquiet, if_true]
        rfl
      · simp only [hquiet, ← Reading.graft_warn]
        rfl
    · rfl

theorem Place.take_graft (p : Place) (r : Reading) (e : Entry) : p.take (r.graft base) e = (p.take r e).graft base := by
  cases e with
  | exclude pattern => exact exclude_graft base p pattern r
  | lineLength text =>
    unfold take
    simp only
    cases Text.readInt? text with
    | some n => rfl
    | none => exact (Reading.graft_warn base r _).symm
  | unknown name => exact (Reading.graft_warn base r _).symm
  | _ => rfl

theorem Place.takeAll_graft (p : Place) (r : Reading) (es : List Entry) :
    p.takeAll (r.graft base) es = (p.takeAll r es).graft base := by
  induction es generalizing r with
  | nil => rfl
  | cons e rest ih =>
    unfold takeAll
    simp only [take_graft]
    rw [show ((p.take r e).graft base).halt = (p.take r e).halt from rfl]
    split
    · rfl
    · exact ih _

theorem Place.read_graft (p : Place) (t : FileTree) (r : Reading) :
    p.read t (r.graft base) = (p.read t r).graft base := by
  unfold read
  split
  · cases t.text? p.config with
    | some text => exact takeAll_graft base p r _
    | none =>
      simp only [← Reading.graft_warn]
      rfl
  · rfl

theorem readUp_graft (t : FileTree) (file : Text) (r : Reading) (dirs : List (Text × Text)) :
    readUp t file (r.graft base) dirs = (readUp t file r dirs).graft base := by
  induction dirs generalizing r with
  | nil => rfl
  | cons dir above ih =>
    obtain ⟨dir, component⟩ := dir
    unfold readUp
    simp only [Place.read_graft]
    generalize Place.read ⟨file, Path.join dir fileName, component⟩ t r = read
    rw [show (read.graft base).goesUp = read.goesUp from rfl, show (read.graft base).halt = read.halt from rfl]
    split
    · exact ih read
    · rfl

theorem applyFilters_graft (s : Session) (texts : List Text) :
    applyFilters (base.graft s) texts = (base.graft (applyFilters s texts).1, (applyFilters s texts).2) := by
  induction texts generalizing s with
  | nil => rfl
  | cons text rest ih =>
    unfold applyFilters
    rw [show (base.graft s).settings = s.settings from rfl]
    rcases s.settings.addFilters text with ⟨settings, failure⟩
    cases failure with
    | some e => rfl
    | none => exact ih { s with settings := settings }

theorem apply_graft (t : FileTree) (s : Session) (file : Text) :
    apply t (base.graft s) file = (base.graft (apply t s file).1, (apply t s file).2) := by
  have hread := readUp_graft base t file { session := s } (Path.ascent (t.resolve file))
  unfold apply
  simp only
  rw [show ({ session := base.graft s } : Reading) = Reading.graft base { session := s } from rfl, hread]
  generalize readUp t file { session := s } (Path.ascent (t.resolve file)) = r
  rw [show (r.graft base).halt = r.halt from rfl]
  rcases r.halt with _ | _ | e
  · simp only
    rw [show (r.graft base).session = base.graft r.session from rfl, show (r.graft base).filters = r.filters from rfl,
      applyFilters_graft]
    rcases applyFilters r.session r.filters with ⟨s', failure⟩
    cases failure <;> rfl
  · rfl
  · rfl

/-- What configurations do to a session is what they do to its settings, with the rest added. -/
theorem apply_eq_graft (t : FileTree) (s : Session) (file : Text) :
    apply t s file =
      (s.graft (apply t { settings := s.settings } file).1, (apply t { settings := s.settings } file).2) := by
  have hbare : s.graft { settings := s.settings } = s := by simp [Session.graft]
  rw [← apply_graft s t { settings := s.settings } file, hbare]

end Configuration

end StyleCheck
