/-
  StyleCheck.Proofs.Configuration.Override — inner configurations override outer ones.

  The configurations that have a say about a file are those of the directories from its own upwards, up
  to one that wants no more above it or cannot be read (`places`). Their filters come into force behind
  those of before, with the filters of the outermost place first (`apply_filters`). Since of the filters
  that speak of a category the last one decides (`Filter.hides_eq`), the innermost place that speaks of it
  decides by its own filters, whatever stands in the others (`innermost_configuration_decides`).
-/

import StyleCheck.Proofs.Configuration.Consulted

namespace StyleCheck

/-! ## The filter that decides -/

namespace Filter

def speaksOf (name : Text) : Filter → Bool
  | hide stem | allow stem => Text.startsWith name stem
  | unsigned _ => false

def isHide : Filter → Bool
  | hide _ => true
  | allow _ | unsigned _ => false

def deciding? (name : Text) (fs : List Filter) : Option Filter := fs.reverse.find? (speaksOf name)

def verdict (name : Text) (fs : List Filter) : Bool := (deciding? name fs).elim false isHide

theorem deciding?_append (name : Text) (fs gs : List Filter) :
    deciding? name (fs ++ gs) = (deciding? name gs).or (deciding? name fs) := by
  unfold deciding?
  rw [List.reverse_append, List.find?_append]

theorem deciding?_cons (name : Text) (f : Filter) (fs : List Filter) :
    deciding? name (f :: fs) = (deciding? name fs).or (if f.speaksOf name then some f else none) := by
  rw [← List.singleton_append, deciding?_append]
  congr 1
  cases h : f.speaksOf name <;> simp [deciding?, h]

theorem deciding?_eq_none {name : Text} {fs : List Filter} :
    deciding? name fs = none ↔ fs.any (speaksOf name) = false := by
  unfold deciding?
  rw [List.find?_eq_none, List.any_eq_false]
  simp

theorem deciding?_of_any {name : Text} {fs : List Filter} (h : fs.any (speaksOf name) = true) :
    ∃ f, deciding? name fs = some f := by
  refine Option.ne_none_iff_exists'.mp fun hnone => ?_
  rw [deciding?_eq_none, h] at hnone
  cases hnone

/-- Of lists of filters that come into force from the last to the first, the first that speaks of the category
decides. -/
theorem deciding?_reverse_flatMap {α : Type} (name : Text) (filters : α → List Filter) (xs : List α) :
    deciding? name (xs.reverse.flatMap filters)
      = (xs.find? fun x => (filters x).any (speaksOf name)).bind fun x => deciding? name (filters x) := by
  induction xs with
  | nil => rfl
  | cons x xs ih =>
    rw [List.reverse_cons, List.flatMap_append, deciding?_append, List.flatMap_singleton, ih, List.find?_cons]
    cases hspeaks : (filters x).any (speaksOf name) with
    | true =>
      obtain ⟨f, hf⟩ := deciding?_of_any hspeaks
      rw [hf, Option.some_or, Option.bind_some, hf]
    | false => rw [deciding?_eq_none.mpr hspeaks, Option.none_or]

/-- Filters hide a category just if the last one that speaks of it does. -/
theorem hides_eq {fs : List Filter} (h : unsigned? fs = none) (name : Text) (hidden : Bool) :
    hides name hidden fs = .ok ((deciding? name fs).elim hidden isHide) := by
  induction fs generalizing hidden with
  | nil => rfl
  | cons f fs ih =>
    cases f with
    | unsigned text => cases h
    | hide stem =>
      rw [hides, ih h, deciding?_cons]
      cases deciding? name fs with
      | some g => rfl
      | none => cases hs : Text.startsWith name stem <;> simp [speaksOf, hs, isHide]
    | allow stem =>
      rw [hides, ih h, deciding?_cons]
      cases deciding? name fs with
      | some g => rfl
      | none => cases hs : Text.startsWith name stem <;> simp [speaksOf, hs, isHide]

theorem unsigned?_append (fs gs : List Filter) : unsigned? (fs ++ gs) = (unsigned? fs).or (unsigned? gs) := by
  induction fs with
  | nil => rfl
  | cons f fs ih =>
    cases f with
    | unsigned text => rfl
    | hide stem => exact ih
    | allow stem => exact ih

theorem hides_of_unsigned {fs : List Filter} {text : Text} (h : unsigned? fs = some text) (name : Text)
    (hidden : Bool) : hides name hidden fs = .error .filterWithoutSign := by
  induction fs generalizing hidden with
  | nil => cases h
  | cons f fs ih =>
    cases f with
    | unsigned text => rfl
    | hide stem => exact ih h _
    | allow stem => exact ih h _

end Filter

namespace Configuration

/-! ## Places -/

def Entry.filter? : Entry → Option Text
  | .filter text => some text
  | _ => none

namespace Place

/-- The configuration wants no more above it, or cannot be read. -/
def isLast (p : Place) (t : FileTree) : Bool :=
  t.isFile p.config && ((t.text? p.config).isNone || (p.entries t).contains .topmost)

def filterTexts (p : Place) (t : FileTree) : List Text := (p.entries t).filterMap Entry.filter?

/-- The filters of the configuration. Of two lists the one that stands first comes into force last. -/
def filters (p : Place) (t : FileTree) : List Filter := (p.filterTexts t).reverse.flatMap Filter.read

def speaksOf (p : Place) (t : FileTree) (name : Text) : Bool := (p.filters t).any (Filter.speaksOf name)

end Place

def placesUp (t : FileTree) (file : Text) : List (Text × Text) → List Place
  | [] => []
  | (dir, component) :: above =>
    let p : Place := ⟨file, Path.join dir fileName, component⟩
    p :: if p.isLast t then [] else placesUp t file above

def places (t : FileTree) (file : Text) : List Place := placesUp t file (Path.ascent (t.resolve file))

/-! ## Filters that are read -/

namespace Place

variable {p : Place} {r : Reading}

theorem take_filters (p : Place) (r : Reading) (e : Entry) : (p.take r e).filters = e.filter?.toList ++ r.filters := by
  cases e with
  | exclude pattern =>
    unfold take exclude
    simp only
    split
    · rfl
    · split
      · simp only
        split <;> rfl
      · rfl
  | lineLength text =>
    unfold take
    simp only
    split <;> rfl
  | _ => rfl

/-- Entries that are all taken in leave their filters, and the word whether there is more above. -/
theorem takeAll_taken {es : List Entry} (h : (p.takeAll r es).halt = none) :
    (p.takeAll r es).filters = (es.filterMap Entry.filter?).reverse ++ r.filters ∧
    (p.takeAll r es).goesUp = (r.goesUp && !es.contains .topmost) := by
  induction es generalizing r with
  | nil => exact ⟨rfl, by simp [takeAll]⟩
  | cons e es ih =>
    unfold takeAll at h ⊢
    simp only at h ⊢
    split at h
    · rename_i hsome
      rw [h] at hsome
      cases hsome
    · rename_i hgo
      rw [if_neg hgo]
      obtain ⟨hfilters, hgoes⟩ := ih h
      rw [hfilters, hgoes, take_filters, take_goesUp]
      refine ⟨?_, ?_⟩
      · cases hf : e.filter? with
        | none => simp [hf]
        | some text => simp [hf]
      · rw [List.contains_cons, Bool.not_or, Bool.and_assoc, bne, BEq.comm]

theorem read_taken {t : FileTree} (h : (p.read t r).halt = none) :
    (p.read t r).filters = (p.filterTexts t).reverse ++ r.filters ∧
    (p.read t r).goesUp = (r.goesUp && !p.isLast t) := by
  unfold read filterTexts isLast entries at *
  by_cases hfile : t.isFile p.config = true
  · cases htext : t.text? p.config with
    | some text =>
      simp only [hfile, htext, if_true] at h ⊢
      simpa using takeAll_taken h
    | none => simp [hfile, Reading.warn]
  · simp [hfile]

end Place

/-- The filters of all places, the outermost ones first. -/
theorem readUp_filters {t : FileTree} {file : Text} {r : Reading} {dirs : List (Text × Text)} (hgo : r.goesUp = true)
    (h : (readUp t file r dirs).halt = none) :
    (readUp t file r dirs).filters
      = ((placesUp t file dirs).flatMap fun p => p.filterTexts t).reverse ++ r.filters := by
  induction dirs generalizing r with
  | nil => rfl
  | cons dir above ih =>
    obtain ⟨dir, component⟩ := dir
    unfold readUp at h ⊢
    unfold placesUp
    simp only at h ⊢
    generalize hp : (⟨file, Path.join dir fileName, component⟩ : Place) = p at h ⊢
    have hread : (p.read t r).halt = none := by
      split at h
      · rename_i hup
        rw [Bool.and_eq_true] at hup
        exact Option.isNone_iff_eq_none.mp hup.2
      · exact h
    obtain ⟨hfilters, hgoes⟩ := Place.read_taken hread
    rw [hgo, Bool.true_and] at hgoes
    rw [hread, Option.isNone_none, Bool.and_true, hgoes] at h ⊢
    cases hlast : p.isLast t with
    | true => simp [hfilters]
    | false =>
      rw [hlast, Bool.not_false, if_pos rfl] at h
      rw [Bool.not_false, if_pos rfl, if_neg Bool.false_ne_true, ih (by rw [hgoes, hlast]; rfl) h, hfilters]
      simp

theorem applyFilters_ok {s s' : Session} {texts : List Text} (h : applyFilters s texts = (s', none)) :
    s'.settings.filters = s.settings.filters ++ texts.flatMap Filter.read ∧
    (texts ≠ [] → Filter.unsigned? s'.settings.filters = none) := by
  induction texts generalizing s with
  | nil =>
    cases h
    simp
  | cons text rest ih =>
    unfold applyFilters at h
    split at h
    · rename_i settings hadd
      obtain ⟨hfilters, hsigned⟩ := ih h
      have hsettings : settings = { s.settings with filters := s.settings.filters ++ Filter.read text } :=
        (congrArg Prod.fst hadd).symm
      have hhere : Filter.unsigned? settings.filters = none := by
        have := congrArg Prod.snd hadd
        rw [hsettings]
        simpa [Settings.addFilters] using this
      refine ⟨?_, fun _ => ?_⟩
      · rw [hfilters, hsettings]
        simp
      · cases rest with
        | nil =>
          cases h
          exact hhere
        | cons next rest => exact hsigned (List.cons_ne_nil next rest)
    · cases h

theorem settleAll_filters (settings : Settings) (options : List (Place × Entry)) :
    (settleAll settings options).filters = settings.filters := by
  unfold settleAll
  induction options generalizing settings with
  | nil => rfl
  | cons option options ih =>
    rw [List.foldl_cons, ih]
    cases option.2 with
    | lineLength text =>
      unfold Place.settle
      simp only
      split <;> rfl
    | _ => rfl

/-- The filters of the places come into force behind those of before, and if there are any, all have
their sign. -/
theorem apply_filters {t : FileTree} {s s' : Session} {file : Text} (h : apply t s file = (s', .ok true)) :
    s'.settings.filters = s.settings.filters ++ (places t file).reverse.flatMap (fun p => p.filters t) ∧
    ((∃ p ∈ places t file, p.filters t ≠ []) → Filter.unsigned? s'.settings.filters = none) := by
  have hsettings := readUp_settings t file (r := { session := s }) rfl rfl (Path.ascent (t.resolve file))
  have hkept := congrArg Settings.filters hsettings
  rw [settleAll_filters] at hkept
  unfold apply at h
  simp only at h
  split at h
  · cases h
  · cases h
  · rename_i hhalt
    have hfilters := readUp_filters rfl hhalt
    split at h
    · rename_i s'' happly
      cases h
      obtain ⟨hall, hsigned⟩ := applyFilters_ok happly
      rw [hfilters, List.append_nil] at hall hsigned
      refine ⟨?_, fun hany => hsigned ?_⟩
      · rw [hall, hkept, List.reverse_flatMap, List.flatMap_assoc]
        rfl
      · obtain ⟨p, hp, hsome⟩ := hany
        intro hnil
        have htexts : p.filterTexts t = [] := List.flatMap_eq_nil_iff.mp (List.reverse_eq_nil_iff.mp hnil) p hp
        exact hsome (by simp [Place.filters, htexts])
    · cases h

/-- Among the filters of places, those of the first one that speaks of the category decide. -/
theorem deciding?_places (t : FileTree) (name : Text) (ps : List Place) :
    Filter.deciding? name (ps.reverse.flatMap fun p => p.filters t)
      = (ps.find? fun p => p.speaksOf t name).bind fun p => Filter.deciding? name (p.filters t) :=
  Filter.deciding?_reverse_flatMap name (fun p => p.filters t) ps

/-- The innermost configuration that speaks of a category decides whether it is hidden, by its own filters;
if there is none, the filters of before decide. -/
theorem innermost_configuration_decides {t : FileTree} {s s' : Session} {file : Text}
    (h : apply t s file = (s', .ok true)) (name : Text) :
    Filter.hides name false s'.settings.filters
      = match (places t file).find? fun p => p.speaksOf t name with
        | some p => .ok (Filter.verdict name (p.filters t))
        | none =>
          if (Filter.unsigned? s.settings.filters).isSome then .error .filterWithoutSign
          else .ok (Filter.verdict name s.settings.filters) := by
  obtain ⟨hfilters, hsigned⟩ := apply_filters h
  have hdeciding : Filter.deciding? name s'.settings.filters
      = (((places t file).find? fun p => p.speaksOf t name).bind fun p => Filter.deciding? name (p.filters t)).or
          (Filter.deciding? name s.settings.filters) := by
    rw [hfilters, Filter.deciding?_append, deciding?_places]
  cases hfind : (places t file).find? fun p => p.speaksOf t name with
  | some p =>
    have hspeaks : p.speaksOf t name = true := by simpa using List.find?_some hfind
    obtain ⟨f, hf⟩ := Filter.deciding?_of_any hspeaks
    have hsome : p.filters t ≠ [] := by
      intro hnil
      rw [hnil] at hf
      cases hf
    rw [Filter.hides_eq (hsigned ⟨p, List.mem_of_find?_eq_some hfind, hsome⟩), hdeciding, hfind]
    simp only [Option.bind_some, hf, Option.some_or, Filter.verdict]
  | none =>
    rw [hfind, Option.bind_none, Option.none_or] at hdeciding
    cases hunsigned : Filter.unsigned? s'.settings.filters with
    | none =>
      have hbefore : Filter.unsigned? s.settings.filters = none := by
        rw [hfilters, Filter.unsigned?_append, Option.or_eq_none_iff] at hunsigned
        exact hunsigned.1
      rw [Filter.hides_eq hunsigned, hdeciding, hbefore]
      rfl
    | some text =>
      -- no place has a filter, for else all filters would have been looked at
      have hsame : s'.settings.filters = s.settings.filters := by
        rw [hfilters, List.append_right_eq_self, List.flatMap_eq_nil_iff]
        intro p hp
        refine Classical.not_not.mp fun hsome => ?_
        rw [hsigned ⟨p, List.mem_reverse.mp hp, hsome⟩] at hunsigned
        cases hunsigned
      rw [Filter.hides_of_unsigned hunsigned, ← hsame, hunsigned]
      rfl

def nestedTree : FileTree where
  here := "/p".toList
  files :=
    [("/p/CPPLINT.cfg".toList, some ("filter=-build".toList.map fun c => c.toNat.toUInt8)),
     ("/p/a/CPPLINT.cfg".toList, some ("filter=+build/class".toList.map fun c => c.toNat.toUInt8))]

/-- The inner configuration decides about the category that it names, the outer one about the others of the
family, and the filters of before about what neither of them names. -/
theorem innermost_configuration_decides_nested :
    (apply nestedTree {} "a/x.cc".toList).2 = .ok true ∧
    Filter.hides "build/class".toList false (apply nestedTree {} "a/x.cc".toList).1.settings.filters = .ok false ∧
    Filter.hides "build/c++11".toList false (apply nestedTree {} "a/x.cc".toList).1.settings.filters = .ok true ∧
    Filter.hides "whitespace/tab".toList false (apply nestedTree {} "a/x.cc".toList).1.settings.filters
      = .ok false := by
  have hvalue : ∀ {x : Except Failure Bool} {b : Bool}, x.toOption = some b → x = .ok b := by
    intro x b h
    cases x with
    | error e => cases h
    | ok a =>
      cases h
      rfl
  have hok : (apply nestedTree {} "a/x.cc".toList).2 = .ok true := hvalue (by decide +kernel)
  have h : apply nestedTree {} "a/x.cc".toList = ((apply nestedTree {} "a/x.cc".toList).1, .ok true) :=
    Prod.ext rfl hok
  have hdecided (name : Text) := innermost_configuration_decides h name
  refine ⟨hok, ?_, ?_, ?_⟩
  · rw [hdecided]
    exact hvalue (by decide +kernel)
  · rw [hdecided]
    exact hvalue (by decide +kernel)
  · rw [hdecided]
    exact hvalue (by decide +kernel)

end Configuration

end StyleCheck
