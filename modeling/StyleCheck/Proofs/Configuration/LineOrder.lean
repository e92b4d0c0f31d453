/-
  StyleCheck.Proofs.Configuration.LineOrder — the order of the filter lines in one configuration.

  The filter lines of all configurations are collected and come into force from the last to the first, so that outer
  directories come before inner ones. This turns the lines of one configuration around too. Within a line the
  last filter that speaks of a category decides, but of the lines it is the topmost that speaks of it, where a reader
  would expect the lowest. Both agree just if these two lines say the same (`topmost_filter_line_decides`).
-/

import StyleCheck.Proofs.Configuration.Override

namespace StyleCheck

namespace Filter

def lineSpeaksOf (name line : Text) : Bool := (read line).any (speaksOf name)

theorem exists_line {name : Text} {lines : List Text} (h : (lines.flatMap read).any (speaksOf name) = true) :
    ∃ line, lines.find? (lineSpeaksOf name) = some line := by
  rw [List.any_flatMap] at h
  obtain ⟨line, hline, hspeaks⟩ := List.any_eq_true.mp h
  exact Option.isSome_iff_exists.mp (List.find?_isSome.mpr ⟨line, hline, hspeaks⟩)

theorem verdict_reverse_flatMap {name line : Text} {lines : List Text}
    (h : lines.find? (lineSpeaksOf name) = some line) :
    verdict name (lines.reverse.flatMap read) = verdict name (read line) := by
  unfold verdict
  rw [deciding?_reverse_flatMap, show lines.find? (fun line => (read line).any (speaksOf name)) = some line from h,
    Option.bind_some]

end Filter

namespace Configuration

/-- The filters of a configuration as they are written, from top to bottom and from left to right. -/
def Place.writtenFilters (p : Place) (t : FileTree) : List Filter := (p.filterTexts t).flatMap Filter.read

theorem Place.filterTexts_of_isFile_eq_false {p : Place} {t : FileTree} (h : t.isFile p.config = false) :
    p.filterTexts t = [] := by
  simp [filterTexts, entries, h]

/-- A configuration that is the only one decides by its filters about the categories they speak of. -/
theorem hides_of_only {t : FileTree} {s s' : Session} {file name : Text} {p : Place}
    (h : apply t s file = (s', .ok true)) (hp : p ∈ places t file)
    (honly : ∀ other ∈ places t file, t.isFile other.config = true → other = p) (hspeaks : p.speaksOf t name = true) :
    Filter.hides name false s'.settings.filters = .ok (Filter.verdict name (p.filters t)) := by
  obtain ⟨hfilters, hsigned⟩ := apply_filters h
  obtain ⟨f, hf⟩ := Filter.deciding?_of_any hspeaks
  have hsome : p.filters t ≠ [] := by
    intro hnil
    rw [hnil] at hf
    cases hf
  have hfind : (places t file).find? (fun q => q.speaksOf t name) = some p := by
    obtain ⟨q, hq⟩ : ∃ q, (places t file).find? (fun q => q.speaksOf t name) = some q :=
      Option.isSome_iff_exists.mp (List.find?_isSome.mpr ⟨p, hp, hspeaks⟩)
    have hother : q.speaksOf t name = true := by simpa using List.find?_some hq
    -- a place without a configuration has nothing to say
    have hfile : t.isFile q.config = true := by
      rw [← Bool.not_eq_false]
      intro hnone
      rw [Place.speaksOf, Place.filters, Place.filterTexts_of_isFile_eq_false hnone] at hother
      cases hother
    rw [hq, honly q (List.mem_of_find?_eq_some hq) hfile]
  rw [Filter.hides_eq (hsigned ⟨p, hp, hsome⟩), hfilters, Filter.deciding?_append, deciding?_places, hfind,
    Option.bind_some, hf, Option.some_or, Filter.verdict, hf]

/-- Of the filter lines of the only configuration, the topmost one that speaks of a category decides whether it is
hidden. Read from top to bottom the lowest one would. So the category is hidden as it is written just if the two say the
same. -/
theorem topmost_filter_line_decides {t : FileTree} {s s' : Session} {file name : Text} {p : Place}
    (h : apply t s file = (s', .ok true)) (hp : p ∈ places t file)
    (honly : ∀ other ∈ places t file, t.isFile other.config = true → other = p)
    (hspeaks : (p.writtenFilters t).any (Filter.speaksOf name) = true) :
    ∃ topmost lowest, (p.filterTexts t).find? (Filter.lineSpeaksOf name) = some topmost ∧
      (p.filterTexts t).reverse.find? (Filter.lineSpeaksOf name) = some lowest ∧
      Filter.hides name false s'.settings.filters = .ok (Filter.verdict name (Filter.read topmost)) ∧
      Filter.verdict name (p.writtenFilters t) = Filter.verdict name (Filter.read lowest) ∧
      (Filter.hides name false s'.settings.filters = .ok (Filter.verdict name (p.writtenFilters t)) ↔
        Filter.verdict name (Filter.read topmost) = Filter.verdict name (Filter.read lowest)) := by
  have hturned : ((p.filterTexts t).reverse.flatMap Filter.read).any (Filter.speaksOf name) = true := by
    rw [Place.writtenFilters, List.any_flatMap] at hspeaks
    rw [List.any_flatMap, List.any_reverse, hspeaks]
  obtain ⟨topmost, htopmost⟩ := Filter.exists_line hspeaks
  obtain ⟨lowest, hlowest⟩ := Filter.exists_line hturned
  have hhidden := hides_of_only h hp honly hturned
  rw [Place.filters, Filter.verdict_reverse_flatMap htopmost] at hhidden
  have hwritten := Filter.verdict_reverse_flatMap hlowest
  rw [List.reverse_reverse] at hwritten
  refine ⟨topmost, lowest, htopmost, hlowest, hhidden, hwritten, ?_⟩
  rw [hhidden, Except.ok.injEq, show Filter.verdict name (p.writtenFilters t) = _ from hwritten]

def twoLines : FileTree where
  here := "/p".toList
  files := [("/p/CPPLINT.cfg".toList,
    some ("set noparent\nfilter=-whitespace\nfilter=-build,+whitespace/tab\n".toList.map fun c => c.toNat.toUInt8))]

/-- The second line shows the category, but the first one decides and hides it. About a category of which only one line
speaks, this line decides. -/
theorem topmost_filter_line_decides_twoLines :
    (apply twoLines {} "x.cc".toList).2 = .ok true ∧
    (Place.writtenFilters ⟨"x.cc".toList, "/p/CPPLINT.cfg".toList, "x.cc".toList⟩ twoLines
      = [.hide "whitespace".toList, .hide "build".toList, .allow "whitespace/tab".toList]) ∧
    Filter.hides "whitespace/tab".toList false (apply twoLines {} "x.cc".toList).1.settings.filters = .ok true ∧
    Filter.hides "build/class".toList false (apply twoLines {} "x.cc".toList).1.settings.filters = .ok true := by
  have hok : (apply twoLines {} "x.cc".toList).2 = .ok true := by
    have hvalue : (apply twoLines {} "x.cc".toList).2.toOption = some true := by decide +kernel
    generalize (apply twoLines {} "x.cc".toList).2 = result at hvalue ⊢
    cases result with
    | error e => cases hvalue
    | ok b => exact congrArg Except.ok (Option.some.inj hvalue)
  have h : apply twoLines {} "x.cc".toList = ((apply twoLines {} "x.cc".toList).1, .ok true) := Prod.ext rfl hok
  have hplaces : places twoLines "x.cc".toList = [⟨"x.cc".toList, "/p/CPPLINT.cfg".toList, "x.cc".toList⟩] := by
    have hparts : (places twoLines "x.cc".toList).map (fun p => (p.file, p.config, p.component))
        = [("x.cc".toList, "/p/CPPLINT.cfg".toList, "x.cc".toList)] := by decide +kernel
    obtain ⟨⟨file, config, component⟩, hplace, heq⟩ := List.map_eq_singleton_iff.mp hparts
    cases heq
    exact hplace
  have hlines : Place.filterTexts ⟨"x.cc".toList, "/p/CPPLINT.cfg".toList, "x.cc".toList⟩ twoLines
      = ["-whitespace".toList, "-build,+whitespace/tab".toList] := by decide +kernel
  have hdecided := fun name => @topmost_filter_line_decides twoLines {} _ "x.cc".toList name
    ⟨"x.cc".toList, "/p/CPPLINT.cfg".toList, "x.cc".toList⟩ h (by rw [hplaces]; exact List.mem_cons_self)
    fun other hother _ => List.mem_singleton.mp (hplaces ▸ hother)
  simp only [Place.writtenFilters, hlines] at hdecided ⊢
  refine ⟨hok, by decide +kernel, ?_, ?_⟩
  · obtain ⟨topmost, lowest, htopmost, -, hhidden, -⟩ := hdecided "whitespace/tab".toList (by decide +kernel)
    obtain rfl : topmost = "-whitespace".toList := Option.some.inj (htopmost.symm.trans (by decide +kernel))
    rw [hhidden]
    exact congrArg Except.ok (by decide +kernel)
  · obtain ⟨topmost, lowest, htopmost, -, hhidden, -⟩ := hdecided "build/class".toList (by decide +kernel)
    obtain rfl : topmost = "-build,+whitespace/tab".toList := Option.some.inj (htopmost.symm.trans (by decide +kernel))
    rw [hhidden]
    exact congrArg Except.ok (by decide +kernel)

end Configuration

end StyleCheck
