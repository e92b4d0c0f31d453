/-
  StyleCheck.Proofs.CommandLine.Spelling — switches as they stand on the command line.

  A switch is written with two hyphens and its name, which may be cut short. Its value follows after an
  equals sign or is an argument of its own (`Spelling`). The names of the files follow the switches, after
  two hyphens alone if the first of them could be taken for a switch (`Names`).

  However the switches are written, they are read in order with their values, and the files after them
  (`read?_given`).
-/

import StyleCheck.CommandLine.Switch
import StyleCheck.Proofs.Text.Cut

namespace StyleCheck.CommandLine

/-- The arguments by which a switch and its value can be given. -/
inductive Spelling (switch : Switch) : Text → List Text → Prop where
  | alone {name : Text} : Switch.ofText? name = some switch → switch.takesValue = false →
      Spelling switch [] ['-' :: '-' :: name]
  | joined {name value : Text} : Switch.ofText? name = some switch → switch.takesValue = true →
      Spelling switch value ['-' :: '-' :: (name ++ '=' :: value)]
  | apart {name value : Text} : Switch.ofText? name = some switch → switch.takesValue = true →
      Spelling switch value ['-' :: '-' :: name, value]

structure Given where
  switch : Switch
  value : Text
  words : List Text
  spelled : Spelling switch value words

inductive Names : List Text → List Text → Prop where
  | plain {file : Text} {rest : List Text} : Arguments.isFile file = true → Names (file :: rest) (file :: rest)
  | marked {files : List Text} : Names (['-', '-'] :: files) files

namespace Switch

theorem ofText?_startsWith {name : Text} {switch : Switch} (h : ofText? name = some switch) :
    name <+: switch.name := by
  unfold ofText? at h
  split at h
  · rename_i found hfound
    cases h
    have hname : switch.name = name := by simpa using List.find?_some hfound
    exact hname ▸ List.prefix_refl name
  · split at h
    · rename_i only honly
      cases h
      have hmem : switch ∈ all.filter fun s => Text.startsWith s.name name := by rw [honly]; exact List.mem_singleton_self _
      have hstarts : Text.startsWith switch.name name = true := (List.mem_filter.mp hmem).2
      exact List.isPrefixOf_iff_prefix.mp hstarts
    · cases h

theorem ofText?_ne_nil {name : Text} {switch : Switch} (h : ofText? name = some switch) : name ≠ [] := by
  rintro rfl
  have hnone : ofText? [] = none := by decide
  rw [hnone] at h
  cases h

theorem equals_notMem_of_ofText? {name : Text} {switch : Switch} (h : ofText? name = some switch) : '=' ∉ name := by
  intro hmem
  have hname : '=' ∉ switch.name := by cases switch <;> decide
  exact hname ((ofText?_startsWith h).subset hmem)

end Switch

namespace Arguments

section

variable {name : Text} {switch : Switch} (h : Switch.ofText? name = some switch)

include h

theorem switch?_name : switch? ('-' :: '-' :: name) = some (switch, none) := by
  have hequals := Switch.equals_notMem_of_ofText? h
  simp [switch?, Text.divide_of_notMem hequals, h, hequals]

theorem switch?_joined (value : Text) : switch? ('-' :: '-' :: (name ++ '=' :: value)) = some (switch, some value) := by
  simp [switch?, Text.divide_append (Switch.equals_notMem_of_ofText? h), h]

end

theorem isFile_hyphens (s : Text) : isFile ('-' :: '-' :: s) = false := by
  simp [isFile, Text.startsWith]

/-- However a switch is written, it is read with its value. -/
theorem read?_words (g : Given) (rest : List Text) :
    read? (g.words ++ rest) = (read? rest).map (add g.switch g.value) := by
  have hend : ∀ {s : Text}, s ≠ [] → (('-' :: '-' :: s) == ['-', '-']) = false := by
    intro s hs
    simpa using hs
  obtain ⟨switch, value, words, hspelled⟩ := g
  cases hspelled with
  | alone hname htakes =>
    rw [List.singleton_append, read?, isFile_hyphens, hend (Switch.ofText?_ne_nil hname), switch?_name hname]
    simp [htakes]
  | @joined name value hname htakes =>
    rw [List.singleton_append, read?, isFile_hyphens, hend (by simp), switch?_joined hname value]
    simp [htakes]
  | apart hname htakes =>
    rw [List.cons_append, read?, isFile_hyphens, hend (Switch.ofText?_ne_nil hname), switch?_name hname]
    simp [htakes]

theorem read?_names {names files : List Text} (h : Names names files) : read? names = some { files := files } := by
  cases h with
  | plain hfile => rw [read?, if_pos hfile]
  | marked =>
    rw [read?, isFile_hyphens, if_neg Bool.false_ne_true]
    rfl

theorem read?_given (given : List Given) {names files : List Text} (h : Names names files) :
    read? (given.flatMap (·.words) ++ names) = some ⟨given.map fun g => (g.switch, g.value), files⟩ := by
  induction given with
  | nil => exact read?_names h
  | cons g given ih =>
    rw [List.flatMap_cons, List.append_assoc, read?_words, ih]
    rfl

end Arguments

end StyleCheck.CommandLine
