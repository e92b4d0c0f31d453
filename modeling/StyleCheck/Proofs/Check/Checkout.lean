/-
  StyleCheck.Proofs.Check.Checkout — rules that ask for the name of a file in its repository.

  The name cannot be told if the chain of checkouts above the file goes up to the root
  (`Repository.Endless`), and only then (`accounts_name`). All that is said about headers and header
  guards depends on such names and on nothing else that could fail: an include line asks for the name
  of the file in some cases (`IncludeLine.Asks`), the search for missing headers asks for it if there
  are any headers, and the search for the file's own header asks for both names.
-/

import Mathlib.Logic.Function.Iterate
import StyleCheck.Check.File
import StyleCheck.Proofs.Check.Account

namespace StyleCheck

namespace Repository

/-- The file is there, and all directories from its own up to the root have the mark of a checkout. -/
def Endless (t : FileTree) (p : Text) : Prop :=
  t.exists (fullName t p) = true ∧
    ∀ k, hasEntry t (Path.directory^[k + 1] (fullName t p)) ".svn" = true

theorem accounts_chainTop (t : FileTree) (dir : Text) :
    Accounts (fun e => e = .endlessCheckout ∧ ∀ k, hasEntry t (Path.directory^[k + 1] dir) ".svn" = true)
      (failureOf (chainTop t dir)) := by
  fun_induction chainTop t dir with
  | case1 dir up hm h =>
    refine .failed ⟨rfl, fun k => ?_⟩
    rw [Function.iterate_fixed h (k + 1), ← h]
    exact hm
  | case2 dir up hm h ih =>
    refine ih.congr fun e => and_congr_right fun _ => ⟨fun hall k => ?_, fun hall k => hall (k + 1)⟩
    cases k with
    | zero => exact hm
    | succ k => exact hall k
  | case3 dir up hm => exact .ended fun e he => hm (he.2 0)

theorem accounts_name (t : FileTree) (p : Text) :
    Accounts (fun e => e = .endlessCheckout ∧ Endless t p) (failureOf (name t p)) := by
  simp only [name, failureOf_map, root?]
  by_cases hx : t.exists (fullName t p) = true
  · rw [if_pos hx]
    by_cases hm : hasEntry t (Path.directory (fullName t p)) ".svn" = true
    · rw [if_pos hm, failureOf_map]
      refine (accounts_chainTop t _).congr fun e => and_congr_right fun _ => ⟨fun hall => ⟨hx, fun k => ?_⟩, ?_⟩
      · cases k with
        | zero => exact hm
        | succ k => exact hall k
      · rintro ⟨-, hall⟩ k
        exact hall (k + 1)
    · rw [if_neg hm]
      exact .ended fun e he => hm (he.2.2 0)
  · rw [if_neg hx]
    exact .ended fun e he => hx he.2.1

/-- Either the name can be told, or the chain of checkouts has no end. -/
theorem name_cases (t : FileTree) (p : Text) :
    (∃ n, name t p = .ok n ∧ ¬ Endless t p) ∨ name t p = .error .endlessCheckout ∧ Endless t p := by
  have h := accounts_name t p
  cases hn : name t p with
  | ok n =>
    rw [hn] at h
    exact .inl ⟨n, rfl, fun he => h.eq_none_iff.mp rfl .endlessCheckout ⟨rfl, he⟩⟩
  | error e =>
    rw [hn] at h
    obtain ⟨rfl, he⟩ := h.holds rfl
    exact .inr ⟨rfl, he⟩

end Repository

/-! ## Include lines -/

namespace IncludeLine

/-- The name of the file is needed to judge a header: the header is new, and it is a source file, or it
is not from elsewhere and stands in quotes or comes too late. -/
def Asks (t : FileTree) (file : Text) (table : IncludeTable) (inc : Include) : Prop :=
  table.lineOf? inc.path = none ∧
    (Text.endsWith inc.path ".cc".toList = true ∨
      thirdPartyHeader.opens inc.path = false ∧
        (inc.system = false ∨
          ∃ kind, HeaderKind.ofInclude t file inc.path inc.system = .ok kind ∧ table.section.next? kind = none))

theorem failureOf_isForeignSource (t : FileTree) (file header : Text) :
    failureOf (isForeignSource t file header)
      = if Text.endsWith header ".cc".toList then failureOf (Repository.name t file) else none := by
  unfold isForeignSource
  split
  · exact failureOf_map _ _
  · rfl

theorem failureOf_ofInclude (t : FileTree) (file header : Text) (system : Bool) :
    failureOf (HeaderKind.ofInclude t file header system)
      = if system then none else failureOf (Repository.name t file) := by
  unfold HeaderKind.ofInclude
  split
  · rfl
  · exact failureOf_map _ _

/-- A header that comes too late is reported with the name of the file. -/
theorem failureOf_misplaced (t : FileTree) (file : Text) (n : Nat) (table : IncludeTable) (kind : HeaderKind) :
    failureOf (misplaced t file n (table.proceed kind).2)
      = if table.section.next? kind = none then failureOf (Repository.name t file) else none := by
  unfold IncludeTable.proceed
  cases table.section.next? kind with
  | none => simp only [misplaced, Repository.parts, failureOf_map, if_true]
  | some next => rfl

theorem failureOf_enter (t : FileTree) (file : Text) (s : Source) (n : Nat) (inc : Include) (table : IncludeTable) :
    failureOf (enter t file s n inc table)
      = match HeaderKind.ofInclude t file inc.path inc.system with
        | .error e => some e
        | .ok kind =>
          if table.section.next? kind = none then failureOf (Repository.name t file) else none := by
  unfold enter
  cases HeaderKind.ofInclude t file inc.path inc.system with
  | error e => rfl
  | ok kind =>
    have hm := failureOf_misplaced t file n (table.add inc.path n) kind
    simp only [bind, Except.bind]
    cases ho : misplaced t file n ((table.add inc.path n).proceed kind).2 <;> rw [ho] at hm <;> exact hm

theorem failureOf_header (t : FileTree) (file : Text) (s : Source) (n : Nat) (inc : Include) (table : IncludeTable) :
    failureOf (header t file s n inc table)
      = if table.lineOf? inc.path = none then
          match isForeignSource t file inc.path with
          | .error e => some e
          | .ok foreign =>
            if foreign || thirdPartyHeader.opens inc.path then none else failureOf (enter t file s n inc table)
        else none := by
  unfold header
  cases table.lineOf? inc.path with
  | some earlier => rfl
  | none =>
    simp only [if_true, bind, Except.bind]
    cases isForeignSource t file inc.path with
    | error e => rfl
    | ok foreign =>
      cases foreign with
      | true => rfl
      | false =>
        simp only [Bool.false_or]
        cases thirdPartyHeader.opens inc.path <;> rfl

/-- If the name of the file can be told, nothing goes wrong. -/
theorem failureOf_header_of_name {t : FileTree} {file name : Text} (h : Repository.name t file = .ok name)
    (s : Source) (n : Nat) (inc : Include) (table : IncludeTable) :
    failureOf (header t file s n inc table) = none := by
  have hname : failureOf (Repository.name t file) = none := by rw [h]; rfl
  have hforeign := failureOf_isForeignSource t file inc.path
  have hkind := failureOf_ofInclude t file inc.path inc.system
  rw [hname, ite_self] at hforeign hkind
  rw [failureOf_header, failureOf_enter, hname]
  cases hf : isForeignSource t file inc.path with
  | error e => rw [hf] at hforeign; cases hforeign
  | ok foreign =>
    cases hk : HeaderKind.ofInclude t file inc.path inc.system with
    | error e => rw [hk] at hkind; cases hkind
    | ok kind => simp only [ite_self]

/-- If it cannot be told, all goes well just for the headers for which nobody asks. -/
theorem accounts_header_of_error {t : FileTree} {file : Text} {e : Failure}
    (h : Repository.name t file = .error e) (s : Source) (n : Nat) (inc : Include) (table : IncludeTable) :
    Accounts (fun e' => e' = e ∧ Asks t file table inc) (failureOf (header t file s n inc table)) := by
  have hforeign : isForeignSource t file inc.path
      = if Text.endsWith inc.path ".cc".toList then .error e else .ok false := by
    simp only [isForeignSource, h]
    rfl
  rw [failureOf_header, failureOf_enter, hforeign, h]
  unfold Asks
  by_cases hl : table.lineOf? inc.path = none
  · rw [if_pos hl]
    by_cases hcc : Text.endsWith inc.path ".cc".toList = true
    · rw [if_pos hcc]
      exact .failed ⟨rfl, hl, .inl hcc⟩
    · rw [if_neg hcc]
      show Accounts _ (if thirdPartyHeader.opens inc.path = true then none else _)
      by_cases ht : thirdPartyHeader.opens inc.path = true
      · rw [if_pos ht]
        refine .ended ?_
        rintro e' ⟨-, -, hcc' | ⟨ht', -⟩⟩
        · exact hcc hcc'
        · rw [ht] at ht'
          cases ht'
      · rw [if_neg ht]
        rw [Bool.not_eq_true] at ht
        cases hs : inc.system with
        | false =>
          have hk : HeaderKind.ofInclude t file inc.path false = .error e := by
            simp only [HeaderKind.ofInclude, h]
            rfl
          rw [hk]
          exact .failed ⟨rfl, hl, .inr ⟨ht, .inl rfl⟩⟩
        | true =>
          obtain ⟨kind, hk⟩ : ∃ kind, HeaderKind.ofInclude t file inc.path true = .ok kind := ⟨_, rfl⟩
          rw [hk]
          by_cases hlate : table.section.next? kind = none
          · show Accounts _ (if table.section.next? kind = none then some e else none)
            rw [if_pos hlate]
            exact .failed ⟨rfl, hl, .inr ⟨ht, .inr ⟨kind, rfl, hlate⟩⟩⟩
          · show Accounts _ (if table.section.next? kind = none then some e else none)
            rw [if_neg hlate]
            refine .ended ?_
            rintro e' ⟨-, -, hcc' | ⟨-, hs' | ⟨kind', hk', hlate'⟩⟩⟩
            · exact hcc hcc'
            · cases hs'
            · cases hk'
              exact hlate hlate'
  · rw [if_neg hl]
    exact .ended fun e' he => hl he.2.1

theorem accounts_header (t : FileTree) (file : Text) (s : Source) (n : Nat) (inc : Include) (table : IncludeTable) :
    Accounts (fun e => e = .endlessCheckout ∧ Asks t file table inc ∧ Repository.Endless t file)
      (failureOf (header t file s n inc table)) := by
  rcases Repository.name_cases t file with ⟨name, hn, he⟩ | ⟨hn, he⟩
  · rw [failureOf_header_of_name hn]
    exact .ended fun e h => he h.2.2
  · exact (accounts_header_of_error hn s n inc table).congr fun e => by simp only [he, and_true]

def AsksAt (t : FileTree) (file : Text) (s : Source) (n : Nat) (table : IncludeTable) : Prop :=
  ∃ inc, Include.ofLine? (s.code n) = some inc ∧ Asks t file table inc

theorem update_failure (t : FileTree) (file : Text) (s : Source) (n : Nat) (table : IncludeTable) :
    (update t file s n table).2.failure
      = (Include.ofLine? (s.code n)).bind fun inc => failureOf (header t file s n inc table) := by
  simp only [update]
  cases Include.ofLine? (s.code n) with
  | none => rfl
  | some inc =>
    simp only [Option.bind_some]
    cases header t file s n inc table <;> rfl

theorem accounts_update (t : FileTree) (file : Text) (s : Source) (n : Nat) (table : IncludeTable) :
    Accounts (fun e => e = .endlessCheckout ∧ AsksAt t file s n table ∧ Repository.Endless t file)
      (update t file s n table).2.failure := by
  rw [update_failure]
  unfold AsksAt
  cases Include.ofLine? (s.code n) with
  | none => exact .ended fun e he => by simp at he
  | some inc => exact (accounts_header t file s n inc table).congr fun e => by simp

end IncludeLine

/-! ## Header guards, missing headers and the file's own header -/

theorem HeaderGuard.accounts_nameOf (t : FileTree) (settings : Settings) (p : Text) :
    Accounts (fun e => e = .endlessCheckout ∧ Repository.Endless t (spelledOut (permanent p)))
      (failureOf (nameOf t settings p)) := by
  simp only [nameOf, failureOf_map]
  exact Repository.accounts_name t _

namespace Required

theorem failureOf_lead? (t : FileTree) (file header : Text) :
    failureOf (Module.lead? t file header) = failureOf (Repository.name t file) := by
  simp only [Module.lead?, Module.sourceKey?, Repository.parts, failureOf_map]

/-- A fold whose every step fails alike. -/
theorem failureOf_foldlM {α β : Type} {f : β → α → Except Failure β} {failure : Option Failure}
    (hf : ∀ b a, failureOf (f b a) = failure) (as : List α) (b : β) :
    failureOf (as.foldlM f b) = if as = [] then none else failure := by
  induction as generalizing b with
  | nil => rfl
  | cons a as ih =>
    have h := hf b a
    rw [List.foldlM_cons, if_neg (List.cons_ne_nil a as)]
    cases hb : f b a with
    | error e =>
      rw [hb] at h
      exact h
    | ok b' =>
      rw [hb] at h
      have hnone : failure = none := h.symm
      exact (ih b').trans (by rw [hnone, ite_self])

theorem failureOf_provide (t : FileTree) (file : Text) (headers : List Text) (known : Module.Provided) :
    failureOf (provide t file headers known)
      = if headers = [] then none else failureOf (Repository.name t file) :=
  failureOf_foldlM (fun _ header => by rw [provideOne, failureOf_map, failureOf_lead?]) headers (known, false)

theorem included_eq_nil (table : IncludeTable) : included table = [] ↔ table.entries = [] := by
  unfold included
  rcases List.eq_nil_or_concat table.entries with h | ⟨es, e, h⟩
  · simp [h]
  · rw [h, List.concat_eq_append, List.foldl_append]
    simp only [List.foldl_cons, List.foldl_nil, List.append_eq_nil_iff, List.cons_ne_nil, and_false, iff_false]
    split
    · rename_i hany
      intro hmap
      rw [List.map_eq_nil_iff.mp hmap] at hany
      cases hany
    · simp

theorem outcome_failure (t : FileTree) (file : Text) (s : Source) (table : IncludeTable) :
    (outcome t file s table).failure
      = if table.entries = [] then none else failureOf (Repository.name t (modulePath t file)) := by
  have h := failureOf_provide t (modulePath t file) ((included table).map (·.1)) (included table)
  simp only [List.map_eq_nil_iff, included_eq_nil] at h
  rw [← h]
  unfold outcome outcomeBy
  simp only
  cases provide t (modulePath t file) ((included table).map (·.1)) (included table) with
  | error e => rfl
  | ok provided =>
    simp only
    split <;> rfl

end Required

namespace OwnHeader

def headerOf (file name : Text) : Text :=
  file.take (file.length - (Repository.Parts.ofName name).extension.length) ++ ".h".toList

/-- `header` belongs to the file, which is no test, and is there. -/
def Expected (t : FileTree) (file header : Text) : Prop :=
  ∃ name, Repository.name t file = .ok name ∧ header = headerOf file name ∧
    Module.testEnding.occursIn (Repository.Parts.ofName name).base = false ∧ t.exists header = true

theorem failureOf_findings_of_name {t : FileTree} {file name : Text} (h : Repository.name t file = .ok name)
    (table : IncludeTable) :
    failureOf (findings t file table)
      = if Module.testEnding.occursIn (Repository.Parts.ofName name).base || !t.exists (headerOf file name) then none
        else failureOf (Repository.name t (headerOf file name)) := by
  have hfold : file.take (file.length - (Repository.Parts.ofName name).extension.length) ++ ".h".toList
      = headerOf file name := rfl
  simp only [findings, h, bind, Except.bind, hfold]
  split
  · rfl
  · cases Repository.name t (headerOf file name) <;> rfl

theorem accounts_findings (t : FileTree) (file : Text) (table : IncludeTable) :
    Accounts (fun e => e = .endlessCheckout ∧
        (Repository.Endless t file ∨ ∃ header, Expected t file header ∧ Repository.Endless t header))
      (failureOf (findings t file table)) := by
  rcases Repository.name_cases t file with ⟨name, hn, he⟩ | ⟨hn, he⟩
  · rw [failureOf_findings_of_name hn]
    unfold Expected
    split
    · rename_i hskip
      refine .ended ?_
      rintro e ⟨-, h | ⟨header, ⟨name', hn', rfl, htest, hthere⟩, -⟩⟩
      · exact he h
      · rw [hn] at hn'
        cases hn'
        rw [htest, hthere] at hskip
        cases hskip
    · rename_i hskip
      simp only [Bool.or_eq_true, Bool.not_eq_true', not_or, Bool.not_eq_true, Bool.not_eq_false] at hskip
      refine (Repository.accounts_name t (headerOf file name)).congr fun e => and_congr_right fun _ => ⟨?_, ?_⟩
      · exact fun h => .inr ⟨headerOf file name, ⟨name, hn, rfl, hskip.1, hskip.2⟩, h⟩
      · rintro (h | ⟨header, ⟨name', hn', rfl, -⟩, h⟩)
        · exact absurd h he
        · rw [hn] at hn'
          cases hn'
          exact h
  · have herror : findings t file table = .error .endlessCheckout := by
      simp only [findings, hn]
      rfl
    rw [herror]
    exact .failed ⟨rfl, .inl he⟩

end OwnHeader

end StyleCheck
