/-
  StyleCheck.Proofs.Run.Tally — the count of the findings that are shown.

  Findings are counted one by one as they are written. Whatever has been counted, the total is the number
  of findings shown, and the counts under names are, for each name, the number of findings with this name,
  every name once and no name without findings (`CountsBy`). Counting one more keeps this up (`CountsBy.bump`),
  and so does taking in entries (`Tally.Counts.entries`).
-/

import StyleCheck.Proofs.Run.Course

namespace StyleCheck

def Entry.shown? : Entry → Option Finding
  | .verdict f true => some f
  | .verdict _ false | .remark _ => none

def Counting.key? : Counting → Option (Finding → Text)
  | .topLevel => some fun f => Tally.family f.category.name
  | .detailed => some fun f => f.category.name
  | .totalOnly _ => none

def Tally.sum : List (Text × Nat) → Nat
  | [] => 0
  | (_, n) :: rest => n + sum rest

/-- The counts are those of the findings by their keys. -/
structure CountsBy (key : Finding → Text) (shown : List Finding) (counts : List (Text × Nat)) : Prop where
  /-- Every name is counted once. -/
  distinct : (counts.map (·.1)).Nodup
  exact : ∀ name n, (name, n) ∈ counts ↔ 0 < n ∧ n = shown.countP (key · == name)
  sum : Tally.sum counts = shown.length

namespace Tally

/-! ## One more -/

variable {name other : Text} {counts : List (Text × Nat)} {n : Nat}

theorem mem_bump_other (h : other ≠ name) : (other, n) ∈ bump name counts ↔ (other, n) ∈ counts := by
  induction counts with
  | nil => simp [bump, h]
  | cons entry rest ih =>
    obtain ⟨first, m⟩ := entry
    unfold bump
    by_cases hfirst : first = name
    · simp [hfirst, h]
    · simp [hfirst, ih]

theorem mem_bump_self (hdistinct : (counts.map (·.1)).Nodup) :
    (name, n) ∈ bump name counts ↔ (n = 1 ∧ ∀ m, (name, m) ∉ counts) ∨ ∃ m, (name, m) ∈ counts ∧ n = m + 1 := by
  induction counts with
  | nil => simp [bump]
  | cons entry rest ih =>
    obtain ⟨first, m⟩ := entry
    rw [List.map_cons, List.nodup_cons] at hdistinct
    unfold bump
    by_cases hfirst : first = name
    · subst hfirst
      have hnot : ∀ k, (first, k) ∉ rest := fun k hk => hdistinct.1 (List.mem_map.mpr ⟨(first, k), hk, rfl⟩)
      simp [hnot]
    · have hne : name ≠ first := fun heq => hfirst heq.symm
      simp [hfirst, hne, ih hdistinct.2]

theorem keys_bump : (bump name counts).map (·.1)
    = if name ∈ counts.map (·.1) then counts.map (·.1) else counts.map (·.1) ++ [name] := by
  induction counts with
  | nil => rfl
  | cons entry rest ih =>
    obtain ⟨first, m⟩ := entry
    unfold bump
    by_cases hfirst : first = name
    · simp [hfirst]
    · have hne : name ≠ first := fun heq => hfirst heq.symm
      simp only [beq_iff_eq, hfirst, if_false, List.map_cons, ih, List.mem_cons, hne, false_or]
      split <;> rfl

theorem sum_bump : sum (bump name counts) = sum counts + 1 := by
  induction counts with
  | nil => rfl
  | cons entry rest ih =>
    obtain ⟨first, m⟩ := entry
    unfold bump
    by_cases hfirst : first = name
    · simp only [beq_iff_eq, hfirst, if_true, sum]
      omega
    · simp only [beq_iff_eq, hfirst, if_false, sum, ih]
      omega

end Tally

/-! ## All that is shown -/

theorem CountsBy.nil (key : Finding → Text) : CountsBy key [] [] where
  distinct := List.nodup_nil
  exact name n := by
    simp only [List.not_mem_nil, List.countP_nil, false_iff]
    omega
  sum := rfl

theorem CountsBy.bump {key : Finding → Text} {shown : List Finding} {counts : List (Text × Nat)}
    (h : CountsBy key shown counts) (f : Finding) : CountsBy key (shown ++ [f]) (Tally.bump (key f) counts) where
  distinct := by
    rw [Tally.keys_bump]
    split
    · exact h.distinct
    · rename_i hnew
      rw [List.nodup_append]
      refine ⟨h.distinct, by simp, ?_⟩
      intro a ha b hb heq
      rw [List.mem_singleton] at hb
      exact hnew (hb ▸ heq ▸ ha)
  exact name n := by
    by_cases hname : name = key f
    · subst hname
      rw [Tally.mem_bump_self h.distinct, List.countP_append]
      simp only [h.exact, List.countP_singleton, beq_self_eq_true, if_true]
      generalize shown.countP (key · == key f) = c
      constructor
      · rintro (⟨rfl, hnone⟩ | ⟨m, ⟨hm, rfl⟩, rfl⟩)
        · have := hnone c
          omega
        · omega
      · intro hn
        by_cases hc : c = 0
        · exact .inl ⟨by omega, fun m hm => by omega⟩
        · exact .inr ⟨c, ⟨by omega, rfl⟩, hn.2⟩
    · rw [Tally.mem_bump_other hname, h.exact, List.countP_append]
      simp [Ne.symm hname]
  sum := by
    rw [Tally.sum_bump, h.sum, List.length_append, List.length_singleton]

namespace Tally

structure Counts (counting : Counting) (shown : List Finding) (t : Tally) : Prop where
  total : t.total = shown.length
  byName : ∀ key, counting.key? = some key → CountsBy key shown t.byName
  totalOnly : counting.key? = none → t.byName = []

variable {counting : Counting} {shown : List Finding} {t : Tally}

theorem counts_nothing (counting : Counting) : Counts counting [] {} :=
  ⟨rfl, fun key _ => .nil key, fun _ => rfl⟩

theorem Counts.totalLine_eq (h : Counts counting shown t) :
    t.totalLine = "Total errors found: " ++ toString shown.length ++ "\n" := by
  unfold totalLine
  rw [h.total]

theorem Counts.byName_eq_nil (h : Counts counting [] t) : t.byName = [] := by
  cases hkey : counting.key? with
  | none => exact h.totalOnly hkey
  | some key =>
    refine List.eq_nil_iff_forall_not_mem.mpr fun entry hentry => ?_
    obtain ⟨hpos, hcount⟩ := ((h.byName key hkey).exact entry.1 entry.2).mp hentry
    rw [List.countP_nil] at hcount
    omega

theorem Counts.entry (h : Counts counting shown t) (e : Entry) :
    Counts counting (shown ++ e.shown?.toList) (e.count counting t) := by
  cases e with
  | remark text => simpa [Entry.shown?, Entry.count] using h
  | verdict f s =>
    cases s with
    | false => simpa [Entry.shown?, Entry.count] using h
    | true =>
      have htotal : (t.count counting f.category.name).total = (shown ++ [f]).length := by
        rw [List.length_append, List.length_singleton, ← h.total]
        rfl
      cases counting with
      | topLevel | detailed =>
        refine ⟨htotal, ?_, ?_⟩
        · intro key hkey
          cases hkey
          exact (h.byName _ rfl).bump f
        · intro hnone
          cases hnone
      | totalOnly name =>
        refine ⟨htotal, ?_, fun _ => h.totalOnly rfl⟩
        intro key hkey
        cases hkey

theorem Counts.entries (h : Counts counting shown t) (es : List Entry) :
    Counts counting (shown ++ es.filterMap Entry.shown?) (es.foldl (Entry.count counting) t) := by
  induction es generalizing shown t with
  | nil => simpa using h
  | cons e es ih =>
    have hrest := ih (h.entry e)
    rw [List.append_assoc] at hrest
    cases he : e.shown? with
    | none => simpa [he] using hrest
    | some f => simpa [he] using hrest

end Tally

end StyleCheck
