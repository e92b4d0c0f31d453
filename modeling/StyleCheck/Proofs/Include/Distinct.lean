/-
  StyleCheck.Proofs.Include.Distinct — the table of headers holds no header twice.

  A line leaves of the entries some part, in order, or adds one entry behind them, for a header that has
  none (`language_entries`): an opened conditional only moves the end of the last group, and an alternative
  drops that group. So with the lines read from above the headers of the table stay different and their lines
  go up (`distinct_language`), whatever directives and headers come between each other, and to look a header
  up is to find its only entry (`lineOf?_eq_some_iff`).

  `table_holds_no_header_twice` says this of all lines, and of those that are read in a check.
-/

import Mathlib.Data.List.Induction
import Mathlib.Data.List.Nodup
import StyleCheck.Proofs.Include.Remembered

namespace StyleCheck

namespace IncludeTable

/-- Each header has one entry, and the lines of the entries are some of those read, in order. -/
structure Distinct (t : IncludeTable) (read : List Nat) : Prop where
  paths : (t.entries.map (·.path)).Nodup
  lines : t.entries.Pairwise fun a b => a.line < b.line
  read : ∀ e ∈ t.entries, ∃ n ∈ read, e.line = (n : Int)

theorem lineOf?_eq_some_iff {t : IncludeTable} (h : (t.entries.map (·.path)).Nodup) {path : Text} {line : Int} :
    t.lineOf? path = some line ↔ ⟨path, line⟩ ∈ t.entries := by
  refine ⟨lineOf?_eq_some, fun hmem => ?_⟩
  obtain ⟨line', hline'⟩ := lineOf?_of_mem hmem
  have heq := List.inj_on_of_nodup_map h (lineOf?_eq_some hline') hmem rfl
  cases heq
  exact hline'

end IncludeTable

namespace Check

variable {c : Context} {s : Source}

/-- A line keeps some of the entries or adds one for a new header. -/
theorem language_entries (c : Context) (s : Source) (table : IncludeTable) (n : Nat) :
    (language c s table n).1.entries.Sublist table.entries ∨
    ∃ path, table.lineOf? path = none ∧ (language c s table n).1.entries = table.entries ++ [⟨path, n⟩] := by
  simp only [IncludeTable.entries, IncludeTable.groups, List.flatten_append, List.flatten_singleton]
  rcases language_groups c s table n with
    ⟨-, hearlier, hcurrent⟩ | ⟨-, hearlier, hcurrent⟩ | ⟨-, -, hearlier, hcurrent | ⟨inc, -, -, hnone, hcurrent⟩⟩
  · left
    rw [hearlier, hcurrent]
    simp
  · left
    rw [hearlier, hcurrent]
    simp
  · left
    rw [hearlier, hcurrent]
  · right
    refine ⟨inc.path, hnone, ?_⟩
    rw [hearlier, hcurrent, List.append_assoc]

theorem distinct_language {table : IncludeTable} {read : List Nat} {n : Nat} (h : table.Distinct read)
    (hn : ∀ m ∈ read, m < n) : (language c s table n).1.Distinct (read ++ [n]) := by
  rcases language_entries c s table n with hkept | ⟨path, hnone, hadded⟩
  · refine ⟨h.paths.sublist (hkept.map _), h.lines.sublist hkept, fun e he => ?_⟩
    obtain ⟨m, hm, hline⟩ := h.read e (hkept.subset he)
    exact ⟨m, List.mem_append_left _ hm, hline⟩
  · have hnew : ∀ e ∈ table.entries, e.path ≠ path := IncludeTable.lineOf?_eq_none_iff.mp hnone
    have hbelow : ∀ e ∈ table.entries, e.line < n := by
      intro e he
      obtain ⟨m, hm, hline⟩ := h.read e he
      have := hn m hm
      omega
    constructor
    · rw [hadded, List.map_append, List.nodup_append]
      refine ⟨h.paths, by simp, ?_⟩
      simpa using hnew
    · rw [hadded, List.pairwise_append]
      refine ⟨h.lines, by simp, ?_⟩
      simpa using hbelow
    · intro e he
      rw [hadded, List.mem_append, List.mem_singleton] at he
      rcases he with hold | rfl
      · obtain ⟨m, hm, hline⟩ := h.read e hold
        exact ⟨m, List.mem_append_left _ hm, hline⟩
      · exact ⟨n, by simp, rfl⟩

/-! ## Lines read in order -/

def tableAfter (c : Context) (s : Source) (read : List Nat) : IncludeTable :=
  read.foldl (fun table n => (language c s table n).1) {}

theorem tableAfter_append (c : Context) (s : Source) (read : List Nat) (n : Nat) :
    tableAfter c s (read ++ [n]) = (language c s (tableAfter c s read) n).1 := by
  simp [tableAfter]

theorem distinct_tableAfter (c : Context) (s : Source) {read : List Nat} (hread : read.Pairwise (· < ·)) :
    (tableAfter c s read).Distinct read := by
  induction read using List.reverseRecOn with
  | nil => exact ⟨List.nodup_nil, .nil, by simp [tableAfter, IncludeTable.entries, IncludeTable.groups]⟩
  | append_singleton read n ih =>
    rw [List.pairwise_append] at hread
    rw [tableAfter_append]
    exact distinct_language (ih hread.1) fun m hm => hread.2.2 m hm n (by simp)

/-- In a check the lines of assembly code are passed over. -/
theorem before_includes_eq_tableAfter (c : Context) (s : Source) (n : Nat) :
    ∃ read : List Nat, read.Pairwise (· < ·) ∧ (∀ i, i ∈ read ↔ i < n ∧ IsCode s i) ∧
      (before c s n).includes = tableAfter c s read := by
  induction n with
  | zero => exact ⟨[], .nil, by simp, rfl⟩
  | succ n ih =>
    obtain ⟨read, hread, hmem, htable⟩ := ih
    by_cases hcode : IsCode s n
    · refine ⟨read ++ [n], ?_, fun i => ?_, ?_⟩
      · rw [List.pairwise_append]
        refine ⟨hread, by simp, fun i hi j hj => ?_⟩
        rw [List.mem_singleton.mp hj]
        exact ((hmem i).mp hi).1
      · rw [List.mem_append, hmem, List.mem_singleton]
        constructor
        · rintro (⟨hi, hc⟩ | rfl)
          · exact ⟨by omega, hc⟩
          · exact ⟨by omega, hcode⟩
        · rintro ⟨hi, hc⟩
          rcases Nat.lt_succ_iff_lt_or_eq.mp hi with hlt | rfl
          · exact .inl ⟨hlt, hc⟩
          · exact .inr rfl
      · rw [before_includes_of_code c hcode, htable, tableAfter_append]
    · refine ⟨read, hread, fun i => ?_, ?_⟩
      · rw [hmem]
        refine ⟨fun ⟨hi, hc⟩ => ⟨by omega, hc⟩, fun ⟨hi, hc⟩ => ⟨?_, hc⟩⟩
        rcases Nat.lt_succ_iff_lt_or_eq.mp hi with hlt | rfl
        · exact hlt
        · exact absurd hc hcode
      · rw [before_includes_of_not_code c hcode, htable]

/-- After any lines that have been read in order, the headers of the table are different and their lines go
up. A header that has an entry is found with the line of its only one, and no other header is found. The
table of a check is that of the lines of code. -/
theorem table_holds_no_header_twice (c : Context) (s : Source) {read : List Nat} (hread : read.Pairwise (· < ·)) :
    ((tableAfter c s read).entries.map (·.path)).Nodup ∧
    ((tableAfter c s read).entries.Pairwise fun a b => a.line < b.line) ∧
    (∀ e ∈ (tableAfter c s read).entries, ∃ n ∈ read, e.line = (n : Int)) ∧
    (∀ path line, (tableAfter c s read).lineOf? path = some line ↔ ⟨path, line⟩ ∈ (tableAfter c s read).entries) ∧
    (∀ path, (tableAfter c s read).lineOf? path = none ↔ ∀ e ∈ (tableAfter c s read).entries, e.path ≠ path) ∧
    ∀ n, ∃ code : List Nat, code.Pairwise (· < ·) ∧ (∀ i, i ∈ code ↔ i < n ∧ IsCode s i) ∧
      (before c s n).includes = tableAfter c s code := by
  have h := distinct_tableAfter c s hread
  exact ⟨h.paths, h.lines, h.read, fun path line => IncludeTable.lineOf?_eq_some_iff h.paths,
    fun path => IncludeTable.lineOf?_eq_none_iff, before_includes_eq_tableAfter c s⟩

def enteredAgain : Source :=
  Source.ofLines
    ["#include \"a/w.h\"".toList, "#if A".toList, "#include \"a/x.h\"".toList, "#else".toList,
      "#include \"a/y.h\"".toList, "#include \"a/x.h\"".toList, "#include \"a/w.h\"".toList, "#endif".toList]

theorem table_holds_no_header_twice_enteredAgain :
    (List.range 8).Pairwise (· < ·) ∧
    (tableAfter plainFile enteredAgain (List.range 8)).groups =
      [[⟨"a/w.h".toList, 0⟩], [⟨"a/y.h".toList, 4⟩, ⟨"a/x.h".toList, 5⟩]] ∧
    (tableAfter plainFile enteredAgain (List.range 8)).lineOf? "a/w.h".toList = some 0 ∧
    (tableAfter plainFile enteredAgain (List.range 8)).lineOf? "a/x.h".toList = some 5 ∧
    (tableAfter plainFile enteredAgain (List.range 8)).lineOf? "a/z.h".toList = none := by
  have hread : (List.range 8).Pairwise (· < ·) := List.pairwise_lt_range
  have hgroups : (tableAfter plainFile enteredAgain (List.range 8)).groups =
      [[⟨"a/w.h".toList, 0⟩], [⟨"a/y.h".toList, 4⟩, ⟨"a/x.h".toList, 5⟩]] := by decide +kernel
  obtain ⟨-, -, -, hsome, hnone, -⟩ := table_holds_no_header_twice plainFile enteredAgain hread
  simp only [IncludeTable.entries, hgroups] at hsome hnone
  exact ⟨hread, hgroups, (hsome _ _).mpr (by decide), (hsome _ _).mpr (by decide), (hnone _).mpr (by decide)⟩

end Check

end StyleCheck
