/-
  StyleCheck.Proofs.Nesting.Tokens — a line taken token by token.

  When the directive and the heads of a line have been read (`headed`), what is left of it is taken
  token by token. `Takes` is one such step. On a line without a line feed no token is passed over:
  what stands before the next one holds no token (`token?_eq_some`), and every token is taken in its
  turn (`takes_reach`).
-/

import Mathlib.Logic.Relation
import StyleCheck.Proofs.Nesting.Run
import StyleCheck.Proofs.Text.Cut

namespace StyleCheck.Nesting

/-! ## Heads -/

theorem enterNamespaces_of_none (line : Nat) (st : Nesting) {text : Text} (h : namespaceHead? text = none) :
    enterNamespaces line st text = (st, text) := by
  rw [enterNamespaces]
  split
  · rfl
  · rename_i hsome
    rw [h] at hsome
    cases hsome

theorem enterNamespaces_of_some (line : Nat) (st : Nesting) {text : Text} {head : NamespaceHead}
    (h : namespaceHead? text = some head) :
    enterNamespaces line st text
      = enterNamespaces line (st.push ⟨.space head.name, line, head.opened, 0, .none⟩) head.rest := by
  rw [enterNamespaces]
  split
  · rename_i hnone
    rw [h] at hnone
    cases hnone
  · rename_i hsome
    rw [h] at hsome
    cases hsome
    rfl

theorem enterClass_of_none (s : Source) (line : Nat) (st : Nesting) {text : Text}
    (h : classDeclaration.match? text = none) : enterClass s line st text = (st, text) := by
  unfold enterClass
  rw [h]

/-- The state when the heads in `text` have been read, which is what line `n` holds, and what is left of it. -/
def heads (s : Source) (n : Nat) (st : Nesting) (text : Text) : Nesting × Text :=
  let (st, text) := enterNamespaces n st text
  let (st, text) := enterClass s n st text
  ((noteAccess n (noteBases s n st) text).1, text)

def headed (s : Source) (st : Nesting) (n : Nat) : Nesting × Text :=
  let text := s.elided n
  heads s n ((st.beginLine.preprocess text).mapTop (countParens text)) text

theorem update_eq_applyTokens (s : Source) (st : Nesting) (n : Nat) :
    (st.update s n).1 = (applyTokens s n (headed s st n).1 (headed s st n).2).1 := by
  simp only [update, headed, heads]

inductive Takes (s : Source) (n : Nat) : Nesting × Text → Nesting × Text → Prop
  | token {st : Nesting} {text rest : Text} {c : Char} :
      token? text = some (c, rest) → Takes s n (st, text) ((applyToken s n st text c).1, rest)

/-! ## Tokens in a text -/

/-- The first token is where no token stands before it. -/
theorem token?_split {skipped rest : Text} {c : Char} (hs : ∀ x ∈ skipped, isToken x = false)
    (hc : isToken c = true) (hn : '\n' ∉ rest) : token? (skipped ++ c :: rest) = some (c, rest) := by
  have hdrop : (skipped ++ c :: rest).dropWhile (fun c => !isToken c) = c :: rest := by
    rw [List.dropWhile_append_of_pos (fun x hx => by simp [hs x hx]), List.dropWhile_cons_of_neg (by simp [hc])]
  simp only [token?, hdrop, Text.restOfLine?_of_notMem hn, Option.map_some]

theorem token?_cases {text : Text} (hn : '\n' ∉ text) :
    (token? text = none ∧ ∀ x ∈ text, isToken x = false) ∨
    ∃ skipped c rest, text = skipped ++ c :: rest ∧ (∀ x ∈ skipped, isToken x = false) ∧ isToken c = true ∧
      token? text = some (c, rest) := by
  have hsplit : text.takeWhile (fun c => !isToken c) ++ text.dropWhile (fun c => !isToken c) = text :=
    List.takeWhile_append_dropWhile
  have hskipped : ∀ x ∈ text.takeWhile (fun c => !isToken c), isToken x = false := by
    intro x hx
    simpa using List.mem_takeWhile_imp hx
  cases hd : text.dropWhile (fun c => !isToken c) with
  | nil =>
    rw [hd, List.append_nil] at hsplit
    refine .inl ⟨by simp only [token?, hd], fun x hx => hskipped x ?_⟩
    rwa [hsplit]
  | cons c rest =>
    have hc : isToken c = true := by
      have hhead := List.head_dropWhile_not (p := fun c => !isToken c) (l := text) (by simp [hd])
      simpa [hd] using hhead
    rw [hd] at hsplit
    have hrest : '\n' ∉ rest := fun hmem => hn (by rw [← hsplit]; simp [hmem])
    have htoken := token?_split hskipped hc hrest
    rw [hsplit] at htoken
    exact .inr ⟨_, c, rest, hsplit.symm, hskipped, hc, htoken⟩

theorem token?_eq_some {text rest : Text} {c : Char} (hn : '\n' ∉ text) (h : token? text = some (c, rest)) :
    ∃ skipped, text = skipped ++ c :: rest ∧ (∀ x ∈ skipped, isToken x = false) ∧ isToken c = true := by
  rcases token?_cases hn with ⟨hnone, -⟩ | ⟨skipped, c', rest', ht, hs, hc, hsome⟩
  · rw [hnone] at h
    cases h
  · rw [hsome] at h
    cases h
    exact ⟨skipped, ht, hs, hc⟩

/-- Every token of a text is taken in its turn. -/
theorem takes_reach (s : Source) (n : Nat) {text ahead rest : Text} {c : Char} (ht : text = ahead ++ c :: rest)
    (hc : isToken c = true) (hn : '\n' ∉ text) (st : Nesting) :
    ∃ st' text', Relation.ReflTransGen (Takes s n) (st, text) (st', text') ∧ token? text' = some (c, rest) := by
  induction hlen : ahead.length using Nat.strongRecOn generalizing text ahead st with
  | _ len ih =>
    rcases token?_cases hn with ⟨-, hnone⟩ | ⟨skipped, c', rest', ht', hs, hc', hsome⟩
    · have := hnone c (by simp [ht])
      rw [hc] at this
      cases this
    · -- the next token is the one looked for, or it stands before it
      rcases List.append_eq_append_iff.mp (ht.symm.trans ht') with ⟨z, hz, hrest⟩ | ⟨z, hz, hrest⟩
      · cases z with
        | nil =>
          simp only [List.nil_append, List.cons.injEq] at hrest
          obtain ⟨rfl, rfl⟩ := hrest
          exact ⟨st, text, .refl, hsome⟩
        | cons x z =>
          simp only [List.cons_append, List.cons.injEq] at hrest
          have := hs c (by simp [hz, hrest.1])
          rw [hc] at this
          cases this
      · cases z with
        | nil =>
          simp only [List.nil_append, List.cons.injEq] at hrest
          obtain ⟨rfl, rfl⟩ := hrest
          exact ⟨st, text, .refl, hsome⟩
        | cons x z =>
          simp only [List.cons_append, List.cons.injEq] at hrest
          obtain ⟨rfl, rfl⟩ := hrest
          obtain ⟨st', text', hreach, htoken⟩ := ih z.length (by simp [← hlen, hz]; omega) rfl
            (fun hmem => hn (by rw [ht', List.mem_append]; exact .inr (List.mem_cons_of_mem _ hmem)))
            (applyToken s n st text c').1 rfl
          exact ⟨st', text', .head (.token hsome) hreach, htoken⟩

end StyleCheck.Nesting
