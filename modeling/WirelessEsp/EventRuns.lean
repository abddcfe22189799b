import Mathlib.Data.List.Basic

namespace WirelessEsp.EventRuns

variable {σ α ε : Type} {step : σ → α → List ε → Option σ → Prop}

/-- A run over a list of items, each of which adds some events; it stops with the item after
which there is no state. -/
inductive Run (step : σ → α → List ε → Option σ → Prop) : σ → List α → List ε → Option σ → Prop
  | nil (s : σ) : Run step s [] [] (some s)
  | cons {s s' : σ} {a : α} {as : List α} {es es' : List ε} {r : Option σ}
      (first : step s a es (some s')) (rest : Run step s' as es' r) :
      Run step s (a :: as) (es ++ es') r
  | stop {s : σ} {a : α} {es : List ε} (last : step s a es none) (as : List α) :
      Run step s (a :: as) es none

variable {s s' : σ} {a : α} {as bs : List α} {es es' : List ε} {r : Option σ}

theorem Run.append (h : Run step s as es (some s')) (h' : Run step s' bs es' r) :
    Run step s (as ++ bs) (es ++ es') r := by
  generalize hr : some s' = t at h
  induction h with
  | nil s => cases hr; exact h'
  | cons first _ ih =>
      rw [List.cons_append, List.append_assoc]
      exact .cons first (ih hr)
  | stop => cases hr

theorem Run.concat (h : Run step s as es (some s')) (h' : step s' a es' r) :
    Run step s (as ++ [a]) (es ++ es') r := by
  refine h.append ?_
  cases r with
  | none => exact .stop h' []
  | some t =>
      have hrun := Run.cons h' (.nil t)
      rw [List.append_nil] at hrun
      exact hrun

theorem Run.stopped (h : Run step s as es none) (hpre : as <+: bs) : Run step s bs es none := by
  obtain ⟨cs, rfl⟩ := hpre
  generalize hr : (none : Option σ) = t at h
  induction h with
  | nil => cases hr
  | cons first _ ih => exact .cons first (ih hr)
  | stop last as => exact .stop last (as ++ cs)

theorem Run.split (h : Run step s (as ++ bs) es r) :
    (∃ es₁ es₂ s', es = es₁ ++ es₂ ∧ Run step s as es₁ (some s') ∧ Run step s' bs es₂ r) ∨
      (r = none ∧ Run step s as es none) := by
  induction as generalizing s es with
  | nil => exact .inl ⟨[], es, s, rfl, .nil s, h⟩
  | cons a as ih =>
      cases h with
      | stop last => exact .inr ⟨rfl, .stop last as⟩
      | @cons _ t _ _ es es' _ first rest =>
          rcases ih rest with ⟨es₁, es₂, s', rfl, h₁, h₂⟩ | ⟨rfl, h⟩
          · exact .inl ⟨es ++ es₁, es₂, s', (List.append_assoc ..).symm, .cons first h₁, h₂⟩
          · exact .inr ⟨rfl, .cons first h⟩

theorem getElem?_split {xs : List α} {x : α} {i : Nat} (h : xs[i]? = some x) :
    ∃ before behind, xs = before ++ x :: behind ∧ before.length = i := by
  obtain ⟨hlt, rfl⟩ := List.getElem?_eq_some_iff.mp h
  refine ⟨xs.take i, xs.drop (i + 1), ?_, List.length_take_of_le (Nat.le_of_lt hlt)⟩
  rw [← List.drop_eq_getElem_cons hlt, List.take_append_drop]

theorem Run.result {next : σ → α → Option σ} (hnext : ∀ s a es r, step s a es r → r = next s a)
    (h : Run step s as es r) : r = as.foldlM next s := by
  induction h with
  | nil s => rfl
  | cons first _ ih =>
      rw [List.foldlM_cons, ← hnext _ _ _ _ first]
      exact ih
  | stop last as =>
      rw [List.foldlM_cons, ← hnext _ _ _ _ last]
      rfl

end WirelessEsp.EventRuns
