import Mathlib.Logic.Relation

namespace WirelessEsp.Transition

variable {σ α : Type}

/-- The state after a list of actions, when each of them is enabled in turn. -/
def run (step : σ → α → Option σ) : σ → List α → Option σ
  | s, [] => some s
  | s, a :: as => match step s a with
      | none => none
      | some t => run step t as

/-- Every step the run takes is taken in a state that meets the condition. -/
def Meets (step : σ → α → Option σ) (ok : σ → α → Prop) : σ → List α → Prop
  | _, [] => True
  | s, a :: as => match step s a with
      | none => True
      | some t => ok s a ∧ Meets step ok t as

/-- The predicate holds in every state the run visits. -/
def Always (step : σ → α → Option σ) (P : σ → Prop) : σ → List α → Prop
  | s, [] => P s
  | s, a :: as => P s ∧ match step s a with
      | none => True
      | some t => Always step P t as

def decideMeets (step : σ → α → Option σ) (ok : σ → α → Prop) [∀ s a, Decidable (ok s a)] :
    ∀ (s : σ) (as : List α), Decidable (Meets step ok s as)
  | _, [] => isTrue trivial
  | s, a :: as =>
      match h : step s a with
      | none => isTrue (by simp only [Meets, h])
      | some t =>
          have := decideMeets step ok t as
          decidable_of_iff (ok s a ∧ Meets step ok t as) (by simp only [Meets, h])

instance (step : σ → α → Option σ) (ok : σ → α → Prop) [∀ s a, Decidable (ok s a)] (s : σ)
    (as : List α) : Decidable (Meets step ok s as) := decideMeets step ok s as

variable {step : σ → α → Option σ} {ok : σ → α → Prop} {P Q : σ → Prop}

theorem always_of_step (hstep : ∀ s a t, P s → ok s a → step s a = some t → P t)
    {s : σ} (hs : P s) {as : List α} (hm : Meets step ok s as) : Always step P s as := by
  induction as generalizing s with
  | nil => exact hs
  | cons a as ih =>
      refine ⟨hs, ?_⟩
      rw [Meets] at hm
      split
      next => trivial
      next t ht =>
        simp only [ht] at hm
        exact ih (hstep s a t hs hm.1 ht) hm.2

theorem meets_of_forall (h : ∀ s a, ok s a) (s : σ) (as : List α) : Meets step ok s as := by
  induction as generalizing s with
  | nil => trivial
  | cons a as ih =>
      rw [Meets]
      split
      next => trivial
      next t _ => exact ⟨h s a, ih t⟩

theorem always_of_invariant (hstep : ∀ s a t, P s → step s a = some t → P t) {s : σ} (hs : P s)
    (as : List α) : Always step P s as := by
  have hgood : ∀ s a t, P s → True → step s a = some t → P t := fun s a t hs _ => hstep s a t hs
  exact always_of_step hgood hs (meets_of_forall (fun _ _ => trivial) s as)

theorem Always.head {s : σ} {as : List α} (h : Always step P s as) : P s := by
  cases as with
  | nil => exact h
  | cons a as => exact h.1

theorem Always.mono (hPQ : ∀ s, P s → Q s) {s : σ} {as : List α} (h : Always step P s as) :
    Always step Q s as := by
  induction as generalizing s with
  | nil => exact hPQ s h
  | cons a as ih =>
      refine ⟨hPQ s h.1, ?_⟩
      have ht := h.2
      split
      next => trivial
      next t hst => simp only [hst] at ht; exact ih ht

theorem Always.and {s : σ} {as : List α} (hP : Always step P s as) (hQ : Always step Q s as) :
    Always step (fun s => P s ∧ Q s) s as := by
  induction as generalizing s with
  | nil => exact ⟨hP, hQ⟩
  | cons a as ih =>
      refine ⟨⟨hP.1, hQ.1⟩, ?_⟩
      have hPt := hP.2
      have hQt := hQ.2
      split
      next => trivial
      next t hst =>
        simp only [hst] at hPt hQt
        exact ih hPt hQt

theorem meets_of_always {I : σ → Prop} (hI : ∀ s a t, I s → step s a = some t → P t → I t)
    (hbad : ∀ s a t, I s → step s a = some t → P t → ok s a)
    {s : σ} (hs : I s) {as : List α} (h : Always step P s as) : Meets step ok s as := by
  induction as generalizing s with
  | nil => trivial
  | cons a as ih =>
      rw [Meets]
      have ht := h.2
      split
      next => trivial
      next t hst =>
        simp only [hst] at ht
        exact ⟨hbad s a t hs hst ht.head, ih (hI s a t hs hst ht.head) ht⟩

theorem Meets.and {ok' : σ → α → Prop} {s : σ} {as : List α} (h : Meets step ok s as)
    (h' : Meets step ok' s as) : Meets step (fun s a => ok s a ∧ ok' s a) s as := by
  induction as generalizing s with
  | nil => trivial
  | cons a as ih =>
      rw [Meets] at h h' ⊢
      split
      next => trivial
      next t hst =>
        simp only [hst] at h h'
        exact ⟨⟨h.1, h'.1⟩, ih h.2 h'.2⟩

theorem Meets.and_mem {Q : α → Prop} {s : σ} {as : List α} (hQ : ∀ a ∈ as, Q a)
    (h : Meets step ok s as) : Meets step (fun s a => Q a ∧ ok s a) s as := by
  induction as generalizing s with
  | nil => trivial
  | cons a as ih =>
      rw [Meets] at h ⊢
      split
      next => trivial
      next t hst =>
        simp only [hst] at h
        exact ⟨⟨hQ a List.mem_cons_self, h.1⟩, ih (fun b hb => hQ b (List.mem_cons_of_mem _ hb)) h.2⟩

theorem Always.of_run {s t : σ} {as : List α} (h : Always step P s as)
    (hr : run step s as = some t) : P t := by
  induction as generalizing s with
  | nil => simp only [run, Option.some.injEq] at hr; exact hr ▸ h
  | cons a as ih =>
      rw [run] at hr
      have ht := h.2
      split at hr
      next => simp at hr
      next u hu => simp only [hu] at ht; exact ih ht hr

theorem meets_of_step {R : σ → α → Prop}
    (hstep : ∀ s a t, P s → ok s a → step s a = some t → P t ∧ R s a)
    {s : σ} (hs : P s) {as : List α} (hm : Meets step ok s as) : Meets step R s as := by
  induction as generalizing s with
  | nil => trivial
  | cons a as ih =>
      rw [Meets] at hm ⊢
      split
      next => trivial
      next t ht =>
        simp only [ht] at hm
        obtain ⟨hpt, hr⟩ := hstep s a t hs hm.1 ht
        exact ⟨hr, ih hpt hm.2⟩

theorem run_append_of_run {s t : σ} {as bs : List α} (h : run step s as = some t) :
    run step s (as ++ bs) = run step t bs := by
  induction as generalizing s with
  | nil => cases h; rfl
  | cons a as ih =>
      rw [run] at h
      rw [List.cons_append, run]
      split at h
      next => cases h
      next v _ => exact ih h

theorem Meets.of_run {s t u : σ} {as : List α} {a : α} (h : Meets step ok s (as ++ [a]))
    (hr : run step s as = some t) (ha : step t a = some u) : ok t a := by
  induction as generalizing s with
  | nil =>
      cases hr
      simp only [List.nil_append, Meets, ha] at h
      exact h.1
  | cons b as ih =>
      rw [run] at hr
      rw [List.cons_append, Meets] at h
      split at hr
      next => cases hr
      next v hv =>
        simp only [hv] at h
        exact ih h.2 hr

variable {η : Type}

def observe (step : σ → α → Option σ) (see : η → σ → α → η) (x : σ × η) (a : α) :
    Option (σ × η) :=
  (step x.1 a).map fun t => (t, see x.2 x.1 a)

theorem observe_some {see : η → σ → α → η} {x y : σ × η} {a : α}
    (h : observe step see x a = some y) : step x.1 a = some y.1 ∧ y.2 = see x.2 x.1 a := by
  rw [observe, Option.map_eq_some_iff] at h
  obtain ⟨t, ht, rfl⟩ := h
  exact ⟨ht, rfl⟩

end WirelessEsp.Transition
