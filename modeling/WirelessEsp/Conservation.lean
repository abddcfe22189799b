import Mathlib.Algebra.BigOperators.Fin
import WirelessEsp.Programs

namespace WirelessEsp.Programs

open Function (update)

variable {ω : Type} {Ans : ω → Type} {κ T Q π W φ A : Type} [AddCommMonoid A]

def State.total (s : State ω Ans κ T Q π W φ) (f : Event ω Ans κ → A) : A :=
  ∑ r ∈ Finset.range s.made, ((s.trace r).map f).sum

/-- What the shared state loses is what the events take from it and do not return. -/
structure Balanced (M : Machine ω Ans κ T Q π W φ) (worth : π → A) (takes gives : Event ω Ans κ → A) :
    Prop where
  answer : ∀ w p o a p', M.answer w p o = some (a, p') →
    worth p' + takes (.did o a) = worth p + gives (.did o a)
  gave : ∀ item taken, takes (.gave item taken) = gives (.gave item taken)

variable {s s' : State ω Ans κ T Q π W φ} {f : Event ω Ans κ → A}

theorem total_start [DecidableEq T] (M : Machine ω Ans κ T Q π W φ) (w : W) (x : φ) :
    (s.start M w x).total f = s.total f := by
  have hold : ∀ r ∈ Finset.range s.made, ((update s.trace s.made [] r).map f).sum =
      ((s.trace r).map f).sum := by
    intro r hr
    rw [Function.update_of_ne (Finset.mem_range.mp hr).ne]
  calc (s.start M w x).total f
      = ∑ r ∈ Finset.range (s.made + 1), ((update s.trace s.made [] r).map f).sum := rfl
    _ = ∑ r ∈ Finset.range s.made, ((update s.trace s.made [] r).map f).sum +
          ((update s.trace s.made [] s.made).map f).sum := Finset.sum_range_succ _ _
    _ = s.total f := by
      rw [Function.update_self, List.map_nil, List.sum_nil, add_zero, Finset.sum_congr rfl hold]
      rfl

theorem total_happens {r : Nat} (hr : r < s.made) (e : Event ω Ans κ) (code : Code ω Ans κ Unit) :
    (s.happens r e code).total f = s.total f + f e := by
  have hmem : r ∈ Finset.range s.made := Finset.mem_range.mpr hr
  have hnew : ∀ k ∈ Finset.range s.made, ((update s.trace r (s.trace r ++ [e]) k).map f).sum =
      ((s.trace k).map f).sum + if k = r then f e else 0 := by
    intro k _
    by_cases heq : k = r
    · rw [heq, Function.update_self, if_pos rfl, List.map_append, List.sum_append, List.map_singleton,
        List.sum_singleton]
    · rw [Function.update_of_ne heq, if_neg heq, add_zero]
  calc (s.happens r e code).total f
      = ∑ k ∈ Finset.range s.made, ((update s.trace r (s.trace r ++ [e]) k).map f).sum := rfl
    _ = ∑ k ∈ Finset.range s.made, (((s.trace k).map f).sum + if k = r then f e else 0) :=
      Finset.sum_congr rfl hnew
    _ = s.total f + f e := by
      rw [Finset.sum_add_distrib, Finset.sum_ite_eq' _ _ _, if_pos hmem]
      rfl

variable [DecidableEq T] [DecidableEq Q] {M : Machine ω Ans κ T Q π W φ} {worth : π → A}
  {takes gives : Event ω Ans κ → A}

/-- The accounts agree: what the shared state had at first, and what has been returned to it since,
is what it has and what has been taken from it. -/
def State.Accounts (worth : π → A) (takes gives : Event ω Ans κ → A) (had : A)
    (s : State ω Ans κ T Q π W φ) : Prop :=
  worth s.shared + s.total takes = had + s.total gives

theorem Does.accounts (hM : Balanced M worth takes gives) (htraced : Traced M s) {had : A}
    (h : s.Accounts worth takes gives had) (hdoes : Does M s s') :
    s'.Accounts worth takes gives had := by
  cases hdoes with
  | start w x hidle =>
      rw [State.Accounts, total_start, total_start]
      exact h
  | receive hidle hq => exact h
  | ret hrun hrest => exact h
  | @did t r o next a p hrun hrest hanswer =>
      have hr := htraced.running t r hrun
      have htakes := total_happens (f := takes) hr (.did o a) (next a)
      have hgives := total_happens (f := gives) hr (.did o a) (next a)
      calc worth p + (s.happens r (.did o a) (next a)).total takes
          = (worth p + takes (.did o a)) + s.total takes := by
            rw [htakes, add_comm (s.total takes), add_assoc]
        _ = (worth s.shared + s.total takes) + gives (.did o a) := by
            rw [hM.answer _ _ _ _ _ hanswer, add_right_comm]
        _ = had + (s.happens r (.did o a) (next a)).total gives := by
            rw [h, hgives, add_assoc]
  | @taken t r item refused hrun hrest =>
      have hr := htraced.running t r hrun
      have htakes := total_happens (f := takes) hr (.gave item true) (M.consume item)
      have hgives := total_happens (f := gives) hr (.gave item true) (M.consume item)
      calc worth s.shared + (s.happens r (.gave item true) (M.consume item)).total takes
          = (worth s.shared + s.total takes) + takes (.gave item true) := by rw [htakes, add_assoc]
        _ = had + (s.happens r (.gave item true) (M.consume item)).total gives := by
            rw [h, hgives, hM.gave, add_assoc]
  | @refused t r item refused hrun hrest =>
      have hr := htraced.running t r hrun
      have htakes := total_happens (f := takes) hr (.gave item false) refused
      have hgives := total_happens (f := gives) hr (.gave item false) refused
      calc worth s.shared + (s.happens r (.gave item false) refused).total takes
          = (worth s.shared + s.total takes) + takes (.gave item false) := by
            rw [htakes, add_assoc]
        _ = had + (s.happens r (.gave item false) refused).total gives := by
            rw [h, hgives, hM.gave, add_assoc]

theorem step_accounts (hM : Balanced M worth takes gives) {had : A} {a : Action T Q W φ}
    (h : Traced M s ∧ s.Accounts worth takes gives had) (hstep : step M s a = some s') :
    Traced M s' ∧ s'.Accounts worth takes gives had :=
  ⟨step_traced h.1 hstep, (does_of_step hstep).accounts hM h.1 h.2⟩

end WirelessEsp.Programs
