import WirelessEsp.SessionSteps

namespace WirelessEsp.DapSessions

open Transition DapProxy

variable {s t : State}

theorem step_inv {a : Act} (hi : Inv s) (hok : RingsReady s a) (h : step s a = some t) : Inv t := by
  obtain ⟨hnofault, h'⟩ := step_some h
  have hidle := @Inv.tcpIdle s t hi
  cases a with
  | connect tr =>
      simp only [enabledStep, Option.ite_none_right_eq_some, Option.some.injEq] at h'
      exact h'.2 ▸ connect_inv hi h'.1 tr
  | command c =>
      rw [enabledStep, commandStep] at h'
      split at h' <;> cases h'
      next => exact urbCommand_inv hi c
      all_goals
        exact hidle ⟨rfl, rfl, rfl, rfl, rfl, rfl, rfl, rfl⟩ rfl (fun _ => id) rfl (by simp) rfl
  | close =>
      rw [enabledStep, closeStep] at h'
      split at h' <;> cases h' <;>
        exact hidle ⟨rfl, rfl, rfl, rfl, rfl, rfl, rfl, rfl⟩ rfl (fun _ => id) rfl (by simp) rfl
  | timeout =>
      rw [enabledStep, timeoutStep] at h'
      split at h'
      next h'' hpc =>
        obtain ⟨heq, hsome⟩ := hi.outHandle h'' (by rw [hpc]; rfl)
        obtain ⟨r, hring, hl⟩ := lookup_ready heq hsome
        rw [hl] at h'
        simp only [Option.ite_none_right_eq_some, Option.some.injEq] at h'
        obtain ⟨_, rfl⟩ := h'
        exact hidle ⟨rfl, rfl, rfl, rfl, rfl, rfl, rfl, rfl⟩ rfl (fun _ => id) rfl (by simp) rfl
      next => cases h'
  | tcp => exact tcpStep_inv hi hok h'
  | dap => exact dapStep_inv hi h'

theorem boot_inv : Inv State.boot := by
  have hnone : ∀ p, ¬ Held State.boot p := by
    rintro p (hp | hp | hp) <;> cases hp
  exact ⟨⟨fun r hr => (by cases hr), fun r hr => (by cases hr), by simp [State.boot]⟩,
    fun h => absurd h Bool.false_ne_true, fun h => absurd h Bool.false_ne_true,
    fun h => absurd rfl h, fun _ p hp => absurd hp (hnone p), fun h => absurd h Bool.false_ne_true,
    fun h htcp => (by cases htcp), fun h htcp => (by cases htcp), fun i htcp => (by cases htcp),
    Nat.le_refl _, fun _ => rfl, fun _ => ⟨rfl, rfl⟩⟩

/-- Sessions stay apart in every run in which the ring operations wait for the
reset of the session before. -/
theorem sessionSafe_always {as : List Act} (hm : Meets step RingsReady State.boot as) :
    Always step SessionSafe State.boot as :=
  (always_of_step (P := Inv) (fun _ _ _ hi hok h => step_inv hi hok h) boot_inv hm).mono
    fun _ hi => hi.toSessionSafe

/-- Two sessions with a request each, the second one after the reset. -/
theorem sessionSafe_two_sessions :
    Always step SessionSafe State.boot
      [.dap, .dap, .connect .usbip, .command .outSubmit, .tcp, .tcp, .tcp, .close, .tcp, .tcp,
        .dap, .dap, .dap, .dap, .dap, .dap, .dap, .dap, .dap, .dap, .dap, .dap, .dap,
        .connect .usbip, .command .outSubmit, .tcp, .tcp, .tcp, .dap, .dap, .dap, .dap, .dap, .dap,
        .dap, .dap, .command .inSubmit, .tcp, .tcp, .tcp, .tcp, .tcp, .tcp] :=
  sessionSafe_always (by decide)

/-- The second session submits a request and asks for a response while the
request of the first one is still in progress. -/
def overtaken : List Act :=
  [.dap, .dap, .connect .usbip, .command .outSubmit, .tcp, .tcp, .tcp, .dap, .dap, .dap, .close,
    .tcp, .tcp, .connect .usbip, .command .outSubmit, .tcp, .tcp, .tcp, .dap, .dap, .dap, .dap,
    .command .inSubmit, .tcp, .tcp, .tcp]

theorem not_sessionSafe_overtaken : ¬ ∀ as, Always step SessionSafe State.boot as := by
  intro h
  have hend := (h overtaken).of_run rfl
  exact absurd (hend.replies _ List.mem_cons_self) (by decide)

end WirelessEsp.DapSessions
