import WirelessEsp.WifiSections

namespace WirelessEsp.WifiManager

open TaskKernel Transition LockOwner

structure Sealed (s : System) : Prop where
  flag : s.memory.ctx.needUnlock = 0
  points : ∀ t p, s.tasks t = some p → p.unlocks = false

section Sealed

variable {s s' : System} {t : TaskId} {answer : Nat}

theorem tryConnectDone_sealed (hflag : s.memory.ctx.needUnlock = 0) (event : Address)
    (p : TryConnectDone) (h : p.unlocks = false) :
    leads TryConnectDone.unlocks (fun _ => false) ((tryConnectDone event p).next
      (exec manager s t answer (tryConnectDone event p).op).2) = false := by
  cases p with
  | event | notify => rfl
  | check =>
      show leads _ _ (if s.memory.ctx.needUnlock.toNat ≠ 0 then _ else _) = false
      rw [hflag]
      rfl
  | unlock | give => cases h

theorem eventOnConnected_sealed (hflag : s.memory.ctx.needUnlock = 0) (event : Address)
    (p : OnConnected) (h : p.unlocks = false) :
    leads OnConnected.unlocks (fun _ => false) ((eventOnConnected event p).next
      (exec manager s t answer (eventOnConnected event p).op).2) = false := by
  cases p with
  | check => exact leads_if rfl rfl
  | done p => exact (leads_within _ _ _ _ _).trans (tryConnectDone_sealed hflag event p h)
  | clear => rfl

theorem reconnectAfterDisco_sealed (hflag : s.memory.ctx.needUnlock = 0) (p : AfterDisco)
    (h : p.unlocks = false) :
    leads AfterDisco.unlocks (fun _ => false) ((reconnectAfterDisco p).next
      (exec manager s t answer (reconnectAfterDisco p).op).2) = false := by
  cases p with
  | flag | zero | decrement | clear => rfl
  | attempt | connect | callback => exact leads_if rfl rfl
  | done p => exact (leads_within _ _ _ _ _).trans (tryConnectDone_sealed hflag 0 p h)
  | handler p => exact (leads_within _ _ _ _ _).trans (leads_const _)

theorem code_sealed (hflag : s.memory.ctx.needUnlock = 0) {p : Pc} {i : Code Pc}
    (h : p.unlocks = false) (hi : code p = some i) :
    leads Pc.unlocks (fun _ => (back p).any Pc.unlocks)
      (i.next (exec manager s t answer i.op).2) = false := by
  cases p with
  | caller | eventLoop => cases hi
  | staConnected => cases hi; rfl
  | staDisconnected p =>
      cases hi
      exact (leads_within _ _ _ _ _).trans (reconnectAfterDisco_sealed hflag p h)
  | gotIp event p =>
      cases hi
      exact (leads_within _ _ _ _ _).trans (eventOnConnected_sealed hflag event p h)
  | getScanList number aps p | connect p | changeMode mode p | disconnect p
  | scanDone status number p | main p | delayedStop p | delayedStart p | reconnection p =>
      cases hi
      exact (leads_within _ _ _ _ _).trans (leads_const _)

theorem accepts_sealed {p q : Pc} (h : accepts p q = true) : q.unlocks = false := by
  unfold accepts at h
  split at h <;> first | rfl | cases h

theorem sealed_step {a : Action Pc} (h : Sealed s) (hstep : step manager s a = some s') :
    Sealed s' := by
  refine ⟨?_, ?_⟩
  · cases a with
    | run t answer =>
        obtain ⟨p, i, hrun⟩ := step_run hstep
        refine (congrArg Shared.needUnlock (shared_run hrun)).trans ?_
        cases p.act with
        | lockFlag => rfl
        | nothing | word a | station connected | createStop | forgetStop | announce | delete =>
            exact h.flag
    | call t point =>
        obtain ⟨p, hcall⟩ := step_call hstep
        exact (congrArg Shared.needUnlock (shared_call hcall)).trans h.flag
  · apply points_step hstep h.points
    · intro t answer p i q _ hrun hq
      exact not_there (code_sealed h.flag (h.points t p hrun.point) hrun.instr) hq
    · intro e
      cases e <;> rfl
    · intro t p q _ haccepts
      exact accepts_sealed haccepts

end Sealed

theorem boot_guarded (b : Boot) : Guarded Pc.inside (b.system, none) := by
  refine ⟨boot_fresh b, rfl, ?_⟩
  intro t p hp hin
  rcases boot_task hp with rfl | rfl | rfl <;> cases hin

theorem boot_sealed (b : Boot) : Sealed b.system := by
  refine ⟨rfl, ?_⟩
  intro t p hp
  rcases boot_task hp with rfl | rfl | rfl <;> rfl

theorem accepts_outside {p q : Pc} (h : accepts p q = true) : q.inside = false := by
  unfold accepts at h
  split at h <;> first | rfl | cases h

/-- At most one activity is in its locked section, and the lock is given by its owner only. -/
def LockDiscipline (b : Boot) (as : List (Action Pc)) : Prop :=
  Always ownedStep (fun x => Exclusive Pc.inside x.1) (b.system, none) as ∧
    Meets ownedStep (GivenByOwner manager) (b.system, none) as

theorem owned_step {x y : Owned} {a : Action Pc} (h : Guarded Pc.inside x ∧ Sealed x.1)
    (hok : Disciplined x a) (hstep : ownedStep x a = some y) :
    (Guarded Pc.inside y ∧ Sealed y.1) ∧ GivenByOwner manager x a := by
  obtain ⟨hguarded, hsealed⟩ := h
  have hnew : Sealed y.1 := sealed_step hsealed (observe_some hstep).1
  have hboth := guarded_step hguarded (fun t answer p i ha hp hi =>
    code_lawful hguarded (hsealed.points t p hp) (ha ▸ hok) hp hi)
    (fun p q => accepts_outside) hstep
  exact ⟨⟨hboth.1, hnew⟩, hboth.2⟩

theorem lockDiscipline_of_disciplined (b : Boot) {as : List (Action Pc)}
    (h : Meets ownedStep Disciplined (b.system, none) as) : LockDiscipline b as := by
  have hboot := And.intro (boot_guarded b) (boot_sealed b)
  constructor
  · have hall := always_of_step (fun x a y hx hok hstep => (owned_step hx hok hstep).1) hboot h
    exact hall.mono fun x hx => hx.1.exclusive
  · exact meets_of_step (fun x a y hx hok hstep => owned_step hx hok hstep) hboot h

/-- The first attempt fails, and the start task takes the lock in the pause after it. -/
theorem lockDiscipline_pause : LockDiscipline ⟨none, true, 0⟩
    (turns 1 9 0 ++ turns 3 11 0 ++ turns 2 4 0) := by
  apply lockDiscipline_of_disciplined
  decide

/-- The start task waits for the lock in vain while the reconnection task has it. -/
theorem not_lockDiscipline_timeout :
    ¬ LockDiscipline ⟨none, true, 0⟩ (turns 1 9 0 ++ turns 2 3 0) := by
  rintro ⟨hexclusive, -⟩
  obtain ⟨y, hy, hstart, hreconnection⟩ : ∃ y,
      run ownedStep ((Boot.mk none true 0).system, none) (turns 1 9 0 ++ turns 2 3 0) = some y ∧
      y.1.tasks 2 = some (.delayedStart .check) ∧
      y.1.tasks 3 = some (.reconnection .endless) :=
    ⟨_, rfl, rfl, rfl⟩
  cases hexclusive.of_run hy 2 3 _ _ hstart hreconnection rfl rfl

end WirelessEsp.WifiManager
