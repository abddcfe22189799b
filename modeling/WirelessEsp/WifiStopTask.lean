import WirelessEsp.WifiStopPoints

namespace WirelessEsp.WifiManager

open TaskKernel Transition

/-- A pending stop task has not lost its station, or is about to be notified. -/
structure Kept (x : Lost) : Prop where
  fresh : Fresh x.1
  pending : ∀ u, pending x.1 u = true →
    (x.1.memory.ctx.isStaConnected = true ∧ x.2 u = false) ∨ Summoned x.1 u

section Step

variable {x y : Lost} {s s' : System} {t u : TaskId} {answer : Nat} {p q : Pc} {i : Code Pc}

theorem pending_at (hq : s.tasks u = some q) : pending s u = q.pending (s.notified u) := by
  rw [pending, hq]
  rfl

theorem waiting_at (hq : s.tasks u = some q) : waiting s u = q.waiting := by
  rw [waiting, hq]
  rfl

theorem announcing_at (hq : s.tasks u = some q) : announcing s u = q.announces := by
  rw [announcing, hq]
  rfl

theorem exists_task {f : Pc → Bool} (h : (s.tasks u).any f = true) :
    ∃ q, s.tasks u = some q ∧ f q = true := by
  cases hq : s.tasks u with
  | none =>
      rw [hq] at h
      cases h
  | some q =>
      rw [hq] at h
      exact ⟨q, rfl, h⟩

theorem station_kept (act : Act) (m : Shared) (lost : Losses) (fresh u : TaskId)
    (hact : act ≠ .station false) (h : m.isStaConnected = true ∧ lost u = false) :
    (act.effect fresh m).isStaConnected = true ∧ lose lost fresh act u = false := by
  cases act with
  | station connected =>
      cases connected with
      | true => exact ⟨rfl, h.2⟩
      | false => exact absurd rfl hact
  | createStop =>
      refine ⟨h.1, ?_⟩
      by_cases hu : u = fresh
      · rw [hu]
        exact Function.update_self ..
      · exact (Function.update_of_ne hu _ _).trans h.2
  | nothing | word a | lockFlag | forgetStop | announce | delete => exact h

theorem lostStep_run (hrun : Runs manager x.1 t answer p i y.1)
    (hlost : y.2 = loseStep x.2 x.1 (.run t answer)) : y.2 = lose x.2 x.1.fresh p.act := by
  rw [hlost]
  simp only [loseStep, hrun.point]

theorem connected_run (hrun : Runs manager x.1 t answer p i y.1) :
    y.1.memory.ctx.isStaConnected =
      (p.act.effect x.1.fresh (shared x.1.memory)).isStaConnected :=
  congrArg Shared.isStaConnected (shared_run hrun)

theorem handle_run (hrun : Runs manager x.1 t answer p i y.1) :
    y.1.memory.ctx.delayedStopApTask =
      (p.act.effect x.1.fresh (shared x.1.memory)).delayedStopApTask :=
  congrArg Shared.delayedStopApTask (shared_run hrun)

theorem kept_self (h : Kept x) (hrun : Runs manager x.1 t answer p i y.1)
    (hlost : y.2 = lose x.2 x.1.fresh p.act)
    (hwait : p.waiting = true → x.1.notified t = 0 → ¬ Summoned x.1 t)
    (hact : p.act.cancels x.1 t) (hp : pending y.1 t = true) :
    y.1.memory.ctx.isStaConnected = true ∧ y.2 t = false := by
  obtain ⟨q, hq, hpq⟩ := exists_task hp
  have hwas : p.pending (x.1.notified t) = true := by
    by_contra hnot
    have := not_there (code_pending (n := y.1.notified t)
      (Bool.eq_false_iff.mpr hnot) hrun.instr) (hrun.self hq).1
    rw [hpq] at this
    cases this
  have hpend : pending x.1 t = true := (pending_at hrun.point).trans hwas
  have hlt : t < x.1.fresh := h.fresh.lt hrun.point
  have hstation : x.1.memory.ctx.isStaConnected = true ∧ x.2 t = false := by
    apply (h.pending t hpend).resolve_right
    intro hsummoned
    have hw : p.waiting = true := (waiting_at hrun.point).symm.trans hsummoned.2.2.1
    rw [waiting_point hw] at hwas
    exact hwait hw (of_decide_eq_true hwas) hsummoned
  rw [connected_run hrun, hlost]
  apply station_kept _ _ _ _ _ _ hstation
  intro hflag
  rw [hflag] at hact
  have hw : p.waiting = true := (waiting_at hrun.point).symm.trans (hact t hlt hpend).1
  rw [waiting_point hw] at hflag
  cases hflag

theorem pending_other (h : Kept x) (hrun : Runs manager x.1 t answer p i y.1) (hu : u ≠ t)
    (hold : x.1.tasks u = some q) (hnew : y.1.tasks u = some q) (hp : pending y.1 u = true) :
    pending x.1 u = true := by
  rw [pending_at hnew] at hp
  rw [pending_at hold]
  exact pending_mono (hrun.notified h.fresh hu hold) hp

theorem announces_notifies (ha : p.announces = true) (hrun : Runs manager s t answer p i s')
    (hhandle : s.memory.ctx.delayedStopApTask = some u) : s'.notified u = s.notified u + 1 := by
  have hdoes := code_does hrun.instr
  have hact : p.act = .announce := by
    unfold Pc.announces at ha
    split at ha
    next hact => exact hact
    next => cases ha
  rw [hact] at hdoes
  rw [hrun.result, after, resume_notified, show i.op = _ from hdoes]
  simp only [notify, exec, hhandle, State.notify, Function.update_self]

theorem announcing_other (h : Kept x) (hrun : Runs manager x.1 t answer p i y.1)
    (hact : p.act.cancels x.1 t) (hu : u < x.1.fresh) (hsummoned : Summoned x.1 u)
    {d : TaskId} (hd : d ≠ t) (hannounces : announcing x.1 d = true) :
    announcing y.1 d = true := by
  obtain ⟨r, hr, har⟩ := exists_task hannounces
  have hkept : y.1.tasks d = some r := by
    apply hrun.kept h.fresh hd hr
    intro handle hop heq
    have hdoes := code_does hrun.instr
    rw [hop] at hdoes
    obtain ⟨hdelete, rfl⟩ := does_delete hdoes
    rw [hdelete] at hact
    exact hact (heq ▸ hannounces) u hu hsummoned
  rw [announcing_at hkept]
  exact har

theorem summoned_other (h : Kept x) (hrun : Runs manager x.1 t answer p i y.1)
    (hact : p.act.cancels x.1 t) (hu : u ≠ t) (hold : x.1.tasks u = some q)
    (hnew : y.1.tasks u = some q) (hp : pending y.1 u = true) (hsummoned : Summoned x.1 u) :
    Summoned y.1 u := by
  have hlt : u < x.1.fresh := h.fresh.lt hold
  obtain ⟨hhandle, hpending, hwaiting, d, hdlt, hannounces⟩ := id hsummoned
  have hw : q.waiting = true := (waiting_at hold).symm.trans hwaiting
  by_cases hd : d = t
  · subst hd
    rw [announcing_at hrun.point] at hannounces
    have hnotified : y.1.notified u = x.1.notified u + 1 :=
      announces_notifies hannounces hrun hhandle
    rw [pending_at hnew, waiting_point hw, hnotified] at hp
    exact absurd (show x.1.notified u + 1 = 0 from of_decide_eq_true hp) (Nat.succ_ne_zero _)
  · refine ⟨?_, hp, (waiting_at hnew).trans hw, d, Nat.lt_of_lt_of_le hdlt hrun.fresh_le,
      announcing_other h hrun hact hlt hsummoned hd hannounces⟩
    rw [handle_run hrun]
    revert hact
    cases p.act with
    | createStop => exact fun hact => absurd hsummoned (hact.2 u hlt)
    | forgetStop => exact fun hact => absurd hsummoned (hact u hlt)
    | nothing | word a | lockFlag | station connected | announce | delete =>
        exact fun _ => hhandle

theorem summoned_flag (h : Kept x) (hrun : Runs manager x.1 t answer p i y.1)
    (hflag : p.act = .station false) (hhandle : x.1.memory.ctx.delayedStopApTask = some u)
    (hp : pending y.1 u = true) (hw : waiting y.1 u = true) : Summoned y.1 u := by
  have hdoes := code_does hrun.instr
  rw [hflag] at hdoes
  have halive : ((exec manager x.1 t answer i.op).1.tasks t).isSome := by
    rw [show i.op = _ from hdoes]
    exact Option.isSome_of_eq_some hrun.point
  obtain ⟨q, hq, hannounces⟩ :=
    code_flag hflag hrun.instr (exec manager x.1 t answer i.op).2
  refine ⟨?_, hp, hw, t, Nat.lt_of_lt_of_le (h.fresh.lt hrun.point) hrun.fresh_le, ?_⟩
  · rw [handle_run hrun, hflag]
    exact hhandle
  · rw [announcing_at ((hrun.next halive).trans hq)]
    exact hannounces

theorem kept_other (h : Kept x) (hrun : Runs manager x.1 t answer p i y.1)
    (hlost : y.2 = lose x.2 x.1.fresh p.act) (hact : p.act.cancels x.1 t) (hu : u ≠ t)
    (hold : x.1.tasks u = some q) (hnew : y.1.tasks u = some q) (hp : pending y.1 u = true) :
    (y.1.memory.ctx.isStaConnected = true ∧ y.2 u = false) ∨ Summoned y.1 u := by
  have hpend := pending_other h hrun hu hold hnew hp
  rcases h.pending u hpend with hstation | hsummoned
  · by_cases hflag : p.act = .station false
    · rw [hflag] at hact
      obtain ⟨hw, hhandle⟩ := hact u (h.fresh.lt hold) hpend
      rw [waiting_at hold, ← waiting_at hnew] at hw
      exact .inr (summoned_flag h hrun hflag hhandle hp hw)
    · rw [connected_run hrun, hlost]
      exact .inl (station_kept _ _ _ _ _ hflag hstation)
  · exact .inr (summoned_other h hrun hact hu hold hnew hp hsummoned)

theorem kept_new (hrun : Runs manager x.1 t answer p i y.1)
    (hlost : y.2 = lose x.2 x.1.fresh p.act) (hact : p.act.cancels x.1 t) {e : Entry}
    (he : i.op.entry = some e) (hnew : y.1.tasks x.1.fresh = some (entryPoint e))
    (hp : pending y.1 x.1.fresh = true) :
    y.1.memory.ctx.isStaConnected = true ∧ y.2 x.1.fresh = false := by
  rw [pending_at hnew] at hp
  have hstop : e = .delayedSetApStop := by
    cases e with
    | delayedSetApStop => rfl
    | _ => cases hp
  have hcreate := does_createStop (code_does hrun.instr) (hstop ▸ he)
  rw [hcreate] at hact
  rw [connected_run hrun, hlost, hcreate]
  exact ⟨hact.1, Function.update_self ..⟩

theorem kept_call {point : Pc} (h : Kept x) (hcall : Calls manager x.1 t p point y.1)
    (hlost : y.2 = x.2) (hfresh : Fresh y.1) : Kept y := by
  refine ⟨hfresh, ?_⟩
  intro u hp
  have hshared := shared_call hcall
  have hnotified : y.1.notified = x.1.notified := by rw [hcall.result]
  by_cases hu : u = t
  · obtain ⟨q, hq, hpq⟩ := exists_task hp
    rw [hu] at hq
    rw [hcall.self hq, (accepts_quiet hcall.accepts _).2] at hpq
    cases hpq
  · have hsame := hcall.other hu
    have hpend : pending x.1 u = true := by
      rw [pending, ← hsame, ← hnotified]
      exact hp
    rcases h.pending u hpend with ⟨hconnected, hkept⟩ | ⟨hhandle, -, hwaiting, d, hd, hannounces⟩
    · rw [hlost]
      exact .inl ⟨(congrArg Shared.isStaConnected hshared).trans hconnected, hkept⟩
    · have hne : d ≠ t := by
        rintro rfl
        rw [announcing_at hcall.waits, (accepts_quiet hcall.accepts 0).1] at hannounces
        cases hannounces
      refine .inr ⟨(congrArg Shared.delayedStopApTask hshared).trans hhandle, hp, ?_, d, ?_, ?_⟩
      · rw [waiting, hsame]
        exact hwaiting
      · rw [hcall.result]
        exact hd
      · rw [announcing, hcall.other hne]
        exact hannounces

theorem kept_step {a : Action Pc} (h : Kept x) (hok : Cancels x a)
    (hstep : lostStep x a = some y) : Kept y := by
  obtain ⟨hs, hlost⟩ := observe_some hstep
  have hfresh := step_fresh h.fresh hs
  cases a with
  | call t point =>
      obtain ⟨p, hcall⟩ := step_call hs
      exact kept_call h hcall hlost hfresh
  | run t answer =>
      obtain ⟨p, i, hrun⟩ := step_run hs
      have hlose := lostStep_run hrun hlost
      obtain ⟨hwait, hact⟩ := hok p hrun.point
      refine ⟨hfresh, ?_⟩
      intro u hp
      by_cases hu : u = t
      · subst hu
        exact .inl (kept_self h hrun hlose hwait hact hp)
      · obtain ⟨q, hq, -⟩ := exists_task hp
        rcases hrun.other hu hq with ⟨hold, -⟩ | ⟨e, store, hop, rfl, rfl⟩
        · exact kept_other h hrun hlose hact hu hold hq hp
        · exact .inl (kept_new hrun hlose hact (by rw [hop]; rfl) hq hp)

end Step

theorem Kept.stopsConnected {x : Lost} (h : Kept x) : StopsConnected x := by
  intro t p hp
  apply (h.pending t (pending_at hp)).resolve_right
  intro hsummoned
  have hw := hsummoned.2.2.1
  rw [waiting_at hp] at hw
  cases hw

def lossless : Losses := fun _ => false

theorem boot_kept (b : Boot) : Kept (b.system, lossless) := by
  refine ⟨boot_fresh b, ?_⟩
  intro t hp
  obtain ⟨p, hp, hpending⟩ := exists_task hp
  rcases boot_task hp with rfl | rfl | rfl <;> cases hpending

/-- The station comes and a stop task waits, task 4. -/
def connects : List (Action Pc) :=
  turns 1 9 0 ++ turns 3 7 0 ++ [.call 0 (.gotIp 1 .check)] ++ turns 0 5 0 ++ turns 3 9 0

/-- The wait of the stop task times out, the station goes, and the task takes the lock. -/
def lateStop : List (Action Pc) :=
  connects ++ turns 4 1 0 ++ [.call 0 (.staDisconnected .flag)] ++ turns 0 5 0 ++ turns 4 1 0

end WirelessEsp.WifiManager
