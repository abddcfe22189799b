import WirelessEsp.WifiStores

namespace WirelessEsp.WifiManager

open Function (update)
open TaskKernel Transition

inductive Mark
  | nothing
  | trigger
  | gotIp (event : Address)
  | failed
  | records (aps : Address)

def TriggerConnect.mark : TriggerConnect → Mark
  | .disconnect | .connect => .trigger
  | _ => .nothing

def Pc.mark : Pc → Mark
  | .connect (.trigger p) => p.mark
  | .reconnection (.trigger _ p) => p.mark
  | .gotIp event (.done .event) => .gotIp event
  | .staDisconnected (.done .event) => .failed
  | .getScanList _ aps (.records _) => .records aps
  | _ => .nothing

def Mark.word (old : Address) : Mark → Address
  | .gotIp event => event
  | .failed => 0
  | .records aps => aps
  | _ => old

/-- For each task since its last trigger: whether the last store to the word was one of
`try_connect_done`, and whether an IP event was delivered to `try_connect_done`. -/
structure Hearing where
  answered : TaskId → Bool
  gotIp : TaskId → Bool

def Hearing.hear (h : Hearing) (t : TaskId) : Mark → Hearing
  | .nothing => h
  | .trigger => ⟨update h.answered t false, update h.gotIp t false⟩
  | .gotIp _ => ⟨fun _ => true, fun _ => true⟩
  | .failed => ⟨fun _ => true, h.gotIp⟩
  | .records _ => ⟨fun _ => false, h.gotIp⟩

def hearStep (h : Hearing) (s : System) : Action Pc → Hearing
  | .run t _ => match s.tasks t with
      | some p => h.hear t p.mark
      | none => h
  | .call _ _ => h

abbrev Heard := System × Hearing

def heardStep : Heard → Action Pc → Option Heard := observe (step manager) hearStep

def unheard : Hearing := ⟨fun _ => false, fun _ => false⟩

def Connect.succeeded : Connect → Bool
  | .connected _ | .save => true
  | _ => false

def Reconnection.succeeded : Reconnection → Bool
  | .connected _ => true
  | _ => false

def Pc.succeeded : Pc → Bool
  | .connect p => p.succeeded
  | .reconnection p => p.succeeded
  | _ => false

def Pc.decides : Pc → Bool
  | .connect .checkEvent | .reconnection .recheckEvent => true
  | _ => false

def Deserved (x : Heard) : Prop :=
  ∀ t p, x.1.tasks t = some p → p.succeeded = true → x.2.gotIp t = true

/-- An attempt is decided on an empty word, or on one that `try_connect_done` stored for it. -/
def Answered (x : Heard) : Action Pc → Prop
  | .run t _ => x.1.At t fun p => p.decides = true →
      x.1.memory.ctx.word = 0 ∨ x.2.answered t = true
  | .call _ _ => True

instance (x : Heard) : ∀ a, Decidable (Answered x a)
  | .run t _ => inferInstanceAs (Decidable (x.1.At t fun p => p.decides = true →
      x.1.memory.ctx.word = 0 ∨ x.2.answered t = true))
  | .call _ _ => isTrue trivial

section Word

variable (fresh : TaskId) (m : Shared)

theorem disconnected_word (p : Disconnected) : (p.act.effect fresh m).word = m.word := by
  cases p <;> rfl

theorem disconnHandler_word (p : DisconnHandler) : (p.act.effect fresh m).word = m.word := by
  cases p with
  | disconnected p => exact disconnected_word fresh m p
  | check | take | fast | create => rfl

theorem connected_word (p : Connected) : (p.act.effect fresh m).word = m.word := by
  cases p <;> rfl

theorem setWifiMode_word (p : SetWifiMode) : (p.act.effect fresh m).word = m.word := by
  cases p with
  | handler new p => exact disconnHandler_word fresh m p
  | start | flag old | permanent new | compare new | setMode new | checkSta new | give new
  | store new => rfl

theorem triggerConnect_word (p : TriggerConnect) : p.mark.word m.word = m.word := by
  cases p <;> rfl

theorem mark_word (p : Pc) : (p.act.effect fresh m).word = p.mark.word m.word := by
  cases p with
  | caller | eventLoop | staConnected | disconnect p | scanDone status number p => rfl
  | getScanList number aps p =>
      cases p with
      | handler err p => exact disconnHandler_word fresh m p
      | _ => rfl
  | connect p =>
      cases p with
      | handler p => exact disconnHandler_word fresh m p
      | connected p => exact connected_word fresh m p
      | trigger p => exact (triggerConnect_word m p).symm
      | _ => rfl
  | changeMode mode p =>
      cases p with
      | setMode p => exact setWifiMode_word fresh m p
      | _ => rfl
  | staDisconnected p =>
      cases p with
      | handler p => exact disconnHandler_word fresh m p
      | done p => cases p <;> rfl
      | _ => rfl
  | gotIp event p =>
      cases p with
      | done p => cases p <;> rfl
      | _ => rfl
  | main p => exact disconnHandler_word fresh m p
  | delayedStop p =>
      cases p with
      | setMode p => exact setWifiMode_word fresh m p
      | _ => rfl
  | delayedStart p =>
      cases p with
      | setMode p => exact setWifiMode_word fresh m p
      | _ => rfl
  | reconnection p =>
      cases p with
      | trigger attempt p => exact (triggerConnect_word m p).symm
      | connected p => exact connected_word fresh m p
      | _ => rfl

end Word

/-- A word that `try_connect_done` stored for a task is not `NULL` only after an IP event. -/
def Consistent (x : Heard) : Prop :=
  ∀ t, x.2.answered t = true → x.1.memory.ctx.word ≠ 0 → x.2.gotIp t = true

section Step

variable {x y : Heard} {s' : System} {t : TaskId} {answer : Nat} {p : Pc} {i : Code Pc}

theorem hear_consistent (h : Hearing) (t : TaskId) (mark : Mark) (word : Address)
    (hold : ∀ u, h.answered u = true → word ≠ 0 → h.gotIp u = true) (u : TaskId)
    (ha : (h.hear t mark).answered u = true) (hw : mark.word word ≠ 0) :
    (h.hear t mark).gotIp u = true := by
  cases mark with
  | nothing => exact hold u ha hw
  | trigger =>
      by_cases hu : u = t
      · subst hu
        simp only [Hearing.hear, Function.update_self] at ha
        cases ha
      · simp only [Hearing.hear, Function.update_of_ne hu] at ha ⊢
        exact hold u ha hw
  | gotIp event => rfl
  | failed => exact absurd rfl hw
  | records aps => cases ha

theorem hear_gotIp {h : Hearing} {t u : TaskId} {mark : Mark} (hg : h.gotIp u = true)
    (hmark : u ≠ t ∨ mark = .nothing) : (h.hear t mark).gotIp u = true := by
  cases mark with
  | trigger =>
      rcases hmark with hu | hmark
      · simp only [Hearing.hear, Function.update_of_ne hu]
        exact hg
      · cases hmark
  | gotIp event => rfl
  | nothing | failed | records aps => exact hg

theorem hearStep_run (h : Runs manager x.1 t answer p i s') :
    hearStep x.2 x.1 (.run t answer) = x.2.hear t p.mark := by
  simp only [hearStep, h.point]

theorem consistent_step {a : Action Pc} (h : Consistent x) (hstep : heardStep x a = some y) :
    Consistent y := by
  obtain ⟨hs, hh⟩ := observe_some hstep
  cases a with
  | run t answer =>
      obtain ⟨p, i, hrun⟩ := step_run hs
      rw [hearStep_run hrun] at hh
      have hword : y.1.memory.ctx.word = p.mark.word x.1.memory.ctx.word :=
        (congrArg Shared.word (shared_run hrun)).trans (mark_word _ _ p)
      intro u ha hw
      rw [hh] at ha ⊢
      rw [hword] at hw
      exact hear_consistent x.2 t p.mark _ h u ha hw
  | call t point =>
      obtain ⟨p, hcall⟩ := step_call hs
      have hword : y.1.memory.ctx.word = x.1.memory.ctx.word :=
        congrArg Shared.word (shared_call hcall)
      intro u ha hw
      rw [hh] at ha ⊢
      rw [hword] at hw
      exact h u ha hw

variable {s : System}

theorem connect_undecided (p : Connect) (h : p.succeeded = false)
    (hword : p = .checkEvent → s.memory.ctx.word = 0) :
    leads Connect.succeeded (fun _ => false) ((connect p).next
      (exec manager s t answer (connect p).op).2) = false := by
  cases p with
  | take | checkConnecting | credential => exact leads_if rfl rfl
  | delete | clearConnecting | config | self | auto | wait => rfl
  | trigger p => exact (leads_within _ _ _ _ _).trans (leads_const _)
  | give ret => exact leads_if rfl rfl
  | checkEvent =>
      show leads _ _ (if s.memory.ctx.word = 0 then _ else _) = false
      rw [if_pos (hword rfl)]
      rfl
  | handler p => exact (leads_within _ _ _ _ _).trans (leads_const _)
  | connected p | save => cases h

theorem reconnection_undecided (p : Reconnection) (h : p.succeeded = false)
    (hword : p = .recheckEvent → s.memory.ctx.word = 0) :
    leads Reconnection.succeeded (fun _ => false) ((reconnectionTask p).next
      (exec manager s t answer (reconnectionTask p).op).2) = false := by
  cases p with
  | endless | self | clearFast | wait | pause | delay | clearEndless | give => rfl
  | checkFast | checkEvent | checkAuto | retake => exact leads_if rfl rfl
  | trigger attempt p =>
      refine (leads_within _ _ _ _ _).trans (leads_false (fun _ => rfl) ?_ _)
      intro v
      exact leads_if rfl rfl
  | recheckEvent =>
      show leads _ _ (if s.memory.ctx.word ≠ 0 then _ else _) = false
      rw [if_neg (not_not.mpr (hword rfl))]
      rfl
  | connected p => cases h

theorem code_undecided (h : p.succeeded = false) (hi : code p = some i)
    (hword : p.decides = true → s.memory.ctx.word = 0) :
    leads Pc.succeeded (fun _ => (back p).any Pc.succeeded)
      (i.next (exec manager s t answer i.op).2) = false := by
  cases p with
  | caller | eventLoop => cases hi
  | staConnected => cases hi; rfl
  | connect p =>
      cases hi
      refine (leads_within _ _ _ _ _).trans (connect_undecided p h ?_)
      rintro rfl
      exact hword rfl
  | reconnection p =>
      cases hi
      refine (leads_within _ _ _ _ _).trans (reconnection_undecided p h ?_)
      rintro rfl
      exact hword rfl
  | getScanList number aps p | changeMode mode p | disconnect p | staDisconnected p
  | gotIp event p | scanDone status number p | main p | delayedStop p | delayedStart p =>
      cases hi
      exact (leads_within _ _ _ _ _).trans (leads_const _)

theorem decided_mark (h : p.succeeded = true ∨ p.decides = true) : p.mark = .nothing := by
  cases p with
  | connect p => cases p <;> first | rfl | (rcases h with h | h <;> cases h)
  | reconnection p => cases p <;> first | rfl | (rcases h with h | h <;> cases h)
  | caller | eventLoop | staConnected | disconnect p | scanDone status number p
  | getScanList number aps p | changeMode mode p | staDisconnected p | gotIp event p | main p
  | delayedStop p | delayedStart p => rcases h with h | h <;> cases h

theorem accepts_unsuccessful {p q : Pc} (h : accepts p q = true) : q.succeeded = false := by
  unfold accepts at h
  split at h <;> first | rfl | cases h

theorem gotIp_kept {a : Action Pc} {u : TaskId} {q : Pc} (hstep : heardStep x a = some y)
    (hq : x.1.tasks u = some q) (hmark : q.succeeded = true ∨ q.decides = true)
    (hg : x.2.gotIp u = true) : y.2.gotIp u = true := by
  obtain ⟨hs, hh⟩ := observe_some hstep
  rw [hh]
  cases a with
  | run t answer =>
      obtain ⟨p, i, hrun⟩ := step_run hs
      rw [hearStep_run hrun]
      apply hear_gotIp hg
      by_cases hu : u = t
      · subst hu
        rw [hrun.point] at hq
        cases hq
        exact .inr (decided_mark hmark)
      · exact .inl hu
  | call t point => exact hg

theorem deserved_step {a : Action Pc} (hc : Consistent x) (hd : Deserved x) (hok : Answered x a)
    (hstep : heardStep x a = some y) : Deserved y := by
  obtain ⟨hs, -⟩ := observe_some hstep
  apply points_step (Q := fun u q => q.succeeded = true → y.2.gotIp u = true) hs
  · intro u q hq hsucc
    exact gotIp_kept hstep hq (.inl hsucc) (hd u q hq hsucc)
  · rintro t answer p i q rfl hrun hq hsucc
    cases hp : p.succeeded with
    | true => exact gotIp_kept hstep hrun.point (.inl hp) (hd t p hrun.point hp)
    | false =>
        by_cases hword : p.decides = true → x.1.memory.ctx.word = 0
        · have hnot := not_there (code_undecided hp hrun.instr hword) hq
          rw [hsucc] at hnot
          cases hnot
        · rw [Classical.not_imp] at hword
          have hanswered := (hok p hrun.point hword.1).resolve_left hword.2
          exact gotIp_kept hstep hrun.point (.inr hword.1) (hc t hanswered hword.2)
  · intro e hsucc
    cases e <;> cases hsucc
  · intro t p q _ haccepts hsucc
    rw [accepts_unsuccessful haccepts] at hsucc
    cases hsucc

end Step

theorem boot_deserved (b : Boot) : Consistent (b.system, unheard) ∧ Deserved (b.system, unheard) := by
  constructor
  · intro t ha
    cases ha
  · intro t p hp hsucc
    rcases boot_task hp with rfl | rfl | rfl <;> cases hsucc

theorem deserved_of_answered (b : Boot) {as : List (Action Pc)}
    (h : Meets heardStep Answered (b.system, unheard) as) :
    Always heardStep Deserved (b.system, unheard) as := by
  have hall := always_of_step (P := fun x => Consistent x ∧ Deserved x)
    (fun x a y hx hok hstep => ⟨consistent_step hx.1 hstep, deserved_step hx.1 hx.2 hok hstep⟩)
    (boot_deserved b) h
  exact hall.mono fun x hx => hx.2

/-- A reconnection that is heard of: the IP event wakes the task, which then decides. -/
def reconnected : List (Action Pc) :=
  turns 1 9 0 ++ turns 3 7 0 ++ [.call 0 (.gotIp 1 .check)] ++ turns 0 5 0 ++ turns 3 4 0

theorem deserved_reconnected :
    Always heardStep Deserved ((Boot.mk none true 0).system, unheard) reconnected := by
  apply deserved_of_answered
  decide

/-- A scan whose first channel times out, its late result, and a connection of the same task. -/
def lateScan : List (Action Pc) :=
  [.call 2 (.getScanList 10 100 .take)] ++ turns 2 17 0 ++
  [.call 0 (.scanDone 0 1 .screen)] ++ turns 0 13 1 ++
  [.call 2 (.connect .take)] ++ turns 2 10 0

theorem not_deserved_lateScan :
    ¬ Always heardStep Deserved ((Boot.mk none false 1).system, unheard) lateScan := by
  intro h
  obtain ⟨y, hy, hp, hg⟩ : ∃ y, run heardStep ((Boot.mk none false 1).system, unheard) lateScan =
      some y ∧ y.1.tasks 2 = some (.connect (.connected .flag)) ∧ y.2.gotIp 2 = false :=
    ⟨_, rfl, rfl, rfl⟩
  have hheard := h.of_run hy 2 _ hp rfl
  rw [hg] at hheard
  cases hheard

end WirelessEsp.WifiManager
