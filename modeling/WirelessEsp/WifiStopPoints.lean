import WirelessEsp.WifiStores

namespace WirelessEsp.WifiManager

open Function (update)
open TaskKernel Transition

def DelayedStop.pending (notified : Nat) : DelayedStop → Bool
  | .wait => notified = 0
  | .take ret => ret = 0
  | .setMode _ => true
  | _ => false

def Pc.pending (notified : Nat) : Pc → Bool
  | .delayedStop p => p.pending notified
  | _ => false

/-- In the wait of `delayed_set_ap_stop`. -/
def Pc.waiting : Pc → Bool
  | .delayedStop .wait => true
  | _ => false

/-- In `handle_wifi_disconnected`, about to notify the stop task. -/
def Pc.announces (p : Pc) : Bool :=
  match p.act with
  | .announce => true
  | _ => false

def pending (s : System) (t : TaskId) : Bool := (s.tasks t).any (Pc.pending (s.notified t))

def waiting (s : System) (t : TaskId) : Bool := (s.tasks t).any Pc.waiting

def announcing (s : System) (t : TaskId) : Bool := (s.tasks t).any Pc.announces

def Summoned (s : System) (u : TaskId) : Prop :=
  s.memory.ctx.delayedStopApTask = some u ∧ pending s u = true ∧ waiting s u = true ∧
    ∃ d < s.fresh, announcing s d = true

abbrev Losses := TaskId → Bool

def lose (lost : Losses) (fresh : TaskId) : Act → Losses
  | .station false => fun _ => true
  | .createStop => update lost fresh false
  | _ => lost

def loseStep (lost : Losses) (s : System) : Action Pc → Losses
  | .run t _ => match s.tasks t with
      | some p => lose lost s.fresh p.act
      | none => lost
  | .call _ _ => lost

abbrev Lost := System × Losses

def lostStep : Lost → Action Pc → Option Lost := observe (step manager) loseStep

/-- A stop task in `set_wifi_mode` finds a station that has been connected since it was created. -/
def StopsConnected (x : Lost) : Prop :=
  ∀ t p, x.1.tasks t = some (.delayedStop (.setMode p)) →
    x.1.memory.ctx.isStaConnected = true ∧ x.2 t = false

def NoneSummoned (s : System) : Prop := ∀ u < s.fresh, ¬ Summoned s u

def AllReached (s : System) : Prop :=
  ∀ u < s.fresh, pending s u = true →
    waiting s u = true ∧ s.memory.ctx.delayedStopApTask = some u

/-- The station is lost while each pending stop task can be reached, a stop task is created while
the station is there, and nothing takes a summoned task out of reach. -/
def Act.cancels (s : System) (t : TaskId) : Act → Prop
  | .station false => AllReached s
  | .createStop => s.memory.ctx.isStaConnected = true ∧ NoneSummoned s
  | .forgetStop => NoneSummoned s
  | .delete => announcing s (s.named (fun m => m.ctx.task) t) = true → NoneSummoned s
  | _ => True

def Pc.cancels (s : System) (t : TaskId) (p : Pc) : Prop :=
  (p.waiting = true → s.notified t = 0 → ¬ Summoned s t) ∧ p.act.cancels s t

def Cancels (x : Lost) : Action Pc → Prop
  | .run t _ => x.1.At t fun p => p.cancels x.1 t
  | .call _ _ => True

instance (s : System) (u : TaskId) : Decidable (Summoned s u) :=
  inferInstanceAs (Decidable (_ ∧ _ ∧ _ ∧ ∃ d < s.fresh, announcing s d = true))

instance (s : System) : Decidable (NoneSummoned s) :=
  inferInstanceAs (Decidable (∀ u < s.fresh, ¬ Summoned s u))

instance (s : System) : Decidable (AllReached s) :=
  inferInstanceAs (Decidable (∀ u < s.fresh, pending s u = true →
    waiting s u = true ∧ s.memory.ctx.delayedStopApTask = some u))

instance (s : System) (t : TaskId) : ∀ act, Decidable (Act.cancels s t act)
  | .station false => inferInstanceAs (Decidable (AllReached s))
  | .createStop => inferInstanceAs (Decidable (_ = true ∧ NoneSummoned s))
  | .forgetStop => inferInstanceAs (Decidable (NoneSummoned s))
  | .delete => inferInstanceAs (Decidable (_ = true → NoneSummoned s))
  | .nothing | .word _ | .lockFlag | .station true | .announce => isTrue trivial

instance (s : System) (t : TaskId) (p : Pc) : Decidable (p.cancels s t) :=
  inferInstanceAs (Decidable ((_ = true → _ = 0 → ¬ Summoned s t) ∧ p.act.cancels s t))

instance (x : Lost) : ∀ a, Decidable (Cancels x a)
  | .run t _ => inferInstanceAs (Decidable (x.1.At t fun p => p.cancels x.1 t))
  | .call _ _ => isTrue trivial

section Points

variable {s s' : System} {t u : TaskId} {answer n : Nat} {p q : Pc} {i : Code Pc}

theorem delayedSetApStop_pending (p : DelayedStop) (h : p.pending (s.notified t) = false) :
    leads (DelayedStop.pending n) (fun _ => false) ((delayedSetApStop p).next
      (exec manager s t answer (delayedSetApStop p).op).2) = false := by
  cases p with
  | wait => exact h
  | take ret =>
      show leads _ _ (if ret = 0 then _ else _) = false
      rw [if_neg (of_decide_eq_false h)]
      rfl
  | setMode p => cases h
  | count | task | give => rfl

theorem code_pending (h : p.pending (s.notified t) = false) (hi : code p = some i) :
    leads (Pc.pending n) (fun _ => (back p).any (Pc.pending n))
      (i.next (exec manager s t answer i.op).2) = false := by
  cases p with
  | caller | eventLoop => cases hi
  | staConnected => cases hi; rfl
  | delayedStop p =>
      cases hi
      exact (leads_within _ _ _ _ _).trans (delayedSetApStop_pending p h)
  | getScanList number aps p | connect p | changeMode mode p | disconnect p | staDisconnected p
  | gotIp event p | scanDone status number p | main p | delayedStart p | reconnection p =>
      cases hi
      exact (leads_within _ _ _ _ _).trans (leads_const _)

theorem pending_mono {m : Nat} (hle : m ≤ n) (h : p.pending n = true) : p.pending m = true := by
  cases p with
  | delayedStop p =>
      cases p with
      | wait =>
          have hn : n = 0 := of_decide_eq_true h
          exact decide_eq_true (Nat.le_zero.mp (hn ▸ hle))
      | _ => exact h
  | _ => cases h

theorem waiting_point (h : p.waiting = true) : p = .delayedStop .wait := by
  cases p with
  | delayedStop p => cases p <;> first | rfl | cases h
  | _ => cases h

theorem disconnHandler_flag {p : DisconnHandler} (h : p.act = .station false) :
    p = .disconnected .flag := by
  cases p with
  | disconnected p => cases p <;> first | rfl | cases h
  | _ => cases h

theorem setWifiMode_flag {p : SetWifiMode} (h : p.act = .station false) :
    ∃ new, p = .handler new (.disconnected .flag) := by
  cases p with
  | handler new p => exact ⟨new, congrArg _ (disconnHandler_flag h)⟩
  | _ => cases h

theorem code_flag (h : p.act = .station false) (hi : code p = some i) (v : Nat) :
    ∃ q, (i.next v).point (back p) = some q ∧ q.announces = true := by
  cases p with
  | caller | eventLoop => cases hi
  | staConnected | disconnect p | scanDone status number p => cases h
  | getScanList number aps p =>
      cases p with
      | handler err p =>
          cases hi
          rw [disconnHandler_flag h]
          exact ⟨_, rfl, rfl⟩
      | _ => cases h
  | connect p =>
      cases p with
      | handler p =>
          cases hi
          rw [disconnHandler_flag h]
          exact ⟨_, rfl, rfl⟩
      | connected p => cases p <;> cases h
      | _ => cases h
  | changeMode mode p =>
      cases p with
      | setMode p =>
          cases hi
          obtain ⟨new, rfl⟩ := setWifiMode_flag h
          exact ⟨_, rfl, rfl⟩
      | _ => cases h
  | staDisconnected p =>
      cases p with
      | handler p =>
          cases hi
          rw [disconnHandler_flag h]
          exact ⟨_, rfl, rfl⟩
      | done p => cases p <;> cases h
      | _ => cases h
  | gotIp event p =>
      cases p with
      | done p => cases p <;> cases h
      | _ => cases h
  | main p =>
      cases hi
      rw [disconnHandler_flag h]
      exact ⟨_, rfl, rfl⟩
  | delayedStop p =>
      cases p with
      | setMode p =>
          cases hi
          obtain ⟨new, rfl⟩ := setWifiMode_flag h
          exact ⟨_, rfl, rfl⟩
      | _ => cases h
  | delayedStart p =>
      cases p with
      | setMode p =>
          cases hi
          obtain ⟨new, rfl⟩ := setWifiMode_flag h
          exact ⟨_, rfl, rfl⟩
      | _ => cases h
  | reconnection p =>
      cases p with
      | connected p => cases p <;> cases h
      | _ => cases h

theorem accepts_quiet (h : accepts p q = true) (n : Nat) :
    p.announces = false ∧ q.pending n = false := by
  unfold accepts at h
  split at h <;> first | exact ⟨rfl, rfl⟩ | cases h

end Points

end WirelessEsp.WifiManager
