import WirelessEsp.DapProxy

namespace WirelessEsp.DapCounting

open Transition DapProxy

/-- The packets that `DAP_Thread` has taken and not yet answered. -/
def busy : DapPc → Nat
  | .process _ => 1
  | .returnIn _ => 1
  | .sendCall _ => 1
  | .sendOut _ _ => 1
  | _ => 0

/-- `DAP_Thread` has taken a notification and not yet looked for a packet. -/
def awake : DapPc → Nat
  | .check => 1
  | .receive _ => 1
  | _ => 0

/-- `DAP_Thread` is in its loop and not in the reset code. -/
def serving : DapPc → Bool
  | .init => false
  | .free => false
  | .afterFree => false
  | .malloc => false
  | .clear => false
  | _ => true

def inUrb : TcpPc → Bool
  | .urb | .outReply | .outSend _ | .outNotify | .inCall | .inReceive _ | .inReply _
  | .inRespond _ | .inReturn _ | .inDone | .unlinkCall | .unlinkReceive _ | .unlinkRespond _
  | .unlinkReturn _ | .unlinkReply => true
  | _ => false

/-- The requests counted and not yet in a ring, and the responses out of a
ring and not yet counted off. -/
def owed : TcpPc → Nat
  | .outReply => 1
  | .outSend _ => 1
  | .inReply _ => 1
  | .inRespond _ => 1
  | .inReturn _ => 1
  | .inDone => 1
  | _ => 0

def notifying : TcpPc → Nat
  | .outNotify => 1
  | _ => 0

def outstanding (s : State) : Nat :=
  (inItems s).length + busy s.dap + (outItems s).length

/-- A request in the system still leads to a response: one is there or in
progress, or `DAP_Thread` is sure to look for the request. -/
def CanRespond (s : State) : Prop :=
  0 < (outItems s).length ∨ 0 < busy s.dap ∨
    (0 < (inItems s).length ∧ 0 < s.notified + awake s.dap)

structure Counted (s : State) : Prop where
  counter : s.tcp = .urb → s.dapReqNum = outstanding s
  noStall : ∀ h, s.tcp = .inReceive h → CanRespond s

/-- The actions within one URB session. -/
def inSession : Act → Bool
  | .connect _ => false
  | .close => false
  | _ => true

/-- A URB session is about to read its first header, with the rings in place
and empty and no reset pending. -/
structure SessionStart (s : State) : Prop where
  tcp : s.tcp = .urb
  dapReqNum : s.dapReqNum = 0
  noSignal : s.kRestartDAPHandle = .noSignal
  rings : s.dataIN.isSome = true ∧ s.dataOUT.isSome = true
  idle : serving s.dap = true ∧ outstanding s = 0

def unlinkTakes (s : State) : Bool :=
  match s.tcp with
  | .unlinkReceive h => (lookup s.dataOUT h).any (fun r => !r.items.isEmpty)
  | _ => false

def UnlinkFindsNone (s : State) (a : Act) : Prop := a = .tcp → unlinkTakes s = false

instance (s : State) (a : Act) : Decidable (UnlinkFindsNone s a) :=
  inferInstanceAs (Decidable (_ → _))

structure Inv (k : Nat) (s : State) : Prop where
  tcp : inUrb s.tcp = true
  dap : serving s.dap = true
  noSignal : s.kRestartDAPHandle = .noSignal
  rings : s.dataIN.isSome = true ∧ s.dataOUT.isSome = true
  counter : s.dapReqNum = outstanding s + owed s.tcp + k
  wake : (inItems s).length ≤ s.notified + awake s.dap + notifying s.tcp
  waiting : s.tcp = .inCall ∨ (∃ h, s.tcp = .inReceive h) → 0 < s.dapReqNum

variable {k : Nat} {s t : State}

theorem not_waiting {pc : TcpPc} {P : Prop} (h₁ : pc ≠ .inCall) (h₂ : ∀ h, pc ≠ .inReceive h) :
    pc = .inCall ∨ (∃ h, pc = .inReceive h) → P := by
  rintro (h | ⟨h, hpc⟩)
  · exact absurd h h₁
  · exact absurd hpc (h₂ h)

theorem Inv.start (hs : SessionStart s) : Inv 0 s := by
  have hidle := hs.idle.2
  rw [outstanding] at hidle
  refine ⟨by rw [hs.tcp]; rfl, hs.idle.1, hs.noSignal, hs.rings, ?_, by omega, ?_⟩
  · rw [hs.dapReqNum, hs.idle.2, hs.tcp]; rfl
  · rw [hs.tcp]
    rintro (h | ⟨_, h⟩) <;> cases h

theorem Inv.counted (hi : Inv 0 s) : Counted s := by
  refine ⟨fun htcp => ?_, fun h htcp => ?_⟩
  · have hc := hi.counter
    rw [htcp] at hc
    exact hc
  · have hc := hi.counter
    have hw := hi.wake
    have hpos := hi.waiting (.inr ⟨h, htcp⟩)
    rw [htcp] at hc hw
    simp only [owed, notifying, outstanding] at hc hw
    by_cases hout : 0 < (outItems s).length
    · exact .inl hout
    · by_cases hbusy : 0 < busy s.dap
      · exact .inr (.inl hbusy)
      · exact .inr (.inr ⟨by omega, by omega⟩)

theorem Inv.fail (hi : Inv k s) (f : Fault) : Inv k (fail s f) :=
  ⟨hi.tcp, hi.dap, hi.noSignal, hi.rings, hi.counter, hi.wake, hi.waiting⟩

/-- What the counting depends on besides the places of the two tasks. -/
structure SameCounts (s t : State) : Prop where
  noSignal : t.kRestartDAPHandle = s.kRestartDAPHandle
  notified : t.notified = s.notified
  dapReqNum : t.dapReqNum = s.dapReqNum
  rings : t.dataIN.isSome = s.dataIN.isSome ∧ t.dataOUT.isSome = s.dataOUT.isSome
  inItems : inItems t = inItems s
  outItems : outItems t = outItems s

theorem Inv.tcpMove (hi : Inv k s) (hs : SameCounts s t) (hdap : t.dap = s.dap)
    (hpc : inUrb t.tcp = true) (howed : owed t.tcp = owed s.tcp)
    (hnot : notifying t.tcp = notifying s.tcp)
    (hwait : t.tcp = .inCall ∨ (∃ h, t.tcp = .inReceive h) → 0 < s.dapReqNum) : Inv k t := by
  have hout : outstanding t = outstanding s := by
    rw [outstanding, outstanding, hs.inItems, hs.outItems, hdap]
  refine ⟨hpc, by rw [hdap]; exact hi.dap, by rw [hs.noSignal]; exact hi.noSignal, ?_, ?_, ?_, ?_⟩
  · rw [hs.rings.1, hs.rings.2]; exact hi.rings
  · rw [hs.dapReqNum, hout, howed]; exact hi.counter
  · rw [hs.inItems, hs.notified, hdap, hnot]; exact hi.wake
  · rw [hs.dapReqNum]; exact hwait

theorem inItems_eq {r : Ring} (h : s.dataIN = some r) : inItems s = r.items := by
  rw [inItems, h]; rfl

theorem outItems_eq {r : Ring} (h : s.dataOUT = some r) : outItems s = r.items := by
  rw [outItems, h]; rfl

theorem tcpStep_send (hi : Inv k s) {h : Handle} (htcp : s.tcp = .outSend h) {r : Ring}
    (hl : lookup s.dataIN h = some r) (p : Packet) :
    Inv k { s with dataIN := some { r with items := r.items ++ [p] }, tcp := .outNotify } := by
  have hin := inItems_eq (lookup_some hl).1
  have hc := hi.counter
  have hw := hi.wake
  rw [htcp] at hc hw
  simp only [outstanding, hin, owed, notifying] at hc hw
  refine ⟨rfl, hi.dap, hi.noSignal, ⟨rfl, hi.rings.2⟩, ?_, ?_, ?_⟩
  · simp only [outstanding, inItems, Option.map_some, Option.getD_some, List.length_append,
      List.length_singleton, owed]
    simp only [outItems] at hc ⊢
    omega
  · simp only [inItems, Option.map_some, Option.getD_some, List.length_append,
      List.length_singleton, notifying]
    omega
  · exact not_waiting (by simp) (by simp)

theorem Inv.received (hi : Inv k s) {h : Handle} {r r' : Ring} {item : Item}
    (hl : lookup s.dataOUT h = some r) (hr : receiveFrom r = some (item, r')) {pc : TcpPc} {j : Nat}
    (hpc : inUrb pc = true) (howed : owed pc + j = owed s.tcp + 1)
    (hnot : notifying pc = notifying s.tcp)
    (hwait : pc = .inCall ∨ (∃ h, pc = .inReceive h) → 0 < s.dapReqNum) :
    Inv (k + j) { s with dataOUT := some r', tcp := pc } := by
  have hout := outItems_eq (lookup_some hl).1
  have hitems := congrArg List.length (receiveFrom_some hr).1
  have hc := hi.counter
  have hw := hi.wake
  simp only [outstanding, hout] at hc
  rw [List.length_cons] at hitems
  refine ⟨hpc, hi.dap, hi.noSignal, ⟨hi.rings.1, rfl⟩, ?_, ?_, hwait⟩
  · simp only [outstanding, outItems, Option.map_some, Option.getD_some]
    simp only [inItems] at hc ⊢
    omega
  · rw [← hnot] at hw
    exact hw

theorem outItems_return {item : Item} {r' : Ring} (hr : returnTo s.dataOUT item = some r') :
    s.dataOUT.isSome = true ∧ outItems s = r'.items := by
  obtain ⟨r, hring, _, rfl⟩ := returnTo_some hr
  have hitems : outItems s = r.items := outItems_eq hring
  exact ⟨by rw [hring]; rfl, hitems⟩

theorem tcpStep_inv (hi : Inv k s) (h : tcpStep s = some t) :
    Inv (k + (unlinkTakes s).toNat) t := by
  have hpc := hi.tcp
  have hmove := @Inv.tcpMove k s t hi
  have hwait := hi.waiting
  rw [unlinkTakes]
  rw [tcpStep] at h
  cases htcp : s.tcp <;> rw [htcp] at h hpc hmove hwait <;> simp only at h ⊢
  case accept | elFlag | elMalloc | elRead | elExecute | wsMalloc | wsRead | wsExecute | wsFree |
      cleanup | cleanupNotify =>
    cases hpc
  case urb => cases h
  case outReply | inReply | inRespond | unlinkRespond | unlinkReply =>
    cases h
    exact hmove ⟨rfl, rfl, rfl, ⟨rfl, rfl⟩, rfl, rfl⟩ rfl rfl rfl rfl
      (not_waiting (by simp) (by simp))
  case inCall =>
    cases h
    exact hmove ⟨rfl, rfl, rfl, ⟨rfl, rfl⟩, rfl, rfl⟩ rfl rfl rfl rfl (fun _ => hwait (.inl rfl))
  case outSend h' =>
    split at h
    next => cases h; exact hi.fail _
    next r hl =>
      obtain ⟨r', hsend, h⟩ := Option.bind_eq_some_iff.mp h
      cases h
      rw [sendTo_some hsend]
      exact tcpStep_send hi htcp hl _
  case outNotify =>
    split at h <;> cases h
    next =>
      have hc := hi.counter
      have hw := hi.wake
      rw [htcp] at hc hw
      simp only [owed, notifying] at hc hw
      refine ⟨rfl, hi.dap, hi.noSignal, hi.rings, hc, ?_, not_waiting (by simp) (by simp)⟩
      change (inItems s).length ≤ s.notified + 1 + awake s.dap + 0
      omega
    next => exact hi.fail _
  case inReceive h' =>
    split at h
    next => cases h; exact hi.fail _
    next r hl =>
      obtain ⟨⟨item, r'⟩, hr, h⟩ := Option.bind_eq_some_iff.mp h
      cases h
      exact hi.received (j := 0) hl hr rfl (by rw [htcp]; rfl) (by rw [htcp]; rfl)
        (not_waiting (by simp) (by simp))
  case inReturn item | unlinkReturn item =>
    split at h <;> cases h
    next => exact hi.fail _
    next r' hr =>
      obtain ⟨hsome, hitems⟩ := outItems_return hr
      exact hmove ⟨rfl, rfl, rfl, ⟨rfl, hsome.symm⟩, rfl, hitems.symm⟩ rfl rfl rfl rfl
        (not_waiting (by simp) (by simp))
  case inDone =>
    cases h
    have hc := hi.counter
    rw [htcp] at hc
    simp only [owed] at hc
    refine ⟨rfl, hi.dap, hi.noSignal, hi.rings, ?_, ?_, not_waiting (by simp) (by simp)⟩
    · change s.dapReqNum - 1 = outstanding s + 0 + (k + 0)
      omega
    · have hw := hi.wake
      rw [htcp] at hw
      exact hw
  case unlinkCall =>
    split at h <;> cases h <;>
      exact hmove ⟨rfl, rfl, rfl, ⟨rfl, rfl⟩, rfl, rfl⟩ rfl rfl rfl rfl
        (not_waiting (by simp) (by simp))
  case unlinkReceive h' =>
    split at h
    next hl =>
      cases h
      rw [hl]
      exact hi.fail _
    next r hl =>
      obtain ⟨⟨item, r'⟩, hr, h⟩ := Option.bind_eq_some_iff.mp h
      cases h
      have htakes : (lookup s.dataOUT h').any (fun r => !r.items.isEmpty) = true := by
        rw [hl, Option.any_some, (receiveFrom_some hr).1]
        rfl
      rw [htakes]
      exact hi.received (j := 1) hl hr rfl (by rw [htcp]; rfl) (by rw [htcp]; rfl)
        (not_waiting (by simp) (by simp))

theorem Inv.dapMove (hi : Inv k s) (hs : SameCounts s t) (htcp : t.tcp = s.tcp)
    (hdap : serving t.dap = true) (hbusy : busy t.dap = busy s.dap)
    (hawake : awake s.dap ≤ awake t.dap ∨ inItems s = []) : Inv k t := by
  have hout : outstanding t = outstanding s := by
    rw [outstanding, outstanding, hs.inItems, hs.outItems, hbusy]
  refine ⟨by rw [htcp]; exact hi.tcp, hdap, by rw [hs.noSignal]; exact hi.noSignal, ?_, ?_, ?_, ?_⟩
  · rw [hs.rings.1, hs.rings.2]; exact hi.rings
  · rw [hs.dapReqNum, hout, htcp]; exact hi.counter
  · have hw := hi.wake
    rw [hs.inItems, hs.notified, htcp]
    rcases hawake with h | h
    · omega
    · rw [h]; exact Nat.zero_le _
  · rw [htcp, hs.dapReqNum]; exact hi.waiting

theorem dapStep_inv (hi : Inv k s) (h : dapStep s = some t) : Inv k t := by
  have hpc := hi.dap
  have hmove := @Inv.dapMove k s t hi
  have hw := hi.wake
  have hc := hi.counter
  rw [outstanding] at hc
  rw [dapStep] at h
  cases hdap : s.dap <;> rw [hdap] at h hpc hmove hw hc <;> simp only at h
  case init | free | afterFree | malloc | clear => cases hpc
  case top =>
    rw [if_pos hi.noSignal] at h
    cases h
    exact hmove ⟨rfl, rfl, rfl, ⟨rfl, rfl⟩, rfl, rfl⟩ rfl rfl rfl (.inl (Nat.le_refl 0))
  case respond | process item | sendCall p =>
    cases h
    exact hmove ⟨rfl, rfl, rfl, ⟨rfl, rfl⟩, rfl, rfl⟩ rfl rfl rfl (.inl (Nat.le_refl 0))
  case wait =>
    split at h <;> cases h
    simp only [awake] at hw
    refine ⟨hi.tcp, rfl, hi.noSignal, hi.rings, hc, ?_, hi.waiting⟩
    change (inItems s).length ≤ s.notified - 1 + 1 + notifying s.tcp
    omega
  case check =>
    split at h
    next hnull =>
      obtain ⟨hin, hout⟩ := hi.rings
      rcases hnull with hnull | hnull
      · rw [hnull] at hin; cases hin
      · rw [hnull] at hout; cases hout
    next =>
      cases h
      exact hmove ⟨rfl, rfl, rfl, ⟨rfl, rfl⟩, rfl, rfl⟩ rfl rfl rfl (.inl (Nat.le_refl 1))
  case receive h' =>
    split at h
    next => cases h; exact hi.fail _
    next r hl =>
      have hin := inItems_eq (lookup_some hl).1
      split at h
      next hr =>
        cases h
        exact hmove ⟨rfl, rfl, rfl, ⟨rfl, rfl⟩, rfl, rfl⟩ rfl rfl rfl
          (.inr (hin.trans (receiveFrom_none hr)))
      next item r' hr =>
        cases h
        have hitems := congrArg List.length (receiveFrom_some hr).1
        rw [List.length_cons] at hitems
        simp only [busy, awake, hin] at hc hw
        refine ⟨hi.tcp, rfl, hi.noSignal, ⟨rfl, hi.rings.2⟩, ?_, ?_, hi.waiting⟩
        · change s.dapReqNum = r'.items.length + 1 + (outItems s).length + owed s.tcp + k
          omega
        · change r'.items.length ≤ s.notified + 0 + notifying s.tcp
          omega
  case returnIn item =>
    split at h
    next => cases h; exact hi.fail _
    next r' hr =>
      cases h
      obtain ⟨r, hring, _, rfl⟩ := returnTo_some hr
      have hin := inItems_eq hring
      exact hmove ⟨rfl, rfl, rfl, ⟨by rw [hring]; rfl, rfl⟩, hin.symm, rfl⟩ rfl rfl rfl
        (.inl (Nat.le_refl 0))
  case sendOut p h' =>
    split at h
    next => cases h; exact hi.fail _
    next r hl =>
      obtain ⟨r', hsend, h⟩ := Option.bind_eq_some_iff.mp h
      cases h
      have hout := outItems_eq (lookup_some hl).1
      have hitems := congrArg (List.length ∘ Ring.items) (sendTo_some hsend)
      simp only [Function.comp, List.length_append, List.length_singleton] at hitems
      simp only [busy, awake, hout] at hc hw
      refine ⟨hi.tcp, rfl, hi.noSignal, ⟨hi.rings.1, rfl⟩, ?_, hw, hi.waiting⟩
      change s.dapReqNum = (inItems s).length + 0 + r'.items.length + owed s.tcp + k
      omega

theorem urbCommand_inv (hi : Inv k s) (htcp : s.tcp = .urb) (c : Command) :
    Inv k (urbCommand s c) := by
  have hc := hi.counter
  have hw := hi.wake
  rw [htcp] at hc hw
  cases c with
  | outSubmit =>
      refine ⟨rfl, hi.dap, hi.noSignal, hi.rings, ?_, hw, not_waiting (by simp [urbCommand])
        (by simp [urbCommand])⟩
      change s.dapReqNum + 1 = outstanding s + 1 + k
      simp only [owed] at hc
      omega
  | inSubmit =>
      rw [urbCommand]
      split
      next hpos => exact ⟨rfl, hi.dap, hi.noSignal, hi.rings, hc, hw, fun _ => hpos⟩
      next => exact hi
  | unlink =>
      exact ⟨rfl, hi.dap, hi.noSignal, hi.rings, hc, hw, not_waiting (by simp [urbCommand])
        (by simp [urbCommand])⟩
  | other => exact hi

def taken (s : State) (a : Act) : Nat := if a = .tcp then (unlinkTakes s).toNat else 0

theorem step_inv {a : Act} (hi : Inv k s) (ha : inSession a = true) (h : step s a = some t) :
    Inv (k + taken s a) t := by
  have h' := (step_some h).2
  have hpc := hi.tcp
  cases a with
  | connect tr => exact absurd ha Bool.false_ne_true
  | close => exact absurd ha Bool.false_ne_true
  | command c =>
      rw [enabledStep, commandStep] at h'
      split at h'
      next htcp => cases h'; exact urbCommand_inv hi htcp c
      next htcp => rw [htcp] at hpc; cases hpc
      next htcp => rw [htcp] at hpc; cases hpc
      next => cases h'
  | timeout =>
      rw [enabledStep, timeoutStep] at h'
      split at h'
      next h'' htcp =>
        split at h'
        next => cases h'; exact hi.fail _
        next =>
          split at h' <;> cases h'
          exact hi.tcpMove ⟨rfl, rfl, rfl, ⟨rfl, rfl⟩, rfl, rfl⟩ rfl rfl (by rw [htcp]; rfl)
            (by rw [htcp]; rfl) (not_waiting (by simp) (by simp))
      next => cases h'
  | tcp => exact tcpStep_inv hi h'
  | dap => exact dapStep_inv hi h'

theorem taken_eq_zero {a : Act} : taken s a = 0 ↔ UnlinkFindsNone s a := by
  rw [taken, UnlinkFindsNone]
  split
  next ha => cases unlinkTakes s <;> simp [ha]
  next ha => simp [ha]

theorem run_inv {as : List Act} (hi : Inv k s) (has : ∀ a ∈ as, inSession a = true)
    (hr : run step s as = some t) :
    ∃ m, Inv (k + m) t ∧ (m = 0 → Meets step UnlinkFindsNone s as) := by
  induction as generalizing k s with
  | nil =>
      rw [run, Option.some.injEq] at hr
      exact ⟨0, hr ▸ hi, fun _ => trivial⟩
  | cons a as ih =>
      rw [run] at hr
      split at hr
      next => cases hr
      next u hu =>
        obtain ⟨m, hm, hmeets⟩ := ih (step_inv hi (has a List.mem_cons_self) hu)
          (fun b hb => has b (List.mem_cons_of_mem _ hb)) hr
        refine ⟨taken s a + m, by rw [← Nat.add_assoc]; exact hm, fun hzero => ?_⟩
        simp only [Meets, hu]
        exact ⟨taken_eq_zero.mp (by omega), hmeets (by omega)⟩

/-- The counter is right at every header, and no wait is in vain, in the runs
where no unlink finds a response in the ring; and in no other run that comes
back to a header. -/
theorem counted_iff (hs : SessionStart s) {as : List Act} (has : ∀ a ∈ as, inSession a = true) :
    (Meets step UnlinkFindsNone s as → Always step Counted s as) ∧
    ∀ t, run step s as = some t → t.tcp = .urb → Always step Counted s as →
      Meets step UnlinkFindsNone s as := by
  constructor
  · intro hm
    have hstep : ∀ s a t, Inv 0 s → inSession a = true ∧ UnlinkFindsNone s a →
        step s a = some t → Inv 0 t := by
      intro s a t hi hok h
      have ht := step_inv hi hok.1 h
      rw [taken_eq_zero.mpr hok.2] at ht
      exact ht
    exact (always_of_step hstep (Inv.start hs) (hm.and_mem has)).mono fun s hi => hi.counted
  · intro t hr htcp halways
    obtain ⟨m, hm, hmeets⟩ := run_inv (Inv.start hs) has hr
    refine hmeets ?_
    have hcount := (halways.of_run hr).counter htcp
    have hc := hm.counter
    rw [htcp, hcount] at hc
    simp only [owed] at hc
    omega

/-- A session right after `DAP_Thread` has set up its rings. -/
def firstSession : State :=
  connect { State.boot with
    started := true, dataIN := some ⟨0, [], false⟩, dataOUT := some ⟨0, [], false⟩, nextRing := 1,
    dap := .wait } .usbip

theorem firstSession_start : SessionStart firstSession :=
  ⟨rfl, rfl, rfl, ⟨rfl, rfl⟩, rfl, rfl⟩

/-- A request whose response is read, with an unlink that comes too late for it. -/
theorem counted_late_unlink :
    Always step Counted firstSession
      [.command .outSubmit, .tcp, .tcp, .tcp, .dap, .dap, .dap, .dap, .dap, .dap, .dap, .dap,
        .command .inSubmit, .tcp, .tcp, .tcp, .tcp, .tcp, .tcp, .command .unlink, .tcp, .tcp] :=
  (counted_iff firstSession_start (by decide)).1 (by decide)

def unlinked : List Act :=
  [.command .outSubmit, .tcp, .tcp, .tcp, .dap, .dap, .dap, .dap, .dap, .dap, .dap, .dap,
    .command .unlink, .tcp, .tcp, .tcp, .tcp, .tcp]

theorem not_counted_unlinked :
    ¬ ∀ s, SessionStart s → ∀ as, (∀ a ∈ as, inSession a = true) → Always step Counted s as := by
  intro h
  have hend := (h firstSession firstSession_start unlinked (by decide)).of_run rfl
  exact absurd (hend.counter rfl) (by decide)

end WirelessEsp.DapCounting
