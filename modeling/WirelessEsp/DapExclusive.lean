import WirelessEsp.DapProxy

namespace WirelessEsp.DapExclusive

open Transition DapProxy

/-- The item `DAP_Thread` has received and not yet returned. -/
def item : DapPc → Option Item
  | .process item => some item
  | .returnIn item => some item
  | _ => none

def processing : DapPc → Bool
  | .process _ => true
  | _ => false

def executing : TcpPc → Bool
  | .elExecute => true
  | .wsExecute => true
  | _ => false

/-- The TCP task is in a session that does not use the DAP task. -/
def direct : TcpPc → Bool
  | .elFlag => true
  | .elMalloc => true
  | .elRead => true
  | .elExecute => true
  | .wsMalloc => true
  | .wsRead => true
  | .wsExecute => true
  | .wsFree => true
  | _ => false

def reading : TcpPc → Bool
  | .elRead => true
  | .elExecute => true
  | .wsRead => true
  | .wsExecute => true
  | _ => false

def freesRings (s : State) : Bool :=
  match s.tcp with
  | .elMalloc => s.started && !s.elBuffer
  | .wsMalloc => s.started && !s.wsBuffer
  | _ => false

/-- At most one command is in progress, the item in progress is in a ring that has not been
deleted, and no task has used a ring that is not there: behind such a use nothing is known. -/
structure Exclusive (s : State) : Prop where
  one : ¬ (executing s.tcp = true ∧ processing s.dap = true)
  live : ∀ i, item s.dap = some i → handleOf s.dataIN = some i.ring
  intact : s.fault = none

/-- The TCP task does not delete the rings under an item of `DAP_Thread`. -/
def HandsOver (s : State) (a : Act) : Prop :=
  a = .tcp → freesRings s = true → item s.dap = none

/-- The ring call in a step of a task: the current ring, and the handle or the ring of the item that
the call gets. -/
def ringCall (s : State) : Act → Option (Option Ring × Handle)
  | .tcp => match s.tcp with
      | .outSend h => some (s.dataIN, h)
      | .inReceive h => some (s.dataOUT, h)
      | .inReturn item => some (s.dataOUT, some item.ring)
      | .unlinkReceive h => some (s.dataOUT, h)
      | .unlinkReturn item => some (s.dataOUT, some item.ring)
      | _ => none
  | .timeout => match s.tcp with
      | .unlinkReceive h => some (s.dataOUT, h)
      | _ => none
  | .dap => match s.dap with
      | .receive h => some (s.dataIN, h)
      | .returnIn item => some (s.dataIN, some item.ring)
      | .sendOut _ h => some (s.dataOUT, h)
      | _ => none
  | _ => none

/-- The rings have not been deleted since the task loaded the handle of its ring call. -/
def OnLiveRing (s : State) (a : Act) : Prop :=
  ∀ ring h, ringCall s a = some (ring, h) → (lookup ring h).isSome = true

def Orderly (s : State) (a : Act) : Prop := HandsOver s a ∧ OnLiveRing s a

structure Inv (s : State) : Prop where
  live : ∀ i, item s.dap = some i → handleOf s.dataIN = some i.ring
  unstarted : s.started = false → s.dap = .init ∧ handleOf s.dataIN = none
  elBuffer : s.elBuffer = true → s.tcp = .elRead ∨ s.tcp = .elExecute ∨ s.tcp = .cleanup
  wsBuffer : s.wsBuffer = true → s.tcp = .wsRead ∨ s.tcp = .wsExecute ∨ s.tcp = .wsFree
  quiet : reading s.tcp = true → inItems s = [] ∧ item s.dap = none

theorem Inv.exclusive {s : State} (hi : Inv s) (hf : s.fault = none) : Exclusive s := by
  refine ⟨?_, hi.live, hf⟩
  rintro ⟨hex, hproc⟩
  have hread : reading s.tcp = true := by
    cases htcp : s.tcp <;> simp_all [executing, reading]
  have hitem := (hi.quiet hread).2
  cases hdap : s.dap <;> simp_all [processing, item]

theorem Inv.buffers {s : State} (hi : Inv s) (hd : direct s.tcp = false)
    (hc : s.tcp ≠ .cleanup) : s.elBuffer = false ∧ s.wsBuffer = false := by
  constructor
  · refine Bool.eq_false_iff.mpr fun hel => ?_
    rcases hi.elBuffer hel with h | h | h <;> simp_all [direct]
  · refine Bool.eq_false_iff.mpr fun hws => ?_
    rcases hi.wsBuffer hws with h | h | h <;> simp_all [direct]

theorem Inv.indirect {s t : State} (hi : Inv s) (hd : direct s.tcp = false)
    (hc : s.tcp ≠ .cleanup) (hd' : reading t.tcp = false) (hdap : t.dap = s.dap)
    (hin : handleOf t.dataIN = handleOf s.dataIN) (hst : t.started = s.started)
    (hel : t.elBuffer = s.elBuffer) (hws : t.wsBuffer = s.wsBuffer) : Inv t := by
  obtain ⟨hel', hws'⟩ := hi.buffers hd hc
  refine ⟨?_, ?_, ?_, ?_, ?_⟩
  · rw [hdap, hin]; exact hi.live
  · rw [hst, hdap, hin]; exact hi.unstarted
  · rw [hel, hel']; exact fun h => absurd h Bool.false_ne_true
  · rw [hws, hws']; exact fun h => absurd h Bool.false_ne_true
  · rw [hd']; exact fun h => absurd h Bool.false_ne_true

theorem inItems_of_none {s : State} (h : handleOf s.dataIN = none) : inItems s = [] := by
  rw [inItems, Option.map_eq_none_iff.mp h]
  rfl

theorem Inv.freed {s : State} (hi : Inv s) (hok : s.started = true → item s.dap = none) :
    inItems (freeDapRingbuf s) = [] ∧ item s.dap = none ∧
      (∀ i, item s.dap = some i → handleOf (freeDapRingbuf s).dataIN = some i.ring) ∧
      (s.started = false → s.dap = .init ∧ handleOf (freeDapRingbuf s).dataIN = none) := by
  rw [freeDapRingbuf]
  cases hst : s.started with
  | true =>
      rw [if_pos rfl]
      refine ⟨rfl, hok hst, ?_, fun h => absurd h.symm Bool.false_ne_true⟩
      intro i hitem
      rw [hok hst] at hitem
      cases hitem
  | false =>
      rw [if_neg Bool.false_ne_true]
      obtain ⟨hinit, hnone⟩ := hi.unstarted hst
      have hitem : item s.dap = none := by rw [hinit]; rfl
      refine ⟨inItems_of_none hnone, hitem, ?_, fun _ => ⟨hinit, hnone⟩⟩
      intro i h
      rw [hitem] at h
      cases h

theorem Inv.fail {s : State} (hi : Inv s) (f : Fault) : Inv (fail s f) :=
  ⟨hi.live, hi.unstarted, hi.elBuffer, hi.wsBuffer, hi.quiet⟩

theorem tcpStep_inv {s t : State} (hi : Inv s) (hok : HandsOver s .tcp) (h : tcpStep s = some t) :
    Inv t := by
  have hindirect := @Inv.indirect s t hi
  have hel := hi.elBuffer
  have hws := hi.wsBuffer
  have hok' := hok rfl
  rw [freesRings] at hok'
  rw [tcpStep] at h
  cases htcp : s.tcp <;> rw [htcp] at h hindirect hel hws hok' <;> simp only at h hok'
  case accept | urb | elRead | wsRead => cases h
  case outReply | inCall | inReply | inRespond | inDone | unlinkRespond | unlinkReply |
      cleanupNotify =>
    cases h
    exact hindirect rfl (by simp) rfl rfl rfl rfl rfl rfl
  case outSend h' =>
    split at h
    next => cases h; exact hi.fail _
    next r hl =>
      obtain ⟨r', hsend, h⟩ := Option.bind_eq_some_iff.mp h
      cases h
      have hin : handleOf (some r') = handleOf s.dataIN := by
        rw [sendTo_some hsend, (lookup_some hl).1]
        rfl
      exact hindirect rfl (by simp) rfl rfl hin rfl rfl rfl
  case outNotify =>
    split at h <;> cases h
    next => exact hindirect rfl (by simp) rfl rfl rfl rfl rfl rfl
    next => exact hi.fail _
  case inReceive h' | unlinkReceive h' =>
    split at h
    next => cases h; exact hi.fail _
    next r hl =>
      obtain ⟨⟨item, r'⟩, _, h⟩ := Option.bind_eq_some_iff.mp h
      cases h
      exact hindirect rfl (by simp) rfl rfl rfl rfl rfl rfl
  case inReturn item | unlinkReturn item =>
    split at h <;> cases h
    next => exact hi.fail _
    next => exact hindirect rfl (by simp) rfl rfl rfl rfl rfl rfl
  case unlinkCall =>
    split at h <;> cases h <;> exact hindirect rfl (by simp) rfl rfl rfl rfl rfl rfl
  case elFlag =>
    cases h
    exact ⟨hi.live, hi.unstarted, fun hb => by simpa using hel hb, fun hb => by simpa using hws hb,
      fun hr => by simp [reading] at hr⟩
  case elMalloc =>
    have helf : s.elBuffer = false := Bool.eq_false_iff.mpr fun hb => by simpa using hel hb
    have hwsf : s.wsBuffer = false := Bool.eq_false_iff.mpr fun hb => by simpa using hws hb
    rw [helf, if_neg Bool.false_ne_true] at h
    obtain ⟨hitems, hnone, hlive, hun⟩ := hi.freed fun hst => hok' (by rw [hst, helf]; rfl)
    cases h
    refine ⟨by simpa using hlive, by simpa using hun, fun _ => .inl rfl, fun hb => ?_, fun _ => ?_⟩
    · rw [freeDapRingbuf_wsBuffer, hwsf] at hb
      exact absurd hb Bool.false_ne_true
    · exact ⟨hitems, by simpa using hnone⟩
  case wsMalloc =>
    have helf : s.elBuffer = false := Bool.eq_false_iff.mpr fun hb => by simpa using hel hb
    have hwsf : s.wsBuffer = false := Bool.eq_false_iff.mpr fun hb => by simpa using hws hb
    rw [hwsf, if_neg Bool.false_ne_true] at h
    obtain ⟨hitems, hnone, hlive, hun⟩ := hi.freed fun hst => hok' (by rw [hst, hwsf]; rfl)
    cases h
    refine ⟨by simpa using hlive, by simpa using hun, fun hb => ?_, fun _ => .inl rfl, fun _ => ?_⟩
    · rw [freeDapRingbuf_elBuffer, helf] at hb
      exact absurd hb Bool.false_ne_true
    · exact ⟨hitems, by simpa using hnone⟩
  case elExecute =>
    cases h
    exact ⟨hi.live, hi.unstarted, fun _ => .inl rfl, fun hb => by simpa using hws hb,
      fun _ => hi.quiet (by rw [htcp]; rfl)⟩
  case wsExecute =>
    cases h
    exact ⟨hi.live, hi.unstarted, fun hb => by simpa using hel hb, fun _ => .inl rfl,
      fun _ => hi.quiet (by rw [htcp]; rfl)⟩
  case wsFree =>
    cases h
    exact ⟨hi.live, hi.unstarted, fun hb => by simp at hel; simp [hel] at hb,
      fun hb => absurd hb Bool.false_ne_true, fun hr => by simp [reading] at hr⟩
  case cleanup =>
    cases h
    exact ⟨hi.live, hi.unstarted, fun hb => absurd hb Bool.false_ne_true,
      fun hb => by simpa using hws hb, fun hr => by simp [reading] at hr⟩

theorem Inv.dapMove {s t : State} (hi : Inv s) (hst : s.started = true) (hitem : item t.dap = none)
    (hst' : t.started = s.started) (hin : inItems s = [] → inItems t = []) (htcp : t.tcp = s.tcp)
    (hel : t.elBuffer = s.elBuffer) (hws : t.wsBuffer = s.wsBuffer) : Inv t := by
  refine ⟨?_, ?_, ?_, ?_, ?_⟩
  · rw [hitem]; exact fun i h => by cases h
  · rw [hst', hst]; exact fun h => absurd h.symm Bool.false_ne_true
  · rw [hel, htcp]; exact hi.elBuffer
  · rw [hws, htcp]; exact hi.wsBuffer
  · rw [htcp]; exact fun hr => ⟨hin (hi.quiet hr).1, hitem⟩

theorem Inv.started {s : State} (hi : Inv s) (hd : s.dap ≠ .init) : s.started = true := by
  rw [← Bool.not_eq_false]
  exact fun h => hd (hi.unstarted h).1

theorem dapStep_inv {s t : State} (hi : Inv s) (h : dapStep s = some t) : Inv t := by
  have hmove := @Inv.dapMove s t hi
  have hstart := hi.started
  have hlive := hi.live
  have hquiet := hi.quiet
  rw [dapStep] at h
  cases hdap : s.dap <;> rw [hdap] at h hstart hlive hquiet <;> simp only at h
  case init =>
    cases h
    refine ⟨fun i h => (by cases h), fun h => absurd h.symm Bool.false_ne_true, hi.elBuffer,
      hi.wsBuffer, fun _ => ⟨rfl, rfl⟩⟩
  case process i =>
    cases h
    refine ⟨hlive, fun h => ?_, hi.elBuffer, hi.wsBuffer, fun hr => ?_⟩
    · exact absurd ((hstart (by simp)).symm.trans h).symm Bool.false_ne_true
    · cases (hquiet hr).2
  all_goals
    replace hmove := hmove (hstart (by simp))
  case top | afterFree =>
    split at h <;> cases h <;> exact hmove rfl rfl id rfl rfl rfl
  case clear | sendCall p | respond =>
    cases h
    exact hmove rfl rfl id rfl rfl rfl
  case wait =>
    split at h <;> cases h
    exact hmove rfl rfl id rfl rfl rfl
  case check =>
    split at h <;> cases h <;> exact hmove rfl rfl id rfl rfl rfl
  case free =>
    cases h
    exact hmove rfl (by simp) inItems_free (by simp) (by simp) (by simp)
  case malloc =>
    cases h
    exact hmove rfl (by simp) (inItems_malloc s).trans (by simp) (by simp) (by simp)
  case receive h' =>
    split at h
    next => cases h; exact hi.fail _
    next r hl =>
      split at h
      next => cases h; exact hmove rfl rfl id rfl rfl rfl
      next i r' hr =>
        cases h
        obtain ⟨hitems, hring, hid⟩ := receiveFrom_some hr
        refine ⟨fun j hj => ?_, fun h => ?_, hi.elBuffer, hi.wsBuffer, fun hread => ?_⟩
        · cases hj
          rw [hring, ← hid]
          rfl
        · exact absurd ((hstart (by simp)).symm.trans h).symm Bool.false_ne_true
        · have hin := (hquiet hread).1
          rw [inItems, (lookup_some hl).1] at hin
          exact absurd (hitems.symm.trans hin) (List.cons_ne_nil _ _)
  case returnIn i =>
    split at h
    next => cases h; exact hi.fail _
    next r' hr =>
      cases h
      obtain ⟨r, hin, _, rfl⟩ := returnTo_some hr
      refine hmove rfl rfl (fun hitems => ?_) rfl rfl rfl
      rw [inItems, hin] at hitems
      exact hitems
  case sendOut p h' =>
    split at h
    next => cases h; exact hi.fail _
    next r hl =>
      obtain ⟨r', _, h⟩ := Option.bind_eq_some_iff.mp h
      cases h
      exact hmove rfl rfl id rfl rfl rfl

theorem connect_inv {s : State} (hi : Inv s) (htcp : s.tcp = .accept) (tr : Transport) :
    Inv (connect s tr) := by
  obtain ⟨hel, hws⟩ := hi.buffers (by rw [htcp]; rfl) (by simp [htcp])
  cases tr <;>
    exact ⟨hi.live, hi.unstarted, fun hb => absurd (hb.symm.trans hel).symm Bool.false_ne_true,
      fun hb => absurd (hb.symm.trans hws).symm Bool.false_ne_true,
      fun hr => absurd hr Bool.false_ne_true⟩

theorem urbCommand_inv {s : State} (hi : Inv s) (htcp : s.tcp = .urb) (c : Command) :
    Inv (urbCommand s c) := by
  have hindirect := fun t => @Inv.indirect s t hi (by rw [htcp]; rfl) (by simp [htcp])
  cases c with
  | outSubmit => exact hindirect _ rfl rfl rfl rfl rfl rfl
  | inSubmit =>
      rw [urbCommand]
      split
      next => exact hindirect _ rfl rfl rfl rfl rfl rfl
      next => exact hi
  | unlink => exact hindirect _ rfl rfl rfl rfl rfl rfl
  | other => exact hi

theorem commandStep_inv {s t : State} {c : Command} (hi : Inv s) (h : commandStep s c = some t) :
    Inv t := by
  rw [commandStep] at h
  split at h
  next htcp => cases h; exact urbCommand_inv hi htcp c
  next htcp =>
    cases h
    exact ⟨hi.live, hi.unstarted, fun _ => .inr (.inl rfl),
      fun hb => by simpa [htcp] using hi.wsBuffer hb, fun _ => hi.quiet (by rw [htcp]; rfl)⟩
  next htcp =>
    cases h
    exact ⟨hi.live, hi.unstarted, fun hb => by simpa [htcp] using hi.elBuffer hb,
      fun _ => .inr (.inl rfl), fun _ => hi.quiet (by rw [htcp]; rfl)⟩
  next => cases h

theorem closeStep_inv {s t : State} (hi : Inv s) (h : closeStep s = some t) : Inv t := by
  rw [closeStep] at h
  split at h
  next htcp =>
    cases h
    exact hi.indirect (by rw [htcp]; rfl) (by simp [htcp]) rfl rfl rfl rfl rfl rfl
  next htcp =>
    cases h
    exact ⟨hi.live, hi.unstarted, fun _ => .inr (.inr rfl),
      fun hb => by simpa [htcp] using hi.wsBuffer hb, fun hr => absurd hr Bool.false_ne_true⟩
  next htcp =>
    cases h
    exact ⟨hi.live, hi.unstarted, fun hb => by simpa [htcp] using hi.elBuffer hb,
      fun _ => .inr (.inr rfl), fun hr => absurd hr Bool.false_ne_true⟩
  next => cases h

theorem timeoutStep_inv {s t : State} (hi : Inv s) (h : timeoutStep s = some t) : Inv t := by
  rw [timeoutStep] at h
  split at h
  next h' htcp =>
    split at h
    next => cases h; exact hi.fail _
    next =>
      split at h <;> cases h
      exact hi.indirect (by rw [htcp]; rfl) (by simp [htcp]) rfl rfl rfl rfl rfl rfl
  next => cases h

theorem step_inv {s t : State} {a : Act} (hi : Inv s) (hok : HandsOver s a)
    (h : step s a = some t) : Inv t := by
  have h' := (step_some h).2
  cases a with
  | connect tr =>
      simp only [enabledStep, Option.ite_none_right_eq_some, Option.some.injEq] at h'
      exact h'.2 ▸ connect_inv hi h'.1 tr
  | command c => exact commandStep_inv hi h'
  | close => exact closeStep_inv hi h'
  | timeout => exact timeoutStep_inv hi h'
  | tcp => exact tcpStep_inv hi hok h'
  | dap => exact dapStep_inv hi h'

theorem boot_inv : Inv State.boot :=
  ⟨fun _ h => (by cases h), fun _ => ⟨rfl, rfl⟩, fun h => absurd h Bool.false_ne_true,
    fun h => absurd h Bool.false_ne_true, fun h => absurd h Bool.false_ne_true⟩

theorem freeDapRingbuf_dataIN {s : State} (h : s.started = true) :
    (freeDapRingbuf s).dataIN = none := by
  rw [freeDapRingbuf, if_pos h]

theorem tcpStep_frees {s t : State} (hf : freesRings s = true) (h : tcpStep s = some t) :
    t.dap = s.dap ∧ t.dataIN = none := by
  rw [freesRings] at hf
  rw [tcpStep] at h
  split at hf
  next htcp =>
    simp only [Bool.and_eq_true, Bool.not_eq_true'] at hf
    simp only [htcp, hf.2, Bool.false_eq_true, if_false, Option.some.injEq] at h
    subst h
    exact ⟨freeDapRingbuf_dap s, freeDapRingbuf_dataIN hf.1⟩
  next htcp =>
    simp only [Bool.and_eq_true, Bool.not_eq_true'] at hf
    simp only [htcp, hf.2, Bool.false_eq_true, if_false, Option.some.injEq] at h
    subst h
    exact ⟨freeDapRingbuf_dap s, freeDapRingbuf_dataIN hf.1⟩
  next => cases hf

theorem handsOver_of_exclusive {s t : State} {a : Act} (h : step s a = some t)
    (ht : Exclusive t) : HandsOver s a := by
  intro ha hfree
  subst ha
  have h' : tcpStep s = some t := (step_some h).2
  obtain ⟨hdap, hin⟩ := tcpStep_frees hfree h'
  refine Option.eq_none_iff_forall_ne_some.mpr fun i hitem => ?_
  have hlive := ht.live i (hdap ▸ hitem)
  rw [hin] at hlive
  cases hlive

theorem onLiveRing_of_none {s : State} {a : Act} (h : ringCall s a = none) : OnLiveRing s a := by
  intro ring h' hcall
  rw [h] at hcall
  cases hcall

/-- A ring call ends the run when the ring is not there, and otherwise leaves no fault. -/
theorem fault_of_call {s t : State} {a : Act} {ring : Option Ring} {h : Handle}
    (hcall : ringCall s a = some (ring, h)) (hdead : lookup ring h = none → t.fault ≠ none)
    (hlive : ∀ r, lookup ring h = some r → t.fault = none) : t.fault = none ↔ OnLiveRing s a := by
  cases hl : lookup ring h with
  | none =>
      refine iff_of_false (hdead hl) fun hring => ?_
      have hsome := hring ring h hcall
      rw [hl] at hsome
      cases hsome
  | some r =>
      refine iff_of_true (hlive r hl) fun ring' h' hsame => ?_
      rw [hcall] at hsame
      cases hsame
      rw [hl]
      rfl

/-- `DAP_Thread` has started when it is to be notified. -/
def Notifies (s : State) : Prop := s.tcp = .outNotify → s.started = true

theorem tcpStep_fault {s t : State} (hf : s.fault = none) (hn : Notifies s)
    (h : tcpStep s = some t) : t.fault = none ↔ OnLiveRing s .tcp := by
  rw [tcpStep] at h
  cases htcp : s.tcp <;> rw [htcp] at h <;> simp only at h
  case accept | urb | elRead | wsRead => cases h
  case outSend h' =>
    have hcall : ringCall s .tcp = some (s.dataIN, h') := by simp only [ringCall, htcp]
    refine fault_of_call hcall ?_ ?_
    · intro hl
      rw [hl] at h
      cases h
      exact Option.some_ne_none _
    · intro r hl
      rw [hl] at h
      obtain ⟨r', -, h⟩ := Option.bind_eq_some_iff.mp h
      cases h
      exact hf
  case inReceive h' | unlinkReceive h' =>
    have hcall : ringCall s .tcp = some (s.dataOUT, h') := by simp only [ringCall, htcp]
    refine fault_of_call hcall ?_ ?_
    · intro hl
      rw [hl] at h
      cases h
      exact Option.some_ne_none _
    · intro r hl
      rw [hl] at h
      obtain ⟨⟨item, r'⟩, -, h⟩ := Option.bind_eq_some_iff.mp h
      cases h
      exact hf
  case inReturn item | unlinkReturn item =>
    have hcall : ringCall s .tcp = some (s.dataOUT, some item.ring) := by simp only [ringCall, htcp]
    refine fault_of_call hcall ?_ ?_
    · intro hl
      rw [returnTo, hl] at h
      cases h
      exact Option.some_ne_none _
    · intro r hl
      rw [returnTo, hl] at h
      cases h
      exact hf
  all_goals
    refine iff_of_true ?_ (onLiveRing_of_none (by simp only [ringCall, htcp]))
  case outNotify =>
    rw [if_pos (hn htcp)] at h
    cases h
    exact hf
  case unlinkCall =>
    split at h <;> cases h <;> exact hf
  case elMalloc | wsMalloc =>
    split at h <;> cases h
    · exact hf
    · exact (freeDapRingbuf_fault s).trans hf
  all_goals
    cases h
    exact hf

theorem dapStep_fault {s t : State} (hf : s.fault = none) (h : dapStep s = some t) :
    t.fault = none ↔ OnLiveRing s .dap := by
  rw [dapStep] at h
  cases hdap : s.dap <;> rw [hdap] at h <;> simp only at h
  case receive h' =>
    have hcall : ringCall s .dap = some (s.dataIN, h') := by simp only [ringCall, hdap]
    refine fault_of_call hcall ?_ ?_
    · intro hl
      rw [hl] at h
      cases h
      exact Option.some_ne_none _
    · intro r hl
      rw [hl] at h
      simp only at h
      split at h <;> cases h <;> exact hf
  case returnIn item =>
    have hcall : ringCall s .dap = some (s.dataIN, some item.ring) := by simp only [ringCall, hdap]
    refine fault_of_call hcall ?_ ?_
    · intro hl
      rw [returnTo, hl] at h
      cases h
      exact Option.some_ne_none _
    · intro r hl
      rw [returnTo, hl] at h
      cases h
      exact hf
  case sendOut p h' =>
    have hcall : ringCall s .dap = some (s.dataOUT, h') := by simp only [ringCall, hdap]
    refine fault_of_call hcall ?_ ?_
    · intro hl
      rw [hl] at h
      cases h
      exact Option.some_ne_none _
    · intro r hl
      rw [hl] at h
      obtain ⟨r', -, h⟩ := Option.bind_eq_some_iff.mp h
      cases h
      exact hf
  all_goals
    refine iff_of_true ?_ (onLiveRing_of_none (by simp only [ringCall, hdap]))
  case free =>
    cases h
    exact (freeDapRingbuf_fault s).trans hf
  case malloc =>
    cases h
    exact (mallocDapRingbuf_fault s).trans hf
  case top | afterFree | wait | check =>
    split at h <;> cases h <;> exact hf
  all_goals
    cases h
    exact hf

theorem timeoutStep_fault {s t : State} (hf : s.fault = none) (h : timeoutStep s = some t) :
    t.fault = none ↔ OnLiveRing s .timeout := by
  rw [timeoutStep] at h
  split at h
  next h' htcp =>
    have hcall : ringCall s .timeout = some (s.dataOUT, h') := by simp only [ringCall, htcp]
    refine fault_of_call hcall ?_ ?_
    · intro hl
      rw [hl] at h
      cases h
      exact Option.some_ne_none _
    · intro r hl
      rw [hl] at h
      simp only at h
      split at h <;> cases h
      exact hf
  next => cases h

/-- The steps that are a fault. -/
theorem step_fault {s t : State} {a : Act} (hn : Notifies s) (h : step s a = some t) :
    t.fault = none ↔ OnLiveRing s a := by
  obtain ⟨hf, h⟩ := step_some h
  cases a with
  | tcp => exact tcpStep_fault hf hn h
  | dap => exact dapStep_fault hf h
  | timeout => exact timeoutStep_fault hf h
  | connect tr =>
      refine iff_of_true ?_ (onLiveRing_of_none rfl)
      simp only [enabledStep, Option.ite_none_right_eq_some, Option.some.injEq] at h
      rw [← h.2]
      cases tr <;> exact hf
  | command c =>
      refine iff_of_true ?_ (onLiveRing_of_none rfl)
      simp only [enabledStep, commandStep] at h
      split at h <;> cases h
      · cases c with
        | inSubmit =>
            rw [urbCommand]
            split <;> exact hf
        | _ => exact hf
      · exact hf
      · exact hf
  | close =>
      refine iff_of_true ?_ (onLiveRing_of_none rfl)
      simp only [enabledStep, closeStep] at h
      split at h <;> cases h <;> exact hf

theorem Inv.started_of_lookup {s : State} (hi : Inv s) {h : Handle} {r : Ring}
    (hl : lookup s.dataIN h = some r) : s.started = true := by
  rw [← Bool.not_eq_false]
  intro hst
  have hnone := (hi.unstarted hst).2
  rw [(lookup_some hl).1] at hnone
  cases hnone

theorem tcpStep_notifies {s t : State} (hi : Inv s) (hn : Notifies s) (h : tcpStep s = some t) :
    Notifies t := by
  intro ht
  rw [tcpStep] at h
  cases htcp : s.tcp <;> rw [htcp] at h <;> simp only at h
  case accept | urb | elRead | wsRead => cases h
  case outSend h' =>
    split at h
    next =>
      cases h
      exact absurd (htcp.symm.trans ht) (by simp)
    next r hl =>
      obtain ⟨r', -, h⟩ := Option.bind_eq_some_iff.mp h
      cases h
      exact hi.started_of_lookup hl
  case outNotify =>
    split at h <;> cases h
    next => cases ht
    next => exact hn htcp
  case inReceive h' | unlinkReceive h' =>
    split at h
    next =>
      cases h
      exact absurd (htcp.symm.trans ht) (by simp)
    next r hl =>
      obtain ⟨⟨item, r'⟩, -, h⟩ := Option.bind_eq_some_iff.mp h
      cases h
      cases ht
  case inReturn item | unlinkReturn item =>
    split at h <;> cases h
    next => exact absurd (htcp.symm.trans ht) (by simp)
    next => cases ht
  case unlinkCall | elMalloc | wsMalloc =>
    split at h <;> cases h <;> cases ht
  all_goals
    cases h
    cases ht

theorem dapStep_tcp {s t : State} (h : dapStep s = some t) :
    t.tcp = s.tcp ∧ (s.started = true → t.started = true) := by
  rw [dapStep] at h
  cases hdap : s.dap <;> rw [hdap] at h <;> simp only at h
  case receive h' =>
    split at h
    next => cases h; exact ⟨rfl, id⟩
    next => split at h <;> cases h <;> exact ⟨rfl, id⟩
  case sendOut p h' =>
    split at h
    next => cases h; exact ⟨rfl, id⟩
    next r hl =>
      obtain ⟨r', -, h⟩ := Option.bind_eq_some_iff.mp h
      cases h
      exact ⟨rfl, id⟩
  case top | afterFree | wait | check | returnIn =>
    split at h <;> cases h <;> exact ⟨rfl, id⟩
  case free =>
    cases h
    exact ⟨freeDapRingbuf_tcp s, (freeDapRingbuf_started s).trans⟩
  case malloc =>
    cases h
    exact ⟨mallocDapRingbuf_tcp s, (mallocDapRingbuf_started s).trans⟩
  case init =>
    cases h
    exact ⟨rfl, fun _ => rfl⟩
  all_goals
    cases h
    exact ⟨rfl, id⟩

theorem step_notifies {s t : State} {a : Act} (hi : Inv s) (hn : Notifies s)
    (h : step s a = some t) : Notifies t := by
  obtain ⟨-, h⟩ := step_some h
  cases a with
  | tcp => exact tcpStep_notifies hi hn h
  | dap =>
      obtain ⟨htcp, hstarted⟩ := dapStep_tcp h
      exact fun ht => hstarted (hn (htcp.symm.trans ht))
  | connect tr =>
      simp only [enabledStep, Option.ite_none_right_eq_some, Option.some.injEq] at h
      rw [← h.2]
      cases tr <;> exact fun ht => by cases ht
  | command c =>
      simp only [enabledStep, commandStep] at h
      split at h <;> cases h
      next htcp =>
        cases c with
        | inSubmit =>
            rw [urbCommand]
            split
            · exact fun ht => by cases ht
            · exact hn
        | other => exact hn
        | _ => exact fun ht => by cases ht
      next => exact fun ht => by cases ht
      next => exact fun ht => by cases ht
  | close =>
      simp only [enabledStep, closeStep] at h
      split at h <;> cases h <;> exact fun ht => by cases ht
  | timeout =>
      simp only [enabledStep, timeoutStep] at h
      split at h
      next htcp =>
        split at h
        next => cases h; exact hn
        next =>
          split at h <;> cases h
          exact fun ht => by cases ht
      next => cases h

theorem orderly_of_exclusive {s t : State} {a : Act} (hn : Notifies s) (h : step s a = some t)
    (ht : Exclusive t) : Orderly s a :=
  ⟨handsOver_of_exclusive h ht, (step_fault hn h).mp ht.intact⟩

/-- Exclusive use holds throughout a run exactly when no elaphureLink or WebSocket session deletes
the rings under an item of `DAP_Thread`, and no ring is deleted between the load of its handle by a
task and the call that gets it. -/
theorem exclusive_iff (as : List Act) :
    Always step Exclusive State.boot as ↔ Meets step Orderly State.boot as := by
  constructor
  · refine meets_of_always (I := fun s => Inv s ∧ Notifies s) ?_ ?_ ⟨boot_inv, fun h => by cases h⟩
    · rintro s a t ⟨hi, hn⟩ h ht
      exact ⟨step_inv hi (handsOver_of_exclusive h ht) h, step_notifies hi hn h⟩
    · rintro s a t ⟨-, hn⟩ h ht
      exact orderly_of_exclusive hn h ht
  · intro hm
    have h := always_of_step (P := fun s => (Inv s ∧ Notifies s) ∧ s.fault = none) ?_
      ⟨⟨boot_inv, fun h => by cases h⟩, rfl⟩ hm
    · exact h.mono fun s hs => hs.1.1.exclusive hs.2
    · rintro s a t ⟨⟨hi, hn⟩, -⟩ ⟨hover, hring⟩ h
      exact ⟨⟨step_inv hi hover h, step_notifies hi hn h⟩, (step_fault hn h).mpr hring⟩

/-- A USB/IP session ends while its request is in progress, and an
elaphureLink session starts and reads a command. -/
def overlap : List Act :=
  [.dap, .dap, .connect .usbip, .command .outSubmit, .tcp, .tcp, .tcp, .dap, .dap, .dap, .close,
    .tcp, .tcp, .connect .elaphureLink, .tcp, .tcp, .command .other]

theorem not_exclusive_overlap : ¬ ∀ as, Always step Exclusive State.boot as := by
  intro h
  have hend := (h overlap).of_run rfl
  exact hend.one ⟨rfl, rfl⟩

end WirelessEsp.DapExclusive
