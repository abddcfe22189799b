import WirelessEsp.SessionInvariant

namespace WirelessEsp.DapSessions

open Transition DapProxy

variable {s t : State}

theorem tcpStep_inv (hi : Inv s) (hok : RingsReady s .tcp) (h : tcpStep s = some t) : Inv t := by
  have hready := hok rfl
  have hidle := @Inv.tcpIdle s t hi
  have hitem := hi.item
  have hout := hi.outHandle
  have hoper := hi.operation
  have hcur := hi.current
  rw [loadsHandle] at hready
  have hall := h
  rw [tcpStep] at h
  cases htcp : s.tcp <;> rw [htcp] at h hready hitem hout hoper hcur <;> simp only at h hready
  case accept | urb | elRead | wsRead => cases h
  case outReply =>
    cases h
    obtain ⟨hflag, hin, hout'⟩ := hready trivial
    refine hi.tcpMove ⟨rfl, rfl, rfl, rfl, rfl, rfl, rfl, rfl⟩ rfl (fun p hp => .inl hp) hi.replies
      (by simp) (fun _ => ⟨hflag, hi.started_of_rings hin⟩) ?_ (by simp [DapSessions.outHandle])
      (by simp [tcpItem])
    intro h' heq
    cases heq
    exact ⟨rfl, isSome_handleOf hin⟩
  case outSend h' => exact tcpStep_send hi htcp hall
  case outNotify =>
    rw [if_pos (hoper rfl).2] at h
    cases h
    exact hidle ⟨rfl, rfl, rfl, rfl, rfl, rfl, rfl, rfl⟩ rfl (fun _ => id) rfl (by simp) rfl
  case inCall =>
    cases h
    obtain ⟨hflag, hin, hout'⟩ := hready trivial
    refine hi.tcpMove ⟨rfl, rfl, rfl, rfl, rfl, rfl, rfl, rfl⟩ rfl (fun p hp => .inl hp) hi.replies
      (by simp) (fun _ => ⟨hflag, hi.started_of_rings hin⟩) (by simp) ?_ (by simp [tcpItem])
    intro h' heq
    cases heq
    exact ⟨rfl, isSome_handleOf hout'⟩
  case inReceive h' =>
    obtain ⟨heq, hsome⟩ := hout h' rfl
    obtain ⟨r, hring, hl⟩ := lookup_ready heq hsome
    rw [hl] at h
    obtain ⟨⟨item, r'⟩, hr, h⟩ := Option.bind_eq_some_iff.mp h
    cases h
    exact hi.tcpTake (by rw [htcp]; rfl) hl hr (.inl rfl)
  case inReply item =>
    cases h
    obtain ⟨hring, hsession⟩ := hitem item rfl
    refine hi.tcpMove ⟨rfl, rfl, rfl, rfl, rfl, rfl, rfl, rfl⟩ rfl (fun p hp => .inl hp) ?_
      (by simp) (fun _ => hoper rfl) (by simp) (by simp [DapSessions.outHandle])
      (fun i hi' => hitem i hi')
    intro r hr
    rcases List.mem_append.mp hr with hr | hr
    · exact hi.replies r hr
    · rw [List.mem_singleton.mp hr]
      exact hsession
  case inRespond item | unlinkRespond item =>
    cases h
    exact hi.tcpMove ⟨rfl, rfl, rfl, rfl, rfl, rfl, rfl, rfl⟩ rfl (fun p hp => .inl hp) hi.replies
      (by simp) (fun _ => hoper rfl) (by simp) (by simp [DapSessions.outHandle])
      (fun i hi' => hitem i hi')
  case inReturn item | unlinkReturn item =>
    obtain ⟨r, hring, hret⟩ := returnTo_ready (hitem item rfl).1
    rw [hret] at h
    cases h
    refine hidle ⟨rfl, rfl, rfl, rfl, rfl, rfl, rfl, by rw [hring]; rfl⟩ rfl ?_ rfl (by simp) rfl
    rintro p (hp | hp | hp)
    · exact .inl hp
    · exact .inr (.inl ((mem_outItems hring).mpr hp))
    · exact .inr (.inr hp)
  case inDone | unlinkReply =>
    cases h
    exact hidle ⟨rfl, rfl, rfl, rfl, rfl, rfl, rfl, rfl⟩ rfl (fun _ => id) rfl (by simp) rfl
  case unlinkCall =>
    split at h
    next hpos =>
      cases h
      obtain ⟨hflag, hin, hout'⟩ := hready (by simpa using hpos)
      refine hi.tcpMove ⟨rfl, rfl, rfl, rfl, rfl, rfl, rfl, rfl⟩ rfl (fun p hp => .inl hp)
        hi.replies (by simp) (fun _ => ⟨hflag, hi.started_of_rings hin⟩) (by simp) ?_
        (by simp [tcpItem])
      intro h' heq
      cases heq
      exact ⟨rfl, isSome_handleOf hout'⟩
    next =>
      cases h
      exact hidle ⟨rfl, rfl, rfl, rfl, rfl, rfl, rfl, rfl⟩ rfl (fun _ => id) rfl (by simp) rfl
  case unlinkReceive h' =>
    obtain ⟨heq, hsome⟩ := hout h' rfl
    obtain ⟨r, hring, hl⟩ := lookup_ready heq hsome
    rw [hl] at h
    obtain ⟨⟨item, r'⟩, hr, h⟩ := Option.bind_eq_some_iff.mp h
    cases h
    exact hi.tcpTake (by rw [htcp]; rfl) hl hr (.inr rfl)
  case elFlag =>
    cases h
    exact hi.signal (by simp) rfl s.elBuffer
  case elMalloc =>
    have hfree := hi.freeRings (by rw [htcp]; rfl)
    split at h <;> cases h
    next => exact hidle ⟨rfl, rfl, rfl, rfl, rfl, rfl, rfl, rfl⟩ rfl (fun _ => id) rfl (by simp) rfl
    next =>
      exact hfree.tcpIdle ⟨rfl, rfl, rfl, rfl, rfl, rfl, rfl, rfl⟩ rfl (fun _ => id) rfl (by simp) rfl
  case wsMalloc =>
    have hfree := hi.freeRings (by rw [htcp]; rfl)
    split at h <;> cases h
    next => exact hidle ⟨rfl, rfl, rfl, rfl, rfl, rfl, rfl, rfl⟩ rfl (fun _ => id) rfl (by simp) rfl
    next =>
      exact hfree.tcpIdle ⟨rfl, rfl, rfl, rfl, rfl, rfl, rfl, rfl⟩ rfl (fun _ => id) rfl (by simp) rfl
  case elExecute | wsExecute | wsFree =>
    cases h
    exact hidle ⟨rfl, rfl, rfl, rfl, rfl, rfl, rfl, rfl⟩ rfl (fun _ => id) rfl (by simp) rfl
  case cleanup =>
    cases h
    exact hi.signal (by simp) rfl false
  case cleanupNotify =>
    cases h
    refine ⟨⟨hi.replies, hi.discarded, hi.handles⟩, hi.reset, hi.emptied, hi.old, ?_,
      fun h => absurd h Bool.false_ne_true, fun h' heq => by simp at heq, fun h' heq => ?_,
      fun i heq => ?_, hi.resetBy, hi.unstarted, hi.init⟩
    · intro hflag p hp
      exact absurd rfl (hcur hflag p hp).2.2
    · simp [DapSessions.outHandle] at heq
    · simp [tcpItem] at heq

theorem connect_inv (hi : Inv s) (htcp : s.tcp = .accept) (tr : Transport) :
    Inv (connect s tr) := by
  have hnone : s.kRestartDAPHandle = .noSignal → ∀ p, ¬ Held s p := fun hflag p hp =>
    (hi.current hflag p hp).2.1 htcp
  have hle := Nat.le_succ_of_le hi.resetBy
  cases tr <;>
    exact ⟨⟨hi.replies, hi.discarded, hi.handles⟩, hi.reset, hi.emptied, hi.old,
      fun hflag p hp => absurd hp (hnone hflag p), fun h => absurd h Bool.false_ne_true,
      fun h' heq => (by simp [connect] at heq), fun h' heq => (by simp [connect, DapSessions.outHandle] at heq),
      fun i heq => (by simp [connect, tcpItem] at heq), hle, hi.unstarted, hi.init⟩

theorem Inv.not_operating (hi : Inv s) (h : resetting s.dap = true) :
    inOperation s.tcp = false :=
  Bool.eq_false_iff.mpr fun hop => hi.reset h (hi.operation hop).1

theorem no_loads {pc : TcpPc} (hop : inOperation pc = false) :
    (∀ h, pc ≠ .outSend h) ∧ (∀ h, DapSessions.outHandle pc ≠ some h) ∧
      ∀ i, tcpItem pc ≠ some i := by
  cases pc <;> simp_all [inOperation, DapSessions.outHandle, tcpItem]

theorem Inv.init_step (hi : Inv s) (hdap : s.dap = .init) (r₁ r₂ : Ring) (n : Nat)
    (h₁ : r₁.items = []) (h₂ : r₂.items = []) :
    Inv { s with
      started := true, dataIN := some r₁, dataOUT := some r₂, nextRing := n, dap := .top } := by
  obtain ⟨hin, hout⟩ := hi.init hdap
  have hnone : ∀ p, ¬ Held { s with
      started := true, dataIN := some r₁, dataOUT := some r₂, nextRing := n, dap := .top } p := by
    rintro p (hp | hp | hp)
    · simp only [inItems, Option.map_some, Option.getD_some, h₁, List.not_mem_nil] at hp
    · simp only [outItems, Option.map_some, Option.getD_some, h₂, List.not_mem_nil] at hp
    · cases hp
  refine ⟨⟨hi.replies, hi.discarded, hi.handles⟩, fun h => absurd h Bool.false_ne_true,
    fun h => absurd h Bool.false_ne_true, fun _ p hp => absurd hp (hnone p),
    fun _ p hp => absurd hp (hnone p), fun hop => ⟨(hi.operation hop).1, rfl⟩, ?_, ?_, ?_,
    hi.resetBy, fun h => absurd h.symm Bool.false_ne_true, fun h => (by cases h)⟩
  · intro h htcp
    obtain ⟨rfl, hsome⟩ := hi.inHandle h htcp
    rw [hin] at hsome
    cases hsome
  · intro h htcp
    obtain ⟨rfl, hsome⟩ := hi.outHandle h htcp
    rw [hout] at hsome
    cases hsome
  · intro i htcp
    have hring := (hi.item i htcp).1
    rw [hout] at hring
    cases hring

theorem Inv.free_step (hi : Inv s) (hdap : s.dap = .free) :
    Inv { freeDapRingbuf s with
      discarded := s.discarded ++ (inItems s ++ outItems s).map (fun p => (s.resetBy, p))
      dap := .afterFree } := by
  have hres : resetting s.dap = true := by rw [hdap]; rfl
  have hflag := hi.reset hres
  have hst : s.started = true := by
    rw [← Bool.not_eq_false]
    intro h
    have := hi.unstarted h
    rw [hdap] at this
    cases this
  obtain ⟨hsend, hout, hitem⟩ := no_loads (hi.not_operating hres)
  have hdisc : ∀ r ∈ s.discarded ++ (inItems s ++ outItems s).map (fun p => (s.resetBy, p)),
      r.2.session ≤ r.1 := by
    intro r hr
    rcases List.mem_append.mp hr with hr | hr
    · exact hi.discarded r hr
    · obtain ⟨p, hp, rfl⟩ := List.mem_map.mp hr
      rcases List.mem_append.mp hp with hp | hp
      · exact hi.old hflag p (.inl hp)
      · exact hi.old hflag p (.inr (.inl hp))
  rw [freeDapRingbuf, if_pos hst]
  have hnone : ∀ p, ¬ Held { s with
      dataIN := none, dataOUT := none,
      discarded := s.discarded ++ (inItems s ++ outItems s).map (fun p => (s.resetBy, p)),
      dap := .afterFree } p := by
    rintro p (hp | hp | hp) <;> cases hp
  exact ⟨⟨hi.replies, hdisc, hi.handles⟩, fun _ => hflag, fun _ => ⟨rfl, rfl⟩,
    fun _ p hp => absurd hp (hnone p), fun h => absurd h hflag, hi.operation,
    fun h htcp => absurd htcp (hsend h), fun h htcp => absurd htcp (hout h),
    fun i htcp => absurd htcp (hitem i), hi.resetBy,
    fun h => absurd (hst.symm.trans h).symm Bool.false_ne_true, fun h => (by cases h)⟩

theorem Inv.malloc_step (hi : Inv s) (hdap : s.dap = .malloc) :
    Inv { mallocDapRingbuf s with dap := .clear } := by
  have hres : resetting s.dap = true := by rw [hdap]; rfl
  have hflag := hi.reset hres
  obtain ⟨hsend, hout, hitem⟩ := no_loads (hi.not_operating hres)
  obtain ⟨hin, hout'⟩ := hi.emptied (by rw [hdap]; rfl)
  have hempty : inItems { mallocDapRingbuf s with dap := .clear } = [] ∧
      outItems { mallocDapRingbuf s with dap := .clear } = [] :=
    ⟨(inItems_malloc s).trans hin, (outItems_malloc s).trans hout'⟩
  have hnone : ∀ p, ¬ Held { mallocDapRingbuf s with dap := .clear } p := by
    rintro p (hp | hp | hp)
    · rw [hempty.1] at hp; cases hp
    · rw [hempty.2] at hp; cases hp
    · cases hp
  refine ⟨⟨?_, ?_, ?_⟩, fun _ => ?_, fun _ => hempty, fun _ p hp => absurd hp (hnone p),
    fun _ p hp => absurd hp (hnone p), ?_, ?_, ?_, ?_, ?_, ?_, fun h => (by cases h)⟩
  · rw [mallocDapRingbuf_replies]; exact hi.replies
  · rw [mallocDapRingbuf_discarded]; exact hi.discarded
  · rw [mallocDapRingbuf_fault]; exact hi.handles
  · rw [mallocDapRingbuf_kRestartDAPHandle]; exact hflag
  · rw [mallocDapRingbuf_tcp, mallocDapRingbuf_kRestartDAPHandle, mallocDapRingbuf_started]
    exact hi.operation
  · rw [mallocDapRingbuf_tcp]; exact fun h htcp => absurd htcp (hsend h)
  · rw [mallocDapRingbuf_tcp]; exact fun h htcp => absurd htcp (hout h)
  · rw [mallocDapRingbuf_tcp]; exact fun i htcp => absurd htcp (hitem i)
  · rw [mallocDapRingbuf_resetBy, mallocDapRingbuf_session]; exact hi.resetBy
  · rw [mallocDapRingbuf_started]
    intro h
    rw [hi.unstarted h] at hdap
    cases hdap

theorem Inv.clear_step (hi : Inv s) (hdap : s.dap = .clear) :
    Inv { s with kRestartDAPHandle := .noSignal, dap := .wait } := by
  have hres : resetting s.dap = true := by rw [hdap]; rfl
  have hop := hi.not_operating hres
  obtain ⟨hsend, hout, hitem⟩ := no_loads hop
  have hempt : DapSessions.emptied s.dap = true := by rw [hdap]; rfl
  have hnone : ∀ p, ¬ Held { s with kRestartDAPHandle := .noSignal, dap := .wait } p := by
    rintro p (hp | hp | hp)
    · exact hi.not_held hempt p (.inl hp)
    · exact hi.not_held hempt p (.inr (.inl hp))
    · cases hp
  have hst : s.started ≠ false := fun h => by
    rw [hi.unstarted h] at hdap
    cases hdap
  exact ⟨⟨hi.replies, hi.discarded, hi.handles⟩, fun h => absurd h Bool.false_ne_true,
    fun h => absurd h Bool.false_ne_true, fun h => absurd rfl h, fun _ p hp => absurd hp (hnone p),
    fun h => absurd (hop.symm.trans h) Bool.false_ne_true, fun h htcp => absurd htcp (hsend h),
    fun h htcp => absurd htcp (hout h), fun i htcp => absurd htcp (hitem i), hi.resetBy,
    fun h => absurd h hst, fun h => (by cases h)⟩

theorem Inv.dapServe (hi : Inv s) (hk : Keeps s t) (htcp : t.tcp = s.tcp)
    (hheld : ∀ p, Held t p → Held s p) (hreplies : t.replies = s.replies)
    (hnot : resetting t.dap = false) (hinit : s.dap ≠ .init) (hinit' : t.dap ≠ .init) : Inv t := by
  refine hi.dapMove hk htcp hheld hreplies ?_ ?_ hinit hinit'
  · rw [hnot]; exact fun h => absurd h Bool.false_ne_true
  · exact fun h => absurd (hnot.symm.trans (resetting_of_emptied h)) Bool.false_ne_true

theorem dapStep_inv (hi : Inv s) (h : dapStep s = some t) : Inv t := by
  have hserve := @Inv.dapServe s t hi
  have hmove := @Inv.dapMove s t hi
  have hreset := hi.reset
  have hempt := hi.emptied
  have hheld : ∀ p, p ∈ inItems s ∨ p ∈ outItems s ∨ p ∈ dapPacket s.dap → Held s p :=
    fun p => id
  rw [dapStep] at h
  cases hdap : s.dap <;> rw [hdap] at h hmove hserve hreset hempt hheld <;> simp only at h
  case init =>
    cases h
    exact hi.init_step hdap _ _ _ rfl rfl
  case free => cases h; exact hi.free_step hdap
  case malloc => cases h; exact hi.malloc_step hdap
  case clear => cases h; exact hi.clear_step hdap
  case top =>
    split at h <;> cases h
    next => exact hserve ⟨rfl, rfl, rfl, rfl, rfl, rfl, rfl, rfl⟩ rfl hheld rfl rfl (by simp) (by simp)
    next hflag =>
      exact hmove ⟨rfl, rfl, rfl, rfl, rfl, rfl, rfl, rfl⟩ rfl hheld rfl (fun _ => hflag)
        (fun h => absurd h Bool.false_ne_true) (by simp) (by simp)
  case afterFree =>
    split at h <;> cases h <;>
      exact hmove ⟨rfl, rfl, rfl, rfl, rfl, rfl, rfl, rfl⟩ rfl hheld rfl (fun _ => hreset rfl)
        (fun _ => hempt rfl) (by simp) (by simp)
  case respond | process item | sendCall p =>
    cases h
    exact hserve ⟨rfl, rfl, rfl, rfl, rfl, rfl, rfl, rfl⟩ rfl hheld rfl rfl (by simp) (by simp)
  case wait =>
    split at h <;> cases h
    exact hserve ⟨rfl, rfl, rfl, rfl, rfl, rfl, rfl, rfl⟩ rfl hheld rfl rfl (by simp) (by simp)
  case check =>
    split at h <;> cases h <;>
      exact hserve ⟨rfl, rfl, rfl, rfl, rfl, rfl, rfl, rfl⟩ rfl hheld rfl rfl (by simp) (by simp)
  case receive h' =>
    split at h
    next => cases h; exact hi.failDap
    next r hl =>
      have hring := (lookup_some hl).1
      split at h
      next =>
        cases h
        exact hserve ⟨rfl, rfl, rfl, rfl, rfl, rfl, rfl, rfl⟩ rfl hheld rfl rfl (by simp) (by simp)
      next item r' hr =>
        cases h
        obtain ⟨hitems, _, hid⟩ := receiveFrom_some hr
        have hin : handleOf (some r') = handleOf s.dataIN := by
          rw [hring, handleOf, handleOf, Option.map_some, Option.map_some, hid]
        refine hserve ⟨rfl, rfl, rfl, rfl, rfl, rfl, hin, rfl⟩ rfl ?_ rfl rfl (by simp) (by simp)
        rintro p (hp | hp | hp)
        · exact hheld p (.inl ((mem_inItems hring).mpr (hitems ▸ List.mem_cons_of_mem _ hp)))
        · exact hheld p (.inr (.inl hp))
        · rw [List.mem_singleton.mp hp]
          exact hheld _ (.inl ((mem_inItems hring).mpr (hitems ▸ List.mem_cons_self)))
  case returnIn item =>
    split at h
    next => cases h; exact hi.failDap
    next r' hr =>
      cases h
      obtain ⟨r, hring, _, rfl⟩ := returnTo_some hr
      refine hserve ⟨rfl, rfl, rfl, rfl, rfl, rfl, by rw [hring]; rfl, rfl⟩ rfl ?_ rfl rfl (by simp)
        (by simp)
      rintro p (hp | hp | hp)
      · exact hheld p (.inl ((mem_inItems hring).mpr hp))
      · exact hheld p (.inr (.inl hp))
      · exact hheld p (.inr (.inr hp))
  case sendOut p h' =>
    split at h
    next => cases h; exact hi.failDap
    next r hl =>
      obtain ⟨r', hsend, h⟩ := Option.bind_eq_some_iff.mp h
      cases h
      have hring := (lookup_some hl).1
      rw [sendTo_some hsend] at hserve ⊢
      refine hserve ⟨rfl, rfl, rfl, rfl, rfl, rfl, rfl, by rw [hring]; rfl⟩ rfl ?_ rfl rfl (by simp)
        (by simp)
      rintro q (hq | hq | hq)
      · exact hheld q (.inl hq)
      · simp only [outItems, Option.map_some, Option.getD_some, List.mem_append] at hq
        rcases hq with hq | hq
        · exact hheld q (.inr (.inl ((mem_outItems hring).mpr hq)))
        · exact hheld q (.inr (.inr hq))
      · cases hq

theorem urbCommand_inv (hi : Inv s) (c : Command) : Inv (urbCommand s c) := by
  have hidle := fun t => @Inv.tcpIdle s t hi
  cases c with
  | outSubmit | unlink =>
      exact hidle _ ⟨rfl, rfl, rfl, rfl, rfl, rfl, rfl, rfl⟩ rfl (fun _ => id) rfl
        (by simp [urbCommand]) rfl
  | inSubmit =>
      rw [urbCommand]
      split
      next =>
        exact hidle _ ⟨rfl, rfl, rfl, rfl, rfl, rfl, rfl, rfl⟩ rfl (fun _ => id) rfl (by simp) rfl
      next => exact hi
  | other => exact hi

end WirelessEsp.DapSessions
