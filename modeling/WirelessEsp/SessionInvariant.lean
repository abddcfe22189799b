import WirelessEsp.DapProxy

namespace WirelessEsp.DapSessions

open Transition DapProxy

def dapPacket : DapPc → List Packet
  | .process item => [item.packet]
  | .returnIn item => [item.packet]
  | .sendCall p => [p]
  | .sendOut p _ => [p]
  | _ => []

def tcpItem : TcpPc → Option Item
  | .inReply item => some item
  | .inRespond item => some item
  | .inReturn item => some item
  | .unlinkRespond item => some item
  | .unlinkReturn item => some item
  | _ => none

def outHandle : TcpPc → Option Handle
  | .inReceive h => some h
  | .unlinkReceive h => some h
  | _ => none

def inOperation : TcpPc → Bool
  | .outSend _ => true
  | .outNotify => true
  | .inReceive _ => true
  | .inReply _ => true
  | .inRespond _ => true
  | .inReturn _ => true
  | .unlinkReceive _ => true
  | .unlinkRespond _ => true
  | .unlinkReturn _ => true
  | _ => false

def resetting : DapPc → Bool
  | .free => true
  | .afterFree => true
  | .malloc => true
  | .clear => true
  | _ => false

/-- The rings have been deleted in the reset, and `DAP_Thread` is still in it. -/
def emptied : DapPc → Bool
  | .afterFree => true
  | .malloc => true
  | .clear => true
  | _ => false

def Held (s : State) (p : Packet) : Prop :=
  p ∈ inItems s ∨ p ∈ outItems s ∨ p ∈ dapPacket s.dap

/-- Replies stay within their session, a reset discards nothing of a session
after the one that asked for it, and the handles of the TCP task are good. -/
structure SessionSafe (s : State) : Prop where
  replies : ∀ r ∈ s.replies, r.2.session = r.1
  discarded : ∀ r ∈ s.discarded, r.2.session ≤ r.1
  handles : s.fault ≠ some .tcpTask

def loadsHandle (s : State) : Bool :=
  match s.tcp with
  | .outReply => true
  | .inCall => true
  | .unlinkCall => s.dapRespond > 0
  | _ => false

/-- Ring operations begin after the reset that the last session asked for is
complete, with both rings in place. -/
def RingsReady (s : State) (a : Act) : Prop :=
  a = .tcp → loadsHandle s = true →
    s.kRestartDAPHandle = .noSignal ∧ s.dataIN.isSome = true ∧ s.dataOUT.isSome = true

instance (s : State) (a : Act) : Decidable (RingsReady s a) :=
  inferInstanceAs (Decidable (_ → _))

structure Inv (s : State) : Prop extends SessionSafe s where
  reset : resetting s.dap = true → s.kRestartDAPHandle ≠ .noSignal
  emptied : emptied s.dap = true → inItems s = [] ∧ outItems s = []
  old : s.kRestartDAPHandle ≠ .noSignal → ∀ p, Held s p → p.session ≤ s.resetBy
  current : s.kRestartDAPHandle = .noSignal → ∀ p, Held s p →
    p.session = s.session ∧ s.tcp ≠ .accept ∧ s.tcp ≠ .cleanupNotify
  operation : inOperation s.tcp = true → s.kRestartDAPHandle = .noSignal ∧ s.started = true
  inHandle : ∀ h, s.tcp = .outSend h → h = handleOf s.dataIN ∧ h.isSome = true
  outHandle : ∀ h, outHandle s.tcp = some h → h = handleOf s.dataOUT ∧ h.isSome = true
  item : ∀ i, tcpItem s.tcp = some i →
    handleOf s.dataOUT = some i.ring ∧ i.packet.session = s.session
  resetBy : s.resetBy ≤ s.session
  unstarted : s.started = false → s.dap = .init
  init : s.dap = .init → handleOf s.dataIN = none ∧ handleOf s.dataOUT = none

structure Keeps (s t : State) : Prop where
  flag : t.kRestartDAPHandle = s.kRestartDAPHandle
  started : t.started = s.started
  session : t.session = s.session
  resetBy : t.resetBy = s.resetBy
  discarded : t.discarded = s.discarded
  fault : t.fault = s.fault
  inHandle : handleOf t.dataIN = handleOf s.dataIN
  outHandle : handleOf t.dataOUT = handleOf s.dataOUT

variable {s t : State}

theorem Inv.not_held (hi : Inv s) (he : DapSessions.emptied s.dap = true) (p : Packet) :
    ¬ Held s p := by
  obtain ⟨hin, hout⟩ := hi.emptied he
  have hdap : dapPacket s.dap = [] := by
    cases hd : s.dap <;> simp_all [DapSessions.emptied, dapPacket]
  rintro (h | h | h)
  · rw [hin] at h; cases h
  · rw [hout] at h; cases h
  · rw [hdap] at h; cases h

theorem resetting_of_emptied {pc : DapPc} (h : DapSessions.emptied pc = true) :
    resetting pc = true := by
  cases pc <;> simp_all [DapSessions.emptied, resetting]

/-- A step of the TCP task within a session. A packet that is new belongs to
the session, and comes in while no reset is pending. -/
theorem Inv.tcpMove (hi : Inv s) (hk : Keeps s t) (hdap : t.dap = s.dap)
    (hheld : ∀ p, Held t p → Held s p ∨
      (s.kRestartDAPHandle = .noSignal ∧ p.session = s.session))
    (hsafe : ∀ r ∈ t.replies, r.2.session = r.1)
    (hpc : t.tcp ≠ .accept ∧ t.tcp ≠ .cleanupNotify)
    (hop : inOperation t.tcp = true → s.kRestartDAPHandle = .noSignal ∧ s.started = true)
    (hin : ∀ h, t.tcp = .outSend h → h = handleOf s.dataIN ∧ h.isSome = true)
    (hout : ∀ h, DapSessions.outHandle t.tcp = some h → h = handleOf s.dataOUT ∧ h.isSome = true)
    (hitem : ∀ i, tcpItem t.tcp = some i →
      handleOf s.dataOUT = some i.ring ∧ i.packet.session = s.session) : Inv t := by
  refine ⟨⟨hsafe, ?_, ?_⟩, ?_, ?_, ?_, ?_, ?_, ?_, ?_, ?_, ?_, ?_, ?_⟩
  · rw [hk.discarded]; exact hi.discarded
  · rw [hk.fault]; exact hi.handles
  · rw [hdap, hk.flag]; exact hi.reset
  · rw [hdap]
    intro he
    have hnone : ∀ p, ¬ Held t p := fun p hp => by
      rcases hheld p hp with h | h
      · exact hi.not_held he p h
      · exact hi.reset (resetting_of_emptied he) h.1
    exact ⟨List.eq_nil_iff_forall_not_mem.mpr fun p hp => hnone p (.inl hp),
      List.eq_nil_iff_forall_not_mem.mpr fun p hp => hnone p (.inr (.inl hp))⟩
  · rw [hk.flag, hk.resetBy]
    intro hflag p hp
    rcases hheld p hp with h | h
    · exact hi.old hflag p h
    · exact absurd h.1 hflag
  · rw [hk.flag, hk.session]
    intro hflag p hp
    rcases hheld p hp with h | h
    · exact ⟨(hi.current hflag p h).1, hpc⟩
    · exact ⟨h.2, hpc⟩
  · rw [hk.flag, hk.started]; exact hop
  · rw [hk.inHandle]; exact hin
  · rw [hk.outHandle]; exact hout
  · rw [hk.outHandle, hk.session]; exact hitem
  · rw [hk.resetBy, hk.session]; exact hi.resetBy
  · rw [hk.started, hdap]; exact hi.unstarted
  · rw [hdap, hk.inHandle, hk.outHandle]; exact hi.init

theorem Inv.dapMove (hi : Inv s) (hk : Keeps s t) (htcp : t.tcp = s.tcp)
    (hheld : ∀ p, Held t p → Held s p)
    (hreplies : t.replies = s.replies) (hreset : resetting t.dap = true →
      s.kRestartDAPHandle ≠ .noSignal) (hempt : DapSessions.emptied t.dap = true →
      inItems t = [] ∧ outItems t = []) (hinit : s.dap ≠ .init) (hinit' : t.dap ≠ .init) : Inv t := by
  have hst : s.started ≠ false := fun h => hinit (hi.unstarted h)
  refine ⟨⟨?_, ?_, ?_⟩, ?_, hempt, ?_, ?_, ?_, ?_, ?_, ?_, ?_, ?_, fun h => absurd h hinit'⟩
  · rw [hreplies]; exact hi.replies
  · rw [hk.discarded]; exact hi.discarded
  · rw [hk.fault]; exact hi.handles
  · rw [hk.flag]; exact hreset
  · rw [hk.flag, hk.resetBy]
    exact fun hflag p hp => hi.old hflag p (hheld p hp)
  · rw [hk.flag, hk.session, htcp]
    exact fun hflag p hp => hi.current hflag p (hheld p hp)
  · rw [hk.flag, hk.started, htcp]; exact hi.operation
  · rw [hk.inHandle, htcp]; exact hi.inHandle
  · rw [hk.outHandle, htcp]; exact hi.outHandle
  · rw [hk.outHandle, hk.session, htcp]; exact hi.item
  · rw [hk.resetBy, hk.session]; exact hi.resetBy
  · rw [hk.started]; exact fun h => absurd h hst

theorem mem_inItems {r : Ring} (h : s.dataIN = some r) {p : Packet} :
    p ∈ inItems s ↔ p ∈ r.items := by
  rw [inItems, h]; rfl

theorem mem_outItems {r : Ring} (h : s.dataOUT = some r) {p : Packet} :
    p ∈ outItems s ↔ p ∈ r.items := by
  rw [outItems, h]; rfl

theorem Inv.failDap (hi : Inv s) : Inv (fail s .dapThread) :=
  ⟨⟨hi.replies, hi.discarded, by simp [fail]⟩, hi.reset, hi.emptied, hi.old, hi.current,
    hi.operation, hi.inHandle, hi.outHandle, hi.item, hi.resetBy, hi.unstarted, hi.init⟩

theorem lookup_ready {ring : Option Ring} {h : Handle} (heq : h = handleOf ring)
    (hsome : h.isSome = true) : ∃ r, ring = some r ∧ lookup ring h = some r := by
  subst heq
  cases ring with
  | none => cases hsome
  | some r => exact ⟨r, rfl, lookup_self r⟩

theorem returnTo_ready {ring : Option Ring} {item : Item} (h : handleOf ring = some item.ring) :
    ∃ r, ring = some r ∧ returnTo ring item = some { r with taken := false } := by
  cases ring with
  | none => cases h
  | some r =>
      refine ⟨r, rfl, ?_⟩
      rw [returnTo, ← h]
      simp only [handleOf, Option.map_some, lookup_self]

theorem isSome_handleOf {ring : Option Ring} (h : ring.isSome = true) :
    (handleOf ring).isSome = true := by
  cases ring with
  | none => cases h
  | some r => rfl

theorem tcpStep_send (hi : Inv s) {h : Handle} (htcp : s.tcp = .outSend h)
    (h' : tcpStep s = some t) : Inv t := by
  obtain ⟨heq, hsome⟩ := hi.inHandle h htcp
  obtain ⟨r, hring, hl⟩ := lookup_ready heq hsome
  have hop := hi.operation (by rw [htcp]; rfl)
  simp only [tcpStep, htcp, hl] at h'
  obtain ⟨r', hsend, h'⟩ := Option.bind_eq_some_iff.mp h'
  cases h'
  rw [sendTo_some hsend]
  refine hi.tcpMove ⟨rfl, rfl, rfl, rfl, rfl, rfl, by rw [hring]; rfl, rfl⟩ rfl ?_ hi.replies
    (by simp) (fun _ => hop) (by simp) (by simp [DapSessions.outHandle]) (by simp [tcpItem])
  rintro p (hp | hp | hp)
  · simp only [inItems, Option.map_some, Option.getD_some, List.mem_append,
      List.mem_singleton] at hp
    rcases hp with hp | rfl
    · exact .inl (.inl ((mem_inItems hring).mpr hp))
    · exact .inr ⟨hop.1, rfl⟩
  · exact .inl (.inr (.inl hp))
  · exact .inl (.inr (.inr hp))

theorem Inv.tcpTake (hi : Inv s) {h : Handle} (hop : inOperation s.tcp = true) {r r' : Ring} {item : Item}
    (hl : lookup s.dataOUT h = some r) (hr : receiveFrom r = some (item, r')) {pc : TcpPc}
    (hpc' : pc = .inReply item ∨ pc = .unlinkRespond item) :
    Inv { s with dataOUT := some r', tcp := pc } := by
  have hop' := hi.operation hop
  have hring := (lookup_some hl).1
  obtain ⟨hitems, hid, hid'⟩ := receiveFrom_some hr
  have hmem : ∀ p ∈ r'.items, p ∈ outItems s := fun p hp =>
    (mem_outItems hring).mpr (hitems ▸ List.mem_cons_of_mem _ hp)
  have hout : handleOf (some r') = handleOf s.dataOUT := by
    rw [hring, handleOf, handleOf, Option.map_some, Option.map_some, hid']
  have hitem : handleOf s.dataOUT = some item.ring ∧ item.packet.session = s.session := by
    refine ⟨by rw [hring, hid]; rfl, (hi.current hop'.1 _ (.inr (.inl ?_))).1⟩
    exact (mem_outItems hring).mpr (hitems ▸ List.mem_cons_self)
  refine hi.tcpMove ⟨rfl, rfl, rfl, rfl, rfl, rfl, rfl, hout⟩ rfl ?_ hi.replies ?_ (fun _ => hop')
    ?_ ?_ ?_
  · rintro p (hp | hp | hp)
    · exact .inl (.inl hp)
    · exact .inl (.inr (.inl (hmem p hp)))
    · exact .inl (.inr (.inr hp))
  · rcases hpc' with rfl | rfl <;> simp
  · rcases hpc' with rfl | rfl <;> simp
  · rcases hpc' with rfl | rfl <;> simp [DapSessions.outHandle]
  · intro i hi'
    have heq : item = i := by rcases hpc' with rfl | rfl <;> simpa [tcpItem] using hi'
    exact heq ▸ hitem

theorem Inv.started_of_rings (hi : Inv s) (h : s.dataIN.isSome = true) : s.started = true := by
  rw [← Bool.not_eq_false]
  intro hst
  have hnone := (hi.init (hi.unstarted hst)).1
  have hsome := isSome_handleOf h
  rw [hnone] at hsome
  cases hsome

theorem Inv.tcpIdle (hi : Inv s) (hk : Keeps s t) (hdap : t.dap = s.dap)
    (hheld : ∀ p, Held t p → Held s p) (hreplies : t.replies = s.replies)
    (hpc : t.tcp ≠ .accept ∧ t.tcp ≠ .cleanupNotify) (hop : inOperation t.tcp = false) : Inv t := by
  refine hi.tcpMove hk hdap (fun p hp => .inl (hheld p hp)) (by rw [hreplies]; exact hi.replies)
    hpc (by rw [hop]; exact fun h => absurd h Bool.false_ne_true) ?_ ?_ ?_
  · intro h htcp
    rw [htcp] at hop
    cases hop
  · intro h htcp
    cases hpc' : t.tcp <;> simp_all [DapSessions.outHandle, inOperation]
  · intro i htcp
    cases hpc' : t.tcp <;> simp_all [tcpItem, inOperation]

theorem Inv.signal (hi : Inv s) {f : ResetHandle} (hf : f ≠ .noSignal) {pc : TcpPc}
    (hop : inOperation pc = false) (buffer : Bool) :
    Inv { s with kRestartDAPHandle := f, resetBy := s.session, tcp := pc, elBuffer := buffer } := by
  refine ⟨⟨hi.replies, hi.discarded, hi.handles⟩, fun _ => hf, hi.emptied, ?_,
    fun h => absurd h hf, ?_, ?_, ?_, ?_, Nat.le_refl _, hi.unstarted, hi.init⟩
  · intro _ p hp
    by_cases hflag : s.kRestartDAPHandle = .noSignal
    · exact Nat.le_of_eq (hi.current hflag p hp).1
    · exact Nat.le_trans (hi.old hflag p hp) hi.resetBy
  · exact fun h => absurd (hop.symm.trans h) Bool.false_ne_true
  · intro h htcp
    simp only at htcp
    rw [htcp] at hop
    cases hop
  · intro h htcp
    cases pc <;> simp_all [DapSessions.outHandle, inOperation]
  · intro i htcp
    cases pc <;> simp_all [tcpItem, inOperation]

theorem held_free (p : Packet) (hp : Held (freeDapRingbuf s) p) : Held s p := by
  rcases hp with hp | hp | hp
  · rw [freeDapRingbuf] at hp
    split at hp
    next => cases hp
    next => exact .inl hp
  · rw [freeDapRingbuf] at hp
    split at hp
    next => cases hp
    next => exact .inr (.inl hp)
  · rw [freeDapRingbuf_dap] at hp
    exact .inr (.inr hp)

theorem Inv.freeRings (hi : Inv s) (hop : inOperation s.tcp = false) :
    Inv (freeDapRingbuf s) := by
  cases hst : s.started with
  | false =>
      have hsame : freeDapRingbuf s = s := by rw [freeDapRingbuf, hst]; rfl
      rw [hsame]
      exact hi
  | true =>
      have hheld := held_free (s := s)
      rw [freeDapRingbuf, if_pos hst] at hheld ⊢
      refine ⟨⟨hi.replies, hi.discarded, hi.handles⟩, hi.reset, fun _ => ⟨rfl, rfl⟩,
        fun hflag p hp => hi.old hflag p (hheld p hp),
        fun hflag p hp => hi.current hflag p (hheld p hp), hi.operation, ?_, ?_, ?_, hi.resetBy,
        hi.unstarted, fun _ => ⟨rfl, rfl⟩⟩
      · intro h htcp
        simp only at htcp
        rw [htcp] at hop
        cases hop
      · intro h htcp
        cases hpc : s.tcp <;> simp_all [DapSessions.outHandle, inOperation]
      · intro i htcp
        cases hpc : s.tcp <;> simp_all [tcpItem, inOperation]

end WirelessEsp.DapSessions
