import WirelessEsp.KcpWindow

namespace WirelessEsp.Kcp

open Transition

/-- What a flush writes to `buffer` has room there: a packet, and each segment that waits in one. -/
structure InBuffer (kcp : Ikcpcb) : Prop where
  room : kcp.mtu.toNat ≤ kcp.buffer.toNat
  mss : IKCP_OVERHEAD + kcp.mss.toNat = kcp.mtu.toNat
  queue : ∀ seg ∈ kcp.sndQueue, seg.data.length ≤ kcp.mss.toNat
  buf : ∀ seg ∈ kcp.sndBuf, seg.data.length ≤ kcp.mss.toNat

/-- The bytes at `ptr` and the datagrams so far, none of them longer than `n`. -/
structure Outgoing.Within (n : Nat) (o : Outgoing) : Prop where
  sent : ∀ d ∈ o.sent, d.length ≤ n
  pending : o.pending.length ≤ n

/-- Each segment of `kcp'.sndBuf` has the data of one of `kcp.sndBuf`. -/
def Resends (kcp kcp' : Ikcpcb) : Prop :=
  ∀ seg ∈ kcp'.sndBuf, ∃ old ∈ kcp.sndBuf, seg.data = old.data

variable {kcp kcp' : Ikcpcb} {n : Nat} {mtu : UInt32} {o : Outgoing}

theorem Resends.of_eq (h : kcp'.sndBuf = kcp.sndBuf) : Resends kcp kcp' := by
  intro seg hseg
  rw [h] at hseg
  exact ⟨seg, hseg, rfl⟩

theorem Resends.of_sender (h : kcp'.sender = kcp.sender) : Resends kcp kcp' := by
  apply Resends.of_eq
  exact congrArg (fun t => t.2.2.2.1) h

theorem Resends.trans {k₁ k₂ k₃ : Ikcpcb} (h : Resends k₁ k₂) (h' : Resends k₂ k₃) :
    Resends k₁ k₃ := by
  intro seg hseg
  obtain ⟨old, hold, hdata⟩ := h' seg hseg
  obtain ⟨old', hold', hdata'⟩ := h old hold
  exact ⟨old', hold', hdata.trans hdata'⟩

theorem same_data {segs segs' : List Segment} (h : List.Forall₂ Segment.Same segs segs') :
    ∀ seg ∈ segs', ∃ old ∈ segs, seg.data = old.data := by
  induction h with
  | nil => exact fun seg hseg => absurd hseg List.not_mem_nil
  | cons hsame _ ih =>
      intro seg hseg
      rcases List.mem_cons.mp hseg with rfl | hseg
      · exact ⟨_, List.mem_cons_self, congrArg Prod.snd hsame.2.2.2⟩
      · obtain ⟨old, hold, hdata⟩ := ih seg hseg
        exact ⟨old, List.mem_cons_of_mem _ hold, hdata⟩

theorem Resends.of_same (h : List.Forall₂ Segment.Same kcp.sndBuf kcp'.sndBuf) :
    Resends kcp kcp' := same_data h

theorem InBuffer.keep (h : InBuffer kcp) (hset : kcp'.settings = kcp.settings)
    (hqueue : kcp'.sndQueue = kcp.sndQueue) (hbuf : Resends kcp kcp') : InBuffer kcp' := by
  simp only [Ikcpcb.settings, Prod.mk.injEq] at hset
  obtain ⟨-, hmtu, hmss, -, hbuffer⟩ := hset
  refine ⟨?_, ?_, ?_, ?_⟩
  · rw [hmtu, hbuffer]
    exact h.room
  · rw [hmtu, hmss]
    exact h.mss
  · rw [hqueue, hmss]
    exact h.queue
  · intro seg hseg
    obtain ⟨old, hold, hdata⟩ := hbuf seg hseg
    rw [hdata, hmss]
    exact h.buf old hold

section Output

theorem Outgoing.Within.output (h : o.Within n) : o.output.Within n := by
  refine ⟨?_, Nat.zero_le n⟩
  intro d hd
  rw [Outgoing.output] at hd
  split at hd
  next => exact h.sent d hd
  next =>
    rcases List.mem_append.mp hd with hd | hd
    · exact h.sent d hd
    · rw [List.mem_singleton.mp hd]
      exact h.pending

theorem Outgoing.Within.put (h : o.Within mtu.toNat) {bytes : List UInt8}
    (hbytes : bytes.length ≤ mtu.toNat) : (o.put mtu bytes).Within mtu.toNat := by
  rw [Outgoing.put]
  split
  next =>
    refine ⟨h.output.sent, ?_⟩
    change ([] ++ bytes).length ≤ mtu.toNat
    rw [List.nil_append]
    exact hbytes
  next hroom =>
    refine ⟨h.sent, ?_⟩
    change (o.pending ++ bytes).length ≤ mtu.toNat
    rw [List.length_append]
    exact Nat.not_lt.mp hroom

theorem flushAcks_within (hmtu : IKCP_OVERHEAD ≤ mtu.toNat) (acks : List (UInt32 × UInt32))
    (seg : Segment) (h : o.Within mtu.toNat) :
    (flushAcks mtu acks seg o).2.Within mtu.toNat := by
  induction acks generalizing seg o with
  | nil => exact h
  | cons a acks ih => exact ih _ (h.put hmtu)

theorem flushProbe_within {mtu' : UInt32} (hsame : mtu' = mtu) (hmtu : IKCP_OVERHEAD ≤ mtu.toNat)
    (probe ask cmd : UInt32) {p : Segment × Outgoing} (h : p.2.Within mtu.toNat) :
    (flushProbe mtu' probe ask cmd p).2.Within mtu.toNat := by
  rw [hsame, flushProbe]
  split
  next => exact h.put hmtu
  next => exact h

theorem flushSegment_within (wnd resent rtomin : UInt32) {segment : Segment} {r : Resending}
    (hsegment : IKCP_OVERHEAD + segment.data.length ≤ kcp.mtu.toNat)
    (h : r.out.Within kcp.mtu.toNat) :
    (flushSegment kcp wnd resent rtomin segment r).2.out.Within kcp.mtu.toNat ∧
      segment.Same (flushSegment kcp wnd resent rtomin segment r).1 := by
  have hsame := schedule_same kcp rtomin segment (need kcp resent segment)
  rw [flushSegment]
  dsimp only
  split
  next => exact ⟨h, .refl segment⟩
  next =>
    refine ⟨h.put ?_, hsame⟩
    have hdata : (schedule kcp rtomin segment (need kcp resent segment)).data = segment.data :=
      congrArg Prod.snd hsame.2.2.2
    rw [List.length_append, encodeSeg_length, hdata]
    exact hsegment

theorem flushSegments_within (wnd resent rtomin : UInt32) {segs : List Segment} {r : Resending}
    (hsegs : ∀ seg ∈ segs, IKCP_OVERHEAD + seg.data.length ≤ kcp.mtu.toNat)
    (h : r.out.Within kcp.mtu.toNat) :
    (flushSegments kcp wnd resent rtomin segs r).2.out.Within kcp.mtu.toNat ∧
      List.Forall₂ Segment.Same segs (flushSegments kcp wnd resent rtomin segs r).1 := by
  induction segs generalizing r with
  | nil => exact ⟨h, .nil⟩
  | cons segment rest ih =>
      obtain ⟨hfirst, hrest⟩ := List.forall_mem_cons.mp hsegs
      obtain ⟨hone, hsame⟩ := flushSegment_within wnd resent rtomin hfirst h
      obtain ⟨hall, hothers⟩ := ih hrest hone
      exact ⟨hall, .cons hsame hothers⟩

end Output

theorem numberOne_inBuffer {wnd : UInt32} {newseg : Segment} {rest : List Segment}
    (h : InBuffer kcp) (hqueue : kcp.sndQueue = newseg :: rest) :
    InBuffer (numberOne wnd newseg rest kcp) := by
  have hsegs := h.queue
  rw [hqueue] at hsegs
  obtain ⟨hfirst, hrest⟩ := List.forall_mem_cons.mp hsegs
  refine ⟨h.room, h.mss, hrest, ?_⟩
  intro seg hseg
  rcases List.mem_append.mp hseg with hseg | hseg
  · exact h.buf seg hseg
  · rw [List.mem_singleton.mp hseg]
    exact hfirst

theorem moveQueued_inBuffer (cwnd wnd : UInt32) {segs : List Segment} (h : InBuffer kcp)
    (hqueue : kcp.sndQueue = segs) : InBuffer (moveQueued cwnd wnd segs kcp) := by
  induction segs generalizing kcp with
  | nil => exact h
  | cons newseg rest ih =>
      rw [moveQueued]
      split
      next => exact ih (numberOne_inBuffer h hqueue) rfl
      next => exact h

theorem flushControl_inBuffer (h : InBuffer kcp) :
    InBuffer (flushControl kcp).1 ∧ (flushControl kcp).2.Within kcp.mtu.toNat ∧
      (flushControl kcp).1.mtu = kcp.mtu := by
  have hover : IKCP_OVERHEAD ≤ kcp.mtu.toNat := h.mss ▸ Nat.le_add_right _ _
  obtain ⟨hsender, -, hmtu⟩ := probeWindow_sides { kcp with acklist := [] }
  have hprobe := probeWindow_settings { kcp with acklist := [] }
  have hcleared : InBuffer { kcp with acklist := [] } := ⟨h.room, h.mss, h.queue, h.buf⟩
  have hprobed : InBuffer (probeWindow { kcp with acklist := [] }) := by
    apply hcleared.keep hprobe
    · exact congrArg (fun t => t.1.2.2.1) hsender
    · exact Resends.of_sender hsender
  refine ⟨⟨hprobed.room, hprobed.mss, hprobed.queue, hprobed.buf⟩, ?_, hmtu⟩
  have hacks := flushAcks_within hover kcp.acklist (flushHeader kcp)
    (⟨fun d hd => absurd hd List.not_mem_nil, Nat.zero_le _⟩ : ({} : Outgoing).Within kcp.mtu.toNat)
  exact flushProbe_within hmtu hover _ _ _ (flushProbe_within hmtu hover _ _ _ hacks)

theorem flushData_inBuffer (wnd : UInt32) (h : InBuffer kcp) (ho : o.Within kcp.mtu.toNat) :
    InBuffer (flushData wnd o kcp).1 ∧ ∀ d ∈ (flushData wnd o kcp).2, d.length ≤ kcp.mtu.toNat := by
  have hmoved := moveQueued_inBuffer (sendWindow kcp) wnd h rfl
  have hset := moveQueued_settings (sendWindow kcp) wnd kcp.sndQueue kcp
  have hmtu : (moveQueued (sendWindow kcp) wnd kcp.sndQueue kcp).mtu = kcp.mtu :=
    congrArg (fun t => t.2.1) hset
  rw [flushData]
  dsimp only
  generalize moveQueued (sendWindow kcp) wnd kcp.sndQueue kcp = k at hmoved hmtu
  rw [← hmtu] at ho ⊢
  have hsegs : ∀ seg ∈ k.sndBuf, IKCP_OVERHEAD + seg.data.length ≤ k.mtu.toNat := by
    intro seg hseg
    rw [← hmoved.mss]
    exact Nat.add_le_add_left (hmoved.buf seg hseg) _
  obtain ⟨hout, hsame⟩ := flushSegments_within wnd _ _ hsegs
    (r := { out := o, xmit := k.xmit, state := k.state }) ho
  exact ⟨hmoved.keep rfl rfl (Resends.of_same hsame), hout.output.sent⟩

theorem ikcpFlush_inBuffer (h : InBuffer kcp) :
    InBuffer (ikcpFlush kcp).1 ∧ ∀ d ∈ (ikcpFlush kcp).2, d.length ≤ kcp.mtu.toNat := by
  rw [ikcpFlush]
  split
  next => exact ⟨h, fun d hd => absurd hd List.not_mem_nil⟩
  next =>
    obtain ⟨hcontrol, hout, hmtu⟩ := flushControl_inBuffer h
    rw [← hmtu] at hout ⊢
    exact flushData_inBuffer _ hcontrol hout

theorem ikcpUpdate_inBuffer (current : UInt32) (h : InBuffer kcp) :
    InBuffer (ikcpUpdate current kcp).1 ∧
      ∀ d ∈ (ikcpUpdate current kcp).2, d.length ≤ kcp.mtu.toNat := by
  have hstart : InBuffer (startClock current kcp) ∧ (startClock current kcp).mtu = kcp.mtu := by
    rw [startClock]
    dsimp only
    split <;> split <;> exact ⟨⟨h.room, h.mss, h.queue, h.buf⟩, rfl⟩
  obtain ⟨hclock, hmtu⟩ := hstart
  rw [ikcpUpdate]
  dsimp only
  split
  next =>
    rw [← hmtu]
    exact ikcpFlush_inBuffer ⟨hclock.room, hclock.mss, hclock.queue, hclock.buf⟩
  next => exact ⟨hclock, fun d hd => absurd hd List.not_mem_nil⟩

theorem extendLast_inBuffer (length : Nat) (buffer : List UInt8) (h : InBuffer kcp) :
    InBuffer (extendLast (buffer.take (extension length kcp)) kcp) := by
  rcases extendLast_cases length (buffer.take (extension length kcp)) kcp with
    ⟨-, hsame⟩ | ⟨front, old, hqueue, hold, hlength, hextend⟩
  · rw [hsame]
    exact h
  · have hsegs := h.queue
    rw [hqueue] at hsegs
    rw [hextend]
    refine ⟨h.room, h.mss, ?_, h.buf⟩
    intro seg hseg
    rcases List.mem_append.mp hseg with hseg | hseg
    · exact hsegs seg (List.mem_append_left _ hseg)
    · rw [List.mem_singleton.mp hseg]
      have hfit := hsegs old (List.mem_append_right _ (List.mem_singleton_self old))
      have hlen : old.len.toNat = old.data.length := by
        have hlt := kcp.mss.toNat_lt
        rw [Segment.len, UInt32.toNat_ofNat']
        omega
      have hroom := UInt32.toNat_sub_of_le _ _ (UInt32.le_of_lt hold)
      change (old.data ++ buffer.take (extension length kcp)).length ≤ kcp.mss.toNat
      rw [List.length_append, List.length_take, hlength]
      omega

theorem sendFragments_inBuffer (buffer : List UInt8) (h : InBuffer kcp) :
    InBuffer (sendFragments buffer kcp).2 := by
  rw [sendFragments]
  split
  next => exact h
  next =>
    refine ⟨h.room, h.mss, ?_, h.buf⟩
    intro seg hseg
    rcases List.mem_append.mp hseg with hseg | hseg
    · exact h.queue seg hseg
    · exact (fragments_small seg hseg).1

theorem ikcpSend_inBuffer (buffer : List UInt8) (h : InBuffer kcp) :
    InBuffer (ikcpSend buffer kcp).2 := by
  rw [ikcpSend]
  split
  next =>
    have hextend := extendLast_inBuffer buffer.length buffer h
    dsimp only
    split
    next => exact hextend
    next => exact sendFragments_inBuffer _ hextend
  next => exact sendFragments_inBuffer buffer h

theorem ikcpSetmtu_inBuffer {mtu : Int} (hallowed : mtuAllowed mtu kcp) (h : InBuffer kcp) :
    InBuffer (ikcpSetmtu mtu kcp).2 := by
  obtain ⟨hint, hroom, hsegs⟩ := hallowed
  by_cases hsmall : mtu < 50 ∨ mtu < (IKCP_OVERHEAD : Int)
  · rw [ikcpSetmtu, if_pos hsmall]
    exact h
  · obtain ⟨hmtu, hmss⟩ := ikcpSetmtu_fields hint hsmall kcp
    have hset : (ikcpSetmtu mtu kcp).2.sndQueue = kcp.sndQueue ∧
        (ikcpSetmtu mtu kcp).2.sndBuf = kcp.sndBuf ∧
        (ikcpSetmtu mtu kcp).2.buffer = bufferSize (UInt32.ofNat mtu.toNat) := by
      rw [ikcpSetmtu, if_neg hsmall]
      exact ⟨rfl, rfl, rfl⟩
    obtain ⟨hqueue, hbuf, hbuffer⟩ := hset
    have hover : IKCP_OVERHEAD = 24 := rfl
    refine ⟨?_, ?_, ?_, ?_⟩
    · rw [hmtu, hbuffer]
      omega
    · rw [hmtu, hmss]
      omega
    · rw [hqueue, hmss]
      intro seg hseg
      have hfit := hsegs seg (List.mem_append_left _ hseg)
      omega
    · rw [hbuf, hmss]
      intro seg hseg
      have hfit := hsegs seg (List.mem_append_right _ hseg)
      omega

section Arriving

theorem Resends.parseUna (una : UInt32) (kcp : Ikcpcb) : Resends kcp (ikcpParseUna una kcp) :=
  fun seg hseg => ⟨seg, (List.dropWhile_sublist _).subset hseg, rfl⟩

theorem Resends.parseAck (sn : UInt32) (kcp : Ikcpcb) : Resends kcp (ikcpParseAck sn kcp) := by
  rw [ikcpParseAck]
  split
  next => exact fun seg hseg => ⟨seg, (ackLoop_sublist sn kcp.sndBuf).subset hseg, rfl⟩
  next => exact Resends.of_eq rfl

theorem Resends.inputAck (seg : Segment) (st : Input) :
    Resends st.kcp (inputAck seg st).kcp := by
  rw [Kcp.inputAck]
  dsimp only
  refine Resends.trans ?_ (Resends.of_sender (ikcpShrinkBuf_sender _))
  refine Resends.trans ?_ (Resends.parseAck _ _)
  split
  next => exact Resends.of_eq rfl
  next => exact Resends.of_eq rfl

theorem Resends.inputSegment (seg : Segment) (st : Input) :
    Resends st.kcp (inputSegment seg st).kcp := by
  have huna : Resends st.kcp
      (ikcpShrinkBuf (ikcpParseUna seg.una { st.kcp with rmtWnd := seg.wnd })) := by
    refine Resends.trans ?_ (Resends.of_sender (ikcpShrinkBuf_sender _))
    exact Resends.parseUna seg.una { st.kcp with rmtWnd := seg.wnd }
  rw [Kcp.inputSegment]
  split
  next => exact huna.trans (Resends.inputAck seg _)
  next =>
    split
    next => exact huna.trans (Resends.of_sender (inputPush_sender _ _))
    next => split <;> exact huna

theorem Resends.inputLoop (conv : UInt32) (n : Nat) (data : List UInt8) (st : Input) :
    Resends st.kcp (inputLoop conv n data st).2.kcp := by
  induction n generalizing data st with
  | zero => exact Resends.of_eq rfl
  | succ n ih =>
      rw [Kcp.inputLoop]
      split
      next => exact Resends.of_eq rfl
      next =>
        dsimp only
        split
        next => exact Resends.of_eq rfl
        next =>
          split
          next => exact Resends.of_eq rfl
          next =>
            split
            next => exact Resends.of_eq rfl
            next => exact (Resends.inputSegment _ _).trans (ih _ _)

theorem Resends.counted (st : Input) : Resends st.kcp st.counted := by
  rw [Input.counted]
  split
  next => exact Resends.of_eq rfl
  next maxack _ _ =>
    rw [ikcpParseFastack]
    split
    next => exact Resends.of_same (fastackLoop_same _ _)
    next => exact Resends.of_eq rfl

theorem ikcpInput_inBuffer (data : List UInt8) (h : InBuffer kcp) :
    InBuffer (ikcpInput data kcp).2 := by
  have hunsent := ikcpInput_unsent data kcp
  refine h.keep (congrArg Prod.fst hunsent) (congrArg (fun t => t.2.1) hunsent) ?_
  rw [ikcpInput]
  split
  next => exact Resends.of_eq rfl
  next =>
    have hloop := Resends.inputLoop kcp.conv data.length data { kcp := kcp }
    dsimp only
    split
    next => exact hloop
    next =>
      refine (hloop.trans (Resends.counted _)).trans ?_
      exact Resends.of_sender (openWindow_sides _ _).1

end Arriving

theorem call_inBuffer {c : Call} (h : InBuffer kcp) {r : Ikcpcb × List (List UInt8)}
    (hcall : kcp.call c = some r) : InBuffer r.1 ∧ ∀ d ∈ r.2, d.length ≤ kcp.mtu.toNat := by
  have hquiet : ∀ d ∈ ([] : List (List UInt8)), d.length ≤ kcp.mtu.toNat :=
    fun d hd => absurd hd List.not_mem_nil
  cases c with
  | send buffer =>
      obtain rfl := Option.some.inj hcall
      exact ⟨ikcpSend_inBuffer buffer h, hquiet⟩
  | recv len =>
      obtain rfl := Option.some.inj hcall
      have hsender := ikcpRecv_sender len kcp
      refine ⟨h.keep (ikcpRecv_settings len kcp) ?_ (Resends.of_sender hsender), hquiet⟩
      exact congrArg (fun t => t.1.2.2.1) hsender
  | update current =>
      obtain rfl := Option.some.inj hcall
      exact ikcpUpdate_inBuffer current h
  | flush =>
      obtain rfl := Option.some.inj hcall
      exact ikcpFlush_inBuffer h
  | nodelay nodelay interval resend nc =>
      obtain rfl := Option.some.inj hcall
      refine ⟨?_, hquiet⟩
      simp only [ikcpNodelay]
      split <;> split <;> split <;> split <;> exact ⟨h.room, h.mss, h.queue, h.buf⟩
  | interval interval =>
      obtain rfl := Option.some.inj hcall
      exact ⟨⟨h.room, h.mss, h.queue, h.buf⟩, hquiet⟩
  | wndsize sndwnd rcvwnd =>
      obtain rfl := Option.some.inj hcall
      refine ⟨?_, hquiet⟩
      rw [ikcpWndsize]
      split <;> split <;> exact ⟨h.room, h.mss, h.queue, h.buf⟩
  | setmtu mtu =>
      rw [Ikcpcb.call, Option.ite_none_right_eq_some] at hcall
      obtain ⟨hallowed, hcall⟩ := hcall
      obtain rfl := Option.some.inj hcall
      exact ⟨ikcpSetmtu_inBuffer hallowed h, hquiet⟩

theorem next_inBuffer {e : Arrival} (h : InBuffer kcp) (hnext : kcp.next e = some kcp') :
    InBuffer kcp' := by
  cases e with
  | call c =>
      obtain ⟨r, hcall, rfl⟩ := Option.map_eq_some_iff.mp hnext
      exact (call_inBuffer h hcall).1
  | input data =>
      obtain rfl := Option.some.inj hnext
      exact ikcpInput_inBuffer data h

theorem create_inBuffer (conv : UInt32) (stream : Bool) :
    InBuffer { ikcpCreate conv with stream := stream } := by
  have hroom : IKCP_MTU_DEF.toNat ≤ (bufferSize IKCP_MTU_DEF).toNat := by decide
  refine ⟨hroom, rfl, ?_, ?_⟩
  · exact fun seg hseg => absurd hseg List.not_mem_nil
  · exact fun seg hseg => absurd hseg List.not_mem_nil

/-- Whatever has been called and has come before, what a call gives to `output` fits a packet and
`buffer`. All that a flush writes there is given to `output`, so no store is behind its end. -/
theorem output_in_buffer (conv : UInt32) (stream : Bool) (events : List Arrival)
    (hrun : run Ikcpcb.next { ikcpCreate conv with stream := stream } events = some kcp)
    {c : Call} {r : Ikcpcb × List (List UInt8)} (hcall : kcp.call c = some r) :
    ∀ d ∈ r.2, d.length ≤ kcp.mtu.toNat ∧ d.length ≤ kcp.buffer.toNat := by
  have hstep : ∀ k e k', InBuffer k → Ikcpcb.next k e = some k' → InBuffer k' := by
    intro k e k' hk hnext
    exact next_inBuffer hk hnext
  have hkcp := (always_of_invariant hstep (create_inBuffer conv stream) events).of_run hrun
  intro d hd
  have hpacket := (call_inBuffer hkcp hcall).2 d hd
  exact ⟨hpacket, hpacket.trans hkcp.room⟩

/-- A message of 200 bytes after `ikcp_setmtu` has made the packets 100 bytes long. -/
def smallPackets : List Arrival :=
  [.call (.setmtu 100), .call (.send (.replicate 200 7)), .call (.nodelay 1 10 2 1)]

def afterSmallPackets : Ikcpcb := (run Ikcpcb.next (ikcpCreate 1) smallPackets).getD (ikcpCreate 1)

theorem output_in_buffer_smallPackets :
    (ikcpUpdate 0 afterSmallPackets).2.map List.length = [100, 100, 72] ∧
      ∀ d ∈ (ikcpUpdate 0 afterSmallPackets).2, d.length ≤ 100 ∧ d.length ≤ 372 := by
  have hrun : run Ikcpcb.next (ikcpCreate 1) smallPackets = some afterSmallPackets := rfl
  have hcall : afterSmallPackets.call (.update 0) = some (ikcpUpdate 0 afterSmallPackets) := rfl
  have hmtu : afterSmallPackets.mtu.toNat = 100 := by decide +kernel
  have hbuffer : afterSmallPackets.buffer.toNat = 372 := by decide +kernel
  have hfits := output_in_buffer 1 false smallPackets hrun hcall
  rw [hmtu, hbuffer] at hfits
  exact ⟨by decide +kernel, hfits⟩

end WirelessEsp.Kcp
