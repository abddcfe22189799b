import WirelessEsp.KcpSender

namespace WirelessEsp.Kcp

open MessageParts SerialNumber

variable {G : Segment → Prop}

/-- The bytes are those of some segments with the property `G`. -/
def Carries (G : Segment → Prop) (bytes : List UInt8) : Prop :=
  ∃ segs, bytes = wire segs ∧ ∀ seg ∈ segs, G seg

def Datagram (G : Segment → Prop) (bytes : List UInt8) : Prop :=
  ∃ segs, segs ≠ [] ∧ bytes = wire segs ∧ ∀ seg ∈ segs, G seg

/-- All that is sent and all that is in the buffer consists of segments with the property `G`. -/
structure Outgoing.All (G : Segment → Prop) (o : Outgoing) : Prop where
  sent : ∀ d ∈ o.sent, Datagram G d
  pending : Carries G o.pending

theorem all_empty : ({} : Outgoing).All G := by
  refine ⟨?_, ⟨[], rfl, ?_⟩⟩
  · intro d hd
    exact absurd hd List.not_mem_nil
  · intro seg hseg
    exact absurd hseg List.not_mem_nil

theorem Outgoing.All.output {o : Outgoing} (h : o.All G) : o.output.All G := by
  refine ⟨?_, all_empty.pending⟩
  intro d hd
  rw [Outgoing.output] at hd
  by_cases hzero : o.pending.length = 0
  · rw [if_pos hzero] at hd
    exact h.sent d hd
  · rw [if_neg hzero] at hd
    rcases List.mem_append.mp hd with hd | hd
    · exact h.sent d hd
    · obtain ⟨segs, hwire, hall⟩ := h.pending
      rw [List.mem_singleton.mp hd]
      refine ⟨segs, ?_, hwire, hall⟩
      rintro rfl
      rw [hwire] at hzero
      exact hzero rfl

theorem Outgoing.All.put {o : Outgoing} (h : o.All G) (mtu : UInt32) {seg : Segment} (hseg : G seg) :
    (o.put mtu seg.wire).All G := by
  have happend {o : Outgoing} (h : o.All G) :
      ({ o with pending := o.pending ++ seg.wire } : Outgoing).All G := by
    obtain ⟨segs, hwire, hall⟩ := h.pending
    refine ⟨h.sent, ⟨segs ++ [seg], ?_, ?_⟩⟩
    · change o.pending ++ seg.wire = wire (segs ++ [seg])
      simp only [hwire, wire, List.flatMap_append, List.flatMap_cons, List.flatMap_nil,
        List.append_nil]
    · intro s hs
      rcases List.mem_append.mp hs with hs | hs
      · exact hall s hs
      · rw [List.mem_singleton.mp hs]
        exact hseg
  rw [Outgoing.put]
  split
  next => exact happend h.output
  next => exact happend h

theorem Datagram.mono {H : Segment → Prop} (hGH : ∀ seg, G seg → H seg) {d : List UInt8}
    (h : Datagram G d) : Datagram H d := by
  obtain ⟨segs, hne, hwire, hall⟩ := h
  exact ⟨segs, hne, hwire, fun seg hseg => hGH seg (hall seg hseg)⟩

theorem Outgoing.All.mono {H : Segment → Prop} (hGH : ∀ seg, G seg → H seg) {o : Outgoing}
    (h : o.All G) : o.All H := by
  obtain ⟨segs, hwire, hall⟩ := h.pending
  exact ⟨fun d hd => (h.sent d hd).mono hGH, segs, hwire, fun seg hseg => hGH seg (hall seg hseg)⟩

theorem wire_header {seg : Segment} (h : seg.data = []) : seg.wire = ikcpEncodeSeg seg := by
  rw [Segment.wire, h, List.append_nil]

theorem flushAcks_all (mtu : UInt32) {acks : List (UInt32 × UInt32)} {seg : Segment} {o : Outgoing}
    (hdata : seg.data = []) (ho : o.All G)
    (hacks : ∀ a ∈ acks, G { seg with sn := a.1, ts := a.2 }) :
    (flushAcks mtu acks seg o).2.All G ∧
      ∃ sn ts, (flushAcks mtu acks seg o).1 = { seg with sn := sn, ts := ts } := by
  induction acks generalizing seg o with
  | nil => exact ⟨ho, seg.sn, seg.ts, rfl⟩
  | cons a acks ih =>
      obtain ⟨hfirst, hrest⟩ := List.forall_mem_cons.mp hacks
      have hdata' : ({ seg with sn := a.1, ts := a.2 } : Segment).data = [] := hdata
      rw [flushAcks, ← wire_header hdata']
      obtain ⟨hall, sn, ts, hseg⟩ := ih hdata' (ho.put mtu hfirst) hrest
      exact ⟨hall, sn, ts, hseg⟩

theorem flushProbe_all {mtu probe ask cmd : UInt32} {p : Segment × Outgoing}
    (hdata : p.1.data = []) (hp : p.2.All G) (hcmd : G { p.1 with cmd := cmd }) :
    (flushProbe mtu probe ask cmd p).2.All G ∧
      ((flushProbe mtu probe ask cmd p).1 = p.1 ∨
        (flushProbe mtu probe ask cmd p).1 = { p.1 with cmd := cmd }) := by
  rw [flushProbe]
  split
  next =>
    have hput := hp.put mtu hcmd
    have hdata' : ({ p.1 with cmd := cmd } : Segment).data = [] := hdata
    rw [wire_header hdata'] at hput
    exact ⟨hput, .inr rfl⟩
  next => exact ⟨hp, .inl rfl⟩

theorem schedule_same (kcp : Ikcpcb) (rtomin : UInt32) (segment : Segment) (why : Need) :
    segment.Same (schedule kcp rtomin segment why) := by
  cases why <;> exact ⟨rfl, rfl, rfl, rfl⟩

theorem flushSegments_all (kcp : Ikcpcb) (wnd resent rtomin : UInt32) {segs : List Segment}
    {r : Resending} (hr : r.out.All G)
    (hsegs : ∀ seg ∈ segs, ∀ seg', seg.Same seg' → seg'.una = kcp.rcvNxt → G seg') :
    (flushSegments kcp wnd resent rtomin segs r).2.out.All G ∧
      List.Forall₂ Segment.Same segs (flushSegments kcp wnd resent rtomin segs r).1 := by
  induction segs generalizing r with
  | nil => exact ⟨hr, .nil⟩
  | cons segment rest ih =>
      obtain ⟨hfirst, hrest⟩ := List.forall_mem_cons.mp hsegs
      have hone : (flushSegment kcp wnd resent rtomin segment r).2.out.All G ∧
          segment.Same (flushSegment kcp wnd resent rtomin segment r).1 := by
        rw [flushSegment]
        dsimp only
        split
        next => exact ⟨hr, .refl segment⟩
        next =>
          have hsame := schedule_same kcp rtomin segment (need kcp resent segment)
          exact ⟨hr.put kcp.mtu (hfirst _ hsame rfl), hsame⟩
      obtain ⟨hall, hsame⟩ := ih hone.1 hrest
      exact ⟨hall, .cons hone.2 hsame⟩

variable {log plog : List (Piece UInt8)} {took received : List (List UInt8)} {kcp kcp' peer : Ikcpcb}

theorem numberOne_sound {wnd : UInt32} {newseg : Segment} {rest : List Segment}
    (hlog : log.length < 2 ^ 31) (hmss : kcp.mss.toNat < 2 ^ 31)
    (h : Sound log plog took received kcp peer) (hqueue : kcp.sndQueue = newseg :: rest) :
    Sound (log ++ [newseg.part]) plog took received (numberOne wnd newseg rest kcp) peer := by
  have hnext := h.sending.next
  have hsn : kcp.sndNxt.toNat = log.length := by
    rw [hnext, UInt32.toNat_ofNat']
    omega
  have hmem : newseg ∈ kcp.sndQueue := by
    rw [hqueue]
    exact List.mem_cons_self
  have hsmall := h.queue.small newseg hmem
  have hparts : (log ++ [newseg.part]) ++ parts rest = log ++ parts kcp.sndQueue := by
    rw [hqueue, List.append_assoc]
    rfl
  obtain ⟨whole, counted, bytes, messages, small, cost, number⟩ := h.queue
  refine ⟨⟨?_, ?_, ?_, ?_, ?_⟩, ⟨?_, ?_, ?_, ?_, ?_, ?_, ?_⟩, ?_, ?_, ?_⟩
  · change kcp.sndNxt + 1 = _
    rw [List.length_append, List.length_singleton, ofNat_succ, hnext]
  · intro seg hseg
    rcases List.mem_append.mp hseg with hseg | hseg
    · obtain ⟨hpart, hcmd, hconv⟩ := h.sending.buf seg hseg
      refine ⟨?_, hcmd, hconv⟩
      rw [List.getElem?_append_left (List.getElem?_eq_some_iff.mp hpart).1, hpart]
    · rw [List.mem_singleton.mp hseg]
      refine ⟨?_, rfl, rfl⟩
      change (log ++ [newseg.part])[kcp.sndNxt.toNat]? = some newseg.part
      rw [hsn, List.getElem?_concat_length]
  · change ((kcp.sndBuf ++ [_]).map Segment.sn).Pairwise (· < ·)
    rw [List.map_append]
    apply List.pairwise_append.mpr
    refine ⟨h.sending.sorted, List.pairwise_singleton _ _, ?_⟩
    intro sn hin new hnew
    obtain ⟨seg, hseg, rfl⟩ := List.mem_map.mp hin
    rw [List.map_singleton, List.mem_singleton] at hnew
    have hlt := (List.getElem?_eq_some_iff.mp (h.sending.buf seg hseg).1).1
    rw [hnew, UInt32.lt_iff_toNat_lt]
    exact hlt.trans_eq hsn.symm
  · change kcp.nsndBuf + 1 = UInt32.ofNat (kcp.sndBuf ++ [_]).length
    rw [List.length_append, List.length_singleton, ofNat_succ, h.sending.number]
  · intro p hp
    rcases List.mem_append.mp hp with hp | hp
    · exact h.sending.small p hp
    · rw [List.mem_singleton.mp hp]
      exact ⟨hsmall.2, hsmall.1.trans_lt hmss⟩
  · change Whole ((log ++ [newseg.part]) ++ parts rest)
    rwa [hparts]
  · change Counted ((log ++ [newseg.part]) ++ parts rest)
    rwa [hparts]
  · change contents ((log ++ [newseg.part]) ++ parts rest) = _
    rwa [hparts]
  · intro hstream
    change MessageParts.messages ((log ++ [newseg.part]) ++ parts rest) = _
    rw [hparts]
    exact messages hstream
  · intro seg hseg
    apply small seg
    rw [hqueue]
    exact List.mem_cons_of_mem _ hseg
  · rw [hqueue, List.length_cons] at cost
    change (log ++ [newseg.part]).length + rest.length ≤ _
    rw [List.length_append, List.length_singleton]
    omega
  · change kcp.nsndQue - 1 = UInt32.ofNat rest.length
    rw [number, hqueue, List.length_cons, ofNat_succ, UInt32.add_sub_cancel]
  · intro n hn
    rw [List.length_append, List.length_singleton] at hn
    by_cases hlt : n < log.length
    · rcases h.kept n hlt with hgot | ⟨seg, hseg, hsn'⟩
      · exact .inl hgot
      · exact .inr ⟨seg, List.mem_append_left _ hseg, hsn'⟩
    · right
      refine ⟨_, List.mem_append_right _ List.mem_cons_self, ?_⟩
      change kcp.sndNxt.toNat = n
      omega
  · exact h.delivery.congr rfl
  · exact h.acked.congr rfl

theorem moveQueued_sound (cwnd wnd : UInt32) {segs : List Segment} (htook : traffic took < 2 ^ 31)
    (hmss : kcp.mss.toNat < 2 ^ 31) (h : Sound log plog took received kcp peer)
    (hqueue : kcp.sndQueue = segs) :
    ∃ moved, segs = moved ++ (moveQueued cwnd wnd segs kcp).sndQueue ∧
      Sound (log ++ parts moved) plog took received (moveQueued cwnd wnd segs kcp) peer ∧
      (moveQueued cwnd wnd segs kcp).receiver = kcp.receiver ∧
      (moveQueued cwnd wnd segs kcp).conv = kcp.conv := by
  induction segs generalizing log kcp with
  | nil =>
      rw [moveQueued]
      refine ⟨[], hqueue.symm, ?_, rfl, rfl⟩
      simpa only [parts, List.map_nil, List.append_nil] using h
  | cons newseg rest ih =>
      rw [moveQueued]
      split
      next =>
        have hlog : log.length < 2 ^ 31 := by
          have := h.queue.cost
          omega
        have hone := @numberOne_sound _ _ _ _ _ _ wnd _ _ hlog hmss h hqueue
        obtain ⟨moved, hrest, hsound, hreceiver, hconv⟩ := @ih _ (numberOne wnd newseg rest kcp) hmss
          hone rfl
        refine ⟨newseg :: moved, ?_, ?_, hreceiver, hconv⟩
        · rw [List.cons_append, ← hrest]
        · rw [List.append_assoc] at hsound
          exact hsound
      next =>
        refine ⟨[], hqueue.symm, ?_, rfl, rfl⟩
        simpa only [parts, List.map_nil, List.append_nil] using h

theorem probeWindow_sides (kcp : Ikcpcb) : (probeWindow kcp).sender = kcp.sender ∧
    (probeWindow kcp).receiver = kcp.receiver ∧ (probeWindow kcp).mtu = kcp.mtu := by
  rw [probeWindow]
  split
  next =>
    split
    next =>
      simp only [Ikcpcb.sender, Ikcpcb.queued, Ikcpcb.numbered, Ikcpcb.receiver, and_self]
    next =>
      split
      next => exact ⟨rfl, rfl, rfl⟩
      next => exact ⟨rfl, rfl, rfl⟩
  next => exact ⟨rfl, rfl, rfl⟩

theorem Known.toNat_lt {cmd : UInt32} (h : Known cmd) : cmd.toNat < 256 := by
  rcases h with rfl | rfl | rfl | rfl <;> decide

theorem header_genuine {cmd sn ts : UInt32} (hcmd : Known cmd) (hpush : cmd ≠ IKCP_CMD_PUSH)
    (hack : cmd = IKCP_CMD_ACK → Got kcp sn.toNat) :
    Genuine log kcp { flushHeader kcp with cmd := cmd, sn := sn, ts := ts } := by
  refine ⟨⟨hcmd.toNat_lt, ?_, ?_⟩, rfl, hcmd, le_rfl, fun h => absurd h hpush, hack⟩
  · exact Nat.succ_pos 255
  · exact Nat.two_pow_pos 31

theorem data_genuine (h : Sending log kcp) {seg seg' : Segment} (hseg : seg ∈ kcp.sndBuf)
    (hsame : seg.Same seg') (huna : seg'.una = kcp.rcvNxt) : Genuine log kcp seg' := by
  obtain ⟨hconv, hcmd, hsn, hpart⟩ := hsame
  obtain ⟨hlog, hpush, hc⟩ := h.buf seg hseg
  rw [hpush] at hcmd
  have hknown : Known seg'.cmd := .inl hcmd
  have hlog' : log[seg'.sn.toNat]? = some seg'.part := by
    rw [hsn, hpart, hlog]
  have hsmall := h.small seg'.part (List.mem_of_getElem? hlog')
  have hfrg : seg'.frg.toNat < 128 := hsmall.1
  refine ⟨⟨hknown.toNat_lt, ?_, hsmall.2⟩, hconv.trans hc, hknown, ?_, fun _ => hlog', ?_⟩
  · omega
  · rw [huna]
  · intro hack
    rw [hcmd] at hack
    exact absurd hack (by decide)

theorem Genuine.congr {seg : Segment} (h : Genuine log kcp seg) (hconv : kcp'.conv = kcp.conv)
    (hlater : Later kcp kcp') : Genuine log kcp' seg :=
  ⟨h.fits, h.conv.trans hconv.symm, h.known, h.una.trans hlater.next, h.push,
    fun hack => hlater.got _ (h.ack hack)⟩

theorem Genuine.grow {seg : Segment} (h : Genuine log kcp seg) (more : List (Piece UInt8)) :
    Genuine (log ++ more) kcp seg := by
  refine ⟨h.fits, h.conv, h.known, h.una, ?_, h.ack⟩
  intro hpush
  have hpart := h.push hpush
  rw [List.getElem?_append_left (List.getElem?_eq_some_iff.mp hpart).1, hpart]

theorem flushProbe_genuine {mtu probe ask cmd sn ts : UInt32} {p : Segment × Outgoing}
    (hcmd : cmd = IKCP_CMD_WASK ∨ cmd = IKCP_CMD_WINS) (hp : p.2.All (Genuine log kcp))
    {c : UInt32} (hseg : p.1 = { flushHeader kcp with cmd := c, sn := sn, ts := ts }) :
    (flushProbe mtu probe ask cmd p).2.All (Genuine log kcp) ∧
      ∃ c, (flushProbe mtu probe ask cmd p).1 =
        { flushHeader kcp with cmd := c, sn := sn, ts := ts } := by
  have hknown : Known cmd := .inr (.inr hcmd)
  have hpush : cmd ≠ IKCP_CMD_PUSH := by
    rcases hcmd with rfl | rfl <;> decide
  have hack : cmd = IKCP_CMD_ACK → Got kcp sn.toNat := by
    rcases hcmd with rfl | rfl <;> exact fun h => absurd h (by decide)
  have hgenuine : Genuine log kcp { p.1 with cmd := cmd } := by
    rw [hseg]
    exact header_genuine hknown hpush hack
  have hdata : p.1.data = [] := by
    rw [hseg]
    rfl
  obtain ⟨hall, hsame | hsame⟩ := @flushProbe_all _ mtu probe ask cmd p hdata hp hgenuine
  · exact ⟨hall, c, hsame.trans hseg⟩
  · refine ⟨hall, cmd, ?_⟩
    rw [hsame, hseg]

theorem control_genuine (h : Acked kcp) : (flushControl kcp).2.All (Genuine log kcp) := by
  have hack : ∀ a ∈ kcp.acklist, Genuine log kcp { flushHeader kcp with sn := a.1, ts := a.2 } := by
    intro a ha
    have hpush : IKCP_CMD_ACK ≠ IKCP_CMD_PUSH := by
      decide
    exact @header_genuine log kcp IKCP_CMD_ACK a.1 a.2 (.inr (.inl rfl)) hpush (fun _ => h a ha)
  obtain ⟨hacks, sn, ts, hseg⟩ := flushAcks_all kcp.mtu rfl all_empty hack
  obtain ⟨hasked, c, hseg'⟩ := @flushProbe_genuine log kcp kcp.mtu
    (probeWindow { kcp with acklist := [] }).probe IKCP_ASK_SEND IKCP_CMD_WASK sn ts _ (.inl rfl)
    hacks IKCP_CMD_ACK hseg
  obtain ⟨_, _, hmtu⟩ := probeWindow_sides { kcp with acklist := [] }
  rw [flushControl, hmtu]
  exact (flushProbe_genuine (.inr rfl) hasked hseg').1

theorem flushControl_sound (h : Sound log plog took received kcp peer) :
    Sound log plog took received (flushControl kcp).1 peer ∧ Later kcp (flushControl kcp).1 ∧
      (flushControl kcp).1.conv = kcp.conv ∧ (flushControl kcp).1.mss = kcp.mss ∧
      (flushControl kcp).2.All (Genuine log (flushControl kcp).1) := by
  obtain ⟨hsender, hreceiver, hmtu⟩ := probeWindow_sides { kcp with acklist := [] }
  have hlater : Later kcp (flushControl kcp).1 := by
    have hcleared : Later kcp { kcp with acklist := [] } := ⟨le_rfl, fun _ hn => hn⟩
    exact hcleared.trans (Later.of_receiver hreceiver)
  have hsides : (flushControl kcp).1.sender = kcp.sender := hsender
  have hconv : (flushControl kcp).1.conv = kcp.conv := congrArg (fun t => t.2.1) hsides
  have hmss : (flushControl kcp).1.mss = kcp.mss := congrArg (fun t => t.1.1) hsides
  have hdelivery : Delivery plog received (flushControl kcp).1 := by
    have hcleared : Delivery plog received { kcp with acklist := [] } := by
      exact ⟨h.delivery.next, h.delivery.queue, h.delivery.early, h.delivery.sorted, h.delivery.number⟩
    exact hcleared.congr hreceiver
  have hacked : Acked (flushControl kcp).1 := by
    intro a ha
    have hnil : (flushControl kcp).1.acklist = [] := congrArg (fun t => t.2.2.2.2) hreceiver
    rw [hnil] at ha
    exact absurd ha List.not_mem_nil
  have hf : Fewer peer kcp (flushControl kcp).1 := Fewer.of_sender hsides
  refine ⟨⟨hf.sending h.sending, h.queue.congr hf.queued, hf.keep h.kept, hdelivery, hacked⟩,
    hlater, hconv, hmss, ?_⟩
  exact (control_genuine h.acked).mono (fun seg hseg => hseg.congr hconv hlater)

theorem flushData_sound (wnd : UInt32) {out : Outgoing} (htook : traffic took < 2 ^ 31)
    (hmss : kcp.mss.toNat < 2 ^ 31) (h : Sound log plog took received kcp peer)
    (hout : out.All (Genuine log kcp)) :
    ∃ moved, kcp.sndQueue = moved ++ (flushData wnd out kcp).1.sndQueue ∧
      Sound (log ++ parts moved) plog took received (flushData wnd out kcp).1 peer ∧
      Later kcp (flushData wnd out kcp).1 ∧ (flushData wnd out kcp).1.conv = kcp.conv ∧
      ∀ d ∈ (flushData wnd out kcp).2,
        Datagram (Genuine (log ++ parts moved) (flushData wnd out kcp).1) d := by
  obtain ⟨moved, hqueue, hsound, hreceiver, hconv⟩ :=
    moveQueued_sound (sendWindow kcp) wnd htook hmss h rfl
  rw [flushData]
  dsimp only
  generalize moveQueued (sendWindow kcp) wnd kcp.sndQueue kcp = k at hqueue hsound hreceiver hconv
  generalize (if 0 < k.fastresend then k.fastresend.toUInt32 else 0xffffffff) = resent
  generalize (if k.nodelay = 0 then (k.rxRto >>> 3).toUInt32 else 0) = rtomin
  have hlater : Later kcp k := Later.of_receiver hreceiver
  have hpending : out.All (Genuine (log ++ parts moved) k) := by
    exact hout.mono (fun seg hseg => (hseg.grow _).congr hconv hlater)
  obtain ⟨hall, hsame⟩ := flushSegments_all k wnd resent rtomin
    (r := { out := out, xmit := k.xmit, state := k.state }) hpending
    (fun seg hseg seg' hs huna => data_genuine hsound.sending hseg hs huna)
  generalize flushSegments k wnd resent rtomin k.sndBuf
    { out := out, xmit := k.xmit, state := k.state } = flushed at hall hsame
  refine ⟨moved, hqueue, hsound.fewer (Fewer.of_same rfl rfl rfl rfl hsame) rfl, ?_, hconv, ?_⟩
  · exact ⟨hlater.next, hlater.got⟩
  · intro d hd
    exact (hall.output.sent d hd).mono (fun seg hseg => hseg.congr rfl ⟨le_rfl, fun _ hn => hn⟩)

theorem ikcpFlush_sound (htook : traffic took < 2 ^ 31) (hmss : kcp.mss.toNat < 2 ^ 31)
    (h : Sound log plog took received kcp peer) :
    ∃ moved, kcp.sndQueue = moved ++ (ikcpFlush kcp).1.sndQueue ∧
      Sound (log ++ parts moved) plog took received (ikcpFlush kcp).1 peer ∧
      Later kcp (ikcpFlush kcp).1 ∧ (ikcpFlush kcp).1.conv = kcp.conv ∧
      ∀ d ∈ (ikcpFlush kcp).2, Datagram (Genuine (log ++ parts moved) (ikcpFlush kcp).1) d := by
  rw [ikcpFlush]
  split
  next =>
    refine ⟨[], rfl, ?_, Later.refl _, rfl, ?_⟩
    · simpa only [parts, List.map_nil, List.append_nil] using h
    · intro d hd
      exact absurd hd List.not_mem_nil
  next =>
    obtain ⟨hsound, hlater, hconv, hm, hall⟩ := flushControl_sound h
    rw [← hm] at hmss
    obtain ⟨moved, hqueue, hs, hl, hc, hd⟩ :=
      flushData_sound (flushHeader kcp).wnd htook hmss hsound hall
    have hsame : (flushControl kcp).1.sndQueue = kcp.sndQueue := by
      obtain ⟨hsender, _⟩ := probeWindow_sides { kcp with acklist := [] }
      exact congrArg (fun t => t.1.2.2.1) hsender
    rw [hsame] at hqueue
    exact ⟨moved, hqueue, hs, hlater.trans hl, hc.trans hconv, hd⟩

theorem startClock_sides (current : UInt32) (kcp : Ikcpcb) :
    (startClock current kcp).sender = kcp.sender ∧
      (startClock current kcp).receiver = kcp.receiver := by
  rw [startClock]
  dsimp only
  split <;> split <;> exact ⟨rfl, rfl⟩

theorem ikcpUpdate_sound (current : UInt32) (htook : traffic took < 2 ^ 31)
    (hmss : kcp.mss.toNat < 2 ^ 31) (h : Sound log plog took received kcp peer) :
    ∃ moved, kcp.sndQueue = moved ++ (ikcpUpdate current kcp).1.sndQueue ∧
      Sound (log ++ parts moved) plog took received (ikcpUpdate current kcp).1 peer ∧
      Later kcp (ikcpUpdate current kcp).1 ∧ (ikcpUpdate current kcp).1.conv = kcp.conv ∧
      ∀ d ∈ (ikcpUpdate current kcp).2,
        Datagram (Genuine (log ++ parts moved) (ikcpUpdate current kcp).1) d := by
  obtain ⟨hsender, hreceiver⟩ := startClock_sides current kcp
  have hstart := h.fewer (Fewer.of_sender hsender) hreceiver
  have hqueued : (startClock current kcp).sndQueue = kcp.sndQueue := by
    exact congrArg (fun t => t.1.2.2.1) hsender
  have hm : (startClock current kcp).mss = kcp.mss := congrArg (fun t => t.1.1) hsender
  have hconv : (startClock current kcp).conv = kcp.conv := congrArg (fun t => t.2.1) hsender
  rw [← hm] at hmss
  rw [← hqueued, ← hconv, ikcpUpdate]
  generalize startClock current kcp = k at *
  dsimp only
  split
  next =>
    generalize (if 0 ≤ itimediff current (k.tsFlush + k.interval) then current + k.interval
      else k.tsFlush + k.interval) = tsFlush
    have hset : Sound log plog took received { k with tsFlush := tsFlush } peer := by
      exact hstart.fewer (Fewer.of_sender rfl) rfl
    have hm' : ({ k with tsFlush := tsFlush } : Ikcpcb).mss.toNat < 2 ^ 31 := hmss
    obtain ⟨moved, hqueue, hs, hl, hc, hd⟩ := ikcpFlush_sound htook hm' hset
    refine ⟨moved, hqueue, hs, ?_, hc, hd⟩
    exact (Later.of_receiver hreceiver).trans ⟨hl.next, hl.got⟩
  next =>
    refine ⟨[], rfl, ?_, Later.of_receiver hreceiver, rfl, ?_⟩
    · simpa only [parts, List.map_nil, List.append_nil] using hstart
    · intro d hd
      exact absurd hd List.not_mem_nil

end WirelessEsp.Kcp
