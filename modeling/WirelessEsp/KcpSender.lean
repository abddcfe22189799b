import WirelessEsp.KcpReceiver
import WirelessEsp.KcpWire
import Mathlib.Data.List.TakeWhile

namespace WirelessEsp.Kcp

open MessageParts SerialNumber

def Ikcpcb.receiver (kcp : Ikcpcb) :
    UInt32 × List Segment × List Segment × UInt32 × List (UInt32 × UInt32) :=
  (kcp.rcvNxt, kcp.rcvBuf, kcp.rcvQueue, kcp.nrcvQue, kcp.acklist)

def Ikcpcb.queued (kcp : Ikcpcb) : UInt32 × Bool × List Segment × UInt32 :=
  (kcp.mss, kcp.stream, kcp.sndQueue, kcp.nsndQue)

def Ikcpcb.numbered (kcp : Ikcpcb) : UInt32 × UInt32 × List Segment × UInt32 :=
  (kcp.conv, kcp.sndNxt, kcp.sndBuf, kcp.nsndBuf)

def Ikcpcb.sender (kcp : Ikcpcb) :
    (UInt32 × Bool × List Segment × UInt32) × UInt32 × UInt32 × List Segment × UInt32 :=
  (kcp.queued, kcp.numbered)

variable {log : List (Piece UInt8)} {received took : List (List UInt8)} {kcp kcp' peer : Ikcpcb}

theorem Later.of_receiver (h : kcp'.receiver = kcp.receiver) : Later kcp kcp' := by
  simp only [Ikcpcb.receiver, Prod.mk.injEq] at h
  obtain ⟨hnext, hbuf, _⟩ := h
  refine ⟨?_, ?_⟩
  · rw [hnext]
  · intro n hn
    rw [Got, hnext, hbuf]
    exact hn

theorem Delivery.congr (h : Delivery log received kcp) (hk : kcp'.receiver = kcp.receiver) :
    Delivery log received kcp' := by
  simp only [Ikcpcb.receiver, Prod.mk.injEq] at hk
  obtain ⟨hnext, hbuf, hqueue, hcount, _⟩ := hk
  refine ⟨?_, ?_, ?_, ?_, ?_⟩
  · rw [hnext]
    exact h.next
  · rw [hnext, hqueue]
    exact h.queue
  · rw [hbuf, hnext]
    exact h.early
  · rw [hbuf]
    exact h.sorted
  · rw [hcount, hqueue]
    exact h.number

theorem Acked.congr (h : Acked kcp) (hk : kcp'.receiver = kcp.receiver) : Acked kcp' := by
  apply h.later (Later.of_receiver hk)
  simp only [Ikcpcb.receiver, Prod.mk.injEq] at hk
  exact hk.2.2.2.2

/-- The sending side: `log` has the parts of all segments that have a number. -/
structure Sending (log : List (Piece UInt8)) (kcp : Ikcpcb) : Prop where
  next : kcp.sndNxt = UInt32.ofNat log.length
  buf : ∀ seg ∈ kcp.sndBuf,
    log[seg.sn.toNat]? = some seg.part ∧ seg.cmd = IKCP_CMD_PUSH ∧ seg.conv = kcp.conv
  sorted : (kcp.sndBuf.map Segment.sn).Pairwise (· < ·)
  number : kcp.nsndBuf = UInt32.ofNat kcp.sndBuf.length
  small : ∀ p ∈ log, p.1 < 128 ∧ p.2.length < 2 ^ 31

/-- What has not arrived at the other side is kept to be sent again. -/
def Kept (log : List (Piece UInt8)) (kcp peer : Ikcpcb) : Prop :=
  ∀ n < log.length, Got peer n ∨ ∃ seg ∈ kcp.sndBuf, seg.sn.toNat = n

theorem Kept.later {peer' : Ikcpcb} (h : Kept log kcp peer) (hlater : Later peer peer') :
    Kept log kcp peer' := by
  intro n hn
  rcases h n hn with hgot | hseg
  · exact .inl (hlater.got n hgot)
  · exact .inr hseg

def Segment.Same (seg seg' : Segment) : Prop :=
  seg'.conv = seg.conv ∧ seg'.cmd = seg.cmd ∧ seg'.sn = seg.sn ∧ seg'.part = seg.part

theorem Segment.Same.refl (seg : Segment) : seg.Same seg := ⟨rfl, rfl, rfl, rfl⟩

theorem Segment.Same.trans {s t u : Segment} (h : s.Same t) (h' : t.Same u) : s.Same u :=
  ⟨h'.1.trans h.1, h'.2.1.trans h.2.1, h'.2.2.1.trans h.2.2.1, h'.2.2.2.trans h.2.2.2⟩

/-- `snd_buf` loses at most segments that have arrived at the other side. -/
structure Fewer (peer kcp kcp' : Ikcpcb) : Prop where
  conv : kcp'.conv = kcp.conv
  next : kcp'.sndNxt = kcp.sndNxt
  queued : kcp'.queued = kcp.queued
  still : ∀ seg' ∈ kcp'.sndBuf, ∃ seg ∈ kcp.sndBuf, seg.Same seg'
  kept : ∀ seg ∈ kcp.sndBuf, Got peer seg.sn.toNat ∨ ∃ seg' ∈ kcp'.sndBuf, seg.Same seg'
  order : (kcp'.sndBuf.map Segment.sn).Sublist (kcp.sndBuf.map Segment.sn)
  number : kcp.nsndBuf = UInt32.ofNat kcp.sndBuf.length →
    kcp'.nsndBuf = UInt32.ofNat kcp'.sndBuf.length

theorem Fewer.of_sender (h : kcp'.sender = kcp.sender) : Fewer peer kcp kcp' := by
  simp only [Ikcpcb.sender, Ikcpcb.numbered, Prod.mk.injEq] at h
  obtain ⟨hqueued, hconv, hnext, hbuf, hnumber⟩ := h
  refine ⟨hconv, hnext, hqueued, ?_, ?_, ?_, ?_⟩
  · intro seg hseg
    exact ⟨seg, hbuf ▸ hseg, .refl seg⟩
  · intro seg hseg
    exact .inr ⟨seg, hbuf ▸ hseg, .refl seg⟩
  · rw [hbuf]
  · rw [hbuf, hnumber]
    exact fun h => h

theorem Fewer.trans {k₁ k₂ k₃ : Ikcpcb} (h : Fewer peer k₁ k₂) (h' : Fewer peer k₂ k₃) :
    Fewer peer k₁ k₃ := by
  refine ⟨h'.conv.trans h.conv, h'.next.trans h.next, h'.queued.trans h.queued, ?_, ?_,
    h'.order.trans h.order, fun hn => h'.number (h.number hn)⟩
  · intro seg hseg
    obtain ⟨mid, hmid, hsame⟩ := h'.still seg hseg
    obtain ⟨first, hfirst, hsame'⟩ := h.still mid hmid
    exact ⟨first, hfirst, hsame'.trans hsame⟩
  · intro seg hseg
    rcases h.kept seg hseg with hgot | ⟨mid, hmid, hsame⟩
    · exact .inl hgot
    rcases h'.kept mid hmid with hgot | ⟨last, hlast, hsame'⟩
    · exact .inl (hsame.2.2.1 ▸ hgot)
    · exact .inr ⟨last, hlast, hsame.trans hsame'⟩

theorem Fewer.sending (h : Fewer peer kcp kcp') (hs : Sending log kcp) : Sending log kcp' := by
  refine ⟨h.next.trans hs.next, ?_, hs.sorted.sublist h.order, h.number hs.number, hs.small⟩
  intro seg hseg
  obtain ⟨old, hold, hconv, hcmd, hsn, hpart⟩ := h.still seg hseg
  obtain ⟨hlog, hpush, hc⟩ := hs.buf old hold
  refine ⟨?_, hcmd.trans hpush, ?_⟩
  · rw [hsn, hpart, hlog]
  · rw [hconv, hc, h.conv]

theorem Fewer.keep (h : Fewer peer kcp kcp') (hk : Kept log kcp peer) : Kept log kcp' peer := by
  intro n hn
  rcases hk n hn with hgot | ⟨seg, hseg, hsn⟩
  · exact .inl hgot
  rcases h.kept seg hseg with hgot | ⟨seg', hseg', hsame⟩
  · exact .inl (hsn ▸ hgot)
  · exact .inr ⟨seg', hseg', hsame.2.2.1 ▸ hsn⟩

theorem Queue.congr (h : Queue log took kcp) (hk : kcp'.queued = kcp.queued) :
    Queue log took kcp' := by
  simp only [Ikcpcb.queued, Prod.mk.injEq] at hk
  obtain ⟨hmss, hstream, hqueue, hnumber⟩ := hk
  obtain ⟨whole, counted, bytes, messages, small, cost, number⟩ := h
  constructor
  · rwa [hqueue]
  · rwa [hqueue]
  · rwa [hqueue]
  · rwa [hqueue, hstream]
  · rwa [hqueue, hmss]
  · rwa [hqueue]
  · rw [hqueue, hnumber, number]

theorem setSndBuf_fewer {left : List Segment} (hsub : left.Sublist kcp.sndBuf)
    (hgone : ∀ seg ∈ kcp.sndBuf, seg ∈ left ∨ Got peer seg.sn.toNat) :
    Fewer peer kcp (setSndBuf left kcp) := by
  refine ⟨rfl, rfl, rfl, ?_, ?_, hsub.map Segment.sn, ?_⟩
  · intro seg hseg
    exact ⟨seg, hsub.subset hseg, .refl seg⟩
  · intro seg hseg
    rcases hgone seg hseg with hleft | hgot
    · exact .inr ⟨seg, hleft, .refl seg⟩
    · exact .inl hgot
  · intro hnumber
    change kcp.nsndBuf - UInt32.ofNat (kcp.sndBuf.length - left.length) = UInt32.ofNat left.length
    have hlen := hsub.length_le
    obtain ⟨gone, hgone⟩ := Nat.exists_eq_add_of_le hlen
    rw [hnumber, hgone, Nat.add_sub_cancel_left, UInt32.ofNat_add, UInt32.add_sub_cancel]

theorem ikcpShrinkBuf_sender (kcp : Ikcpcb) : (ikcpShrinkBuf kcp).sender = kcp.sender := by
  rw [ikcpShrinkBuf]
  split <;> rfl

theorem ikcpShrinkBuf_receiver (kcp : Ikcpcb) : (ikcpShrinkBuf kcp).receiver = kcp.receiver := by
  rw [ikcpShrinkBuf]
  split <;> rfl

theorem Sending.sn_lt (hlog : log.length < 2 ^ 31) (h : Sending log kcp) {seg : Segment}
    (hseg : seg ∈ kcp.sndBuf) : seg.sn.toNat < 2 ^ 31 := by
  exact (List.getElem?_eq_some_iff.mp (h.buf seg hseg).1).1.trans hlog

theorem ikcpParseUna_fewer {una : UInt32} (hlog : log.length < 2 ^ 31) (h : Sending log kcp)
    (huna : una.toNat < 2 ^ 31) (hpeer : una.toNat ≤ peer.rcvNxt.toNat) :
    Fewer peer kcp (ikcpParseUna una kcp) := by
  apply setSndBuf_fewer (List.dropWhile_sublist _)
  intro seg hseg
  rw [← List.takeWhile_append_dropWhile (p := fun seg => 0 < itimediff una seg.sn)
    (l := kcp.sndBuf)] at hseg
  rcases List.mem_append.mp hseg with htake | hdrop
  · right
    left
    have hpos : 0 < itimediff una seg.sn := by
      simpa using List.mem_takeWhile_imp htake
    have hmem := (List.takeWhile_sublist _).subset htake
    have hlt := (ahead_pos_iff huna (h.sn_lt hlog hmem)).mp hpos
    exact (UInt32.lt_iff_toNat_lt.mp hlt).trans_le hpeer
  · exact .inl hdrop

theorem ackLoop_sublist (sn : UInt32) (segs : List Segment) :
    (ackLoop sn segs).Sublist segs := by
  induction segs with
  | nil => exact List.Sublist.refl _
  | cons seg rest ih =>
      rw [ackLoop]
      split
      next => exact List.sublist_cons_self _ _
      next =>
        split
        next => exact List.Sublist.refl _
        next => exact ih.cons_cons seg

theorem ackLoop_mem {sn : UInt32} {segs : List Segment} {seg : Segment} (hseg : seg ∈ segs) :
    seg ∈ ackLoop sn segs ∨ seg.sn = sn := by
  induction segs with
  | nil => exact absurd hseg List.not_mem_nil
  | cons first rest ih =>
      rw [ackLoop]
      split
      next hsn =>
        rcases List.mem_cons.mp hseg with rfl | hseg
        · exact .inr hsn.symm
        · exact .inl hseg
      next =>
        split
        next => exact .inl hseg
        next =>
          rcases List.mem_cons.mp hseg with rfl | hseg
          · exact .inl List.mem_cons_self
          · exact (ih hseg).imp_left (List.mem_cons_of_mem _)

theorem ikcpParseAck_fewer {sn : UInt32} (hgot : Got peer sn.toNat) (kcp : Ikcpcb) :
    Fewer peer kcp (ikcpParseAck sn kcp) := by
  rw [ikcpParseAck]
  split
  next =>
    apply setSndBuf_fewer (ackLoop_sublist _ _)
    intro seg hseg
    rcases ackLoop_mem hseg with hleft | hsn
    · exact .inl hleft
    · exact .inr (hsn ▸ hgot)
  next => exact Fewer.of_sender rfl

theorem ikcpParseAck_receiver (sn : UInt32) (kcp : Ikcpcb) :
    (ikcpParseAck sn kcp).receiver = kcp.receiver := by
  rw [ikcpParseAck]
  split <;> rfl

theorem fastackLoop_same (sn : UInt32) (segs : List Segment) :
    List.Forall₂ Segment.Same segs (fastackLoop sn segs) := by
  induction segs with
  | nil => exact .nil
  | cons seg rest ih =>
      rw [fastackLoop]
      split
      next => exact List.forall₂_same.mpr (fun s _ => .refl s)
      next =>
        refine .cons ?_ ih
        split
        next => exact ⟨rfl, rfl, rfl, rfl⟩
        next => exact .refl seg

theorem sn_of_same {segs segs' : List Segment} (h : List.Forall₂ Segment.Same segs segs') :
    segs'.map Segment.sn = segs.map Segment.sn := by
  induction h with
  | nil => rfl
  | cons hsame _ ih => rw [List.map_cons, List.map_cons, hsame.2.2.1, ih]

theorem Fewer.of_same (hconv : kcp'.conv = kcp.conv) (hnext : kcp'.sndNxt = kcp.sndNxt)
    (hqueued : kcp'.queued = kcp.queued) (hnumber : kcp'.nsndBuf = kcp.nsndBuf)
    (h : List.Forall₂ Segment.Same kcp.sndBuf kcp'.sndBuf) : Fewer peer kcp kcp' := by
  refine ⟨hconv, hnext, hqueued, ?_, ?_, sn_of_same h ▸ .refl _, ?_⟩
  · intro seg' hseg
    exact (List.forall₂_iff_get.mp h).elim fun hlen hget => by
      obtain ⟨i, hi, rfl⟩ := List.getElem_of_mem hseg
      exact ⟨_, List.getElem_mem (hlen ▸ hi), hget i (hlen ▸ hi) hi⟩
  · intro seg hseg
    right
    exact (List.forall₂_iff_get.mp h).elim fun hlen hget => by
      obtain ⟨i, hi, rfl⟩ := List.getElem_of_mem hseg
      exact ⟨_, List.getElem_mem (hlen ▸ hi), hget i hi (hlen ▸ hi)⟩
  · rw [hnumber, h.length_eq]
    exact fun h => h

theorem ikcpParseFastack_fewer (sn : UInt32) (kcp : Ikcpcb) :
    Fewer peer kcp (ikcpParseFastack sn kcp) := by
  rw [ikcpParseFastack]
  split
  next => exact Fewer.of_same rfl rfl rfl rfl (fastackLoop_same sn kcp.sndBuf)
  next => exact Fewer.of_sender rfl

theorem ikcpParseFastack_receiver (sn : UInt32) (kcp : Ikcpcb) :
    (ikcpParseFastack sn kcp).receiver = kcp.receiver := by
  rw [ikcpParseFastack]
  split <;> rfl

theorem openWindow_sides (prevUna : UInt32) (kcp : Ikcpcb) :
    (openWindow prevUna kcp).sender = kcp.sender ∧
      (openWindow prevUna kcp).receiver = kcp.receiver := by
  rw [openWindow]
  split
  next => exact ⟨rfl, rfl⟩
  next => exact ⟨rfl, rfl⟩

theorem moveAvailable_sender (segs : List Segment) (kcp : Ikcpcb) :
    (moveAvailable segs kcp).sender = kcp.sender := by
  induction segs generalizing kcp with
  | nil => rfl
  | cons seg rest ih =>
      rw [moveAvailable]
      split
      next => exact ih _
      next => rfl

theorem ikcpParseData_sender (newseg : Segment) (kcp : Ikcpcb) :
    (ikcpParseData newseg kcp).sender = kcp.sender := by
  rw [ikcpParseData]
  split
  next => rfl
  next =>
    dsimp only
    rw [moveAvailable_sender]
    split <;> rfl

theorem inputPush_sender (seg : Segment) (kcp : Ikcpcb) :
    (inputPush seg kcp).sender = kcp.sender := by
  rw [inputPush]
  split
  next =>
    dsimp only
    split
    next => exact ikcpParseData_sender _ _
    next => rfl
  next => rfl

/-- What a segment on the way from `peer` says is true there. -/
structure Genuine (log : List (Piece UInt8)) (peer : Ikcpcb) (seg : Segment) : Prop where
  fits : seg.Fits
  conv : seg.conv = peer.conv
  known : Known seg.cmd
  una : seg.una.toNat ≤ peer.rcvNxt.toNat
  push : seg.cmd = IKCP_CMD_PUSH → log[seg.sn.toNat]? = some seg.part
  ack : seg.cmd = IKCP_CMD_ACK → Got peer seg.sn.toNat

/-- A control block between two logs: `log` is what it sends to `peer`, `plog` what `peer` sends. -/
structure Sound (log plog : List (Piece UInt8)) (took received : List (List UInt8))
    (kcp peer : Ikcpcb) : Prop where
  sending : Sending log kcp
  queue : Queue log took kcp
  kept : Kept log kcp peer
  delivery : Delivery plog received kcp
  acked : Acked kcp

variable {plog : List (Piece UInt8)}

theorem Sound.fewer (h : Sound log plog took received kcp peer) (hf : Fewer peer kcp kcp')
    (hr : kcp'.receiver = kcp.receiver) : Sound log plog took received kcp' peer :=
  ⟨hf.sending h.sending, h.queue.congr hf.queued, hf.keep h.kept, h.delivery.congr hr,
    h.acked.congr hr⟩

theorem Sound.later {peer' : Ikcpcb} (h : Sound log plog took received kcp peer)
    (hlater : Later peer peer') : Sound log plog took received kcp peer' :=
  ⟨h.sending, h.queue, h.kept.later hlater, h.delivery, h.acked⟩

theorem parseUna_sound {seg : Segment} (hlog : log.length < 2 ^ 31) (hpeer : peer.rcvNxt.toNat < 2 ^ 31)
    (h : Sound log plog took received kcp peer) (hg : Genuine plog peer seg) :
    let kcp' := ikcpShrinkBuf (ikcpParseUna seg.una { kcp with rmtWnd := seg.wnd &&& 0xFFFF })
    Sound log plog took received kcp' peer ∧ Later kcp kcp' := by
  have hwnd : Sound log plog took received { kcp with rmtWnd := seg.wnd &&& 0xFFFF } peer := by
    exact h.fewer (Fewer.of_sender rfl) rfl
  have huna := ikcpParseUna_fewer hlog hwnd.sending (hg.una.trans_lt hpeer) hg.una
  have hcut := hwnd.fewer huna rfl
  refine ⟨hcut.fewer (Fewer.of_sender (ikcpShrinkBuf_sender _)) (ikcpShrinkBuf_receiver _), ?_⟩
  exact Later.of_receiver (ikcpShrinkBuf_receiver _)

theorem inputAck_sound {seg : Segment} {st : Input}
    (h : Sound log plog took received st.kcp peer) (hgot : Got peer seg.sn.toNat) :
    Sound log plog took received (inputAck seg st).kcp peer ∧ Later st.kcp (inputAck seg st).kcp := by
  have hrtt (k : Ikcpcb) (hk : k.sender = st.kcp.sender ∧ k.receiver = st.kcp.receiver) :
      Sound log plog took received (ikcpShrinkBuf (ikcpParseAck seg.sn k)) peer ∧
        Later st.kcp (ikcpShrinkBuf (ikcpParseAck seg.sn k)) := by
    have hsame := h.fewer (Fewer.of_sender hk.1) hk.2
    have hcut := hsame.fewer (ikcpParseAck_fewer hgot k) (ikcpParseAck_receiver _ _)
    have hreceiver : (ikcpShrinkBuf (ikcpParseAck seg.sn k)).receiver = st.kcp.receiver := by
      rw [ikcpShrinkBuf_receiver, ikcpParseAck_receiver, hk.2]
    exact ⟨hcut.fewer (Fewer.of_sender (ikcpShrinkBuf_sender _)) (ikcpShrinkBuf_receiver _),
      Later.of_receiver hreceiver⟩
  rw [inputAck]
  apply hrtt
  split <;> exact ⟨rfl, rfl⟩

theorem inputSegment_sound {seg : Segment} {st : Input} (hlog : log.length < 2 ^ 31)
    (hplog : plog.length < 2 ^ 31) (hpeer : peer.rcvNxt.toNat < 2 ^ 31)
    (h : Sound log plog took received st.kcp peer) (hg : Genuine plog peer seg) :
    Sound log plog took received (inputSegment seg.transmitted st).kcp peer ∧
      Later st.kcp (inputSegment seg.transmitted st).kcp := by
  obtain ⟨huna, hlater⟩ := parseUna_sound hlog hpeer h hg
  generalize hk : ikcpShrinkBuf (ikcpParseUna seg.una
    { st.kcp with rmtWnd := seg.wnd &&& 0xFFFF }) = k at huna hlater
  have hst : inputSegment seg.transmitted st =
      if seg.cmd = IKCP_CMD_ACK then inputAck seg.transmitted { st with kcp := k }
      else if seg.cmd = IKCP_CMD_PUSH then
        { st with kcp := inputPush seg.transmitted k }
      else if seg.cmd = IKCP_CMD_WASK then
        { st with kcp := { k with probe := k.probe ||| IKCP_ASK_TELL } }
      else { st with kcp := k } := by
    rw [← hk]
    rfl
  rw [hst]
  by_cases hack : seg.cmd = IKCP_CMD_ACK
  · rw [if_pos hack]
    have hgot : Got peer seg.transmitted.sn.toNat := hg.ack hack
    have hk' : Sound log plog took received ({ st with kcp := k } : Input).kcp peer := huna
    obtain ⟨hs, hl⟩ := inputAck_sound hk' hgot
    exact ⟨hs, hlater.trans hl⟩
  rw [if_neg hack]
  by_cases hpush : seg.cmd = IKCP_CMD_PUSH
  · rw [if_pos hpush]
    have hpart : plog[seg.transmitted.sn.toNat]? = some seg.transmitted.part := hg.push hpush
    obtain ⟨hd, hl, ha⟩ := inputPush_delivery hplog huna.delivery huna.acked hpart
    have hf : Fewer peer k (inputPush seg.transmitted k) := by
      exact Fewer.of_sender (inputPush_sender _ _)
    exact ⟨⟨hf.sending huna.sending, huna.queue.congr hf.queued, hf.keep huna.kept, hd, ha⟩,
      hlater.trans hl⟩
  rw [if_neg hpush]
  split
  next =>
    exact ⟨huna.fewer (Fewer.of_sender rfl) rfl, hlater.trans (Later.of_receiver rfl)⟩
  next => exact ⟨huna, hlater⟩

theorem counted_sound {st : Input} (h : Sound log plog took received st.kcp peer) :
    Sound log plog took received st.counted peer ∧ Later st.kcp st.counted := by
  rw [Input.counted]
  split
  next => exact ⟨h, Later.refl _⟩
  next =>
    exact ⟨h.fewer (ikcpParseFastack_fewer _ _) (ikcpParseFastack_receiver _ _),
      Later.of_receiver (ikcpParseFastack_receiver _ _)⟩

theorem ikcpInput_sound {segs : List Segment} (hlog : log.length < 2 ^ 31)
    (hplog : plog.length < 2 ^ 31) (hpeer : peer.rcvNxt.toNat < 2 ^ 31) (hsegs : segs ≠ [])
    (h : Sound log plog took received kcp peer) (hconv : peer.conv = kcp.conv)
    (hg : ∀ seg ∈ segs, Genuine plog peer seg) :
    (ikcpInput (wire segs) kcp).1 = 0 ∧
      Sound log plog took received (ikcpInput (wire segs) kcp).2 peer ∧
      Later kcp (ikcpInput (wire segs) kcp).2 := by
  have hfits : ∀ seg ∈ segs, seg.Fits ∧ seg.conv = kcp.conv ∧ Known seg.cmd := by
    intro seg hseg
    have := hg seg hseg
    exact ⟨this.fits, this.conv.trans hconv, this.known⟩
  have hloop : ∀ st : Input, Sound log plog took received st.kcp peer →
      Sound log plog took received
        (segs.foldl (fun st seg => inputSegment seg.transmitted st) st).kcp peer ∧
      Later st.kcp (segs.foldl (fun st seg => inputSegment seg.transmitted st) st).kcp := by
    clear hsegs hfits
    induction segs with
    | nil => exact fun st hst => ⟨hst, Later.refl _⟩
    | cons seg segs ih =>
        intro st hst
        obtain ⟨hfirst, hrest⟩ := List.forall_mem_cons.mp hg
        obtain ⟨hs, hl⟩ := inputSegment_sound hlog hplog hpeer hst hfirst
        obtain ⟨hs', hl'⟩ := ih hrest _ hs
        exact ⟨hs', hl.trans hl'⟩
  rw [ikcpInput_wire hsegs hfits]
  obtain ⟨hs, hl⟩ := hloop { kcp := kcp } h
  generalize segs.foldl (fun st seg => inputSegment seg.transmitted st) { kcp := kcp } = st at hs hl
  obtain ⟨hcounted, hlater⟩ := counted_sound hs
  obtain ⟨hsender, hreceiver⟩ := openWindow_sides kcp.sndUna st.counted
  exact ⟨rfl, hcounted.fewer (Fewer.of_sender hsender) hreceiver,
    hl.trans (hlater.trans (Later.of_receiver hreceiver))⟩

theorem Sending.congr (h : Sending log kcp) (hk : kcp'.numbered = kcp.numbered) :
    Sending log kcp' := by
  simp only [Ikcpcb.numbered, Prod.mk.injEq] at hk
  obtain ⟨hconv, hnext, hbuf, hnumber⟩ := hk
  refine ⟨hnext.trans h.next, ?_, ?_, ?_, h.small⟩
  · rw [hbuf, hconv]
    exact h.buf
  · rw [hbuf]
    exact h.sorted
  · rw [hnumber, hbuf, h.number]

theorem Kept.congr (h : Kept log kcp peer) (hk : kcp'.numbered = kcp.numbered) :
    Kept log kcp' peer := by
  simp only [Ikcpcb.numbered, Prod.mk.injEq] at hk
  rw [Kept, hk.2.2.1]
  exact h

theorem ikcpSend_sides (buffer : List UInt8) (kcp : Ikcpcb) :
    (ikcpSend buffer kcp).2.numbered = kcp.numbered ∧
      (ikcpSend buffer kcp).2.receiver = kcp.receiver := by
  have hextend : ∀ more, (extendLast more kcp).numbered = kcp.numbered ∧
      (extendLast more kcp).receiver = kcp.receiver := by
    intro more
    rw [extendLast]
    split
    next => exact ⟨rfl, rfl⟩
    next => split <;> exact ⟨rfl, rfl⟩
  have hsend : ∀ buffer k, (sendFragments buffer k).2.numbered = k.numbered ∧
      (sendFragments buffer k).2.receiver = k.receiver := by
    intro buffer k
    rw [sendFragments]
    split <;> exact ⟨rfl, rfl⟩
  rw [ikcpSend]
  split
  next =>
    dsimp only
    split
    next => exact hextend _
    next => exact ⟨(hsend _ _).1.trans (hextend _).1, (hsend _ _).2.trans (hextend _).2⟩
  next => exact hsend _ _

theorem ikcpSend_sound (h : Sound log plog took received kcp peer) (hmss : 0 < kcp.mss.toNat)
    (buffer : List UInt8) :
    Sound log plog (took ++ accepted buffer kcp) received (ikcpSend buffer kcp).2 peer := by
  obtain ⟨hnumbered, hreceiver⟩ := ikcpSend_sides buffer kcp
  exact ⟨h.sending.congr hnumbered, ikcpSend_queue h.queue hmss buffer, h.kept.congr hnumbered,
    h.delivery.congr hreceiver, h.acked.congr hreceiver⟩

theorem ikcpRecv_sender (len : Int) (kcp : Ikcpcb) :
    (ikcpRecv len kcp).2.2.sender = kcp.sender := by
  have hrefill : ∀ (recover : Bool) (k : Ikcpcb), (refill recover k).sender = k.sender := by
    intro recover k
    rw [refill]
    split <;> exact moveAvailable_sender _ _
  rw [ikcpRecv]
  split
  next => rfl
  next =>
    split
    next => rfl
    next =>
      split
      next => rfl
      next =>
        dsimp only
        rw [hrefill]
        split <;> rfl

theorem ikcpRecv_sound (h : Sound log plog took received kcp peer) (hplog : plog.length < 2 ^ 31)
    (hpeer : ∀ p ∈ plog, p.1 < 128) (hcounted : Counted plog) (len : Int) :
    Sound log plog took (received ++ taken len kcp) (ikcpRecv len kcp).2.2 peer ∧
      Later kcp (ikcpRecv len kcp).2.2 := by
  obtain ⟨hd, hl, ha⟩ := ikcpRecv_delivery len hplog hpeer hcounted h.delivery
  have hf : Fewer peer kcp (ikcpRecv len kcp).2.2 := Fewer.of_sender (ikcpRecv_sender len kcp)
  exact ⟨⟨hf.sending h.sending, h.queue.congr hf.queued, hf.keep h.kept, hd, h.acked.later hl ha⟩, hl⟩

end WirelessEsp.Kcp
