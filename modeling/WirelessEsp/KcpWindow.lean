import WirelessEsp.KcpCalls
import WirelessEsp.Transition

namespace WirelessEsp.Kcp

open SerialNumber Transition

variable {limit : Nat} {kcp kcp' : Ikcpcb}

def Ikcpcb.offset (kcp : Ikcpcb) (seg : Segment) : Nat := (seg.sn - kcp.rcvNxt).toNat

def Ikcpcb.stored (kcp : Ikcpcb) : UInt32 × UInt32 × List Segment × List Segment × UInt32 :=
  (kcp.rcvNxt, kcp.rcvWnd, kcp.rcvBuf, kcp.rcvQueue, kcp.nrcvQue)

/-- The receiving side keeps to a window of at most `limit` segments. -/
structure InWindow (limit : Nat) (kcp : Ikcpcb) : Prop where
  wnd : kcp.rcvWnd.toNat ≤ limit
  queue : kcp.rcvQueue.length ≤ limit
  number : kcp.nrcvQue = UInt32.ofNat kcp.rcvQueue.length
  buffer : ∀ seg ∈ kcp.rcvBuf, kcp.offset seg < limit
  sorted : kcp.rcvBuf.Pairwise (fun s t => kcp.offset s < kcp.offset t)

theorem InWindow.congr (h : InWindow limit kcp) (hk : kcp'.stored = kcp.stored) :
    InWindow limit kcp' := by
  simp only [Ikcpcb.stored, Prod.mk.injEq] at hk
  obtain ⟨hnext, hwnd, hbuf, hqueue, hcount⟩ := hk
  have hoffset : kcp'.offset = kcp.offset := by
    funext seg
    rw [Ikcpcb.offset, Ikcpcb.offset, hnext]
  refine ⟨?_, ?_, ?_, ?_, ?_⟩
  · rw [hwnd]
    exact h.wnd
  · rw [hqueue]
    exact h.queue
  · rw [hcount, hqueue]
    exact h.number
  · rw [hbuf, hoffset]
    exact h.buffer
  · rw [hbuf, hoffset]
    exact h.sorted

theorem InWindow.buf_length_le (h : InWindow limit kcp) : kcp.rcvBuf.length ≤ limit := by
  exact length_le_of_increasing h.buffer h.sorted

theorem dropMessage_inWindow (h : InWindow limit kcp) : InWindow limit (dropMessage kcp) := by
  have hlen := congrArg List.length (splitMessage_append kcp.rcvQueue)
  rw [List.length_append] at hlen
  refine ⟨h.wnd, ?_, ?_, h.buffer, h.sorted⟩
  · have hqueue := h.queue
    change (splitMessage kcp.rcvQueue).2.length ≤ limit
    omega
  · change kcp.nrcvQue - UInt32.ofNat (splitMessage kcp.rcvQueue).1.length =
      UInt32.ofNat (splitMessage kcp.rcvQueue).2.length
    rw [h.number, ← hlen, UInt32.ofNat_add, UInt32.add_comm, UInt32.add_sub_cancel]

section Receiving

variable (hlimit : limit < 2 ^ 31)
include hlimit

theorem InWindow.nrcvQue_toNat (h : InWindow limit kcp) :
    kcp.nrcvQue.toNat = kcp.rcvQueue.length := by
  have hqueue := h.queue
  rw [h.number, UInt32.toNat_ofNat']
  omega

theorem moveOne_inWindow {seg : Segment} {rest : List Segment} (h : InWindow limit kcp)
    (hbuf : kcp.rcvBuf = seg :: rest) (hroom : kcp.nrcvQue < kcp.rcvWnd) :
    InWindow limit (moveOne seg rest kcp) := by
  have hbuffer := h.buffer
  have hsorted := h.sorted
  rw [hbuf] at hbuffer hsorted
  obtain ⟨hfirst, hpair⟩ := List.pairwise_cons.mp hsorted
  have hoffset : ∀ s ∈ rest, (moveOne seg rest kcp).offset s + 1 = kcp.offset s := by
    intro s hs
    have hpos := hfirst s hs
    exact sub_succ_toNat (Nat.lt_of_le_of_lt (Nat.zero_le _) hpos)
  refine ⟨h.wnd, ?_, ?_, ?_, ?_⟩
  · have hlt := UInt32.lt_iff_toNat_lt.mp hroom
    rw [h.nrcvQue_toNat hlimit] at hlt
    change (kcp.rcvQueue ++ [seg]).length ≤ limit
    rw [List.length_append, List.length_singleton]
    exact hlt.trans_le h.wnd
  · change kcp.nrcvQue + 1 = UInt32.ofNat (kcp.rcvQueue ++ [seg]).length
    rw [List.length_append, List.length_singleton, ofNat_succ, ← h.number]
  · intro s hs
    have hold := hbuffer s (List.mem_cons_of_mem _ hs)
    have hone := hoffset s hs
    omega
  · apply hpair.imp_of_mem
    intro s t hs ht hst
    have hones := hoffset s hs
    have honet := hoffset t ht
    omega

theorem moveAvailable_inWindow {segs : List Segment} (h : InWindow limit kcp)
    (hbuf : kcp.rcvBuf = segs) : InWindow limit (moveAvailable segs kcp) := by
  induction segs generalizing kcp with
  | nil => exact h
  | cons seg rest ih =>
      rw [moveAvailable]
      split
      next hnext => exact ih (moveOne_inWindow hlimit h hbuf hnext.2) rfl
      next => exact h

theorem offset_lt {newseg : Segment} (h : InWindow limit kcp)
    (hwindow : itimediff newseg.sn (kcp.rcvNxt + kcp.rcvWnd) < 0)
    (hold : 0 ≤ itimediff newseg.sn kcp.rcvNxt) : kcp.offset newseg < limit := by
  have hhalf : kcp.offset newseg < 2 ^ 31 := ahead_nonneg_iff.mp hold
  have hwnd := h.wnd
  have hend : (kcp.rcvNxt + kcp.rcvWnd - kcp.rcvNxt).toNat = kcp.rcvWnd.toNat := by
    rw [UInt32.add_comm, UInt32.add_sub_cancel]
  have hahead := @ahead_of_base newseg.sn (kcp.rcvNxt + kcp.rcvWnd) kcp.rcvNxt hhalf (by omega)
  rw [itimediff, hahead, hend] at hwindow
  rw [Ikcpcb.offset]
  omega

theorem ikcpParseData_inWindow (newseg : Segment) (h : InWindow limit kcp) :
    InWindow limit (ikcpParseData newseg kcp) := by
  rw [ikcpParseData]
  split
  next => exact h
  next hinside =>
    obtain ⟨hwindow, hold⟩ := not_or.mp hinside
    have hnew := offset_lt hlimit h (Int.not_le.mp hwindow) (Int.not_lt.mp hold)
    have hsegs : ∀ seg ∈ kcp.rcvBuf.reverse, kcp.offset seg < 2 ^ 31 := by
      intro seg hseg
      exact (h.buffer seg (List.mem_reverse.mp hseg)).trans hlimit
    have hspec := insertLoop_spec kcp.rcvNxt (hnew.trans hlimit) hsegs
      (List.pairwise_reverse.mpr h.sorted)
    cases hins : insertLoop newseg kcp.rcvBuf.reverse with
    | none => exact moveAvailable_inWindow hlimit h rfl
    | some buf =>
        rw [hins] at hspec
        obtain ⟨hpair, _, hmem⟩ := hspec
        apply moveAvailable_inWindow hlimit _ rfl
        refine ⟨h.wnd, h.queue, h.number, ?_, List.pairwise_reverse.mpr hpair⟩
        intro seg hseg
        rcases (hmem seg).mp (List.mem_reverse.mp hseg) with rfl | hseg
        · exact hnew
        · exact h.buffer seg (List.mem_reverse.mp hseg)

theorem inputPush_inWindow (seg : Segment) (h : InWindow limit kcp) :
    InWindow limit (inputPush seg kcp) := by
  have hpush : InWindow limit (ikcpAckPush seg.sn seg.ts kcp) := h.congr rfl
  rw [inputPush]
  split
  next =>
    dsimp only
    split
    next => exact ikcpParseData_inWindow hlimit seg hpush
    next => exact hpush
  next => exact h

theorem ikcpRecv_inWindow (len : Int) (h : InWindow limit kcp) :
    InWindow limit (ikcpRecv len kcp).2.2 := by
  have hrefill : ∀ recover k, InWindow limit k → InWindow limit (refill recover k) := by
    intro recover k hk
    have hmoved := moveAvailable_inWindow hlimit hk rfl
    rw [refill]
    split
    next => exact hmoved.congr rfl
    next => exact hmoved
  rw [ikcpRecv]
  split
  next => exact h
  next =>
    split
    next => exact h
    next =>
      split
      next => exact h
      next =>
        apply hrefill
        split
        next => exact h
        next => exact dropMessage_inWindow h

end Receiving

theorem ikcpShrinkBuf_stored (kcp : Ikcpcb) : (ikcpShrinkBuf kcp).stored = kcp.stored := by
  rw [ikcpShrinkBuf]
  split <;> rfl

theorem inputAck_stored (seg : Segment) (st : Input) :
    (inputAck seg st).kcp.stored = st.kcp.stored := by
  have hack : ∀ k : Ikcpcb, (ikcpParseAck seg.sn k).stored = k.stored := by
    intro k
    rw [ikcpParseAck]
    split <;> rfl
  simp only [inputAck, ikcpShrinkBuf_stored, hack]
  split <;> rfl

theorem counted_stored (st : Input) : st.counted.stored = st.kcp.stored := by
  rw [Input.counted]
  split
  next => rfl
  next =>
    rw [ikcpParseFastack]
    split <;> rfl

theorem openWindow_stored (prevUna : UInt32) (kcp : Ikcpcb) :
    (openWindow prevUna kcp).stored = kcp.stored := by
  rw [openWindow]
  split <;> rfl

theorem ikcpSend_stored (buffer : List UInt8) (kcp : Ikcpcb) :
    (ikcpSend buffer kcp).2.stored = kcp.stored := by
  have hextend : ∀ more, (extendLast more kcp).stored = kcp.stored := by
    intro more
    rw [extendLast]
    split
    next => rfl
    next => split <;> rfl
  have hsend : ∀ buffer k, (sendFragments buffer k).2.stored = k.stored := by
    intro buffer k
    rw [sendFragments]
    split <;> rfl
  rw [ikcpSend]
  split
  next =>
    dsimp only
    split
    next => exact hextend _
    next => exact (hsend _ _).trans (hextend _)
  next => exact hsend _ _

theorem moveQueued_stored (cwnd wnd : UInt32) (segs : List Segment) (kcp : Ikcpcb) :
    (moveQueued cwnd wnd segs kcp).stored = kcp.stored := by
  induction segs generalizing kcp with
  | nil => rfl
  | cons newseg rest ih =>
      rw [moveQueued]
      split
      next => exact ih _
      next => rfl

theorem ikcpFlush_stored (kcp : Ikcpcb) : (ikcpFlush kcp).1.stored = kcp.stored := by
  have hprobe : ∀ k : Ikcpcb, (probeWindow k).stored = k.stored := by
    intro k
    rw [probeWindow]
    split
    next =>
      split
      next => simp only [Ikcpcb.stored]
      next => split <;> rfl
    next => rfl
  have hdata : ∀ wnd out k, (flushData wnd out k).1.stored = k.stored := by
    intro wnd out k
    exact moveQueued_stored _ _ _ _
  have hcontrol : (flushControl kcp).1.stored = kcp.stored := by
    exact hprobe { kcp with acklist := [] }
  rw [ikcpFlush]
  split
  next => rfl
  next => exact (hdata _ _ _).trans hcontrol

theorem ikcpUpdate_stored (current : UInt32) (kcp : Ikcpcb) :
    (ikcpUpdate current kcp).1.stored = kcp.stored := by
  have hstart : (startClock current kcp).stored = kcp.stored := by
    simp only [startClock]
    split <;> split <;> rfl
  rw [ikcpUpdate]
  dsimp only
  split
  next => exact (ikcpFlush_stored _).trans hstart
  next => exact hstart

/-- The calls that make the window of the receiving side at most `limit`. -/
def Call.WindowAtMost (limit : Nat) : Call → Prop
  | .wndsize _ rcvwnd => rcvwnd ≤ limit
  | _ => True

theorem ikcpWndsize_inWindow (hmin : IKCP_WND_RCV.toNat ≤ limit) {sndwnd rcvwnd : Int}
    (hwnd : rcvwnd ≤ limit) (h : InWindow limit kcp) :
    InWindow limit (ikcpWndsize sndwnd rcvwnd kcp) := by
  have hsend : ∀ n : UInt32, InWindow limit { kcp with sndWnd := n } := by
    intro n
    exact h.congr rfl
  have hset : ∀ k, InWindow limit k →
      InWindow limit { k with rcvWnd := imax (UInt32.ofNat rcvwnd.toNat) IKCP_WND_RCV } := by
    intro k hk
    refine ⟨?_, hk.queue, hk.number, hk.buffer, hk.sorted⟩
    change (imax (UInt32.ofNat rcvwnd.toNat) IKCP_WND_RCV).toNat ≤ limit
    rw [imax]
    split
    next =>
      have hmod := Nat.mod_le rcvwnd.toNat (2 ^ 32)
      rw [UInt32.toNat_ofNat']
      omega
    next => exact hmin
  rw [ikcpWndsize]
  split
  next =>
    apply hset
    split
    next => exact hsend _
    next => exact h
  next =>
    split
    next => exact hsend _
    next => exact h

theorem call_inWindow (hmin : IKCP_WND_RCV.toNat ≤ limit) (hlimit : limit < 2 ^ 31) {c : Call}
    (hc : c.WindowAtMost limit) (h : InWindow limit kcp) {r : Ikcpcb × List (List UInt8)}
    (hcall : kcp.call c = some r) : InWindow limit r.1 := by
  cases c with
  | send buffer =>
      obtain rfl := Option.some.inj hcall
      exact h.congr (ikcpSend_stored _ _)
  | recv len =>
      obtain rfl := Option.some.inj hcall
      exact ikcpRecv_inWindow hlimit len h
  | update current =>
      obtain rfl := Option.some.inj hcall
      exact h.congr (ikcpUpdate_stored _ _)
  | flush =>
      obtain rfl := Option.some.inj hcall
      exact h.congr (ikcpFlush_stored _)
  | nodelay nodelay interval resend nc =>
      obtain rfl := Option.some.inj hcall
      apply h.congr
      simp only [ikcpNodelay]
      split <;> split <;> split <;> split <;> rfl
  | interval interval =>
      obtain rfl := Option.some.inj hcall
      exact h.congr rfl
  | wndsize sndwnd rcvwnd =>
      obtain rfl := Option.some.inj hcall
      exact ikcpWndsize_inWindow hmin hc h
  | setmtu mtu =>
      rw [Ikcpcb.call] at hcall
      split at hcall
      next =>
        obtain rfl := Option.some.inj hcall
        apply h.congr
        rw [ikcpSetmtu]
        split <;> rfl
      next => cases hcall

section Arriving

variable (hlimit : limit < 2 ^ 31)
include hlimit

theorem inputSegment_inWindow (seg : Segment) {st : Input} (h : InWindow limit st.kcp) :
    InWindow limit (inputSegment seg st).kcp := by
  have huna : InWindow limit
      (ikcpShrinkBuf (ikcpParseUna seg.una { st.kcp with rmtWnd := seg.wnd })) := by
    apply h.congr
    rw [ikcpShrinkBuf_stored]
    rfl
  rw [inputSegment]
  split
  next => exact huna.congr (inputAck_stored _ _)
  next =>
    split
    next => exact inputPush_inWindow hlimit seg huna
    next =>
      split
      next => exact huna.congr rfl
      next => exact huna

theorem inputLoop_inWindow (conv : UInt32) (n : Nat) (data : List UInt8) {st : Input}
    (h : InWindow limit st.kcp) : InWindow limit (inputLoop conv n data st).2.kcp := by
  induction n generalizing data st with
  | zero => exact h
  | succ n ih =>
      rw [inputLoop]
      split
      next => exact h
      next =>
        dsimp only
        split
        next => exact h
        next =>
          split
          next => exact h
          next =>
            split
            next => exact h
            next => exact ih _ (inputSegment_inWindow hlimit _ h)

theorem ikcpInput_inWindow (data : List UInt8) (h : InWindow limit kcp) :
    InWindow limit (ikcpInput data kcp).2 := by
  have hloop : InWindow limit (inputLoop kcp.conv data.length data { kcp := kcp }).2.kcp := by
    exact inputLoop_inWindow hlimit _ _ _ h
  rw [ikcpInput]
  split
  next => exact h
  next =>
    dsimp only
    split
    next => exact hloop
    next => exact hloop.congr ((openWindow_stored _ _).trans (counted_stored _))

end Arriving

/-- A call of the user, or a datagram from anybody. -/
inductive Arrival
  | call (c : Call)
  | input (data : List UInt8)

def Ikcpcb.next (kcp : Ikcpcb) : Arrival → Option Ikcpcb
  | .call c => (kcp.call c).map Prod.fst
  | .input data => some (ikcpInput data kcp).2

def Arrival.WindowAtMost (limit : Nat) : Arrival → Prop
  | .call c => c.WindowAtMost limit
  | .input _ => True

theorem next_inWindow (hmin : IKCP_WND_RCV.toNat ≤ limit) (hlimit : limit < 2 ^ 31) {e : Arrival}
    (he : e.WindowAtMost limit) (h : InWindow limit kcp) (hnext : kcp.next e = some kcp') :
    InWindow limit kcp' := by
  cases e with
  | call c =>
      obtain ⟨r, hcall, rfl⟩ := Option.map_eq_some_iff.mp hnext
      exact call_inWindow hmin hlimit he h hcall
  | input data =>
      obtain rfl := Option.some.inj hnext
      exact ikcpInput_inWindow hlimit data h

theorem create_inWindow (conv : UInt32) (stream : Bool) (hmin : IKCP_WND_RCV.toNat ≤ limit) :
    InWindow limit { ikcpCreate conv with stream := stream } := by
  refine ⟨hmin, Nat.zero_le _, rfl, ?_, List.Pairwise.nil⟩
  intro seg hseg
  exact absurd hseg List.not_mem_nil

theorem InWindow.wndUnused (hlimit : limit < 2 ^ 31) (h : InWindow limit kcp) :
    (ikcpWndUnused kcp).toNat = kcp.rcvWnd.toNat - kcp.rcvQueue.length := by
  have hcount := h.nrcvQue_toNat hlimit
  rw [ikcpWndUnused, ← hcount]
  split
  next hroom => exact UInt32.toNat_sub_of_le _ _ (UInt32.le_of_lt hroom)
  next hfull =>
    have hle := UInt32.le_iff_toNat_le.mp (UInt32.not_lt.mp hfull)
    exact (Nat.sub_eq_zero_of_le hle).symm

/-- The window that the other side reads in the headers of a flush. -/
def toldWindow (kcp : Ikcpcb) : UInt32 := (decodeSeg (ikcpEncodeSeg (flushHeader kcp))).wnd

theorem toldWindow_toNat (kcp : Ikcpcb) :
    (toldWindow kcp).toNat = (ikcpWndUnused kcp).toNat % 65536 := by
  have hcmd : IKCP_CMD_ACK.toNat < 256 := by decide
  have hfits : (flushHeader kcp).Fits := ⟨hcmd, Nat.zero_lt_succ _, Nat.two_pow_pos 31⟩
  have hdecode := decodeSeg_encode hfits []
  rw [List.append_nil] at hdecode
  rw [toldWindow, hdecode]
  change (ikcpWndUnused kcp &&& 0xFFFF).toNat = _
  rw [UInt32.toNat_and]
  exact Nat.and_two_pow_sub_one_eq_mod _ 16

/-- Whatever datagrams come, from the other side or from anybody else, neither `rcv_queue` nor
`rcv_buf` gets longer than the window, and the window that is told is the room there is, in 16
bits. -/
theorem window_kept (conv : UInt32) (stream : Bool) (hmin : IKCP_WND_RCV.toNat ≤ limit)
    (hlimit : limit < 2 ^ 31) (events : List Arrival)
    (hevents : ∀ e ∈ events, e.WindowAtMost limit)
    (hrun : run Ikcpcb.next { ikcpCreate conv with stream := stream } events = some kcp) :
    kcp.rcvQueue.length ≤ limit ∧ kcp.rcvBuf.length ≤ limit ∧
      (∀ seg ∈ kcp.rcvBuf, (seg.sn - kcp.rcvNxt).toNat < limit) ∧
      (toldWindow kcp).toNat = (kcp.rcvWnd.toNat - kcp.rcvQueue.length) % 65536 := by
  have hmeets : Meets Ikcpcb.next (fun _ e => e.WindowAtMost limit ∧ True)
      { ikcpCreate conv with stream := stream } events := by
    exact (meets_of_forall (fun _ _ => trivial) _ _).and_mem hevents
  have halways := always_of_step (P := InWindow limit)
    (fun k e k' hk he hstep => next_inWindow hmin hlimit he.1 hk hstep)
    (create_inWindow conv stream hmin) hmeets
  have hkcp := halways.of_run hrun
  refine ⟨hkcp.queue, hkcp.buf_length_le, hkcp.buffer, ?_⟩
  rw [toldWindow_toNat, hkcp.wndUnused hlimit]

def flood : List Arrival :=
  [.call (.wndsize 32 200),
    .input (wire [{ conv := 1, cmd := IKCP_CMD_PUSH, sn := 0, data := [1] },
      { conv := 1, cmd := IKCP_CMD_PUSH, sn := 5, data := [6] },
      { conv := 1, cmd := IKCP_CMD_PUSH, sn := 5, data := [7] },
      { conv := 1, cmd := IKCP_CMD_PUSH, sn := 1000, data := [8] }]),
    .input [1, 0, 0, 0]]

def flooded : Ikcpcb := (run Ikcpcb.next (ikcpCreate 1) flood).getD (ikcpCreate 1)

theorem window_kept_flooded : flooded.rcvBuf.length ≤ 200 ∧
    (toldWindow flooded).toNat = 199 := by
  have hevents : ∀ e ∈ flood, e.WindowAtMost 200 := by
    refine List.forall_mem_cons.mpr ⟨Int.le_refl 200, ?_⟩
    exact List.forall_mem_cons.mpr ⟨trivial, List.forall_mem_singleton.mpr trivial⟩
  have hrun : run Ikcpcb.next (ikcpCreate 1) flood = some flooded := rfl
  have hkept := window_kept 1 false (by decide) (by decide) flood hevents hrun
  exact ⟨hkept.2.1, by decide +kernel⟩

end WirelessEsp.Kcp
