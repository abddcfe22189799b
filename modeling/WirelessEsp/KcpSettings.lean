import WirelessEsp.KcpFlush

namespace WirelessEsp.Kcp

def Ikcpcb.settings (kcp : Ikcpcb) : UInt32 × UInt32 × UInt32 × Bool × UInt32 :=
  (kcp.conv, kcp.mtu, kcp.mss, kcp.stream, kcp.buffer)

def Ikcpcb.unsent (kcp : Ikcpcb) :
    (UInt32 × UInt32 × UInt32 × Bool × UInt32) × List Segment × UInt32 :=
  (kcp.settings, kcp.sndQueue, kcp.nsndQue)

theorem extendLast_settings (more : List UInt8) (kcp : Ikcpcb) :
    (extendLast more kcp).settings = kcp.settings := by
  rw [extendLast]
  split
  next => rfl
  next => split <;> rfl

theorem sendFragments_settings (buffer : List UInt8) (kcp : Ikcpcb) :
    (sendFragments buffer kcp).2.settings = kcp.settings := by
  rw [sendFragments]
  split <;> rfl

theorem ikcpSend_settings (buffer : List UInt8) (kcp : Ikcpcb) :
    (ikcpSend buffer kcp).2.settings = kcp.settings := by
  rw [ikcpSend]
  split
  next =>
    dsimp only
    split
    next => exact extendLast_settings _ _
    next => rw [sendFragments_settings, extendLast_settings]
  next => exact sendFragments_settings _ _

theorem moveAvailable_unsent (segs : List Segment) (kcp : Ikcpcb) :
    (moveAvailable segs kcp).unsent = kcp.unsent := by
  induction segs generalizing kcp with
  | nil => rfl
  | cons seg rest ih =>
      rw [moveAvailable]
      split
      next => exact ih _
      next => rfl

theorem ikcpRecv_unsent (len : Int) (kcp : Ikcpcb) :
    (ikcpRecv len kcp).2.2.unsent = kcp.unsent := by
  have hrefill : ∀ (recover : Bool) (k : Ikcpcb), (refill recover k).unsent = k.unsent := by
    intro recover k
    rw [refill]
    split <;> exact moveAvailable_unsent _ _
  rw [ikcpRecv]
  split
  next => rfl
  next =>
    split
    next => rfl
    next =>
      split
      next => rfl
      next =>
        dsimp only
        rw [hrefill]
        split <;> rfl

theorem ikcpShrinkBuf_unsent (kcp : Ikcpcb) : (ikcpShrinkBuf kcp).unsent = kcp.unsent := by
  rw [ikcpShrinkBuf]
  split <;> rfl

theorem ikcpParseAck_unsent (sn : UInt32) (kcp : Ikcpcb) :
    (ikcpParseAck sn kcp).unsent = kcp.unsent := by
  rw [ikcpParseAck]
  split <;> rfl

theorem inputAck_unsent (seg : Segment) (st : Input) :
    (inputAck seg st).kcp.unsent = st.kcp.unsent := by
  rw [inputAck]
  dsimp only
  rw [ikcpShrinkBuf_unsent, ikcpParseAck_unsent]
  split <;> rfl

theorem ikcpParseData_unsent (newseg : Segment) (kcp : Ikcpcb) :
    (ikcpParseData newseg kcp).unsent = kcp.unsent := by
  rw [ikcpParseData]
  split
  next => rfl
  next =>
    dsimp only
    rw [moveAvailable_unsent]
    split <;> rfl

theorem inputPush_unsent (seg : Segment) (kcp : Ikcpcb) :
    (inputPush seg kcp).unsent = kcp.unsent := by
  rw [inputPush]
  split
  next =>
    dsimp only
    split
    next => exact ikcpParseData_unsent _ _
    next => rfl
  next => rfl

theorem inputSegment_unsent (seg : Segment) (st : Input) :
    (inputSegment seg st).kcp.unsent = st.kcp.unsent := by
  have huna : (st.onKcp (fun kcp =>
      ikcpShrinkBuf (ikcpParseUna seg.una { kcp with rmtWnd := seg.wnd }))).kcp.unsent =
        st.kcp.unsent := by
    exact ikcpShrinkBuf_unsent _
  rw [inputSegment]
  split
  next => exact (inputAck_unsent _ _).trans huna
  next =>
    split
    next => exact (inputPush_unsent _ _).trans huna
    next => split <;> exact huna

theorem inputLoop_unsent (conv : UInt32) (n : Nat) (data : List UInt8) (st : Input) :
    (inputLoop conv n data st).2.kcp.unsent = st.kcp.unsent := by
  induction n generalizing data st with
  | zero => rfl
  | succ n ih =>
      rw [inputLoop]
      dsimp only
      split
      next => rfl
      next =>
        split
        next => rfl
        next =>
          split
          next => rfl
          next =>
            split
            next => rfl
            next => exact (ih _ _).trans (inputSegment_unsent _ _)

theorem ikcpInput_unsent (data : List UInt8) (kcp : Ikcpcb) :
    (ikcpInput data kcp).2.unsent = kcp.unsent := by
  have hcounted : ∀ st : Input, (openWindow kcp.sndUna st.counted).unsent = st.kcp.unsent := by
    intro st
    have hst : st.counted.unsent = st.kcp.unsent := by
      rw [Input.counted]
      split
      next => rfl
      next =>
        rw [ikcpParseFastack]
        split <;> rfl
    rw [openWindow]
    split <;> exact hst
  rw [ikcpInput]
  split
  next => rfl
  next =>
    dsimp only
    split
    next => exact inputLoop_unsent _ _ _ _
    next => exact (hcounted _).trans (inputLoop_unsent _ _ _ _)

theorem ikcpRecv_settings (len : Int) (kcp : Ikcpcb) :
    (ikcpRecv len kcp).2.2.settings = kcp.settings := by
  exact congrArg Prod.fst (ikcpRecv_unsent len kcp)

theorem probeWindow_settings (kcp : Ikcpcb) : (probeWindow kcp).settings = kcp.settings := by
  rw [probeWindow]
  split
  next =>
    split
    next => simp only [Ikcpcb.settings]
    next => split <;> rfl
  next => rfl

theorem moveQueued_settings (cwnd wnd : UInt32) (segs : List Segment) (kcp : Ikcpcb) :
    (moveQueued cwnd wnd segs kcp).settings = kcp.settings := by
  induction segs generalizing kcp with
  | nil => rfl
  | cons newseg rest ih =>
      rw [moveQueued]
      split
      next => exact ih _
      next => rfl

theorem ikcpFlush_settings (kcp : Ikcpcb) : (ikcpFlush kcp).1.settings = kcp.settings := by
  rw [ikcpFlush]
  split
  next => rfl
  next => exact (moveQueued_settings _ _ _ _).trans (probeWindow_settings _)

theorem ikcpUpdate_settings (current : UInt32) (kcp : Ikcpcb) :
    (ikcpUpdate current kcp).1.settings = kcp.settings := by
  have hstart : (startClock current kcp).settings = kcp.settings := by
    rw [startClock]
    dsimp only
    split <;> split <;> rfl
  rw [ikcpUpdate]
  dsimp only
  split
  next => exact (ikcpFlush_settings _).trans hstart
  next => exact hstart

end WirelessEsp.Kcp
