import WirelessEsp.Kcp
import WirelessEsp.LeWords

namespace WirelessEsp.Kcp

open LeWords

def ikcpEncode8u (c : UInt32) : List UInt8 := [byteOf c 0]

def ikcpEncode16u (w : UInt32) : List UInt8 := [byteOf w 0, byteOf w 1]

def ikcpEncode32u (l : UInt32) : List UInt8 := [byteOf l 0, byteOf l 1, byteOf l 2, byteOf l 3]

def ikcpDecode8u (p : List UInt8) : UInt32 := (p.getD 0 0).toUInt32

def ikcpDecode16u (p : List UInt8) : UInt32 := ofBytes (p.getD 0 0) (p.getD 1 0) 0 0

def ikcpDecode32u (p : List UInt8) : UInt32 :=
  ofBytes (p.getD 0 0) (p.getD 1 0) (p.getD 2 0) (p.getD 3 0)

/-- `ikcp_encode_seg`: the header of a segment, in front of its data. -/
def ikcpEncodeSeg (seg : Segment) : List UInt8 :=
  ikcpEncode32u seg.conv ++ ikcpEncode8u seg.cmd ++ ikcpEncode8u seg.frg ++
    ikcpEncode16u seg.wnd ++ ikcpEncode32u seg.ts ++ ikcpEncode32u seg.sn ++
    ikcpEncode32u seg.una ++ ikcpEncode32u seg.len

/-- The segment at the head of a datagram, its data the `len` bytes behind the header. -/
def decodeSeg (data : List UInt8) : Segment where
  conv := ikcpDecode32u data
  cmd := ikcpDecode8u (data.drop 4)
  frg := ikcpDecode8u (data.drop 5)
  wnd := ikcpDecode16u (data.drop 6)
  ts := ikcpDecode32u (data.drop 8)
  sn := ikcpDecode32u (data.drop 12)
  una := ikcpDecode32u (data.drop 16)
  data := (data.drop IKCP_OVERHEAD).take (ikcpDecode32u (data.drop 20)).toNat

def ikcpUpdateAck (rtt : Int32) (kcp : Ikcpcb) : Ikcpcb :=
  let delta := if rtt - kcp.rxSrtt < 0 then -(rtt - kcp.rxSrtt) else rtt - kcp.rxSrtt
  let rttval := if kcp.rxSrtt = 0 then rtt / 2 else (3 * kcp.rxRttval + delta) / 4
  let smoothed := (7 * kcp.rxSrtt + rtt) / 8
  let srtt := if kcp.rxSrtt = 0 then rtt else if smoothed < 1 then 1 else smoothed
  let rto := srtt.toUInt32 + imax kcp.interval (4 * rttval).toUInt32
  { kcp with
    rxSrtt := srtt
    rxRttval := rttval
    rxRto := (ibound kcp.rxMinrto.toUInt32 rto IKCP_RTO_MAX).toInt32 }

def ikcpShrinkBuf (kcp : Ikcpcb) : Ikcpcb :=
  match kcp.sndBuf with
  | [] => { kcp with sndUna := kcp.sndNxt }
  | seg :: _ => { kcp with sndUna := seg.sn }

def ackLoop (sn : UInt32) : List Segment → List Segment
  | [] => []
  | seg :: rest =>
      if sn = seg.sn then rest
      else if itimediff sn seg.sn < 0 then seg :: rest
      else seg :: ackLoop sn rest

/-- `sn` is a number that is sent and not yet acknowledged by `una`. -/
def inFlight (sn : UInt32) (kcp : Ikcpcb) : Prop :=
  0 ≤ itimediff sn kcp.sndUna ∧ itimediff sn kcp.sndNxt < 0

instance (sn : UInt32) (kcp : Ikcpcb) : Decidable (inFlight sn kcp) :=
  inferInstanceAs (Decidable (_ ∧ _))

def setSndBuf (left : List Segment) (kcp : Ikcpcb) : Ikcpcb :=
  { kcp with
    sndBuf := left
    nsndBuf := kcp.nsndBuf - UInt32.ofNat (kcp.sndBuf.length - left.length) }

def ikcpParseAck (sn : UInt32) (kcp : Ikcpcb) : Ikcpcb :=
  if inFlight sn kcp then setSndBuf (ackLoop sn kcp.sndBuf) kcp else kcp

def ikcpParseUna (una : UInt32) (kcp : Ikcpcb) : Ikcpcb :=
  setSndBuf (kcp.sndBuf.dropWhile (fun seg => 0 < itimediff una seg.sn)) kcp

def fastackLoop (sn : UInt32) : List Segment → List Segment
  | [] => []
  | seg :: rest =>
      if itimediff sn seg.sn < 0 then seg :: rest
      else (if sn ≠ seg.sn then { seg with fastack := seg.fastack + 1 } else seg) ::
        fastackLoop sn rest

def ikcpParseFastack (sn : UInt32) (kcp : Ikcpcb) : Ikcpcb :=
  if inFlight sn kcp then { kcp with sndBuf := fastackLoop sn kcp.sndBuf } else kcp

def ikcpAckPush (sn ts : UInt32) (kcp : Ikcpcb) : Ikcpcb :=
  { kcp with acklist := kcp.acklist ++ [(sn, ts)] }

/-- The place of a segment in `rcv_buf`, searched from its tail, which the list begins with;
`none` for a number that is there already. -/
def insertLoop (newseg : Segment) : List Segment → Option (List Segment)
  | [] => some [newseg]
  | seg :: front =>
      if seg.sn = newseg.sn then none
      else if 0 < itimediff newseg.sn seg.sn then some (newseg :: seg :: front)
      else (insertLoop newseg front).map (seg :: ·)

def ikcpParseData (newseg : Segment) (kcp : Ikcpcb) : Ikcpcb :=
  if 0 ≤ itimediff newseg.sn (kcp.rcvNxt + kcp.rcvWnd) ∨ itimediff newseg.sn kcp.rcvNxt < 0 then kcp
  else
    let kcp := match insertLoop newseg kcp.rcvBuf.reverse with
      | none => kcp
      | some buf => { kcp with rcvBuf := buf.reverse, nrcvBuf := kcp.nrcvBuf + 1 }
    moveAvailable kcp.rcvBuf kcp

/-- The control block with `flag`, `maxack` and `latest_ts` of `ikcp_input`: the highest number
that the datagram acknowledges so far and its time stamp. -/
structure Input where
  kcp : Ikcpcb
  maxack : Option (UInt32 × UInt32) := none

def Input.onKcp (f : Ikcpcb → Ikcpcb) (st : Input) : Input := { st with kcp := f st.kcp }

def inputAck (seg : Segment) (st : Input) : Input where
  kcp :=
    let kcp := if 0 ≤ itimediff st.kcp.current seg.ts then
      ikcpUpdateAck (Int32.ofInt (itimediff st.kcp.current seg.ts)) st.kcp else st.kcp
    ikcpShrinkBuf (ikcpParseAck seg.sn kcp)
  maxack := match st.maxack with
    | none => some (seg.sn, seg.ts)
    | some (maxack, latestTs) =>
        if 0 < itimediff seg.sn maxack then some (seg.sn, seg.ts) else some (maxack, latestTs)

def inputPush (seg : Segment) (kcp : Ikcpcb) : Ikcpcb :=
  if itimediff seg.sn (kcp.rcvNxt + kcp.rcvWnd) < 0 then
    let kcp := ikcpAckPush seg.sn seg.ts kcp
    if 0 ≤ itimediff seg.sn kcp.rcvNxt then ikcpParseData seg kcp else kcp
  else kcp

/-- What `ikcp_input` does with one segment whose command it knows. -/
def inputSegment (seg : Segment) (st : Input) : Input :=
  let st := st.onKcp (fun kcp =>
    ikcpShrinkBuf (ikcpParseUna seg.una { kcp with rmtWnd := seg.wnd }))
  if seg.cmd = IKCP_CMD_ACK then inputAck seg st
  else if seg.cmd = IKCP_CMD_PUSH then st.onKcp (inputPush seg)
  else if seg.cmd = IKCP_CMD_WASK then
    st.onKcp (fun kcp => { kcp with probe := kcp.probe ||| IKCP_ASK_TELL })
  else st

/-- The loop of `ikcp_input`. A round takes a header from the datagram, so that its length bounds
the rounds. -/
def inputLoop (conv : UInt32) : Nat → List UInt8 → Input → Int × Input
  | 0, _, st => (0, st)
  | n + 1, data, st =>
      if data.length < IKCP_OVERHEAD then (0, st)
      else
        let seg := decodeSeg data
        let len := ikcpDecode32u (data.drop 20)
        if seg.conv ≠ conv then (-1, st)
        else if data.length - IKCP_OVERHEAD < len.toNat ∨ len.toInt32 < 0 then (-2, st)
        else if seg.cmd ≠ IKCP_CMD_PUSH ∧ seg.cmd ≠ IKCP_CMD_ACK ∧
            seg.cmd ≠ IKCP_CMD_WASK ∧ seg.cmd ≠ IKCP_CMD_WINS then (-3, st)
        else inputLoop conv n (data.drop (IKCP_OVERHEAD + len.toNat)) (inputSegment seg st)

/-- `cwnd` and `incr` one step further, and at most the window of the other side. -/
def grownWindow (kcp : Ikcpcb) : UInt32 × UInt32 :=
  let mss := kcp.mss
  let window :=
    if kcp.cwnd < kcp.ssthresh then (kcp.cwnd + 1, kcp.incr + mss)
    else
      let incr := if kcp.incr < mss then mss else kcp.incr
      let incr := incr + mss * mss / incr + mss / 16
      (if (kcp.cwnd + 1) * mss ≤ incr then (incr + mss - 1) / (if 0 < mss then mss else 1)
        else kcp.cwnd, incr)
  if kcp.rmtWnd < window.1 then (kcp.rmtWnd, kcp.rmtWnd * mss) else window

def openWindow (prevUna : UInt32) (kcp : Ikcpcb) : Ikcpcb :=
  if 0 < itimediff kcp.sndUna prevUna ∧ kcp.cwnd < kcp.rmtWnd then
    { kcp with cwnd := (grownWindow kcp).1, incr := (grownWindow kcp).2 }
  else kcp

def Input.counted (st : Input) : Ikcpcb :=
  match st.maxack with
  | none => st.kcp
  | some (maxack, _) => ikcpParseFastack maxack st.kcp

def ikcpInput (data : List UInt8) (kcp : Ikcpcb) : Int × Ikcpcb :=
  if data.length < IKCP_OVERHEAD then (-1, kcp)
  else
    let result := inputLoop kcp.conv data.length data { kcp := kcp }
    if result.1 ≠ 0 then (result.1, result.2.kcp) else (0, openWindow kcp.sndUna result.2.counted)

end WirelessEsp.Kcp
