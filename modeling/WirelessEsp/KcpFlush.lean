import WirelessEsp.KcpInput

namespace WirelessEsp.Kcp

/-- The datagrams given to `ikcp_output`, and the bytes in `buffer` before `ptr`. -/
structure Outgoing where
  sent : List (List UInt8) := []
  pending : List UInt8 := []

/-- `ikcp_output`: the bytes in the buffer are sent, when there are any, and the buffer is empty. -/
def Outgoing.output (o : Outgoing) : Outgoing where
  sent := if o.pending.length = 0 then o.sent else o.sent ++ [o.pending]
  pending := []

/-- A segment is appended to the buffer, which is sent before when there is no room left in it. -/
def Outgoing.put (mtu : UInt32) (bytes : List UInt8) (o : Outgoing) : Outgoing :=
  let o := if mtu.toNat < o.pending.length + bytes.length then o.output else o
  { o with pending := o.pending ++ bytes }

def ikcpWndUnused (kcp : Ikcpcb) : UInt32 :=
  if kcp.nrcvQue < kcp.rcvWnd then kcp.rcvWnd - kcp.nrcvQue else 0

/-- The segment without data that `ikcp_flush` fills in for acknowledges and window probes. -/
def flushHeader (kcp : Ikcpcb) : Segment where
  conv := kcp.conv
  cmd := IKCP_CMD_ACK
  wnd := ikcpWndUnused kcp
  una := kcp.rcvNxt

/-- The loop over the acknowledges. It leaves `sn` and `ts` of the last one in the segment. -/
def flushAcks (mtu : UInt32) :
    List (UInt32 × UInt32) → Segment → Outgoing → Segment × Outgoing
  | [], seg, o => (seg, o)
  | (sn, ts) :: acks, seg, o =>
      let seg := { seg with sn := sn, ts := ts }
      flushAcks mtu acks seg (o.put mtu (ikcpEncodeSeg seg))

def nextProbeWait (wait : UInt32) : UInt32 :=
  let wait := if wait < IKCP_PROBE_INIT then IKCP_PROBE_INIT else wait
  let wait := wait + wait / 2
  if IKCP_PROBE_LIMIT < wait then IKCP_PROBE_LIMIT else wait

def probeWindow (kcp : Ikcpcb) : Ikcpcb :=
  if kcp.rmtWnd = 0 then
    if kcp.probeWait = 0 then
      { kcp with probeWait := IKCP_PROBE_INIT, tsProbe := kcp.current + IKCP_PROBE_INIT }
    else if 0 ≤ itimediff kcp.current kcp.tsProbe then
      { kcp with
        probeWait := nextProbeWait kcp.probeWait
        tsProbe := kcp.current + nextProbeWait kcp.probeWait
        probe := kcp.probe ||| IKCP_ASK_SEND }
    else kcp
  else { kcp with tsProbe := 0, probeWait := 0 }

/-- A window probe is sent when the bit `ask` of `probe` is set. -/
def flushProbe (mtu probe ask cmd : UInt32) (p : Segment × Outgoing) : Segment × Outgoing :=
  if probe &&& ask ≠ 0 then
    let seg := { p.1 with cmd := cmd }
    (seg, p.2.put mtu (ikcpEncodeSeg seg))
  else p

def sendWindow (kcp : Ikcpcb) : UInt32 :=
  let cwnd := imin kcp.sndWnd kcp.rmtWnd
  if kcp.nocwnd then cwnd else imin kcp.cwnd cwnd

/-- The segment at the head of `snd_queue`, with `rest` behind it, gets the next number and is
moved to `snd_buf`. -/
def numberOne (wnd : UInt32) (newseg : Segment) (rest : List Segment) (kcp : Ikcpcb) : Ikcpcb :=
  { kcp with
    nsndQue := kcp.nsndQue - 1
    nsndBuf := kcp.nsndBuf + 1
    sndNxt := kcp.sndNxt + 1
    sndQueue := rest
    sndBuf := kcp.sndBuf ++ [{ newseg with
      conv := kcp.conv
      cmd := IKCP_CMD_PUSH
      wnd := wnd
      ts := kcp.current
      sn := kcp.sndNxt
      una := kcp.rcvNxt
      resendts := kcp.current
      rto := kcp.rxRto.toUInt32
      fastack := 0
      xmit := 0 }] }

/-- The loop over `snd_queue` that numbers segments as long as the window has room. -/
def moveQueued (cwnd wnd : UInt32) : List Segment → Ikcpcb → Ikcpcb
  | [], kcp => kcp
  | newseg :: rest, kcp =>
      if itimediff kcp.sndNxt (kcp.sndUna + cwnd) < 0 then
        moveQueued cwnd wnd rest (numberOne wnd newseg rest kcp)
      else kcp

/-- What the loop over `snd_buf` changes besides the segments. -/
structure Resending where
  out : Outgoing
  xmit : UInt32
  state : UInt32
  change : Bool := false
  lost : Bool := false

inductive Need
  | first
  | timeout
  | fast
  | none
deriving DecidableEq

def need (kcp : Ikcpcb) (resent : UInt32) (segment : Segment) : Need :=
  if segment.xmit = 0 then .first
  else if 0 ≤ itimediff kcp.current segment.resendts then .timeout
  else if resent ≤ segment.fastack ∧
      (segment.xmit.toInt32 ≤ kcp.fastlimit ∨ kcp.fastlimit ≤ 0) then .fast
  else .none

def schedule (kcp : Ikcpcb) (rtomin : UInt32) (segment : Segment) : Need → Segment
  | .first =>
      { segment with
        xmit := segment.xmit + 1
        rto := kcp.rxRto.toUInt32
        resendts := kcp.current + kcp.rxRto.toUInt32 + rtomin }
  | .timeout =>
      let rto :=
        if kcp.nodelay = 0 then segment.rto + imax segment.rto kcp.rxRto.toUInt32
        else
          let step := if kcp.nodelay < 2 then segment.rto.toInt32 else kcp.rxRto
          segment.rto + (step / 2).toUInt32
      { segment with xmit := segment.xmit + 1, rto := rto, resendts := kcp.current + rto }
  | .fast =>
      { segment with
        xmit := segment.xmit + 1
        fastack := 0
        resendts := kcp.current + segment.rto }
  | .none => segment

def flushSegment (kcp : Ikcpcb) (wnd resent rtomin : UInt32) (segment : Segment) (r : Resending) :
    Segment × Resending :=
  let why := need kcp resent segment
  if why = .none then (segment, r)
  else
    let segment := { schedule kcp rtomin segment why with
      ts := kcp.current, wnd := wnd, una := kcp.rcvNxt }
    (segment,
      { out := r.out.put kcp.mtu (ikcpEncodeSeg segment ++ segment.data)
        xmit := if why = .timeout then r.xmit + 1 else r.xmit
        state := if kcp.deadLink ≤ segment.xmit then 0xffffffff else r.state
        change := r.change || why = .fast
        lost := r.lost || why = .timeout })

def flushSegments (kcp : Ikcpcb) (wnd resent rtomin : UInt32) :
    List Segment → Resending → List Segment × Resending
  | [], r => ([], r)
  | segment :: rest, r =>
      let first := flushSegment kcp wnd resent rtomin segment r
      let others := flushSegments kcp wnd resent rtomin rest first.2
      (first.1 :: others.1, others.2)

def atLeastThreshMin (ssthresh : UInt32) : UInt32 :=
  if ssthresh < IKCP_THRESH_MIN then IKCP_THRESH_MIN else ssthresh

structure Window where
  ssthresh : UInt32
  cwnd : UInt32
  incr : UInt32

/-- The congestion window after a flush: `change` and `lost` say what it had to send again. -/
def adjustedWindow (change lost : Bool) (cwnd resent : UInt32) (kcp : Ikcpcb) : Window :=
  let w : Window := ⟨kcp.ssthresh, kcp.cwnd, kcp.incr⟩
  let w := if change then
      let ssthresh := atLeastThreshMin ((kcp.sndNxt - kcp.sndUna) / 2)
      ⟨ssthresh, ssthresh + resent, (ssthresh + resent) * kcp.mss⟩
    else w
  let w := if lost then ⟨atLeastThreshMin (cwnd / 2), 1, kcp.mss⟩ else w
  if w.cwnd < 1 then { w with cwnd := 1, incr := kcp.mss } else w

/-- The first half of `ikcp_flush`: acknowledges and window probes. -/
def flushControl (kcp : Ikcpcb) : Ikcpcb × Outgoing :=
  let acks := flushAcks kcp.mtu kcp.acklist (flushHeader kcp) {}
  let kcp := probeWindow { kcp with acklist := [] }
  let asked := flushProbe kcp.mtu kcp.probe IKCP_ASK_SEND IKCP_CMD_WASK acks
  let told := flushProbe kcp.mtu kcp.probe IKCP_ASK_TELL IKCP_CMD_WINS asked
  ({ kcp with probe := 0 }, told.2)

/-- The second half of `ikcp_flush`: the data, the rest of the buffer and the windows. -/
def flushData (wnd : UInt32) (out : Outgoing) (kcp : Ikcpcb) : Ikcpcb × List (List UInt8) :=
  let cwnd := sendWindow kcp
  let kcp := moveQueued cwnd wnd kcp.sndQueue kcp
  let resent := if 0 < kcp.fastresend then kcp.fastresend.toUInt32 else 0xffffffff
  let rtomin := if kcp.nodelay = 0 then (kcp.rxRto >>> 3).toUInt32 else 0
  let flushed := flushSegments kcp wnd resent rtomin kcp.sndBuf
    { out := out, xmit := kcp.xmit, state := kcp.state }
  let w := adjustedWindow flushed.2.change flushed.2.lost cwnd resent kcp
  ({ kcp with
      sndBuf := flushed.1
      xmit := flushed.2.xmit
      state := flushed.2.state
      ssthresh := w.ssthresh
      cwnd := w.cwnd
      incr := w.incr },
    flushed.2.out.output.sent)

/-- `ikcp_flush`: the control block it leaves and the datagrams it gives to `output`. -/
def ikcpFlush (kcp : Ikcpcb) : Ikcpcb × List (List UInt8) :=
  if !kcp.updated then (kcp, [])
  else
    let control := flushControl kcp
    flushData (flushHeader kcp).wnd control.2 control.1

/-- `ikcp_update` up to the test of `slap`: a flush that is far away in either direction is due
now. -/
def startClock (current : UInt32) (kcp : Ikcpcb) : Ikcpcb :=
  let kcp := { kcp with current := current }
  let kcp := if kcp.updated then kcp else { kcp with updated := true, tsFlush := current }
  let slap := itimediff current kcp.tsFlush
  if 10000 ≤ slap ∨ slap < -10000 then { kcp with tsFlush := current } else kcp

def ikcpUpdate (current : UInt32) (kcp : Ikcpcb) : Ikcpcb × List (List UInt8) :=
  let kcp := startClock current kcp
  if 0 ≤ itimediff current kcp.tsFlush then
    let next := kcp.tsFlush + kcp.interval
    ikcpFlush { kcp with
      tsFlush := if 0 ≤ itimediff current next then current + kcp.interval else next }
  else (kcp, [])

/-- The least time to a timer of `snd_buf`, at most `tm`; `none` when one has run out. -/
def packetTimer (current : UInt32) : List Segment → Int → Option Int
  | [], tm => some tm
  | seg :: rest, tm =>
      let diff := itimediff seg.resendts current
      if diff ≤ 0 then none
      else packetTimer current rest (if diff < tm then diff else tm)

def ikcpCheck (current : UInt32) (kcp : Ikcpcb) : UInt32 :=
  if !kcp.updated then current
  else
    let slap := itimediff current kcp.tsFlush
    let tsFlush := if 10000 ≤ slap ∨ slap < -10000 then current else kcp.tsFlush
    if 0 ≤ itimediff current tsFlush then current
    else
      let tmFlush := itimediff tsFlush current
      match packetTimer current kcp.sndBuf 0x7fffffff with
      | none => current
      | some tmPacket =>
          let minimal := UInt32.ofNat (if tmPacket < tmFlush then tmPacket else tmFlush).toNat
          current + (if kcp.interval ≤ minimal then kcp.interval else minimal)

end WirelessEsp.Kcp
