import WirelessEsp.SerialNumber
import Mathlib.Data.List.Basic

namespace WirelessEsp.Kcp

def IKCP_RTO_NDL : Int32 := 30
def IKCP_RTO_MIN : Int32 := 100
def IKCP_RTO_DEF : Int32 := 200
def IKCP_RTO_MAX : UInt32 := 60000
def IKCP_CMD_PUSH : UInt32 := 81
def IKCP_CMD_ACK : UInt32 := 82
def IKCP_CMD_WASK : UInt32 := 83
def IKCP_CMD_WINS : UInt32 := 84
def IKCP_ASK_SEND : UInt32 := 1
def IKCP_ASK_TELL : UInt32 := 2
def IKCP_WND_SND : UInt32 := 32
def IKCP_WND_RCV : UInt32 := 128
def IKCP_MTU_DEF : UInt32 := 1400
def IKCP_INTERVAL : UInt32 := 100
def IKCP_OVERHEAD : Nat := 24
def IKCP_DEADLINK : UInt32 := 20
def IKCP_THRESH_INIT : UInt32 := 2
def IKCP_THRESH_MIN : UInt32 := 2
def IKCP_PROBE_INIT : UInt32 := 7000
def IKCP_PROBE_LIMIT : UInt32 := 120000
def IKCP_FASTACK_LIMIT : Int32 := 5

def imin (a b : UInt32) : UInt32 := if a ≤ b then a else b

def imax (a b : UInt32) : UInt32 := if b ≤ a then a else b

def ibound (lower middle upper : UInt32) : UInt32 := imin (imax lower middle) upper

def itimediff (later earlier : UInt32) : Int := SerialNumber.ahead later earlier

/-- `IKCPSEG`. A segment that waits in `snd_queue` has only its `frg` and its data; the other
fields are set when it is moved to `snd_buf`, and nothing reads them before. -/
structure Segment where
  conv : UInt32 := 0
  cmd : UInt32 := 0
  frg : UInt32 := 0
  wnd : UInt32 := 0
  ts : UInt32 := 0
  sn : UInt32 := 0
  una : UInt32 := 0
  resendts : UInt32 := 0
  rto : UInt32 := 0
  fastack : UInt32 := 0
  xmit : UInt32 := 0
  data : List UInt8 := []
  deriving DecidableEq

def Segment.len (seg : Segment) : UInt32 := UInt32.ofNat seg.data.length

/-- The bytes of some segments, one after the other. -/
def payload (segs : List Segment) : List UInt8 := segs.flatMap Segment.data

/-- `IKCPCB`, with its queues as lists from `next` on, `acklist` as the pairs `(sn, ts)`, and of
`buffer` the size that it has been allocated with. -/
structure Ikcpcb where
  conv : UInt32
  mtu : UInt32
  mss : UInt32
  state : UInt32
  sndUna : UInt32
  sndNxt : UInt32
  rcvNxt : UInt32
  ssthresh : UInt32
  rxRttval : Int32
  rxSrtt : Int32
  rxRto : Int32
  rxMinrto : Int32
  sndWnd : UInt32
  rcvWnd : UInt32
  rmtWnd : UInt32
  cwnd : UInt32
  probe : UInt32
  current : UInt32
  interval : UInt32
  tsFlush : UInt32
  xmit : UInt32
  nrcvBuf : UInt32
  nsndBuf : UInt32
  nrcvQue : UInt32
  nsndQue : UInt32
  nodelay : UInt32
  updated : Bool
  tsProbe : UInt32
  probeWait : UInt32
  deadLink : UInt32
  incr : UInt32
  sndQueue : List Segment
  rcvQueue : List Segment
  sndBuf : List Segment
  rcvBuf : List Segment
  acklist : List (UInt32 × UInt32)
  buffer : UInt32
  fastresend : Int32
  fastlimit : Int32
  nocwnd : Bool
  stream : Bool
  deriving DecidableEq

def bufferSize (mtu : UInt32) : UInt32 := (mtu + UInt32.ofNat IKCP_OVERHEAD) * 3

def ikcpCreate (conv : UInt32) : Ikcpcb where
  conv := conv
  mtu := IKCP_MTU_DEF
  mss := IKCP_MTU_DEF - UInt32.ofNat IKCP_OVERHEAD
  state := 0
  sndUna := 0
  sndNxt := 0
  rcvNxt := 0
  ssthresh := IKCP_THRESH_INIT
  rxRttval := 0
  rxSrtt := 0
  rxRto := IKCP_RTO_DEF
  rxMinrto := IKCP_RTO_MIN
  sndWnd := IKCP_WND_SND
  rcvWnd := IKCP_WND_RCV
  rmtWnd := IKCP_WND_RCV
  cwnd := 0
  probe := 0
  current := 0
  interval := IKCP_INTERVAL
  tsFlush := IKCP_INTERVAL
  xmit := 0
  nrcvBuf := 0
  nsndBuf := 0
  nrcvQue := 0
  nsndQue := 0
  nodelay := 0
  updated := false
  tsProbe := 0
  probeWait := 0
  deadLink := IKCP_DEADLINK
  incr := 0
  sndQueue := []
  rcvQueue := []
  sndBuf := []
  rcvBuf := []
  acklist := []
  buffer := bufferSize IKCP_MTU_DEF
  fastresend := 0
  fastlimit := IKCP_FASTACK_LIMIT
  nocwnd := false
  stream := false

def ikcpSetmtu (mtu : Int) (kcp : Ikcpcb) : Int × Ikcpcb :=
  if mtu < 50 ∨ mtu < IKCP_OVERHEAD then (-1, kcp)
  else
    (0, { kcp with
      mtu := UInt32.ofNat mtu.toNat
      mss := UInt32.ofNat mtu.toNat - UInt32.ofNat IKCP_OVERHEAD
      buffer := bufferSize (UInt32.ofNat mtu.toNat) })

def boundInterval (interval : Int) : UInt32 :=
  if 5000 < interval then 5000 else if interval < 10 then 10 else UInt32.ofNat interval.toNat

def ikcpInterval (interval : Int) (kcp : Ikcpcb) : Ikcpcb :=
  { kcp with interval := boundInterval interval }

def ikcpNodelay (nodelay interval resend nc : Int) (kcp : Ikcpcb) : Ikcpcb :=
  let kcp := if 0 ≤ nodelay then
      { kcp with
        nodelay := UInt32.ofNat nodelay.toNat
        rxMinrto := if nodelay ≠ 0 then IKCP_RTO_NDL else IKCP_RTO_MIN }
    else kcp
  let kcp := if 0 ≤ interval then { kcp with interval := boundInterval interval } else kcp
  let kcp := if 0 ≤ resend then { kcp with fastresend := Int32.ofInt resend } else kcp
  if 0 ≤ nc then { kcp with nocwnd := nc ≠ 0 } else kcp

def ikcpWndsize (sndwnd rcvwnd : Int) (kcp : Ikcpcb) : Ikcpcb :=
  let kcp := if 0 < sndwnd then { kcp with sndWnd := UInt32.ofNat sndwnd.toNat } else kcp
  if 0 < rcvwnd then { kcp with rcvWnd := imax (UInt32.ofNat rcvwnd.toNat) IKCP_WND_RCV } else kcp

def ikcpWaitsnd (kcp : Ikcpcb) : UInt32 := kcp.nsndBuf + kcp.nsndQue

/-- The fragments of `ikcp_send`: `n` segments of `mss` bytes, the last one with what is left. -/
def fragments (mss : Nat) (stream : Bool) : Nat → List UInt8 → List Segment
  | 0, _ => []
  | n + 1, buffer =>
      { data := buffer.take mss, frg := if stream then 0 else UInt32.ofNat n } ::
        fragments mss stream n (buffer.drop mss)

/-- The bytes by which stream mode can extend the last segment of `snd_queue`. -/
def extension (length : Nat) (kcp : Ikcpcb) : Nat :=
  match kcp.sndQueue.getLast? with
  | none => 0
  | some old => if old.len < kcp.mss then min length (kcp.mss - old.len).toNat else 0

/-- The last segment of `snd_queue` replaced by one that has the bytes `more` too. -/
def extendLast (more : List UInt8) (kcp : Ikcpcb) : Ikcpcb :=
  match kcp.sndQueue.getLast? with
  | none => kcp
  | some old =>
      if old.len < kcp.mss then
        { kcp with sndQueue := kcp.sndQueue.dropLast ++ [{ data := old.data ++ more, frg := 0 }] }
      else kcp

def fragmentCount (length mss : Nat) : Nat :=
  let count := if length ≤ mss then 1 else (length + mss - 1) / mss
  if count = 0 then 1 else count

/-- `snd_queue` with the buffer in `count` segments behind it. -/
def queueFragments (count : Nat) (buffer : List UInt8) (kcp : Ikcpcb) : Ikcpcb :=
  { kcp with
    sndQueue := kcp.sndQueue ++ fragments kcp.mss.toNat kcp.stream count buffer
    nsndQue := kcp.nsndQue + UInt32.ofNat count }

/-- What `ikcp_send` does behind the append of stream mode. -/
def sendFragments (buffer : List UInt8) (kcp : Ikcpcb) : Int × Ikcpcb :=
  let count := fragmentCount buffer.length kcp.mss.toNat
  if IKCP_WND_RCV.toNat ≤ count then (-2, kcp) else (0, queueFragments count buffer kcp)

def ikcpSend (buffer : List UInt8) (kcp : Ikcpcb) : Int × Ikcpcb :=
  if kcp.stream then
    let extend := extension buffer.length kcp
    let kcp := extendLast (buffer.take extend) kcp
    if buffer.length - extend = 0 then (0, kcp) else sendFragments (buffer.drop extend) kcp
  else sendFragments buffer kcp

/-- The first segments of `rcv_queue` up to one with `frg` 0, and the segments behind them. -/
def splitMessage : List Segment → List Segment × List Segment
  | [] => ([], [])
  | seg :: rest =>
      if seg.frg = 0 then ([seg], rest)
      else (seg :: (splitMessage rest).1, (splitMessage rest).2)

def ikcpPeeksize (kcp : Ikcpcb) : Int :=
  match kcp.rcvQueue with
  | [] => -1
  | seg :: _ =>
      if seg.frg = 0 then seg.data.length
      else if kcp.nrcvQue < seg.frg + 1 then -1
      else (payload (splitMessage kcp.rcvQueue).1).length

/-- The segment at the head of `rcv_buf`, with `rest` behind it, is moved to `rcv_queue`. -/
def moveOne (seg : Segment) (rest : List Segment) (kcp : Ikcpcb) : Ikcpcb :=
  { kcp with
    nrcvBuf := kcp.nrcvBuf - 1
    rcvQueue := kcp.rcvQueue ++ [seg]
    nrcvQue := kcp.nrcvQue + 1
    rcvNxt := kcp.rcvNxt + 1
    rcvBuf := rest }

/-- The loop over `rcv_buf` that moves what is in order to `rcv_queue`. -/
def moveAvailable : List Segment → Ikcpcb → Ikcpcb
  | [], kcp => kcp
  | seg :: rest, kcp =>
      if seg.sn = kcp.rcvNxt ∧ kcp.nrcvQue < kcp.rcvWnd then
        moveAvailable rest (moveOne seg rest kcp)
      else kcp

def dropMessage (kcp : Ikcpcb) : Ikcpcb :=
  { kcp with
    rcvQueue := (splitMessage kcp.rcvQueue).2
    nrcvQue := kcp.nrcvQue - UInt32.ofNat (splitMessage kcp.rcvQueue).1.length }

/-- The end of `ikcp_recv`: the other side is told when a full queue has room again. -/
def refill (recover : Bool) (kcp : Ikcpcb) : Ikcpcb :=
  let kcp := moveAvailable kcp.rcvBuf kcp
  if kcp.nrcvQue < kcp.rcvWnd ∧ recover then { kcp with probe := kcp.probe ||| IKCP_ASK_TELL }
  else kcp

/-- `ikcp_recv`: what it returns, the bytes it stores, and what it leaves. A negative `len` asks
to leave the message in the queue. -/
def ikcpRecv (len : Int) (kcp : Ikcpcb) : Int × List UInt8 × Ikcpcb :=
  if kcp.rcvQueue = [] then (-1, [], kcp)
  else if ikcpPeeksize kcp < 0 then (-2, [], kcp)
  else if len.natAbs < ikcpPeeksize kcp then (-3, [], kcp)
  else
    let message := payload (splitMessage kcp.rcvQueue).1
    let left := if len < 0 then kcp else dropMessage kcp
    (message.length, message, refill (kcp.rcvWnd ≤ kcp.nrcvQue) left)

end WirelessEsp.Kcp
