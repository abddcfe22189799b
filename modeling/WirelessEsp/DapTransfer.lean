import WirelessEsp.DapProbe

namespace WirelessEsp.DapTransfer

open DapTypes DapProbe

variable {σ : Type} (L : Link σ)

def DP_ABORT : UInt32 := 0x00
def DP_RDBUFF : UInt32 := 0x0C
def JTAG_ABORT : UInt32 := 0x08
def JTAG_DPACC : UInt32 := 0x0A
def JTAG_APACC : UInt32 := 0x0B
def JTAG_IDCODE : UInt32 := 0x0E

/-- A bit of a request value that is not zero. -/
def has (value flag : UInt32) : Bool := value &&& flag != 0

/-- The variables of the transfer commands. `request` is the offset from the head of
the request, `response` what is stored behind the head of the response. -/
structure Loop (σ : Type) where
  request : Nat
  response : List UInt8
  responseCount : UInt32
  responseValue : UInt32
  postRead : Bool
  checkWrite : Bool
  ir : UInt32
  data : UInt32
  state : State σ

/-- A step of a loop; the error is the state in which the loop is left by `break` or `goto`. -/
abbrev Step (σ : Type) := Except (Loop σ)

/-- One register access: the request, whether `&data` is passed, `data`. -/
abbrev Access (σ : Type) := UInt32 → Bool → UInt32 → State σ → UInt32 × UInt32 × State σ

def State.transferred (s : State σ) (t : Transferred σ) : State σ :=
  { s with dapData := { s.dapData with timestamp := t.timestamp }, world := t.world }

def swdTransfer : Access σ := fun request stores data s =>
  let t := L.swdTransfer s.dapData s.speed request stores data s.world
  (t.ack.toUInt32, if stores then t.data else data, State.transferred s t)

def jtagTransfer : Access σ := fun request stores data s =>
  let t := L.jtagTransfer s.dapData request stores data s.world
  (t.ack.toUInt32, if stores then t.data else data, State.transferred s t)

/-- `do { .. } while ((response_value == DAP_TRANSFER_WAIT) && retry-- && !DAP_TransferAbort)` -/
def retryLoop (access : Access σ) (request : UInt32) (stores : Bool) :
    Nat → UInt32 → State σ → UInt32 × UInt32 × State σ
  | 0, data, s => access request stores data s
  | retry + 1, data, s =>
      let (ack, data, s) := access request stores data s
      if ack == DAP_TRANSFER_WAIT.toUInt32 && !L.dapTransferAbort s.world then
        retryLoop access request stores retry data s
      else (ack, data, s)

def Loop.access (access : Access σ) (request : UInt32) (stores : Bool) (l : Loop σ) : Loop σ :=
  let (ack, data, state) :=
    retryLoop L access request stores l.state.dapData.transfer.retryCount.toNat l.data l.state
  { l with responseValue := ack, data, state }

def Loop.check (l : Loop σ) : Step σ (Loop σ) :=
  if l.responseValue != DAP_TRANSFER_OK.toUInt32 then .error l else .ok l

def Loop.store (word : UInt32) (l : Loop σ) : Loop σ :=
  { l with response := l.response ++ storeWord word }

def Loop.storeTimestamp (value : UInt32) (l : Loop σ) : Loop σ :=
  if has value DAP_TRANSFER_TIMESTAMP then l.store l.state.dapData.timestamp else l

def Loop.skip (n : Nat) (l : Loop σ) : Loop σ := { l with request := l.request + n }

def Loop.aborted (l : Loop σ) : Bool := L.dapTransferAbort l.state.world

def Loop.selectIr (next : UInt32) (l : Loop σ) : Loop σ :=
  if l.ir != next then
    { l with ir := next, state := l.state.onWorld (L.jtagIr l.state.dapData next) }
  else l

def rdbuff : UInt32 := DP_RDBUFF ||| DAP_TRANSFER_RnW

def matchLoop (access : Access σ) (value matchValue : UInt32) : Nat → Loop σ → Loop σ
  | n, l =>
      let l := l.access L access value true
      match n with
      | 0 => l
      | n + 1 =>
          if l.responseValue != DAP_TRANSFER_OK.toUInt32 then l
          else if l.data &&& l.state.dapData.transfer.matchMask != matchValue && !l.aborted L then
            matchLoop access value matchValue n l
          else l

def pollMatch (access : Access σ) (value matchValue : UInt32) (matchRetry : Nat) (l : Loop σ) :
    Step σ (Loop σ) :=
  let l := matchLoop L access value matchValue matchRetry l
  let l :=
    if l.data &&& l.state.dapData.transfer.matchMask != matchValue then
      { l with responseValue := l.responseValue ||| DAP_TRANSFER_MISMATCH.toUInt32 }
    else l
  l.check

/-- `Load data`, and the write of the match mask if that is asked for. -/
def loadData (request : Request) (l : Loop σ) : Loop σ :=
  { l with data := request.word l.request, request := l.request + 4 }

def writeMatchMask (l : Loop σ) : Loop σ :=
  { l with
    state := l.state.onDapData fun d =>
      { d with transfer := { d.transfer with matchMask := l.data } }
    responseValue := DAP_TRANSFER_OK.toUInt32 }

/-- The end of a round: `response_count++`, and out when the transfer is aborted. -/
def countTransfer (l : Loop σ) : Step σ (Loop σ) :=
  let l := { l with responseCount := l.responseCount + 1 }
  if l.aborted L then .error l else .ok l

def swdReadPosted (value : UInt32) (l : Loop σ) : Step σ (Loop σ) :=
  if l.postRead then do
    let l :=
      if value &&& (DAP_TRANSFER_APnDP ||| DAP_TRANSFER_MATCH_VALUE) == DAP_TRANSFER_APnDP then
        l.access L (swdTransfer L) value true
      else { l.access L (swdTransfer L) rdbuff true with postRead := false }
    let l ← l.check
    let l := l.store l.data
    pure (if l.postRead then l.storeTimestamp value else l)
  else pure l

def swdReadMatch (request : Request) (value : UInt32) (l : Loop σ) : Step σ (Loop σ) := do
  let matchValue := request.word l.request
  let l := l.skip 4
  let matchRetry := l.state.dapData.transfer.matchRetry.toNat
  let l ←
    if has value DAP_TRANSFER_APnDP then (l.access L (swdTransfer L) value false).check
    else pure l
  pollMatch L (swdTransfer L) value matchValue matchRetry l

def swdReadNormal (value : UInt32) (l : Loop σ) : Step σ (Loop σ) :=
  if has value DAP_TRANSFER_APnDP then
    if l.postRead then pure l
    else do
      let l ← (l.access L (swdTransfer L) value false).check
      pure { l.storeTimestamp value with postRead := true }
  else do
    let l ← (l.access L (swdTransfer L) value true).check
    let l := l.storeTimestamp value
    pure (l.store l.data)

def swdRead (request : Request) (value : UInt32) (l : Loop σ) : Step σ (Loop σ) := do
  let l ← swdReadPosted L value l
  let l ←
    if has value DAP_TRANSFER_MATCH_VALUE then swdReadMatch L request value l
    else swdReadNormal L value l
  pure { l with checkWrite := false }

def swdWrite (request : Request) (value : UInt32) (l : Loop σ) : Step σ (Loop σ) := do
  let l ←
    if l.postRead then do
      let l ← (l.access L (swdTransfer L) rdbuff true).check
      pure { l.store l.data with postRead := false }
    else pure l
  let l := loadData request l
  if has value DAP_TRANSFER_MATCH_MASK then pure (writeMatchMask l)
  else do
    let l ← (l.access L (swdTransfer L) value true).check
    pure { l.storeTimestamp value with checkWrite := true }

def swdRound (request : Request) (l : Loop σ) : Step σ (Loop σ) := do
  let value := (request l.request).toUInt32
  let l := l.skip 1
  let l ←
    if has value DAP_TRANSFER_RnW then swdRead L request value l else swdWrite L request value l
  countTransfer L l

/-- The loop over the requests with the number of them that is left when it ends. -/
def transferLoop (round : Loop σ → Step σ (Loop σ)) : Nat → Loop σ → Nat × Loop σ
  | 0, l => (0, l)
  | n + 1, l =>
      match round l with
      | .ok l => transferLoop round n l
      | .error l => (n + 1, l)

def operandBytes (value : UInt32) : Nat :=
  if has value DAP_TRANSFER_RnW then if has value DAP_TRANSFER_MATCH_VALUE then 4 else 0
  else 4

def skipRequests (request : Request) : Nat → Nat → Nat
  | 0, i => i
  | n + 1, i => skipRequests request n (i + 1 + operandBytes (request i).toUInt32)

def cancelRequests (request : Request) (rest : Nat × Loop σ) : Loop σ :=
  { rest.2 with request := skipRequests request rest.1 rest.2.request }

def swdFinish (l : Loop σ) : Loop σ :=
  if l.responseValue != DAP_TRANSFER_OK.toUInt32 then l
  else if l.postRead then
    let l := l.access L (swdTransfer L) rdbuff true
    if l.responseValue != DAP_TRANSFER_OK.toUInt32 then l else l.store l.data
  else if l.checkWrite then l.access L (swdTransfer L) rdbuff false
  else l

def startLoop (request : Nat) (s : State σ) : Loop σ where
  request
  response := []
  responseCount := 0
  responseValue := 0
  postRead := false
  checkWrite := false
  ir := 0
  data := L.garbage
  state := s.onWorld L.clearTransferAbort

def transferReply (l : Loop σ) : Reply σ where
  bytes := [l.responseCount.toUInt8, l.responseValue.toUInt8] ++ l.response
  num := counts (UInt32.ofNat l.request) (UInt32.ofNat (2 + l.response.length))
  state := l.state

def dapSwdTransfer (request : Request) (s : State σ) : Reply σ :=
  let l := startLoop L 2 s
  let l := cancelRequests request (transferLoop (swdRound L request) (request 1).toNat l)
  transferReply (swdFinish L l)

def irOf (value : UInt32) : UInt32 :=
  if has value DAP_TRANSFER_APnDP then JTAG_APACC else JTAG_DPACC

def jtagReadPosted (value : UInt32) (l : Loop σ) : Step σ (Loop σ) :=
  if l.postRead then do
    let l :=
      if l.ir == irOf value && !has value DAP_TRANSFER_MATCH_VALUE then
        l.access L (jtagTransfer L) value true
      else
        let l := l.selectIr L JTAG_DPACC
        { l.access L (jtagTransfer L) rdbuff true with postRead := false }
    let l ← l.check
    let l := l.store l.data
    pure (if l.postRead then l.storeTimestamp value else l)
  else pure l

def jtagReadMatch (request : Request) (value : UInt32) (l : Loop σ) : Step σ (Loop σ) := do
  let matchValue := request.word l.request
  let l := l.skip 4
  let matchRetry := l.state.dapData.transfer.matchRetry.toNat
  let l := l.selectIr L (irOf value)
  let l ← (l.access L (jtagTransfer L) value false).check
  pollMatch L (jtagTransfer L) value matchValue matchRetry l

def jtagReadNormal (value : UInt32) (l : Loop σ) : Step σ (Loop σ) :=
  if l.postRead then pure l
  else do
    let l := l.selectIr L (irOf value)
    let l ← (l.access L (jtagTransfer L) value false).check
    pure { l.storeTimestamp value with postRead := true }

def jtagRead (request : Request) (value : UInt32) (l : Loop σ) : Step σ (Loop σ) := do
  let l ← jtagReadPosted L value l
  if has value DAP_TRANSFER_MATCH_VALUE then jtagReadMatch L request value l
  else jtagReadNormal L value l

def jtagWrite (request : Request) (value : UInt32) (l : Loop σ) : Step σ (Loop σ) := do
  let l ←
    if l.postRead then do
      let l := l.selectIr L JTAG_DPACC
      let l ← (l.access L (jtagTransfer L) rdbuff true).check
      pure { l.store l.data with postRead := false }
    else pure l
  let l := loadData request l
  if has value DAP_TRANSFER_MATCH_MASK then pure (writeMatchMask l)
  else do
    let l := l.selectIr L (irOf value)
    let l ← (l.access L (jtagTransfer L) value true).check
    pure (l.storeTimestamp value)

def jtagRound (request : Request) (l : Loop σ) : Step σ (Loop σ) := do
  let value := (request l.request).toUInt32
  let l := l.skip 1
  let l ←
    if has value DAP_TRANSFER_RnW then jtagRead L request value l else jtagWrite L request value l
  countTransfer L l

def jtagFinish (l : Loop σ) : Loop σ :=
  if l.responseValue != DAP_TRANSFER_OK.toUInt32 then l
  else
    let l := l.selectIr L JTAG_DPACC
    if l.postRead then
      let l := l.access L (jtagTransfer L) rdbuff true
      if l.responseValue != DAP_TRANSFER_OK.toUInt32 then l else l.store l.data
    else l.access L (jtagTransfer L) rdbuff false

def setJtagIndex (index : UInt8) (s : State σ) : State σ :=
  s.onDapData fun d => { d with jtagDev := { d.jtagDev with index } }

/-- The device index is in the chain. -/
def validIndex (d : DapData) : Bool := d.jtagDev.index < d.jtagDev.count

/-- With a wrong device index only that byte is taken from the request. -/
def dapJtagTransfer (request : Request) (s : State σ) : Reply σ :=
  let s := setJtagIndex (request 0) s
  if validIndex s.dapData then
    let l := startLoop L 2 s
    let l := cancelRequests request (transferLoop (jtagRound L request) (request 1).toNat l)
    transferReply (jtagFinish L l)
  else transferReply (startLoop L 1 s)

def dapDummyTransfer (request : Request) (s : State σ) : Reply σ where
  bytes := [0, 0]
  num := counts (UInt32.ofNat (skipRequests request (request 1).toNat 2)) 2
  state := s

def dapTransfer (request : Request) (s : State σ) : Reply σ :=
  if s.dapData.debugPort == DAP_PORT_SWD then dapSwdTransfer L request s
  else if s.dapData.debugPort == DAP_PORT_JTAG then dapJtagTransfer L request s
  else dapDummyTransfer request s

/-- The loop of `DAP_TransferBlock` over a block that SWD or JTAG reads. `last` is the request of the
last round; `select` comes before that round. -/
def readBlock (access : Access σ) (value last : UInt32) (select : Loop σ → Loop σ) :
    Nat → Loop σ → Step σ (Loop σ)
  | 0, l => pure l
  | n + 1, l => do
      let l := if n = 0 then select l else l
      let l ← (l.access L access (if n = 0 then last else value) true).check
      readBlock access value last select n
        { l.store l.data with responseCount := l.responseCount + 1 }

def writeBlock (access : Access σ) (request : Request) (value : UInt32) : Nat → Loop σ → Step σ (Loop σ)
  | 0, l => pure l
  | n + 1, l => do
      let l ← ((loadData request l).access L access value true).check
      writeBlock access request value n { l with responseCount := l.responseCount + 1 }

def swdBlock (request : Request) (value : UInt32) (count : Nat) (l : Loop σ) : Step σ (Loop σ) :=
  if has value DAP_TRANSFER_RnW then
    if has value DAP_TRANSFER_APnDP then do
      let l ← (l.access L (swdTransfer L) value false).check
      readBlock L (swdTransfer L) value rdbuff id count l
    else readBlock L (swdTransfer L) value value id count l
  else do
    let l ← writeBlock L (swdTransfer L) request value count l
    pure (l.access L (swdTransfer L) rdbuff false)

def jtagBlock (request : Request) (value : UInt32) (count : Nat) (l : Loop σ) : Step σ (Loop σ) :=
  let l := { l with
    ir := irOf value, state := l.state.onWorld (L.jtagIr l.state.dapData (irOf value)) }
  let select := Loop.selectIr L JTAG_DPACC
  if has value DAP_TRANSFER_RnW then do
    let l ← (l.access L (jtagTransfer L) value false).check
    readBlock L (jtagTransfer L) value rdbuff select count l
  else do
    let l ← writeBlock L (jtagTransfer L) request value count l
    pure ((select l).access L (jtagTransfer L) rdbuff false)

/-- What a block leaves, whether it ends by itself or by `goto end`. -/
def endOf : Step σ (Loop σ) → Loop σ
  | .ok l => l
  | .error l => l

def blockReply (l : Loop σ) : Reply σ where
  bytes := [l.responseCount.toUInt8, (l.responseCount >>> 8).toUInt8, l.responseValue.toUInt8] ++
    l.response
  num := UInt32.ofNat (3 + l.response.length)
  state := l.state

/-- An empty block does nothing. The offset of the data is that behind the request value. -/
def runBlock (block : UInt32 → Nat → Loop σ → Step σ (Loop σ)) (request : Request) (l : Loop σ) : Reply σ :=
  let count := (request.half 1).toNat
  if count = 0 then blockReply l
  else blockReply (endOf (block (request 3).toUInt32 count (l.skip 4)))

def dapSwdTransferBlock (request : Request) (s : State σ) : Reply σ :=
  runBlock (swdBlock L request) request (startLoop L 0 s)

def dapJtagTransferBlock (request : Request) (s : State σ) : Reply σ :=
  let l := startLoop L 0 (setJtagIndex (request 0) s)
  if validIndex l.state.dapData then runBlock (jtagBlock L request) request l
  else blockReply l

def dapTransferBlock (request : Request) (s : State σ) : Reply σ :=
  let reply :=
    if s.dapData.debugPort == DAP_PORT_SWD then dapSwdTransferBlock L request s
    else if s.dapData.debugPort == DAP_PORT_JTAG then dapJtagTransferBlock L request s
    else ⟨[0, 0, 0], 3, s⟩
  let taken :=
    if has (request 3).toUInt32 DAP_TRANSFER_RnW then 4
    else 4 + request.half 1 * 4
  { reply with num := reply.num ||| taken <<< 16 }

end WirelessEsp.DapTransfer
