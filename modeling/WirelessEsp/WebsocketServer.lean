import WirelessEsp.WebsocketMask

namespace WirelessEsp.WebsocketServer

open LeWords WebsocketMask

def CONFIG_CO_SOCKET_BUFFER_SIZE : Nat := 1500
def CONFIG_CO_WS_TEXT_BUFFER_SIZE : Nat := 100

def WS_FIN : UInt8 := 0x80
def WS_MASK : UInt8 := 0x80
def WS_OPCODE_CONTINUATION : UInt8 := 0x00
def WS_OPCODE_TEXT : UInt8 := 0x01
def WS_OPCODE_BINARY : UInt8 := 0x02
def WS_OPCODE_CLOSE : UInt8 := 0x08
def WS_OPCODE_PING : UInt8 := 0x09
def WS_OPCODE_PONG : UInt8 := 0x0a

inductive CoErr
  | ok
  | fail
  | ioPending
deriving DecidableEq, Repr

inductive CoSocketStatus
  | accept
  | handshake
  | websocketHeader
  | websocketExtendLength
  | websocketMask
  | websocketPayload
  | closing
deriving DecidableEq, Repr

structure CoWebsocketCb where
  fin : Bool
  opcode : UInt8
  mask : Bool
  payloadLen : Nat
  maskVal : UInt32
  skipFrame : Bool
deriving DecidableEq, Repr

/-- `addr` is the address of the first byte of `buf`. -/
structure CoSocketCb where
  status : CoSocketStatus
  addr : UInt32
  buf : List UInt8
  remainingLen : Nat
  readLen : Nat
  wcb : CoWebsocketCb
deriving DecidableEq, Repr

structure CoCb where
  recvData : Option (List UInt8)
  recvDataOffset : Nat
deriving DecidableEq, Repr

/-- What a session does, in order: the headers it establishes, the payload
chunks it hands on, and the calls that leave the parser. -/
inductive Event
  | header (fin : Bool) (opcode : UInt8) (mask : Bool) (payloadLen : Nat)
  | payload (chunk : List UInt8)
  | processBinary (data : List UInt8)
  | processText (data : List UInt8)
  | send (bytes : List UInt8)
  | sendMsgWithCode (code : Nat) (msg : String)
  | nullWrite
deriving DecidableEq, Repr

structure Session where
  cb : CoCb
  scb : CoSocketCb
  log : List Event
deriving DecidableEq, Repr

def Session.emit (s : Session) (e : Event) : Session := { s with log := s.log ++ [e] }

def sizeSub (a b : Nat) : Nat := (a + 2 ^ 32 - b) % 2 ^ 32

def CoSocketCb.data (scb : CoSocketCb) (i : Nat) : UInt8 := scb.buf.getD i 0

def overwrite (buf : List UInt8) (i : Nat) (bytes : List UInt8) : List UInt8 :=
  buf.take i ++ bytes ++ buf.drop (i + bytes.length)

/-- The opcode a frame is handled under; `none` where the parser gives up. A
continuation frame keeps the opcode of the frame before it. -/
def frameOpcode (scb : CoSocketCb) : Option UInt8 :=
  let opcode := scb.data 0 &&& 0x0f
  if opcode = WS_OPCODE_CONTINUATION then some scb.wcb.opcode
  else if opcode = WS_OPCODE_TEXT ∨ opcode = WS_OPCODE_BINARY then some opcode
  else if opcode = WS_OPCODE_PING ∨ opcode = WS_OPCODE_PONG then some opcode
  else if opcode = WS_OPCODE_CLOSE then some opcode
  else none

def storeHeader (scb : CoSocketCb) (opcode : UInt8) : CoSocketCb :=
  let fin := scb.data 0 &&& WS_FIN == WS_FIN
  let mask := scb.data 1 &&& WS_MASK == WS_MASK
  let payloadLen := (scb.data 1 &&& 0x7f).toNat
  { scb with
    status :=
      if payloadLen = 126 ∨ payloadLen = 127 then .websocketExtendLength
      else if mask then .websocketMask
      else scb.status
    readLen := 2
    wcb := { scb.wcb with fin := fin, opcode := opcode, mask := mask, payloadLen := payloadLen } }

/-- The first two bytes. An early return is the `error` case. -/
def readHeader (scb : CoSocketCb) : Except (CoErr × CoSocketCb) CoSocketCb :=
  if scb.status = .websocketHeader then
    if scb.remainingLen < 2 then .error (.ok, scb)
    else if scb.data 0 &&& 0x70 != 0 then .error (.fail, scb)
    else
      match frameOpcode scb with
      | none => .error (.fail, scb)
      | some opcode => .ok (storeHeader scb opcode)
  else .ok scb

def extendedLength16 (scb : CoSocketCb) : Nat :=
  (scb.data 2).toNat <<< 8 ||| (scb.data 3).toNat

def extendedLength64 (scb : CoSocketCb) : Nat :=
  (scb.data 9).toNat <<< 0 ||| (scb.data 8).toNat <<< 8 ||| (scb.data 7).toNat <<< 16 |||
    (scb.data 6).toNat <<< 24 ||| (scb.data 5).toNat <<< 32 ||| (scb.data 4).toNat <<< 40 |||
    (scb.data 3).toNat <<< 48 ||| (scb.data 2).toNat <<< 56

def storeLength (scb : CoSocketCb) (readLen payloadLen : Nat) : CoSocketCb :=
  { scb with
    status := if scb.wcb.mask then .websocketMask else .websocketPayload
    readLen := readLen
    wcb := { scb.wcb with payloadLen := payloadLen % 2 ^ 32 } }

def readExtendLength (scb : CoSocketCb) : Except (CoErr × CoSocketCb) CoSocketCb :=
  if scb.status = .websocketExtendLength then
    if scb.wcb.payloadLen = 126 then
      if scb.remainingLen < scb.readLen + 2 then .error (.ok, scb)
      else .ok (storeLength scb (scb.readLen + 2) (extendedLength16 scb))
    else if scb.wcb.payloadLen = 127 then
      if scb.remainingLen < scb.readLen + 8 then .error (.ok, scb)
      else if extendedLength64 scb >>> 63 &&& 1 = 1 then .error (.fail, scb)
      else .ok (storeLength scb (scb.readLen + 8) (extendedLength64 scb))
    else .ok (storeLength scb scb.readLen scb.wcb.payloadLen)
  else .ok scb

def storeMask (scb : CoSocketCb) : CoSocketCb :=
  { scb with
    status := .websocketPayload
    readLen := scb.readLen + 4
    wcb := { scb.wcb with
      maskVal := ofBytes (scb.data scb.readLen) (scb.data (scb.readLen + 1))
        (scb.data (scb.readLen + 2)) (scb.data (scb.readLen + 3)) } }

def readMask (scb : CoSocketCb) : CoErr × CoSocketCb :=
  if scb.status = .websocketMask then
    if scb.remainingLen < scb.readLen + 4 then (.ok, scb)
    else (.ok, storeMask scb)
  else (.ok, { scb with status := .websocketPayload })

def coWebsocketProcessHeader (scb : CoSocketCb) : CoErr × CoSocketCb :=
  match (do readExtendLength (← readHeader scb)) with
  | .error r => r
  | .ok scb => readMask scb

def chunkLen (scb : CoSocketCb) : Nat :=
  min (sizeSub scb.remainingLen scb.readLen) scb.wcb.payloadLen

def CoSocketCb.chunk (scb : CoSocketCb) : List UInt8 :=
  (scb.buf.drop scb.readLen).take (chunkLen scb)

def CoSocketCb.withMasked (scb : CoSocketCb) (buf : List UInt8) (maskVal : UInt32) : CoSocketCb :=
  { scb with buf := buf, wcb := { scb.wcb with maskVal := maskVal } }

def unmaskChunk (scb : CoSocketCb) : CoSocketCb :=
  if scb.wcb.mask ∧ scb.wcb.opcode ≠ WS_OPCODE_PING then
    scb.withMasked
      (overwrite scb.buf scb.readLen
        (coWebsocketFastMask (scb.addr + UInt32.ofNat scb.readLen) scb.wcb.maskVal scb.chunk))
      (coWebsocketGetNewMask scb.wcb.maskVal (chunkLen scb))
  else scb

/-- A text payload that comes in parts is gathered in `recvData`. -/
def processTextPayload (s : Session) (data : List UInt8) : CoErr × Session :=
  let len := data.length
  if s.scb.wcb.skipFrame then
    if len = s.scb.wcb.payloadLen then
      (.ok, { s with scb := { s.scb with wcb := { s.scb.wcb with skipFrame := false } } })
    else (.ok, s)
  else if len = s.scb.wcb.payloadLen ∧ s.cb.recvDataOffset = 0 then
    (.ok, s.emit (.processText data))
  else if len > CONFIG_CO_WS_TEXT_BUFFER_SIZE - s.cb.recvDataOffset then
    let skip := if len < s.scb.wcb.payloadLen then true else s.scb.wcb.skipFrame
    let s := s.emit (.sendMsgWithCode 3 "request too long")
    (.ok, { s with
      cb := { s.cb with recvDataOffset := 0 }
      scb := { s.scb with wcb := { s.scb.wcb with skipFrame := skip } } })
  else
    match s.cb.recvData with
    | none =>
        -- the copy goes through a null pointer, unless it is empty
        if len > 0 then (.fail, s.emit .nullWrite)
        else if len = s.scb.wcb.payloadLen then
          (.ok, { s.emit (.processText []) with cb := { s.cb with recvDataOffset := 0 } })
        else (.ok, s)
    | some recvData =>
        let recvData := overwrite recvData s.cb.recvDataOffset data
        if len = s.scb.wcb.payloadLen then
          (.ok, { s.emit (.processText (recvData.take len)) with
            cb := { recvData := some recvData, recvDataOffset := 0 } })
        else
          (.ok, { s with
            cb := { recvData := some recvData, recvDataOffset := s.cb.recvDataOffset + len } })

def coWebsocketProcessPing (s : Session) : Session :=
  let len := 2 + s.scb.wcb.payloadLen + (if s.scb.wcb.mask then 4 else 0)
  let buf := overwrite s.scb.buf 0 [WS_FIN ||| WS_OPCODE_PONG]
  { s with scb := { s.scb with buf := buf }, log := s.log ++ [.send (buf.take len)] }

def coWebsocketProcessClose (s : Session) : Session :=
  s.emit (.send [WS_FIN ||| WS_OPCODE_CLOSE, 0x02, 0x03, 0xe8])

def processOpcode (s : Session) (data : List UInt8) : CoErr × Session :=
  if s.scb.wcb.opcode = WS_OPCODE_TEXT then processTextPayload s data
  else if s.scb.wcb.opcode = WS_OPCODE_BINARY then (.ok, s.emit (.processBinary data))
  else if s.scb.wcb.opcode = WS_OPCODE_PING then (.ok, coWebsocketProcessPing s)
  else if s.scb.wcb.opcode = WS_OPCODE_PONG then (.ok, s)
  else if s.scb.wcb.opcode = WS_OPCODE_CLOSE then (.fail, coWebsocketProcessClose s)
  else (.ok, s)

def finishChunk (scb : CoSocketCb) (len : Nat) : CoErr × CoSocketCb :=
  let newLen := sizeSub scb.remainingLen scb.readLen - len
  if newLen > 0 then
    (.ioPending, { scb with
      buf := overwrite scb.buf 0 ((scb.buf.drop (scb.readLen + len)).take newLen)
      readLen := 0
      remainingLen := newLen
      status := .websocketHeader
      wcb := { scb.wcb with payloadLen := 0 } })
  else if scb.wcb.payloadLen > len then
    (.ok, { scb with
      wcb := { scb.wcb with payloadLen := scb.wcb.payloadLen - len }
      readLen := 0
      remainingLen := 0 })
  else
    (.ok, { scb with
      readLen := 0
      remainingLen := 0
      status := .websocketHeader
      wcb := { scb.wcb with payloadLen := 0 } })

def dispatchChunk (s : Session) (len : Nat) : CoErr × Session :=
  let data := (s.scb.buf.drop s.scb.readLen).take len
  match processOpcode (s.emit (.payload data)) data with
  | (.fail, s) => (.fail, s)
  | (_, s) => ((finishChunk s.scb len).1, { s with scb := (finishChunk s.scb len).2 })

def coWebsocketProcessPayload (s : Session) : CoErr × Session :=
  dispatchChunk { s with scb := unmaskChunk s.scb } (chunkLen s.scb)

def processHeaderRound (s : Session) : CoErr × Session :=
  if s.scb.status ≠ .websocketPayload then
    let (ret, scb) := coWebsocketProcessHeader s.scb
    let s := { s with scb := scb }
    if ret = .ok ∧ scb.status = .websocketPayload then
      (ret, s.emit (.header scb.wcb.fin scb.wcb.opcode scb.wcb.mask scb.wcb.payloadLen))
    else (ret, s)
  else (.ok, s)

/-- The rounds of one call, while more frames are in the buffer; `none` when
the fuel runs out. -/
def processRounds : Nat → Session → Option (Bool × Session)
  | 0, _ => none
  | fuel + 1, s =>
      match processHeaderRound s with
      | (.ok, s) =>
          if s.scb.status = .websocketPayload then
            match coWebsocketProcessPayload s with
            | (.fail, s) => some (false, s)
            | (.ioPending, s) => processRounds fuel s
            | (.ok, s) => some (true, s)
          else some (true, s)
      | (_, s) => some (false, s)

def CoSocketCb.recv (scb : CoSocketCb) (bytes : List UInt8) : CoSocketCb :=
  { scb with
    buf := overwrite scb.buf scb.remainingLen bytes
    remainingLen := scb.remainingLen + bytes.length }

/-- One call, with the bytes `recv` returns; no bytes stand for an error or
the end of the connection. -/
def coWebsocketProcess (s : Session) (bytes : List UInt8) : Option (Bool × Session) :=
  if bytes = [] then some (false, s)
  else processRounds (CONFIG_CO_SOCKET_BUFFER_SIZE + 2) { s with scb := s.scb.recv bytes }

/-- The state after the handshake; its bytes in the buffer have been cleared. -/
def Session.start (addr : UInt32) : Session where
  cb := { recvData := none, recvDataOffset := 0 }
  scb :=
    { status := .websocketHeader
      addr := addr
      buf := List.replicate CONFIG_CO_SOCKET_BUFFER_SIZE 0
      remainingLen := 0
      readLen := 0
      wcb := { fin := false, opcode := 0, mask := false, payloadLen := 0, maskVal := 0,
               skipFrame := false } }
  log := []

/-- The data loop of a session; the result says whether it is still open. -/
def websocketWorker : Session → List (List UInt8) → Option (Bool × Session)
  | s, [] => some (true, s)
  | s, bytes :: rest =>
      match coWebsocketProcess s bytes with
      | some (true, s) => websocketWorker s rest
      | r => r

end WirelessEsp.WebsocketServer
