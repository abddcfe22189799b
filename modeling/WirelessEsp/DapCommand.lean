import WirelessEsp.DapTransfer

namespace WirelessEsp.DapCommand

open DapTypes DapProbe DapTransfer

variable {σ : Type} (t : Target) (L : Link σ)

def ID_DAP_Info : UInt8 := 0x00
def ID_DAP_HostStatus : UInt8 := 0x01
def ID_DAP_Connect : UInt8 := 0x02
def ID_DAP_Disconnect : UInt8 := 0x03
def ID_DAP_TransferConfigure : UInt8 := 0x04
def ID_DAP_Transfer : UInt8 := 0x05
def ID_DAP_TransferBlock : UInt8 := 0x06
def ID_DAP_WriteABORT : UInt8 := 0x08
def ID_DAP_Delay : UInt8 := 0x09
def ID_DAP_ResetTarget : UInt8 := 0x0A
def ID_DAP_SWJ_Pins : UInt8 := 0x10
def ID_DAP_SWJ_Clock : UInt8 := 0x11
def ID_DAP_SWJ_Sequence : UInt8 := 0x12
def ID_DAP_SWD_Configure : UInt8 := 0x13
def ID_DAP_JTAG_Sequence : UInt8 := 0x14
def ID_DAP_JTAG_Configure : UInt8 := 0x15
def ID_DAP_JTAG_IDCODE : UInt8 := 0x16
def ID_DAP_SWD_Sequence : UInt8 := 0x1D
def ID_DAP_QueueCommands : UInt8 := 0x7E
def ID_DAP_ExecuteCommands : UInt8 := 0x7F
def ID_DAP_Vendor0 : UInt8 := 0x80
def ID_DAP_Vendor31 : UInt8 := 0x9F
def ID_DAP_Invalid : UInt8 := 0xFF

def TIMESTAMP_CLOCK : UInt32 := 5000000
def DAP_PACKET_SIZE : UInt32 := 512
def DAP_PACKET_COUNT : UInt8 := 255
def DAP_DEFAULT_PORT : UInt8 := 1
def DELAY_SLOW_CYCLES : UInt32 := 3

def replyByte (taken : UInt32) (byte : UInt8) (s : State σ) : Reply σ :=
  ⟨[byte], counts taken 1, s⟩

def cString (s : String) : List UInt8 := s.toList.map (fun c => UInt8.ofNat c.toNat) ++ [0]

def capabilities : List UInt8 :=
  let DAP_SWD : UInt8 := 0x01
  let DAP_JTAG : UInt8 := 0x02
  let atomicCommands : UInt8 := 0x10
  let timestampClock : UInt8 := 0x20
  [DAP_SWD ||| DAP_JTAG ||| atomicCommands ||| timestampClock, 0]

/-- What `DAP_Info` stores at `info`; it returns the number of these bytes. -/
def dapInfo (id : UInt8) : List UInt8 :=
  match id with
  | 0x01 => cString "windowsair"
  | 0x02 => cString "CMSIS-DAP v2"
  | 0x03 => cString "1234"
  | 0x04 => cString "2.1.0"
  | 0x05 => cString ""
  | 0x06 => cString ""
  | 0x07 => cString "kerms"
  | 0x08 => cString "ESP wireless tool"
  | 0x09 => []
  | 0xF0 => capabilities
  | 0xF1 => storeWord TIMESTAMP_CLOCK
  | 0xFF => [DAP_PACKET_SIZE.toUInt8, (DAP_PACKET_SIZE >>> 8).toUInt8]
  | 0xFE => [DAP_PACKET_COUNT]
  | _ => []

def dapDelay (request : Request) (s : State σ) : Reply σ :=
  let delay := request.half 0 *
    ((cpuClock t / 1000000 + (DELAY_SLOW_CYCLES - 1)) / DELAY_SLOW_CYCLES)
  replyByte 2 DAP_OK (s.onWorld (L.pinDelaySlow delay))

def dapHostStatus (request : Request) (s : State σ) : Reply σ :=
  match request 0 with
  | 0 => replyByte 2 DAP_OK s
  | 1 => replyByte 2 DAP_OK s
  | _ => replyByte 2 DAP_ERROR s

def setDebugPort (port : UInt8) (s : State σ) : State σ :=
  s.onDapData fun d => { d with debugPort := port }

def connectPort (mode : UInt8) : UInt8 :=
  if mode == DAP_PORT_AUTODETECT then DAP_DEFAULT_PORT else mode

def dapConnect (request : Request) (s : State σ) : Reply σ :=
  let port := connectPort (request 0)
  if port == DAP_PORT_SWD then
    let s := setDebugPort DAP_PORT_SWD s
    replyByte 1 port (if s.speed ≠ .spi then s.onWorld L.portSwdSetup else s)
  else if port == DAP_PORT_JTAG then
    replyByte 1 port ((setDebugPort DAP_PORT_JTAG s).onWorld L.portJtagSetup)
  else replyByte 1 DAP_PORT_DISABLED s

def dapDisconnect (s : State σ) : Reply σ :=
  ⟨[DAP_OK], 1, (setDebugPort DAP_PORT_DISABLED s).onWorld L.portOff⟩

def swdSend (request data : UInt32) (s : State σ) : State σ :=
  (swdTransfer L request true data s).2.2

def dapResetTarget (s : State σ) : Reply σ :=
  let s :=
    if s.dapData.debugPort == DAP_PORT_SWD then
      let s := swdSend L 0x05 0xE000ED0C s
      let s := s.onWorld (L.dapOsDelay 2)
      swdSend L 0x0d 0x05FA0004 s
    else s
  let (reset, world) := L.resetTarget s.world
  ⟨[DAP_OK, reset], 2, { s with world }⟩

def swjPinBit : Pin → UInt32
  | .swclkTck => 0
  | .swdioTms => 1
  | .tdi => 2
  | .tdo => 3
  | .nTrst => 5
  | .nReset => 7

def selected (select : UInt32) (pin : Pin) : Bool := has select (1 <<< swjPinBit pin)

def pinIn (pin : Pin) (w : σ) : UInt32 :=
  match pin with
  | .swclkTck => 0
  | .nTrst => 0
  | pin => L.pinIn pin w

def swjOutput (value select : UInt32) (pin : Pin) (w : σ) : σ :=
  if selected select pin then L.pinOut pin (value >>> swjPinBit pin) w else w

/-- A selected pin keeps the wait going: the source compares the whole of the shifted value. -/
def swjWaitsFor (value select : UInt32) (w : σ) (pin : Pin) : Bool :=
  selected select pin && ((value >>> swjPinBit pin) ^^^ pinIn L pin w) != 0

def swjWaitPins : List Pin := [.swclkTck, .swdioTms, .tdi, .nTrst, .nReset]

/-- `do { .. } while ((TIMESTAMP_GET() - timestamp) < wait)` -/
def swjWaitLoop (value select wait timestamp : UInt32) : Nat → σ → σ
  | 0, w => w
  | n + 1, w =>
      if swjWaitPins.any (swjWaitsFor L value select w) then
        let (now, w) := L.timestampGet w
        if now - timestamp < wait then swjWaitLoop value select wait timestamp n w else w
      else w

def swjWait (value select wait : UInt32) (w : σ) : σ :=
  if wait != 0 then
    let wait := if wait > 3000000 then 3000000 else wait
    let wait := wait * (TIMESTAMP_CLOCK / 1000000)
    let (timestamp, w) := L.timestampGet w
    swjWaitLoop L value select wait timestamp L.pinSamples w
  else w

def swjPinsRead (w : σ) : UInt32 :=
  pinIn L .swclkTck w <<< swjPinBit .swclkTck ||| pinIn L .swdioTms w <<< swjPinBit .swdioTms |||
  pinIn L .tdi w <<< swjPinBit .tdi ||| pinIn L .tdo w <<< swjPinBit .tdo |||
  pinIn L .nTrst w <<< swjPinBit .nTrst ||| pinIn L .nReset w <<< swjPinBit .nReset

def swjOutputs (value select : UInt32) (w : σ) : σ :=
  let w := swjOutput L value select .swclkTck w
  let w := swjOutput L value select .swdioTms w
  let w := swjOutput L value select .tdi w
  let w := swjOutput L value select .nTrst w
  swjOutput L value select .nReset w

def dapSwjPins (request : Request) (s : State σ) : Reply σ :=
  let s := if s.speed = .spi then s.onWorld L.spiDeinit else s
  let value := (request 0).toUInt32
  let select := (request 1).toUInt32
  let wait := request.word 2
  let s := s.onWorld (swjOutputs L value select)
  let s := s.onWorld (swjWait L value select wait)
  let pins := swjPinsRead L s.world
  let s := if s.speed = .spi then s.onWorld L.spiInit else s
  replyByte 6 pins.toUInt8 s

def busClockFixed : Target → UInt32
  | .esp8266 => 80000000
  | .esp32 => 100000000
  | .esp32s3 => 100000000
  | .esp32c3 => 80000000

def swjClockDelay (clock : UInt32) : UInt32 :=
  let delay := (busClockFixed t / 2 + (clock - 1)) / clock
  if delay > IO_PORT_WRITE_CYCLES then
    let delay := delay - IO_PORT_WRITE_CYCLES
    (delay + (DELAY_SLOW_CYCLES - 1)) / DELAY_SLOW_CYCLES
  else 1

def setClock (fastClock : UInt8) (clockDelay : UInt32) (s : State σ) : State σ :=
  s.onDapData fun d => { d with fastClock, clockDelay }

def dapSwjClock (request : Request) (s : State σ) : Reply σ :=
  let clock := request.word 0
  if clock == 0 then replyByte 4 DAP_ERROR s
  else if clock ≥ 10000000 then
    let s :=
      if s.dapData.debugPort != DAP_PORT_JTAG then
        { s.onWorld L.spiInit with speed := .spi }
      else { s with speed := .gpioFast }
    replyByte 4 DAP_OK (setClock 1 1 s)
  else if clock ≥ 2000000 then
    let s := s.onWorld L.spiDeinit
    replyByte 4 DAP_OK { setClock 1 1 s with speed := .gpioFast }
  else
    let s := s.onWorld L.spiDeinit
    replyByte 4 DAP_OK { setClock 0 (swjClockDelay t clock) s with speed := .gpioNormal }

def dapSwjSequence (request : Request) (s : State σ) : Reply σ :=
  let count := (request 0).toUInt32
  let count := if count == 0 then 256 else count
  let s := s.onWorld (L.swjSequence s.dapData s.speed count (request.from 1))
  let count := (count + 7) >>> 3
  ⟨[DAP_OK], counts (count + 1) 1, s⟩

def dapSwdConfigure (request : Request) (s : State σ) : Reply σ :=
  let value := request 0
  let swdConf : SwdConf :=
    { turnaround := (value &&& 0x03) + 1, dataPhase := if value &&& 0x04 != 0 then 1 else 0 }
  replyByte 1 DAP_OK (s.onDapData fun d => { d with swdConf })

structure Sequence (σ : Type) where
  request : Nat
  requestCount : UInt32
  response : List UInt8
  responseCount : UInt32
  state : State σ

def Sequence.capture (bytes : List UInt8) (q : Sequence σ) : Sequence σ :=
  { q with
    response := q.response ++ bytes, responseCount := q.responseCount + UInt32.ofNat bytes.length }

def Sequence.reply (q : Sequence σ) : Reply σ :=
  ⟨q.response, counts q.requestCount q.responseCount, q.state⟩

def swdSequence (request : Request) (q : Sequence σ) : Sequence σ :=
  let info := (request q.request).toUInt32
  let (swdi, world) := L.swdSequence q.state.dapData q.state.speed info
    (request.from (q.request + 1)) q.state.world
  let q := { q with request := q.request + 1, state := { q.state with world } }
  if has info SWD_SEQUENCE_DIN then
    { q.capture swdi.toList with requestCount := q.requestCount + 1 }
  else
    { q with
      request := q.request + sequenceBytes info
      requestCount := q.requestCount + (UInt32.ofNat (sequenceBytes info) + 1) }

def jtagSequence (request : Request) (q : Sequence σ) : Sequence σ :=
  let info := (request q.request).toUInt32
  let (tdo, world) := L.jtagSequence q.state.dapData info
    (request.from (q.request + 1)) q.state.world
  let q := { q with
    request := q.request + 1 + sequenceBytes info
    requestCount := q.requestCount + (UInt32.ofNat (sequenceBytes info) + 1)
    state := { q.state with world } }
  if has info JTAG_SEQUENCE_TDO then q.capture tdo.toList else q

def sequenceLoop (one : Sequence σ → Sequence σ) : Nat → Sequence σ → Sequence σ
  | 0, q => q
  | n + 1, q => sequenceLoop one n (one q)

def startSequences (s : State σ) : Sequence σ := ⟨1, 1, [DAP_OK], 1, s⟩

def dapSwdSequence (request : Request) (s : State σ) : Reply σ :=
  (sequenceLoop (swdSequence L request) (request 0).toNat (startSequences s)).reply

def dapJtagSequence (request : Request) (s : State σ) : Reply σ :=
  (sequenceLoop (jtagSequence L request) (request 0).toNat (startSequences s)).reply

/-- The first loop of `DAP_JTAG_Configure` from device `n` on. The array of the
source has `DAP_JTAG_DEV_CNT` elements and no check; the model drops what would
be written behind it. -/
def configureBefore (request : Request) (d : JtagDev) (bits : UInt32) (n : Nat) :
    Nat → JtagDev × UInt32
  | 0 => (d, bits)
  | k + 1 =>
      let length := (request (1 + n)).toUInt32
      let d := { d with
        irLength := d.irLength.setIfInBounds n length.toUInt8
        irBefore := d.irBefore.setIfInBounds n bits.toUInt16 }
      configureBefore request d (bits + length) (n + 1) k

def configureAfter (d : JtagDev) (bits : UInt32) (n : Nat) : Nat → JtagDev
  | 0 => d
  | k + 1 =>
      let bits := bits - (d.irLength[n]?.getD 0).toUInt32
      configureAfter { d with irAfter := d.irAfter.setIfInBounds n bits.toUInt16 } bits (n + 1) k

def dapJtagConfigure (request : Request) (s : State σ) : Reply σ :=
  let count := (request 0).toNat
  let d := { s.dapData.jtagDev with count := request 0 }
  let (d, bits) := configureBefore request d 0 0 count
  let jtagDev := configureAfter d bits 0 count
  ⟨[DAP_OK], counts (UInt32.ofNat count + 1) 1, s.onDapData fun d => { d with jtagDev }⟩

def dapJtagIdCode (request : Request) (s : State σ) : Reply σ :=
  if s.dapData.debugPort != DAP_PORT_JTAG then replyByte 1 DAP_ERROR s
  else
    let s := setJtagIndex (request 0) s
    if validIndex s.dapData then
      let s := s.onWorld (L.jtagIr s.dapData JTAG_IDCODE)
      let (data, world) := L.jtagReadIdCode s.dapData s.world
      ⟨DAP_OK :: storeWord data, counts 1 5, { s with world }⟩
    else replyByte 1 DAP_ERROR s

def dapTransferConfigure (request : Request) (s : State σ) : Reply σ :=
  replyByte 5 DAP_OK (s.onDapData fun d => { d with
    transfer := { d.transfer with
      idleCycles := request 0
      retryCount := (request.half 1).toUInt16
      matchRetry := (request.half 3).toUInt16 } })

def dapSwdWriteAbort (request : Request) (s : State σ) : Reply σ :=
  ⟨[DAP_OK], 1, swdSend L DP_ABORT (request.word 1) s⟩

def dapJtagWriteAbort (request : Request) (s : State σ) : Reply σ :=
  let s := setJtagIndex (request 0) s
  if validIndex s.dapData then
    let s := s.onWorld (L.jtagIr s.dapData JTAG_ABORT)
    ⟨[DAP_OK], 1, s.onWorld (L.jtagWriteAbort s.dapData (request.word 1))⟩
  else ⟨[DAP_ERROR], 1, s⟩

def dapWriteAbort (request : Request) (s : State σ) : Reply σ :=
  let reply :=
    if s.dapData.debugPort == DAP_PORT_SWD then dapSwdWriteAbort L request s
    else if s.dapData.debugPort == DAP_PORT_JTAG then dapJtagWriteAbort L request s
    else ⟨[DAP_ERROR], 1, s⟩
  { reply with num := counts 5 reply.num }

def dapProcessVendorCommand (request : Request) (s : State σ) : Reply σ :=
  ⟨[request 0], counts 1 1, s⟩

/-- The command functions by their identifier; the request is the one behind it. -/
def command (id : UInt8) (request : Request) (s : State σ) : Option (Reply σ) :=
  match id with
  | 0x01 => some (dapHostStatus request s)
  | 0x02 => some (dapConnect L request s)
  | 0x03 => some (dapDisconnect L s)
  | 0x09 => some (dapDelay t L request s)
  | 0x0A => some (dapResetTarget L s)
  | 0x10 => some (dapSwjPins L request s)
  | 0x11 => some (dapSwjClock t L request s)
  | 0x12 => some (dapSwjSequence L request s)
  | 0x13 => some (dapSwdConfigure request s)
  | 0x1D => some (dapSwdSequence L request s)
  | 0x14 => some (dapJtagSequence L request s)
  | 0x15 => some (dapJtagConfigure request s)
  | 0x16 => some (dapJtagIdCode L request s)
  | 0x04 => some (dapTransferConfigure request s)
  | 0x05 => some (dapTransfer L request s)
  | 0x06 => some (dapTransferBlock L request s)
  | 0x08 => some (dapWriteAbort L request s)
  | _ => none

def dapProcessCommand (request : Request) (s : State σ) : Reply σ :=
  let id := request 0
  if id ≥ ID_DAP_Vendor0 && id ≤ ID_DAP_Vendor31 then dapProcessVendorCommand request s
  else if id == ID_DAP_Info then
    let info := dapInfo (request 1)
    let num := UInt8.ofNat info.length
    ⟨id :: num :: info, counts 2 2 + num.toUInt32, s⟩
  else
    match command t L id (request.from 1) s with
    | some reply => ⟨id :: reply.bytes, counts 1 1 + reply.num, reply.state⟩
    | none => ⟨[ID_DAP_Invalid], counts 1 1, s⟩

/-- The memory at a response pointer. -/
abbrev Buffer := Nat → UInt8

def Buffer.write (buf : Buffer) (i : Nat) (bytes : List UInt8) : Buffer := fun k =>
  if i ≤ k then bytes.getD (k - i) (buf k) else buf k

/-- The loop over the commands of a batch: the offsets of the two pointers, the sum of
the counts, and the response buffer. -/
def executeLoop (request : Request) : Nat → Nat → Nat → UInt32 → Buffer → State σ →
    UInt32 × Buffer × State σ
  | 0, _, _, num, buf, s => (num, buf, s)
  | cnt + 1, i, k, num, buf, s =>
      let reply := dapProcessCommand t L (request.from i) s
      let n := reply.num
      executeLoop request cnt (i + (n >>> 16).toUInt16.toNat) (k + n.toUInt16.toNat) (num + n)
        (buf.write k reply.bytes) reply.state

def dapExecuteCommand (request : Request) (buf : Buffer) (s : State σ) :
    UInt32 × Buffer × State σ :=
  if request 0 == ID_DAP_ExecuteCommands then
    executeLoop t L request (request 1).toNat 2 2 (counts 2 2)
      (buf.write 0 [request 0, request 1]) s
  else
    let reply := dapProcessCommand t L request s
    (reply.num, buf.write 0 reply.bytes, reply.state)

end WirelessEsp.DapCommand
