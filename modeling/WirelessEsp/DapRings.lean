import WirelessEsp.ByteRing
import WirelessEsp.DapProxy

namespace WirelessEsp.DapRings

open Transition
open ByteRing (slice overwrite)
open DapProxy (ResetHandle Transport Fault DAP_BUFFER_NUM)

def DAP_PACKET_SIZE : Nat := 512

/-- The length of a `DapPacket_t`, whose first word is the length of the response. -/
def DAP_HANDLE_SIZE : Nat := 4 + DAP_PACKET_SIZE

def ID_DAP_QueueCommands : UInt8 := 0x7E

def ID_DAP_ExecuteCommands : UInt8 := 0x7F

abbrev Packet := Vector UInt8 DAP_HANDLE_SIZE

abbrev RingMemory := Vector UInt8 (DAP_HANDLE_SIZE * DAP_BUFFER_NUM)

/-- A ring with a number of its own, and the items that were sent into it and received from it. -/
structure DapRing where
  id : Nat
  ring : ByteRing.Ring UInt8
  sent : List (List UInt8)
  received : List (List UInt8)

/-- What `xRingbufferReceiveUpTo` returns: a place in a ring and a size. -/
structure Item where
  ring : Nat
  offset : Nat
  size : Nat

/-- The value of a ring handle that a task has loaded; `none` is a null handle. -/
abbrev Handle := Option Nat

/-- Where `tcp_server_task` is. In `inWrong` and `unlinkWrong` it has received a part of a
packet. -/
inductive TcpPc
  | accept
  | urb
  | outReply (packet : Packet)
  | outSend (packet : Packet) (h : Handle)
  | outNotify
  | inCall
  | inReceive (h : Handle)
  | inReply (item : Item)
  | inRespond (item : Item)
  | inReturn (item : Item)
  | inWrong
  | inDone
  | unlinkCall
  | unlinkReceive (h : Handle)
  | unlinkRespond (item : Item)
  | unlinkReturn (item : Item)
  | unlinkWrong
  | unlinkReply
  | elFlag
  | elMalloc
  | elRead
  | elExecute
  | wsMalloc
  | wsRead
  | wsExecute
  | wsFree
  | cleanup
  | cleanupNotify

/-- Where `DAP_Thread` is. In `wrong` it has received a part of a packet. -/
inductive DapPc
  | init
  | top
  | free
  | afterFree
  | malloc
  | clear
  | wait
  | check
  | receive (h : Handle)
  | wrong (item : Item)
  | process (item : Item)
  | returnIn (item : Item) (response : Packet)
  | sendCall (response : Packet)
  | sendOut (response : Packet) (h : Handle)
  | respond
  | deleted

/-- A use of a null or deleted ring is a fault, which ends the run. -/
structure State where
  kRestartDAPHandle : ResetHandle
  started : Bool
  notified : Nat
  dapRespond : Int
  dataIN : Option DapRing
  dataOUT : Option DapRing
  nextRing : Nat
  tcp : TcpPc
  dap : DapPc
  dapReqNum : Nat
  elBuffer : Bool
  wsBuffer : Bool
  fault : Option Fault

def State.boot : State where
  kRestartDAPHandle := .noSignal
  started := false
  notified := 0
  dapRespond := 0
  dataIN := none
  dataOUT := none
  nextRing := 0
  tcp := .accept
  dap := .init
  dapReqNum := 0
  elBuffer := false
  wsBuffer := false
  fault := none

/-- The commands of the URB phase; a submit comes with the bytes that are sent into the ring. -/
inductive Command
  | outSubmit (packet : Packet)
  | inSubmit
  | unlink
  | other

/-- What a step of `DAP_Thread` takes from outside: the response of `DAP_ProcessCommand`, and what
new rings have in their memory, if there is any for them. -/
structure World where
  response : Packet
  memoryIN : Option RingMemory
  memoryOUT : Option RingMemory

inductive Act
  | connect (t : Transport)
  | command (c : Command)
  | close
  | timeout
  | tcp
  | dap (w : World)

def lookup (ring : Option DapRing) (h : Handle) : Option DapRing :=
  ring.filter fun r => some r.id == h

def handleOf (ring : Option DapRing) : Handle := ring.map DapRing.id

def fail (s : State) (f : Fault) : State := { s with fault := some f }

def xRingbufferCreate (id : Nat) (memory : RingMemory) : DapRing :=
  ⟨id, ByteRing.create memory.toList, [], []⟩

def xRingbufferSend (r : DapRing) (packet : Packet) : Option DapRing :=
  (r.ring.send packet.toList).map fun ring =>
    { r with ring := ring, sent := r.sent ++ [packet.toList] }

/-- A receive of up to `DAP_HANDLE_SIZE` bytes; `none` while there is nothing. -/
def xRingbufferReceiveUpTo (r : DapRing) : Option (Item × DapRing) :=
  (r.ring.receiveUpTo DAP_HANDLE_SIZE).map fun x =>
    (⟨r.id, x.1.1, x.1.2⟩,
      { r with ring := x.2, received := r.received ++ [slice r.ring.memory x.1.1 x.1.2] })

/-- `none` when the item does not belong to the current ring. -/
def vRingbufferReturnItem (ring : Option DapRing) (item : Item) : Option DapRing :=
  (lookup ring (some item.ring)).map fun r => { r with ring := r.ring.giveBack }

def commandId (r : DapRing) (item : Item) : UInt8 := r.ring.memory.getD (item.offset + 4) 0

def setCommandId (r : DapRing) (item : Item) (id : UInt8) : DapRing :=
  { r with ring := { r.ring with memory := overwrite r.ring.memory (item.offset + 4) [id] } }

/-- The two critical sections of `data_response_mux` over the handles, each as one step. -/
def mallocDapRingbuf (w : World) (s : State) : State :=
  if s.started then
    { s with
      dataIN := s.dataIN.or (w.memoryIN.map (xRingbufferCreate s.nextRing))
      dataOUT := s.dataOUT.or (w.memoryOUT.map (xRingbufferCreate s.nextRing))
      nextRing := s.nextRing + 1 }
  else s

def freeDapRingbuf (s : State) : State :=
  if s.started then { s with dataIN := none, dataOUT := none } else s

def connect (s : State) (t : Transport) : State :=
  match t with
  | .usbip => { s with tcp := .urb, dapReqNum := 0 }
  | .elaphureLink => { s with tcp := .elFlag }
  | .websocket => { s with tcp := .wsMalloc }
  | .unknown => { s with tcp := .cleanup }

/-- One round of the loop of `usbip_urb_process`, up to the first shared access. -/
def urbCommand (s : State) : Command → State
  | .outSubmit packet => { s with dapReqNum := s.dapReqNum + 1, tcp := .outReply packet }
  | .inSubmit => if s.dapReqNum > 0 then { s with tcp := .inCall } else s
  | .unlink => { s with tcp := .unlinkCall }
  | .other => s

def tcpStep (s : State) : Option State :=
  match s.tcp with
  | .outReply packet => some { s with tcp := .outSend packet (handleOf s.dataIN) }
  | .outSend packet h =>
      match lookup s.dataIN h with
      | none => some (fail s .tcpTask)
      | some r =>
          match xRingbufferSend r packet with
          | none => none
          | some r => some { s with dataIN := some r, tcp := .outNotify }
  | .outNotify =>
      if s.started then some { s with notified := s.notified + 1, tcp := .urb }
      else some (fail s .tcpTask)
  | .inCall => some { s with tcp := .inReceive (handleOf s.dataOUT) }
  | .inReceive h =>
      match lookup s.dataOUT h with
      | none => some (fail s .tcpTask)
      | some r =>
          match xRingbufferReceiveUpTo r with
          | none => none
          | some (item, r) =>
              if item.size = DAP_HANDLE_SIZE then
                some { s with dataOUT := some r, tcp := .inReply item }
              else some { s with dataOUT := some r, tcp := .inWrong }
  | .inReply item => some { s with tcp := .inRespond item }
  | .inRespond item => some { s with dapRespond := s.dapRespond - 1, tcp := .inReturn item }
  | .inReturn item =>
      match vRingbufferReturnItem s.dataOUT item with
      | none => some (fail s .tcpTask)
      | some r => some { s with dataOUT := some r, tcp := .inDone }
  | .inWrong => some { s with tcp := .inDone }
  | .inDone => some { s with dapReqNum := s.dapReqNum - 1, tcp := .urb }
  | .unlinkCall =>
      if s.dapRespond > 0 then some { s with tcp := .unlinkReceive (handleOf s.dataOUT) }
      else some { s with tcp := .unlinkReply }
  | .unlinkReceive h =>
      match lookup s.dataOUT h with
      | none => some (fail s .tcpTask)
      | some r =>
          match xRingbufferReceiveUpTo r with
          | none => none
          | some (item, r) =>
              if item.size = DAP_HANDLE_SIZE then
                some { s with dataOUT := some r, tcp := .unlinkRespond item }
              else some { s with dataOUT := some r, tcp := .unlinkWrong }
  | .unlinkRespond item =>
      some { s with dapRespond := s.dapRespond - 1, tcp := .unlinkReturn item }
  | .unlinkReturn item =>
      match vRingbufferReturnItem s.dataOUT item with
      | none => some (fail s .tcpTask)
      | some r => some { s with dataOUT := some r, tcp := .unlinkReply }
  | .unlinkWrong => some { s with tcp := .unlinkReply }
  | .unlinkReply => some { s with tcp := .urb }
  | .elFlag => some { s with kRestartDAPHandle := .delete, tcp := .elMalloc }
  | .elMalloc =>
      if s.elBuffer then some { s with tcp := .elRead }
      else some { freeDapRingbuf s with elBuffer := true, tcp := .elRead }
  | .elExecute => some { s with tcp := .elRead }
  | .wsMalloc =>
      if s.wsBuffer then some { s with tcp := .wsRead }
      else some { freeDapRingbuf s with wsBuffer := true, tcp := .wsRead }
  | .wsExecute => some { s with tcp := .wsRead }
  | .wsFree => some { s with wsBuffer := false, tcp := .cleanup }
  | .cleanup =>
      some { s with elBuffer := false, kRestartDAPHandle := .reset, tcp := .cleanupNotify }
  | .cleanupNotify =>
      some { s with notified := s.notified + (if s.started then 1 else 0), tcp := .accept }
  | .accept | .urb | .elRead | .wsRead => none

def commandStep (s : State) (c : Command) : Option State :=
  match s.tcp with
  | .urb => some (urbCommand s c)
  | .elRead => some { s with tcp := .elExecute }
  | .wsRead => some { s with tcp := .wsExecute }
  | _ => none

def closeStep (s : State) : Option State :=
  match s.tcp with
  | .urb => some { s with tcp := .cleanup }
  | .elRead => some { s with tcp := .cleanup }
  | .wsRead => some { s with tcp := .wsFree }
  | _ => none

/-- `handle_dap_unlink` gives up when nothing comes for ten milliseconds. -/
def timeoutStep (s : State) : Option State :=
  match s.tcp with
  | .unlinkReceive h =>
      match lookup s.dataOUT h with
      | none => some (fail s .tcpTask)
      | some r =>
          match xRingbufferReceiveUpTo r with
          | none => some { s with tcp := .unlinkReply }
          | some _ => none
  | _ => none

/-- The thread ends without a ring for requests; that for responses is not looked at. -/
def dapStep (w : World) (s : State) : Option State :=
  match s.dap with
  | .init =>
      let s := { s with
        started := true
        dataIN := w.memoryIN.map (xRingbufferCreate s.nextRing)
        dataOUT := w.memoryOUT.map (xRingbufferCreate s.nextRing)
        nextRing := s.nextRing + 1 }
      some { s with dap := if s.dataIN.isNone then .deleted else .top }
  | .top =>
      if s.kRestartDAPHandle = .noSignal then some { s with dap := .wait }
      else some { s with dap := .free }
  | .free => some { freeDapRingbuf s with dap := .afterFree }
  | .afterFree =>
      if s.kRestartDAPHandle = .reset then some { s with dap := .malloc }
      else some { s with dap := .clear }
  | .malloc =>
      let s := mallocDapRingbuf w s
      some { s with dap := if s.dataIN.isNone then .deleted else .clear }
  | .clear => some { s with kRestartDAPHandle := .noSignal, dap := .wait }
  | .wait =>
      if s.notified > 0 then some { s with notified := s.notified - 1, dap := .check } else none
  | .check =>
      if s.dataIN.isNone ∨ s.dataOUT.isNone then some { s with dap := .top }
      else some { s with dap := .receive (handleOf s.dataIN) }
  | .receive h =>
      match lookup s.dataIN h with
      | none => some (fail s .dapThread)
      | some r =>
          match xRingbufferReceiveUpTo r with
          | none => some { s with dap := .top }
          | some (item, r) =>
              if item.size = 0 then some { s with dataIN := some r, dap := .top }
              else if item.size < DAP_HANDLE_SIZE then
                some { s with dataIN := some r, dap := .wrong item }
              else some { s with dataIN := some r, dap := .process item }
  | .wrong item =>
      match vRingbufferReturnItem s.dataIN item with
      | none => some (fail s .dapThread)
      | some r => some { s with dataIN := some r, dap := .top }
  | .process item =>
      match lookup s.dataIN (some item.ring) with
      | none => some (fail s .dapThread)
      | some r =>
          let r := if commandId r item = ID_DAP_QueueCommands then
              setCommandId r item ID_DAP_ExecuteCommands
            else r
          some { s with dataIN := some r, dap := .returnIn item w.response }
  | .returnIn item response =>
      match vRingbufferReturnItem s.dataIN item with
      | none => some (fail s .dapThread)
      | some r => some { s with dataIN := some r, dap := .sendCall response }
  | .sendCall response => some { s with dap := .sendOut response (handleOf s.dataOUT) }
  | .sendOut response h =>
      match lookup s.dataOUT h with
      | none => some (fail s .dapThread)
      | some r =>
          match xRingbufferSend r response with
          | none => none
          | some r => some { s with dataOUT := some r, dap := .respond }
  | .respond => some { s with dapRespond := s.dapRespond + 1, dap := .top }
  | .deleted => none

def enabledStep (s : State) : Act → Option State
  | .connect t =>
      match s.tcp with
      | .accept => some (connect s t)
      | _ => none
  | .command c => commandStep s c
  | .close => closeStep s
  | .timeout => timeoutStep s
  | .tcp => tcpStep s
  | .dap w => dapStep w s

/-- A step of the system; there is none after a fault. -/
def step (s : State) (a : Act) : Option State :=
  if s.fault.isSome then none else enabledStep s a

end WirelessEsp.DapRings
