import Mathlib.Logic.Relation
import WirelessEsp.UsbHandle

namespace WirelessEsp.UsbipServer

open LeWords UsbipHeader UsbHandle

/-- What the calls of `recv` on one connection return, in turn: a chunk that is longer than asked
for is returned in parts, and an empty one stands for the end of the connection. -/
abbrev Segments := List (List UInt8)

def recv (sz : Nat) : Segments → Option (List UInt8 × Segments)
  | [] => none
  | [] :: _ => none
  | (x :: xs) :: segs =>
      if (x :: xs).length ≤ sz then some (x :: xs, segs)
      else some ((x :: xs).take sz, (x :: xs).drop sz :: segs)

/-- The length of `tcp_rx_buffer`. -/
def bufferLength : Nat := 1500

abbrev Memory := Nat → UInt8

/-- The memory after a store at an offset of the buffer. -/
def store (mem : Memory) (off : Nat) (xs : List UInt8) : Memory := fun i =>
  if off ≤ i ∧ i < off + xs.length then xs.getD (i - off) 0 else mem i

inductive Halt where
  | closed
  | overflow
  | negativeSize
  | blocked
  | badIndex
  deriving DecidableEq

theorem recv_cases {sz : Nat} {segs segs' : Segments} {xs : List UInt8}
    (h : recv sz segs = some (xs, segs')) : ∃ chunk rest, segs = chunk :: rest ∧ chunk ≠ [] ∧
      ((chunk.length ≤ sz ∧ xs = chunk ∧ segs' = rest) ∨
      (sz < chunk.length ∧ xs = chunk.take sz ∧ segs' = chunk.drop sz :: rest)) := by
  match segs with
  | [] => cases h
  | [] :: _ => cases h
  | (y :: ys) :: rest =>
      refine ⟨y :: ys, rest, rfl, List.cons_ne_nil _ _, ?_⟩
      rw [recv] at h
      split at h
      next hle =>
        cases h
        exact .inl ⟨hle, rfl, rfl⟩
      next hle =>
        cases h
        exact .inr ⟨Nat.lt_of_not_le hle, rfl, rfl⟩

theorem recv_length {sz : Nat} {segs segs' : Segments} {xs : List UInt8} (hsz : sz ≠ 0)
    (h : recv sz segs = some (xs, segs')) : 0 < xs.length ∧ xs.length ≤ sz := by
  obtain ⟨chunk, rest, -, hchunk, ⟨hle, rfl, -⟩ | ⟨hlt, rfl, -⟩⟩ := recv_cases h
  · exact ⟨List.length_pos_iff.mpr hchunk, hle⟩
  · rw [List.length_take]
    omega

/-- The loops around `recv`, with `sz` bytes to go: a chunk is stored at `off`, and `sz` and `off`
move by its length. -/
def recvLoop (off sz : Nat) (mem : Memory) (segs : Segments) : Except Halt (Memory × Segments) :=
  if _hsz : sz = 0 then .ok (mem, segs)
  else
    match _h : recv sz segs with
    | none => .error .closed
    | some (xs, segs') =>
        if off + xs.length > bufferLength then .error .overflow
        else recvLoop (off + xs.length) (sz - xs.length) (store mem off xs) segs'
termination_by sz
decreasing_by
  have := recv_length _hsz _h
  omega

def word (mem : Memory) (off : Nat) : UInt32 :=
  ofBytes (mem off) (mem (off + 1)) (mem (off + 2)) (mem (off + 3))

def readHeader (mem : Memory) : Stage2Header where
  command := word mem 0
  seqnum := word mem 4
  devid := word mem 8
  direction := word mem 12
  ep := word mem 16
  transferFlags := word mem 20
  dataLength := word mem 24
  startFrame := word mem 28
  numberOfPackets := word mem 32
  interval := word mem 36
  setup := Vector.ofFn fun i : Fin 8 => mem (40 + i)

/-- What `xRingbufferReceiveUpTo` gives `fast_reply`: an item of `DapPacket_t`, with the memory
from its `buf` on, or fewer bytes. -/
inductive DapItem where
  | packet (length : UInt16) (buf : Nat → UInt8)
  | wrongSize

/-- `dap_req_num` and the items the next receives of `fast_reply` get; at the end of the list the
receive waits forever. -/
structure UrbState where
  dapReqNum : Int
  items : List DapItem

def fastReply (req : Stage2Header) (s : UrbState) : Except Halt (List Send × UrbState) :=
  if s.dapReqNum > 0 then
    match s.items with
    | [] => .error .blocked
    | .packet length buf :: items =>
        if 48 + length.toNat > bufferLength then .error .overflow
        else .ok (sendStage2SubmitDataFast req ((List.range length.toNat).map buf), { s with items })
    | .wrongSize :: items => .ok ([], { s with items })
  else
    .ok ([.retSubmit { req with
      command := ntohl USBIP_STAGE2_RSP_SUBMIT, direction := ntohl USBIP_DIR_OUT,
      transferFlags := 0, dataLength := 0, interval := 0 } []], s)

/-- The branches for a command that has been read: what is sent and the state, or `none` for an
unknown command. What `handle_dap_data_request` and `handle_dap_unlink` do with the rings is left
out: it sends nothing. -/
def urbCommand (req : Stage2Header) (s : UrbState) : Except Halt (Option (List Send × UrbState)) :=
  let command := ntohl req.command
  let dir := ntohl req.direction
  let ep := ntohl req.ep
  if command == USBIP_STAGE2_REQ_SUBMIT then
    if ep == 1 && dir == USBIP_DIR_IN then do
      let (sends, s) ← fastReply req s
      let dapReqNum := if s.dapReqNum > 0 then s.dapReqNum - 1 else s.dapReqNum
      pure (some (sends, { s with dapReqNum }))
    else if ep == 1 && dir == USBIP_DIR_OUT then
      pure (some (sendStage2SubmitDataFast req [], { s with dapReqNum := s.dapReqNum + 1 }))
    else if ep == 0 then
      match handleUsbControlRequest req.swap with
      | none => throw .badIndex
      | some sends => pure (some (sends, s))
    else pure (some (sendStage2Submit req 0 0, s))
  else if command == USBIP_STAGE2_REQ_UNLINK then pure (some (sendStage2Unlink req.swap, s))
  else pure none

/-- `sz` of the payload: the 32 bits of the field as an `int`. -/
def payloadSize (req : Stage2Header) : Int :=
  let mayHasData := ntohl req.command == USBIP_STAGE2_REQ_SUBMIT && ntohl req.direction == USBIP_DIR_OUT
  if mayHasData then (ntohl req.dataLength).toInt32.toInt else 0

/-- `while (sz)`, which asks for a negative size as it does for a positive one. -/
def recvPayload (req : Stage2Header) (mem : Memory) (segs : Segments) :
    Except Halt (Memory × Segments) :=
  let sz := payloadSize req
  if sz < 0 then .error .negativeSize else recvLoop 48 sz.toNat mem segs

/-- The head of the loop of `usbip_urb_process`. -/
structure UrbPoint where
  mem : Memory
  segs : Segments
  state : UrbState

structure UrbRead where
  req : Stage2Header
  state : UrbState
  mem : Memory
  segs : Segments

def readCommand (p : UrbPoint) : Except Halt UrbRead := do
  let (mem, segs) ← recvLoop 0 48 p.mem p.segs
  let req := readHeader mem
  let (mem, segs) ← recvPayload req mem segs
  pure ⟨req, p.state, mem, segs⟩

/-- One round of the loop: what is sent and, unless the command is unknown, the next round. -/
def urbRound (p : UrbPoint) : Except Halt (Option (List Send × UrbPoint)) := do
  let r ← readCommand p
  match ← urbCommand r.req r.state with
  | none => pure none
  | some (sends, state) => pure (some (sends, ⟨r.mem, r.segs, state⟩))

def Follows (p p' : UrbPoint) : Prop := ∃ sends, urbRound p = .ok (some (sends, p'))

def Reached : UrbPoint → UrbPoint → Prop := Relation.ReflTransGen Follows

structure Stage1Header where
  version : UInt16
  command : UInt16
  status : UInt32
  deriving DecidableEq

/-- `usbip_stage1_usb_device`, with its numbers in host order. -/
structure UsbDevice where
  path : String
  busid : String
  busnum : UInt32
  devnum : UInt32
  speed : UInt32
  idVendor : UInt16
  idProduct : UInt16
  bcdDevice : UInt16
  bDeviceClass : UInt8
  bDeviceSubClass : UInt8
  bDeviceProtocol : UInt8
  bConfigurationValue : UInt8
  bNumConfigurations : UInt8
  bNumInterfaces : UInt8
  deriving DecidableEq

structure UsbInterface where
  bInterfaceClass : UInt8
  bInterfaceSubClass : UInt8
  bInterfaceProtocol : UInt8
  padding : UInt8
  deriving DecidableEq

/-- One call of `usbip_network_send` before the URB phase. -/
inductive Stage1Send where
  | header (h : Stage1Header)
  | listSize (n : UInt32)
  | device (d : UsbDevice)
  | interface (i : UsbInterface)
  deriving DecidableEq

def USBIP_STAGE1_CMD_DEVICE_LIST : UInt16 := 0x05
def USBIP_STAGE1_CMD_DEVICE_ATTACH : UInt16 := 0x03

def sendStage1Header (command : UInt16) (status : UInt32) : List Stage1Send :=
  [.header ⟨273, command, status⟩]

def sendDeviceInfo : List Stage1Send :=
  [.device ⟨"/sys/devices/pci0000:00/0000:00:01.2/usb1/1-1", "1-1", 1, 1, 3, 0xC251, 0xF00A, 0x0100,
    0, 0, 0, 1, 1, 1⟩]

def sendInterfaceInfo : List Stage1Send := [.interface ⟨0xFF, 0, 0, 0⟩]

def sendDeviceList : List Stage1Send := .listSize 1 :: (sendDeviceInfo ++ sendInterfaceInfo)

def handleDeviceList : List Stage1Send :=
  sendStage1Header USBIP_STAGE1_CMD_DEVICE_LIST 0 ++ sendDeviceList

/-- The source compares the length with the size of an `int`. -/
def handleDeviceAttach (length : Nat) : List Stage1Send :=
  if length < 4 then []
  else sendStage1Header USBIP_STAGE1_CMD_DEVICE_ATTACH 0 ++ sendDeviceInfo

def stage1Command (mem : Memory) : UInt16 := (mem 2).toUInt16 <<< 8 ||| (mem 3).toUInt16

def readStage1Command (mem : Memory) (length : Nat) : Option UInt16 :=
  if length < 8 then none else some (stage1Command mem &&& 0xFF)

def attach (mem : Memory) (length : Nat) : Option (List Stage1Send) :=
  match readStage1Command mem length with
  | none => none
  | some command =>
      if command == USBIP_STAGE1_CMD_DEVICE_LIST then some handleDeviceList
      else if command == USBIP_STAGE1_CMD_DEVICE_ATTACH then some (handleDeviceAttach length)
      else some []

inductive ServerState where
  | waitDevlist
  | waitImport
  | waitUrb
  deriving DecidableEq

/-- A connection on its way to the URB phase: `received` has the commands of the stage 1 requests
that were complete, and `sent` what was sent. -/
structure Stage1 where
  mem : Memory
  segs : Segments
  received : List UInt16
  sent : List Stage1Send

/-- A stage 1 request: the rest of its `length` bytes from `off` on, and `attach`. -/
def Stage1.request (off length : Nat) (c : Stage1) : Except Halt Stage1 := do
  let (mem, segs) ← recvLoop off (length - off) c.mem c.segs
  match attach mem length with
  | none => throw .closed
  | some sends => pure ⟨mem, segs, c.received ++ [stage1Command mem], c.sent ++ sends⟩

/-- `usbip_worker` up to its call of `usbip_urb_process`. -/
def usbipWorker (state : ServerState) (c : Stage1) : Except Halt Stage1 := do
  if state = .waitDevlist then
    let c ← c.request 4 8
    c.request 0 40
  else c.request 4 40

def EL_LINK_IDENTIFIER : UInt32 := 0x8a656c70

/-- The dispatch of `tcp_server_task` for one connection, up to the URB phase; `none` for another
protocol. -/
def tcpServerTask (mem : Memory) (segs : Segments) : Except Halt (Option Stage1) := do
  let (mem, segs) ← recvLoop 0 4 mem segs
  let header := ntohl (word mem 0)
  let c : Stage1 := ⟨mem, segs, [], []⟩
  if header == EL_LINK_IDENTIFIER then pure none
  else if header &&& 0xFFFF == 0x8003 || header &&& 0xFFFF == 0x8005 then
    let c ← usbipWorker (if header &&& 0xFFFF == 0x8005 then .waitDevlist else .waitImport) c
    pure (some c)
  else pure none

/-- The first round of `usbip_urb_process`. -/
def Stage1.urb (c : Stage1) (items : List DapItem) : UrbPoint := ⟨c.mem, c.segs, ⟨0, items⟩⟩

end WirelessEsp.UsbipServer
