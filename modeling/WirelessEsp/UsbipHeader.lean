import WirelessEsp.LeWords

namespace WirelessEsp.UsbipHeader

open LeWords

/-- `ntohl` and `htonl`, `PP_HTONL` included: the machine is little-endian. -/
def ntohl (x : UInt32) : UInt32 := ofBytes (byteOf x 3) (byteOf x 2) (byteOf x 1) (byteOf x 0)

def USBIP_STAGE2_REQ_SUBMIT : UInt32 := 1
def USBIP_STAGE2_REQ_UNLINK : UInt32 := 2
def USBIP_STAGE2_RSP_SUBMIT : UInt32 := 3
def USBIP_STAGE2_RSP_UNLINK : UInt32 := 4
def USBIP_DIR_OUT : UInt32 := 0
def USBIP_DIR_IN : UInt32 := 1

/-- `usbip_stage2_header` as words in memory. The words of the union have their names in
`cmd_submit`; `ret_submit` and `ret_unlink` have `status` in the place of `transferFlags`, and
`ret_submit` has `error_count` in the place of `interval`. -/
structure Stage2Header where
  command : UInt32
  seqnum : UInt32
  devid : UInt32
  direction : UInt32
  ep : UInt32
  transferFlags : UInt32
  dataLength : UInt32
  startFrame : UInt32
  numberOfPackets : UInt32
  interval : UInt32
  setup : Vector UInt8 8
  deriving DecidableEq

def Stage2Header.status (h : Stage2Header) : UInt32 := h.transferFlags

def Stage2Header.errorCount (h : Stage2Header) : UInt32 := h.interval

def wordBytes (x : UInt32) : List UInt8 := [byteOf x 0, byteOf x 1, byteOf x 2, byteOf x 3]

/-- The 48 bytes of a header. -/
def Stage2Header.bytes (h : Stage2Header) : List UInt8 :=
  wordBytes h.command ++ wordBytes h.seqnum ++ wordBytes h.devid ++ wordBytes h.direction ++
    wordBytes h.ep ++ wordBytes h.transferFlags ++ wordBytes h.dataLength ++
    wordBytes h.startFrame ++ wordBytes h.numberOfPackets ++ wordBytes h.interval ++
    h.setup.toList

def Stage2Header.swap (h : Stage2Header) : Stage2Header where
  command := ntohl h.command
  seqnum := ntohl h.seqnum
  devid := ntohl h.devid
  direction := ntohl h.direction
  ep := ntohl h.ep
  transferFlags := ntohl h.transferFlags
  dataLength := ntohl h.dataLength
  startFrame := ntohl h.startFrame
  numberOfPackets := ntohl h.numberOfPackets
  interval := ntohl h.interval
  setup := h.setup

/-- One call of `usbip_network_send` in the URB phase. -/
inductive Send where
  | retSubmit (header : Stage2Header) (data : List UInt8)
  | retUnlink (header : Stage2Header)
  | payload (data : List UInt8)
  deriving DecidableEq

def Send.bytes : Send → List UInt8
  | .retSubmit header data => header.bytes ++ data
  | .retUnlink header => header.bytes
  | .payload data => data

def notZero (x : UInt32) : UInt32 := if x == 0 then 1 else 0

def retSubmit (req : Stage2Header) (status dataLength : UInt32) : Stage2Header :=
  { req with
    transferFlags := status, dataLength, startFrame := 0, numberOfPackets := 0, interval := 0 }

def sendStage2Submit (req : Stage2Header) (status dataLength : UInt32) : List Send :=
  let h := { req with command := USBIP_STAGE2_RSP_SUBMIT, direction := notZero req.direction }
  [.retSubmit (retSubmit h status dataLength).swap []]

def sendStage2SubmitData (req : Stage2Header) (status : UInt32) (data : List UInt8) : List Send :=
  sendStage2Submit req status (UInt32.ofNat data.length) ++
    if data.length ≠ 0 then [.payload data] else []

def sendStage2SubmitDataFast (req : Stage2Header) (data : List UInt8) : List Send :=
  let h := { req with
    command := ntohl USBIP_STAGE2_RSP_SUBMIT, direction := ntohl (notZero req.direction) }
  [.retSubmit (retSubmit h 0 (ntohl (UInt32.ofNat data.length))) data]

/-- The padding of `ret_unlink` takes the rest of the header. -/
def sendStage2Unlink (req : Stage2Header) : List Send :=
  let h : Stage2Header :=
    { retSubmit req 0xFFFFFFFF 0 with
      command := USBIP_STAGE2_RSP_UNLINK, direction := USBIP_DIR_OUT, setup := .replicate 8 0 }
  [.retUnlink h.swap]

theorem ntohl_ntohl (x : UInt32) : ntohl (ntohl x) = x := by
  apply UInt32.toBitVec_inj.mp
  apply BitVec.eq_of_getLsbD_eq
  intro i hi
  simp only [ntohl, byteOf_ofBytes _ _ _ _ _ (show 0 < 4 by omega),
    byteOf_ofBytes _ _ _ _ _ (show 1 < 4 by omega), byteOf_ofBytes _ _ _ _ _ (show 2 < 4 by omega),
    byteOf_ofBytes _ _ _ _ _ (show 3 < 4 by omega)]
  interval_cases i <;> simp [ofBytes, byteOf]

end WirelessEsp.UsbipHeader
