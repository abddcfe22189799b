import Mathlib.Data.List.Basic

namespace WirelessEsp.DapTypes

def DAP_OK : UInt8 := 0
def DAP_ERROR : UInt8 := 0xFF

def DAP_PORT_AUTODETECT : UInt8 := 0
def DAP_PORT_DISABLED : UInt8 := 0
def DAP_PORT_SWD : UInt8 := 1
def DAP_PORT_JTAG : UInt8 := 2

def DAP_TRANSFER_APnDP : UInt32 := 0x01
def DAP_TRANSFER_RnW : UInt32 := 0x02
def DAP_TRANSFER_A2 : UInt32 := 0x04
def DAP_TRANSFER_A3 : UInt32 := 0x08
def DAP_TRANSFER_MATCH_VALUE : UInt32 := 0x10
def DAP_TRANSFER_MATCH_MASK : UInt32 := 0x20
def DAP_TRANSFER_TIMESTAMP : UInt32 := 0x80

def DAP_TRANSFER_OK : UInt8 := 0x01
def DAP_TRANSFER_WAIT : UInt8 := 0x02
def DAP_TRANSFER_FAULT : UInt8 := 0x04
def DAP_TRANSFER_ERROR : UInt8 := 0x08
def DAP_TRANSFER_MISMATCH : UInt8 := 0x10

def SWD_SEQUENCE_CLK : UInt32 := 0x3F
def SWD_SEQUENCE_DIN : UInt32 := 0x80

def DAP_JTAG_DEV_CNT : Nat := 8

structure TransferConf where
  idleCycles : UInt8
  retryCount : UInt16
  matchRetry : UInt16
  matchMask : UInt32
  deriving DecidableEq

structure SwdConf where
  turnaround : UInt8
  dataPhase : UInt8
  deriving DecidableEq

structure JtagDev where
  count : UInt8
  index : UInt8
  irLength : Vector UInt8 DAP_JTAG_DEV_CNT
  irBefore : Vector UInt16 DAP_JTAG_DEV_CNT
  irAfter : Vector UInt16 DAP_JTAG_DEV_CNT
  deriving DecidableEq

structure DapData where
  debugPort : UInt8
  fastClock : UInt8
  clockDelay : UInt32
  timestamp : UInt32
  transfer : TransferConf
  swdConf : SwdConf
  jtagDev : JtagDev
  deriving DecidableEq

/-- `enum transfer_type`, the values of `SWD_TransferSpeed`. -/
inductive TransferType where
  | gpioNormal
  | gpioFast
  | spi
  deriving DecidableEq

/-- The chips the firmware is built for. -/
inductive Target where
  | esp8266
  | esp32
  | esp32c3
  | esp32s3
  deriving DecidableEq

def cpuClock : Target → UInt32
  | .esp8266 => 160000000
  | .esp32 => 240000000
  | .esp32c3 => 16000000
  | .esp32s3 => 240000000

def IO_PORT_WRITE_CYCLES : UInt32 := 2
def DAP_DEFAULT_SWJ_CLOCK : UInt32 := 1000000

def clockDelay (t : Target) (swjClock : UInt32) : UInt32 :=
  cpuClock t / 2 / swjClock - IO_PORT_WRITE_CYCLES

/-- `DAP_Data` after `DAP_Setup`; what that function leaves alone is still zero. -/
def dapSetup (t : Target) : DapData where
  debugPort := 0
  fastClock := 0
  clockDelay := clockDelay t DAP_DEFAULT_SWJ_CLOCK
  timestamp := 0
  transfer := { idleCycles := 0, retryCount := 100, matchRetry := 0, matchMask := 0 }
  swdConf := { turnaround := 1, dataPhase := 0 }
  jtagDev :=
    { count := 0, index := 0, irLength := .replicate _ 0, irBefore := .replicate _ 0,
      irAfter := .replicate _ 0 }

end WirelessEsp.DapTypes
