import WirelessEsp.SpiOp

namespace WirelessEsp.SwDp

open DapTypes SpiOp

def parityP2 (n : UInt8) : List UInt8 := [n, n ^^^ 1, n ^^^ 1, n]

def parityP4 (n : UInt8) : List UInt8 :=
  parityP2 n ++ parityP2 (n ^^^ 1) ++ parityP2 (n ^^^ 1) ++ parityP2 n

def parityP6 (n : UInt8) : List UInt8 :=
  parityP4 n ++ parityP4 (n ^^^ 1) ++ parityP4 (n ^^^ 1) ++ parityP4 n

def kParityByteTable : List UInt8 := parityP6 0 ++ parityP6 1 ++ parityP6 1 ++ parityP6 0

def parityEvenUint8 (v : UInt8) : UInt8 := kParityByteTable.getD v.toNat 0

def parityEvenUint32 (v : UInt32) : UInt8 :=
  let v := v ^^^ (v >>> 16)
  let v := v ^^^ (v >>> 8)
  let v := v ^^^ (v >>> 4)
  let v := v &&& 0xf
  ((0x6996 >>> v) &&& 1).toUInt8

variable (w : Wires)

/-- A pin macro of `SW_DP.c`. `PIN_SWDIO_OUT_ENABLE` is empty and `PIN_DELAY` only takes time, so
the slow and the fast GPIO transfer are one. -/
def setLevel (b : Bool) (p : Port) : Port := { p with level := b }

def pinSwdioOut (bit : UInt32) (p : Port) : Port := setLevel (bit &&& 1 == 1) p

def pinSwdioTmsSet (p : Port) : Port := setLevel true p

def pinSwdioOutDisable (p : Port) : Port := setLevel true p

def pinSwdioIn (p : Port) : UInt32 := (w.swdio p.cycle).toUInt32

def swClockCycle (p : Port) : Port := p.drive [some p.level]

def swWriteBit (bit : UInt32) (p : Port) : Port := swClockCycle (pinSwdioOut bit p)

def swReadBit (p : Port) : UInt32 × Port := (pinSwdioIn w p, swClockCycle p)

def clockCycles : Nat → Port → Port
  | 0, p => p
  | n + 1, p => clockCycles n (swClockCycle p)

/-- The loop of `SWJ_Sequence_GPIO` with `count` bits to go, the index `i` of the next byte of
`data` and `n` bits left in `val`. -/
def swjSequenceLoop (data : Nat → UInt8) : Nat → UInt32 → Nat → Nat → Port → Port
  | 0, _, _, _, p => p
  | count + 1, val, n, i, p =>
      let (val, n, i) := if n = 0 then ((data i).toUInt32, 8, i + 1) else (val, n, i)
      let p := if val &&& 1 != 0 then setLevel true p else setLevel false p
      let p := swClockCycle p
      swjSequenceLoop data count (val >>> 1) (n - 1) i p

def swjSequenceGpio (count : UInt32) (data : Nat → UInt8) (p : Port) : Port :=
  swjSequenceLoop data count.toNat 0 0 0 p

/-- `DAP_SPI_WriteBits` takes the count in a byte. -/
def swjSequenceSpi (garbage : Vector UInt32 16) (count : UInt32) (data : Nat → UInt8) (p : Port) :
    Option Port :=
  dapSpiWriteBits w garbage count.toUInt8 data p

/-- The number of clocks of a sequence, 1 to 64. -/
def sequenceClocks (info : UInt32) : UInt32 :=
  let n := info &&& SWD_SEQUENCE_CLK
  if n == 0 then 64 else n

def captureBits : Nat → UInt32 → Port → UInt32 × Port
  | 0, val, p => (val, p)
  | rounds + 1, val, p =>
      let (bit, p) := swReadBit w p
      captureBits rounds ((val >>> 1) ||| bit <<< 7) p

/-- The rounds of the inner loops: `for (k = 8U; k && n; k--, n--)`. -/
def innerRounds (n : Nat) : Nat := min 8 n

def captureBytes (n : Nat) (p : Port) : List UInt8 × Port :=
  if _h : n = 0 then ([], p)
  else
    let (val, p) := captureBits w (innerRounds n) 0 p
    let val := val >>> UInt32.ofNat (8 - innerRounds n)
    let (swdi, p) := captureBytes (n - innerRounds n) p
    (val.toUInt8 :: swdi, p)
termination_by n
decreasing_by
  rw [innerRounds]
  omega

def driveBits : Nat → UInt32 → Port → Port
  | 0, _, p => p
  | rounds + 1, val, p => driveBits rounds (val >>> 1) (swWriteBit val p)

/-- The outer loop that writes, from byte `i` of `swdo` on. -/
def driveBytes (swdo : Nat → UInt8) (n i : Nat) (p : Port) : Port :=
  if _h : n = 0 then p
  else driveBytes swdo (n - innerRounds n) (i + 1) (driveBits (innerRounds n) (swdo i).toUInt32 p)
termination_by n
decreasing_by
  rw [innerRounds]
  omega

/-- The bytes stored at `swdi`, and the port after the sequence. -/
def swdSequenceGpio (info : UInt32) (swdo : Nat → UInt8) (p : Port) : List UInt8 × Port :=
  let n := (sequenceClocks info).toNat
  if info &&& SWD_SEQUENCE_DIN != 0 then captureBytes w n p else ([], driveBytes swdo n 0 p)

def swdSequenceSpi (garbage : Vector UInt32 16) (info : UInt32) (swdo : Nat → UInt8) (p : Port) :
    Option (List UInt8 × Port) :=
  let n := (sequenceClocks info).toUInt8
  if info &&& SWD_SEQUENCE_DIN != 0 then some (dapSpiReadBits w n p)
  else (dapSpiWriteBits w garbage n swdo p).map fun p => ([], p)

def captureTimestamp (request : UInt32) (p : Port) : Port :=
  if request &&& DAP_TRANSFER_TIMESTAMP != 0 then
    { p with dapData := { p.dapData with timestamp := w.timer p.cycle } }
  else p

/-- What a transfer returns, with what it leaves in the word `*data`. -/
structure Transfer where
  ack : UInt8
  data : UInt32
  port : Port

def gpioRequest (request : UInt32) (p : Port) : Port :=
  let p := swWriteBit 1 p
  let bit := request >>> 0
  let p := swWriteBit bit p
  let parity := bit
  let bit := request >>> 1
  let p := swWriteBit bit p
  let parity := parity + bit
  let bit := request >>> 2
  let p := swWriteBit bit p
  let parity := parity + bit
  let bit := request >>> 3
  let p := swWriteBit bit p
  let parity := parity + bit
  let p := swWriteBit parity p
  let p := swWriteBit 0 p
  swWriteBit 1 p

def turnaround (p : Port) : Port := clockCycles p.dapData.swdConf.turnaround.toNat p

def gpioAck (p : Port) : UInt32 × Port :=
  let (bit, p) := swReadBit w p
  let ack := bit <<< 0
  let (bit, p) := swReadBit w p
  let ack := ack ||| bit <<< 1
  let (bit, p) := swReadBit w p
  let ack := ack ||| bit <<< 2
  (ack, p)

/-- The loop over the bits of RDATA, with `val` and `parity` as they are. -/
def gpioReadBits : Nat → UInt32 → UInt32 → Port → UInt32 × UInt32 × Port
  | 0, val, parity, p => (val, parity, p)
  | n + 1, val, parity, p =>
      let (bit, p) := swReadBit w p
      gpioReadBits n ((val >>> 1) ||| bit <<< 31) (parity + bit) p

def gpioWriteBits : Nat → UInt32 → UInt32 → Port → UInt32 × Port
  | 0, _, parity, p => (parity, p)
  | n + 1, val, parity, p => gpioWriteBits n (val >>> 1) (parity + val) (swWriteBit val p)

/-- `stores` says whether the pointer `data` is not null. -/
def gpioRead (ack : UInt32) (stores : Bool) (data : UInt32) (p : Port) : UInt32 × UInt32 × Port :=
  let (val, parity, p) := gpioReadBits w 32 0 0 p
  let (bit, p) := swReadBit w p
  let ack := if (parity ^^^ bit) &&& 1 != 0 then DAP_TRANSFER_ERROR.toUInt32 else ack
  let data := if stores then val else data
  (ack, data, turnaround p)

def gpioWrite (data : UInt32) (p : Port) : Port :=
  let p := turnaround p
  let (parity, p) := gpioWriteBits 32 data 0 p
  swWriteBit parity p

def gpioIdle (p : Port) : Port :=
  let n := p.dapData.transfer.idleCycles.toNat
  if n ≠ 0 then clockCycles n (pinSwdioOut 0 p) else p

def gpioOk (request ack : UInt32) (stores : Bool) (data : UInt32) (p : Port) : Transfer :=
  let (ack, data, p) :=
    if request &&& DAP_TRANSFER_RnW != 0 then gpioRead w ack stores data p
    else (ack, data, gpioWrite data p)
  let p := captureTimestamp w request p
  let p := gpioIdle p
  ⟨ack.toUInt8, data, pinSwdioOut 1 p⟩

def dummyRead (request : UInt32) (p : Port) : Port :=
  if p.dapData.swdConf.dataPhase != 0 && request &&& DAP_TRANSFER_RnW != 0 then
    clockCycles (32 + 1) p
  else p

def dummyWrite (request : UInt32) (p : Port) : Port :=
  if p.dapData.swdConf.dataPhase != 0 && request &&& DAP_TRANSFER_RnW == 0 then
    clockCycles (32 + 1) (pinSwdioOut 0 p)
  else p

def gpioWaitOrFault (request ack : UInt32) (data : UInt32) (p : Port) : Transfer :=
  let p := dummyRead request p
  let p := turnaround p
  let p := dummyWrite request p
  ⟨ack.toUInt8, data, pinSwdioOut 1 p⟩

def gpioProtocolError (ack : UInt32) (data : UInt32) (p : Port) : Transfer :=
  let p := clockCycles (p.dapData.swdConf.turnaround.toNat + 32 + 1) p
  ⟨ack.toUInt8, data, pinSwdioOut 1 p⟩

def swdTransferGpio (request : UInt32) (stores : Bool) (data : UInt32) (p : Port) : Transfer :=
  let p := gpioRequest request p
  let p := pinSwdioOutDisable p
  let p := turnaround p
  let (ack, p) := gpioAck w p
  if ack == DAP_TRANSFER_OK.toUInt32 then gpioOk w request ack stores data p
  else if ack == DAP_TRANSFER_WAIT.toUInt32 || ack == DAP_TRANSFER_FAULT.toUInt32 then
    gpioWaitOrFault request ack data p
  else gpioProtocolError ack data p

def requestByte (request : UInt32) : UInt8 :=
  let constantBits : UInt8 := 0b10000001
  constantBits ||| (request &&& 0xF).toUInt8 <<< 1 |||
    parityEvenUint8 (request &&& 0xF).toUInt8 <<< 5

def spiRead (request : UInt32) (stores : Bool) (data : UInt32) (p : Port) : Transfer :=
  let (ack, p) := dapSpiSendHeader w (requestByte request) 0 p
  if ack == DAP_TRANSFER_OK then
    let (val, parity, p) := dapSpiReadData w p
    let computedParity := parityEvenUint32 val
    let ack := if (computedParity ^^^ parity) &&& 1 != 0 then DAP_TRANSFER_ERROR else ack
    let data := if stores then val else data
    ⟨ack, data, captureTimestamp w request p⟩
  else if ack == DAP_TRANSFER_WAIT || ack == DAP_TRANSFER_FAULT then
    ⟨ack, data, dapSpiGenerateCycle w 1 p⟩
  else
    let p := pinSwdioTmsSet p
    let p := dapSpiProtocolErrorRead w p
    ⟨ack, data, pinSwdioTmsSet p⟩

def spiWrite (request : UInt32) (data : UInt32) (p : Port) : Transfer :=
  let parity := parityEvenUint32 data
  let (ack, p) := dapSpiSendHeader w (requestByte request) 1 p
  if ack == DAP_TRANSFER_OK then
    let p := dapSpiWriteData w data parity p
    let p := captureTimestamp w request p
    let n := p.dapData.transfer.idleCycles
    let p := if n != 0 then dapSpiGenerateCycle w n p else p
    ⟨ack, data, pinSwdioTmsSet p⟩
  else if ack == DAP_TRANSFER_WAIT || ack == DAP_TRANSFER_FAULT then ⟨ack, data, p⟩
  else
    let p := pinSwdioTmsSet p
    let p := dapSpiProtocolErrorWrite w p
    ⟨ack, data, pinSwdioTmsSet p⟩

/-- `SWD_Transfer_SPI` on the ESP32, where `DAP_SPI_Enable` and `DAP_SPI_Disable` are empty. -/
def swdTransferSpi (request : UInt32) (stores : Bool) (data : UInt32) (p : Port) : Transfer :=
  if request &&& DAP_TRANSFER_RnW != 0 then spiRead w request stores data p
  else spiWrite w request data p

def swdTransfer (speed : TransferType) (request : UInt32) (stores : Bool) (data : UInt32)
    (p : Port) : Transfer :=
  match speed with
  | .spi => swdTransferSpi w request stores data p
  | .gpioFast => swdTransferGpio w request stores data p
  | .gpioNormal => swdTransferGpio w request stores data p

end WirelessEsp.SwDp
