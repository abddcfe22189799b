import WirelessEsp.BitStreams
import WirelessEsp.DapTypes

namespace WirelessEsp.SpiOp

open LeWords BitStreams DapTypes

/-- What the pins and the timer show: the level the target gives SWDIO and the
level of MISO in each SWCLK cycle, and the timestamp timer after so many cycles. -/
structure Wires where
  swdio : Nat → Bool
  miso : Nat → Bool
  timer : Nat → UInt32

/-- The registers of the SPI peripheral that the transfers use. A length
register holds the number of bits less one. -/
structure Spi where
  usrMosi : Bool
  usrMiso : Bool
  sio : Bool
  mosiBitLen : UInt32
  misoBitLen : UInt32
  dataBuf : Vector UInt32 16

/-- The debug port. `trace` has one entry for each SWCLK cycle so far: the level
the host puts on SWDIO, or `none` in a cycle in which the peripheral receives.
`level` is the output latch of the SWDIO pin. -/
structure Port where
  dapData : DapData
  trace : List (Option Bool)
  level : Bool
  spi : Spi

variable (w : Wires)

def Port.cycle (p : Port) : Nat := p.trace.length

def Port.drive (p : Port) (bits : List (Option Bool)) : Port := { p with trace := p.trace ++ bits }

def Port.setSpi (p : Port) (spi : Spi) : Port := { p with spi }

def Port.word (p : Port) (i : Fin 16) : UInt32 := p.spi.dataBuf[i]

/-- Bit `i` of the data buffer: the least significant bit first, word 0 first. -/
def Spi.bufBit (spi : Spi) (i : Nat) : Bool := bit (spi.dataBuf[i / 32]?.getD 0) (i % 32)

def Spi.received (spi : Spi) (n : Nat) (input : Nat → Bool) : Vector UInt32 16 :=
  Vector.ofFn fun k : Fin 16 => ofBits fun i =>
    if 32 * k + i < n then input (32 * k + i) else bit spi.dataBuf[k] i

def mosiPhase (p : Port) : Port :=
  if p.spi.usrMosi then
    p.drive ((List.range (p.spi.mosiBitLen.toNat + 1)).map fun i => some (p.spi.bufBit i))
  else p

def misoPhase (p : Port) : Port :=
  if p.spi.usrMiso then
    let n := p.spi.misoBitLen.toNat + 1
    let input := if p.spi.sio then w.swdio else w.miso
    let buf := p.spi.received n fun i => input (p.cycle + i)
    (p.drive (List.replicate n none)).setSpi { p.spi with dataBuf := buf }
  else p

def startAndWaitSpiTransmissionDone (p : Port) : Port := misoPhase w (mosiPhase p)

/-- The transmissions of `spi_op.c` are those for the ESP32, which uses no command and no address
phase, with `USE_SPI_SIO`. -/
def Spi.header (spi : Spi) (packetHeaderData trnAfterAck : UInt8) : Spi :=
  { spi with
    usrMosi := true, mosiBitLen := 8 - 1, usrMiso := true, sio := true,
    misoBitLen := 1 + 3 + trnAfterAck.toUInt32 - 1,
    dataBuf := spi.dataBuf.set 0 packetHeaderData.toUInt32 }

def dapSpiSendHeader (packetHeaderData trnAfterAck : UInt8) (p : Port) : UInt8 × Port :=
  let p := startAndWaitSpiTransmissionDone w (p.setSpi (p.spi.header packetHeaderData trnAfterAck))
  let p := p.setSpi { p.spi with sio := false }
  (((p.word 0 >>> 1) &&& 0b111).toUInt8, p)

def Spi.reception (spi : Spi) : Spi :=
  { spi with usrMosi := false, usrMiso := true, sio := true, misoBitLen := 1 + 32 + 1 - 1 }

def dapSpiReadData (p : Port) : UInt32 × UInt8 × Port :=
  let p := startAndWaitSpiTransmissionDone w (p.setSpi p.spi.reception)
  let p := p.setSpi { p.spi with sio := false }
  let dataBuf := (p.word 0).toUInt64 ||| (p.word 1).toUInt64 <<< 32
  (((dataBuf >>> 0) &&& 0xFFFFFFFF).toUInt32, ((dataBuf >>> (0 + 32)) &&& 1).toUInt8, p)

/-- The transmission of `bitLen + 1` bits whose first words are given. -/
def dapSpiTransmit (bitLen : UInt32) (dataBuf : Vector UInt32 16) (p : Port) : Port :=
  startAndWaitSpiTransmissionDone w
    (p.setSpi { p.spi with usrMosi := true, usrMiso := false, mosiBitLen := bitLen, dataBuf })

def dapSpiWriteData (data : UInt32) (parity : UInt8) (p : Port) : Port :=
  dapSpiTransmit w (32 + 1 - 1) ((p.spi.dataBuf.set 0 data).set 1 parity.toUInt32) p

def dapSpiGenerateCycle (num : UInt8) (p : Port) : Port :=
  dapSpiTransmit w (num.toUInt32 - 1) (p.spi.dataBuf.set 0 0) p

def dapSpiProtocolErrorRead (p : Port) : Port :=
  dapSpiTransmit w (32 + 1 - 1) ((p.spi.dataBuf.set 0 0xFFFFFFFF).set 1 0xFFFFFFFF) p

def dapSpiProtocolErrorWrite (p : Port) : Port :=
  dapSpiTransmit w (1 + 32 + 1 - 1) ((p.spi.dataBuf.set 0 0xFFFFFFFF).set 1 0xFFFFFFFF) p

def divRoundUp (a b : Nat) : Nat := (a + b - 1) / b

/-- `SET_MOSI_BIT_LEN(count - 1)`: the field has 24 bits. -/
def bitLenField (count : UInt8) : UInt32 := (count.toUInt32 - 1) &&& 0xFFFFFF

/-- `memcpy(data, buf, nbytes)` into an array of 16 words. -/
def copyBytes (data : Vector UInt32 16) (buf : Nat → UInt8) (nbytes : Nat) : Vector UInt32 16 :=
  Vector.ofFn fun k : Fin 16 =>
    let byte (j : Nat) := if 4 * k + j < nbytes then buf (4 * k + j) else byteOf data[k] j
    ofBytes (byte 0) (byte 1) (byte 2) (byte 3)

/-- `n` rounds of the copy loop of `DAP_SPI_WriteBits` from index `i` on; `none` when the index
is outside of the two arrays. -/
def copyWords (data : Vector UInt32 16) : Nat → Nat → Vector UInt32 16 → Option (Vector UInt32 16)
  | 0, _, dataBuf => some dataBuf
  | n + 1, i, dataBuf =>
      if h : i < 16 then copyWords data n (i + 1) (dataBuf.set i data[i]) else none

/-- The local array `data` holds `garbage` before the copy. -/
def dapSpiWriteBits (garbage : Vector UInt32 16) (count : UInt8) (buf : Nat → UInt8) (p : Port) :
    Option Port :=
  let nbytes := divRoundUp count.toNat 8
  let data := copyBytes garbage buf nbytes
  (copyWords data nbytes 0 p.spi.dataBuf).map fun dataBuf =>
    dapSpiTransmit w (bitLenField count) dataBuf p

def Spi.capture (spi : Spi) (count : UInt8) : Spi :=
  { spi with usrMosi := false, usrMiso := true, sio := true, misoBitLen := bitLenField count }

def lastByteMask (count : UInt8) : UInt8 := (2 >>> (count % 8)) - 1

def dapSpiReadBits (count : UInt8) (p : Port) : List UInt8 × Port :=
  let p := startAndWaitSpiTransmissionDone w (p.setSpi (p.spi.capture count))
  let p := p.setSpi { p.spi with sio := false }
  let pData (i : Nat) := byteOf (if i < 4 then p.word 0 else p.word 1) (i % 4)
  let buf := (List.range (divRoundUp count.toNat 8)).map pData
  (buf.modify (buf.length - 1) (· &&& lastByteMask count), p)

end WirelessEsp.SpiOp
