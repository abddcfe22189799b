import WirelessEsp.SwDp

namespace WirelessEsp.SwdTransfer

open BitStreams DapTypes SpiOp SwDp

variable {w : Wires} {p : Port}

def reads (request : UInt32) : Bool := request &&& DAP_TRANSFER_RnW != 0

def requestBits (request : UInt32) : List Bool :=
  [true, bit request 0, bit request 1, bit request 2, bit request 3,
    parityOf (bit request) 4, false, true]

def dataBits (data : UInt32) : List Bool := bitsOf 32 data ++ [parityOf (bit data) 32]

/-- The target gives SWDIO the level `s i` in cycle `i` of a transfer with one turnaround cycle. -/
def targetAck (s : Nat → Bool) : UInt32 := nibble (s 9) (s 10) (s 11) false

def targetData (s : Nat → Bool) : UInt32 := ofBits fun i => s (12 + i)

def parityMismatch (s : Nat → Bool) : Bool := parityOf (fun i => s (12 + i)) 32 != s 44

def accepted (s : Nat → Bool) : Bool := targetAck s == DAP_TRANSFER_OK.toUInt32

/-- The bits the host drives in the request phase of a transfer from `p` to `q`. -/
def requestPhase (p q : Port) : List (Option Bool) := (q.trace.drop p.cycle).take 8

/-- The bits the host drives after the acknowledge and the turnaround of a write. -/
def writePhase (p q : Port) : List (Option Bool) := (q.trace.drop (p.cycle + 13)).take 33

def fromCycle (w : Wires) (p : Port) (i : Nat) : Bool := w.swdio (p.cycle + i)

theorem fromCycle_add {q : Port} {k : Nat} (h : q.cycle = p.cycle + k) :
    fromCycle w q = fun i => fromCycle w p (k + i) := by
  funext i
  rw [fromCycle, h, fromCycle, Nat.add_assoc]

@[simp] theorem setLevel_trace (b : Bool) : (setLevel b p).trace = p.trace := rfl
@[simp] theorem setLevel_dapData (b : Bool) : (setLevel b p).dapData = p.dapData := rfl
@[simp] theorem setLevel_level (b : Bool) : (setLevel b p).level = b := rfl
@[simp] theorem setLevel_cycle (b : Bool) : (setLevel b p).cycle = p.cycle := rfl
@[simp] theorem drive_trace (xs : List (Option Bool)) : (p.drive xs).trace = p.trace ++ xs := rfl
@[simp] theorem drive_dapData (xs : List (Option Bool)) : (p.drive xs).dapData = p.dapData := rfl
@[simp] theorem drive_level (xs : List (Option Bool)) : (p.drive xs).level = p.level := rfl
@[simp] theorem drive_spi (xs : List (Option Bool)) : (p.drive xs).spi = p.spi := rfl

@[simp] theorem drive_cycle (xs : List (Option Bool)) :
    (p.drive xs).cycle = p.cycle + xs.length :=
  List.length_append

@[simp] theorem drive_drive (xs ys : List (Option Bool)) :
    (p.drive xs).drive ys = p.drive (xs ++ ys) := by
  simp only [Port.drive, List.append_assoc]

@[simp] theorem setLevel_drive (b : Bool) (xs : List (Option Bool)) :
    setLevel b (p.drive xs) = (setLevel b p).drive xs := rfl

@[simp] theorem setLevel_setLevel (a b : Bool) : setLevel a (setLevel b p) = setLevel a p := rfl

theorem swWriteBit_eq (b : UInt32) :
    swWriteBit b p = (setLevel (bit b 0) p).drive [some (bit b 0)] := by
  simp only [swWriteBit, swClockCycle, pinSwdioOut, and_one_beq, setLevel_level]

theorem clockCycles_eq (n : Nat) : clockCycles n p = p.drive (List.replicate n (some p.level)) := by
  induction n generalizing p with
  | zero => simp [clockCycles, Port.drive]
  | succ n ih =>
      rw [clockCycles, ih, swClockCycle, drive_drive, drive_level, List.replicate_succ]
      rfl

theorem gpioRequest_eq (request : UInt32) :
    gpioRequest request p = (setLevel true p).drive ((requestBits request).map some) := by
  have h0 : bit (request >>> 0) 0 = bit request 0 := bit_shiftRight request (show 0 < 32 by omega) 0
  have h1 : bit (request >>> 1) 0 = bit request 1 := bit_shiftRight request (show 1 < 32 by omega) 0
  have h2 : bit (request >>> 2) 0 = bit request 2 := bit_shiftRight request (show 2 < 32 by omega) 0
  have h3 : bit (request >>> 3) 0 = bit request 3 := bit_shiftRight request (show 3 < 32 by omega) 0
  have hone : bit 1 0 = true := by decide
  have hzero : bit 0 0 = false := by decide
  simp only [gpioRequest, swWriteBit_eq, bit_add_zero, h0, h1, h2, h3, hone, hzero,
    setLevel_drive, setLevel_setLevel, drive_drive, requestBits, parityOf, Bool.false_xor]
  rfl

theorem gpioAck_eq : gpioAck w p =
    (nibble (w.swdio p.cycle) (w.swdio (p.cycle + 1)) (w.swdio (p.cycle + 2)) false,
      p.drive (List.replicate 3 (some p.level))) := by
  have h : ∀ a b c : Bool,
      a.toUInt32 <<< 0 ||| b.toUInt32 <<< 1 ||| c.toUInt32 <<< 2 = nibble a b c false := by decide
  simp only [gpioAck, swReadBit, pinSwdioIn, swClockCycle, drive_drive, drive_level, drive_cycle, h]
  rfl

theorem gpioReadBits_spec (n : Nat) (val parity : UInt32) :
    ∃ val' parity', gpioReadBits w n val parity p =
        (val', parity', p.drive (List.replicate n (some p.level))) ∧
      (∀ i < 32, bit val' i =
        if i + n < 32 then bit val (i + n) else w.swdio (p.cycle + (i + n - 32))) ∧
      bit parity' 0 = (bit parity 0 ^^ parityOf (fromCycle w p) n) := by
  induction n generalizing val parity p with
  | zero =>
      refine ⟨val, parity, ?_, ?_, ?_⟩
      · simp [gpioReadBits, Port.drive]
      · intro i hi
        rw [Nat.add_zero, if_pos hi]
      · simp [parityOf]
  | succ n ih =>
      obtain ⟨val', parity', heq, hval, hpar⟩ :=
        @ih (swClockCycle p) ((val >>> 1) ||| pinSwdioIn w p <<< 31) (parity + pinSwdioIn w p)
      have hin : bit (pinSwdioIn w p) 0 = w.swdio p.cycle := bit_toUInt32 _
      have hcycle : (swClockCycle p).cycle = p.cycle + 1 := drive_cycle _
      refine ⟨val', parity', ?_, ?_, ?_⟩
      · simp only [gpioReadBits, swReadBit, heq]
        simp only [swClockCycle, drive_drive, drive_level, List.replicate_succ]
        rfl
      · intro i hi
        rw [hval i hi, hcycle]
        split
        next h =>
          have hbit : bit (pinSwdioIn w p <<< 31) (i + n) =
              (decide (31 ≤ i + n) && bit (pinSwdioIn w p) (i + n - 31)) :=
            bit_shiftLeft _ (show 31 < 32 by omega) h
          rw [bit_or, bit_shiftRight_one, hbit, Nat.add_assoc i n 1]
          by_cases hlast : 31 ≤ i + n
          · rw [if_neg (by omega), bit_of_le val (by omega), show i + n - 31 = 0 by omega, hin,
              show i + (n + 1) - 32 = 0 by omega]
            simp [hlast]
          · rw [if_pos (by omega)]
            simp [hlast]
        next h =>
          rw [if_neg (by omega)]
          congr 1
          omega
      · have hfirst : fromCycle w p 0 = w.swdio p.cycle := rfl
        have hrest : (fun i => fromCycle w p (1 + i)) = fromCycle w (swClockCycle p) := by
          funext i
          rw [fromCycle, fromCycle, hcycle, Nat.add_assoc]
        rw [hpar, bit_add_zero, hin, Nat.add_comm n 1, parityOf_add, hrest, parityOf, parityOf,
          hfirst, Bool.false_xor, Bool.xor_assoc]

theorem gpioReadBits_word : ∃ parity, gpioReadBits w 32 0 0 p =
      (ofBits (fromCycle w p), parity, p.drive (List.replicate 32 (some p.level))) ∧
    bit parity 0 = parityOf (fromCycle w p) 32 := by
  obtain ⟨val, parity, heq, hval, hpar⟩ := @gpioReadBits_spec w p 32 0 0
  have hword : val = ofBits (fromCycle w p) := by
    apply eq_of_bit
    intro i hi
    rw [hval i hi, if_neg (by omega), bit_ofBits _ hi, fromCycle, Nat.add_sub_cancel]
  have hzero : bit 0 0 = false := by decide
  refine ⟨parity, by rw [heq, hword], ?_⟩
  rw [hpar, hzero, Bool.false_xor]

theorem gpioWriteBits_spec (n : Nat) (val parity : UInt32) :
    (gpioWriteBits n val parity p).2.trace = p.trace ++ (bitsOf n val).map some ∧
      (gpioWriteBits n val parity p).2.dapData = p.dapData ∧
      bit (gpioWriteBits n val parity p).1 0 = (bit parity 0 ^^ parityOf (bit val) n) := by
  induction n generalizing val parity p with
  | zero => simp [gpioWriteBits, bitsOf, parityOf]
  | succ n ih =>
      obtain ⟨htrace, hdap, hpar⟩ := @ih (swWriteBit val p) (val >>> 1) (parity + val)
      have hshift : (fun i => bit val (1 + i)) = bit (val >>> 1) := by
        funext i
        rw [bit_shiftRight_one, Nat.add_comm]
      rw [gpioWriteBits]
      refine ⟨?_, ?_, ?_⟩
      · rw [htrace, swWriteBit_eq, bitsOf_succ]
        simp
      · rw [hdap, swWriteBit_eq]
        rfl
      · rw [hpar, bit_add_zero, Nat.add_comm n 1, parityOf_add, hshift, parityOf, parityOf,
          Bool.false_xor, Bool.xor_assoc]

theorem nibble_parity : ∀ a b c d : Bool,
    ((0x6996 >>> nibble a b c d) &&& 1).toUInt8 = (a ^^ b ^^ c ^^ d).toUInt8 := by
  decide

theorem parityEvenUint32_eq (v : UInt32) : parityEvenUint32 v = (parityOf (bit v) 32).toUInt8 := by
  have h16 : parityOf (bit (v ^^^ v >>> 16)) 16 = parityOf (bit v) 32 :=
    parityOf_fold v (show 16 < 32 by omega)
  have h8 : ∀ v : UInt32, parityOf (bit (v ^^^ v >>> 8)) 8 = parityOf (bit v) 16 :=
    fun v => parityOf_fold v (show 8 < 32 by omega)
  have h4 : ∀ v : UInt32, parityOf (bit (v ^^^ v >>> 4)) 4 = parityOf (bit v) 8 :=
    fun v => parityOf_fold v (show 4 < 32 by omega)
  rw [← h16, ← h8, ← h4, parityEvenUint32, and_nibble, nibble_parity]
  simp only [parityOf, Bool.false_xor]

theorem requestByte_bits (request : UInt32) :
    bitsOf 8 (requestByte request).toUInt32 = requestBits request := by
  have h : ∀ a b c d : Bool,
      bitsOf 8 ((0b10000001 : UInt8) ||| (nibble a b c d).toUInt8 <<< 1 |||
        parityEvenUint8 (nibble a b c d).toUInt8 <<< 5).toUInt32 =
      [true, a, b, c, d, a ^^ b ^^ c ^^ d, false, true] := by decide
  rw [requestByte, and_nibble, h, requestBits]
  simp only [parityOf, Bool.false_xor]

@[simp] theorem setSpi_trace (spi : Spi) : (p.setSpi spi).trace = p.trace := rfl
@[simp] theorem setSpi_dapData (spi : Spi) : (p.setSpi spi).dapData = p.dapData := rfl
@[simp] theorem setSpi_cycle (spi : Spi) : (p.setSpi spi).cycle = p.cycle := rfl
@[simp] theorem setSpi_spi (spi : Spi) : (p.setSpi spi).spi = spi := rfl

theorem bufBit_word {spi : Spi} {i : Nat} (hi : i < 32) : spi.bufBit i = bit spi.dataBuf[0] i := by
  rw [Spi.bufBit, Nat.div_eq_of_lt hi, Nat.mod_eq_of_lt hi]
  rfl

theorem bufBits_word {spi : Spi} {n : Nat} (hn : n ≤ 32) :
    (List.range n).map (fun i => some (spi.bufBit i)) = (bitsOf n spi.dataBuf[0]).map some := by
  rw [bitsOf, List.map_map]
  apply List.map_congr_left
  intro i hi
  rw [bufBit_word (by have := List.mem_range.mp hi; omega)]
  rfl

theorem received_bit {spi : Spi} {n : Nat} {input : Nat → Bool} {i : Nat} (hi : i < 32)
    (hn : i < n) : bit (spi.received n input)[0] i = input i := by
  simp [Spi.received, hi, hn]

theorem received_next {spi : Spi} {n : Nat} {input : Nat → Bool} (hn : 32 < n) :
    bit (spi.received n input)[1] 0 = input 32 := by
  simp [Spi.received, hn]

theorem dapSpiTransmit_spec (bitLen : UInt32) (buf : Vector UInt32 16) :
    (∃ spi : Spi, spi.dataBuf = buf ∧ (dapSpiTransmit w bitLen buf p).trace =
      p.trace ++ (List.range (bitLen.toNat + 1)).map fun i => some (spi.bufBit i)) ∧
    (dapSpiTransmit w bitLen buf p).dapData = p.dapData :=
  ⟨⟨_, rfl, rfl⟩, rfl⟩

theorem dapSpiWriteData_trace (data : UInt32) :
    (dapSpiWriteData w data (parityEvenUint32 data) p).trace =
      p.trace ++ (dataBits data).map some := by
  obtain ⟨⟨spi, hbuf, htrace⟩, -⟩ := @dapSpiTransmit_spec w p (32 + 1 - 1)
    ((p.spi.dataBuf.set 0 data).set 1 (parityEvenUint32 data).toUInt32)
  have hword : spi.dataBuf[0] = data := by
    rw [hbuf]
    simp
  have hlast : spi.bufBit 32 = parityOf (bit data) 32 := by
    rw [Spi.bufBit, hbuf, parityEvenUint32_eq]
    cases parityOf (bit data) 32 <;> simp [bit]
  have hlen : (32 + 1 - 1 : UInt32).toNat + 1 = 32 + 1 := rfl
  rw [dapSpiWriteData, htrace, hlen, List.range_succ, List.map_append,
    bufBits_word (Nat.le_refl _), hword, dataBits, List.map_append, List.map_singleton,
    List.map_singleton, hlast]

theorem exchange_eq {spi : Spi} {n : Nat} (hmosi : spi.usrMosi = true)
    (hmiso : spi.usrMiso = true) (hsio : spi.sio = true) (hn : spi.misoBitLen.toNat + 1 = n) :
    startAndWaitSpiTransmissionDone w (p.setSpi spi) =
      (p.drive ((List.range (spi.mosiBitLen.toNat + 1)).map (fun i => some (spi.bufBit i)) ++
        List.replicate n none)).setSpi
      { spi with dataBuf := spi.received n fun i =>
          fromCycle w p (spi.mosiBitLen.toNat + 1 + i) } := by
  subst hn
  simp only [startAndWaitSpiTransmissionDone, mosiPhase, misoPhase, setSpi_spi, hmosi, if_true,
    drive_spi, hmiso, hsio, drive_cycle, setSpi_cycle, List.length_map, List.length_range,
    drive_drive, fromCycle, Nat.add_assoc]
  rfl

theorem reception_eq {spi : Spi} {n : Nat} (hmosi : spi.usrMosi = false)
    (hmiso : spi.usrMiso = true) (hsio : spi.sio = true) (hn : spi.misoBitLen.toNat + 1 = n) :
    startAndWaitSpiTransmissionDone w (p.setSpi spi) =
      (p.drive (List.replicate n none)).setSpi
      { spi with dataBuf := spi.received n (fromCycle w p) } := by
  have hm : mosiPhase (p.setSpi spi) = p.setSpi spi := by
    rw [mosiPhase, setSpi_spi, hmosi]
    rfl
  subst hn
  simp only [startAndWaitSpiTransmissionDone, hm, misoPhase, setSpi_spi, hmiso, hsio, if_true]
  rfl

theorem dapSpiSendHeader_spec (byte : UInt8) {trn : UInt8} (htrn : trn = 0 ∨ trn = 1) :
    (dapSpiSendHeader w byte trn p).1 = (targetAck (fromCycle w p)).toUInt8 ∧
    (dapSpiSendHeader w byte trn p).2.trace = p.trace ++ ((bitsOf 8 byte.toUInt32).map some ++
      List.replicate (4 + trn.toNat) none) ∧
    (dapSpiSendHeader w byte trn p).2.dapData = p.dapData := by
  have hlen : (p.spi.header byte trn).misoBitLen.toNat + 1 = 4 + trn.toNat := by
    rcases htrn with rfl | rfl <;> rfl
  have hword : (p.spi.header byte trn).dataBuf[0] = byte.toUInt32 := by
    simp [Spi.header]
  have hbits := @bufBits_word (p.spi.header byte trn) 8 (by omega)
  rw [hword] at hbits
  rw [dapSpiSendHeader, exchange_eq rfl rfl rfl hlen]
  refine ⟨?_, ?_, rfl⟩
  · have hin : ∀ i < 4, bit ((p.spi.header byte trn).received (4 + trn.toNat) fun i =>
        fromCycle w p ((p.spi.header byte trn).mosiBitLen.toNat + 1 + i))[0] i =
        fromCycle w p (8 + i) := fun i hi => received_bit (by omega) (by omega)
    show (((_ : UInt32) >>> 1) &&& 7).toUInt8 = _
    rw [and_seven, bit_shiftRight_one, bit_shiftRight_one, bit_shiftRight_one, targetAck,
      ← hin 1 (by omega), ← hin 2 (by omega), ← hin 3 (by omega)]
    rfl
  · have hn : (p.spi.header byte trn).mosiBitLen.toNat + 1 = 8 := rfl
    rw [← hbits, ← hn]
    rfl

theorem dapSpiReadData_spec :
    (dapSpiReadData w p).1 = ofBits (fromCycle w p) ∧
    (dapSpiReadData w p).2.1 = (fromCycle w p 32).toUInt8 ∧
    (dapSpiReadData w p).2.2.trace = p.trace ++ List.replicate 34 none ∧
    (dapSpiReadData w p).2.2.dapData = p.dapData := by
  have hlen : p.spi.reception.misoBitLen.toNat + 1 = 34 := rfl
  rw [dapSpiReadData, reception_eq rfl rfl rfl hlen, toUInt64_low, toUInt64_high]
  refine ⟨?_, ?_, rfl, rfl⟩
  · apply eq_of_bit
    intro i hi
    rw [bit_ofBits _ hi]
    exact received_bit hi (by omega)
  · exact congrArg Bool.toUInt8 (received_next (by omega))

end WirelessEsp.SwdTransfer
