import WirelessEsp.SwdTransfer

namespace WirelessEsp.SwdCycles

open BitStreams DapTypes SpiOp SwDp SwdTransfer

variable {w : Wires} {p q : Port} {request data : UInt32} {stores : Bool}

/-- The target answers WAIT or FAULT. -/
def refused (s : Nat → Bool) : Bool :=
  targetAck s == DAP_TRANSFER_WAIT.toUInt32 || targetAck s == DAP_TRANSFER_FAULT.toUInt32

theorem refused_toUInt8 (s : Nat → Bool) :
    ((targetAck s).toUInt8 == DAP_TRANSFER_WAIT || (targetAck s).toUInt8 == DAP_TRANSFER_FAULT) =
      refused s := by
  have h : ∀ a b c : Bool, ((nibble a b c false).toUInt8 == DAP_TRANSFER_WAIT ||
      (nibble a b c false).toUInt8 == DAP_TRANSFER_FAULT) =
      (nibble a b c false == DAP_TRANSFER_WAIT.toUInt32 ||
        nibble a b c false == DAP_TRANSFER_FAULT.toUInt32) := by decide
  exact h _ _ _

theorem refused_accepted {s : Nat → Bool} (h : refused s = true) : accepted s = false := by
  have hall : ∀ a b c : Bool, (nibble a b c false == DAP_TRANSFER_WAIT.toUInt32 ||
      nibble a b c false == DAP_TRANSFER_FAULT.toUInt32) = true →
      (nibble a b c false == DAP_TRANSFER_OK.toUInt32) = false := by decide
  exact hall _ _ _ h

theorem accepted_not_refused {s : Nat → Bool} (h : accepted s = true) : refused s ≠ true := by
  intro hrefused
  rw [refused_accepted hrefused] at h
  exact Bool.false_ne_true h

/-- What a transfer from `p` to `q` puts on SWDIO after request, acknowledge, data and
turnaround of an accepted transfer. -/
def idlePhase (p q : Port) : List (Option Bool) := q.trace.drop (p.cycle + 46)

def idleCycles (p : Port) : Nat := p.dapData.transfer.idleCycles.toNat

/-- From `p` to `q` there are `n` cycles and then those of `idle`. -/
def Clocks (p q : Port) (n : Nat) (idle : List (Option Bool)) : Prop :=
  ∃ xs, xs.length = n ∧ q.trace = p.trace ++ xs ++ idle

theorem Clocks.cycle {n : Nat} {idle : List (Option Bool)} (h : Clocks p q n idle) :
    q.cycle = p.cycle + n + idle.length := by
  obtain ⟨xs, hlen, htrace⟩ := h
  rw [Port.cycle, htrace, List.length_append, List.length_append, hlen]
  rfl

theorem Clocks.idlePhase_eq {idle : List (Option Bool)} (h : Clocks p q 46 idle) :
    idlePhase p q = idle := by
  obtain ⟨xs, hlen, htrace⟩ := h
  rw [idlePhase, htrace]
  apply List.drop_left'
  rw [List.length_append, hlen]
  rfl

theorem gpioIdle_trace :
    (gpioIdle p).trace = p.trace ++ List.replicate (idleCycles p) (some false) := by
  rw [gpioIdle]
  split
  · rw [clockCycles_eq]
    rfl
  next h =>
    rw [Decidable.not_not] at h
    rw [idleCycles, h, List.replicate_zero, List.append_nil]

theorem finish_idle :
    (pinSwdioOut 1 (gpioIdle (captureTimestamp w request p))).trace =
      p.trace ++ List.replicate (idleCycles p) (some false) := by
  show (gpioIdle _).trace = _
  rw [gpioIdle_trace, captureTimestamp_trace, idleCycles, captureTimestamp_transfer]
  rfl

theorem gpioOk_clocks (hturn : p.dapData.swdConf.turnaround = 1) (ack : UInt32) :
    Clocks p (gpioOk w request ack stores data p).port 34
      (List.replicate (idleCycles p) (some false)) := by
  cases hr : request &&& DAP_TRANSFER_RnW != 0 with
  | true =>
      obtain ⟨-, -, hport⟩ := @gpioRead_spec w p data stores hturn ack
      refine ⟨List.replicate 34 (some p.level), List.length_replicate, ?_⟩
      simp only [gpioOk, hr, if_true]
      rw [finish_idle, hport]
      rfl
  | false =>
      obtain ⟨htrace, hdap⟩ := @gpioWrite_trace p data hturn
      refine ⟨[some p.level] ++ (dataBits data).map some, ?_, ?_⟩
      · simp [dataBits]
      · simp only [gpioOk, hr, Bool.false_eq_true, if_false]
        rw [finish_idle, htrace, idleCycles, hdap, List.append_assoc p.trace]
        rfl

theorem gpioWaitOrFault_clocks (hturn : p.dapData.swdConf.turnaround = 1)
    (hphase : p.dapData.swdConf.dataPhase = 0) (ack : UInt32) :
    Clocks p (gpioWaitOrFault request ack data p).port 1 [] := by
  have hread : dummyRead request p = p := by
    rw [dummyRead, hphase]
    rfl
  have hwrite : dummyWrite request (turnaround p) = turnaround p := by
    rw [dummyWrite, turnaround_eq hturn, drive_dapData, hphase]
    rfl
  refine ⟨[some p.level], rfl, ?_⟩
  simp only [gpioWaitOrFault, hread, hwrite]
  rw [turnaround_eq hturn, List.append_nil]
  rfl

theorem gpioProtocolError_clocks (hturn : p.dapData.swdConf.turnaround = 1) (ack : UInt32) :
    Clocks p (gpioProtocolError ack data p).port 34 [] := by
  refine ⟨List.replicate 34 (some p.level), List.length_replicate, ?_⟩
  simp only [gpioProtocolError, hturn]
  rw [clockCycles_eq, List.append_nil]
  rfl

theorem swdTransferGpio_clocks (hturn : p.dapData.swdConf.turnaround = 1)
    (hphase : p.dapData.swdConf.dataPhase = 0) :
    (accepted (fromCycle w p) = true → Clocks p (swdTransferGpio w request stores data p).port 46
      (List.replicate (idleCycles p) (some false))) ∧
    (refused (fromCycle w p) = true →
      Clocks p (swdTransferGpio w request stores data p).port 13 []) ∧
    (accepted (fromCycle w p) = false → refused (fromCycle w p) = false →
      Clocks p (swdTransferGpio w request stores data p).port 46 []) := by
  have hheader := @gpioHeader_eq w p request hturn
  have htrace : ((setLevel true p).drive
      ((requestBits request).map some ++ List.replicate 4 (some true))).trace = p.trace ++
      ((requestBits request).map some ++ List.replicate 4 (some true)) := rfl
  have hdap : ((setLevel true p).drive
      ((requestBits request).map some ++ List.replicate 4 (some true))).dapData = p.dapData := rfl
  generalize (setLevel true p).drive
    ((requestBits request).map some ++ List.replicate 4 (some true)) = q at hheader htrace hdap
  have hafter : ∀ {r : Port} {n : Nat} {idle : List (Option Bool)}, Clocks q r n idle →
      Clocks p r (12 + n) idle := by
    rintro r n idle ⟨xs, hlen, hr⟩
    refine ⟨(requestBits request).map some ++ List.replicate 4 (some true) ++ xs, ?_, ?_⟩
    · rw [List.length_append, hlen]
      rfl
    · rw [hr, htrace, List.append_assoc p.trace]
  have hidle : idleCycles q = idleCycles p := by rw [idleCycles, hdap, idleCycles]
  rw [← hdap] at hturn hphase
  simp only [swdTransferGpio, hheader]
  refine ⟨?_, ?_, ?_⟩
  · intro ha
    rw [accepted] at ha
    rw [if_pos ha, ← hidle]
    exact hafter (gpioOk_clocks hturn _)
  · intro hf
    have ha := refused_accepted hf
    rw [accepted] at ha
    rw [refused] at hf
    rw [if_neg (by rw [ha]; exact Bool.false_ne_true), if_pos hf]
    exact hafter (gpioWaitOrFault_clocks hturn hphase _)
  · intro ha hf
    rw [accepted] at ha
    rw [refused] at hf
    rw [if_neg (by rw [ha]; exact Bool.false_ne_true), if_neg (by rw [hf]; exact Bool.false_ne_true)]
    exact hafter (gpioProtocolError_clocks hturn _)

@[simp] theorem dapSpiTransmit_dataBuf (bitLen : UInt32) (buf : Vector UInt32 16) :
    (dapSpiTransmit w bitLen buf p).spi.dataBuf = buf := rfl

theorem dapSpiTransmit_clocks (bitLen : UInt32) (buf : Vector UInt32 16) :
    Clocks p (dapSpiTransmit w bitLen buf p) (bitLen.toNat + 1) [] := by
  refine ⟨_, ?_, (List.append_nil _).symm⟩
  rw [List.length_map, List.length_range, setSpi_spi]

theorem received_word {spi : Spi} {n : Nat} {input : Nat → Bool} {k : Nat} (hn : n ≤ 32 * k) :
    (spi.received n input)[k]? = spi.dataBuf[k]? := by
  rw [Spi.received]
  by_cases hk : k < 16
  · rw [Vector.getElem?_eq_getElem hk, Vector.getElem?_eq_getElem hk, Vector.getElem_ofFn]
    congr 1
    apply eq_of_bit
    intro i hi
    rw [bit_ofBits _ hi, if_neg (by simp only; omega)]
    rfl
  · rw [Vector.getElem?_eq_none (by omega), Vector.getElem?_eq_none (by omega)]

theorem dapSpiSendHeader_dataBuf (byte : UInt8) {trn : UInt8} (htrn : trn = 0 ∨ trn = 1) :
    (dapSpiSendHeader w byte trn p).2.spi.dataBuf =
      (p.spi.header byte trn).received (4 + trn.toNat) fun i => fromCycle w p (8 + i) := by
  have hlen : (p.spi.header byte trn).misoBitLen.toNat + 1 = 4 + trn.toNat := by
    rcases htrn with rfl | rfl <;> rfl
  rw [dapSpiSendHeader, exchange_eq rfl rfl rfl hlen]
  rfl

theorem dapSpiSendHeader_word (byte : UInt8) {trn : UInt8} (htrn : trn = 0 ∨ trn = 1) {k : Nat}
    (hk : 1 ≤ k) : (dapSpiSendHeader w byte trn p).2.spi.dataBuf[k]? = p.spi.dataBuf[k]? := by
  have hn : 4 + trn.toNat ≤ 32 * k := by
    rcases htrn with rfl | rfl
    · show 4 + 0 ≤ _
      omega
    · show 4 + 1 ≤ _
      omega
  rw [dapSpiSendHeader_dataBuf byte htrn, received_word hn]
  exact Vector.getElem?_set_ne (by omega) (by omega)

/-- The bits of the buffer after a write, with its first word cleared for the idle cycles. -/
def idleBit (p : Port) (data : UInt32) (i : Nat) : Bool :=
  if i < 32 then false
  else if i < 64 then i == 32 && parityOf (bit data) 32
  else p.spi.bufBit i

theorem bit_parity (b : Bool) {i : Nat} (hi : i < 32) :
    bit b.toUInt8.toUInt32 i = (i == 0 && b) := by
  have h : ∀ b : Bool, ∀ i < 32, bit b.toUInt8.toUInt32 i = (i == 0 && b) := by decide
  exact h b i hi

theorem bufBit_idle {spi : Spi} (hzero : spi.dataBuf[0]? = some 0)
    (hone : spi.dataBuf[1]? = some (parityEvenUint32 data).toUInt32)
    (hrest : ∀ k, 2 ≤ k → spi.dataBuf[k]? = p.spi.dataBuf[k]?) (i : Nat) :
    spi.bufBit i = idleBit p data i := by
  have hmod : i % 32 < 32 := Nat.mod_lt i (by omega)
  rw [Spi.bufBit, idleBit]
  split
  next h =>
    rw [show i / 32 = 0 by omega, hzero]
    simp [bit]
  next h =>
    split
    next h' =>
      have hfirst : (i % 32 == 0) = (i == 32) := by
        rw [Bool.eq_iff_iff, beq_iff_eq, beq_iff_eq]
        omega
      rw [show i / 32 = 1 by omega, hone, parityEvenUint32_eq, Option.getD_some,
        bit_parity _ hmod, hfirst]
    next h' =>
      rw [hrest _ (by omega), Spi.bufBit]

def idleBits (p : Port) (data : UInt32) : List (Option Bool) :=
  (List.range (idleCycles p)).map fun i => some (idleBit p data i)

theorem idleBits_low : idleBits p data = List.replicate (idleCycles p) (some false) ↔
    (32 < idleCycles p → parityOf (bit data) 32 = false) ∧
      ∀ i < idleCycles p, 64 ≤ i → p.spi.bufBit i = false := by
  have hlow : idleBits p data = List.replicate (idleCycles p) (some false) ↔
      ∀ i < idleCycles p, idleBit p data i = false := by
    simp [idleBits, List.eq_replicate_iff]
  rw [hlow]
  constructor
  · intro h
    constructor
    · intro hn
      have h32 := h 32 hn
      rw [idleBit, if_neg (by omega), if_pos (by omega)] at h32
      exact h32
    · intro i hi hi'
      have hbit := h i hi
      rwa [idleBit, if_neg (by omega), if_neg (by omega)] at hbit
  · rintro ⟨hpar, hrest⟩ i hi
    rw [idleBit]
    split
    · rfl
    next h =>
      split
      · rw [hpar (by omega), Bool.and_false]
      · exact hrest i hi (by omega)

theorem Clocks.append {r : Port} {m n : Nat} {idle : List (Option Bool)} (hq : Clocks p q m [])
    (hr : Clocks q r n idle) : Clocks p r (m + n) idle := by
  obtain ⟨xs, hm, htrace⟩ := hq
  obtain ⟨ys, hn, htrace'⟩ := hr
  refine ⟨xs ++ ys, ?_, ?_⟩
  · rw [List.length_append, hm, hn]
  · rw [htrace', htrace, List.append_nil, List.append_assoc p.trace]

theorem Clocks.same {n : Nat} {idle : List (Option Bool)} (h : Clocks p q n idle) {r : Port}
    (hr : r.trace = q.trace) : Clocks p r n idle := by
  obtain ⟨xs, hlen, htrace⟩ := h
  exact ⟨xs, hlen, hr.trans htrace⟩

theorem dapSpiSendHeader_clocks (byte : UInt8) {trn : UInt8} (htrn : trn = 0 ∨ trn = 1) :
    Clocks p (dapSpiSendHeader w byte trn p).2 (12 + trn.toNat) [] := by
  obtain ⟨-, htrace, -⟩ := @dapSpiSendHeader_spec w p byte trn htrn
  refine ⟨_, ?_, htrace.trans (List.append_nil _).symm⟩
  rw [List.length_append, List.length_map, bitsOf_length, List.length_replicate]
  omega

theorem spiRead_clocks :
    (accepted (fromCycle w p) = true → Clocks p (spiRead w request stores data p).port 46 []) ∧
    (refused (fromCycle w p) = true → Clocks p (spiRead w request stores data p).port 13 []) ∧
    (accepted (fromCycle w p) = false → refused (fromCycle w p) = false →
      Clocks p (spiRead w request stores data p).port 45 []) := by
  obtain ⟨hack, -, -⟩ := @dapSpiSendHeader_spec w p (requestByte request) 0 (.inl rfl)
  have hstart := @dapSpiSendHeader_clocks w p (requestByte request) 0 (.inl rfl)
  have hheader : dapSpiSendHeader w (requestByte request) 0 p = ((targetAck (fromCycle w p)).toUInt8,
      (dapSpiSendHeader w (requestByte request) 0 p).2) := Prod.ext hack rfl
  generalize (dapSpiSendHeader w (requestByte request) 0 p).2 = q at hheader hstart
  simp only [spiRead, hheader, accepted_toUInt8, refused_toUInt8]
  refine ⟨?_, ?_, ?_⟩
  · intro ha
    obtain ⟨-, -, hread, -⟩ := @dapSpiReadData_spec w q
    rw [if_pos ha]
    refine hstart.append ⟨List.replicate 34 none, List.length_replicate, ?_⟩
    rw [captureTimestamp_trace, hread, List.append_nil]
  · intro hf
    rw [refused_accepted hf, hf]
    exact hstart.append (@dapSpiTransmit_clocks w q _ _)
  · intro ha hf
    rw [ha, hf]
    exact hstart.append ((@dapSpiTransmit_clocks w (pinSwdioTmsSet q) _ _).same rfl)

@[simp] theorem captureTimestamp_spi : (captureTimestamp w request p).spi = p.spi := by
  rw [captureTimestamp]
  split <;> rfl

theorem dapSpiGenerateCycle_trace {n : UInt8} (hn : n ≠ 0) :
    ∃ spi : Spi, spi.dataBuf[0]? = some 0 ∧
      (∀ k, 1 ≤ k → spi.dataBuf[k]? = p.spi.dataBuf[k]?) ∧ (dapSpiGenerateCycle w n p).trace =
      p.trace ++ (List.range n.toNat).map fun i => some (spi.bufBit i) := by
  obtain ⟨⟨spi, hbuf, htrace⟩, -⟩ := @dapSpiTransmit_spec w p (n.toUInt32 - 1)
    (p.spi.dataBuf.set 0 0)
  have hlen : (n.toUInt32 - 1).toNat + 1 = n.toNat := by
    have hpos : n.toNat ≠ 0 := fun h => hn (UInt8.toNat_inj.mp h)
    have hlt : n.toNat < 256 := n.toNat_lt
    rw [UInt32.toNat_sub, UInt8.toNat_toUInt32]
    show (2 ^ 32 - 1 + n.toNat) % 2 ^ 32 + 1 = n.toNat
    omega
  rw [hlen] at htrace
  refine ⟨spi, ?_, ?_, htrace⟩
  · rw [hbuf]
    exact Vector.getElem?_set_self (by omega)
  · intro k hk
    rw [hbuf]
    exact Vector.getElem?_set_ne (by omega) (by omega)

theorem spiWriteOk_clocks (hdap : q.dapData = p.dapData)
    (hword : ∀ k, 1 ≤ k → q.spi.dataBuf[k]? = p.spi.dataBuf[k]?) :
    let r := captureTimestamp w request (dapSpiWriteData w data (parityEvenUint32 data) q)
    Clocks q (if r.dapData.transfer.idleCycles != 0 then
      dapSpiGenerateCycle w r.dapData.transfer.idleCycles r else r) 33 (idleBits p data) := by
  intro r
  have htrace : r.trace = q.trace ++ (dataBits data).map some := by
    rw [captureTimestamp_trace, dapSpiWriteData_trace]
  have hidle : r.dapData.transfer.idleCycles = p.dapData.transfer.idleCycles := by
    rw [captureTimestamp_transfer, ← hdap]
    rfl
  have hbuf : r.spi.dataBuf =
      (q.spi.dataBuf.set 0 data).set 1 (parityEvenUint32 data).toUInt32 := by
    rw [captureTimestamp_spi]
    rfl
  have hone : r.spi.dataBuf[1]? = some (parityEvenUint32 data).toUInt32 := by
    rw [hbuf]
    exact Vector.getElem?_set_self (by omega)
  have hrest : ∀ k, 2 ≤ k → r.spi.dataBuf[k]? = p.spi.dataBuf[k]? := by
    intro k hk
    rw [hbuf, Vector.getElem?_set_ne (by omega) (by omega),
      Vector.getElem?_set_ne (by omega) (by omega), hword k (by omega)]
  refine ⟨(dataBits data).map some, by simp [dataBits], ?_⟩
  rw [hidle]
  by_cases hn : p.dapData.transfer.idleCycles = 0
  · have hnil : idleBits p data = [] := by
      rw [idleBits, idleCycles, hn]
      rfl
    rw [hn, hnil, List.append_nil]
    exact htrace
  · obtain ⟨spi, hzero, hafter, hcycles⟩ := @dapSpiGenerateCycle_trace w r _ hn
    have hbits := @bufBit_idle p data spi hzero ((hafter 1 (by omega)).trans hone)
      (fun k hk => (hafter k (by omega)).trans (hrest k hk))
    rw [if_pos (by simpa using hn), hcycles, htrace]
    simp only [hbits]
    rfl

theorem spiWrite_clocks :
    (accepted (fromCycle w p) = true →
      Clocks p (spiWrite w request data p).port 46 (idleBits p data)) ∧
    (refused (fromCycle w p) = true → Clocks p (spiWrite w request data p).port 13 []) ∧
    (accepted (fromCycle w p) = false → refused (fromCycle w p) = false →
      Clocks p (spiWrite w request data p).port 47 []) := by
  obtain ⟨hack, -, hdap⟩ := @dapSpiSendHeader_spec w p (requestByte request) 1 (.inr rfl)
  have hstart := @dapSpiSendHeader_clocks w p (requestByte request) 1 (.inr rfl)
  have hword : ∀ k, 1 ≤ k → (dapSpiSendHeader w (requestByte request) 1 p).2.spi.dataBuf[k]? =
      p.spi.dataBuf[k]? := fun k hk => dapSpiSendHeader_word _ (.inr rfl) hk
  have hheader : dapSpiSendHeader w (requestByte request) 1 p = ((targetAck (fromCycle w p)).toUInt8,
      (dapSpiSendHeader w (requestByte request) 1 p).2) := Prod.ext hack rfl
  generalize (dapSpiSendHeader w (requestByte request) 1 p).2 = q at hheader hstart hdap hword
  simp only [spiWrite, hheader, accepted_toUInt8, refused_toUInt8]
  refine ⟨?_, ?_, ?_⟩
  · intro ha
    rw [if_pos ha]
    exact (hstart.append (spiWriteOk_clocks hdap hword)).same rfl
  · intro hf
    rw [refused_accepted hf, hf]
    exact hstart
  · intro ha hf
    rw [ha, hf]
    exact hstart.append ((@dapSpiTransmit_clocks w (pinSwdioTmsSet q) _ _).same rfl)

/-- The two paths take the same number of cycles, and SWDIO is low in all configured idle cycles
after an accepted transfer on both. -/
def SameCycles (w : Wires) (p : Port) (request : UInt32) (stores : Bool) (data : UInt32) : Prop :=
  let g := swdTransferGpio w request stores data p
  let s := swdTransferSpi w request stores data p
  g.port.cycle = s.port.cycle ∧
  (accepted (fromCycle w p) = true →
    idlePhase p g.port = List.replicate (idleCycles p) (some false) ∧
    idlePhase p s.port = List.replicate (idleCycles p) (some false))

/-- The word after the data in the SPI buffer holds the parity, and the later words what earlier
transmissions left there: these show in idle cycles past the first 32. -/
def BufferLow (p : Port) (data : UInt32) : Prop :=
  (32 < idleCycles p → parityOf (bit data) 32 = false) ∧
    ∀ i < idleCycles p, 64 ≤ i → p.spi.bufBit i = false

theorem sameCycles_rejected (hturn : p.dapData.swdConf.turnaround = 1)
    (hphase : p.dapData.swdConf.dataPhase = 0) {n : Nat} (hn : n ≠ 46)
    (hsRefused : refused (fromCycle w p) = true →
      Clocks p (swdTransferSpi w request stores data p).port 13 [])
    (hsError : accepted (fromCycle w p) = false → refused (fromCycle w p) = false →
      Clocks p (swdTransferSpi w request stores data p).port n [])
    (ha : accepted (fromCycle w p) = false) :
    SameCycles w p request stores data ↔ refused (fromCycle w p) = true := by
  obtain ⟨-, hgRefused, hgError⟩ := @swdTransferGpio_clocks w p request data stores hturn hphase
  simp only [SameCycles, ha, Bool.false_eq_true, false_implies, and_true]
  cases hf : refused (fromCycle w p) with
  | true =>
      rw [(hgRefused hf).cycle, (hsRefused hf).cycle]
      exact iff_of_true rfl rfl
  | false =>
      rw [(hgError ha hf).cycle, (hsError ha hf).cycle]
      refine iff_of_false ?_ Bool.false_ne_true
      intro hcycle
      simp only [List.length_nil, Nat.add_zero] at hcycle
      omega

theorem sameCycles_read (hturn : p.dapData.swdConf.turnaround = 1)
    (hphase : p.dapData.swdConf.dataPhase = 0) (hr : reads request = true) :
    SameCycles w p request stores data ↔
      refused (fromCycle w p) = true ∨ accepted (fromCycle w p) = true ∧ idleCycles p = 0 := by
  obtain ⟨hgOk, -, -⟩ := @swdTransferGpio_clocks w p request data stores hturn hphase
  obtain ⟨hsOk, hsRefused, hsError⟩ := @spiRead_clocks w p request data stores
  have hs : swdTransferSpi w request stores data p = spiRead w request stores data p := by
    rw [reads] at hr
    rw [swdTransferSpi, if_pos hr]
  rw [← hs] at hsOk hsRefused hsError
  by_cases ha : accepted (fromCycle w p) = true
  · have hf := accepted_not_refused ha
    simp only [SameCycles]
    rw [(hgOk ha).cycle, (hsOk ha).cycle, (hgOk ha).idlePhase_eq, (hsOk ha).idlePhase_eq]
    simp only [List.length_replicate, List.length_nil, ha, hf]
    constructor
    · rintro ⟨hcycle, -⟩
      exact .inr ⟨trivial, by omega⟩
    · rintro (h | ⟨-, h⟩)
      · exact absurd h Bool.false_ne_true
      · rw [h]
        exact ⟨rfl, fun _ => ⟨trivial, rfl⟩⟩
  · rw [Bool.not_eq_true] at ha
    rw [sameCycles_rejected hturn hphase (by decide) hsRefused hsError ha]
    simp [ha]

theorem sameCycles_write (hturn : p.dapData.swdConf.turnaround = 1)
    (hphase : p.dapData.swdConf.dataPhase = 0) (hr : reads request = false) :
    SameCycles w p request stores data ↔
      refused (fromCycle w p) = true ∨ accepted (fromCycle w p) = true ∧ BufferLow p data := by
  obtain ⟨hgOk, -, -⟩ := @swdTransferGpio_clocks w p request data stores hturn hphase
  obtain ⟨hsOk, hsRefused, hsError⟩ := @spiWrite_clocks w p request data
  have hs : swdTransferSpi w request stores data p = spiWrite w request data p := by
    rw [reads] at hr
    rw [swdTransferSpi, hr]
    rfl
  rw [← hs] at hsOk hsRefused hsError
  by_cases ha : accepted (fromCycle w p) = true
  · have hf := accepted_not_refused ha
    have hlen : (idleBits p data).length = idleCycles p := by simp [idleBits]
    simp only [SameCycles]
    rw [(hgOk ha).cycle, (hsOk ha).cycle, (hgOk ha).idlePhase_eq, (hsOk ha).idlePhase_eq,
      List.length_replicate, hlen, idleBits_low]
    simp [ha, hf, BufferLow]
  · rw [Bool.not_eq_true] at ha
    rw [sameCycles_rejected hturn hphase (by decide) hsRefused hsError ha]
    simp [ha]

/-- When a transfer on the SPI path clocks as the GPIO path does: the target answers WAIT or
FAULT; or it accepts a read and no idle cycles are configured; or it accepts a write and the
buffer is low for the idle cycles. -/
theorem sameCycles_iff (w : Wires) (p : Port) (hturn : p.dapData.swdConf.turnaround = 1)
    (hphase : p.dapData.swdConf.dataPhase = 0) (request : UInt32) (stores : Bool) (data : UInt32) :
    SameCycles w p request stores data ↔
      refused (fromCycle w p) = true ∨
      accepted (fromCycle w p) = true ∧
        if reads request then idleCycles p = 0 else BufferLow p data := by
  cases hr : reads request with
  | true => exact sameCycles_read hturn hphase hr
  | false => exact sameCycles_write hturn hphase hr

/-- A write after `DAP_TransferConfigure` with 40 idle cycles, of data with even parity, through a
buffer that holds nothing. -/
theorem sameCycles_idle :
    let d : DapData := { dapSetup .esp32 with
      transfer := { (dapSetup .esp32).transfer with idleCycles := 40 } }
    SameCycles ⟨fun i => i == 9, fun _ => false, fun _ => 0⟩
      ⟨d, [], true, ⟨false, false, false, 0, 0, .replicate 16 0⟩⟩ 0 true 3 := by
  intro d
  apply (sameCycles_iff _ _ rfl rfl 0 true 3).mpr
  refine .inr ⟨by decide, ?_⟩
  show BufferLow _ 3
  refine ⟨fun _ => by decide, ?_⟩
  intro i hi hle
  have hlt : i < 40 := hi
  omega

/-- Without a target SWDIO stays high, and a read takes 45 cycles on the SPI path and 46 on the
GPIO path. -/
theorem not_sameCycles_error : ¬ ∀ (w : Wires) (p : Port), p.dapData.swdConf.turnaround = 1 →
    p.dapData.swdConf.dataPhase = 0 → ∀ (request : UInt32) (stores : Bool) (data : UInt32),
    SameCycles w p request stores data := by
  intro h
  have herror := h ⟨fun _ => true, fun _ => true, fun _ => 0⟩
    ⟨dapSetup .esp32, [], true, ⟨false, false, false, 0, 0, .replicate 16 0⟩⟩ rfl rfl
    DAP_TRANSFER_RnW true 0
  rcases (sameCycles_read rfl rfl rfl).mp herror with hf | ⟨ha, -⟩
  · exact absurd hf (by decide)
  · exact absurd ha (by decide)

end WirelessEsp.SwdCycles
