import WirelessEsp.SwdPieces

namespace WirelessEsp.SwdTransfer

open BitStreams DapTypes SpiOp SwDp

variable {w : Wires} {p : Port}

/-- One turnaround cycle, no data phase after WAIT and FAULT, no idle cycles. -/
structure Plain (d : DapData) : Prop where
  turnaround : d.swdConf.turnaround = 1
  dataPhase : d.swdConf.dataPhase = 0
  idleCycles : d.transfer.idleCycles = 0

def returnedAck (request : UInt32) (s : Nat → Bool) : UInt8 :=
  if reads request && accepted s && parityMismatch s then DAP_TRANSFER_ERROR
  else (targetAck s).toUInt8

def storedData (request : UInt32) (stores : Bool) (data : UInt32) (s : Nat → Bool) : UInt32 :=
  if reads request && accepted s && stores then targetData s else data

/-- The transfer `t` that starts at `p` drives and returns what it should. -/
structure Performs (w : Wires) (request : UInt32) (stores : Bool) (data : UInt32) (p : Port)
    (t : Transfer) : Prop where
  ack : t.ack = returnedAck request (fromCycle w p)
  stored : t.data = storedData request stores data (fromCycle w p)
  requested : p.trace ++ (requestBits request).map some <+: t.port.trace
  written : reads request = false → accepted (fromCycle w p) = true →
    ∃ turn, turn.length = 5 ∧
      p.trace ++ (requestBits request).map some ++ turn ++ (dataBits data).map some <+: t.port.trace

variable {request data : UInt32} {stores : Bool}

theorem Performs.refused {t : Transfer} (ha : accepted (fromCycle w p) = false)
    (hack : t.ack = (targetAck (fromCycle w p)).toUInt8) (hdata : t.data = data)
    (htrace : p.trace ++ (requestBits request).map some <+: t.port.trace) :
    Performs w request stores data p t where
  ack := by simp only [hack, returnedAck, ha, Bool.and_false, Bool.false_and, Bool.false_eq_true,
    if_false]
  stored := by simp only [hdata, storedData, ha, Bool.and_false, Bool.false_and,
    Bool.false_eq_true, if_false]
  requested := htrace
  written := fun _ h => absurd h (by rw [ha]; exact Bool.false_ne_true)

theorem Performs.read {t : Transfer} (ha : accepted (fromCycle w p) = true)
    (hr : reads request = true)
    (hack : t.ack = if parityMismatch (fromCycle w p) then DAP_TRANSFER_ERROR
      else (targetAck (fromCycle w p)).toUInt8)
    (hdata : t.data = if stores then targetData (fromCycle w p) else data)
    (htrace : p.trace ++ (requestBits request).map some <+: t.port.trace) :
    Performs w request stores data p t where
  ack := by rw [hack, returnedAck, ha, hr, Bool.true_and, Bool.true_and]
  stored := by rw [hdata, storedData, ha, hr, Bool.true_and, Bool.true_and]
  requested := htrace
  written := fun h _ => absurd h (by rw [hr]; exact Bool.true_eq_false.mp)

theorem Performs.write {t : Transfer} {turn : List (Option Bool)}
    (hr : reads request = false)
    (hack : t.ack = (targetAck (fromCycle w p)).toUInt8) (hdata : t.data = data)
    (hturn : turn.length = 5)
    (htrace : p.trace ++ (requestBits request).map some ++ turn ++ (dataBits data).map some <+:
      t.port.trace) : Performs w request stores data p t where
  ack := by simp only [hack, returnedAck, hr, Bool.false_and, Bool.false_eq_true, if_false]
  stored := by simp only [hdata, storedData, hr, Bool.false_and, Bool.false_eq_true, if_false]
  requested := by
    rw [List.append_assoc _ turn] at htrace
    exact (List.prefix_append _ _).trans htrace
  written := fun _ _ => ⟨turn, hturn, htrace⟩

theorem prefix_clockCycles (n : Nat) : p.trace <+: (clockCycles n p).trace := by
  rw [clockCycles_eq]
  exact List.prefix_append _ _

@[simp] theorem captureTimestamp_trace : (captureTimestamp w request p).trace = p.trace := by
  rw [captureTimestamp]
  split <;> rfl

@[simp] theorem captureTimestamp_transfer :
    (captureTimestamp w request p).dapData.transfer = p.dapData.transfer := by
  rw [captureTimestamp]
  split <;> rfl

theorem turnaround_eq (hp : p.dapData.swdConf.turnaround = 1) :
    turnaround p = p.drive [some p.level] := by
  rw [turnaround, hp, clockCycles_eq]
  rfl

theorem gpioIdle_eq (hp : p.dapData.transfer.idleCycles = 0) : gpioIdle p = p := by
  rw [gpioIdle, hp]
  rfl

theorem gpioHeader_eq (hp : p.dapData.swdConf.turnaround = 1) :
    gpioAck w (turnaround (pinSwdioOutDisable (gpioRequest request p))) =
      (targetAck (fromCycle w p), (setLevel true p).drive
        ((requestBits request).map some ++ List.replicate 4 (some true))) := by
  have hturn : (pinSwdioOutDisable (gpioRequest request p)).dapData.swdConf.turnaround = 1 := by
    rw [gpioRequest_eq]
    exact hp
  rw [turnaround_eq hturn, gpioRequest_eq, gpioAck_eq]
  simp only [pinSwdioOutDisable, setLevel_drive, setLevel_setLevel, drive_drive, drive_level,
    setLevel_level, drive_cycle, setLevel_cycle, List.append_assoc]
  rfl

theorem gpioRead_spec (hp : p.dapData.swdConf.turnaround = 1) (ack : UInt32) :
    (gpioRead w ack stores data p).1 =
      (if parityOf (fromCycle w p) 32 != fromCycle w p 32 then DAP_TRANSFER_ERROR.toUInt32
        else ack) ∧
    (gpioRead w ack stores data p).2.1 = (if stores then ofBits (fromCycle w p) else data) ∧
    (gpioRead w ack stores data p).2.2 = p.drive (List.replicate 34 (some p.level)) := by
  obtain ⟨parity, heq, hpar⟩ := @gpioReadBits_word w p
  have hlast : bit (pinSwdioIn w (p.drive (List.replicate 32 (some p.level)))) 0 =
      fromCycle w p 32 := by
    rw [pinSwdioIn, bit_toUInt32, drive_cycle]
    rfl
  have hturn : (swClockCycle (p.drive (List.replicate 32 (some p.level)))).dapData.swdConf.turnaround
      = 1 := hp
  refine ⟨?_, ?_, ?_⟩
  · simp only [gpioRead, heq, swReadBit, and_one_bne, bit_xor, hpar, hlast]
  · simp only [gpioRead, heq]
  · simp only [gpioRead, heq, swReadBit]
    rw [turnaround_eq hturn, swClockCycle, drive_drive, drive_drive, drive_level, drive_level]
    rfl

theorem gpioWrite_trace (hp : p.dapData.swdConf.turnaround = 1) :
    (gpioWrite data p).trace = p.trace ++ [some p.level] ++ (dataBits data).map some ∧
      (gpioWrite data p).dapData = p.dapData := by
  obtain ⟨htrace, hdap, hpar⟩ := @gpioWriteBits_spec (p.drive [some p.level]) 32 data 0
  have hzero : bit 0 0 = false := by decide
  rw [hzero, Bool.false_xor] at hpar
  simp only [gpioWrite, turnaround_eq hp, swWriteBit_eq]
  refine ⟨?_, ?_⟩
  · rw [drive_trace, setLevel_trace, htrace, hpar, drive_trace, dataBits]
    simp
  · rw [drive_dapData, setLevel_dapData, hdap]
    rfl

theorem finish_trace (hp : p.dapData.transfer.idleCycles = 0) :
    (pinSwdioOut 1 (gpioIdle (captureTimestamp w request p))).trace = p.trace := by
  rw [gpioIdle_eq (by rw [captureTimestamp_transfer, hp])]
  exact captureTimestamp_trace

theorem gpioOk_read (hp : Plain p.dapData) (hr : reads request = true) (ack : UInt32) :
    (gpioOk w request ack stores data p).ack =
      (if parityOf (fromCycle w p) 32 != fromCycle w p 32 then DAP_TRANSFER_ERROR
        else ack.toUInt8) ∧
    (gpioOk w request ack stores data p).data = (if stores then ofBits (fromCycle w p) else data) ∧
    p.trace <+: (gpioOk w request ack stores data p).port.trace := by
  obtain ⟨hack, hdata, hport⟩ := @gpioRead_spec w p data stores hp.turnaround ack
  rw [reads] at hr
  simp only [gpioOk, hr, if_true]
  refine ⟨?_, hdata, ?_⟩
  · rw [hack]
    split <;> rfl
  · rw [finish_trace (by rw [hport]; exact hp.idleCycles), hport]
    exact List.prefix_append _ _

theorem gpioOk_write (hp : Plain p.dapData) (hr : reads request = false) (ack : UInt32) :
    (gpioOk w request ack stores data p).ack = ack.toUInt8 ∧
    (gpioOk w request ack stores data p).data = data ∧
    (gpioOk w request ack stores data p).port.trace =
      p.trace ++ [some p.level] ++ (dataBits data).map some := by
  obtain ⟨htrace, hdap⟩ := @gpioWrite_trace p data hp.turnaround
  rw [reads] at hr
  simp only [gpioOk, hr, Bool.false_eq_true, if_false]
  refine ⟨trivial, trivial, ?_⟩
  rw [finish_trace (by rw [hdap]; exact hp.idleCycles), htrace]

theorem prefix_dummyRead : p.trace <+: (dummyRead request p).trace := by
  rw [dummyRead]
  split
  · exact prefix_clockCycles _
  · exact List.prefix_refl _

theorem prefix_dummyWrite : p.trace <+: (dummyWrite request p).trace := by
  rw [dummyWrite]
  split
  · exact @prefix_clockCycles (pinSwdioOut 0 p) _
  · exact List.prefix_refl _

theorem gpioWaitOrFault_spec (ack : UInt32) :
    (gpioWaitOrFault request ack data p).ack = ack.toUInt8 ∧
    (gpioWaitOrFault request ack data p).data = data ∧
    p.trace <+: (gpioWaitOrFault request ack data p).port.trace := by
  have hturn : (dummyRead request p).trace <+: (turnaround (dummyRead request p)).trace :=
    prefix_clockCycles _
  exact ⟨rfl, rfl, prefix_dummyRead.trans (hturn.trans prefix_dummyWrite)⟩

theorem gpioProtocolError_spec (ack : UInt32) :
    (gpioProtocolError ack data p).ack = ack.toUInt8 ∧
    (gpioProtocolError ack data p).data = data ∧
    p.trace <+: (gpioProtocolError ack data p).port.trace :=
  ⟨rfl, rfl, prefix_clockCycles _⟩

theorem swdTransferGpio_performs (hp : Plain p.dapData) :
    Performs w request stores data p (swdTransferGpio w request stores data p) := by
  have hheader := @gpioHeader_eq w p request hp.turnaround
  have hcycle : fromCycle w ((setLevel true p).drive
      ((requestBits request).map some ++ List.replicate 4 (some true))) =
      fun i => fromCycle w p (12 + i) := fromCycle_add (drive_cycle _)
  generalize hq : (setLevel true p).drive
    ((requestBits request).map some ++ List.replicate 4 (some true)) = q at hheader hcycle
  have hplain : Plain q.dapData := by rw [← hq]; exact hp
  have htrace : q.trace = p.trace ++ (requestBits request).map some ++
      List.replicate 4 (some true) := by
    rw [← hq, List.append_assoc]
    rfl
  have hstart : p.trace ++ (requestBits request).map some <+: q.trace := by
    rw [htrace]
    exact List.prefix_append _ _
  simp only [swdTransferGpio, hheader]
  by_cases hok : accepted (fromCycle w p) = true
  · have hack : (targetAck (fromCycle w p) == DAP_TRANSFER_OK.toUInt32) = true := hok
    rw [if_pos hack]
    cases hr : reads request with
    | true =>
        obtain ⟨ha, hd, hpre⟩ := gpioOk_read hplain hr (targetAck (fromCycle w p))
        rw [hcycle] at ha hd
        exact .read hok hr ha hd (hstart.trans hpre)
    | false =>
        obtain ⟨ha, hd, hpre⟩ := gpioOk_write hplain hr (targetAck (fromCycle w p))
        have hturn : (List.replicate 4 (some true) ++ [some q.level]).length = 5 := rfl
        refine .write hr ha hd hturn ⟨[], ?_⟩
        rw [hpre, htrace, ← List.append_assoc, List.append_nil]
  · have hack : ¬ (targetAck (fromCycle w p) == DAP_TRANSFER_OK.toUInt32) = true := hok
    rw [if_neg hack]
    rw [Bool.not_eq_true] at hok
    split
    · obtain ⟨ha, hd, hpre⟩ := gpioWaitOrFault_spec (targetAck (fromCycle w p))
      exact .refused hok ha hd (hstart.trans hpre)
    · obtain ⟨ha, hd, hpre⟩ := gpioProtocolError_spec (targetAck (fromCycle w p))
      exact .refused hok ha hd (hstart.trans hpre)

theorem accepted_toUInt8 (s : Nat → Bool) :
    ((targetAck s).toUInt8 == DAP_TRANSFER_OK) = accepted s := by
  have h : ∀ a b c : Bool, ((nibble a b c false).toUInt8 == DAP_TRANSFER_OK) =
      (nibble a b c false == DAP_TRANSFER_OK.toUInt32) := by decide
  exact h _ _ _

theorem prefix_dapSpiTransmit (bitLen : UInt32) (buf : Vector UInt32 16) :
    p.trace <+: (dapSpiTransmit w bitLen buf p).trace :=
  List.prefix_append _ _

theorem spiRead_performs (hr : reads request = true) :
    Performs w request stores data p (spiRead w request stores data p) := by
  obtain ⟨hack, htrace, -⟩ := @dapSpiSendHeader_spec w p (requestByte request) 0 (.inl rfl)
  rw [requestByte_bits, ← List.append_assoc] at htrace
  have hheader : dapSpiSendHeader w (requestByte request) 0 p = ((targetAck (fromCycle w p)).toUInt8,
      (dapSpiSendHeader w (requestByte request) 0 p).2) := Prod.ext hack rfl
  generalize (dapSpiSendHeader w (requestByte request) 0 p).2 = q at hheader htrace
  have hlen : q.cycle = p.cycle + 12 := by
    rw [Port.cycle, htrace, List.length_append, List.length_append]
    rfl
  have hcycle : fromCycle w q = fun i => fromCycle w p (12 + i) := fromCycle_add hlen
  have hstart : p.trace ++ (requestBits request).map some <+: q.trace := by
    rw [htrace]
    exact List.prefix_append _ _
  simp only [spiRead, hheader, accepted_toUInt8]
  by_cases hok : accepted (fromCycle w p) = true
  · obtain ⟨hval, hpar, hread, -⟩ := @dapSpiReadData_spec w q
    have hmis : ∀ a b : Bool, ((a.toUInt8 ^^^ b.toUInt8) &&& 1 != 0) = (a != b) := by decide
    rw [if_pos hok]
    refine .read hok hr ?_ ?_ ?_
    · rw [hpar, hval, parityEvenUint32_eq, parityOf_ofBits, hmis, hcycle]
      rfl
    · rw [hval, hcycle]
      rfl
    · rw [captureTimestamp_trace, hread]
      exact hstart.trans (List.prefix_append _ _)
  · rw [if_neg hok]
    rw [Bool.not_eq_true] at hok
    split
    · exact .refused hok rfl rfl (hstart.trans (@prefix_dapSpiTransmit w q _ _))
    · exact .refused hok rfl rfl (hstart.trans (@prefix_dapSpiTransmit w (pinSwdioTmsSet q) _ _))

theorem spiWrite_performs (hp : Plain p.dapData) (hr : reads request = false) :
    Performs w request stores data p (spiWrite w request data p) := by
  obtain ⟨hack, htrace, hdap⟩ := @dapSpiSendHeader_spec w p (requestByte request) 1 (.inr rfl)
  rw [requestByte_bits, ← List.append_assoc] at htrace
  have hheader : dapSpiSendHeader w (requestByte request) 1 p = ((targetAck (fromCycle w p)).toUInt8,
      (dapSpiSendHeader w (requestByte request) 1 p).2) := Prod.ext hack rfl
  generalize (dapSpiSendHeader w (requestByte request) 1 p).2 = q at hheader htrace hdap
  have hstart : p.trace ++ (requestBits request).map some <+: q.trace := by
    rw [htrace]
    exact List.prefix_append _ _
  simp only [spiWrite, hheader, accepted_toUInt8]
  by_cases hok : accepted (fromCycle w p) = true
  · have hidle : (captureTimestamp w request
        (dapSpiWriteData w data (parityEvenUint32 data) q)).dapData.transfer.idleCycles = 0 := by
      rw [captureTimestamp_transfer]
      exact hdap ▸ hp.idleCycles
    rw [if_pos hok, hidle]
    have hturn : (List.replicate (4 + (1 : UInt8).toNat) (none : Option Bool)).length = 5 := rfl
    refine .write hr rfl rfl hturn ⟨[], ?_⟩
    show _ = (captureTimestamp w request _).trace
    rw [captureTimestamp_trace, dapSpiWriteData_trace, htrace, List.append_nil]
  · rw [if_neg hok]
    rw [Bool.not_eq_true] at hok
    split
    · exact .refused hok rfl rfl hstart
    · exact .refused hok rfl rfl (hstart.trans (@prefix_dapSpiTransmit w (pinSwdioTmsSet q) _ _))

theorem swdTransferSpi_performs (hp : Plain p.dapData) :
    Performs w request stores data p (swdTransferSpi w request stores data p) := by
  rw [swdTransferSpi]
  cases hr : reads request with
  | true =>
      rw [reads] at hr
      rw [if_pos hr]
      exact spiRead_performs hr
  | false =>
      rw [reads] at hr
      rw [hr]
      exact spiWrite_performs hp hr

theorem requestPhase_trace {q : Port} {xs : List (Option Bool)} (hlen : xs.length = 8)
    (h : p.trace ++ xs <+: q.trace) : requestPhase p q = xs := by
  obtain ⟨rest, hrest⟩ := h
  rw [requestPhase, ← hrest, List.append_assoc, Port.cycle, List.drop_left, List.take_left' hlen]

theorem writePhase_trace {q : Port} {xs turn ys : List (Option Bool)} (hlen : xs.length = 8)
    (hturn : turn.length = 5) (hys : ys.length = 33) (h : p.trace ++ xs ++ turn ++ ys <+: q.trace) :
    writePhase p q = ys := by
  obtain ⟨rest, hrest⟩ := h
  have hstart : (p.trace ++ xs ++ turn).length = p.cycle + 13 := by
    rw [List.length_append, List.length_append, hlen, hturn]
    rfl
  rw [writePhase, ← hrest, ← hstart, List.append_assoc _ ys, List.drop_left, List.take_left' hys]

theorem returnedAck_error (request : UInt32) (s : Nat → Bool) :
    returnedAck request s = DAP_TRANSFER_ERROR ↔
      reads request = true ∧ accepted s = true ∧ parityMismatch s = true := by
  have h : ∀ a b c : Bool, (nibble a b c false).toUInt8 ≠ DAP_TRANSFER_ERROR := by decide
  rw [returnedAck]
  split
  next hc => simpa [and_assoc] using hc
  next hc =>
    constructor
    · intro heq
      exact absurd heq (h _ _ _)
    · rintro ⟨hr, ha, hm⟩
      rw [hr, ha, hm] at hc
      exact absurd rfl hc

/-- The SPI path and the GPIO path are the same transfer: they drive the same request, the same
data and parity after an accepted write, return the same acknowledge, which is an error exactly
when the parity of the data read is wrong, and store the same data. -/
theorem swdTransfer_agree (w : Wires) (p : Port) (hp : Plain p.dapData) (request : UInt32)
    (stores : Bool) (data : UInt32) :
    let g := swdTransferGpio w request stores data p
    let s := swdTransferSpi w request stores data p
    requestPhase p g.port = requestPhase p s.port ∧
    (reads request = false → accepted (fromCycle w p) = true →
      writePhase p g.port = writePhase p s.port) ∧
    g.ack = s.ack ∧ g.data = s.data ∧
    (s.ack = DAP_TRANSFER_ERROR ↔ reads request = true ∧ accepted (fromCycle w p) = true ∧
      parityMismatch (fromCycle w p) = true) := by
  intro g s
  have hg : Performs w request stores data p g := swdTransferGpio_performs hp
  have hs : Performs w request stores data p s := swdTransferSpi_performs hp
  have hreq : ((requestBits request).map some).length = 8 := rfl
  have hdata : ((dataBits data).map some).length = 33 := by simp [dataBits]
  refine ⟨?_, ?_, hg.ack.trans hs.ack.symm, hg.stored.trans hs.stored.symm, ?_⟩
  · rw [requestPhase_trace hreq hg.requested, requestPhase_trace hreq hs.requested]
  · intro hr ha
    obtain ⟨_, hturn, htrace⟩ := hg.written hr ha
    obtain ⟨_, hturn', htrace'⟩ := hs.written hr ha
    rw [writePhase_trace hreq hturn hdata htrace, writePhase_trace hreq hturn' hdata htrace']
  · rw [hs.ack]
    exact returnedAck_error request _

/-- A read that the target accepts, with all data bits low and a wrong parity bit. -/
theorem swdTransfer_agree_parity :
    let w : Wires := ⟨fun i => i == 9 || i == 44, fun _ => false, fun _ => 0⟩
    let p : Port := ⟨dapSetup .esp32, [], true, ⟨false, false, false, 0, 0, .replicate 16 0⟩⟩
    (swdTransferGpio w DAP_TRANSFER_RnW true 0 p).ack = DAP_TRANSFER_ERROR ∧
      (swdTransferSpi w DAP_TRANSFER_RnW true 0 p).ack = DAP_TRANSFER_ERROR := by
  intro w p
  obtain ⟨-, -, hack, -, herror⟩ := swdTransfer_agree w p ⟨rfl, rfl, rfl⟩ DAP_TRANSFER_RnW true 0
  have hs := herror.mpr ⟨by decide, by decide, by decide⟩
  exact ⟨hack.trans hs, hs⟩

end WirelessEsp.SwdTransfer
