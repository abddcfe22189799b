import WirelessEsp.SwdCycles

namespace WirelessEsp.SwdFrames

open BitStreams DapTypes SpiOp SwDp SwdTransfer SwdCycles

variable {w : Wires} {p q : Port} {request data : UInt32} {stores : Bool}

def ackAt (s : Nat → Bool) (k : Nat) : UInt32 := nibble (s k) (s (k + 1)) (s (k + 2)) false

/-- What the probe leaves on SWDIO in a cycle of the target, and what it drives after the
acknowledge. -/
structure Path where
  released : Option Bool
  tail : UInt32 → List (Option Bool)

def Path.cycles (path : Path) (turn : Nat) (request ack : UInt32) : List (Option Bool) :=
  (requestBits request).map some ++ .replicate (turn + 3) path.released ++ path.tail ack

/-- A transfer with `turn` cycles in a turnaround drives these cycles, and returns and stores what
the target says in them. -/
structure Carries (w : Wires) (path : Path) (turn : Nat) (request : UInt32) (stores : Bool)
    (data : UInt32) (p : Port) (t : Transfer) : Prop where
  trace : t.port.trace = p.trace ++ path.cycles turn request (ackAt (fromCycle w p) (8 + turn))
  refused : ackAt (fromCycle w p) (8 + turn) ≠ DAP_TRANSFER_OK.toUInt32 →
    t.ack = (ackAt (fromCycle w p) (8 + turn)).toUInt8 ∧ t.data = data ∧
      t.port.dapData.timestamp = p.dapData.timestamp
  stamped : ackAt (fromCycle w p) (8 + turn) = DAP_TRANSFER_OK.toUInt32 →
    t.port.dapData.timestamp = if request &&& DAP_TRANSFER_TIMESTAMP != 0 then
      w.timer (p.cycle + (8 + (turn + 3) + (33 + turn))) else p.dapData.timestamp
  read : ackAt (fromCycle w p) (8 + turn) = DAP_TRANSFER_OK.toUInt32 → reads request = true →
    let s := fun i => fromCycle w p (8 + (turn + 3) + i)
    t.ack = (if parityOf s 32 != s 32 then DAP_TRANSFER_ERROR else DAP_TRANSFER_OK) ∧
      t.data = if stores then ofBits s else data
  written : ackAt (fromCycle w p) (8 + turn) = DAP_TRANSFER_OK.toUInt32 → reads request = false →
    t.ack = DAP_TRANSFER_OK ∧ t.data = data

theorem Carries.of_read {path : Path} {turn : Nat} {t : Transfer}
    (hok : ackAt (fromCycle w p) (8 + turn) = DAP_TRANSFER_OK.toUInt32) (hr : reads request = true)
    (htrace : t.port.trace = p.trace ++ path.cycles turn request DAP_TRANSFER_OK.toUInt32)
    (hack : t.ack = if parityOf (fun i => fromCycle w p (8 + (turn + 3) + i)) 32 !=
      fromCycle w p (8 + (turn + 3) + 32) then DAP_TRANSFER_ERROR else DAP_TRANSFER_OK)
    (hdata : t.data = if stores then ofBits fun i => fromCycle w p (8 + (turn + 3) + i) else data)
    (hstamp : t.port.dapData.timestamp = if request &&& DAP_TRANSFER_TIMESTAMP != 0 then
      w.timer (p.cycle + (8 + (turn + 3) + (33 + turn))) else p.dapData.timestamp) :
    Carries w path turn request stores data p t where
  trace := by rw [htrace, hok]
  refused := fun h => absurd hok h
  stamped := fun _ => hstamp
  read := fun _ _ => ⟨hack, hdata⟩
  written := fun _ h => absurd (hr.symm.trans h) Bool.true_eq_false.mp

theorem Carries.of_write {path : Path} {turn : Nat} {t : Transfer}
    (hok : ackAt (fromCycle w p) (8 + turn) = DAP_TRANSFER_OK.toUInt32) (hr : reads request = false)
    (htrace : t.port.trace = p.trace ++ path.cycles turn request DAP_TRANSFER_OK.toUInt32)
    (hack : t.ack = DAP_TRANSFER_OK) (hdata : t.data = data)
    (hstamp : t.port.dapData.timestamp = if request &&& DAP_TRANSFER_TIMESTAMP != 0 then
      w.timer (p.cycle + (8 + (turn + 3) + (33 + turn))) else p.dapData.timestamp) :
    Carries w path turn request stores data p t where
  trace := by rw [htrace, hok]
  refused := fun h => absurd hok h
  stamped := fun _ => hstamp
  read := fun _ h => absurd (h.symm.trans hr) Bool.true_eq_false.mp
  written := fun _ _ => ⟨hack, hdata⟩

theorem Carries.of_refused {path : Path} {turn : Nat} {t : Transfer}
    (hno : ackAt (fromCycle w p) (8 + turn) ≠ DAP_TRANSFER_OK.toUInt32)
    (htrace : t.port.trace =
      p.trace ++ path.cycles turn request (ackAt (fromCycle w p) (8 + turn)))
    (hack : t.ack = (ackAt (fromCycle w p) (8 + turn)).toUInt8) (hdata : t.data = data)
    (hstamp : t.port.dapData.timestamp = p.dapData.timestamp) :
    Carries w path turn request stores data p t where
  trace := htrace
  refused := fun _ => ⟨hack, hdata, hstamp⟩
  stamped := fun h => absurd h hno
  read := fun h => absurd h hno
  written := fun h => absurd h hno

def gpioPath (d : DapData) (request data : UInt32) : Path where
  released := some true
  tail := fun ack =>
    let turn := d.swdConf.turnaround.toNat
    let idle := .replicate d.transfer.idleCycles.toNat (some false)
    if ack = DAP_TRANSFER_OK.toUInt32 then
      if reads request then .replicate (33 + turn) (some true) ++ idle
      else .replicate turn (some true) ++ (dataBits data).map some ++ idle
    else if ack = DAP_TRANSFER_WAIT.toUInt32 ∨ ack = DAP_TRANSFER_FAULT.toUInt32 then
      if d.swdConf.dataPhase = 0 then .replicate turn (some true)
      else if reads request then .replicate (33 + turn) (some true)
      else .replicate turn (some true) ++ .replicate 33 (some false)
    else .replicate (turn + 33) (some true)

theorem turnaround_drive : turnaround p =
    p.drive (.replicate p.dapData.swdConf.turnaround.toNat (some p.level)) := clockCycles_eq _

theorem gpioHeader_drive : gpioAck w (turnaround (pinSwdioOutDisable (gpioRequest request p))) =
    (ackAt (fromCycle w p) (8 + p.dapData.swdConf.turnaround.toNat), (setLevel true p).drive
      ((requestBits request).map some ++
        .replicate (p.dapData.swdConf.turnaround.toNat + 3) (some true))) := by
  rw [turnaround_drive, gpioRequest_eq, gpioAck_eq]
  simp only [pinSwdioOutDisable, setLevel_drive, setLevel_setLevel, drive_drive, drive_level,
    setLevel_level, drive_cycle, setLevel_cycle, drive_dapData, setLevel_dapData, List.append_assoc,
    List.length_append, List.length_map, List.length_replicate, ← List.replicate_add]
  rfl

theorem gpioRead_drive (ack : UInt32) :
    (gpioRead w ack stores data p).1 =
      (if parityOf (fromCycle w p) 32 != fromCycle w p 32 then DAP_TRANSFER_ERROR.toUInt32
        else ack) ∧
    (gpioRead w ack stores data p).2.1 = (if stores then ofBits (fromCycle w p) else data) ∧
    (gpioRead w ack stores data p).2.2 =
      p.drive (.replicate (33 + p.dapData.swdConf.turnaround.toNat) (some p.level)) := by
  obtain ⟨parity, heq, hpar⟩ := @gpioReadBits_word w p
  have hlast : bit (pinSwdioIn w (p.drive (List.replicate 32 (some p.level)))) 0 =
      fromCycle w p 32 := by
    rw [pinSwdioIn, bit_toUInt32, drive_cycle]
    rfl
  refine ⟨?_, ?_, ?_⟩
  · simp only [gpioRead, heq, swReadBit, and_one_bne, bit_xor, hpar, hlast]
  · simp only [gpioRead, heq]
  · simp only [gpioRead, heq, swReadBit]
    rw [turnaround_drive, swClockCycle, drive_drive, drive_drive, drive_level, drive_level,
      drive_dapData, List.replicate_add]
    rfl

theorem gpioWrite_drive : (gpioWrite data p).trace = p.trace ++
      (.replicate p.dapData.swdConf.turnaround.toNat (some p.level) ++ (dataBits data).map some) ∧
    (gpioWrite data p).dapData = p.dapData := by
  have hzero : bit 0 0 = false := by decide
  simp only [gpioWrite, turnaround_drive, swWriteBit_eq]
  obtain ⟨htrace, hdap, hpar⟩ := @gpioWriteBits_spec
    (p.drive (.replicate p.dapData.swdConf.turnaround.toNat (some p.level))) 32 data 0
  rw [hzero, Bool.false_xor] at hpar
  refine ⟨?_, ?_⟩
  · rw [drive_trace, setLevel_trace, htrace, hpar, drive_trace, dataBits]
    simp
  · rw [drive_dapData, setLevel_dapData, hdap]
    rfl

theorem gpioIdle_timestamp : (gpioIdle p).dapData.timestamp = p.dapData.timestamp := by
  rw [gpioIdle]
  split
  · rw [clockCycles_eq]
    rfl
  · rfl

theorem captureTimestamp_timestamp :
    (captureTimestamp w request p).dapData.timestamp =
      if request &&& DAP_TRANSFER_TIMESTAMP != 0 then w.timer p.cycle else p.dapData.timestamp := by
  rw [captureTimestamp]
  split <;> rfl

theorem finish_timestamp :
    (pinSwdioOut 1 (gpioIdle (captureTimestamp w request p))).dapData.timestamp =
      if request &&& DAP_TRANSFER_TIMESTAMP != 0 then w.timer p.cycle else p.dapData.timestamp :=
  gpioIdle_timestamp.trans captureTimestamp_timestamp

theorem gpioOk_read_frame (hr : reads request = true) (ack : UInt32) :
    (gpioOk w request ack stores data p).ack =
      (if parityOf (fromCycle w p) 32 != fromCycle w p 32 then DAP_TRANSFER_ERROR
        else ack.toUInt8) ∧
    (gpioOk w request ack stores data p).data = (if stores then ofBits (fromCycle w p) else data) ∧
    (gpioOk w request ack stores data p).port.trace = p.trace ++
      (.replicate (33 + p.dapData.swdConf.turnaround.toNat) (some p.level) ++
        .replicate (idleCycles p) (some false)) ∧
    (gpioOk w request ack stores data p).port.dapData.timestamp =
      if request &&& DAP_TRANSFER_TIMESTAMP != 0 then
        w.timer (p.cycle + (33 + p.dapData.swdConf.turnaround.toNat)) else p.dapData.timestamp := by
  obtain ⟨hack, hdata, hport⟩ := @gpioRead_drive w p data stores ack
  rw [reads] at hr
  simp only [gpioOk, hr, if_true]
  refine ⟨?_, hdata, ?_, ?_⟩
  · rw [hack]
    split <;> rfl
  · rw [finish_idle, hport, drive_trace, idleCycles, drive_dapData, ← idleCycles, List.append_assoc]
  · rw [finish_timestamp, hport, drive_cycle, List.length_replicate]
    rfl

theorem gpioOk_write_frame (hr : reads request = false) (ack : UInt32) :
    (gpioOk w request ack stores data p).ack = ack.toUInt8 ∧
    (gpioOk w request ack stores data p).data = data ∧
    (gpioOk w request ack stores data p).port.trace = p.trace ++
      (.replicate p.dapData.swdConf.turnaround.toNat (some p.level) ++ (dataBits data).map some ++
        .replicate (idleCycles p) (some false)) ∧
    (gpioOk w request ack stores data p).port.dapData.timestamp =
      if request &&& DAP_TRANSFER_TIMESTAMP != 0 then
        w.timer (p.cycle + (33 + p.dapData.swdConf.turnaround.toNat)) else p.dapData.timestamp := by
  obtain ⟨htrace, hdap⟩ := @gpioWrite_drive p data
  have hcycle : (gpioWrite data p).cycle = p.cycle + (33 + p.dapData.swdConf.turnaround.toNat) := by
    rw [Port.cycle, htrace, dataBits]
    simp only [List.length_append, List.length_replicate, List.length_map, bitsOf_length,
      List.length_singleton, Port.cycle]
    omega
  rw [reads] at hr
  simp only [gpioOk, hr, Bool.false_eq_true, if_false]
  refine ⟨trivial, trivial, ?_, ?_⟩
  · rw [finish_idle, htrace, idleCycles, hdap, ← idleCycles]
    simp only [List.append_assoc]
  · rw [finish_timestamp, hcycle, hdap]

theorem dummyRead_drive : dummyRead request p =
    p.drive (if p.dapData.swdConf.dataPhase = 0 ∨ reads request = false then []
      else .replicate 33 (some p.level)) := by
  rw [dummyRead, ← reads, clockCycles_eq]
  by_cases hzero : p.dapData.swdConf.dataPhase = 0
  · simp [hzero, Port.drive]
  · cases reads request <;> simp [hzero, Port.drive]

theorem dummyWrite_drive : (dummyWrite request p).trace = p.trace ++
      (if p.dapData.swdConf.dataPhase = 0 ∨ reads request = true then []
        else .replicate 33 (some false)) ∧
    (dummyWrite request p).dapData = p.dapData := by
  have hwrites : (request &&& DAP_TRANSFER_RnW == 0) = !reads request := by
    rw [reads, bne, Bool.not_not]
  rw [dummyWrite, hwrites, clockCycles_eq]
  by_cases hzero : p.dapData.swdConf.dataPhase = 0
  · simp [hzero]
  · cases reads request
    · simp only [hzero, bne, beq_eq_false_iff_ne.mpr hzero]
      exact ⟨rfl, rfl⟩
    · simp

theorem gpioWaitOrFault_frame (ack : UInt32) :
    (gpioWaitOrFault request ack data p).ack = ack.toUInt8 ∧
    (gpioWaitOrFault request ack data p).data = data ∧
    (gpioWaitOrFault request ack data p).port.dapData = p.dapData ∧
    (gpioWaitOrFault request ack data p).port.trace = p.trace ++
      if p.dapData.swdConf.dataPhase = 0 then
        .replicate p.dapData.swdConf.turnaround.toNat (some p.level)
      else if reads request then
        .replicate (33 + p.dapData.swdConf.turnaround.toNat) (some p.level)
      else .replicate p.dapData.swdConf.turnaround.toNat (some p.level) ++
        .replicate 33 (some false) := by
  have hphase : (dummyRead request p).dapData = p.dapData := by
    rw [dummyRead_drive]
    rfl
  have hlevel : (dummyRead request p).level = p.level := by
    rw [dummyRead_drive]
    rfl
  have hturn := @turnaround_drive (dummyRead request p)
  rw [hphase, hlevel] at hturn
  obtain ⟨htrace, hdap⟩ := @dummyWrite_drive (turnaround (dummyRead request p)) request
  refine ⟨rfl, rfl, ?_, ?_⟩
  · show (dummyWrite request _).dapData = _
    rw [hdap, hturn, drive_dapData, hphase]
  · show (dummyWrite request _).trace = _
    rw [htrace, hturn, drive_dapData, drive_trace, hphase, dummyRead_drive, drive_trace]
    by_cases hzero : p.dapData.swdConf.dataPhase = 0
    · simp only [hzero, true_or, if_true, List.append_nil]
    · cases hr : reads request with
      | true => simp only [hzero, false_or, Bool.true_eq_false, if_false, if_true, List.append_nil,
          List.append_assoc, List.replicate_add]
      | false => simp [hzero]

theorem swdTransferGpio_carries :
    Carries w (gpioPath p.dapData request data) p.dapData.swdConf.turnaround.toNat request stores
      data p (swdTransferGpio w request stores data p) := by
  have hheader := @gpioHeader_drive w p request
  generalize hturn : p.dapData.swdConf.turnaround.toNat = turn at hheader
  generalize hack : ackAt (fromCycle w p) (8 + turn) = ack at hheader
  have hcycle : ((setLevel true p).drive ((requestBits request).map some ++
      .replicate (turn + 3) (some true))).cycle = p.cycle + (8 + (turn + 3)) := by
    rw [drive_cycle, List.length_append, List.length_map, List.length_replicate]
    rfl
  have hfrom := @fromCycle_add w _ _ _ hcycle
  generalize hq : (setLevel true p).drive
    ((requestBits request).map some ++ .replicate (turn + 3) (some true)) = q at hheader hcycle hfrom
  have hdap : q.dapData = p.dapData := by rw [← hq]; rfl
  have hlevel : q.level = true := by rw [← hq]; rfl
  have htrace : q.trace = p.trace ++ ((requestBits request).map some ++
      .replicate (turn + 3) (some true)) := by rw [← hq]; rfl
  have hconf : q.dapData.swdConf.turnaround.toNat = turn := by rw [hdap, hturn]
  have hidle : idleCycles q = p.dapData.transfer.idleCycles.toNat := by rw [idleCycles, hdap]
  simp only [swdTransferGpio, hheader]
  by_cases hok : ack = DAP_TRANSFER_OK.toUInt32
  · rw [if_pos (by rw [hok]; rfl)]
    have hpath : (gpioPath p.dapData request data).cycles turn request ack =
        (requestBits request).map some ++ .replicate (turn + 3) (some true) ++
          if reads request then .replicate (33 + turn) (some true) ++
            .replicate p.dapData.transfer.idleCycles.toNat (some false)
          else .replicate turn (some true) ++ (dataBits data).map some ++
            .replicate p.dapData.transfer.idleCycles.toNat (some false) := by
      simp only [Path.cycles, gpioPath, hok, if_true, hturn]
    have hread := @gpioOk_read_frame w q request data stores
    have hwrite := @gpioOk_write_frame w q request data stores
    rw [hconf, hlevel, htrace, hdap, hidle, hcycle, Nat.add_assoc, List.append_assoc] at hread hwrite
    rw [hfrom] at hread
    subst hok
    cases hr : reads request with
    | true =>
        obtain ⟨ha, hd, ht, hs⟩ := hread hr DAP_TRANSFER_OK.toUInt32
        refine .of_read hack hr ?_ ha hd hs
        rw [ht, hpath, hr, if_pos rfl, ← List.append_assoc, List.append_assoc]
    | false =>
        obtain ⟨ha, hd, ht, hs⟩ := hwrite hr DAP_TRANSFER_OK.toUInt32
        refine .of_write hack hr ?_ ha hd hs
        rw [ht, hpath, hr]
        simp only [List.append_assoc, Bool.false_eq_true, if_false]
  · rw [if_neg (by simpa using hok)]
    subst hack
    have hwait := @gpioWaitOrFault_frame q request data (ackAt (fromCycle w p) (8 + turn))
    split
    · next hrefused =>
        have hrefused : ackAt (fromCycle w p) (8 + turn) = DAP_TRANSFER_WAIT.toUInt32 ∨
            ackAt (fromCycle w p) (8 + turn) = DAP_TRANSFER_FAULT.toUInt32 := by
          simpa using hrefused
        obtain ⟨ha, hd, hs, ht⟩ := hwait
        refine .of_refused hok ?_ ha hd (by rw [hs, hdap])
        rw [ht, hconf, hlevel, htrace, hdap, Path.cycles, gpioPath]
        simp only [if_neg hok, if_pos hrefused, hturn, List.append_assoc]
    · next hother =>
        have hother : ¬ (ackAt (fromCycle w p) (8 + turn) = DAP_TRANSFER_WAIT.toUInt32 ∨
            ackAt (fromCycle w p) (8 + turn) = DAP_TRANSFER_FAULT.toUInt32) := by
          simpa using hother
        have hport : (gpioProtocolError (ackAt (fromCycle w p) (8 + turn)) data q).port =
            pinSwdioOut 1 (clockCycles (q.dapData.swdConf.turnaround.toNat + 32 + 1) q) := rfl
        rw [clockCycles_eq] at hport
        refine .of_refused hok ?_ rfl rfl (by rw [hport, ← hdap]; rfl)
        rw [hport]
        show (q.drive _).trace = _
        rw [drive_trace, hconf, hlevel, htrace, Path.cycles, gpioPath]
        simp only [if_neg hok, if_neg hother, hturn, List.append_assoc]

def spiPath (p : Port) (request data : UInt32) : Path where
  released := none
  tail := fun ack =>
    if ack = DAP_TRANSFER_OK.toUInt32 then
      if reads request then .replicate 34 none
      else none :: (dataBits data).map some ++ idleBits p data
    else if ack = DAP_TRANSFER_WAIT.toUInt32 ∨ ack = DAP_TRANSFER_FAULT.toUInt32 then
      if reads request then [some false] else [none]
    else if reads request then .replicate 33 (some true) else none :: .replicate 34 (some true)

theorem ackAt_targetAck (s : Nat → Bool) : ackAt s (8 + 1) = targetAck s := rfl

theorem ok_iff (s : Nat → Bool) :
    ackAt s (8 + 1) = DAP_TRANSFER_OK.toUInt32 ↔ accepted s = true := by
  rw [accepted, ackAt_targetAck, beq_iff_eq]

theorem refused_iff (s : Nat → Bool) : (ackAt s (8 + 1) = DAP_TRANSFER_WAIT.toUInt32 ∨
    ackAt s (8 + 1) = DAP_TRANSFER_FAULT.toUInt32) ↔ refused s = true := by
  rw [refused, ackAt_targetAck, Bool.or_eq_true, beq_iff_eq, beq_iff_eq]

theorem transmit_ones {bitLen : UInt32} {n : Nat} (hlen : bitLen.toNat + 1 = n) (hn : n ≤ 64) :
    (dapSpiTransmit w bitLen ((p.spi.dataBuf.set 0 0xFFFFFFFF).set 1 0xFFFFFFFF) p).trace =
      p.trace ++ .replicate n (some true) := by
  obtain ⟨⟨spi, hbuf, htrace⟩, -⟩ := @dapSpiTransmit_spec w p bitLen
    ((p.spi.dataBuf.set 0 0xFFFFFFFF).set 1 0xFFFFFFFF)
  have hones : ∀ i < 32, bit 0xFFFFFFFF i = true := by decide
  have hbit : ∀ i < n, spi.bufBit i = true := by
    intro i hi
    have hmod := hones (i % 32) (Nat.mod_lt i (by omega))
    rw [Spi.bufBit, hbuf]
    rcases (by omega : i / 32 = 0 ∨ i / 32 = 1) with h | h <;> rw [h]
    · simpa using hmod
    · simpa using hmod
  rw [htrace, hlen]
  congr 1
  apply List.eq_replicate_iff.mpr
  refine ⟨by rw [List.length_map, List.length_range], ?_⟩
  intro host hhost
  obtain ⟨i, hi, rfl⟩ := List.mem_map.mp hhost
  rw [hbit i (List.mem_range.mp hi)]

theorem spiRead_carries (hr : reads request = true) :
    Carries w (spiPath p request data) 1 request stores data p (spiRead w request stores data p) := by
  obtain ⟨hack, htrace, hdap⟩ := @dapSpiSendHeader_spec w p (requestByte request) 0 (.inl rfl)
  rw [requestByte_bits, ← List.append_assoc] at htrace
  have hheader : dapSpiSendHeader w (requestByte request) 0 p = ((targetAck (fromCycle w p)).toUInt8,
      (dapSpiSendHeader w (requestByte request) 0 p).2) := Prod.ext hack rfl
  generalize (dapSpiSendHeader w (requestByte request) 0 p).2 = q at hheader htrace hdap
  have hcycle : q.cycle = p.cycle + (8 + (1 + 3)) := by
    rw [Port.cycle, htrace, List.length_append, List.length_append]
    rfl
  have hfrom := @fromCycle_add w p q _ hcycle
  simp only [spiRead, hheader, accepted_toUInt8, refused_toUInt8]
  by_cases hok : accepted (fromCycle w p) = true
  · obtain ⟨hval, hpar, hread, hread'⟩ := @dapSpiReadData_spec w q
    have hmis : ∀ a b : Bool, ((a.toUInt8 ^^^ b.toUInt8) &&& 1 != 0) = (a != b) := by decide
    have hokAck := (ok_iff _).mpr hok
    rw [if_pos hok]
    rw [hfrom] at hval hpar
    refine .of_read hokAck hr ?_ ?_ ?_ ?_
    · rw [captureTimestamp_trace, hread, htrace, Path.cycles, spiPath]
      simp only [if_true, hr, List.append_assoc]
      rfl
    · rw [← ackAt_targetAck, hokAck, hpar, hval, parityEvenUint32_eq, parityOf_ofBits, hmis]
      rfl
    · rw [hval]
    · have hlast : (dapSpiReadData w q).2.2.cycle = p.cycle + (8 + (1 + 3) + (33 + 1)) := by
        rw [Port.cycle, hread, List.length_append, List.length_replicate, ← Port.cycle, hcycle]
      rw [captureTimestamp_timestamp, hread', hdap, hlast]
  · have hno : ackAt (fromCycle w p) (8 + 1) ≠ DAP_TRANSFER_OK.toUInt32 := fun h =>
      hok ((ok_iff _).mp h)
    rw [if_neg hok]
    split
    · next hrefused =>
        obtain ⟨spi, hzero, -, hcycles⟩ := @dapSpiGenerateCycle_trace w q 1 (by decide)
        refine .of_refused hno ?_ rfl rfl (congrArg DapData.timestamp hdap)
        have hbit : spi.bufBit 0 = false := by
          rw [Spi.bufBit, hzero]
          rfl
        rw [hcycles, htrace, Path.cycles, spiPath]
        simp only [if_neg hno, if_pos ((refused_iff _).mpr hrefused), hr, if_true, List.append_assoc]
        rw [show List.range (1 : UInt8).toNat = [0] from rfl, List.map_singleton, hbit]
        rfl
    · next hother =>
        refine .of_refused hno ?_ rfl rfl (congrArg DapData.timestamp hdap)
        have hones := @transmit_ones w (pinSwdioTmsSet q) (32 + 1 - 1) 33 rfl (by omega)
        show (dapSpiTransmit w _ _ (pinSwdioTmsSet q)).trace = _
        rw [hones]
        show q.trace ++ _ = _
        rw [htrace, Path.cycles, spiPath]
        simp only [if_neg hno, if_neg fun h => hother ((refused_iff _).mp h), hr, if_true,
          List.append_assoc]
        rfl

theorem spiIdle_trace (hdap : q.dapData = p.dapData)
    (hword : ∀ k, 1 ≤ k → q.spi.dataBuf[k]? = p.spi.dataBuf[k]?) :
    let r := captureTimestamp w request (dapSpiWriteData w data (parityEvenUint32 data) q)
    let r' := if r.dapData.transfer.idleCycles != 0 then
      dapSpiGenerateCycle w r.dapData.transfer.idleCycles r else r
    r'.trace = q.trace ++ ((dataBits data).map some ++ idleBits p data) ∧
      r'.dapData.timestamp = r.dapData.timestamp := by
  intro r r'
  have htrace : r.trace = q.trace ++ (dataBits data).map some := by
    rw [captureTimestamp_trace, dapSpiWriteData_trace]
  have hstamp : r'.dapData.timestamp = r.dapData.timestamp := by
    simp only [r']
    split <;> rfl
  obtain ⟨xs, hlen, hcycles⟩ := @spiWriteOk_clocks w p q request data hdap hword
  refine ⟨?_, hstamp⟩
  have hprefix : r.trace <+: r'.trace := by
    simp only [r']
    split
    · exact prefix_dapSpiTransmit _ _
    · exact List.prefix_refl _
  obtain ⟨rest, hrest⟩ := hprefix
  have hsame : q.trace ++ xs ++ idleBits p data = q.trace ++ (dataBits data).map some ++ rest := by
    rw [← hcycles, ← htrace, hrest]
  have hdata : ((dataBits data).map some).length = 33 := by simp [dataBits]
  rw [List.append_assoc, List.append_assoc] at hsame
  obtain ⟨hxs, -⟩ := List.append_inj (List.append_cancel_left hsame) (hlen.trans hdata.symm)
  rw [← hxs, ← List.append_assoc]
  exact hcycles

theorem spiWrite_carries (hr : reads request = false) :
    Carries w (spiPath p request data) 1 request stores data p (spiWrite w request data p) := by
  obtain ⟨hack, htrace, hdap⟩ := @dapSpiSendHeader_spec w p (requestByte request) 1 (.inr rfl)
  rw [requestByte_bits, ← List.append_assoc] at htrace
  have hword : ∀ k, 1 ≤ k → (dapSpiSendHeader w (requestByte request) 1 p).2.spi.dataBuf[k]? =
      p.spi.dataBuf[k]? := fun k hk => dapSpiSendHeader_word _ (.inr rfl) hk
  have hheader : dapSpiSendHeader w (requestByte request) 1 p = ((targetAck (fromCycle w p)).toUInt8,
      (dapSpiSendHeader w (requestByte request) 1 p).2) := Prod.ext hack rfl
  generalize (dapSpiSendHeader w (requestByte request) 1 p).2 = q at hheader htrace hdap hword
  have hcycle : q.cycle = p.cycle + 13 := by
    rw [Port.cycle, htrace, List.length_append, List.length_append]
    rfl
  simp only [spiWrite, hheader, accepted_toUInt8, refused_toUInt8]
  by_cases hok : accepted (fromCycle w p) = true
  · obtain ⟨hidle, hstamp⟩ := @spiIdle_trace w p q request data hdap hword
    have hokAck := (ok_iff _).mpr hok
    rw [if_pos hok]
    refine .of_write hokAck hr ?_ ?_ rfl ?_
    · show Port.trace (if _ then _ else _) = _
      rw [hidle, htrace, Path.cycles, spiPath]
      simp only [if_true, hr, Bool.false_eq_true, if_false, List.append_assoc]
      rfl
    · show (targetAck (fromCycle w p)).toUInt8 = _
      rw [← ackAt_targetAck, hokAck]
      rfl
    · have hlast : (dapSpiWriteData w data (parityEvenUint32 data) q).cycle =
          p.cycle + (8 + (1 + 3) + (33 + 1)) := by
        rw [Port.cycle, dapSpiWriteData_trace, List.length_append, ← Port.cycle, hcycle, dataBits]
        simp
      show DapData.timestamp (Port.dapData (if _ then _ else _)) = _
      rw [hstamp, captureTimestamp_timestamp, hlast]
      exact congrArg (fun d : DapData => if request &&& DAP_TRANSFER_TIMESTAMP != 0 then _
        else d.timestamp) hdap
  · have hno : ackAt (fromCycle w p) (8 + 1) ≠ DAP_TRANSFER_OK.toUInt32 := fun h =>
      hok ((ok_iff _).mp h)
    rw [if_neg hok]
    split
    · next hrefused =>
        refine .of_refused hno ?_ rfl rfl (congrArg DapData.timestamp hdap)
        rw [htrace, Path.cycles, spiPath]
        simp only [if_neg hno, if_pos ((refused_iff _).mpr hrefused), hr, Bool.false_eq_true,
          if_false, List.append_assoc]
        rfl
    · next hother =>
        refine .of_refused hno ?_ rfl rfl (congrArg DapData.timestamp hdap)
        have hones := @transmit_ones w (pinSwdioTmsSet q) (1 + 32 + 1 - 1) 34 rfl (by omega)
        show (dapSpiTransmit w _ _ (pinSwdioTmsSet q)).trace = _
        rw [hones]
        show q.trace ++ _ = _
        rw [htrace, Path.cycles, spiPath]
        simp only [if_neg hno, if_neg fun h => hother ((refused_iff _).mp h), hr, Bool.false_eq_true,
          if_false, List.append_assoc]
        rfl

theorem swdTransferSpi_carries :
    Carries w (spiPath p request data) 1 request stores data p
      (swdTransferSpi w request stores data p) := by
  rw [swdTransferSpi]
  cases hr : reads request with
  | true =>
      rw [reads] at hr
      rw [if_pos hr]
      exact spiRead_carries hr
  | false =>
      rw [reads] at hr
      rw [hr]
      exact spiWrite_carries hr

def pathOf (speed : TransferType) (p : Port) (request data : UInt32) : Path :=
  match speed with
  | .spi => spiPath p request data
  | .gpioFast => gpioPath p.dapData request data
  | .gpioNormal => gpioPath p.dapData request data

def turnOf (speed : TransferType) (d : DapData) : Nat :=
  match speed with
  | .spi => 1
  | .gpioFast => d.swdConf.turnaround.toNat
  | .gpioNormal => d.swdConf.turnaround.toNat

theorem swdTransfer_carries (speed : TransferType) :
    Carries w (pathOf speed p request data) (turnOf speed p.dapData) request stores data p
      (swdTransfer w speed request stores data p) := by
  cases speed with
  | spi => exact swdTransferSpi_carries
  | gpioFast => exact swdTransferGpio_carries
  | gpioNormal => exact swdTransferGpio_carries

end WirelessEsp.SwdFrames
