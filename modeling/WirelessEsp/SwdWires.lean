import WirelessEsp.SwLine
import WirelessEsp.SwdFrames
import WirelessEsp.WaitingTarget

namespace WirelessEsp.SwdWires

open DapTypes DapProbe DapTransfer SwLine SwdFrames LinkSimulation
open BitStreams (bit bitsOf ofBits parityOf)
open SwdTransfer (reads requestBits dataBits fromCycle)

/-- The line, the latch of the pin and the SPI peripheral. -/
structure Swdio (υ : Type) where
  line : Line υ
  level : Bool
  spi : SpiOp.Spi

variable {υ : Type} (P : SwLine.Port υ) (time : υ → UInt32)

def headerOf (request : UInt32) : Header :=
  ⟨bit request 0, bit request 1, bit request 2, bit request 3⟩

/-- The probe reads the level of the line, and its timer shows the time of the target. -/
structure Answered (l : Line υ) (wires : SpiOp.Wires) (cycles : List (Option Bool)) : Prop where
  swdio : ∀ i < cycles.length, (l.levels P cycles)[i]? = some (wires.swdio i)
  timer : ∀ i ≤ cycles.length, wires.timer i = time (l.run P (cycles.take i)).unit

def Swdio.port (x : Swdio υ) (d : DapData) : SpiOp.Port := ⟨d, [], x.level, x.spi⟩

def Swdio.transfer (wires : SpiOp.Wires) (d : DapData) (speed : TransferType) (request : UInt32)
    (stores : Bool) (data : UInt32) (x : Swdio υ) : SwDp.Transfer :=
  SwDp.swdTransfer wires speed request stores data (x.port d)

def Swdio.after (t : SwDp.Transfer) (x : Swdio υ) : Transferred (Swdio υ) :=
  ⟨t.ack, t.data, t.port.dapData.timestamp, ⟨x.line.run P t.port.trace, t.port.level, t.port.spi⟩⟩

def Swdio.onUnit (f : υ → υ) (x : Swdio υ) : Swdio υ :=
  { x with line := { x.line with unit := f x.line.unit } }

/-- The SWD transfers of `L` are those of `SW_DP.c` on the line. What is not on the line is as in
`base`. -/
structure OnLine (base : Link υ) (L : Link (Swdio υ)) : Prop where
  swd (d : DapData) (speed : TransferType) (request : UInt32) (stores : Bool) (data : UInt32)
    (x : Swdio υ) : ∃ wires,
      Answered P time x.line wires (x.transfer wires d speed request stores data).port.trace ∧
      L.swdTransfer d speed request stores data x =
        x.after P (x.transfer wires d speed request stores data)
  clear (x : Swdio υ) : L.clearTransferAbort x = x.onUnit base.clearTransferAbort
  aborted (x : Swdio υ) : L.dapTransferAbort x = base.dapTransferAbort x.line.unit
  garbage : L.garbage = base.garbage

def ackOf : Option Refusal → UInt8
  | none => DAP_TRANSFER_OK
  | some .wait => DAP_TRANSFER_WAIT
  | some .fault => DAP_TRANSFER_FAULT

/-- The same transfers in one step. -/
def directLink (base : Link υ) : Link υ :=
  { base with
    swdTransfer := fun d _ request _ data u =>
      let (refusal, word, u) := P.access (headerOf request) data u
      ⟨ackOf refusal, word,
        if refusal.isNone && has request DAP_TRANSFER_TIMESTAMP then time u else d.timestamp, u⟩ }

def dataPhaseOf (speed : TransferType) (d : DapData) : Bool :=
  match speed with
  | .spi => false
  | .gpioFast => d.swdConf.dataPhase != 0
  | .gpioNormal => d.swdConf.dataPhase != 0

/-- SWD is selected, and the probe is configured as the port is. From the 33rd idle cycle on the SPI
path need not keep the line low. -/
structure Fits {σ : Type} (speed : TransferType) (s : State σ) : Prop where
  port : s.dapData.debugPort = DAP_PORT_SWD
  speed : s.speed = speed
  turn : turnOf s.speed s.dapData = P.turn
  short : P.turn ≤ 4
  dataPhase : dataPhaseOf s.speed s.dapData = P.dataPhase
  idle : s.speed = .spi → s.dapData.transfer.idleCycles.toNat ≤ 32

variable {P time} {x : Swdio υ} {l : Line υ} {u : υ} {wires : SpiOp.Wires} {request data : UInt32}
  {stores : Bool} {cycles : List (Option Bool)} {path : Path} {turn : Nat} {p : SpiOp.Port}
  {speed : TransferType}

theorem packet_headerOf (request : UInt32) : packet (headerOf request) = requestBits request := by
  simp [packet, headerOf, requestBits, parityOf]

theorem reads_headerOf (request : UInt32) : (headerOf request).rnw = reads request := by
  have hand : request &&& DAP_TRANSFER_RnW = if bit request 1 then 2 else 0 := by
    apply BitStreams.eq_of_bit
    intro i hi
    have hrnw : DAP_TRANSFER_RnW = 2 := rfl
    rw [hrnw]
    cases h : bit request 1 <;> interval_cases i <;> simp_all [bit]
  rw [reads, hand, headerOf]
  cases bit request 1 <;> rfl

theorem Answered.shows (h : Answered P time l wires cycles) {k : Nat} {bits : List Bool}
    (hshows : Shows (l.levels P cycles) k bits) {i : Nat} (hi : i < bits.length) :
    bits[i]? = some (wires.swdio (k + i)) := by
  rw [← hshows.get hi]
  apply h.swdio
  obtain ⟨before, after, hlen, hlevels⟩ := hshows
  rw [← levels_length l cycles, hlevels, List.length_append, List.length_append]
  omega

structure Shaped (path : Path) (turn : Nat) (dataPhase : Bool) (request data : UInt32) : Prop where
  read : reads request = true → ∃ xs idle, path.tail DAP_TRANSFER_OK.toUInt32 = xs ++ idle ∧
    xs.length = 33 + turn ∧ ∀ host ∈ idle, host = some false
  write : reads request = false → ∃ xs idle, path.tail DAP_TRANSFER_OK.toUInt32 =
    xs ++ (dataBits data).map some ++ idle ∧ xs.length = turn ∧ ∀ host ∈ idle, host = some false
  refused (ack : UInt32)
    (h : ack = DAP_TRANSFER_WAIT.toUInt32 ∨ ack = DAP_TRANSFER_FAULT.toUInt32) :
    (path.tail ack).length = if dataPhase then 33 + turn else turn

theorem gpioPath_shaped (d : DapData) (request data : UInt32) :
    Shaped (gpioPath d request data) d.swdConf.turnaround.toNat (d.swdConf.dataPhase != 0) request
      data where
  read := fun hr => by
    refine ⟨.replicate (33 + d.swdConf.turnaround.toNat) (some true),
      .replicate d.transfer.idleCycles.toNat (some false), ?_, List.length_replicate,
      fun host hmem => List.eq_of_mem_replicate hmem⟩
    simp only [gpioPath, if_true, hr]
  write := fun hr => by
    refine ⟨.replicate d.swdConf.turnaround.toNat (some true),
      .replicate d.transfer.idleCycles.toNat (some false), ?_, List.length_replicate,
      fun host hmem => List.eq_of_mem_replicate hmem⟩
    simp only [gpioPath, if_true, hr, Bool.false_eq_true, if_false]
  refused := fun ack h => by
    have hno : ack ≠ DAP_TRANSFER_OK.toUInt32 := by
      rcases h with rfl | rfl
      · exact (by decide)
      · exact (by decide)
    simp only [gpioPath, if_neg hno, if_pos h]
    by_cases hzero : d.swdConf.dataPhase = 0
    · rw [if_pos hzero, hzero]
      exact List.length_replicate
    · have hphase : (d.swdConf.dataPhase != 0) = true := bne_iff_ne.mpr hzero
      rw [if_neg hzero, hphase, if_pos rfl]
      split
      · exact List.length_replicate
      · rw [List.length_append, List.length_replicate, List.length_replicate, Nat.add_comm]

theorem spiPath_shaped (hidle : p.dapData.transfer.idleCycles.toNat ≤ 32) (request data : UInt32) :
    Shaped (SwdFrames.spiPath p request data) 1 false request data where
  read := fun hr => by
    refine ⟨.replicate 34 none, [], ?_, List.length_replicate,
      fun _ hmem => absurd hmem List.not_mem_nil⟩
    simp only [spiPath, if_true, hr, List.append_nil]
  write := fun hr => by
    have hlow : SwdCycles.idleBits p data = .replicate (SwdCycles.idleCycles p) (some false) := by
      apply SwdCycles.idleBits_low.mpr
      rw [SwdCycles.idleCycles]
      exact ⟨fun h => absurd h (by omega), fun i hi hi' => absurd hi (by omega)⟩
    refine ⟨[none], SwdCycles.idleBits p data, ?_, rfl, ?_⟩
    · simp only [spiPath, if_true, hr, Bool.false_eq_true, if_false]
      rfl
    · rw [hlow]
      exact fun host hmem => List.eq_of_mem_replicate hmem
  refused := fun ack h => by
    have hno : ack ≠ DAP_TRANSFER_OK.toUInt32 := by
      rcases h with rfl | rfl
      · exact (by decide)
      · exact (by decide)
    simp only [spiPath, if_neg hno, if_pos h]
    split <;> rfl

theorem pathOf_shaped {s : State (Swdio υ)} (hs : Fits P speed s) (request data : UInt32) :
    Shaped (pathOf s.speed (s.world.port s.dapData) request data) P.turn P.dataPhase request
      data := by
  obtain ⟨d, speed, x⟩ := s
  obtain ⟨-, -, hturn, -, hphase, hidle⟩ := hs
  rw [← hturn, ← hphase]
  cases speed with
  | spi => exact spiPath_shaped (hidle rfl) request data
  | gpioFast => exact gpioPath_shaped d request data
  | gpioNormal => exact gpioPath_shaped d request data

theorem ackAt_bits {s : Nat → Bool} {k : Nat} {a b c : Bool}
    (h : ∀ i < 3, [a, b, c][i]? = some (s (k + i))) : ackAt s k = BitStreams.nibble a b c false := by
  have h0 := Option.some.inj (h 0 (by omega))
  have h1 := Option.some.inj (h 1 (by omega))
  have h2 := Option.some.inj (h 2 (by omega))
  rw [ackAt, h0, h1, h2]
  rfl

theorem word_bits {s : Nat → Bool} {word : UInt32}
    (h : ∀ i < 33, (wordBits word)[i]? = some (s i)) :
    ofBits s = word ∧ parityOf s 32 = s 32 := by
  have hget : ∀ i < 32, s i = bit word i := by
    intro i hi
    have hbit := h i (by omega)
    rw [wordBits, List.getElem?_append_left (by simpa using hi), bitsOf, List.getElem?_map,
      List.getElem?_range hi] at hbit
    exact (Option.some.inj hbit).symm
  have hlast := h 32 (by omega)
  rw [wordBits, List.getElem?_append_right (by simp), BitStreams.bitsOf_length] at hlast
  refine ⟨?_, ?_⟩
  · apply BitStreams.eq_of_bit
    intro i hi
    rw [BitStreams.bit_ofBits _ hi, hget i hi]
  · rw [BitStreams.parityOf_congr hget]
    exact Option.some.inj hlast

/-- What a transfer over the line has to show for an access. -/
structure Served (P : SwLine.Port υ) (time : υ → UInt32) (l : Line υ) (d : DapData)
    (request : UInt32) (stores : Bool) (data : UInt32) (t : SwDp.Transfer)
    (result : Option Refusal × UInt32 × υ) : Prop where
  ack : t.ack = ackOf result.1
  data : (if stores then t.data else data) = if stores then result.2.1 else data
  timestamp : t.port.dapData.timestamp =
    if result.1.isNone && has request DAP_TRANSFER_TIMESTAMP then time result.2.2 else d.timestamp
  rests : (l.run P t.port.trace).Rests result.2.2

section Access

variable {t : SwDp.Transfer} (hp : p.trace = [])
  (hcarries : Carries wires path P.turn request stores data p t)
  (hshaped : Shaped path P.turn P.dataPhase request data) (hturn : P.turn ≤ 4) (hrests : l.Rests u)
  (hanswered : Answered P time l wires t.port.trace)

include hp in
theorem fromCycle_start : fromCycle wires p = wires.swdio := by
  funext i
  rw [fromCycle, SpiOp.Port.cycle, hp]
  exact congrArg wires.swdio (Nat.zero_add i)

include hp hcarries in
theorem trace_eq : ∃ head : List (Option Bool), head.length = P.turn + 3 ∧ t.port.trace =
    (packet (headerOf request)).map some ++ head ++ path.tail (ackAt wires.swdio (8 + P.turn)) := by
  refine ⟨.replicate (P.turn + 3) path.released, List.length_replicate, ?_⟩
  rw [hcarries.trace, hp, fromCycle_start hp, packet_headerOf]
  rfl

include hp hcarries hturn hrests hanswered in
theorem ack_known : ∀ i < 3, (P.react (headerOf request) u).ack[i]? =
    some (wires.swdio (8 + P.turn + i)) := by
  intro i hi
  obtain ⟨head, hhead, htrace⟩ := trace_eq hp hcarries
  obtain ⟨ones, -, -, hshows⟩ := run_head hturn hrests (headerOf request) hhead
  refine hanswered.shows ?_ ?_
  · rw [htrace, levels_append]
    exact hshows.append _
  · rw [(react_ack _ _).1]
    exact hi

include hp hcarries hshaped hturn hrests hanswered in
theorem served_refused {r : Refusal} {u' : υ} (h : P.refuse (headerOf request) u = some (r, u')) :
    Served P time l p.dapData request stores data t (P.access (headerOf request) data u) := by
  have hack := ack_known hp hcarries hturn hrests hanswered
  have hreact : (P.react (headerOf request) u).ack = r.bits := by rw [Port.react, h]
  have haccess : P.access (headerOf request) data u = (some r, data, u') := by rw [Port.access, h]
  rw [hreact] at hack
  obtain ⟨hrefused, hno, hackOf⟩ : (ackAt wires.swdio (8 + P.turn) = DAP_TRANSFER_WAIT.toUInt32 ∨
      ackAt wires.swdio (8 + P.turn) = DAP_TRANSFER_FAULT.toUInt32) ∧
      ackAt wires.swdio (8 + P.turn) ≠ DAP_TRANSFER_OK.toUInt32 ∧
      (ackAt wires.swdio (8 + P.turn)).toUInt8 = ackOf (some r) := by
    cases r with
    | wait =>
        rw [ackAt_bits hack]
        exact ⟨.inl (by decide), by decide, by decide⟩
    | fault =>
        rw [ackAt_bits hack]
        exact ⟨.inr (by decide), by decide, by decide⟩
  obtain ⟨head, hhead, htrace⟩ := trace_eq hp hcarries
  obtain ⟨hrun, -⟩ := run_refused hturn hrests h hhead (hshaped.refused _ hrefused)
  obtain ⟨hret, hdata, hstamp⟩ := hcarries.refused (by rwa [fromCycle_start hp])
  rw [fromCycle_start hp] at hret
  rw [haccess]
  refine ⟨hret.trans hackOf, by rw [hdata], hstamp, ?_⟩
  rw [htrace]
  exact hrun

include hp hcarries hturn hrests hanswered in
theorem ack_ok (h : P.refuse (headerOf request) u = none) :
    ackAt wires.swdio (8 + P.turn) = DAP_TRANSFER_OK.toUInt32 := by
  have hack := ack_known hp hcarries hturn hrests hanswered
  have hreact : (P.react (headerOf request) u).ack = okBits := by
    rw [Port.react, h]
    cases (headerOf request).rnw <;> rfl
  rw [hreact] at hack
  rw [ackAt_bits hack]
  decide

include hp hcarries hanswered in
theorem stamp_eq {u' : υ} {xs idle : List (Option Bool)}
    (hok : ackAt wires.swdio (8 + P.turn) = DAP_TRANSFER_OK.toUInt32)
    (htail : path.tail DAP_TRANSFER_OK.toUInt32 = xs ++ idle) (hlen : xs.length = 33 + P.turn)
    (hunit : ∀ head : List (Option Bool), head.length = P.turn + 3 →
      (l.run P ((packet (headerOf request)).map some ++ head ++ xs)).unit = u') :
    t.port.dapData.timestamp =
      if has request DAP_TRANSFER_TIMESTAMP then time u' else p.dapData.timestamp := by
  obtain ⟨head, hhead, htrace⟩ := trace_eq hp hcarries
  rw [hok, htail, ← List.append_assoc] at htrace
  have hcount : ((packet (headerOf request)).map some ++ head ++ xs).length =
      p.cycle + (8 + (P.turn + 3) + (33 + P.turn)) := by
    rw [SpiOp.Port.cycle, hp, List.length_append, List.length_append, List.length_map, packet_length,
      hhead, hlen]
    exact (Nat.zero_add _).symm
  have htimer := hanswered.timer (p.cycle + (8 + (P.turn + 3) + (33 + P.turn))) (by
    rw [htrace, List.length_append, hcount]
    exact Nat.le_add_right _ _)
  rw [htrace, ← hcount, List.take_left, hunit head hhead] at htimer
  rw [hcarries.stamped (by rwa [fromCycle_start hp]), ← hcount, htimer]
  rfl

include hp hcarries hshaped hturn hrests hanswered in
theorem served_read (h : P.refuse (headerOf request) u = none) (hr : reads request = true) :
    Served P time l p.dapData request stores data t (P.access (headerOf request) data u) := by
  have hrnw : (headerOf request).rnw = true := (reads_headerOf request).trans hr
  have hok := ack_ok hp hcarries hturn hrests hanswered h
  have haccess : P.access (headerOf request) data u =
      (none, (P.read (headerOf request) u).1, (P.read (headerOf request) u).2) := by
    rw [Port.access, h]
    exact if_pos hrnw
  obtain ⟨xs, idle, htail, hlen, hidle⟩ := hshaped.read hr
  obtain ⟨head, hhead, htrace⟩ := trace_eq hp hcarries
  rw [hok, htail, ← List.append_assoc] at htrace
  obtain ⟨hrun, hshows⟩ := run_read hturn hrests h hrnw hhead hlen
  obtain ⟨hret, hdata⟩ := hcarries.read (by rwa [fromCycle_start hp]) hr
  have hword : ∀ i < 33, (wordBits (P.read (headerOf request) u).1)[i]? =
      some (wires.swdio (8 + (P.turn + 3) + i)) := by
    intro i hi
    have hlen := wordBits_length (P.read (headerOf request) u).1
    have hbit := @Answered.shows _ _ _ _ _ _ hanswered (8 + P.turn)
      (okBits ++ wordBits (P.read (headerOf request) u).1)
      (by rw [htrace, levels_append]; exact hshows.append _) (3 + i)
      (by rw [List.length_append, hlen]; exact Nat.add_lt_add_left hi 3)
    rw [List.getElem?_append_right (Nat.le_add_right 3 i)] at hbit
    have hindex : 3 + i - okBits.length = i := Nat.add_sub_cancel_left 3 i
    rw [hindex] at hbit
    rw [hbit]
    congr 2
    omega
  rw [fromCycle_start hp] at hret hdata
  obtain ⟨hsame, hparity⟩ := word_bits hword
  rw [haccess]
  refine ⟨?_, ?_, ?_, ?_⟩
  · rw [hret, hparity, bne_self_eq_false]
    rfl
  · rw [hdata, hsame]
    cases stores <;> rfl
  · refine stamp_eq hp hcarries hanswered hok htail hlen fun head hhead => ?_
    exact (run_read hturn hrests h hrnw hhead hlen).1.unit
  · rw [htrace, run_append]
    exact run_idle hrun hidle

include hp hcarries hshaped hturn hrests hanswered in
theorem served_write (h : P.refuse (headerOf request) u = none) (hr : reads request = false) :
    Served P time l p.dapData request stores data t (P.access (headerOf request) data u) := by
  have hrnw : (headerOf request).rnw = false := (reads_headerOf request).trans hr
  have hok := ack_ok hp hcarries hturn hrests hanswered h
  have haccess : P.access (headerOf request) data u =
      (none, data, P.write (headerOf request) data u) := by
    rw [Port.access, h]
    exact if_neg (by rw [hrnw]; exact Bool.false_ne_true)
  obtain ⟨xs, idle, htail, hlen, hidle⟩ := hshaped.write hr
  obtain ⟨head, hhead, htrace⟩ := trace_eq hp hcarries
  rw [hok, htail, ← List.append_assoc] at htrace
  obtain ⟨hrun, -⟩ := run_write hturn hrests h hrnw hhead hlen data
  obtain ⟨hret, hdata⟩ := hcarries.written (by rwa [fromCycle_start hp]) hr
  rw [haccess]
  refine ⟨hret, by rw [hdata], ?_, ?_⟩
  · refine stamp_eq hp hcarries hanswered hok htail ?_ fun head hhead => ?_
    · rw [List.length_append, hlen, List.length_map]
      have hdata := wordBits_length data
      exact (congrArg (P.turn + ·) hdata).trans (Nat.add_comm _ _)
    · exact (run_write hturn hrests h hrnw hhead hlen data).1.unit
  · rw [htrace, run_append]
    exact run_idle hrun hidle

end Access

theorem transfer_served {s : State (Swdio υ)} (hfits : Fits P speed s)
    (hrests : s.world.line.Rests u)
    (hanswered : Answered P time s.world.line wires
      (s.world.transfer wires s.dapData s.speed request stores data).port.trace) :
    Served P time s.world.line s.dapData request stores data
      (s.world.transfer wires s.dapData s.speed request stores data)
      (P.access (headerOf request) data u) := by
  have hcarries := @swdTransfer_carries wires (s.world.port s.dapData) request data stores s.speed
  have hshaped := pathOf_shaped hfits request data
  have hturn : turnOf s.speed (s.world.port s.dapData).dapData = P.turn := hfits.turn
  rw [hturn] at hcarries
  cases hrefuse : P.refuse (headerOf request) u with
  | some refused => exact served_refused rfl hcarries hshaped hfits.short hrests hanswered hrefuse
  | none =>
      cases hr : reads request with
      | true => exact served_read rfl hcarries hshaped hfits.short hrests hanswered hrefuse hr
      | false => exact served_write rfl hcarries hshaped hfits.short hrests hanswered hrefuse hr

/-- The line is idle before the port `u`, and the probe is configured as the port is. -/
def Idle (P : SwLine.Port υ) (speed : TransferType) : Relation (Swdio υ) υ := fun _ s u =>
  s.world.line.Rests u ∧ Fits P speed s

variable {base : Link υ} {L : Link (Swdio υ)}

theorem idle_once (hL : OnLine P time base L) (ir : UInt32) (s : State (Swdio υ)) (u : υ)
    (request : UInt32) (stores : Bool) (data : UInt32) (h : Idle P speed ir s u) :
    let result := swdTransfer L request stores data s
    ∃ u', swdTransfer (directLink P time base) request stores data (inWorld s u) =
        (result.1, result.2.1, inWorld result.2.2 u') ∧ Idle P speed ir result.2.2 u' := by
  obtain ⟨hrests, hfits⟩ := h
  obtain ⟨wires, hanswered, hswd⟩ := hL.swd s.dapData s.speed request stores data s.world
  have hserved := transfer_served hfits hrests hanswered
  refine ⟨(P.access (headerOf request) data u).2.2, ?_, ?_⟩
  · simp only [swdTransfer, hswd, inWorld, directLink, Swdio.after]
    rw [hserved.ack, hserved.data]
    have hstamp := hserved.timestamp
    simp only [State.transferred, hstamp]
  · simp only [swdTransfer, hswd]
    exact ⟨hserved.rests, hfits.port, hfits.speed, hfits.turn, hfits.short, hfits.dataPhase,
      hfits.idle⟩

theorem idle_related (hL : OnLine P time base L) :
    Related (Idle P speed) L (directLink P time base) where
  setMask := fun _ ⟨hrests, hfits⟩ =>
    ⟨hrests, hfits.port, hfits.speed, hfits.turn, hfits.short, hfits.dataPhase, hfits.idle⟩
  clear := by
    rintro ir s u ⟨hrests, hfits⟩
    refine ⟨?_, hfits.port, hfits.speed, hfits.turn, hfits.short, hfits.dataPhase, hfits.idle⟩
    show (L.clearTransferAbort s.world).line.Rests _
    rw [hL.clear]
    exact ⟨hrests.phase, hrests.ones, congrArg base.clearTransferAbort hrests.unit⟩
  aborted := by
    rintro ir s u ⟨hrests, hfits⟩
    rw [hL.aborted, hrests.unit]
    rfl
  garbage := hL.garbage.symm

theorem idle_access (hL : OnLine P time base L) : SameAccess (Idle P speed) L (directLink P time base)
    (fun _ => True) (swdTransfer L) (swdTransfer (directLink P time base)) :=
  .of_once (idle_related hL) fun ir s u request stores data _ h =>
    idle_once hL ir s u request stores data h

/-- The reply over the line is that of the port in one step; the port is then in the same state and
the line idle. -/
structure SameOverLine (reply : Reply (Swdio υ)) (reply' : Reply υ) : Prop where
  bytes : reply.bytes = reply'.bytes
  num : reply.num = reply'.num
  dapData : reply.state.dapData = reply'.state.dapData
  rests : reply.state.world.line.Rests reply'.state.world

theorem sameOverLine {reply : Reply (Swdio υ)} {reply' : Reply υ}
    (h : SameReply (Idle P speed) reply reply') : SameOverLine reply reply' := by
  obtain ⟨ir, u', hstate, hrests, -⟩ := h.state
  refine ⟨h.bytes.symm, h.num.symm, ?_, ?_⟩
  · rw [hstate]
    rfl
  · rw [hstate]
    exact hrests

theorem transfer_same (hL : OnLine P time base L) {ir : UInt32} {s : State (Swdio υ)}
    {request : Request} (h : Idle P speed ir s u) :
    SameReply (Idle P speed) (dapTransfer L request s)
        (dapTransfer (directLink P time base) request (inWorld s u)) ∧
      SameReply (Idle P speed) (dapTransferBlock L request s)
        (dapTransferBlock (directLink P time base) request (inWorld s u)) := by
  have hport : (s.dapData.debugPort == DAP_PORT_SWD) = true := by
    rw [h.2.port]
    rfl
  have hport' : ((inWorld s u).dapData.debugPort == DAP_PORT_SWD) = true := hport
  constructor
  · simp only [dapTransfer, hport, hport', if_true]
    exact dapSwdTransfer_same (idle_related hL) (idle_access hL) h
  · have hblock := @dapSwdTransferBlock_same _ _ _ _ _ request _ _ _ (idle_related hL)
      (idle_access hL) h
    simp only [dapTransferBlock, hport, hport', if_true]
    refine ⟨hblock.bytes, ?_, hblock.state⟩
    rw [hblock.num]

def shown (P : SwLine.Port υ) (time : υ → UInt32) (l : Line υ) (cycles : List (Option Bool)) :
    SpiOp.Wires where
  swdio := fun i => (l.levels P cycles)[i]?.getD true
  miso := fun _ => false
  timer := fun i => time (l.run P (cycles.take i)).unit

def settled (P : SwLine.Port υ) (time : υ → UInt32) (d : DapData) (speed : TransferType)
    (request : UInt32) (stores : Bool) (data : UInt32) (x : Swdio υ) : SpiOp.Wires :=
  let cycles (wires : SpiOp.Wires) := (x.transfer wires d speed request stores data).port.trace
  shown P time x.line (cycles (shown P time x.line (cycles (shown P time x.line []))))

theorem shown_answered {cycles : List (Option Bool)} :
    Answered P time l (shown P time l cycles) cycles where
  swdio := fun i hi => by
    rw [← levels_length (P := P) l cycles] at hi
    simp only [shown, List.getElem?_eq_getElem hi, Option.getD_some]
  timer := fun _ _ => rfl

theorem ackAt_shown {head tail tail' : List (Option Bool)} {k : Nat} (hlen : k + 3 ≤ head.length) :
    ackAt (shown P time l (head ++ tail)).swdio k =
      ackAt (shown P time l (head ++ tail')).swdio k := by
  have hsame : ∀ i < head.length, (shown P time l (head ++ tail)).swdio i =
      (shown P time l (head ++ tail')).swdio i := by
    intro i hi
    rw [← levels_length (P := P) l head] at hi
    simp only [shown, levels_append, List.getElem?_append_left hi]
  rw [ackAt, ackAt, hsame k (by omega), hsame (k + 1) (by omega), hsame (k + 2) (by omega)]

theorem settles {cycles : SpiOp.Wires → List (Option Bool)} {head : List (Option Bool)}
    {tail : UInt32 → List (Option Bool)} {k : Nat} (hlen : head.length = k + 3)
    (hcycles : ∀ wires, cycles wires = head ++ tail (ackAt wires.swdio k))
    (wires wires' : SpiOp.Wires) :
    cycles (shown P time l (cycles wires)) = cycles (shown P time l (cycles wires')) := by
  rw [hcycles (shown P time l (cycles wires)), hcycles (shown P time l (cycles wires')),
    hcycles wires, hcycles wires', ackAt_shown (Nat.le_of_eq hlen.symm)]

theorem transfer_cycles (wires : SpiOp.Wires) (d : DapData) (speed : TransferType)
    (request : UInt32) (stores : Bool) (data : UInt32) (x : Swdio υ) :
    (x.transfer wires d speed request stores data).port.trace =
      (requestBits request).map some ++ .replicate (turnOf speed d + 3)
          (pathOf speed (x.port d) request data).released ++
        (pathOf speed (x.port d) request data).tail
          (ackAt wires.swdio (8 + turnOf speed d)) := by
  have hcarries := @swdTransfer_carries wires (x.port d) request data stores speed
  have hcycles := hcarries.trace
  rw [fromCycle_start rfl] at hcycles
  exact hcycles

theorem settled_answered (d : DapData) (speed : TransferType) (request : UInt32) (stores : Bool)
    (data : UInt32) (x : Swdio υ) :
    Answered P time x.line (settled P time d speed request stores data x)
      (x.transfer (settled P time d speed request stores data x) d speed request stores
        data).port.trace := by
  have hlen : ((requestBits request).map some ++ List.replicate (turnOf speed d + 3)
      (pathOf speed (x.port d) request data).released).length = 8 + turnOf speed d + 3 := by
    rw [List.length_append, List.length_replicate]
    exact (Nat.add_assoc _ _ _).symm
  have hsame := @settles _ P time x.line
    (fun wires => (x.transfer wires d speed request stores data).port.trace) _ _ _ hlen
    fun wires => transfer_cycles wires d speed request stores data x
  have hround := hsame (shown P time x.line
    (x.transfer (shown P time x.line []) d speed request stores data).port.trace)
    (shown P time x.line [])
  rw [settled, hround]
  exact shown_answered

def lineLink (P : SwLine.Port υ) (time : υ → UInt32) (base : Link υ) (outer : Link (Swdio υ)) :
    Link (Swdio υ) :=
  { outer with
    swdTransfer := fun d speed request stores data x =>
      x.after P
        (x.transfer (settled P time d speed request stores data x) d speed request stores data)
    clearTransferAbort := Swdio.onUnit base.clearTransferAbort
    dapTransferAbort := fun x => base.dapTransferAbort x.line.unit
    garbage := base.garbage }

theorem lineLink_onLine (P : SwLine.Port υ) (time : υ → UInt32) (base : Link υ)
    (outer : Link (Swdio υ)) : OnLine P time base (lineLink P time base outer) where
  swd := fun d speed request stores data x => ⟨_, settled_answered d speed request stores data x, rfl⟩
  clear := fun _ => rfl
  aborted := fun _ => rfl
  garbage := rfl

/-- A debug port that posts its reads of the AP, and answers WAIT so many times before it serves an
access. -/
def swdPort {τ : Type} (T : PostedTarget.Registers τ) (turn : Nat) (dataPhase : Bool) :
    SwLine.Port (WaitingTarget.Waiting (PostedTarget.World τ)) where
  turn := turn
  dataPhase := dataPhase
  refuse := fun _ w =>
    match w.waits with
    | (_ :: times) :: rest => some (.wait, { w with waits := times :: rest })
    | _ => none
  read := fun h w =>
    let (word, dap) := w.world.dap.read T h.ap h.ap (BitStreams.nibble false false h.a2 h.a3)
    (word, ⟨{ w.world with dap }, w.waits.tail⟩)
  write := fun h word w =>
    let dap := w.world.dap.write T h.ap (BitStreams.nibble false false h.a2 h.a3) word
    ⟨{ w.world with dap }, w.waits.tail⟩

/-- On SWD, over the line of any debug port and on both paths, the transfers of a command are
carried to the port, each once, and its answers are brought back. -/
theorem transfer_over_line (P : SwLine.Port υ) (time : υ → UInt32) (base : Link υ)
    (L : Link (Swdio υ)) (hL : OnLine P time base L) (speed : TransferType) (request : Request)
    (s : State (Swdio υ)) (u : υ) (hrests : s.world.line.Rests u) (hfits : Fits P speed s) :
    SameOverLine (dapTransfer L request s)
        (dapTransfer (directLink P time base) request (inWorld s u)) ∧
      SameOverLine (dapTransferBlock L request s)
        (dapTransferBlock (directLink P time base) request (inWorld s u)) := by
  have hidle : Idle P speed 0 s u := ⟨hrests, hfits⟩
  exact ⟨sameOverLine (transfer_same hL hidle).1, sameOverLine (transfer_same hL hidle).2⟩

/-- The memory port on the SPI path, with a WAIT of two rounds before its first access. -/
def memoryLine : State (Swdio (WaitingTarget.Waiting (PostedTarget.World UInt32))) where
  dapData := { dapSetup .esp32 with debugPort := DAP_PORT_SWD }
  speed := .spi
  world := {
    line := ⟨.listen [], 0, ⟨⟨0, ⟨0, 0, []⟩⟩, [[3, 5]]⟩⟩
    level := true
    spi := ⟨false, false, false, 0, 0, .replicate 16 0⟩ }

theorem transfer_over_line_memoryLine :
    let P := swdPort PostedReads.memoryPort 1 false
    let L := lineLink P (fun w => w.world.dap.regs) idleLink idleLink
    let direct := directLink P (fun w => w.world.dap.regs) idleLink
    SameOverLine (dapTransfer L PostedReads.memoryRequest memoryLine)
        (dapTransfer direct PostedReads.memoryRequest
          (inWorld memoryLine memoryLine.world.line.unit)) ∧
      SameOverLine (dapTransferBlock L PostedReads.memoryRequest memoryLine)
        (dapTransferBlock direct PostedReads.memoryRequest
          (inWorld memoryLine memoryLine.world.line.unit)) := by
  intro P L direct
  refine transfer_over_line P (fun w => w.world.dap.regs) idleLink L
    (lineLink_onLine P _ idleLink idleLink) .spi PostedReads.memoryRequest memoryLine
    memoryLine.world.line.unit ⟨rfl, Nat.zero_le _, rfl⟩ ⟨rfl, rfl, rfl, ?_, rfl, fun _ => ?_⟩
  · show 1 ≤ 4
    omega
  · exact Nat.zero_le 32

end WirelessEsp.SwdWires
