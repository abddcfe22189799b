import WirelessEsp.BitStreams
import WirelessEsp.DapTransfer
import WirelessEsp.JtagIr
import WirelessEsp.ScanPath

namespace WirelessEsp.JtagDp

open TapController DapTypes DapProbe DapTransfer JtagIr
open BitStreams (bit bitsOf ofBits)
open ScanPath (shifts toShiftDr toIdle drScan irScan)

abbrev Tdo := List Cycle → Bool

variable (tdo : Tdo)

def pinTdoIn (p : Port) : UInt32 := (tdo p.cycles).toUInt32

def jtagCycleTdo (p : Port) : UInt32 × Port := (pinTdoIn tdo p, jtagCycleTck p)

def jtagCycleTdio (tdi : UInt32) (p : Port) : UInt32 × Port :=
  let p := pinTdiOut tdi p
  (pinTdoIn tdo p, jtagCycleTck p)

def selectDr (p : Port) : Port :=
  let p := pinTmsSet p
  let p := jtagCycleTck p
  let p := pinTmsClr p
  let p := jtagCycleTck p
  jtagCycleTck p

def getAck (request : UInt32) (p : Port) : UInt32 × Port :=
  let (bit, p) := jtagCycleTdio tdo (request >>> 1) p
  let ack := bit <<< 1
  let (bit, p) := jtagCycleTdio tdo (request >>> 2) p
  let ack := ack ||| bit <<< 0
  let (bit, p) := jtagCycleTdio tdo (request >>> 3) p
  (ack ||| bit <<< 2, p)

/-- `for (; n; n--) { JTAG_CYCLE_TDO(bit); val |= bit << 31; val >>= 1; }` -/
def getBits : Nat → UInt32 → Port → UInt32 × Port
  | 0, val, p => (val, p)
  | n + 1, val, p =>
      let (bit, p) := jtagCycleTdo tdo p
      getBits n ((val ||| bit <<< 31) >>> 1) p

def getLast (after : UInt32) (p : Port) : UInt32 × Port :=
  if after != 0 then
    let (bit, p) := jtagCycleTdo tdo p
    let p := bypassBits (after - 1).toNat p
    let p := pinTmsSet p
    (bit, jtagCycleTck p)
  else
    let p := pinTmsSet p
    jtagCycleTdo tdo p

def setLast (after val : UInt32) (p : Port) : Port :=
  if after != 0 then
    let p := jtagCycleTdi val p
    let p := bypassBits (after - 1).toNat p
    let p := pinTmsSet p
    jtagCycleTck p
  else
    let p := pinTmsSet p
    jtagCycleTdi val p

def updateDr (p : Port) : Port :=
  let p := jtagCycleTck p
  let p := pinTmsClr p
  jtagCycleTck p

def devicesAfter (d : DapData) : UInt32 := d.jtagDev.count.toUInt32 - d.jtagDev.index.toUInt32 - 1

def transferData (d : DapData) (request : UInt32) (stores : Bool) (data ack : UInt32) (p : Port) :
    UInt32 × Port :=
  if ack != DAP_TRANSFER_OK.toUInt32 then
    let p := pinTmsSet p
    (data, jtagCycleTck p)
  else if has request DAP_TRANSFER_RnW then
    let (val, p) := getBits tdo 31 0 p
    let (bit, p) := getLast tdo (devicesAfter d) p
    let val := val ||| bit <<< 31
    (if stores then val else data, p)
  else
    let (val, p) := setIrBits 31 data p
    (data, setLast (devicesAfter d) val p)

/-- The fast and the slow `JTAG_Transfer` differ in their delays only. -/
def jtagTransfer (timestampGet : List Cycle → UInt32) (d : DapData) (request : UInt32)
    (stores : Bool) (data : UInt32) (p : Port) : Transferred Port :=
  let p := selectDr p
  let p := bypassBits d.jtagDev.index.toNat p
  let (ack, p) := getAck tdo request p
  let (data, p) := transferData tdo d request stores data ack p
  let p := updateDr p
  let p := pinTdiOut 1 p
  let timestamp :=
    if has request DAP_TRANSFER_TIMESTAMP then timestampGet p.cycles else d.timestamp
  let p := bypassBits d.transfer.idleCycles.toNat p
  ⟨ack.toUInt8, data, timestamp, p⟩

def jtagReadIdCode (d : DapData) (p : Port) : UInt32 × Port :=
  let p := selectDr p
  let p := bypassBits d.jtagDev.index.toNat p
  let (val, p) := getBits tdo 31 0 p
  let p := pinTmsSet p
  let (bit, p) := jtagCycleTdo tdo p
  let val := val ||| bit <<< 31
  (val, updateDr p)

def jtagWriteAbort (d : DapData) (data : UInt32) (p : Port) : Port :=
  let p := selectDr p
  let p := bypassBits d.jtagDev.index.toNat p
  let p := pinTdiOut 0 p
  let p := jtagCycleTck p
  let p := jtagCycleTck p
  let p := jtagCycleTck p
  let (data, p) := setIrBits 31 data p
  let p := setLast (devicesAfter d) data p
  let p := updateDr p
  pinTdiOut 1 p

def shifting (start : List Cycle) (bits : List Bool) (level : Bool) : Port :=
  ⟨false, level, start ++ shifts bits⟩

theorem shifts_append (xs ys : List Bool) : shifts (xs ++ ys) = shifts xs ++ shifts ys :=
  List.map_append

theorem shifting_tck (start : List Cycle) (level : Bool) (bits : List Bool) :
    jtagCycleTck (shifting start bits level) = shifting start (bits ++ [level]) level := by
  rw [shifting, jtagCycleTck, shifting, shifts_append, ← List.append_assoc]
  rfl

theorem selectDr_eq (tms tdi : Bool) : selectDr ⟨tms, tdi, []⟩ = shifting (toShiftDr tdi) [] tdi := rfl

theorem shifting_bypass (start : List Cycle) (level : Bool) (bits : List Bool) (n : Nat) :
    bypassBits n (shifting start bits level) =
      shifting start (bits ++ List.replicate n level) level := by
  induction n generalizing bits with
  | zero =>
      rw [List.replicate_zero, List.append_nil]
      rfl
  | succ n ih =>
      rw [bypassBits, shifting_tck, ih, List.append_assoc]
      rfl

theorem shifting_tdi (start : List Cycle) (level : Bool) (bits : List Bool) (x : UInt32) :
    jtagCycleTdi x (shifting start bits level) = shifting start (bits ++ [bit x 0]) (bit x 0) := by
  rw [← shifting_tck, ← BitStreams.and_one_beq]
  rfl

def tdoAt (start : List Cycle) (bits : List Bool) : Bool := tdo (start ++ shifts bits)

theorem shifting_tdio (start : List Cycle) (level : Bool) (bits : List Bool) (x : UInt32) :
    jtagCycleTdio tdo x (shifting start bits level) =
      ((tdoAt tdo start bits).toUInt32, shifting start (bits ++ [bit x 0]) (bit x 0)) := by
  rw [← shifting_tdi start level]
  rfl

theorem shifting_tdo (start : List Cycle) (level : Bool) (bits : List Bool) :
    jtagCycleTdo tdo (shifting start bits level) =
      ((tdoAt tdo start bits).toUInt32, shifting start (bits ++ [level]) level) := by
  rw [← shifting_tck]
  rfl

def ackOf (a b c : Bool) : UInt32 := a.toUInt32 <<< 1 ||| b.toUInt32 <<< 0 ||| c.toUInt32 <<< 2

/-- The bits of a request that are shifted: RnW, A2 and A3. -/
def header (request : UInt32) : List Bool := [bit request 1, bit request 2, bit request 3]

theorem getAck_eq (start : List Cycle) (level : Bool) (bits : List Bool) (request : UInt32) :
    getAck tdo request (shifting start bits level) =
      (ackOf (tdoAt tdo start bits) (tdoAt tdo start (bits ++ [bit request 1]))
          (tdoAt tdo start (bits ++ [bit request 1, bit request 2])),
        shifting start (bits ++ header request) (bit request 3)) := by
  have hshift (n : Nat) (hn : n < 32) : bit (request >>> UInt32.ofNat n) 0 = bit request n :=
    BitStreams.bit_shiftRight request hn 0
  have hrnw : bit (request >>> 1) 0 = bit request 1 := hshift 1 (by omega)
  have ha2 : bit (request >>> 2) 0 = bit request 2 := hshift 2 (by omega)
  have ha3 : bit (request >>> 3) 0 = bit request 3 := hshift 3 (by omega)
  have happend (a b : Bool) : bits ++ [a] ++ [b] = bits ++ [a, b] := by simp
  have happend' (a b c : Bool) : bits ++ [a, b] ++ [c] = bits ++ [a, b, c] := by simp
  simp only [getAck, shifting_tdio, hrnw, ha2, ha3, happend, happend']
  rfl

theorem setIrBits_eq (start : List Cycle) (n : Nat) (x : UInt32) (bits : List Bool) (level : Bool) :
    ∃ y level', setIrBits n x (shifting start bits level) =
      (y, shifting start (bits ++ bitsOf n x) level') ∧ bit y 0 = bit x n := by
  induction n generalizing x bits level with
  | zero =>
      refine ⟨x, level, ?_, rfl⟩
      rw [setIrBits, bitsOf, List.range_zero, List.map_nil, List.append_nil]
  | succ n ih =>
      obtain ⟨y, level', h, hy⟩ := ih (x >>> 1) (bits ++ [bit x 0]) (bit x 0)
      refine ⟨y, level', ?_, ?_⟩
      · rw [setIrBits, shifting_tdi, h, List.append_assoc, BitStreams.bitsOf_succ]
        rfl
      · rw [hy, BitStreams.bit_shiftRight_one]

theorem getBits_spec (start : List Cycle) (level : Bool) (n : Nat) (val : UInt32) (bits : List Bool)
    (hval : bit val 31 = false) :
    ∃ val', getBits tdo n val (shifting start bits level) =
        (val', shifting start (bits ++ List.replicate n level) level) ∧
      ∀ i < 32, bit val' i = if i + n < 31 then bit val (i + n) else
        decide (i < 31) && tdoAt tdo start (bits ++ List.replicate (i + n - 31) level) := by
  induction n generalizing val bits with
  | zero =>
      refine ⟨val, ?_, ?_⟩
      · rw [getBits, List.replicate_zero, List.append_nil]
      · intro i hi
        by_cases hlt : i + 0 < 31
        · rw [if_pos hlt, Nat.add_zero]
        · obtain rfl : i = 31 := by omega
          rw [if_neg hlt, hval]
          rfl
  | succ n ih =>
      generalize hnew : (tdoAt tdo start bits).toUInt32 = new
      have hbit : bit new 0 = tdoAt tdo start bits := by rw [← hnew, BitStreams.bit_toUInt32]
      have hstep : ∀ i < 31, bit ((val ||| new <<< 31) >>> 1) i =
          (bit val (i + 1) || decide (30 ≤ i) && bit new (i - 30)) := by
        intro i hi
        have hleft : bit (new <<< 31) (i + 1) = (decide (31 ≤ i + 1) && bit new (i + 1 - 31)) :=
          BitStreams.bit_shiftLeft new (show 31 < 32 by omega) (show i + 1 < 32 by omega)
        have hdecide : decide (31 ≤ i + 1) = decide (30 ≤ i) := decide_eq_decide.mpr (by omega)
        have hsub : i + 1 - 31 = i - 30 := by omega
        rw [BitStreams.bit_shiftRight_one, BitStreams.bit_or, hleft, hdecide, hsub]
      have hhigh : bit ((val ||| new <<< 31) >>> 1) 31 = false := by
        rw [BitStreams.bit_shiftRight_one]
        exact BitStreams.bit_of_le _ (Nat.le_refl _)
      obtain ⟨val', hrun, hbits⟩ := ih _ (bits ++ [level]) hhigh
      refine ⟨val', ?_, ?_⟩
      · simp only [getBits, shifting_tdo, hnew, hrun, List.append_assoc, List.replicate_succ]
        rfl
      · intro i hi
        rw [hbits i hi]
        by_cases hold : i + (n + 1) < 31
        · have hlt : i + n < 31 := by omega
          have hnot : decide (30 ≤ i + n) = false := decide_eq_false (by omega)
          rw [if_pos hold, if_pos hlt, hstep _ hlt, hnot, Bool.false_and, Bool.or_false]
          rfl
        · rw [if_neg hold]
          by_cases hlast : i + n < 31
          · obtain hthirty : i + n = 30 := by omega
            have hyes : decide (i < 31) = true := decide_eq_true (by omega)
            have hnone : i + (n + 1) - 31 = 0 := by omega
            rw [if_pos hlast, hstep _ hlast, hthirty, hval, hyes, hnone, List.replicate_zero,
              List.append_nil, ← hbit]
            rfl
          · have hcount : i + (n + 1) - 31 = i + n - 31 + 1 := by omega
            rw [if_neg hlast, hcount, List.append_assoc, List.replicate_succ]
            rfl

def exiting (start : List Cycle) (bits : List Bool) (last : Bool) : Port :=
  ⟨true, last, start ++ shifts bits ++ [⟨true, last⟩]⟩

theorem replicate_pred {after : UInt32} (h : after ≠ 0) (bits : List Bool) (level : Bool) :
    bits ++ [level] ++ List.replicate (after - 1).toNat level =
      bits ++ List.replicate after.toNat level := by
  have hpos : (1 : UInt32) ≤ after := UInt32.le_iff_toNat_le.mpr
    (Nat.one_le_iff_ne_zero.mpr fun hzero => h (UInt32.toNat_inj.mp hzero))
  have hcount : after.toNat = (after - 1).toNat + 1 := by
    have hsub := UInt32.toNat_sub_of_le _ _ hpos
    have hle := UInt32.le_iff_toNat_le.mp hpos
    have hone : (1 : UInt32).toNat = 1 := rfl
    omega
  rw [hcount, List.replicate_succ, List.append_assoc]
  rfl

theorem getLast_eq (start : List Cycle) (level : Bool) (bits : List Bool) (after : UInt32) :
    getLast tdo after (shifting start bits level) = ((tdoAt tdo start bits).toUInt32,
      exiting start (bits ++ List.replicate after.toNat level) level) := by
  rw [getLast]
  split
  next h =>
    rw [shifting_tdo, ← replicate_pred (bne_iff_ne.mp h)]
    simp only [shifting_bypass]
    rfl
  next h =>
    obtain rfl : after = 0 := by simpa using h
    rw [show (0 : UInt32).toNat = 0 from rfl, List.replicate_zero, List.append_nil]
    rfl

theorem setLast_eq (start : List Cycle) (level : Bool) (bits : List Bool) (after val : UInt32) :
    setLast after val (shifting start bits level) =
      exiting start (bits ++ List.replicate after.toNat (bit val 0)) (bit val 0) := by
  rw [setLast]
  split
  next h =>
    rw [shifting_tdi, ← replicate_pred (bne_iff_ne.mp h)]
    simp only [shifting_bypass]
    rfl
  next h =>
    obtain rfl : after = 0 := by simpa using h
    rw [show (0 : UInt32).toNat = 0 from rfl, List.replicate_zero, List.append_nil, exiting,
      ← BitStreams.and_one_beq]
    rfl

theorem updateDr_exiting (start : List Cycle) (last : Bool) (bits : List Bool) :
    updateDr (exiting start bits last) = ⟨false, last, start ++ shifts bits ++ toIdle last⟩ := by
  rw [toIdle, exiting, updateDr]
  simp only [jtagCycleTck, pinTmsClr, List.append_assoc]
  rfl

def transferHead (d : DapData) (tdi : Bool) (request : UInt32) : List Bool :=
  List.replicate d.jtagDev.index.toNat tdi ++ header request

def transferBits (d : DapData) (request data : UInt32) (ok : Bool) : List Bool :=
  if !ok then []
  else if has request DAP_TRANSFER_RnW then
    List.replicate (31 + (devicesAfter d).toNat) (bit request 3)
  else bitsOf 31 data ++ List.replicate (devicesAfter d).toNat (bit data 31)

def transferLast (request data : UInt32) (ok : Bool) : Bool :=
  if ok && !has request DAP_TRANSFER_RnW then bit data 31 else bit request 3

def ackRead (d : DapData) (tdi : Bool) (request : UInt32) : UInt32 :=
  let before := List.replicate d.jtagDev.index.toNat tdi
  ackOf (tdoAt tdo (toShiftDr tdi) before) (tdoAt tdo (toShiftDr tdi) (before ++ [bit request 1]))
    (tdoAt tdo (toShiftDr tdi) (before ++ [bit request 1, bit request 2]))

def wordRead (d : DapData) (tdi : Bool) (request : UInt32) : UInt32 :=
  ofBits fun i => tdoAt tdo (toShiftDr tdi)
    (transferHead d tdi request ++ List.replicate i (bit request 3))

theorem word_of_bits {val : UInt32} {f : Nat → Bool} {last : Bool}
    (hval : ∀ i < 32, bit val i = (decide (i < 31) && f i)) (hlast : f 31 = last) :
    val ||| last.toUInt32 <<< 31 = ofBits f := by
  apply BitStreams.eq_of_bit
  intro i hi
  have hleft : bit (last.toUInt32 <<< 31) i =
      (decide (31 ≤ i) && bit last.toUInt32 (i - 31)) :=
    BitStreams.bit_shiftLeft last.toUInt32 (show 31 < 32 by omega) hi
  rw [BitStreams.bit_or, hval i hi, hleft, BitStreams.bit_ofBits f hi]
  by_cases h : i < 31
  · rw [decide_eq_true h, decide_eq_false (show ¬ 31 ≤ i by omega), Bool.true_and, Bool.false_and,
      Bool.or_false]
  · obtain rfl : i = 31 := by omega
    rw [hlast, BitStreams.bit_toUInt32]
    rfl

theorem getWord_eq (start : List Cycle) (level : Bool) (bits : List Bool) (after : UInt32) :
    ∃ val p, getBits tdo 31 0 (shifting start bits level) = (val, p) ∧
      ∃ last, getLast tdo after p = (last,
          exiting start (bits ++ List.replicate (31 + after.toNat) level) level) ∧
        val ||| last <<< 31 =
          ofBits fun i => tdoAt tdo start (bits ++ List.replicate i level) := by
  obtain ⟨val, hrun, hbits⟩ := getBits_spec tdo start level 31 0 bits rfl
  refine ⟨val, _, hrun, (tdoAt tdo start (bits ++ List.replicate 31 level)).toUInt32, ?_, ?_⟩
  · rw [getLast_eq, List.append_assoc, ← List.replicate_add]
  · refine word_of_bits (fun i hi => ?_) rfl
    rw [hbits i hi, if_neg (by omega), Nat.add_sub_cancel]

theorem transferData_eq (d : DapData) (request : UInt32) (stores : Bool) (data ack : UInt32)
    (tdi : Bool) :
    transferData tdo d request stores data ack
        (shifting (toShiftDr tdi) (transferHead d tdi request) (bit request 3)) =
      let ok := ack == DAP_TRANSFER_OK.toUInt32
      (if ok && has request DAP_TRANSFER_RnW && stores then wordRead tdo d tdi request else data,
        exiting (toShiftDr tdi) (transferHead d tdi request ++ transferBits d request data ok)
          (transferLast request data ok)) := by
  rw [transferData]
  by_cases hok : ack = DAP_TRANSFER_OK.toUInt32
  · subst hok
    simp only [bne_self_eq_false, Bool.false_eq_true, if_false, beq_self_eq_true, Bool.true_and,
      transferBits, transferLast, Bool.not_true]
    by_cases hrnw : has request DAP_TRANSFER_RnW = true
    · obtain ⟨val, p, hget, last, hlast, hword⟩ := getWord_eq tdo (toShiftDr tdi) (bit request 3)
        (transferHead d tdi request) (devicesAfter d)
      simp only [hrnw, if_true, hget, hlast, hword, Bool.true_and, Bool.not_true]
      rfl
    · obtain ⟨y, level', hset, hy⟩ := setIrBits_eq (toShiftDr tdi) 31 data (transferHead d tdi request)
        (bit request 3)
      have hrnw' := Bool.eq_false_iff.mpr hrnw
      simp only [hrnw', Bool.false_eq_true, if_false, hset, setLast_eq, hy, Bool.false_and,
        Bool.not_false, if_true, List.append_assoc]
  · have hbne : (ack != DAP_TRANSFER_OK.toUInt32) = true := bne_iff_ne.mpr hok
    have hbeq : (ack == DAP_TRANSFER_OK.toUInt32) = false := beq_eq_false_iff_ne.mpr hok
    simp only [hbne, if_true, hbeq, Bool.false_and, Bool.false_eq_true, if_false, transferBits,
      transferLast, Bool.not_false, List.append_nil]
    rfl

theorem jtagTransfer_eq (timestampGet : List Cycle → UInt32) (d : DapData) (request : UInt32)
    (stores : Bool) (data : UInt32) (tms tdi : Bool) :
    jtagTransfer tdo timestampGet d request stores data ⟨tms, tdi, []⟩ =
      let ack := ackRead tdo d tdi request
      let ok := ack == DAP_TRANSFER_OK.toUInt32
      let scan := drScan tdi (transferHead d tdi request ++ transferBits d request data ok)
        (transferLast request data ok)
      ⟨ack.toUInt8,
        if ok && has request DAP_TRANSFER_RnW && stores then wordRead tdo d tdi request else data,
        if has request DAP_TRANSFER_TIMESTAMP then timestampGet scan else d.timestamp,
        bypassBits d.transfer.idleCycles.toNat ⟨false, true, scan⟩⟩ := by
  have hhead : List.replicate d.jtagDev.index.toNat tdi ++ header request =
      transferHead d tdi request := rfl
  simp only [jtagTransfer, selectDr_eq, shifting_bypass, List.nil_append, getAck_eq, hhead,
    transferData_eq, updateDr_exiting]
  rfl

theorem idle_cycles (n : Nat) (scan : List Cycle) :
    bypassBits n ⟨false, true, scan⟩ =
      ⟨false, true, scan ++ List.replicate n ⟨false, true⟩⟩ := by
  induction n generalizing scan with
  | zero =>
      rw [List.replicate_zero, List.append_nil]
      rfl
  | succ n ih =>
      have hnext := ih (scan ++ [⟨false, true⟩])
      rw [List.append_assoc] at hnext
      exact hnext

theorem jtagReadIdCode_eq (d : DapData) (tms tdi : Bool) :
    jtagReadIdCode tdo d ⟨tms, tdi, []⟩ =
      (ofBits fun i => tdoAt tdo (toShiftDr tdi) (List.replicate (d.jtagDev.index.toNat + i) tdi),
        ⟨false, tdi, drScan tdi (List.replicate (d.jtagDev.index.toNat + 31) tdi) tdi⟩) := by
  obtain ⟨val, hrun, hbits⟩ := getBits_spec tdo (toShiftDr tdi) tdi 31 0
    (List.replicate d.jtagDev.index.toNat tdi) rfl
  have hword : val ||| (tdoAt tdo (toShiftDr tdi) (List.replicate d.jtagDev.index.toNat tdi ++
      List.replicate 31 tdi)).toUInt32 <<< 31 =
        ofBits fun i => tdoAt tdo (toShiftDr tdi) (List.replicate (d.jtagDev.index.toNat + i) tdi) := by
    refine word_of_bits (fun i hi => ?_) ?_
    · rw [hbits i hi, if_neg (by omega), Nat.add_sub_cancel, List.replicate_add]
    · rw [List.replicate_add]
  rw [← hword, List.replicate_add, drScan, ← updateDr_exiting]
  simp only [jtagReadIdCode, selectDr_eq, shifting_bypass, List.nil_append, hrun]
  rfl

/-- The bits that are shifted for a write of the ABORT register, but the last one. -/
def abortBits (d : DapData) (tdi : Bool) (data : UInt32) : List Bool :=
  List.replicate d.jtagDev.index.toNat tdi ++ List.replicate 3 false ++ bitsOf 31 data ++
    List.replicate (devicesAfter d).toNat (bit data 31)

theorem jtagWriteAbort_eq (d : DapData) (data : UInt32) (tms tdi : Bool) :
    jtagWriteAbort d data ⟨tms, tdi, []⟩ =
      ⟨false, true, drScan tdi (abortBits d tdi data) (bit data 31)⟩ := by
  have hzero : pinTdiOut 0 (shifting (toShiftDr tdi) (List.replicate d.jtagDev.index.toNat tdi) tdi) =
      shifting (toShiftDr tdi) (List.replicate d.jtagDev.index.toNat tdi) false := rfl
  have hthree (bits : List Bool) : bits ++ [false] ++ [false] ++ [false] =
      bits ++ List.replicate 3 false := by
    simp [List.replicate]
  obtain ⟨y, level', hset, hy⟩ := setIrBits_eq (toShiftDr tdi) 31 data
    (List.replicate d.jtagDev.index.toNat tdi ++ List.replicate 3 false) false
  simp only [jtagWriteAbort, selectDr_eq, shifting_bypass, List.nil_append, hzero, shifting_tck,
    hthree, hset, setLast_eq, hy, updateDr_exiting]
  rfl

theorem lastBits_eq (start : List Cycle) (bits : List Bool) (level : Bool) (after x : UInt32) :
    ∃ bits' last, lastBits after x (shifting start bits level) = exiting start bits' last ∧
      bits' ++ [last] = bits ++ bit x 0 :: List.replicate after.toNat true := by
  rw [lastBits]
  split
  next h =>
    have hone : pinTdiOut 1 (jtagCycleTdi x (shifting start bits level)) =
        shifting start (bits ++ [bit x 0]) true := by
      rw [shifting_tdi]
      rfl
    refine ⟨bits ++ [bit x 0] ++ List.replicate (after - 1).toNat true, true, ?_, ?_⟩
    · simp only [hone, shifting_bypass]
      rfl
    · have hcount := replicate_pred (bne_iff_ne.mp h) [] true
      rw [List.nil_append, List.nil_append, List.singleton_append, ← List.replicate_succ,
        List.replicate_succ'] at hcount
      rw [List.append_assoc, List.append_assoc, hcount]
      rfl
  next h =>
    obtain rfl : after = 0 := by simpa using h
    refine ⟨bits, bit x 0, ?_, rfl⟩
    rw [exiting, ← BitStreams.and_one_beq]
    rfl

theorem jtagIr_eq (d : JtagDev) (ir : UInt32) (tms tdi : Bool) :
    ∃ bits last, jtagIr d ir ⟨tms, tdi, []⟩ = ⟨false, true, irScan tdi bits last⟩ ∧
      bits ++ [last] = List.replicate (irBefore d d.index.toNat).toNat true ++
        irBits ir ((irLength d d.index.toNat - 1).toNat + 1) ++
        List.replicate (irAfter d d.index.toNat).toNat true := by
  have hstart : pinTdiOut 1 (JtagIr.toShiftIr ⟨tms, tdi, []⟩) =
      shifting (ScanPath.toShiftIr tdi) [] true := rfl
  obtain ⟨y, level, hset, hy⟩ := setIrBits_eq (ScanPath.toShiftIr tdi)
    (irLength d d.index.toNat - 1).toNat ir
    (List.replicate (irBefore d d.index.toNat).toNat true) true
  obtain ⟨bits, last, hlast, hbits⟩ := lastBits_eq (ScanPath.toShiftIr tdi)
    (List.replicate (irBefore d d.index.toNat).toNat true ++
      bitsOf (irLength d d.index.toNat - 1).toNat ir) level (irAfter d d.index.toNat) y
  refine ⟨bits, last, ?_, ?_⟩
  · rw [irScan, ← show pinTdiOut 1 (updateDr (exiting (ScanPath.toShiftIr tdi) bits last)) =
      ⟨false, true, ScanPath.toShiftIr tdi ++ shifts bits ++ toIdle last⟩ by
        rw [updateDr_exiting]; rfl]
    simp only [jtagIr, hstart, shifting_bypass, List.nil_append, hset, hlast]
    rfl
  · have hsplit : irBits ir ((irLength d d.index.toNat - 1).toNat + 1) =
        bitsOf (irLength d d.index.toNat - 1).toNat ir ++
          [bit ir (irLength d d.index.toNat - 1).toNat] := irBits_succ _ _
    rw [hbits, hy, hsplit, List.append_assoc, List.append_assoc, List.append_assoc,
      List.singleton_append]

end WirelessEsp.JtagDp
