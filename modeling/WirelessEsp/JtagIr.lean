import WirelessEsp.TapController
import WirelessEsp.DapTypes

namespace WirelessEsp.JtagIr

open TapController DapTypes

/-- The levels of TMS and TDI, and the clock cycles so far. -/
structure Port where
  tms : Bool
  tdi : Bool
  cycles : List Cycle

def pinTmsSet (p : Port) : Port := { p with tms := true }
def pinTmsClr (p : Port) : Port := { p with tms := false }
def pinTdiOut (bit : UInt32) (p : Port) : Port := { p with tdi := bit &&& 1 == 1 }

def jtagCycleTck (p : Port) : Port := { p with cycles := p.cycles ++ [⟨p.tms, p.tdi⟩] }
def jtagCycleTdi (tdi : UInt32) (p : Port) : Port := jtagCycleTck (pinTdiOut tdi p)

def bypassBits : Nat → Port → Port
  | 0, p => p
  | n + 1, p => bypassBits n (jtagCycleTck p)

def setIrBits : Nat → UInt32 → Port → UInt32 × Port
  | 0, ir, p => (ir, p)
  | n + 1, ir, p => setIrBits n (ir >>> 1) (jtagCycleTdi ir p)

def irLength (d : JtagDev) (n : Nat) : UInt32 := (d.irLength[n]?.getD 0).toUInt32
def irBefore (d : JtagDev) (n : Nat) : UInt32 := (d.irBefore[n]?.getD 0).toUInt32
def irAfter (d : JtagDev) (n : Nat) : UInt32 := (d.irAfter[n]?.getD 0).toUInt32

def toShiftIr (p : Port) : Port :=
  let p := pinTmsSet p
  let p := jtagCycleTck p
  let p := jtagCycleTck p
  let p := pinTmsClr p
  let p := jtagCycleTck p
  jtagCycleTck p

def lastBits (after ir : UInt32) (p : Port) : Port :=
  if after != 0 then
    let p := jtagCycleTdi ir p
    let p := pinTdiOut 1 p
    let p := bypassBits (after - 1).toNat p
    let p := pinTmsSet p
    jtagCycleTck p
  else
    let p := pinTmsSet p
    jtagCycleTdi ir p

/-- The fast and the slow `JTAG_IR` differ in their delays only. -/
def jtagIr (d : JtagDev) (ir : UInt32) (p : Port) : Port :=
  let n := d.index.toNat
  let p := toShiftIr p
  let p := pinTdiOut 1 p
  let p := bypassBits (irBefore d n).toNat p
  let (ir, p) := setIrBits (irLength d n - 1).toNat ir p
  let p := lastBits (irAfter d n) ir p
  let p := jtagCycleTck p
  let p := pinTmsClr p
  let p := jtagCycleTck p
  pinTdiOut 1 p

def irBits (ir : UInt32) (n : Nat) : List Bool := (List.range n).map ir.toNat.testBit

theorem irBits_succ (ir : UInt32) (n : Nat) :
    irBits ir (n + 1) = irBits ir n ++ [ir.toNat.testBit n] := by
  rw [irBits, irBits, List.range_succ, List.map_append, List.map_singleton]

theorem irBits_cons (ir : UInt32) (n : Nat) :
    irBits ir (n + 1) = ir.toNat.testBit 0 :: irBits (ir >>> 1) n := by
  have hshift : (ir >>> 1).toNat = ir.toNat >>> 1 := UInt32.toNat_shiftRight ir 1
  rw [irBits, irBits, List.range_succ_eq_map, List.map_cons, List.map_map, hshift]
  congr 1
  apply List.map_congr_left
  intro k _
  rw [Function.comp_apply, Nat.testBit_shiftRight, Nat.succ_eq_add_one, Nat.add_comm]

theorem irBits_length (ir : UInt32) (n : Nat) : (irBits ir n).length = n := by
  rw [irBits, List.length_map, List.length_range]

theorem low_bit (x : UInt32) : (x &&& 1 == 1) = x.toNat.testBit 0 := by
  have hand : (x &&& 1).toNat = x.toNat % 2 := Nat.and_one_is_mod _
  have hone : (1 : UInt32).toNat = 1 := rfl
  rw [Nat.testBit_zero, Bool.eq_iff_iff, beq_iff_eq, decide_eq_true_iff, ← UInt32.toNat_inj, hand,
    hone]

def At (state : TapState) (bits : List Bool) (p : Port) : Prop := scan p.cycles = ⟨state, bits⟩

variable {p : Port} {bits : List Bool} {state : TapState}

theorem At.tck (h : At state bits p) (hstate : state ≠ .shiftIr) :
    At (state.next p.tms) bits (jtagCycleTck p) := by
  rw [At, jtagCycleTck, scan_concat, h]
  exact Scan.clock_other hstate _

theorem At.shift (h : At .shiftIr bits p) :
    At (if p.tms then .exit1Ir else .shiftIr) (bits ++ [p.tdi]) (jtagCycleTck p) := by
  rw [At, jtagCycleTck, scan_concat, h]
  exact Scan.clock_shift rfl _

theorem At.shiftTdi (h : At .shiftIr bits p) (ir : UInt32) :
    At (if p.tms then .exit1Ir else .shiftIr) (bits ++ [ir.toNat.testBit 0])
      (jtagCycleTdi ir p) := by
  have hset : At .shiftIr bits (pinTdiOut ir p) := h
  have htdi : (pinTdiOut ir p).tdi = ir.toNat.testBit 0 := low_bit ir
  have hshift := hset.shift
  rw [htdi] at hshift
  exact hshift

theorem bypassBits_levels (n : Nat) (p : Port) :
    (bypassBits n p).tms = p.tms ∧ (bypassBits n p).tdi = p.tdi := by
  induction n generalizing p with
  | zero => exact ⟨rfl, rfl⟩
  | succ n ih => exact ih (jtagCycleTck p)

theorem At.bypassBits (h : At .shiftIr bits p) (htms : p.tms = false) (n : Nat) :
    At .shiftIr (bits ++ List.replicate n p.tdi) (bypassBits n p) := by
  induction n generalizing p bits with
  | zero =>
      rw [List.replicate_zero, List.append_nil]
      exact h
  | succ n ih =>
      have hnext := h.shift
      rw [htms] at hnext
      have hrest := ih (p := jtagCycleTck p) hnext htms
      rw [List.append_assoc, List.singleton_append] at hrest
      rw [List.replicate_succ]
      exact hrest

theorem At.setIrBits (h : At .shiftIr bits p) (htms : p.tms = false) (n : Nat) (ir : UInt32) :
    At .shiftIr (bits ++ irBits ir n) (setIrBits n ir p).2 ∧ (setIrBits n ir p).2.tms = false ∧
      (setIrBits n ir p).1.toNat.testBit 0 = ir.toNat.testBit n := by
  induction n generalizing p bits ir with
  | zero =>
      rw [irBits, List.range_zero, List.map_nil, List.append_nil]
      exact ⟨h, htms, rfl⟩
  | succ n ih =>
      have hnext := h.shiftTdi ir
      rw [htms] at hnext
      obtain ⟨hat, htms', hbit⟩ := ih (p := jtagCycleTdi ir p) hnext htms (ir >>> 1)
      have hshift : (ir >>> 1).toNat = ir.toNat >>> 1 := UInt32.toNat_shiftRight ir 1
      rw [List.append_assoc, List.singleton_append, ← irBits_cons] at hat
      rw [hshift, Nat.testBit_shiftRight, Nat.add_comm] at hbit
      exact ⟨hat, htms', hbit⟩

theorem At.lastBits (h : At .shiftIr bits p) (htms : p.tms = false) (after ir : UInt32) :
    At .exit1Ir (bits ++ ir.toNat.testBit 0 :: List.replicate after.toNat true)
      (lastBits after ir p) ∧ (lastBits after ir p).tms = true := by
  have hsplit (n : Nat) (b : Bool) : bits ++ b :: List.replicate (n + 1) true =
      bits ++ [b] ++ List.replicate n true ++ [true] := by
    rw [List.replicate_succ', List.append_assoc, List.append_assoc, List.singleton_append]
  rw [JtagIr.lastBits]
  split
  next hafter =>
    have hpos : (1 : UInt32) ≤ after := UInt32.le_iff_toNat_le.mpr
      (Nat.one_le_iff_ne_zero.mpr fun hzero => bne_iff_ne.mp hafter (UInt32.toNat_inj.mp hzero))
    have hcount : after.toNat = (after - 1).toNat + 1 := by
      have hsub := UInt32.toNat_sub_of_le _ _ hpos
      have hle := UInt32.le_iff_toNat_le.mp hpos
      have hone : (1 : UInt32).toNat = 1 := rfl
      omega
    have hfirst := h.shiftTdi ir
    rw [htms] at hfirst
    have hset : At .shiftIr (bits ++ [ir.toNat.testBit 0]) (pinTdiOut 1 (jtagCycleTdi ir p)) :=
      hfirst
    have hbypass := hset.bypassBits htms (after - 1).toNat
    have htdi : (pinTmsSet (JtagIr.bypassBits (after - 1).toNat
        (pinTdiOut 1 (jtagCycleTdi ir p)))).tdi = true :=
      (bypassBits_levels (after - 1).toNat (pinTdiOut 1 (jtagCycleTdi ir p))).2
    have hlast : At .shiftIr _ (pinTmsSet (JtagIr.bypassBits (after - 1).toNat
      (pinTdiOut 1 (jtagCycleTdi ir p)))) := hbypass
    have hend := hlast.shift
    rw [htdi] at hend
    rw [hcount, hsplit]
    exact ⟨hend, rfl⟩
  next hafter =>
    have hzero : after = 0 := by simpa using hafter
    have hset : At .shiftIr bits (pinTmsSet p) := h
    rw [hzero]
    exact ⟨hset.shiftTdi ir, rfl⟩

theorem toShiftIr_at (hp : p.cycles = []) :
    At .shiftIr [] (toShiftIr p) ∧ (toShiftIr p).tms = false := by
  refine ⟨?_, rfl⟩
  have hstart : At .runTestIdle [] (pinTmsSet p) := by
    rw [At, pinTmsSet, hp]
    rfl
  have hselect : At .selectIrScan [] (pinTmsClr (jtagCycleTck (jtagCycleTck (pinTmsSet p)))) :=
    (hstart.tck nofun).tck nofun
  exact (hselect.tck nofun).tck nofun

theorem At.toIdle (h : At .exit1Ir bits p) (htms : p.tms = true) :
    At .runTestIdle bits (pinTdiOut 1 (jtagCycleTck (pinTmsClr (jtagCycleTck p)))) := by
  have hexit := h.tck nofun
  rw [htms] at hexit
  have hupdate : At .updateIr bits (pinTmsClr (jtagCycleTck p)) := hexit
  exact hupdate.tck nofun

theorem jtagIr_at (d : JtagDev) (ir : UInt32) (hp : p.cycles = []) :
    At .runTestIdle (List.replicate (irBefore d d.index.toNat).toNat true ++
      irBits ir ((irLength d d.index.toNat - 1).toNat + 1) ++
      List.replicate (irAfter d d.index.toNat).toNat true) (jtagIr d ir p) := by
  obtain ⟨hshift, htms⟩ := toShiftIr_at hp
  have hset : At .shiftIr [] (pinTdiOut 1 (toShiftIr p)) := hshift
  have hbefore := hset.bypassBits htms (irBefore d d.index.toNat).toNat
  have htms := (bypassBits_levels (irBefore d d.index.toNat).toNat
    (pinTdiOut 1 (toShiftIr p))).1.trans htms
  obtain ⟨hbits, htms, hbit⟩ := hbefore.setIrBits htms (irLength d d.index.toNat - 1).toNat ir
  obtain ⟨hlast, htms⟩ := hbits.lastBits htms (irAfter d d.index.toNat) _
  have hidle := hlast.toIdle htms
  rw [hbit, ← List.singleton_append, ← List.append_assoc, List.append_assoc _ (irBits ir _),
    ← irBits_succ] at hidle
  exact hidle

end WirelessEsp.JtagIr
