import Mathlib.Algebra.BigOperators.Intervals
import Mathlib.Algebra.Order.BigOperators.Group.Finset
import Mathlib.Order.Interval.Finset.Nat
import WirelessEsp.CallRecord
import WirelessEsp.JtagIr

namespace WirelessEsp.ScanChain

open Transition DapTypes DapProbe DapTransfer DapCommand CommandSteps CallRecord JtagIr
open TapController

/-- The IR length of device `n`. -/
def len (d : JtagDev) (n : Nat) : Nat := (irLength d n).toNat

/-- The numbers of bits that are kept for each device are those of the devices before it and
after it. -/
structure Consistent (d : JtagDev) : Prop where
  count : d.count.toNat ≤ DAP_JTAG_DEV_CNT
  before (n : Nat) (hn : n < d.count.toNat) :
    (irBefore d n).toNat = ∑ k ∈ Finset.range n, len d k
  after (n : Nat) (hn : n < d.count.toNat) :
    (irAfter d n).toNat = ∑ k ∈ Finset.Ico (n + 1) d.count.toNat, len d k

section Configure

variable {request : Request} {d : JtagDev} {bits : UInt32}

def lengthSum (request : Request) (n : Nat) : Nat :=
  ∑ k ∈ Finset.range n, (request (1 + k)).toNat

theorem lengthSum_succ (request : Request) (n : Nat) :
    lengthSum request (n + 1) = lengthSum request n + (request (1 + n)).toNat :=
  Finset.sum_range_succ _ n

theorem lengthSum_le (request : Request) (n : Nat) : lengthSum request n ≤ n * 255 := by
  induction n with
  | zero => exact Nat.zero_le _
  | succ n ih =>
      have hbyte := (request (1 + n)).toNat_lt
      rw [lengthSum_succ]
      omega

theorem kept_toNat (h : bits.toNat < 2 ^ 16) : bits.toUInt16.toUInt32.toNat = bits.toNat := by
  rw [UInt16.toNat_toUInt32, UInt32.toNat_toUInt16, Nat.mod_eq_of_lt h]

theorem configureBefore_frame (n k : Nat) :
    (configureBefore request d bits n k).1.count = d.count ∧
      (configureBefore request d bits n k).1.index = d.index ∧
      (configureBefore request d bits n k).1.irAfter = d.irAfter := by
  induction k generalizing d bits n with
  | zero => exact ⟨rfl, rfl, rfl⟩
  | succ k ih => exact ih (n + 1)

theorem configureBefore_below {n k j : Nat} (hj : j < n) :
    irLength (configureBefore request d bits n k).1 j = irLength d j ∧
      irBefore (configureBefore request d bits n k).1 j = irBefore d j := by
  induction k generalizing d bits n with
  | zero => exact ⟨rfl, rfl⟩
  | succ k ih =>
      obtain ⟨hlength, hbefore⟩ := @ih _ _ (n + 1) (by omega)
      refine ⟨hlength.trans ?_, hbefore.trans ?_⟩
      · rw [irLength, irLength, Vector.getElem?_setIfInBounds_ne (by omega)]
      · rw [irBefore, irBefore, Vector.getElem?_setIfInBounds_ne (by omega)]

theorem configureBefore_spec {n k : Nat} (hn : n + k ≤ DAP_JTAG_DEV_CNT)
    (hbits : bits.toNat = lengthSum request n) :
    (configureBefore request d bits n k).2.toNat = lengthSum request (n + k) ∧
      ∀ j, n ≤ j → j < n + k →
        len (configureBefore request d bits n k).1 j = (request (1 + j)).toNat ∧
        (irBefore (configureBefore request d bits n k).1 j).toNat = lengthSum request j := by
  induction k generalizing d bits n with
  | zero => exact ⟨hbits, fun j hj hlt => absurd hj (by omega)⟩
  | succ k ih =>
      have hsum := lengthSum_le request n
      have hcount : DAP_JTAG_DEV_CNT = 8 := rfl
      have hnext : (bits + (request (1 + n)).toUInt32).toNat = lengthSum request (n + 1) := by
        have hbyte := (request (1 + n)).toNat_lt
        rw [UInt32.toNat_add, UInt8.toNat_toUInt32, hbits, lengthSum_succ]
        omega
      generalize hd : ({ d with
        irLength := d.irLength.setIfInBounds n (request (1 + n)).toUInt32.toUInt8
        irBefore := d.irBefore.setIfInBounds n bits.toUInt16 } : JtagDev) = d'
      have hrun : configureBefore request d bits n (k + 1) =
          configureBefore request d' (bits + (request (1 + n)).toUInt32) (n + 1) k := by
        rw [configureBefore, hd]
      obtain ⟨hlast, hrest⟩ := @ih d' _ (n + 1) (by omega) hnext
      have hend : n + (k + 1) = n + 1 + k := by omega
      rw [hrun, hend]
      refine ⟨hlast, fun j hj hlt => ?_⟩
      rcases Nat.eq_or_lt_of_le hj with rfl | hlater
      · obtain ⟨hlength, hbefore⟩ := @configureBefore_below request d'
          (bits + (request (1 + n)).toUInt32) (n + 1) k n (by omega)
        have hin : n < DAP_JTAG_DEV_CNT := by omega
        rw [len, hlength, hbefore, ← hd, irLength, irBefore, Vector.getElem?_setIfInBounds_self,
          Vector.getElem?_setIfInBounds_self, if_pos hin, if_pos hin, Option.getD_some,
          Option.getD_some, ← hbits, UInt8.toUInt8_toUInt32, UInt8.toNat_toUInt32]
        exact ⟨rfl, kept_toNat (by omega)⟩
      · exact hrest j hlater hlt

theorem configureAfter_frame (n k : Nat) :
    (configureAfter d bits n k).count = d.count ∧ (configureAfter d bits n k).index = d.index ∧
      (configureAfter d bits n k).irLength = d.irLength ∧
      (configureAfter d bits n k).irBefore = d.irBefore := by
  induction k generalizing d bits n with
  | zero => exact ⟨rfl, rfl, rfl, rfl⟩
  | succ k ih => exact ih (n + 1)

theorem configureAfter_below {n k j : Nat} (hj : j < n) :
    irAfter (configureAfter d bits n k) j = irAfter d j := by
  induction k generalizing d bits n with
  | zero => rfl
  | succ k ih =>
      refine (@ih _ _ (n + 1) (by omega)).trans ?_
      rw [irAfter, irAfter, Vector.getElem?_setIfInBounds_ne (by omega)]

theorem sum_len_le (d : JtagDev) (n m : Nat) : ∑ i ∈ Finset.Ico n m, len d i ≤ (m - n) * 255 := by
  have hbyte : ∀ i ∈ Finset.Ico n m, len d i ≤ 255 := by
    intro i _
    have hlt := (d.irLength[i]?.getD 0).toNat_lt
    rw [len, irLength, UInt8.toNat_toUInt32]
    omega
  have hsum := Finset.sum_le_card_nsmul _ _ _ hbyte
  rw [Nat.card_Ico] at hsum
  exact hsum

theorem configureAfter_spec {n k : Nat} (hn : n + k ≤ DAP_JTAG_DEV_CNT)
    (hbits : bits.toNat = ∑ i ∈ Finset.Ico n (n + k), len d i) :
    ∀ j, n ≤ j → j < n + k → (irAfter (configureAfter d bits n k) j).toNat =
      ∑ i ∈ Finset.Ico (j + 1) (n + k), len d i := by
  induction k generalizing d bits n with
  | zero => exact fun j hj hlt => absurd hj (by omega)
  | succ k ih =>
      have hcount : DAP_JTAG_DEV_CNT = 8 := rfl
      have hend : n + (k + 1) = n + 1 + k := by omega
      have hsplit : ∑ i ∈ Finset.Ico n (n + (k + 1)), len d i =
          len d n + ∑ i ∈ Finset.Ico (n + 1) (n + (k + 1)), len d i :=
        Finset.sum_eq_sum_Ico_succ_bot (by omega) _
      have hsum := sum_len_le d (n + 1) (n + (k + 1))
      generalize hbits' : bits - irLength d n = bits'
      have hnext : bits'.toNat = ∑ i ∈ Finset.Ico (n + 1) (n + 1 + k), len d i := by
        have hle : irLength d n ≤ bits := by
          rw [UInt32.le_iff_toNat_le, hbits, hsplit, len]
          omega
        rw [← hbits', UInt32.toNat_sub_of_le _ _ hle, hbits, hsplit, len, hend]
        omega
      generalize hd : ({ d with
        irAfter := d.irAfter.setIfInBounds n bits'.toUInt16 } : JtagDev) = d'
      have hlen : ∀ i, len d' i = len d i := fun i => by
        rw [← hd]
        rfl
      have hrun : configureAfter d bits n (k + 1) = configureAfter d' bits' (n + 1) k := by
        rw [configureAfter, ← hd, ← hbits']
        rfl
      rw [hrun, hend]
      intro j hj hlt
      rcases Nat.eq_or_lt_of_le hj with rfl | hlater
      · have hin : n < DAP_JTAG_DEV_CNT := by omega
        rw [configureAfter_below (by omega), ← hd, irAfter, Vector.getElem?_setIfInBounds_self,
          if_pos hin, Option.getD_some, ← hnext]
        have hlast := sum_len_le d (n + 1) (n + 1 + k)
        exact kept_toNat (by omega)
      · have hrest := @ih d' bits' (n + 1) (by omega)
        simp only [hlen] at hrest
        exact hrest hnext j hlater hlt

variable {σ : Type}

theorem loops_consistent {c : Nat} (hroom : c ≤ DAP_JTAG_DEV_CNT) (hcount : d.count.toNat = c)
    {first : JtagDev × UInt32} (hfirst : configureBefore request d 0 0 c = first) :
    Consistent (configureAfter first.1 first.2 0 c) ∧
      ∀ n < c, len (configureAfter first.1 first.2 0 c) n = (request (1 + n)).toNat := by
  have hzero : (0 : UInt32).toNat = lengthSum request 0 := rfl
  obtain ⟨hbits, hlens⟩ := @configureBefore_spec request d 0 0 c (by omega) hzero
  obtain ⟨hcountFirst, -, -⟩ := @configureBefore_frame request d 0 0 c
  rw [hfirst, Nat.zero_add] at hbits hlens
  rw [hfirst] at hcountFirst
  have hlen : ∀ n < c, len first.1 n = (request (1 + n)).toNat :=
    fun n hn => (hlens n (Nat.zero_le n) hn).1
  have hprefix : ∀ n ≤ c, lengthSum request n = ∑ k ∈ Finset.range n, len first.1 k := by
    intro n hn
    refine Finset.sum_congr rfl fun k hk => ?_
    exact (hlen k (lt_of_lt_of_le (Finset.mem_range.mp hk) hn)).symm
  have htotal : first.2.toNat = ∑ i ∈ Finset.Ico 0 (0 + c), len first.1 i := by
    rw [Nat.zero_add, ← Finset.range_eq_Ico, hbits, hprefix c le_rfl]
  have hafter := configureAfter_spec (by omega) htotal
  obtain ⟨hcountLast, -, hlengthLast, hbeforeLast⟩ := @configureAfter_frame first.1 first.2 0 c
  have hlenLast : ∀ k, len (configureAfter first.1 first.2 0 c) k = len first.1 k := fun k => by
    rw [len, len, irLength, irLength, hlengthLast]
  have hcount' : (configureAfter first.1 first.2 0 c).count.toNat = c := by
    rw [hcountLast, hcountFirst, hcount]
  refine ⟨⟨by rwa [hcount'], fun n hn => ?_, fun n hn => ?_⟩, fun n hn => ?_⟩
  · rw [hcount'] at hn
    simp only [hlenLast]
    rw [irBefore, hbeforeLast, ← hprefix n (Nat.le_of_lt hn)]
    exact (hlens n (Nat.zero_le n) hn).2
  · rw [hcount'] at hn ⊢
    simp only [hlenLast]
    rw [hafter n (Nat.zero_le n) (by omega), Nat.zero_add]
  · rw [hlenLast, hlen n hn]

def configured (request : Request) (d : JtagDev) : JtagDev :=
  let count := (request 0).toNat
  let first := configureBefore request { d with count := request 0 } 0 0 count
  configureAfter first.1 first.2 0 count

theorem dapJtagConfigure_jtagDev (request : Request) (s : State σ) :
    (dapJtagConfigure request s).state.dapData.jtagDev = configured request s.dapData.jtagDev := rfl

theorem configured_consistent (hroom : (request 0).toNat ≤ DAP_JTAG_DEV_CNT) (d : JtagDev) :
    Consistent (configured request d) ∧
      ∀ n < (request 0).toNat, len (configured request d) n = (request (1 + n)).toNat :=
  loops_consistent (d := { d with count := request 0 }) hroom rfl rfl

def setInside {α : Type} {n : Nat} (xs : Vector α n) (i : Nat) (x : α) : Option (Vector α n) :=
  if i < n then some (xs.setIfInBounds i x) else none

def configureBeforeInside (request : Request) (d : JtagDev) (bits : UInt32) (n : Nat) :
    Nat → Option (JtagDev × UInt32)
  | 0 => some (d, bits)
  | k + 1 => do
      let length := (request (1 + n)).toUInt32
      let irLength ← setInside d.irLength n length.toUInt8
      let irBefore ← setInside d.irBefore n bits.toUInt16
      configureBeforeInside request { d with irLength, irBefore } (bits + length) (n + 1) k

def configureAfterInside (d : JtagDev) (bits : UInt32) (n : Nat) : Nat → Option JtagDev
  | 0 => some d
  | k + 1 => do
      let length ← d.irLength[n]?
      let bits := bits - length.toUInt32
      let irAfter ← setInside d.irAfter n bits.toUInt16
      configureAfterInside { d with irAfter } bits (n + 1) k

def configureInside (request : Request) (d : JtagDev) : Option JtagDev := do
  let count := (request 0).toNat
  let (d, bits) ← configureBeforeInside request { d with count := request 0 } 0 0 count
  configureAfterInside d bits 0 count

theorem setInside_inside {α : Type} {n i : Nat} (h : i < n) (xs : Vector α n) (x : α) :
    setInside xs i x = some (xs.setIfInBounds i x) := if_pos h

theorem setInside_outside {α : Type} {n i : Nat} (h : ¬ i < n) (xs : Vector α n) (x : α) :
    setInside xs i x = none := if_neg h

theorem configureBeforeInside_eq (n k : Nat) : configureBeforeInside request d bits n k =
    if k = 0 ∨ n + k ≤ DAP_JTAG_DEV_CNT then some (configureBefore request d bits n k)
    else none := by
  induction k generalizing d bits n with
  | zero => rfl
  | succ k ih =>
      rw [configureBeforeInside]
      by_cases hin : n < DAP_JTAG_DEV_CNT
      · rw [setInside_inside hin, setInside_inside hin]
        exact (ih (n + 1)).trans (if_congr (by omega) rfl rfl)
      · rw [setInside_outside hin, if_neg (by omega)]
        rfl

theorem configureAfterInside_eq (n k : Nat) : configureAfterInside d bits n k =
    if k = 0 ∨ n + k ≤ DAP_JTAG_DEV_CNT then some (configureAfter d bits n k) else none := by
  induction k generalizing d bits n with
  | zero => rfl
  | succ k ih =>
      rw [configureAfterInside]
      by_cases hin : n < DAP_JTAG_DEV_CNT
      · have hread : d.irLength[n]? = some (d.irLength[n]?.getD 0) := by
          rw [Vector.getElem?_eq_getElem hin, Option.getD_some]
        rw [hread, configureAfter]
        simp only [setInside_inside hin]
        exact (ih (n + 1)).trans (if_congr (by omega) rfl rfl)
      · have hread : d.irLength[n]? = none := Vector.getElem?_eq_none (Nat.not_lt.mp hin)
        rw [hread, if_neg (by omega)]
        rfl

/-- `DAP_JTAG_Configure` writes inside its arrays when they have room for the devices, and then
does what the model says. -/
theorem configureInside_eq : configureInside request d =
    if (request 0).toNat ≤ DAP_JTAG_DEV_CNT then some (configured request d) else none := by
  rw [configureInside]
  simp only [configureBeforeInside_eq]
  by_cases hroom : (request 0).toNat ≤ DAP_JTAG_DEV_CNT
  · rw [if_pos (.inr (by omega)), if_pos hroom]
    exact (configureAfterInside_eq 0 _).trans (if_pos (.inr (by omega)))
  · rw [if_neg (by omega), if_neg hroom]
    rfl

theorem configureInside_isSome :
    (configureInside request d).isSome = true ↔ (request 0).toNat ≤ DAP_JTAG_DEV_CNT := by
  rw [configureInside_eq]
  split
  next hroom => exact ⟨fun _ => hroom, fun _ => rfl⟩
  next hroom => exact ⟨nofun, fun h => absurd h hroom⟩

end Configure

def chainBits (d : JtagDev) (ir : UInt32) : List Bool :=
  (List.range d.count.toNat).flatMap fun k =>
    if k = d.index.toNat then irBits ir (len d k) else List.replicate (len d k) true

/-- `JTAG_IR` shifts one bit for each bit of the chain's registers, those of its instruction in
the place of the selected device, and comes back to Run-Test/Idle. -/
structure Placed (d : JtagDev) (ir : UInt32) : Prop where
  idle (tms tdi : Bool) : (scan (jtagIr d ir ⟨tms, tdi, []⟩).cycles).state = .runTestIdle
  total (tms tdi : Bool) : (scan (jtagIr d ir ⟨tms, tdi, []⟩).cycles).shifted.length =
    ∑ k ∈ Finset.range d.count.toNat, len d k
  bits (tms tdi : Bool) : (scan (jtagIr d ir ⟨tms, tdi, []⟩).cycles).shifted = chainBits d ir

theorem flatMap_ones (f : Nat → Nat) (ks : List Nat) :
    (ks.flatMap fun k => List.replicate (f k) true) = List.replicate (ks.map f).sum true := by
  induction ks with
  | nil => rfl
  | cons k ks ih =>
      rw [List.flatMap_cons, ih, List.map_cons, List.sum_cons, List.replicate_add]

theorem flatMap_other {d : JtagDev} {ir : UInt32} {ks : List Nat}
    (hother : ∀ k ∈ ks, k ≠ d.index.toNat) :
    (ks.flatMap fun k =>
      if k = d.index.toNat then irBits ir (len d k) else List.replicate (len d k) true) =
      List.replicate (ks.map (len d)).sum true := by
  rw [← flatMap_ones]
  apply List.flatMap_congr
  intro k hk
  rw [if_neg (hother k hk)]

theorem chainBits_length (d : JtagDev) (ir : UInt32) :
    (chainBits d ir).length = ∑ k ∈ Finset.range d.count.toNat, len d k := by
  have hlen : ∀ k, (if k = d.index.toNat then irBits ir (len d k)
      else List.replicate (len d k) true).length = len d k := by
    intro k
    split
    · exact irBits_length _ _
    · exact List.length_replicate
  rw [chainBits, List.length_flatMap]
  simp only [hlen]
  rfl

theorem chainBits_split {d : JtagDev} (ir : UInt32) (hvalid : d.index.toNat < d.count.toNat) :
    chainBits d ir = List.replicate (∑ k ∈ Finset.range d.index.toNat, len d k) true ++
      irBits ir (len d d.index.toNat) ++
      List.replicate (∑ k ∈ Finset.Ico (d.index.toNat + 1) d.count.toNat, len d k) true := by
  have hrange : List.range d.count.toNat = List.range d.index.toNat ++ d.index.toNat ::
      List.range' (d.index.toNat + 1) (d.count.toNat - (d.index.toNat + 1)) := by
    have happend := @List.range'_append_1 0 d.index.toNat (d.count.toNat - (d.index.toNat + 1) + 1)
    rw [Nat.zero_add] at happend
    rw [← List.range'_succ, List.range_eq_range', List.range_eq_range', happend]
    congr 1
    omega
  have hbefore : ∀ k ∈ List.range d.index.toNat, k ≠ d.index.toNat :=
    fun k hk => Nat.ne_of_lt (List.mem_range.mp hk)
  have hafter : ∀ k ∈ List.range' (d.index.toNat + 1) (d.count.toNat - (d.index.toNat + 1)),
      k ≠ d.index.toNat := by
    intro k hk
    have hle := (List.mem_range'_1.mp hk).1
    omega
  rw [chainBits, hrange, List.flatMap_append, List.flatMap_cons, flatMap_other hbefore,
    flatMap_other hafter, if_pos rfl, List.append_assoc]
  rfl

theorem placed_of_consistent {d : JtagDev} (h : Consistent d)
    (hvalid : d.index.toNat < d.count.toNat) (hlen : len d d.index.toNat ≠ 0) (ir : UInt32) :
    Placed d ir := by
  have hcount : (irLength d d.index.toNat - 1).toNat + 1 = len d d.index.toNat := by
    have hone : (1 : UInt32).toNat = 1 := rfl
    have hle : (1 : UInt32) ≤ irLength d d.index.toNat :=
      UInt32.le_iff_toNat_le.mpr (Nat.one_le_iff_ne_zero.mpr hlen)
    rw [UInt32.toNat_sub_of_le _ _ hle]
    exact Nat.sub_add_cancel (UInt32.le_iff_toNat_le.mp hle)
  have hscan (tms tdi : Bool) : scan (jtagIr d ir ⟨tms, tdi, []⟩).cycles =
      ⟨.runTestIdle, chainBits d ir⟩ := by
    have hat := @jtagIr_at ⟨tms, tdi, []⟩ d ir rfl
    rw [hcount, h.before _ hvalid, h.after _ hvalid, ← chainBits_split ir hvalid] at hat
    exact hat
  refine ⟨fun tms tdi => congrArg Scan.state (hscan tms tdi), fun tms tdi => ?_,
    fun tms tdi => congrArg Scan.shifted (hscan tms tdi)⟩
  rw [hscan, chainBits_length]

theorem len_ne_zero_of_placed {d : JtagDev} {ir : UInt32} (h : Placed d ir) :
    len d d.index.toNat ≠ 0 := by
  intro hzero
  have hat : scan (jtagIr d ir ⟨false, false, []⟩).cycles = _ :=
    @jtagIr_at ⟨false, false, []⟩ d ir rfl
  have hwrap : (irLength d d.index.toNat - 1).toNat = 2 ^ 32 - 1 := by
    have hempty : irLength d d.index.toNat = 0 := UInt32.toNat_inj.mp hzero
    rw [hempty]
    rfl
  have htotal := h.total false false
  rw [hat, List.length_append, List.length_append, irBits_length, hwrap] at htotal
  have hsum := sum_len_le d 0 d.count.toNat
  have hcount := d.count.toNat_lt
  rw [← Finset.range_eq_Ico] at hsum
  omega

variable {σ : Type} {t : Target} {L : Link σ} {cmd : UInt8} {request : Request}
  {s s' : Recorded σ}

/-- What holds of the scan chain after each command. -/
structure ChainOk (s : Recorded σ) : Prop where
  consistent : Consistent s.dapData.jtagDev
  placed (dev : JtagDev) (ir : UInt32) (h : .jtagIr dev ir ∈ calls s) : Placed dev ir

/-- Each call of `JTAG_IR` was made for a device of a chain that is kept right. -/
structure Inv (s : Recorded σ) : Prop where
  consistent : Consistent s.dapData.jtagDev
  called (dev : JtagDev) (ir : UInt32) (h : .jtagIr dev ir ∈ calls s) :
    Consistent dev ∧ dev.index.toNat < dev.count.toNat

/-- No device without instruction bits has been the selected one of a `JTAG_IR`. -/
def NoneEmpty (s : Recorded σ) : Prop :=
  ∀ dev ir, .jtagIr dev ir ∈ calls s → len dev dev.index.toNat ≠ 0

/-- A `DAP_JTAG_Configure` has no more devices than the arrays have room for. -/
def FitsArrays (request : Request) : Prop :=
  request 0 = ID_DAP_JTAG_Configure → (request 1).toNat ≤ DAP_JTAG_DEV_CNT

/-- A `DAP_JTAG_Configure` writes inside its arrays, whatever they hold. -/
def WritesInside (request : Request) : Prop :=
  request 0 = ID_DAP_JTAG_Configure → ∀ d, (configureInside (request.from 1) d).isSome

theorem writesInside_iff (request : Request) : WritesInside request ↔ FitsArrays request :=
  imp_congr_right fun _ => ⟨fun h => configureInside_isSome.mp (h (dapSetup .esp32).jtagDev),
    fun hroom _ => configureInside_isSome.mpr hroom⟩

theorem boot_inv (t : Target) (w : σ) : Inv (boot t w) := by
  refine ⟨⟨Nat.zero_le _, fun n hn => absurd hn (Nat.not_lt_zero n),
    fun n hn => absurd hn (Nat.not_lt_zero n)⟩, fun _ _ h => absurd h List.not_mem_nil⟩

theorem Inv.record (hi : Inv s) {calls' : List Call} (hcalls : calls s' = calls s ++ calls')
    (hchain : Consistent s'.dapData.jtagDev)
    (hnew : ∀ dev ir, .jtagIr dev ir ∉ calls') : Inv s' := by
  refine ⟨hchain, fun dev ir h => ?_⟩
  rw [hcalls] at h
  exact hi.called dev ir ((List.mem_append.mp h).resolve_right (hnew dev ir))

theorem jtagIr_notMem_pinDelay (slow : Bool) (d : DapData) (dev : JtagDev) (ir : UInt32) :
    .jtagIr dev ir ∉ pinDelay slow d := by
  cases slow <;> simp [pinDelay]

theorem setJtagIndex_consistent (h : Consistent s.dapData.jtagDev) (i : UInt8) :
    Consistent (setJtagIndex i s).dapData.jtagDev := ⟨h.count, h.before, h.after⟩

theorem does_inv (hfits : cmd = ID_DAP_JTAG_Configure → (request 0).toNat ≤ DAP_JTAG_DEV_CNT)
    (hi : Inv s) (h : Does t (recordingLink L) cmd request s s') : Inv s' := by
  have hclock (slow : Bool) : ∀ dev ir, .jtagIr dev ir ∉ pinDelay slow s.dapData :=
    jtagIr_notMem_pinDelay slow s.dapData
  cases h with
  | quiet hf => exact ⟨hi.consistent, fun dev ir h => hi.called dev ir (calls_quiet hf ▸ h)⟩
  | delay hcmd => exact hi.record rfl hi.consistent fun dev ir h => by cases List.mem_singleton.mp h
  | swjSequence count data => exact hi.record rfl hi.consistent (hclock _)
  | swdSequence info data => exact hi.record rfl hi.consistent (hclock _)
  | jtagSequence info data => exact hi.record rfl hi.consistent (hclock _)
  | swdTransfer r stores data => exact hi.record rfl hi.consistent (hclock _)
  | jtagTransfer r stores data => exact hi.record rfl hi.consistent (hclock _)
  | jtagIr ir hvalid =>
      refine ⟨hi.consistent, fun dev ir' h => ?_⟩
      rcases List.mem_append.mp h with h | h
      · exact hi.called dev ir' h
      · rcases List.mem_cons.mp h with h | h
        · obtain ⟨rfl, rfl⟩ := Call.jtagIr.inj h
          exact ⟨hi.consistent, UInt8.lt_iff_toNat_lt.mp (of_decide_eq_true hvalid)⟩
        · exact absurd h (hclock _ dev ir')
  | jtagReadIdCode => exact hi.record rfl hi.consistent (hclock _)
  | jtagWriteAbort data => exact hi.record rfl hi.consistent (hclock _)
  | conf d hdelay hfast hjtag => exact ⟨hjtag ▸ hi.consistent, hi.called⟩
  | index i => exact ⟨setJtagIndex_consistent hi.consistent i, hi.called⟩
  | clock hclock speed => exact ⟨hi.consistent, hi.called⟩
  | configure hcmd =>
      refine ⟨?_, hi.called⟩
      rw [dapJtagConfigure_jtagDev]
      exact (configured_consistent (hfits hcmd) _).1

theorem step_inv (hi : Inv s) (hfits : FitsArrays request)
    (h : step t L s request = some s') : Inv s' := by
  obtain rfl := Option.some.inj h
  have hrequest : request 0 = ID_DAP_JTAG_Configure →
      ((request.from 1) 0).toNat ≤ DAP_JTAG_DEV_CNT := hfits
  have hdoes : ∀ s s' : Recorded σ, Inv s →
      Does t (recordingLink L) (request 0) (request.from 1) s s' → Inv s' :=
    fun _ _ hi h => does_inv hrequest hi h
  exact does_induction hdoes (processCommand_does t _ request s) hi

theorem Inv.chainOk (hi : Inv s) (hlen : NoneEmpty s) : ChainOk s := by
  refine ⟨hi.consistent, fun dev ir h => ?_⟩
  obtain ⟨hdev, hvalid⟩ := hi.called dev ir h
  exact placed_of_consistent hdev hvalid (hlen dev ir h) ir

/-- A run keeps the scan chain right, and writes only inside the device arrays, exactly when no
`DAP_JTAG_Configure` has more than eight devices and no `JTAG_IR` is for a device without
instruction bits. -/
theorem chainOk_run_iff (t : Target) (L : Link σ) (w : σ) (requests : List Request) :
    (Always (step t L) ChainOk (boot t w) requests ∧
      ∀ request ∈ requests, WritesInside request) ↔
    (∀ request ∈ requests, FitsArrays request) ∧
      Always (step t L) NoneEmpty (boot t w) requests := by
  simp only [writesInside_iff]
  constructor
  · rintro ⟨hok, hfits⟩
    exact ⟨hfits, hok.mono fun s hs dev ir h => len_ne_zero_of_placed (hs.placed dev ir h)⟩
  · rintro ⟨hfits, hlen⟩
    refine ⟨?_, hfits⟩
    have hmeets : Meets (step t L) (fun _ request => FitsArrays request ∧ True) (boot t w)
      requests := (meets_of_forall (fun _ _ => trivial) _ _).and_mem hfits
    have hinv := always_of_step (P := Inv) (fun _ _ _ hi hok h => step_inv hi hok.1 h)
      (boot_inv t w) hmeets
    exact (hinv.and hlen).mono fun s hs => hs.1.chainOk hs.2

def nineDevices : Request := fun i => [0x15, 9, 4, 4, 4, 4, 4, 4, 4, 4, 4].getD i 0

theorem not_chainOk_nine : ¬ ∀ (t : Target) (L : Link Unit) (w : Unit) (requests : List Request),
    Always (step t L) ChainOk (boot t w) requests ∧
      ∀ request ∈ requests, WritesInside request := by
  intro h
  obtain ⟨-, hinside⟩ := h .esp32 idleLink () [nineDevices]
  have hsome := hinside nineDevices (List.mem_singleton.mpr rfl) rfl (dapSetup .esp32).jtagDev
  exact absurd (configureInside_isSome.mp hsome) (by decide)

end WirelessEsp.ScanChain
