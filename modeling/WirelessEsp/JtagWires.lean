import WirelessEsp.JtagTarget

namespace WirelessEsp.JtagWires

open DapTypes DapProbe DapTransfer PostedTarget JtagIr ScanPath JtagTarget LinkSimulation
open WaitingTarget (Waiting waiting)
open TapController (Cycle)
open BitStreams (bit bitsOf ofBits)

/-- The levels of TMS and TDI, and the chain behind them. -/
structure Wires (δ : Type) where
  tms : Bool
  tdi : Bool
  chain : Chain δ

section Wires

variable {δ : Type} (U : ScanPath.Registers δ)

def Wires.port (w : Wires δ) : JtagIr.Port := ⟨w.tms, w.tdi, []⟩

def Wires.tdo (w : Wires δ) : JtagDp.Tdo := fun cycles => (w.chain.run U cycles).tdo

def Wires.moved (w : Wires δ) (p : JtagIr.Port) : Wires δ := ⟨p.tms, p.tdi, w.chain.run U p.cycles⟩

/-- A link with the functions of `JTAG_DP.c`; `timer` is what `TIMESTAMP_GET` reads. -/
def jtagLink (base : Link (Wires δ)) (timer : DapData → Chain δ → UInt32) : Link (Wires δ) :=
  { base with
    jtagIr := fun d ir w => w.moved U (jtagIr d.jtagDev ir w.port)
    jtagTransfer := fun d request stores data w =>
      let t := JtagDp.jtagTransfer (w.tdo U) (fun cycles => timer d (w.chain.run U cycles)) d request
        stores data w.port
      ⟨t.ack, t.data, t.timestamp, w.moved U t.world⟩
    jtagReadIdCode := fun d w =>
      let (val, p) := JtagDp.jtagReadIdCode (w.tdo U) d w.port
      (val, w.moved U p)
    jtagWriteAbort := fun d data w => w.moved U (JtagDp.jtagWriteAbort d data w.port)
    clearTransferAbort := id
    dapTransferAbort := fun _ => false
    garbage := 0 }

end Wires

variable {τ ω : Type} (T : PostedTarget.Registers τ) (time : τ → UInt32)
  (other : ScanPath.Registers ω)

structure Still (ω : Type) where
  irLength : Nat
  unit : ω

def still {δ : Type} (t : Device δ) : Still δ := ⟨t.irLength, t.unit⟩

/-- The selected device of a chain, between two lists of other of devices. -/
structure Site (δ : Type) where
  before : List (Still δ)
  after : List (Still δ)
  length : Nat

def lengths {δ : Type} (ts : List (Still δ)) : Nat := total Still.irLength ts

/-- `DAP_Data` knows the chain as it is. -/
structure Site.Known {δ : Type} (site : Site δ) (d : JtagDev) : Prop where
  index : site.before.length = d.index.toNat
  count : site.before.length + 1 + site.after.length = d.count.toNat
  bitsBefore : (irBefore d d.index.toNat).toNat = lengths site.before
  bitsAfter : (irAfter d d.index.toNat).toNat = lengths site.after
  bits : (irLength d d.index.toNat).toNat = site.length
  decodes : 4 ≤ site.length

/-- The chain is in Run-Test/Idle, the debug port `x` in its place, and all is as it was in the
other devices. With an instruction that has been selected these are bypassed. -/
structure Sits {δ : Type} (site : Site (DebugUnit τ ⊕ δ)) (ir : UInt32) (c : Chain (DebugUnit τ ⊕ δ))
    (x : DebugUnit τ) : Prop where
  idle : c.state = .runTestIdle
  devices : ∃ bs t as, c.devices = bs ++ t :: as ∧ bs.map still = site.before ∧
    as.map still = site.after ∧ t.irLength = site.length ∧ t.unit = .inl x ∧
    (ir ≠ 0 → t.instruction = irBits ir t.irLength ∧ ∀ u ∈ bs ++ as, u.bypassed = true)

theorem bypassed_replicate {δ : Type} (t : Device δ) (n : Nat) :
    (Device.updateIr (List.replicate n true) t).bypassed = true := by
  rw [Device.bypassed, Device.updateIr]
  simp

theorem deal_ones {δ : Type} (ts : List (Device δ)) :
    (∀ u ∈ deal Device.irLength Device.updateIr
        (List.replicate (lengths (ts.map still)) true) ts, u.bypassed = true) ∧
      (deal Device.irLength Device.updateIr
        (List.replicate (lengths (ts.map still)) true) ts).map still = ts.map still := by
  induction ts with
  | nil => exact ⟨fun u hu => absurd hu List.not_mem_nil, rfl⟩
  | cons t ts ih =>
      have hsum : lengths ((t :: ts).map still) = t.irLength + lengths (ts.map still) := rfl
      have htake : (List.replicate (lengths ((t :: ts).map still)) true).take t.irLength =
          List.replicate t.irLength true := by
        rw [hsum, List.take_replicate, Nat.min_eq_left (Nat.le_add_right _ _)]
      have hdrop : (List.replicate (lengths ((t :: ts).map still)) true).drop t.irLength =
          List.replicate (lengths (ts.map still)) true := by
        rw [hsum, List.drop_replicate, Nat.add_sub_cancel_left]
      rw [deal, htake, hdrop]
      constructor
      · intro u hu
        rcases List.mem_cons.mp hu with rfl | hu
        · exact bypassed_replicate t _
        · exact ih.1 u hu
      · rw [List.map_cons, List.map_cons, ih.2]
        rfl

theorem lengths_still {δ : Type} (ts : List (Device δ)) :
    lengths (ts.map still) = total Device.irLength ts := List.foldr_map

variable {T time other} {site : Site (DebugUnit τ ⊕ ω)} {d : DapData}
  {w : Wires (DebugUnit τ ⊕ ω)} {x : DebugUnit τ} {ir ir' : UInt32}

theorem jtagIr_sits (U : ScanPath.Registers (DebugUnit τ ⊕ ω)) (hd : site.Known d.jtagDev)
    (h : Sits site ir' w.chain x) (ir : UInt32) :
    Sits site ir (w.moved U (jtagIr d.jtagDev ir w.port)).chain x := by
  obtain ⟨bs, t, as, hdevices, hbs, has, hlength, hunit, -⟩ := h.devices
  obtain ⟨bits, last, hrun, hbits⟩ := JtagDp.jtagIr_eq d.jtagDev ir w.tms w.tdi
  have hone : (irLength d.jtagDev d.jtagDev.index.toNat - 1).toNat + 1 = site.length := by
    have hdecodes := hd.decodes
    have hle : (1 : UInt32) ≤ irLength d.jtagDev d.jtagDev.index.toNat := by
      rw [UInt32.le_iff_toNat_le, hd.bits]
      exact Nat.le_trans (by decide) hdecodes
    rw [UInt32.toNat_sub_of_le _ _ hle, hd.bits]
    exact Nat.sub_add_cancel (Nat.le_trans (by decide) hdecodes)
  rw [hone, hd.bitsBefore, hd.bitsAfter] at hbits
  have hsum : total Device.irLength w.chain.devices =
      lengths site.before + site.length + lengths site.after := by
    rw [hdevices, total_append, total_cons, ← hbs, ← has, lengths_still, lengths_still, hlength,
      Nat.add_assoc]
  have htotal : (bits ++ [last]).length = total Device.irLength w.chain.devices := by
    rw [hbits, hsum, List.length_append, List.length_append, List.length_replicate,
      List.length_replicate, irBits_length]
  have hchain : (w.moved U (jtagIr d.jtagDev ir w.port)).chain =
      w.chain.run U (irScan w.tdi bits last) := by
    rw [Wires.moved, Wires.port, hrun]
  rw [hchain, run_irScan h.idle w.tdi htotal]
  refine ⟨rfl, ?_⟩
  have hwidth : (List.replicate (lengths site.before) true).length = total Device.irLength bs := by
    rw [List.length_replicate, ← hbs, lengths_still]
  have hdeal : deal Device.irLength Device.updateIr
      (List.replicate (lengths site.before) true ++ irBits ir site.length ++
        List.replicate (lengths site.after) true) (bs ++ t :: as) = _ :=
    deal_one hwidth (by rw [irBits_length, hlength])
  rw [Chain.instructed, hdevices, hbits, hdeal]
  have honesBefore := deal_ones bs
  have honesAfter := deal_ones as
  rw [hbs] at honesBefore
  rw [has] at honesAfter
  refine ⟨_, _, _, rfl, honesBefore.2, honesAfter.2, hlength, hunit, fun _ => ⟨?_, ?_⟩⟩
  · rw [Device.updateIr, hlength]
  · intro u hu
    rcases List.mem_append.mp hu with hu | hu
    · exact honesBefore.1 u hu
    · exact honesAfter.1 u hu

section Scan

variable {U : ScanPath.Registers (DebugUnit τ ⊕ ω)} {c : Chain (DebugUnit τ ⊕ ω)}

theorem not_bypassed {n : Nat} (hn : 4 ≤ n) (hir : ir.toNat < 15) :
    (irBits ir n).all id = false := by
  rw [Bool.eq_false_iff]
  intro hall
  have hbit : ∀ i < 4, ir.toNat.testBit i = true := by
    intro i hi
    have hmem : ir.toNat.testBit i ∈ irBits ir n :=
      List.mem_map_of_mem (List.mem_range.mpr (by omega))
    exact List.all_eq_true.mp hall _ hmem
  have hfour : ∀ v < 15, ¬ ∀ i < 4, Nat.testBit v i = true := by decide
  exact hfour _ hir hbit

def capturedBy (U : ScanPath.Registers (DebugUnit τ ⊕ ω)) (site : Site (DebugUnit τ ⊕ ω))
    (ir : UInt32) (x : DebugUnit τ) : List Bool := U.capture (irBits ir site.length) (.inl x)

def scannedPath (U : ScanPath.Registers (DebugUnit τ ⊕ ω)) (c : Chain (DebugUnit τ ⊕ ω))
    (bits : List Bool) : List Bool := (c.captured U ++ bits).drop bits.length

theorem scannedPath_length (bits : List Bool) :
    (scannedPath U c bits).length = (c.captured U).length := by
  rw [scannedPath, List.length_drop, List.length_append, Nat.add_sub_cancel]

theorem scannedPath_full {bits : List Bool} (h : bits.length = (c.captured U).length) :
    scannedPath U c bits = bits := by
  rw [scannedPath, h, List.drop_left]

theorem captured_eq (hdecodes : 4 ≤ site.length) (hir : ir.toNat < 15) (hne : ir ≠ 0)
    (h : Sits site ir c x) :
    c.captured U = List.replicate site.before.length false ++ capturedBy U site ir x ++
      List.replicate site.after.length false := by
  obtain ⟨bs, t, as, hdevices, hbs, has, hlength, hunit, hinstruction⟩ := h.devices
  obtain ⟨hir', hothers⟩ := hinstruction hne
  have ht : t.captureDr U = capturedBy U site ir x := by
    rw [Device.captureDr, Device.bypassed, hir', hlength, not_bypassed hdecodes hir, hunit]
    rfl
  have hbefore := @captured_bypassed _ U bs fun u hu => hothers u (List.mem_append_left as hu)
  have hafter := @captured_bypassed _ U as fun u hu => hothers u (List.mem_append_right bs hu)
  rw [Chain.captured, hdevices, List.flatMap_append, List.flatMap_cons, hbefore, hafter, ht, ← hbs,
    ← has, List.length_map, List.length_map, List.append_assoc]

theorem drScan_sits (hdecodes : 4 ≤ site.length) (hir : ir.toNat < 15) (hne : ir ≠ 0)
    (h : Sits site ir c x) (tdi : Bool) (bits : List Bool) (last : Bool) {x' : DebugUnit τ}
    (hupdate : U.update (irBits ir site.length)
      (((scannedPath U c (bits ++ [last])).drop site.before.length).take
        (capturedBy U site ir x).length) (.inl x) = .inl x') :
    Sits site ir (c.run U (drScan tdi bits last)) x' := by
  have hlen := @scannedPath_length _ _ U c (bits ++ [last])
  rw [captured_eq hdecodes hir hne h, List.length_append, List.length_append, List.length_replicate,
    List.length_replicate] at hlen
  have hscan := @run_drScan _ U c h.idle tdi bits last
  have hpath : (c.captured U ++ (bits ++ [last])).drop (bits.length + 1) =
      scannedPath U c (bits ++ [last]) := by
    rw [scannedPath, List.length_append]
    rfl
  rw [hpath] at hscan
  rw [hscan]
  generalize scannedPath U c (bits ++ [last]) = path at hlen hupdate
  obtain ⟨bs, t, as, hdevices, hbs, has, hlength, hunit, hinstruction⟩ := h.devices
  obtain ⟨hir', hothers⟩ := hinstruction hne
  have hbypassed : t.bypassed = false := by
    rw [Device.bypassed, hir', hlength, not_bypassed hdecodes hir]
  have ht : t.captureDr U = capturedBy U site ir x := by
    rw [Device.captureDr, hbypassed, hunit, hir', hlength]
    rfl
  have hnew : t.updateDr U ((path.drop site.before.length).take (capturedBy U site ir x).length) =
      { t with unit := .inl x' } := by
    rw [Device.updateDr, hbypassed, hunit, hir', hlength, hupdate]
    rfl
  have hparts : path = path.take site.before.length ++
      (path.drop site.before.length).take (capturedBy U site ir x).length ++
      (path.drop site.before.length).drop (capturedBy U site ir x).length := by
    rw [List.append_assoc, List.take_append_drop, List.take_append_drop]
  have hbefore : ∀ u ∈ bs, u.bypassed = true := fun u hu => hothers u (List.mem_append_left as hu)
  have hafter : ∀ u ∈ as, u.bypassed = true := fun u hu => hothers u (List.mem_append_right bs hu)
  have hfirst : (path.take site.before.length).length =
      total (fun t => (t.captureDr U).length) bs := by
    rw [width_bypassed hbefore, List.length_take, ← hbs, List.length_map]
    rw [← hbs, List.length_map] at hlen
    omega
  have hsecond : ((path.drop site.before.length).take (capturedBy U site ir x).length).length =
      (t.captureDr U).length := by
    rw [ht, List.length_take, List.length_drop]
    omega
  have hdeal : c.updated U path = bs ++ { t with unit := .inl x' } :: as := by
    rw [Chain.updated, hdevices, hparts, deal_one hfirst hsecond, hnew,
      deal_fixed fun u hu bits => updateDr_bypassed (hbefore u hu) bits,
      deal_fixed fun u hu bits => updateDr_bypassed (hafter u hu) bits]
  refine ⟨rfl, bs, _, as, hdeal, hbs, has, hlength, rfl, fun _ => ⟨hir', hothers⟩⟩

theorem tdo_selected (hdecodes : 4 ≤ site.length) (hir : ir.toNat < 15) (hne : ir ≠ 0)
    (h : Sits site ir w.chain x) (tdi : Bool) {bits : List Bool} {i : Nat}
    (hbits : bits.length = site.before.length + i) (hi : i < (capturedBy U site ir x).length) :
    JtagDp.tdoAt (w.tdo U) (toShiftDr tdi) bits = (capturedBy U site ir x).getD i true := by
  have hcaptured := @captured_eq _ _ site x ir U w.chain hdecodes hir hne h
  have hlt : bits.length < (w.chain.captured U).length := by
    rw [hcaptured, List.length_append, List.length_append, List.length_replicate, hbits]
    omega
  have htdo := tdo_shifts h.idle tdi hlt
  have hlen : (List.replicate site.before.length false).length = site.before.length :=
    List.length_replicate
  rw [hcaptured, List.getD_eq_getElem?_getD, List.append_assoc,
    List.getElem?_append_right (by omega), hlen, hbits, Nat.add_sub_cancel_left,
    List.getElem?_append_left hi] at htdo
  rw [List.getD_eq_getElem?_getD, ← htdo]
  rfl

end Scan

/-- The time of the last answer of the selected device. -/
def timer (d : DapData) (c : Chain (DebugUnit τ ⊕ ω)) : UInt32 :=
  match c.devices[d.jtagDev.index.toNat]?.map Device.unit with
  | some (.inl x) => x.now
  | _ => 0

/-- The wires and the debug port behind them, once as a chain, once in one step. -/
def Joined (site : Site (DebugUnit τ ⊕ ω)) :
    Relation (Wires (DebugUnit τ ⊕ ω)) (Waiting (World τ)) := fun ir s w' =>
  site.Known s.dapData.jtagDev ∧ (ir = 0 ∨ ∃ value, ir = irOf value) ∧
    (ir ≠ 0 → w'.world.ir = ir) ∧
    ∃ x, Sits site ir s.world.chain x ∧ x.dap = w'.world.dap ∧ x.waits = w'.waits

theorem timer_eq {c : Chain (DebugUnit τ ⊕ ω)} (hd : site.Known d.jtagDev) (h : Sits site ir c x) :
    timer d c = x.now := by
  obtain ⟨bs, t, as, hdevices, hbs, has, hlength, hunit, -⟩ := h.devices
  have hlen : bs.length = d.jtagDev.index.toNat := by rw [← hd.index, ← hbs, List.length_map]
  rw [timer, hdevices, ← hlen, List.getElem?_append_right (Nat.le_refl _), Nat.sub_self,
    List.getElem?_cons_zero, Option.map_some, hunit]

theorem devicesAfter_eq (hd : site.Known d.jtagDev) :
    (JtagDp.devicesAfter d).toNat = site.after.length := by
  have hindex := hd.index
  have hcount := hd.count
  have hlt := d.jtagDev.count.toNat_lt
  have hone : (1 : UInt32).toNat = 1 := rfl
  rw [JtagDp.devicesAfter, UInt32.toNat_sub, UInt32.toNat_sub, UInt8.toNat_toUInt32,
    UInt8.toNat_toUInt32, hone]
  omega

theorem irOf_cases (value : UInt32) : irOf value = JTAG_APACC ∨ irOf value = JTAG_DPACC := by
  rw [irOf]
  split
  · exact .inl rfl
  · exact .inr rfl

section Access

variable (hd : site.Known d.jtagDev) {value : UInt32} (h : Sits site (irOf value) w.chain x)

theorem irOf_lt (value : UInt32) : (irOf value).toNat < 2 ^ 4 ∧ (irOf value).toNat < 15 := by
  rcases irOf_cases value with h | h <;> rw [h] <;> decide

include hd in
theorem instruction_eq (value : UInt32) :
    instructionOf (irBits (irOf value) site.length) = irOf value :=
  instructionOf_irBits hd.decodes (irOf_lt value).1

include hd in
theorem capturedBy_eq (value : UInt32) (x : DebugUnit τ) :
    capturedBy (jtagRegisters T time other) site (irOf value) x = x.capture := by
  simp only [capturedBy, jtagRegisters, instruction_eq hd]
  rcases irOf_cases value with h | h <;> rw [h] <;> rfl

include hd in
theorem update_eq (value : UInt32) (bits : List Bool) (x : DebugUnit τ) :
    (jtagRegisters T time other).update (irBits (irOf value) site.length) bits (.inl x) =
      .inl (x.update T time (irOf value == JTAG_APACC) bits) := by
  simp only [jtagRegisters, instruction_eq hd]
  rcases irOf_cases value with h | h <;> rw [h] <;> rfl

include hd h in
theorem tdo_capture (tdi : Bool) {bits : List Bool} {i : Nat}
    (hbits : bits.length = d.jtagDev.index.toNat + i) (hi : i < 35) :
    JtagDp.tdoAt (w.tdo (jtagRegisters T time other)) (toShiftDr tdi) bits =
      x.capture.getD i true := by
  rw [← @capturedBy_eq _ _ T time other _ _ hd value x]
  refine tdo_selected hd.decodes (irOf_lt value).2 (irOf_selected value) h tdi ?_ ?_
  · rw [hbits, hd.index]
  · rw [capturedBy_eq hd, capture_length]
    exact hi

include hd h in
theorem ackRead_eq (tdi : Bool) (request : UInt32) :
    JtagDp.ackRead (w.tdo (jtagRegisters T time other)) d tdi request =
      JtagDp.ackOf (x.capture.getD 0 true) (x.capture.getD 1 true) (x.capture.getD 2 true) := by
  have hlen : (List.replicate d.jtagDev.index.toNat tdi).length = d.jtagDev.index.toNat :=
    List.length_replicate
  rw [JtagDp.ackRead, tdo_capture hd h tdi (i := 0) hlen (by omega),
    tdo_capture hd h tdi (i := 1) (by rw [List.length_append, hlen]; rfl) (by omega),
    tdo_capture hd h tdi (i := 2) (by rw [List.length_append, hlen]; rfl) (by omega)]

include hd h in
theorem wordRead_eq (tdi : Bool) (request : UInt32) :
    JtagDp.wordRead (w.tdo (jtagRegisters T time other)) d tdi request = x.dap.result := by
  have hword : ∀ i < 32, x.capture.getD (3 + i) true = bit x.dap.result i := by
    intro i hi
    have hget : ∀ bits : List Bool, bits.length = 3 →
        (bits ++ bitsOf 32 x.dap.result).getD (3 + i) true = bit x.dap.result i := by
      intro bits hbits
      rw [List.getD_eq_getElem?_getD, List.getElem?_append_right (by omega), hbits,
        Nat.add_sub_cancel_left, bitsOf, List.getElem?_map, List.getElem?_range hi]
      rfl
    rw [DebugUnit.capture]
    split
    · exact hget _ rfl
    · exact hget _ rfl
  apply BitStreams.eq_of_bit
  intro i hi
  have hlen : (JtagDp.transferHead d tdi request ++ List.replicate i (bit request 3)).length =
      d.jtagDev.index.toNat + (3 + i) := by
    rw [JtagDp.transferHead, List.length_append, List.length_append, List.length_replicate,
      List.length_replicate, Nat.add_assoc]
    rfl
  rw [JtagDp.wordRead, BitStreams.bit_ofBits _ hi, tdo_capture hd h tdi hlen (by omega), hword i hi]

theorem bitsOf_concat (n : Nat) (data : UInt32) :
    bitsOf n data ++ [bit data n] = bitsOf (n + 1) data := by
  rw [bitsOf, bitsOf, List.range_succ, List.map_append]
  rfl

theorem transferBits_word (d : DapData) (request data : UInt32) :
    ∃ word rest, JtagDp.transferBits d request data true ++ [JtagDp.transferLast request data true] =
        word ++ rest ∧ word.length = 32 ∧ rest.length = (JtagDp.devicesAfter d).toNat ∧
      (has request DAP_TRANSFER_RnW = false → word = bitsOf 32 data) := by
  rw [JtagDp.transferBits, JtagDp.transferLast]
  by_cases hrnw : has request DAP_TRANSFER_RnW = true
  · refine ⟨List.replicate 32 (bit request 3),
      List.replicate (JtagDp.devicesAfter d).toNat (bit request 3), ?_, List.length_replicate,
      List.length_replicate, fun h => absurd (h.symm.trans hrnw) Bool.false_ne_true⟩
    have hsum : 31 + (JtagDp.devicesAfter d).toNat + 1 = 32 + (JtagDp.devicesAfter d).toNat := by
      omega
    simp only [hrnw, Bool.not_true, Bool.false_eq_true, if_false, if_true, Bool.and_false]
    rw [← List.replicate_succ', hsum, List.replicate_add]
  · have hrnw' := Bool.eq_false_iff.mpr hrnw
    refine ⟨bitsOf 32 data, List.replicate (JtagDp.devicesAfter d).toNat (bit data 31), ?_,
      BitStreams.bitsOf_length 32 data, List.length_replicate, fun _ => rfl⟩
    simp only [hrnw', Bool.not_true, Bool.false_eq_true, if_false, Bool.not_false, Bool.and_self,
      if_true]
    rw [← bitsOf_concat, List.append_assoc, ← List.replicate_succ', List.replicate_succ,
      List.append_assoc]
    rfl

include hd h in
theorem scan_served (tdi : Bool) (request data : UInt32) :
    ∃ word, (has request DAP_TRANSFER_RnW = false → wordOf word = data) ∧
      Sits site (irOf value) (w.chain.run (jtagRegisters T time other)
        (drScan tdi (JtagDp.transferHead d tdi request ++ JtagDp.transferBits d request data true)
          (JtagDp.transferLast request data true)))
        (x.update T time (irOf value == JTAG_APACC) (accessBits request word)) := by
  obtain ⟨word, rest, hbits, hword, hrest, hdata⟩ := transferBits_word d request data
  refine ⟨word, fun hwrite => by rw [hdata hwrite, wordOf_bitsOf], ?_⟩
  have hcaptured := @captured_eq _ _ site x (irOf value) (jtagRegisters T time other) w.chain
    hd.decodes (irOf_lt value).2 (irOf_selected value) h
  rw [capturedBy_eq hd] at hcaptured
  have hall : JtagDp.transferHead d tdi request ++ JtagDp.transferBits d request data true ++
      [JtagDp.transferLast request data true] =
      List.replicate site.before.length tdi ++ (accessBits request word ++ rest) := by
    rw [List.append_assoc, hbits, JtagDp.transferHead, hd.index, accessBits, List.append_assoc,
      List.append_assoc]
  have haccess : (accessBits request word).length = 35 := by
    rw [accessBits, List.length_append, hword]
    rfl
  have hfull : (List.replicate site.before.length tdi ++ (accessBits request word ++ rest)).length =
      (w.chain.captured (jtagRegisters T time other)).length := by
    rw [hcaptured, List.length_append, List.length_append, List.length_append, List.length_append,
      List.length_replicate, List.length_replicate, List.length_replicate, haccess, capture_length,
      hrest, devicesAfter_eq hd, Nat.add_assoc]
  apply drScan_sits hd.decodes (irOf_lt value).2 (irOf_selected value) h
  have hdrop : (List.replicate site.before.length tdi ++ (accessBits request word ++ rest)).drop
      site.before.length = accessBits request word ++ rest := by
    have hdrop := @List.drop_left _ (List.replicate site.before.length tdi)
      (accessBits request word ++ rest)
    rwa [List.length_replicate] at hdrop
  rw [hall, scannedPath_full hfull, hdrop, capturedBy_eq hd, capture_length, ← haccess,
    List.take_left, update_eq hd]

include hd h in
theorem scan_waiting {now : UInt32} {times : List UInt32} {rest : List (List UInt32)}
    (hwaits : x.waits = (now :: times) :: rest) (tdi : Bool) (bits : List Bool) (last : Bool) :
    Sits site (irOf value)
      (w.chain.run (jtagRegisters T time other) (drScan tdi bits last))
      { x with waits := times :: rest, now } := by
  apply drScan_sits hd.decodes (irOf_lt value).2 (irOf_selected value) h
  rw [update_eq hd, update_waiting hwaits]

end Access

variable {base : Link (Wires (DebugUnit τ ⊕ ω))}

theorem moved_chain {U : ScanPath.Registers (DebugUnit τ ⊕ ω)} {scan : List Cycle}
    (h : (w.chain.run U scan).state = .runTestIdle) (n : Nat) :
    (w.moved U (bypassBits n ⟨false, true, scan⟩)).chain = w.chain.run U scan := by
  rw [JtagDp.idle_cycles, Wires.moved, run_append, run_idle h]

theorem jtagTransfer_waiting (hd : site.Known d.jtagDev) {value : UInt32}
    (h : Sits site (irOf value) w.chain x) {now : UInt32} {times : List UInt32}
    {rest : List (List UInt32)} (hwaits : x.waits = (now :: times) :: rest) (request : UInt32)
    (stores : Bool) (data : UInt32) :
    ∃ w₁, (jtagLink (jtagRegisters T time other) base timer).jtagTransfer d request stores data w =
        ⟨DAP_TRANSFER_WAIT, data,
          if has request DAP_TRANSFER_TIMESTAMP then now else d.timestamp, w₁⟩ ∧
      Sits site (irOf value) w₁.chain { x with waits := times :: rest, now } := by
  have hack : JtagDp.ackRead (w.tdo (jtagRegisters T time other)) d w.tdi request = 2 := by
    rw [ackRead_eq hd h, capture_waiting hwaits]
    exact (by decide : JtagDp.ackOf true false false = 2)
  have hok : ((2 : UInt32) == DAP_TRANSFER_OK.toUInt32) = false := rfl
  have hscan := @scan_waiting _ _ T time other _ _ _ _ hd _ h _ _ _ hwaits w.tdi
    (JtagDp.transferHead d w.tdi request ++ JtagDp.transferBits d request data false)
    (JtagDp.transferLast request data false)
  have htimer := timer_eq hd hscan
  refine ⟨w.moved (jtagRegisters T time other) (bypassBits d.transfer.idleCycles.toNat
    ⟨false, true, drScan w.tdi
      (JtagDp.transferHead d w.tdi request ++ JtagDp.transferBits d request data false)
      (JtagDp.transferLast request data false)⟩), ?_, ?_⟩
  · simp only [jtagLink, Wires.port, JtagDp.jtagTransfer_eq, hack, hok, Bool.false_and,
      Bool.false_eq_true, if_false, htimer]
    rfl
  · rw [moved_chain hscan.idle]
    exact hscan

theorem jtagTransfer_served (hd : site.Known d.jtagDev) {value : UInt32}
    (h : Sits site (irOf value) w.chain x) (hwaits : ∀ times ∈ x.waits.head?, times = [])
    (request : UInt32) (stores : Bool) (data : UInt32) :
    let result := x.dap.transfer T true (irOf value == JTAG_APACC) request data
    ∃ w₁, (jtagLink (jtagRegisters T time other) base timer).jtagTransfer d request stores data w =
        ⟨DAP_TRANSFER_OK,
          if has request DAP_TRANSFER_RnW && stores then x.dap.result else data,
          if has request DAP_TRANSFER_TIMESTAMP then time result.2.regs else d.timestamp, w₁⟩ ∧
      Sits site (irOf value) w₁.chain
        { x with dap := result.2, waits := x.waits.tail, now := time result.2.regs } := by
  intro result
  have hack : JtagDp.ackRead (w.tdo (jtagRegisters T time other)) d w.tdi request = 1 := by
    rw [ackRead_eq hd h, capture_served hwaits]
    exact (by decide : JtagDp.ackOf false true false = 1)
  have hok : ((1 : UInt32) == DAP_TRANSFER_OK.toUInt32) = true := rfl
  obtain ⟨word, hword, hscan⟩ := @scan_served _ _ T time other _ _ _ _ hd _ h w.tdi request data
  have hupdate : x.update T time (irOf value == JTAG_APACC) (accessBits request word) =
      { x with dap := result.2, waits := x.waits.tail, now := time result.2.regs } := by
    have hresult : result.2 = if has request DAP_TRANSFER_RnW then
        (x.dap.read T true (irOf value == JTAG_APACC) request).2
        else x.dap.write T (irOf value == JTAG_APACC) request (wordOf word) := by
      by_cases hrnw : has request DAP_TRANSFER_RnW = true
      · rw [if_pos hrnw]
        simp only [result, DebugPort.transfer, if_pos hrnw]
      · rw [if_neg hrnw, hword (Bool.eq_false_iff.mpr hrnw)]
        simp only [result, DebugPort.transfer, if_neg hrnw]
    rw [update_served hwaits, hresult]
  rw [hupdate] at hscan
  have htimer := timer_eq hd hscan
  refine ⟨w.moved (jtagRegisters T time other) (bypassBits d.transfer.idleCycles.toNat
    ⟨false, true, drScan w.tdi
      (JtagDp.transferHead d w.tdi request ++ JtagDp.transferBits d request data true)
      (JtagDp.transferLast request data true)⟩), ?_, ?_⟩
  · simp only [jtagLink, Wires.port, JtagDp.jtagTransfer_eq, hack, hok, Bool.true_and, htimer,
      wordRead_eq hd h]
    rfl
  · rw [moved_chain hscan.idle]
    exact hscan

theorem transfer_data (dap : DebugPort τ) (ap : Bool) (request data : UInt32) :
    (dap.transfer T true ap request data).1 =
      if has request DAP_TRANSFER_RnW then dap.result else data := by
  rw [DebugPort.transfer]
  split
  · rw [DebugPort.read]
    split <;> rfl
  · rfl

theorem joined_once (ir : UInt32) (s : State (Wires (DebugUnit τ ⊕ ω))) (w' : Waiting (World τ))
    (request : UInt32) (stores : Bool) (data : UInt32) (hir : Selected ir)
    (h : Joined site ir s w') :
    let result := jtagTransfer (jtagLink (jtagRegisters T time other) base timer) request stores data s
    ∃ w'', jtagTransfer (waiting (timedLink T time)) request stores data (inWorld s w') =
        (result.1, result.2.1, inWorld result.2.2 w'') ∧
      Joined site ir result.2.2 w'' := by
  obtain ⟨hd, hknown, hworld, x, hsits, hdap, hwaits⟩ := h
  obtain rfl | ⟨value, rfl⟩ := hknown
  · exact absurd rfl hir
  by_cases hready : ∀ times ∈ w'.waits.head?, times = []
  · have hready' : ∀ times ∈ x.waits.head?, times = [] := by rwa [hwaits]
    obtain ⟨w₁, hrun, hsits₁⟩ := @jtagTransfer_served _ _ T time other _ _ _ _ base hd _ hsits
      hready' request stores data
    have hir' := hworld (irOf_selected value)
    have hdata := @transfer_data _ T x.dap (irOf value == JTAG_APACC) request data
    have htimed : (timedLink T time).jtagTransfer s.dapData request stores data w'.world =
        ⟨DAP_TRANSFER_OK, if has request DAP_TRANSFER_RnW then x.dap.result else data,
          if has request DAP_TRANSFER_TIMESTAMP then
            time (x.dap.transfer T true (irOf value == JTAG_APACC) request data).2.regs
          else s.dapData.timestamp,
          { w'.world with
            dap := (x.dap.transfer T true (irOf value == JTAG_APACC) request data).2 }⟩ := by
      rw [← hdata, hdap, ← hir']
      rfl
    have hserve : (waiting (timedLink T time)).jtagTransfer s.dapData request stores data w' = _ :=
      WaitingTarget.waitOrServe_serve hready
    rw [htimed] at hserve
    refine ⟨⟨{ w'.world with
      dap := (x.dap.transfer T true (irOf value == JTAG_APACC) request data).2 },
      w'.waits.tail⟩, ?_, ?_⟩
    · simp only [jtagTransfer, hrun, inWorld, hserve]
      cases stores
      · rfl
      · simp only [Bool.and_true]
        rfl
    · simp only [jtagTransfer, hrun]
      refine ⟨hd, .inr ⟨value, rfl⟩, fun _ => hir', _, hsits₁, rfl, ?_⟩
      rw [← hwaits]
  · obtain ⟨now, times, rest, hbusy⟩ := WaitingTarget.waits_busy hready
    obtain ⟨w₁, hrun, hsits₁⟩ := @jtagTransfer_waiting _ _ T time other _ _ _ _ base hd _ hsits
      now times rest (hwaits.trans hbusy) request stores data
    refine ⟨⟨w'.world, times :: rest⟩, ?_, ?_⟩
    · simp only [jtagTransfer, hrun, waiting, inWorld, WaitingTarget.waitOrServe, hbusy, ite_self]
      rfl
    · simp only [jtagTransfer, hrun]
      exact ⟨hd, .inr ⟨value, rfl⟩, hworld, _, hsits₁, hdap, rfl⟩

theorem joined_related : Related (Joined site)
    (jtagLink (jtagRegisters T time other) base timer) (waiting (timedLink T time)) where
  setMask := fun _ h => h
  clear := by
    rintro ir s w' ⟨hd, -, -, x, hsits, hdap, hwaits⟩
    obtain ⟨bs, t, as, hdevices, hbs, has, hlength, hunit, -⟩ := hsits.devices
    exact ⟨hd, .inl rfl, fun h => absurd rfl h, x, ⟨hsits.idle, bs, t, as, hdevices, hbs, has,
      hlength, hunit, fun h => absurd rfl h⟩, hdap, hwaits⟩
  aborted := fun _ => rfl
  garbage := rfl

theorem joined_select : SameSelect (Joined site)
    (jtagLink (jtagRegisters T time other) base timer) (waiting (timedLink T time)) := by
  rintro ir s w' value ⟨hd, -, -, x, hsits, hdap, hwaits⟩
  exact ⟨hd, .inr ⟨value, rfl⟩, fun _ => rfl, x, jtagIr_sits _ hd hsits (irOf value), hdap, hwaits⟩

theorem joined_access : SameAccess (Joined site)
    (jtagLink (jtagRegisters T time other) base timer) (waiting (timedLink T time)) Selected
    (jtagTransfer (jtagLink (jtagRegisters T time other) base timer))
    (jtagTransfer (waiting (timedLink T time))) :=
  .of_once joined_related joined_once

/-- The reply over the wires is that of the target in one step, and the debug port behind the wires
is then in the same state. Nothing else on the chain has changed. -/
structure SameOverWires (site : Site (DebugUnit τ ⊕ ω)) (reply : Reply (Wires (DebugUnit τ ⊕ ω)))
    (reply' : Reply (World τ)) : Prop where
  bytes : reply.bytes = reply'.bytes
  num : reply.num = reply'.num
  dapData : reply.state.dapData = reply'.state.dapData
  sits : ∃ x, Sits site 0 reply.state.world.chain x ∧ x.dap = reply'.state.world.dap

theorem Sits.forget {c : Chain (DebugUnit τ ⊕ ω)} (h : Sits site ir c x) : Sits site 0 c x := by
  obtain ⟨bs, t, as, hdevices, hbs, has, hlength, hunit, -⟩ := h.devices
  exact ⟨h.idle, bs, t, as, hdevices, hbs, has, hlength, hunit, fun h => absurd rfl h⟩

theorem sameOverWires {reply : Reply (Wires (DebugUnit τ ⊕ ω))} {reply' : Reply (Waiting (World τ))}
    {reply'' : Reply (World τ)} (h : SameReply (Joined site) reply reply')
    (h' : WaitingTarget.SameAnswer reply' reply'') : SameOverWires site reply reply'' := by
  obtain ⟨ir, w', hstate, -, -, -, x, hsits, hdap, -⟩ := h.state
  have hready := h'.state
  rw [hstate] at hready
  refine ⟨h.bytes.symm.trans h'.bytes, h.num.symm.trans h'.num, ?_, x, hsits.forget, ?_⟩
  · rw [← hready]
    rfl
  · rw [hdap, ← hready]
    rfl

/-- The chain of the request is known, and the retries are enough for its debug port. -/
structure Reachable (site : Site (DebugUnit τ ⊕ ω)) (request : Request)
    (s : State (Wires (DebugUnit τ ⊕ ω))) (x : DebugUnit τ) : Prop where
  port : s.dapData.debugPort = DAP_PORT_JTAG
  known : site.Known (setJtagIndex (request 0) s).dapData.jtagDev
  sits : Sits site 0 s.world.chain x
  patient : ∀ times ∈ x.waits, times.length ≤ s.dapData.transfer.retryCount.toNat

variable (T time other base)

/-- The debug port of the chain, with nothing between it and the probe. -/
def direct (s : State (Wires (DebugUnit τ ⊕ ω))) (x : DebugUnit τ) : State (World τ) :=
  inWorld s ⟨0, x.dap⟩

/-- Over any scan chain `JTAG_IR` and `JTAG_Transfer` carry the transfers of a command to the debug
port of the selected device, each once, and bring its answers back. -/
theorem transfer_over_wires (request : Request) (s : State (Wires (DebugUnit τ ⊕ ω)))
    (h : Reachable site request s x) :
    SameOverWires site
        (dapTransfer (jtagLink (jtagRegisters T time other) base timer) request s)
        (dapTransfer (timedLink T time) request (direct s x)) ∧
      SameOverWires site
        (dapTransferBlock (jtagLink (jtagRegisters T time other) base timer) request s)
        (dapTransferBlock (timedLink T time) request (direct s x)) := by
  have hjoined : Joined site 0 (setJtagIndex (request 0) s) ⟨⟨0, x.dap⟩, x.waits⟩ :=
    ⟨h.known, .inl rfl, fun h => absurd rfl h, x, h.sits, rfl, rfl⟩
  have hpatient : WaitingTarget.Patient s.dapData (⟨⟨0, x.dap⟩, x.waits⟩ : Waiting (World τ)) :=
    h.patient
  have hsame := WaitingTarget.waits_unseen (timedLink T time) (timedLink_prompt T time) request
    (inWorld s ⟨⟨0, x.dap⟩, x.waits⟩) hpatient
  have hswd : (s.dapData.debugPort == DAP_PORT_SWD) = false := by
    rw [h.port]
    rfl
  have hjtag : (s.dapData.debugPort == DAP_PORT_JTAG) = true := by
    rw [h.port]
    rfl
  constructor
  · refine sameOverWires ?_ hsame.1
    have hport : (inWorld s (⟨⟨0, x.dap⟩, x.waits⟩ : Waiting (World τ))).dapData.debugPort =
        s.dapData.debugPort := rfl
    simp only [dapTransfer, hport, hswd, hjtag, if_true, Bool.false_eq_true, if_false]
    exact dapJtagTransfer_same joined_related joined_select joined_access hjoined
  · refine sameOverWires ?_ hsame.2
    have hport : (inWorld s (⟨⟨0, x.dap⟩, x.waits⟩ : Waiting (World τ))).dapData.debugPort =
        s.dapData.debugPort := rfl
    have hblock := @dapJtagTransferBlock_same _ _ _ _ _ request s _ _
      (@joined_related _ _ T time other site base) joined_select joined_access hjoined
    simp only [dapTransferBlock, hport, hswd, hjtag, if_true, Bool.false_eq_true, if_false]
    refine ⟨hblock.bytes, ?_, hblock.state⟩
    rw [hblock.num]

/-- A debug port of four instruction bits between two devices of five and of six bits. -/
def threeDevices : State (Wires (DebugUnit UInt32 ⊕ Unit)) where
  dapData := { dapSetup .esp32 with
    debugPort := DAP_PORT_JTAG
    jtagDev := { (dapSetup .esp32).jtagDev with
      count := 3
      irLength := #v[5, 4, 6, 0, 0, 0, 0, 0]
      irBefore := #v[0, 5, 9, 0, 0, 0, 0, 0]
      irAfter := #v[10, 6, 0, 0, 0, 0, 0, 0] } }
  speed := .gpioNormal
  world := {
    tms := false
    tdi := true
    chain := {
      state := .runTestIdle
      path := []
      devices := [⟨5, [], [], .inr ()⟩,
        ⟨4, [], [], .inl ⟨⟨0, 0, []⟩, [[7, 8]], 0, 0x0BA00477, []⟩⟩,
        ⟨6, [], [], .inr ()⟩] } }

def middleSite : Site (DebugUnit UInt32 ⊕ Unit) where
  before := [⟨5, .inr ()⟩]
  after := [⟨6, .inr ()⟩]
  length := 4

/-- The request for the device in the middle. -/
def middleRequest : Request := fun i => if i = 0 then 1 else PostedReads.memoryRequest i

def silentRegisters : ScanPath.Registers Unit where
  capture := fun _ _ => [false]
  update := fun _ _ y => y

theorem threeDevices_reachable : Reachable middleSite middleRequest threeDevices
    ⟨⟨0, 0, []⟩, [[7, 8]], 0, 0x0BA00477, []⟩ where
  port := rfl
  known := ⟨rfl, rfl, rfl, rfl, rfl, Nat.le_refl 4⟩
  sits := ⟨rfl, [⟨5, [], [], .inr ()⟩], _, [⟨6, [], [], .inr ()⟩], rfl, rfl, rfl, rfl, rfl,
    fun h => absurd rfl h⟩
  patient := by
    show ∀ times ∈ [[(7 : UInt32), 8]], List.length times ≤ 100
    decide

theorem transfer_over_wires_threeDevices :
    SameOverWires middleSite
        (dapTransfer (jtagLink (jtagRegisters PostedReads.memoryPort id silentRegisters) idleLink
          timer) middleRequest threeDevices)
        (dapTransfer (timedLink PostedReads.memoryPort id) middleRequest
          (direct threeDevices ⟨⟨0, 0, []⟩, [[7, 8]], 0, 0x0BA00477, []⟩)) ∧
      SameOverWires middleSite
        (dapTransferBlock (jtagLink (jtagRegisters PostedReads.memoryPort id silentRegisters)
          idleLink timer) middleRequest threeDevices)
        (dapTransferBlock (timedLink PostedReads.memoryPort id) middleRequest
          (direct threeDevices ⟨⟨0, 0, []⟩, [[7, 8]], 0, 0x0BA00477, []⟩)) :=
  transfer_over_wires PostedReads.memoryPort id silentRegisters idleLink middleRequest threeDevices
    threeDevices_reachable

end WirelessEsp.JtagWires
