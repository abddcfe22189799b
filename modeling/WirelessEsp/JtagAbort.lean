import WirelessEsp.DapCommand
import WirelessEsp.JtagWires

namespace WirelessEsp.JtagAbort

open DapTypes DapProbe DapTransfer DapCommand PostedTarget JtagIr ScanPath JtagTarget JtagWires
open BitStreams (bit bitsOf ofBits)

variable {τ ω : Type} {T : PostedTarget.Registers τ} {time : τ → UInt32}
  {other : ScanPath.Registers ω} {base : Link (Wires (DebugUnit τ ⊕ ω))}
  {site : Site (DebugUnit τ ⊕ ω)} {d : DapData} {w : Wires (DebugUnit τ ⊕ ω)} {x : DebugUnit τ}

section IdCode

variable (hd : site.Known d.jtagDev) (h : Sits site JTAG_IDCODE w.chain x)

include hd in
theorem idCode_instruction : instructionOf (irBits JTAG_IDCODE site.length) = JTAG_IDCODE :=
  instructionOf_irBits hd.decodes (by decide)

include hd in
theorem idCode_captured (x : DebugUnit τ) :
    capturedBy (jtagRegisters T time other) site JTAG_IDCODE x = bitsOf 32 x.idCode := by
  simp only [capturedBy, jtagRegisters, idCode_instruction hd]
  rfl

include hd in
theorem idCode_update (bits : List Bool) (x : DebugUnit τ) :
    (jtagRegisters T time other).update (irBits JTAG_IDCODE site.length) bits (.inl x) =
      .inl x := by
  simp only [jtagRegisters, idCode_instruction hd]
  rfl

include hd h in
theorem jtagReadIdCode_sits :
    let result := (jtagLink (jtagRegisters T time other) base timer).jtagReadIdCode d w
    result.1 = x.idCode ∧ Sits site JTAG_IDCODE result.2.chain x := by
  have hlt : JTAG_IDCODE.toNat < 15 := by decide
  have hne : JTAG_IDCODE ≠ 0 := by decide
  have hscan : Sits site JTAG_IDCODE (w.chain.run (jtagRegisters T time other)
      (drScan w.tdi (List.replicate (d.jtagDev.index.toNat + 31) w.tdi) w.tdi)) x :=
    drScan_sits hd.decodes hlt hne h w.tdi _ _ (idCode_update hd _ x)
  constructor
  · simp only [jtagLink, Wires.port, JtagDp.jtagReadIdCode_eq]
    apply BitStreams.eq_of_bit
    intro i hi
    have hbits : (List.replicate (d.jtagDev.index.toNat + i) w.tdi).length =
        site.before.length + i := by rw [List.length_replicate, hd.index]
    rw [BitStreams.bit_ofBits _ hi, tdo_selected hd.decodes hlt hne h w.tdi hbits
      (by rw [idCode_captured hd, BitStreams.bitsOf_length]; exact hi), idCode_captured hd,
      List.getD_eq_getElem?_getD, bitsOf, List.getElem?_map, List.getElem?_range hi]
    rfl
  · simp only [jtagLink, Wires.port, JtagDp.jtagReadIdCode_eq]
    exact hscan

end IdCode

section Abort

variable (hd : site.Known d.jtagDev) (h : Sits site JTAG_ABORT w.chain x)

include hd in
theorem abort_instruction : instructionOf (irBits JTAG_ABORT site.length) = JTAG_ABORT :=
  instructionOf_irBits hd.decodes (by decide)

include hd in
theorem abort_captured (x : DebugUnit τ) :
    capturedBy (jtagRegisters T time other) site JTAG_ABORT x = List.replicate 35 false := by
  simp only [capturedBy, jtagRegisters, abort_instruction hd]
  rfl

include hd in
theorem abort_update (bits : List Bool) (x : DebugUnit τ) :
    (jtagRegisters T time other).update (irBits JTAG_ABORT site.length) bits (.inl x) =
      .inl (x.writeAbort bits) := by
  simp only [jtagRegisters, abort_instruction hd]
  rfl

include hd h in
theorem jtagWriteAbort_sits (data : UInt32) :
    Sits site JTAG_ABORT
      ((jtagLink (jtagRegisters T time other) base timer).jtagWriteAbort d data w).chain
      { x with aborts := x.aborts ++ [data] } := by
  have hlt : JTAG_ABORT.toNat < 15 := by decide
  have hne : JTAG_ABORT ≠ 0 := by decide
  have hcaptured := @captured_eq _ _ site x JTAG_ABORT (jtagRegisters T time other) w.chain
    hd.decodes hlt hne h
  rw [abort_captured hd] at hcaptured
  generalize hbits : List.replicate 3 false ++ bitsOf 32 data = bits
  generalize hrest : List.replicate (JtagDp.devicesAfter d).toNat (bit data 31) = rest
  have hlen : bits.length = 35 := by
    rw [← hbits, List.length_append, List.length_replicate, BitStreams.bitsOf_length]
  have hall : JtagDp.abortBits d w.tdi data ++ [bit data 31] =
      List.replicate site.before.length w.tdi ++ (bits ++ rest) := by
    rw [JtagDp.abortBits, hd.index, ← hbits, ← hrest, ← bitsOf_concat, List.append_assoc,
      List.append_assoc, List.append_assoc, List.append_assoc, List.append_assoc,
      ← List.replicate_succ', List.replicate_succ]
    rfl
  have hfull : (List.replicate site.before.length w.tdi ++ (bits ++ rest)).length =
      (w.chain.captured (jtagRegisters T time other)).length := by
    rw [hcaptured, List.length_append, List.length_append, List.length_append, List.length_append,
      List.length_replicate, List.length_replicate, List.length_replicate, List.length_replicate,
      hlen, ← hrest, List.length_replicate, devicesAfter_eq hd, Nat.add_assoc]
  have hdrop := @List.drop_left _ (List.replicate site.before.length w.tdi) (bits ++ rest)
  rw [List.length_replicate] at hdrop
  have hwrite : x.writeAbort bits = { x with aborts := x.aborts ++ [data] } := by
    rw [← hbits, DebugUnit.writeAbort]
    have hword : (List.replicate 3 false ++ bitsOf 32 data).drop 3 = bitsOf 32 data := rfl
    rw [hword, wordOf_bitsOf]
    rfl
  have hscan : Sits site JTAG_ABORT (w.chain.run (jtagRegisters T time other)
      (drScan w.tdi (JtagDp.abortBits d w.tdi data) (bit data 31)))
      { x with aborts := x.aborts ++ [data] } := by
    apply drScan_sits hd.decodes hlt hne h
    rw [hall, scannedPath_full hfull, hdrop, abort_captured hd, List.length_replicate, ← hlen,
      List.take_left, abort_update hd, hwrite]
  simp only [jtagLink, Wires.port, JtagDp.jtagWriteAbort_eq]
  exact hscan

end Abort

theorem validIndex_of_known (hd : site.Known d.jtagDev) : validIndex d = true := by
  have hindex := hd.index
  have hcount := hd.count
  rw [validIndex, decide_eq_true_iff, UInt8.lt_iff_toNat_lt]
  omega

variable (T time other base)

/-- `DAP_JTAG_IDCODE` replies the id code of the selected device and changes no register of the
chain; `DAP_WriteABORT` writes its word into the register ABORT of that device, once, and into no
other register. -/
theorem idCode_and_abort (request : Request) (s : State (Wires (DebugUnit τ ⊕ ω)))
    (hport : s.dapData.debugPort = DAP_PORT_JTAG)
    (hd : site.Known (setJtagIndex (request 0) s).dapData.jtagDev) (h : Sits site 0 s.world.chain x) :
    let L := jtagLink (jtagRegisters T time other) base timer
    let idCode := dapJtagIdCode L request s
    let abort := dapWriteAbort L request s
    idCode.bytes = DAP_OK :: storeWord x.idCode ∧ Sits site 0 idCode.state.world.chain x ∧
      abort.bytes = [DAP_OK] ∧
      Sits site 0 abort.state.world.chain { x with aborts := x.aborts ++ [request.word 1] } := by
  intro L idCode abort
  have hvalid := validIndex_of_known hd
  have hne : (s.dapData.debugPort != DAP_PORT_JTAG) = false := by
    rw [hport]
    rfl
  have hswd : (s.dapData.debugPort == DAP_PORT_SWD) = false := by
    rw [hport]
    rfl
  have hjtag : (s.dapData.debugPort == DAP_PORT_JTAG) = true := by
    rw [hport]
    rfl
  have hidCode := @jtagIr_sits _ _ site (setJtagIndex (request 0) s).dapData s.world x 0
    (jtagRegisters T time other) hd h JTAG_IDCODE
  obtain ⟨hcode, hsits⟩ := @jtagReadIdCode_sits _ _ T time other base _ _ _ _ hd hidCode
  have habort := @jtagIr_sits _ _ site (setJtagIndex (request 0) s).dapData s.world x 0
    (jtagRegisters T time other) hd h JTAG_ABORT
  have hwrite := @jtagWriteAbort_sits _ _ T time other base _ _ _ _ hd habort (request.word 1)
  refine ⟨?_, ?_, ?_, ?_⟩
  · simp only [idCode, dapJtagIdCode, hne, Bool.false_eq_true, if_false, hvalid, if_true]
    exact congrArg (fun data => DAP_OK :: storeWord data) hcode
  · simp only [idCode, dapJtagIdCode, hne, Bool.false_eq_true, if_false, hvalid, if_true]
    exact hsits.forget
  · simp only [abort, dapWriteAbort, hswd, hjtag, Bool.false_eq_true, if_false, if_true,
      dapJtagWriteAbort, hvalid]
  · simp only [abort, dapWriteAbort, hswd, hjtag, Bool.false_eq_true, if_false, if_true,
      dapJtagWriteAbort, hvalid]
    exact hwrite.forget

def abortRequest : Request := fun i => [1, 0x1F, 0, 0, 0].getD i 0

theorem idCode_and_abort_threeDevices :
    let L := jtagLink (jtagRegisters PostedReads.memoryPort id silentRegisters) idleLink timer
    let idCode := dapJtagIdCode L abortRequest threeDevices
    let abort := dapWriteAbort L abortRequest threeDevices
    idCode.bytes = DAP_OK :: storeWord 0x0BA00477 ∧
      Sits middleSite 0 idCode.state.world.chain ⟨⟨0, 0, []⟩, [[7, 8]], 0, 0x0BA00477, []⟩ ∧
      abort.bytes = [DAP_OK] ∧
      Sits middleSite 0 abort.state.world.chain ⟨⟨0, 0, []⟩, [[7, 8]], 0, 0x0BA00477, [0x1F]⟩ :=
  idCode_and_abort PostedReads.memoryPort id silentRegisters idleLink abortRequest threeDevices rfl
    ⟨rfl, rfl, rfl, rfl, rfl, Nat.le_refl 4⟩ threeDevices_reachable.sits

end WirelessEsp.JtagAbort
