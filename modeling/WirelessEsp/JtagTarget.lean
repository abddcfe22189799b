import WirelessEsp.JtagDp
import WirelessEsp.WaitingTarget

namespace WirelessEsp.JtagTarget

open DapTypes DapProbe DapTransfer PostedTarget JtagIr ScanPath
open BitStreams (bit bitsOf ofBits nibble)

/-- A debug port behind a TAP. `waits` is as in `Waiting`, `now` the time of the last answer, and
`aborts` what has been written with the instruction ABORT. -/
structure DebugUnit (τ : Type) where
  dap : DebugPort τ
  waits : List (List UInt32)
  now : UInt32
  idCode : UInt32
  aborts : List UInt32

variable {τ ω : Type} (T : PostedTarget.Registers τ) (time : τ → UInt32)

def instructionOf (bits : List Bool) : UInt32 := ofBits fun i => bits.getD i false

def wordOf (bits : List Bool) : UInt32 := ofBits fun i => bits.getD i false

def DebugUnit.capture (x : DebugUnit τ) : List Bool :=
  match x.waits with
  | (_ :: _) :: _ => [true, false, false] ++ bitsOf 32 x.dap.result
  | _ => [false, true, false] ++ bitsOf 32 x.dap.result

/-- The first three bits are RnW, A2 and A3. A transfer that was answered with WAIT is ignored. -/
def DebugUnit.update (ap : Bool) (bits : List Bool) (x : DebugUnit τ) : DebugUnit τ :=
  match x.waits with
  | (now :: times) :: rest => { x with waits := times :: rest, now }
  | waits =>
      let address := nibble false false (bits.getD 1 false) (bits.getD 2 false)
      let dap :=
        if bits.getD 0 false then (x.dap.read T true ap address).2
        else x.dap.write T ap address (wordOf (bits.drop 3))
      { x with dap, waits := waits.tail, now := time dap.regs }

def DebugUnit.writeAbort (bits : List Bool) (x : DebugUnit τ) : DebugUnit τ :=
  if bits.getD 0 false then x else { x with aborts := x.aborts ++ [wordOf (bits.drop 3)] }

/-- A chain of debug ports and of devices of any other kind. -/
def jtagRegisters (other : ScanPath.Registers ω) : ScanPath.Registers (DebugUnit τ ⊕ ω) where
  capture := fun bits unit =>
    match unit with
    | .inl x =>
        let ir := instructionOf bits
        if ir == JTAG_DPACC || ir == JTAG_APACC then x.capture
        else if ir == JTAG_IDCODE then bitsOf 32 x.idCode
        else if ir == JTAG_ABORT then .replicate 35 false
        else [false]
    | .inr y => other.capture bits y
  update := fun bits dr unit =>
    match unit with
    | .inl x =>
        let ir := instructionOf bits
        if ir == JTAG_DPACC || ir == JTAG_APACC then .inl (x.update T time (ir == JTAG_APACC) dr)
        else if ir == JTAG_ABORT then .inl (x.writeAbort dr)
        else .inl x
    | .inr y => .inr (other.update bits dr y)

/-- The posted link, whose timer shows the time of the target, without an abort of transfers. -/
def timedLink : Link (World τ) :=
  { postedLink T with
    jtagTransfer := fun d request stores data w =>
      let t := (postedLink T).jtagTransfer d request stores data w
      { t with
        timestamp :=
          if has request DAP_TRANSFER_TIMESTAMP then time t.world.dap.regs else d.timestamp }
    clearTransferAbort := id
    dapTransferAbort := fun _ => false }

theorem timedLink_prompt : WaitingTarget.Prompt (timedLink T time) where
  swd _ _ _ _ _ _ := ne_of_beq_false rfl
  jtag _ _ _ _ _ := ne_of_beq_false rfl
  running _ := rfl
  stamps d now request stores data w h := by
    simp only [timedLink, if_pos h]
    rfl

variable {T time} {x : DebugUnit τ} {value data : UInt32} {ap : Bool}

theorem capture_length : x.capture.length = 35 := by
  rw [DebugUnit.capture]
  split <;> simp

theorem addressOf_nibble (value : UInt32) :
    addressOf (nibble false false (bit value 2) (bit value 3)) = addressOf value := by
  apply BitStreams.eq_of_bit
  intro i hi
  have hmask : DAP_TRANSFER_A2 ||| DAP_TRANSFER_A3 = nibble false false true true := by decide
  have hand (y : UInt32) : bit (y &&& nibble false false true true) i =
      (bit y i && bit (nibble false false true true) i) := by
    simp [bit]
  rw [addressOf, addressOf, hmask, hand, hand, BitStreams.bit_nibble, BitStreams.bit_nibble]
  by_cases hlow : i < 4
  · interval_cases i <;> simp
  · have hzero : [false, false, true, true].getD i false = false := by
      rw [List.getD_eq_getElem?_getD, List.getElem?_eq_none (by simpa using hlow)]
      rfl
    rw [hzero, Bool.and_false, Bool.and_false]

theorem read_address {posts : Bool} (dap : DebugPort τ) {v v' : UInt32}
    (h : addressOf v = addressOf v') :
    dap.read T posts ap v = dap.read T posts ap v' := by
  rw [DebugPort.read, DebugPort.read, isRdbuff, isRdbuff, h]

theorem write_address (dap : DebugPort τ) {v v' : UInt32} (h : addressOf v = addressOf v') :
    dap.write T ap v data = dap.write T ap v' data := by
  rw [DebugPort.write, DebugPort.write, h]

theorem has_rnw (value : UInt32) : has value DAP_TRANSFER_RnW = bit value 1 := by
  have hand : value &&& DAP_TRANSFER_RnW = if bit value 1 then 2 else 0 := by
    apply BitStreams.eq_of_bit
    intro i hi
    have hrnw : DAP_TRANSFER_RnW = 2 := rfl
    rw [hrnw]
    cases h : bit value 1 <;> interval_cases i <;> simp_all [bit]
  rw [has, hand]
  cases bit value 1 <;> rfl

def accessBits (request : UInt32) (word : List Bool) : List Bool :=
  JtagDp.header request ++ word

theorem wordOf_bitsOf (data : UInt32) : wordOf (bitsOf 32 data) = data := by
  apply BitStreams.eq_of_bit
  intro i hi
  rw [wordOf, BitStreams.bit_ofBits _ hi, List.getD_eq_getElem?_getD, bitsOf, List.getElem?_map,
    List.getElem?_range hi]
  rfl

theorem instructionOf_irBits {ir : UInt32} {n : Nat} (hn : 4 ≤ n) (hir : ir.toNat < 2 ^ 4) :
    instructionOf (irBits ir n) = ir := by
  apply BitStreams.eq_of_bit
  intro i hi
  have hbit : bit ir i = ir.toNat.testBit i := rfl
  rw [instructionOf, BitStreams.bit_ofBits _ hi, List.getD_eq_getElem?_getD, irBits,
    List.getElem?_map, hbit]
  by_cases hlt : i < n
  · rw [List.getElem?_range hlt]
    rfl
  · have hpow : 2 ^ 4 ≤ 2 ^ i := Nat.pow_le_pow_right (by omega) (by omega)
    rw [List.getElem?_eq_none (by simpa using hlt),
      Nat.testBit_lt_two_pow (Nat.lt_of_lt_of_le hir hpow)]
    rfl

theorem update_served (hwaits : ∀ times ∈ x.waits.head?, times = []) (request : UInt32)
    (word : List Bool) :
    x.update T time ap (accessBits request word) =
      let dap :=
        if has request DAP_TRANSFER_RnW then (x.dap.read T true ap request).2
        else x.dap.write T ap request (wordOf word)
      { x with dap, waits := x.waits.tail, now := time dap.regs } := by
  obtain ⟨dap, waits, now, idCode, aborts⟩ := x
  have hserve : ∀ waits' : List (List UInt32), (∀ times ∈ waits'.head?, times = []) →
      ∀ f : List (List UInt32) → DebugUnit τ,
      (match waits' with
        | (now :: times) :: rest => ⟨dap, times :: rest, now, idCode, aborts⟩
        | waits => f waits) = f waits' := by
    intro waits' h f
    cases waits' with
    | nil => rfl
    | cons times rest =>
        obtain rfl : times = [] := h times rfl
        rfl
  have haddress := addressOf_nibble request
  rw [DebugUnit.update]
  refine (hserve waits hwaits _).trans ?_
  have hread := @read_address τ T ap true dap _ _ haddress
  have hwrite := @write_address τ T (wordOf word) ap dap _ _ haddress
  simp only [accessBits, JtagDp.header, List.cons_append, List.nil_append,
    List.getD_cons_zero, List.getD_cons_succ, List.drop_succ_cons, List.drop_zero, hread, hwrite,
    has_rnw]

theorem update_waiting {now : UInt32} {times : List UInt32} {rest : List (List UInt32)}
    (hwaits : x.waits = (now :: times) :: rest) (bits : List Bool) :
    x.update T time ap bits = { x with waits := times :: rest, now } := by
  obtain ⟨dap, waits, now', idCode, aborts⟩ := x
  cases hwaits
  rfl

theorem capture_waiting {now : UInt32} {times : List UInt32} {rest : List (List UInt32)}
    (hwaits : x.waits = (now :: times) :: rest) :
    x.capture = [true, false, false] ++ bitsOf 32 x.dap.result := by
  rw [DebugUnit.capture, hwaits]

theorem capture_served (hwaits : ∀ times ∈ x.waits.head?, times = []) :
    x.capture = [false, true, false] ++ bitsOf 32 x.dap.result := by
  obtain ⟨dap, waits, now, idCode, aborts⟩ := x
  cases waits with
  | nil => rfl
  | cons times rest =>
      obtain rfl : times = [] := hwaits times rfl
      rfl

end WirelessEsp.JtagTarget
