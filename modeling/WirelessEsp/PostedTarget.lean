import WirelessEsp.TransferRounds
import Mathlib.Data.List.Infix

namespace WirelessEsp.PostedTarget

open DapTypes DapProbe DapTransfer

/-- The registers of a target, of the AP and of the DP, with the flag `DAP_TransferAbort`. A read
may have effects as a write has. -/
structure Registers (τ : Type) where
  read : Bool → UInt32 → τ → UInt32 × τ
  write : Bool → UInt32 → UInt32 → τ → τ
  clearAbort : τ → τ
  aborted : τ → Bool

/-- An access to a register other than RDBUFF; a write has its data. -/
structure RegisterAccess where
  ap : Bool
  address : UInt32
  data : Option UInt32
  deriving DecidableEq

/-- `result` is what RDBUFF holds, `accesses` what has been done to the registers. -/
structure DebugPort (τ : Type) where
  regs : τ
  result : UInt32
  accesses : List RegisterAccess

/-- The debug port behind the TAP whose instruction register holds `ir`. -/
structure World (τ : Type) where
  ir : UInt32
  dap : DebugPort τ

def addressOf (value : UInt32) : UInt32 := value &&& (DAP_TRANSFER_A2 ||| DAP_TRANSFER_A3)

def isRdbuff (ap : Bool) (value : UInt32) : Bool := !ap && addressOf value == DP_RDBUFF

variable {τ : Type} (T : Registers τ)

/-- A posted read returns the result of the read before; RDBUFF returns the last result. -/
def DebugPort.read (posts ap : Bool) (value : UInt32) (dap : DebugPort τ) : UInt32 × DebugPort τ :=
  if isRdbuff ap value then (dap.result, dap)
  else
    let (word, regs) := T.read ap (addressOf value) dap.regs
    let accesses := dap.accesses ++ [⟨ap, addressOf value, none⟩]
    if posts then (dap.result, ⟨regs, word, accesses⟩) else (word, ⟨regs, dap.result, accesses⟩)

def DebugPort.write (ap : Bool) (value data : UInt32) (dap : DebugPort τ) : DebugPort τ where
  regs := T.write ap (addressOf value) data dap.regs
  result := dap.result
  accesses := dap.accesses ++ [⟨ap, addressOf value, some data⟩]

def DebugPort.transfer (posts ap : Bool) (value data : UInt32) (dap : DebugPort τ) :
    UInt32 × DebugPort τ :=
  if has value DAP_TRANSFER_RnW then dap.read T posts ap value
  else (data, dap.write T ap value data)

inductive Port where
  | swd
  | jtag
  deriving DecidableEq

def Port.posts : Port → UInt32 → Bool
  | .swd, value => has value DAP_TRANSFER_APnDP
  | .jtag, _ => true

/-- Every access is answered with OK. On SWD the request selects the AP, on JTAG the instruction
register does. -/
def postedLink : Link (World τ) where
  spiInit := id
  spiDeinit := id
  portSwdSetup := id
  portJtagSetup := id
  portOff := id
  resetTarget := fun w => (1, w)
  pinDelaySlow := fun _ => id
  dapOsDelay := fun _ => id
  pinOut := fun _ _ => id
  pinIn := fun _ _ => 0
  timestampGet := fun w => (0, w)
  pinSamples := 0
  swjSequence := fun _ _ _ _ => id
  swdSequence := fun _ _ _ _ w => (.replicate _ 0, w)
  jtagSequence := fun _ _ _ w => (.replicate _ 0, w)
  jtagIr := fun _ ir w => { w with ir }
  jtagReadIdCode := fun _ w => (0, w)
  jtagWriteAbort := fun _ _ => id
  swdTransfer := fun d _ request _ data w =>
    let (data, dap) := w.dap.transfer T (Port.posts .swd request) (has request DAP_TRANSFER_APnDP)
      request data
    ⟨DAP_TRANSFER_OK, data, d.timestamp, { w with dap }⟩
  jtagTransfer := fun d request _ data w =>
    let (data, dap) := w.dap.transfer T (Port.posts .jtag request) (w.ir == JTAG_APACC) request data
    ⟨DAP_TRANSFER_OK, data, d.timestamp, { w with dap }⟩
  clearTransferAbort := fun w => { w with dap := { w.dap with regs := T.clearAbort w.dap.regs } }
  dapTransferAbort := fun w => T.aborted w.dap.regs
  garbage := 0

inductive Item where
  | read (value : UInt32)
  | matchRead (value matchValue : UInt32)
  | write (value data : UInt32)
  | matchMask (value mask : UInt32)
  deriving DecidableEq

def Item.value : Item → UInt32
  | .read value => value
  | .matchRead value _ => value
  | .write value _ => value
  | .matchMask value _ => value

def itemAt (request : Request) (i : Nat) : Item :=
  let value := (request i).toUInt32
  if has value DAP_TRANSFER_RnW then
    if has value DAP_TRANSFER_MATCH_VALUE then .matchRead value (request.word (i + 1))
    else .read value
  else if has value DAP_TRANSFER_MATCH_MASK then .matchMask value (request.word (i + 1))
  else .write value (request.word (i + 1))

def itemsFrom (request : Request) : Nat → Nat → List Item
  | 0, _ => []
  | n + 1, i =>
      itemAt request i :: itemsFrom request n (i + 1 + operandBytes (request i).toUInt32)

/-- The transfer list of a request. -/
def transferList (request : Request) : List Item := itemsFrom request (request 1).toNat 2

def DebugPort.access (port : Port) (value : UInt32) (dap : DebugPort τ) : UInt32 × DebugPort τ :=
  dap.read T (port.posts value) (has value DAP_TRANSFER_APnDP) value

def DebugPort.readBack (port : Port) (value : UInt32) (dap : DebugPort τ) :
    UInt32 × DebugPort τ :=
  let (word, dap) := dap.access T port value
  if port.posts value then dap.access T port rdbuff else (word, dap)

def DebugPort.poll (port : Port) (value matchValue mask : UInt32) :
    Nat → DebugPort τ → UInt32 × DebugPort τ
  | n, dap =>
      let (word, dap) := dap.access T port value
      match n with
      | 0 => (word, dap)
      | n + 1 =>
          if word &&& mask != matchValue && !T.aborted dap.regs then
            dap.poll port value matchValue mask n
          else (word, dap)

def DebugPort.readMatch (port : Port) (value matchValue mask : UInt32) (retry : Nat)
    (dap : DebugPort τ) : UInt32 × DebugPort τ :=
  let dap := if port.posts value then (dap.access T port value).2 else dap
  dap.poll T port value matchValue mask retry

/-- What the reference executor has done, with the words that the plain reads returned. -/
structure Executed (τ : Type) where
  dap : DebugPort τ
  mask : UInt32
  words : List UInt32
  count : Nat
  ack : UInt32

def serve (port : Port) (retry : Nat) : Item → Executed τ → Bool × Executed τ
  | .read value, e =>
      let (word, dap) := e.dap.readBack T port value
      (true, { e with dap, words := e.words ++ [word] })
  | .matchRead value matchValue, e =>
      let (word, dap) := e.dap.readMatch T port value matchValue e.mask retry
      (word &&& e.mask == matchValue, { e with dap })
  | .write value data, e =>
      (true, { e with dap := e.dap.write T (has value DAP_TRANSFER_APnDP) value data })
  | .matchMask _ mask, e => (true, { e with mask })

def Executed.served (e : Executed τ) : Executed τ :=
  { e with count := e.count + 1, ack := DAP_TRANSFER_OK.toUInt32 }

def mismatch : UInt32 := DAP_TRANSFER_OK.toUInt32 ||| DAP_TRANSFER_MISMATCH.toUInt32

def Executed.mismatched (e : Executed τ) : Executed τ := { e with ack := mismatch }

/-- The reference executor stops at a mismatch and, after an item, when it is aborted. -/
def execute (port : Port) (retry : Nat) : List Item → Executed τ → Executed τ
  | [], e => e
  | item :: items, e =>
      let (found, e) := serve T port retry item e
      if found then
        if T.aborted e.dap.regs then e.served else execute port retry items e.served
      else e.mismatched

def readOf (value : UInt32) : List RegisterAccess :=
  let ap := has value DAP_TRANSFER_APnDP
  if isRdbuff ap value then [] else [⟨ap, addressOf value, none⟩]

def Asks : Item → List RegisterAccess → Prop
  | .read value, trace => trace = readOf value
  | .matchRead value _, trace =>
      ∃ polls, trace = (List.replicate (polls + 1) (readOf value)).flatten
  | .write value data, trace =>
      trace = [⟨has value DAP_TRANSFER_APnDP, addressOf value, some data⟩]
  | .matchMask _ _, trace => trace = []

def Executed.started (e : Executed τ) : Nat := if e.ack = mismatch then e.count + 1 else e.count

variable (port : Port) (retry : Nat)

theorem access_accesses (value : UInt32) (dap : DebugPort τ) :
    (dap.access T port value).2.accesses = dap.accesses ++ readOf value := by
  rw [DebugPort.access, DebugPort.read, readOf]
  dsimp only
  split
  · exact (List.append_nil _).symm
  · split <;> rfl

theorem readBack_accesses (value : UInt32) (dap : DebugPort τ) :
    (dap.readBack T port value).2.accesses = dap.accesses ++ readOf value := by
  rw [DebugPort.readBack]
  dsimp only
  split
  · rw [access_accesses, access_accesses]
    exact List.append_nil _
  · exact access_accesses T port value dap

theorem poll_accesses (value matchValue mask : UInt32) (n : Nat) (dap : DebugPort τ) :
    ∃ polls, (dap.poll T port value matchValue mask n).2.accesses =
      dap.accesses ++ (List.replicate (polls + 1) (readOf value)).flatten := by
  have hone := access_accesses T port value dap
  induction n generalizing dap with
  | zero =>
      refine ⟨0, hone.trans ?_⟩
      rw [List.replicate_one, List.flatten_singleton]
  | succ n ih =>
      rw [DebugPort.poll]
      dsimp only
      split
      · obtain ⟨polls, hpolls⟩ := ih (dap.access T port value).2 (access_accesses T port value _)
        refine ⟨polls + 1, hpolls.trans ?_⟩
        rw [hone, List.append_assoc, ← List.flatten_cons, ← List.replicate_succ]
      · refine ⟨0, hone.trans ?_⟩
        rw [List.replicate_one, List.flatten_singleton]

theorem readMatch_accesses (value matchValue mask : UInt32) (dap : DebugPort τ) :
    ∃ polls, (dap.readMatch T port value matchValue mask retry).2.accesses =
      dap.accesses ++ (List.replicate (polls + 1) (readOf value)).flatten := by
  rw [DebugPort.readMatch]
  split
  · obtain ⟨polls, hpolls⟩ := poll_accesses T port value matchValue mask retry
      (dap.access T port value).2
    refine ⟨polls + 1, hpolls.trans ?_⟩
    rw [access_accesses, List.append_assoc, ← List.flatten_cons, ← List.replicate_succ]
  · exact poll_accesses T port value matchValue mask retry dap

theorem serve_accesses (item : Item) (e : Executed τ) : ∃ trace, Asks item trace ∧
    (serve T port retry item e).2.dap.accesses = e.dap.accesses ++ trace := by
  cases item with
  | read value => exact ⟨_, rfl, readBack_accesses T port value e.dap⟩
  | matchRead value matchValue =>
      obtain ⟨polls, hpolls⟩ := readMatch_accesses T port retry value matchValue e.mask e.dap
      exact ⟨_, ⟨polls, rfl⟩, hpolls⟩
  | write value data => exact ⟨_, rfl, rfl⟩
  | matchMask value mask => exact ⟨[], rfl, (List.append_nil _).symm⟩

theorem serve_count (item : Item) (e : Executed τ) :
    (serve T port retry item e).2.count = e.count := by
  cases item <;> rfl

theorem ok_ne_mismatch : DAP_TRANSFER_OK.toUInt32 ≠ mismatch := by decide

theorem execute_accesses (items : List Item) {e : Executed τ} (hack : e.ack ≠ mismatch) :
    ∃ traces, (execute T port retry items e).started = e.count + traces.length ∧
      List.Forall₂ Asks (items.take traces.length) traces ∧
      (execute T port retry items e).dap.accesses = e.dap.accesses ++ traces.flatten := by
  induction items generalizing e with
  | nil => exact ⟨[], if_neg hack, .nil, (List.append_nil _).symm⟩
  | cons item items ih =>
      obtain ⟨trace, hasks, htrace⟩ := serve_accesses T port retry item e
      have hcount := serve_count T port retry item e
      have hone : (serve T port retry item e).2.dap.accesses =
          e.dap.accesses ++ [trace].flatten := by
        rw [htrace, List.flatten_singleton]
      rw [execute]
      generalize serve T port retry item e = after at htrace hcount hone
      dsimp only
      split
      · split
        · refine ⟨[trace], ?_, .cons hasks .nil, hone⟩
          rw [← hcount]
          rfl
        · obtain ⟨traces, hstarted, hall, haccesses⟩ := ih (e := after.2.served) ok_ne_mismatch
          refine ⟨trace :: traces, ?_, .cons hasks hall, ?_⟩
          · rw [hstarted, ← hcount]
            exact Nat.add_right_comm _ _ _
          · rw [haccesses, List.flatten_cons, ← List.append_assoc, ← htrace]
            rfl
      · refine ⟨[trace], ?_, .cons hasks .nil, hone⟩
        rw [← hcount]
        rfl

end WirelessEsp.PostedTarget
