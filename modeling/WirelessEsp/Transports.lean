import WirelessEsp.ResponseCounts

namespace WirelessEsp.Transports

open DapTypes DapProbe DapTransfer DapCommand ResponseCounts

variable {σ : Type} (t : Target) (L : Link σ)

/-- The first `num & 0xFFFF` bytes of the response buffer. -/
def sent (buf : Buffer) (num : UInt32) : List UInt8 :=
  (List.range (num &&& 0xFFFF).toNat).map buf

/-- `DAP_Thread` turns a queue of commands into a batch to execute. -/
def unqueue (request : Request) : Request := fun i =>
  if i = 0 ∧ request 0 = ID_DAP_QueueCommands then ID_DAP_ExecuteCommands else request i

/-- `DapPacket_t` with `USE_WINUSB`, of 516 bytes: `DAPDataProcessed` and the items of the rings. -/
structure DapPacket where
  length : UInt32
  buf : Vector UInt8 512

/-- The bytes of a response over those in a buffer; `none` when they go over its end. -/
def stored {n : Nat} (buf : Vector UInt8 n) (bytes : List UInt8) : Option (Vector UInt8 n) :=
  if bytes.length ≤ n then some (.ofFn fun i => bytes.getD i (buf.get i)) else none

/-- One packet in `DAP_Thread`, with `DAPDataProcessed` as it was: the item that goes into
`dap_dataOUT_handle`. -/
def dapThread (request : Request) (processed : DapPacket) (s : State σ) :
    Option (DapPacket × State σ) :=
  let reply := dapProcessCommand t L (unqueue request) s
  (stored processed.buf reply.bytes).map fun buf => (⟨reply.num &&& 0xFFFF, buf⟩, reply.state)

/-- What `fast_reply` sends of an item; `none` when its length goes behind the item. -/
def fastReply (item : DapPacket) : Option (List UInt8) :=
  if item.length.toNat ≤ 512 then some (item.buf.toList.take item.length.toNat) else none

def usbipResponse (request : Request) (processed : DapPacket) (s : State σ) : Option (List UInt8) :=
  (dapThread t L request processed s).bind fun (item, _) => fastReply item

def executeLoopEnd (request : Request) : Nat → Nat → Nat → State σ → Nat
  | 0, _, _, _ => 0
  | cnt + 1, i, k, s =>
      let reply := dapProcessCommand t L (request.from i) s
      let n := reply.num
      max (k + reply.bytes.length)
        (executeLoopEnd request cnt (i + (n >>> 16).toUInt16.toNat) (k + n.toUInt16.toNat)
          reply.state)

/-- Where the stores of `DAP_ExecuteCommand` end, counted from its response pointer. -/
def executeCommandEnd (request : Request) (s : State σ) : Nat :=
  if request 0 == ID_DAP_ExecuteCommands then
    max 2 (executeLoopEnd t L request (request 1).toNat 2 2 s)
  else (dapProcessCommand t L request s).bytes.length

/-- `DAP_ExecuteCommand` on the memory at a response pointer, with so many bytes up to the end of
the buffer; `none` when a store goes over it. -/
def executeInto (size : Nat) (request : Request) (buf : Buffer) (s : State σ) :
    Option (List UInt8 × State σ) :=
  if executeCommandEnd t L request s ≤ size then
    let (res, buf, s) := dapExecuteCommand t L request buf s
    some (sent buf res, s)
  else none

/-- The 1500 bytes of `el_process_buffer` as they were. -/
def elDapDataProcess (request : Request) (buf : Buffer) (s : State σ) :
    Option (List UInt8 × State σ) :=
  executeInto t L 1500 request buf s

/-- The 1200 bytes of `ws_process_buffer`, behind four of them for the header of the frame. -/
def coWebsocketProcessDap (request : Request) (buf : Buffer) (s : State σ) :
    Option (List UInt8 × State σ) :=
  executeInto t L (1200 - 4) request buf s

/-- The three transports answer a request with the same bytes, whatever was in their buffers, and
no response goes over the end of a buffer. -/
def SameResponse (request : Request) (s : State σ) (usb : DapPacket) (el ws : Buffer) : Prop :=
  ∃ bytes, usbipResponse t L request usb s = some bytes ∧
    (elDapDataProcess t L request el s).map Prod.fst = some bytes ∧
    (coWebsocketProcessDap t L request ws s).map Prod.fst = some bytes

theorem write_at {buf : Buffer} {bytes : List UInt8} {i : Nat} (h : i < bytes.length) :
    buf.write 0 bytes i = bytes[i] := by
  rw [Buffer.write, if_pos (Nat.zero_le i), Nat.sub_zero]
  rw [List.getD_eq_getElem?_getD, List.getElem?_eq_getElem h]
  rfl

theorem write_below {buf : Buffer} {bytes : List UInt8} {i k : Nat} (h : k < i) :
    buf.write i bytes k = buf k := by
  rw [Buffer.write, if_neg (by omega)]

/-- The counts of a response that fits are its length, and what was in the buffer does not show. -/
theorem sent_write {request : Request} {s : State σ} {size : Nat} (hsize : size < 65536)
    (hfit : (dapProcessCommand t L request s).bytes.length ≤ size) (buf : Buffer) :
    sent (buf.write 0 (dapProcessCommand t L request s).bytes) (dapProcessCommand t L request s).num =
      (dapProcessCommand t L request s).bytes := by
  have hexact := dapProcessCommand_exact t L request s
  rw [Exact, Nat.mod_eq_of_lt (by omega)] at hexact
  apply List.ext_getElem
  · rw [sent, List.length_map, List.length_range, hexact]
  · intro i hi hi'
    simp only [sent, List.getElem_map, List.getElem_range]
    exact write_at hi'

theorem executeInto_single {request : Request} (h : request 0 ≠ ID_DAP_ExecuteCommands) {size : Nat}
    (hsize : size < 65536) (buf : Buffer) (s : State σ) :
    (executeInto t L size request buf s).map Prod.fst =
      if (dapProcessCommand t L request s).bytes.length ≤ size then
        some (dapProcessCommand t L request s).bytes
      else none := by
  have hid : ¬ (request 0 == ID_DAP_ExecuteCommands) = true := by simpa using h
  rw [executeInto, executeCommandEnd, if_neg hid, dapExecuteCommand, if_neg hid]
  split
  · rename_i hfit
    exact congrArg some (sent_write t L hsize hfit buf)
  · rfl

theorem dapProcessCommand_invalid {request : Request} (s : State σ)
    (h : request 0 = ID_DAP_ExecuteCommands ∨ request 0 = ID_DAP_QueueCommands) :
    dapProcessCommand t L request s = ⟨[ID_DAP_Invalid], counts 1 1, s⟩ := by
  rcases h with h | h <;> rw [dapProcessCommand, h] <;> rfl

theorem executeLoop_below (request : Request) (cnt i k : Nat) (num : UInt32) (buf : Buffer)
    (s : State σ) {j : Nat} (hj : j < k) :
    (executeLoop t L request cnt i k num buf s).2.1 j = buf j := by
  induction cnt generalizing i k num buf s with
  | zero => rfl
  | succ cnt ih =>
      rw [executeLoop, ih _ _ _ _ _ (Nat.lt_add_right _ hj)]
      exact write_below hj

theorem dapExecuteCommand_batch {request : Request} (h : request 0 = ID_DAP_ExecuteCommands)
    (buf : Buffer) (s : State σ) :
    (dapExecuteCommand t L request buf s).2.1 0 = ID_DAP_ExecuteCommands := by
  rw [dapExecuteCommand, if_pos (by simp [h]), executeLoop_below t L request _ _ _ _ _ _ (by omega),
    write_at (by simp), h]
  rfl

theorem sent_ne_of_head {buf : Buffer} {num : UInt32} {b : UInt8} (h : buf 0 ≠ b) :
    sent buf num ≠ [b] := by
  intro heq
  have hlen : (num &&& 0xFFFF).toNat = 1 := by
    simpa [sent] using congrArg List.length heq
  rw [sent, hlen] at heq
  exact h (List.head_eq_of_cons_eq heq)

theorem dapProcessCommand_unqueue (request : Request) (s : State σ) :
    dapProcessCommand t L (unqueue request) s = dapProcessCommand t L request s := by
  by_cases h : request 0 = ID_DAP_QueueCommands
  · have hunqueue : unqueue request 0 = ID_DAP_ExecuteCommands := by
      rw [unqueue, if_pos ⟨rfl, h⟩]
    rw [dapProcessCommand_invalid t L s (.inl hunqueue), dapProcessCommand_invalid t L s (.inr h)]
  · have hsame : unqueue request = request := by
      funext i
      rw [unqueue, if_neg fun hi => h hi.2]
    rw [hsame]

theorem stored_take {n : Nat} (buf : Vector UInt8 n) {bytes : List UInt8}
    (h : bytes.length ≤ n) :
    ∃ buf', stored buf bytes = some buf' ∧ buf'.toList.take bytes.length = bytes := by
  refine ⟨_, if_pos h, ?_⟩
  apply List.ext_getElem
  · simp [h]
  · intro i _ hi
    simp [hi]

theorem usbipResponse_eq (request : Request) (processed : DapPacket) (s : State σ) :
    usbipResponse t L request processed s =
      if (dapProcessCommand t L request s).bytes.length ≤ 512 then
        some (dapProcessCommand t L request s).bytes
      else none := by
  rw [usbipResponse, dapThread, dapProcessCommand_unqueue]
  split
  · rename_i hfit
    have hexact := dapProcessCommand_exact t L request s
    rw [Exact, Nat.mod_eq_of_lt (by omega)] at hexact
    obtain ⟨buf, hbuf, htake⟩ := stored_take processed.buf hfit
    simp only [hbuf, Option.map_some, Option.bind_some, fastReply, hexact, if_pos hfit, htake]
  · rename_i hover
    rw [stored, if_neg hover]
    rfl

/-- The transports agree on a request if and only if it is not a batch and the response fits the
shortest of the three buffers. -/
theorem sameResponse_iff (request : Request) (s : State σ) (usb : DapPacket) (el ws : Buffer) :
    SameResponse t L request s usb el ws ↔
      request 0 ≠ ID_DAP_ExecuteCommands ∧
        (dapProcessCommand t L request s).bytes.length ≤ 512 := by
  constructor
  · rintro ⟨bytes, husb, hel, -⟩
    rw [usbipResponse_eq] at husb
    have hfit : (dapProcessCommand t L request s).bytes.length ≤ 512 := by
      by_contra hover
      rw [if_neg hover] at husb
      cases husb
    rw [if_pos hfit, Option.some.injEq] at husb
    refine ⟨?_, hfit⟩
    intro hbatch
    rw [dapProcessCommand_invalid t L s (.inl hbatch)] at husb
    rw [elDapDataProcess, executeInto] at hel
    split at hel
    · have hhead : (dapExecuteCommand t L request el s).2.1 0 ≠ ID_DAP_Invalid := by
        rw [dapExecuteCommand_batch t L hbatch]
        decide
      exact sent_ne_of_head hhead ((Option.some.inj hel).trans husb.symm)
    · cases hel
  · rintro ⟨h, hfit⟩
    refine ⟨(dapProcessCommand t L request s).bytes, ?_, ?_, ?_⟩
    · rw [usbipResponse_eq, if_pos hfit]
    · rw [elDapDataProcess, executeInto_single t L h (by decide), if_pos (by omega)]
    · rw [coWebsocketProcessDap, executeInto_single t L h (by decide), if_pos (by omega)]

end WirelessEsp.Transports
