import Mathlib.Data.List.GetD
import WirelessEsp.TransferBound
import WirelessEsp.Transports

namespace WirelessEsp.ResponseSize

open DapTypes DapProbe DapTransfer DapCommand ResponseCounts Transports TransferBound ObligingTarget

variable {σ : Type} (t : Target) (L : Link σ)

/-- The bytes that the sequences from offset `i` on capture. -/
def swdCaptured (request : Request) : Nat → Nat → Nat
  | 0, _ => 0
  | n + 1, i =>
      let info := (request i).toUInt32
      if has info SWD_SEQUENCE_DIN then sequenceBytes info + swdCaptured request n (i + 1)
      else swdCaptured request n (i + 1 + sequenceBytes info)

def jtagCaptured (request : Request) : Nat → Nat → Nat
  | 0, _ => 0
  | n + 1, i =>
      let info := (request i).toUInt32
      (if has info JTAG_SEQUENCE_TDO then sequenceBytes info else 0) +
        jtagCaptured request n (i + 1 + sequenceBytes info)

/-- The longest response of a command function; `none` for an unknown identifier. -/
def longestCommand (id : UInt8) (request : Request) (d : DapData) : Option Nat :=
  match id with
  | 0x01 => some 1
  | 0x02 => some 1
  | 0x03 => some 1
  | 0x09 => some 1
  | 0x0A => some 2
  | 0x10 => some 1
  | 0x11 => some 1
  | 0x12 => some 1
  | 0x13 => some 1
  | 0x1D => some (1 + swdCaptured request (request 0).toNat 1)
  | 0x14 => some (1 + jtagCaptured request (request 0).toNat 1)
  | 0x15 => some 1
  | 0x16 => some (if d.debugPort == DAP_PORT_JTAG && request 0 < d.jtagDev.count then 5 else 1)
  | 0x04 => some 1
  | 0x05 => some (longestTransfer request d)
  | 0x06 => some (longestBlock request d)
  | 0x08 => some 1
  | _ => none

def longest (request : Request) (d : DapData) : Nat :=
  let id := request 0
  if id ≥ ID_DAP_Vendor0 && id ≤ ID_DAP_Vendor31 then 1
  else if id == ID_DAP_Info then 2 + (dapInfo (request 1)).length
  else
    match longestCommand id (request.from 1) d with
    | some n => 1 + n
    | none => 1

theorem swdSequence_captured (request : Request) (n : Nat) (q : Sequence σ) :
    (sequenceLoop (swdSequence L request) n q).response.length =
      q.response.length + swdCaptured request n q.request := by
  induction n generalizing q with
  | zero => rfl
  | succ n ih =>
      rw [sequenceLoop, ih, swdCaptured]
      simp only [swdSequence]
      split
      · simp only [Sequence.capture, List.length_append, Vector.length_toList]
        omega
      · rfl

theorem jtagSequence_captured (request : Request) (n : Nat) (q : Sequence σ) :
    (sequenceLoop (jtagSequence L request) n q).response.length =
      q.response.length + jtagCaptured request n q.request := by
  induction n generalizing q with
  | zero => rfl
  | succ n ih =>
      rw [sequenceLoop, ih, jtagCaptured]
      simp only [jtagSequence]
      split
      · simp only [Sequence.capture, List.length_append, Vector.length_toList]
        omega
      · rw [Nat.zero_add]

theorem dapJtagIdCode_length (request : Request) (s : State σ) :
    (dapJtagIdCode L request s).bytes.length =
      if s.dapData.debugPort == DAP_PORT_JTAG && request 0 < s.dapData.jtagDev.count then 5 else 1 := by
  rw [dapJtagIdCode]
  by_cases hport : s.dapData.debugPort = DAP_PORT_JTAG
  · rw [if_neg (by simp [hport]), beq_iff_eq.mpr hport, Bool.true_and]
    dsimp only
    rw [validIndex_set]
    split <;> rfl
  · rw [if_pos (by simpa using hport), beq_false_of_ne hport]
    rfl

theorem dapConnect_length (request : Request) (s : State σ) :
    (dapConnect L request s).bytes.length = 1 := by
  rw [dapConnect]
  split
  · rfl
  · split <;> rfl

theorem dapHostStatus_length (request : Request) (s : State σ) :
    (dapHostStatus request s).bytes.length = 1 := by
  rw [dapHostStatus]
  split <;> rfl

theorem dapSwjClock_length (request : Request) (s : State σ) :
    (dapSwjClock t L request s).bytes.length = 1 := by
  rw [dapSwjClock]
  split
  · rfl
  · split
    · rfl
    · split <;> rfl

theorem dapWriteAbort_length (request : Request) (s : State σ) :
    (dapWriteAbort L request s).bytes.length = 1 := by
  rw [dapWriteAbort]
  dsimp only
  split
  · rfl
  · split
    · rw [dapJtagWriteAbort]
      split <;> rfl
    · rfl

/-- A relation between the lengths of responses and their bounds; only the transfers depend on
the target. -/
structure Compares (R : Nat → Nat → Prop) (request : Request) (s : State σ) : Prop where
  refl : ∀ n, R n n
  transfer : R (dapTransfer L request s).bytes.length (longestTransfer request s.dapData)
  block : R (dapTransferBlock L request s).bytes.length (longestBlock request s.dapData)

theorem command_length {R : Nat → Nat → Prop} {request : Request} {s : State σ}
    (h : Compares L R request s) (id : UInt8) :
    (∃ reply n, command t L id request s = some reply ∧
      longestCommand id request s.dapData = some n ∧ R reply.bytes.length n) ∨
    command t L id request s = none ∧ longestCommand id request s.dapData = none := by
  have hone : ∀ reply : Reply σ, reply.bytes.length = 1 → R reply.bytes.length 1 := by
    intro reply hlen
    rw [hlen]
    exact h.refl 1
  unfold command longestCommand
  split
  · exact .inl ⟨_, _, rfl, rfl, hone _ (dapHostStatus_length request s)⟩
  · exact .inl ⟨_, _, rfl, rfl, hone _ (dapConnect_length L request s)⟩
  · exact .inl ⟨_, _, rfl, rfl, hone _ rfl⟩
  · exact .inl ⟨_, _, rfl, rfl, hone _ rfl⟩
  · exact .inl ⟨_, _, rfl, rfl, h.refl 2⟩
  · exact .inl ⟨_, _, rfl, rfl, hone _ rfl⟩
  · exact .inl ⟨_, _, rfl, rfl, hone _ (dapSwjClock_length t L request s)⟩
  · exact .inl ⟨_, _, rfl, rfl, hone _ rfl⟩
  · exact .inl ⟨_, _, rfl, rfl, hone _ rfl⟩
  · refine .inl ⟨_, _, rfl, rfl, ?_⟩
    have hlen : (dapSwdSequence L request s).bytes.length = _ :=
      swdSequence_captured L request (request 0).toNat (startSequences s)
    rw [hlen]
    exact h.refl _
  · refine .inl ⟨_, _, rfl, rfl, ?_⟩
    have hlen : (dapJtagSequence L request s).bytes.length = _ :=
      jtagSequence_captured L request (request 0).toNat (startSequences s)
    rw [hlen]
    exact h.refl _
  · exact .inl ⟨_, _, rfl, rfl, hone _ rfl⟩
  · refine .inl ⟨_, _, rfl, rfl, ?_⟩
    rw [dapJtagIdCode_length]
    exact h.refl _
  · exact .inl ⟨_, _, rfl, rfl, hone _ rfl⟩
  · exact .inl ⟨_, _, rfl, rfl, h.transfer⟩
  · exact .inl ⟨_, _, rfl, rfl, h.block⟩
  · exact .inl ⟨_, _, rfl, rfl, hone _ (dapWriteAbort_length L request s)⟩
  · refine .inr ⟨rfl, ?_⟩
    simp only [*]

theorem dapProcessCommand_length {R : Nat → Nat → Prop} {request : Request} {s : State σ}
    (h : Compares L R (request.from 1) s) (hsucc : ∀ m n, R m n → R (m + 1) (1 + n)) :
    R (dapProcessCommand t L request s).bytes.length (longest request s.dapData) := by
  rw [dapProcessCommand, longest]
  dsimp only
  split
  · exact h.refl 1
  · split
    · rw [List.length_cons, List.length_cons, Nat.add_comm 2]
      exact h.refl _
    · rcases command_length t L h (request 0) with ⟨reply, n, hreply, hn, hlen⟩ | ⟨hreply, hn⟩
      · rw [hreply, hn]
        exact hsucc _ _ hlen
      · rw [hreply, hn]
        exact h.refl 1

theorem dapProcessCommand_le (request : Request) (s : State σ) :
    (dapProcessCommand t L request s).bytes.length ≤ longest request s.dapData := by
  apply dapProcessCommand_length t L
  · exact ⟨Nat.le_refl, dapTransfer_length L _ s, dapTransferBlock_length L _ s⟩
  · intro m n h
    omega

def compared (request : Request) : List UInt32 :=
  matchValues (request.from 1) (request 2).toNat 2

theorem dapProcessCommand_obliging (request : Request) (d : DapData) (speed : TransferType) :
    (dapProcessCommand t obliging request ⟨d, speed, compared request⟩).bytes.length =
      longest request d := by
  have hcompares : Compares obliging Eq (request.from 1) ⟨d, speed, compared request⟩ :=
    ⟨fun _ => rfl, dapTransfer_obliging _ rfl, dapTransferBlock_obliging _ _⟩
  apply dapProcessCommand_length t obliging hcompares
  intro m n h
  omega

inductive Transport where
  | usbip
  | elaphureLink
  | websocket
  deriving DecidableEq

/-- The room for a response: `DAPDataProcessed.buf`, `el_process_buffer`, and `ws_process_buffer`
behind the four bytes for a frame header. -/
def responseBuffer : Transport → Nat
  | .usbip => 512
  | .elaphureLink => 1500
  | .websocket => 1200 - 4

/-- What a transport makes of a request: the counts, its response buffer and the state. -/
def process (tr : Transport) (request : Request) (buf : Buffer) (s : State σ) :
    UInt32 × Buffer × State σ :=
  match tr with
  | .usbip =>
      let reply := dapProcessCommand t L (unqueue request) s
      (reply.num, buf.write 0 reply.bytes, reply.state)
  | _ => dapExecuteCommand t L request buf s

theorem dapThread_process (request : Request) (processed : DapPacket) (s : State σ) :
    dapThread t L request processed s =
      let bytes := (dapProcessCommand t L (unqueue request) s).bytes
      let (num, buf, s') := process t L .usbip request (processed.buf.toList.getD · 0) s
      if bytes.length ≤ responseBuffer .usbip then
        some (⟨num &&& 0xFFFF, .ofFn fun i => buf i⟩, s')
      else none := by
  have hbuf (bytes : List UInt8) : Vector.ofFn (fun i => bytes.getD i (processed.buf.get i)) =
      Vector.ofFn fun i : Fin 512 => Buffer.write (processed.buf.toList.getD · 0) 0 bytes i := by
    apply Vector.ext
    intro i hi
    simp [Buffer.write, Vector.get]
  have hsize : responseBuffer .usbip = 512 := rfl
  rw [dapThread, stored, hbuf]
  simp only [process, hsize]
  split
  · rfl
  · rfl

theorem elDapDataProcess_process (request : Request) (buf : Buffer) (s : State σ) :
    elDapDataProcess t L request buf s =
      let (num, buf, s') := process t L .elaphureLink request buf s
      if executeCommandEnd t L request s ≤ responseBuffer .elaphureLink then some (sent buf num, s')
      else none := rfl

theorem coWebsocketProcessDap_process (request : Request) (buf : Buffer) (s : State σ) :
    coWebsocketProcessDap t L request buf s =
      let (num, buf, s') := process t L .websocket request buf s
      if executeCommandEnd t L request s ≤ responseBuffer .websocket then some (sent buf num, s')
      else none := rfl

/-- What is written are the bytes of a response that fits the buffer, and the lower half of the
counts is their number. -/
def Fits (size : Nat) (run : Buffer → UInt32 × Buffer × State σ) : Prop :=
  ∃ bytes : List UInt8, bytes.length ≤ size ∧ bytes.length < 65536 ∧
    ∀ buf, (run buf).2.1 = buf.write 0 bytes ∧ ((run buf).1 &&& 0xFFFF).toNat = bytes.length

theorem write_nil (buf : Buffer) (i : Nat) : buf.write i [] = buf := by
  funext j
  rw [Buffer.write]
  split <;> rfl

theorem write_write (buf : Buffer) (i : Nat) (xs ys : List UInt8) :
    (buf.write i xs).write (i + xs.length) ys = buf.write i (xs ++ ys) := by
  funext j
  simp only [Buffer.write]
  by_cases hlow : i ≤ j
  · rw [if_pos hlow, if_pos hlow]
    by_cases hnext : i + xs.length ≤ j
    · rw [if_pos hnext, List.getD_append_right _ _ _ _ (by omega),
        List.getD_eq_default xs _ (by omega)]
      congr 1
      omega
    · rw [if_neg hnext, List.getD_append _ _ _ _ (by omega)]
  · rw [if_neg hlow, if_neg hlow, if_neg (by omega)]

theorem write_length_le {xs ys : List UInt8} (h : ∀ buf : Buffer, buf.write 0 xs = buf.write 0 ys) :
    ys.length ≤ xs.length := by
  apply Nat.le_of_not_lt
  intro hlt
  have hbyte := congrFun (h fun _ => ys[xs.length] + 1) xs.length
  rw [write_at hlt, Buffer.write, if_pos (Nat.zero_le _), Nat.sub_zero,
    List.getD_eq_default _ _ (Nat.le_refl _)] at hbyte
  have hne : ∀ x : UInt8, x + 1 ≠ x := by
    intro x hx
    simp at hx
  exact hne _ hbyte

/-- Before a command of a batch: the offsets of the request and of the response, and the number
of commands to come. -/
structure BatchPoint where
  request : Nat
  response : Nat
  left : Nat
  dapData : DapData
  speed : TransferType

def BatchPoint.after (p : BatchPoint) (reply : Reply σ) : BatchPoint where
  request := p.request + (reply.num >>> 16).toUInt16.toNat
  response := p.response + reply.num.toUInt16.toNat
  left := p.left - 1
  dapData := reply.state.dapData
  speed := reply.state.speed

def BatchPoint.reply (request : Request) (p : BatchPoint) (w : σ) : Reply σ :=
  dapProcessCommand t L (request.from p.request) ⟨p.dapData, p.speed, w⟩

inductive Comes (request : Request) (d : DapData) (speed : TransferType) : BatchPoint → Prop where
  | start : Comes request d speed ⟨2, 2, (request 1).toNat, d, speed⟩
  | next {p : BatchPoint} {τ : Type} (L : Link τ) (w : τ) (h : Comes request d speed p)
      (hleft : 0 < p.left) : Comes request d speed (p.after (p.reply t L request w))

def batched (tr : Transport) (request : Request) : Prop :=
  tr ≠ .usbip ∧ request 0 = ID_DAP_ExecuteCommands

structure FitsAlways (tr : Transport) (request : Request) (d : DapData) (speed : TransferType) :
    Prop where
  run : ∀ {σ : Type} (L : Link σ) (w : σ),
    Fits (responseBuffer tr) fun buf => process t L tr request buf ⟨d, speed, w⟩
  commands : batched tr request → ∀ p, Comes t request d speed p → 0 < p.left →
    ∀ {σ : Type} (L : Link σ) (w : σ),
      p.response + (p.reply t L request w).bytes.length ≤ responseBuffer tr

/-- The longest response fits; in a batch, that to every command behind those before it. -/
structure LongestFits (tr : Transport) (request : Request) (d : DapData) (speed : TransferType) :
    Prop where
  single : ¬ batched tr request → longest request d ≤ responseBuffer tr
  batch : batched tr request → ∀ p, Comes t request d speed p → 0 < p.left →
    p.response + longest (request.from p.request) p.dapData ≤ responseBuffer tr

theorem longest_unqueue (request : Request) (d : DapData) :
    longest (unqueue request) d = longest request d := by
  by_cases h : request 0 = ID_DAP_QueueCommands
  · have hunqueue : unqueue request 0 = ID_DAP_ExecuteCommands := by
      rw [unqueue, if_pos ⟨rfl, h⟩]
    rw [longest, longest, hunqueue, h]
    rfl
  · have hsame : unqueue request = request := by
      funext i
      rw [unqueue, if_neg fun hi => h hi.2]
    rw [hsame]

theorem responseBuffer_lt (tr : Transport) : responseBuffer tr < 65536 := by
  cases tr <;> decide

/-- The request that `DAP_ProcessCommand` gets for a request that is not taken apart. -/
def asked (tr : Transport) (request : Request) : Request :=
  match tr with
  | .usbip => unqueue request
  | _ => request

theorem longest_asked (tr : Transport) (request : Request) (d : DapData) :
    longest (asked tr request) d = longest request d := by
  cases tr with
  | usbip => exact longest_unqueue request d
  | elaphureLink => rfl
  | websocket => rfl

theorem process_single {tr : Transport} {request : Request} (h : ¬ batched tr request)
    (buf : Buffer) (s : State σ) : process t L tr request buf s =
      ((dapProcessCommand t L (asked tr request) s).num,
        buf.write 0 (dapProcessCommand t L (asked tr request) s).bytes,
        (dapProcessCommand t L (asked tr request) s).state) := by
  have hsingle : tr ≠ .usbip → request 0 ≠ ID_DAP_ExecuteCommands := fun htr hid => h ⟨htr, hid⟩
  cases tr with
  | usbip => rfl
  | elaphureLink =>
      rw [process, dapExecuteCommand, if_neg (by simpa using hsingle (by decide))]
      · rfl
      · intro h
        cases h
  | websocket =>
      rw [process, dapExecuteCommand, if_neg (by simpa using hsingle (by decide))]
      · rfl
      · intro h
        cases h

theorem process_batch {tr : Transport} {request : Request} (h : batched tr request) (buf : Buffer)
    (s : State σ) : process t L tr request buf s =
      executeLoop t L request (request 1).toNat 2 2 (counts 2 2)
        (buf.write 0 [request 0, request 1]) s := by
  obtain ⟨htr, hid⟩ := h
  cases tr with
  | usbip => exact absurd rfl htr
  | elaphureLink =>
      rw [process, dapExecuteCommand, if_pos (by simpa using hid)]
      intro h
      cases h
  | websocket =>
      rw [process, dapExecuteCommand, if_pos (by simpa using hid)]
      intro h
      cases h

theorem fits_single {size : Nat} (hsize : size < 65536) (request : Request) (s : State σ) :
    Fits size (fun buf => ((dapProcessCommand t L request s).num,
      buf.write 0 (dapProcessCommand t L request s).bytes,
      (dapProcessCommand t L request s).state)) ↔
    (dapProcessCommand t L request s).bytes.length ≤ size := by
  constructor
  · rintro ⟨bytes, hfit, -, hrun⟩
    have hle := write_length_le fun buf => (hrun buf).1.symm
    exact Nat.le_trans hle hfit
  · intro hfit
    refine ⟨_, hfit, by omega, fun buf => ⟨rfl, ?_⟩⟩
    have hexact := dapProcessCommand_exact t L request s
    rw [Exact, Nat.mod_eq_of_lt (by omega)] at hexact
    exact hexact

theorem executeLoop_fits {size : Nat} (hsize : size < 65536) {request : Request} {d : DapData}
    {speed : TransferType} (hfits : ∀ p, Comes t request d speed p → 0 < p.left →
      p.response + longest (request.from p.request) p.dapData ≤ size)
    (cnt : Nat) (p : BatchPoint) (hp : Comes t request d speed p) (hcnt : p.left = cnt)
    (hresponse : p.response ≤ size) (w : σ) :
    ∃ bytes : List UInt8, p.response + bytes.length ≤ size ∧ ∀ num buf,
      (executeLoop t L request cnt p.request p.response num buf ⟨p.dapData, p.speed, w⟩).2.1 =
        buf.write p.response bytes ∧
      ((executeLoop t L request cnt p.request p.response num buf ⟨p.dapData, p.speed, w⟩).1 &&&
        0xFFFF).toNat = ((num &&& 0xFFFF).toNat + bytes.length) % 65536 := by
  induction cnt generalizing p w with
  | zero =>
      refine ⟨[], hresponse, fun num buf => ⟨(write_nil buf p.response).symm, ?_⟩⟩
      rw [executeLoop, low_toNat, List.length_nil, Nat.add_zero, Nat.mod_mod]
  | succ cnt ih =>
      have hleft : 0 < p.left := by omega
      have hlongest := hfits p hp hleft
      have hle := dapProcessCommand_le t L (request.from p.request) ⟨p.dapData, p.speed, w⟩
      have hexact := dapProcessCommand_exact t L (request.from p.request) ⟨p.dapData, p.speed, w⟩
      have hnext := Comes.next L w hp hleft
      rw [BatchPoint.reply] at hnext
      simp only [executeLoop]
      generalize dapProcessCommand t L (request.from p.request) ⟨p.dapData, p.speed, w⟩ = reply
        at hle hexact hnext ⊢
      have hlen : reply.bytes.length ≤ longest (request.from p.request) p.dapData := hle
      rw [Exact, Nat.mod_eq_of_lt (by omega)] at hexact
      have hnum : reply.num.toUInt16.toNat = reply.bytes.length := by
        rw [← hexact, low_toNat]
        rfl
      have hresponse' : (p.after reply).response = p.response + reply.bytes.length := by
        rw [BatchPoint.after, hnum]
      obtain ⟨bytes, hfit, hrun⟩ := ih (p.after reply) hnext (by rw [BatchPoint.after, hcnt]; rfl)
        (by omega) reply.state.world
      refine ⟨reply.bytes ++ bytes, by rw [List.length_append]; omega, ?_⟩
      intro num buf
      obtain ⟨hbuf, hcount⟩ := hrun (num + reply.num) (buf.write p.response reply.bytes)
      refine ⟨?_, ?_⟩
      · refine Eq.trans hbuf ?_
        rw [hresponse', write_write]
      · refine Eq.trans hcount ?_
        rw [add_low, hexact, List.length_append]
        omega

/-- A transport's responses fit its buffer for every target if and only if the longest ones do. -/
theorem fitsAlways_iff (tr : Transport) (request : Request) (d : DapData) (speed : TransferType) :
    FitsAlways t tr request d speed ↔ LongestFits t tr request d speed := by
  have hsize := responseBuffer_lt tr
  constructor
  · intro h
    constructor
    · intro hsingle
      have hrun := h.run obliging (compared (asked tr request))
      simp only [process_single t obliging hsingle] at hrun
      have hle := (fits_single t obliging hsize _ _).mp hrun
      rw [dapProcessCommand_obliging, longest_asked] at hle
      exact hle
    · intro hbatch p hp hleft
      have hle := h.commands hbatch p hp hleft obliging (compared (request.from p.request))
      rw [BatchPoint.reply, dapProcessCommand_obliging] at hle
      exact hle
  · intro h
    constructor
    · intro σ L w
      by_cases hbatch : batched tr request
      · have hresponse : 2 ≤ responseBuffer tr := by cases tr <;> decide
        obtain ⟨bytes, hfit, hrun⟩ := executeLoop_fits t L hsize (h.batch hbatch)
          (request 1).toNat _ .start rfl hresponse w
        have hfit' : 2 + bytes.length ≤ responseBuffer tr := hfit
        have hlen : ([request 0, request 1] ++ bytes).length = 2 + bytes.length :=
          List.length_append
        refine ⟨[request 0, request 1] ++ bytes, by omega, by omega, ?_⟩
        intro buf
        beta_reduce
        rw [process_batch t L hbatch, hlen]
        obtain ⟨hbuf, hcount⟩ := hrun (counts 2 2) (buf.write 0 [request 0, request 1])
        refine ⟨hbuf.trans (write_write buf 0 [request 0, request 1] bytes), ?_⟩
        have htwo : (counts 2 2 &&& 0xFFFF).toNat = 2 := rfl
        rw [htwo, Nat.mod_eq_of_lt (by omega)] at hcount
        exact hcount
      · simp only [process_single t L hbatch]
        apply (fits_single t L hsize _ _).mpr
        have hle := dapProcessCommand_le t L (asked tr request) ⟨d, speed, w⟩
        rw [longest_asked] at hle
        exact Nat.le_trans hle (h.single hbatch)
    · intro hbatch p hp hleft σ L w
      have hle := dapProcessCommand_le t L (request.from p.request) ⟨p.dapData, p.speed, w⟩
      exact Nat.le_trans (Nat.add_le_add_left hle _) (h.batch hbatch p hp hleft)

def blockRequest : Request := fun i => [0x06, 0x00, 0x90, 0x01, 0x02].getD i 0

/-- Over SWD the block reads 1600 bytes. -/
theorem not_fitsAlways_block :
    ¬ FitsAlways .esp32 .usbip blockRequest { dapSetup .esp32 with debugPort := DAP_PORT_SWD }
      .gpioNormal := by
  intro h
  have hsingle : ¬ batched .usbip blockRequest := fun h => absurd h.2 (by decide)
  have hrun := h.run obliging (compared (asked .usbip blockRequest))
  simp only [process_single .esp32 obliging hsingle] at hrun
  have hle := (fits_single .esp32 obliging (responseBuffer_lt .usbip) _ _).mp hrun
  rw [dapProcessCommand_obliging, longest_asked] at hle
  have hlongest : longest blockRequest { dapSetup .esp32 with debugPort := DAP_PORT_SWD } = 1604 := by
    decide
  rw [hlongest] at hle
  exact absurd hle (by decide)

/-- The transports agree on a request for every target and whatever was in their buffers. -/
def SameAlways (request : Request) (d : DapData) (speed : TransferType) : Prop :=
  ∀ {σ : Type} (L : Link σ) (w : σ) (usb : DapPacket) (el ws : Buffer),
    SameResponse t L request ⟨d, speed, w⟩ usb el ws

/-- A batch of one command, which asks for the capabilities. -/
def batchRequest : Request := fun i => [0x7F, 0x01, 0x00, 0xF0].getD i 0

end WirelessEsp.ResponseSize
