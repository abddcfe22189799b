import WirelessEsp.DapTypes
import WirelessEsp.LeWords

namespace WirelessEsp.DapProbe

open DapTypes

/-- The bytes at a request pointer, those behind the packet included. -/
abbrev Request := Nat → UInt8

def Request.from (request : Request) (n : Nat) : Request := fun i => request (n + i)

/-- The little-endian word at offset `i`. -/
def Request.word (request : Request) (i : Nat) : UInt32 :=
  LeWords.ofBytes (request i) (request (i + 1)) (request (i + 2)) (request (i + 3))

def Request.half (request : Request) (i : Nat) : UInt32 :=
  (request i).toUInt32 ||| (request (i + 1)).toUInt32 <<< 8

theorem Request.half_lt (request : Request) (i : Nat) : (request.half i).toNat < 2 ^ 16 := by
  have hlow := (request i).toNat_lt
  have hhigh := (request (i + 1)).toNat_lt
  have hshift : ((request (i + 1)).toUInt32 <<< 8).toNat < 2 ^ 16 := by
    rw [UInt32.toNat_shiftLeft, Nat.shiftLeft_eq, UInt8.toNat_toUInt32]
    exact Nat.lt_of_le_of_lt (Nat.mod_le _ _) (by simp; omega)
  rw [Request.half, UInt32.toNat_or]
  exact Nat.or_lt_two_pow (by rw [UInt8.toNat_toUInt32]; omega) hshift

def storeWord (data : UInt32) : List UInt8 :=
  [data.toUInt8, (data >>> 8).toUInt8, (data >>> 16).toUInt8, (data >>> 24).toUInt8]

def JTAG_SEQUENCE_TCK : UInt32 := 0x3F
def JTAG_SEQUENCE_TDO : UInt32 := 0x80

def sequenceBytes (info : UInt32) : Nat :=
  let count := info &&& SWD_SEQUENCE_CLK
  let count := if count == 0 then 64 else count
  ((count + 7) / 8).toNat

inductive Pin where
  | swclkTck
  | swdioTms
  | tdi
  | tdo
  | nTrst
  | nReset
  deriving DecidableEq

/-- What a transfer returns, stores in `*data` and in `DAP_Data.timestamp`, and
leaves of the world. -/
structure Transferred (σ : Type) where
  ack : UInt8
  data : UInt32
  timestamp : UInt32
  world : σ

/-- What the command processor calls outside of `DAP.c`, over the states `σ` of the
pins, the timer and the target. `swdTransfer` and `jtagTransfer` get the request,
whether the pointer `data` is not null, and `*data`; `garbage` is what the local
variable `data` of the transfer commands holds before it is set; `pinSamples` bounds
the rounds of the wait of `DAP_SWJ_Pins`, which ends by its timeout. -/
structure Link (σ : Type) where
  spiInit : σ → σ
  spiDeinit : σ → σ
  portSwdSetup : σ → σ
  portJtagSetup : σ → σ
  portOff : σ → σ
  resetTarget : σ → UInt8 × σ
  pinDelaySlow : UInt32 → σ → σ
  dapOsDelay : Nat → σ → σ
  pinOut : Pin → UInt32 → σ → σ
  pinIn : Pin → σ → UInt32
  timestampGet : σ → UInt32 × σ
  pinSamples : Nat
  swjSequence : DapData → TransferType → UInt32 → Request → σ → σ
  swdSequence : DapData → TransferType → (info : UInt32) → Request → σ →
    Vector UInt8 (sequenceBytes info) × σ
  jtagSequence : DapData → (info : UInt32) → Request → σ → Vector UInt8 (sequenceBytes info) × σ
  jtagIr : DapData → UInt32 → σ → σ
  jtagReadIdCode : DapData → σ → UInt32 × σ
  jtagWriteAbort : DapData → UInt32 → σ → σ
  swdTransfer : DapData → TransferType → UInt32 → Bool → UInt32 → σ → Transferred σ
  jtagTransfer : DapData → UInt32 → Bool → UInt32 → σ → Transferred σ
  clearTransferAbort : σ → σ
  dapTransferAbort : σ → Bool
  garbage : UInt32

/-- `DAP_Data`, `SWD_TransferSpeed` and the rest of the world. -/
structure State (σ : Type) where
  dapData : DapData
  speed : TransferType
  world : σ

/-- The two byte counts that a command function returns in one word: that of the request in the
upper half, that of the response in the lower. -/
def counts (request response : UInt32) : UInt32 := (request <<< 16) ||| response

/-- What a command function stores from its response pointer on and what it returns. -/
structure Reply (σ : Type) where
  bytes : List UInt8
  num : UInt32
  state : State σ

variable {σ : Type}

def State.onWorld (f : σ → σ) (s : State σ) : State σ := { s with world := f s.world }

def State.onDapData (f : DapData → DapData) (s : State σ) : State σ :=
  { s with dapData := f s.dapData }

/-- A probe with no target, whose pins are low and whose timer stands. -/
def idleLink : Link σ where
  spiInit := id
  spiDeinit := id
  portSwdSetup := id
  portJtagSetup := id
  portOff := id
  resetTarget := fun w => (1, w)
  pinDelaySlow := fun _ => id
  dapOsDelay := fun _ => id
  pinOut := fun _ _ => id
  pinIn := fun _ _ => 0
  timestampGet := fun w => (0, w)
  pinSamples := 0
  swjSequence := fun _ _ _ _ => id
  swdSequence := fun _ _ _ _ w => (.replicate _ 0, w)
  jtagSequence := fun _ _ _ w => (.replicate _ 0, w)
  jtagIr := fun _ _ => id
  jtagReadIdCode := fun _ w => (0, w)
  jtagWriteAbort := fun _ _ => id
  swdTransfer := fun d _ _ _ data w => ⟨DAP_TRANSFER_FAULT, data, d.timestamp, w⟩
  jtagTransfer := fun d _ _ data w => ⟨DAP_TRANSFER_FAULT, data, d.timestamp, w⟩
  clearTransferAbort := id
  dapTransferAbort := fun _ => false
  garbage := 0

end WirelessEsp.DapProbe
