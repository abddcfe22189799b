import WirelessEsp.CommandSteps
import WirelessEsp.Transition

namespace WirelessEsp.CallRecord

open Transition DapTypes DapProbe DapTransfer DapCommand CommandSteps
open Relation (ReflTransGen)

/-- A call that the command processor makes. `PIN_DELAY_SLOW` takes an `int32_t`. A function
that clocks its bits calls it for every edge, with the one value. -/
inductive Call where
  | pinDelaySlow (delay : Int32)
  | jtagIr (dev : JtagDev) (ir : UInt32)

/-- The macro `PIN_DELAY` of a function that clocks its bits. -/
def pinDelay (slow : Bool) (d : DapData) : List Call :=
  if slow then [.pinDelaySlow d.clockDelay.toInt32] else []

/-- `JTAG_IR` and `JTAG_Transfer` have a fast and a slow function. -/
def slowClock (d : DapData) : Bool := d.fastClock == 0

variable {σ : Type}

def recordingLink (L : Link σ) : Link (List Call × σ) where
  spiInit := fun (c, w) => (c, L.spiInit w)
  spiDeinit := fun (c, w) => (c, L.spiDeinit w)
  portSwdSetup := fun (c, w) => (c, L.portSwdSetup w)
  portJtagSetup := fun (c, w) => (c, L.portJtagSetup w)
  portOff := fun (c, w) => (c, L.portOff w)
  resetTarget := fun (c, w) => ((L.resetTarget w).1, (c, (L.resetTarget w).2))
  pinDelaySlow := fun delay (c, w) => (c ++ [.pinDelaySlow delay.toInt32], L.pinDelaySlow delay w)
  dapOsDelay := fun ms (c, w) => (c, L.dapOsDelay ms w)
  pinOut := fun pin bit (c, w) => (c, L.pinOut pin bit w)
  pinIn := fun pin (_, w) => L.pinIn pin w
  timestampGet := fun (c, w) => ((L.timestampGet w).1, (c, (L.timestampGet w).2))
  pinSamples := L.pinSamples
  swjSequence := fun d speed count request (c, w) =>
    (c ++ pinDelay (speed != .spi) d, L.swjSequence d speed count request w)
  swdSequence := fun d speed info request (c, w) =>
    let (swdi, w) := L.swdSequence d speed info request w
    (swdi, (c ++ pinDelay (speed != .spi) d, w))
  jtagSequence := fun d info request (c, w) =>
    let (tdo, w) := L.jtagSequence d info request w
    (tdo, (c ++ pinDelay true d, w))
  jtagIr := fun d ir (c, w) =>
    (c ++ .jtagIr d.jtagDev ir :: pinDelay (slowClock d) d, L.jtagIr d ir w)
  jtagReadIdCode := fun d (c, w) =>
    ((L.jtagReadIdCode d w).1, (c ++ pinDelay true d, (L.jtagReadIdCode d w).2))
  jtagWriteAbort := fun d data (c, w) => (c ++ pinDelay true d, L.jtagWriteAbort d data w)
  swdTransfer := fun d speed request stores data (c, w) =>
    let x := L.swdTransfer d speed request stores data w
    ⟨x.ack, x.data, x.timestamp, (c ++ pinDelay (speed == .gpioNormal) d, x.world)⟩
  jtagTransfer := fun d request stores data (c, w) =>
    let x := L.jtagTransfer d request stores data w
    ⟨x.ack, x.data, x.timestamp, (c ++ pinDelay (slowClock d) d, x.world)⟩
  clearTransferAbort := fun (c, w) => (c, L.clearTransferAbort w)
  dapTransferAbort := fun (_, w) => L.dapTransferAbort w
  garbage := L.garbage

abbrev Recorded (σ : Type) := State (List Call × σ)

def calls (s : Recorded σ) : List Call := s.world.1

def boot (t : Target) (w : σ) : Recorded σ := ⟨dapSetup t, .gpioNormal, ([], w)⟩

def step (t : Target) (L : Link σ) (s : Recorded σ) (request : Request) : Option (Recorded σ) :=
  some (dapProcessCommand t (recordingLink L) request s).state

variable {t : Target} {L : Link σ}

variable {cmd : UInt8} {request : Request} {s s' : Recorded σ}

theorem calls_quiet {f : List Call × σ → List Call × σ} (h : Quiet (recordingLink L) f) :
    calls (s.onWorld f) = calls s := by
  cases h <;> rfl

theorem does_induction {P : Recorded σ → Prop}
    (hstep : ∀ s s', P s → Does t (recordingLink L) cmd request s s' → P s')
    (h : ReflTransGen (Does t (recordingLink L) cmd request) s s') (hs : P s) : P s' := by
  induction h with
  | refl => exact hs
  | tail _ hdoes ih => exact hstep _ _ ih hdoes

end WirelessEsp.CallRecord
