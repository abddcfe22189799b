import Mathlib.Data.List.Basic

namespace WirelessEsp.TapController

inductive TapState where
  | testLogicReset
  | runTestIdle
  | selectDrScan
  | captureDr
  | shiftDr
  | exit1Dr
  | pauseDr
  | exit2Dr
  | updateDr
  | selectIrScan
  | captureIr
  | shiftIr
  | exit1Ir
  | pauseIr
  | exit2Ir
  | updateIr
  deriving DecidableEq

/-- The next state at a rising edge of TCK, with the level of TMS. -/
def TapState.next : TapState → Bool → TapState
  | .testLogicReset, true => .testLogicReset
  | .testLogicReset, false => .runTestIdle
  | .runTestIdle, true => .selectDrScan
  | .runTestIdle, false => .runTestIdle
  | .selectDrScan, true => .selectIrScan
  | .selectDrScan, false => .captureDr
  | .captureDr, true => .exit1Dr
  | .captureDr, false => .shiftDr
  | .shiftDr, true => .exit1Dr
  | .shiftDr, false => .shiftDr
  | .exit1Dr, true => .updateDr
  | .exit1Dr, false => .pauseDr
  | .pauseDr, true => .exit2Dr
  | .pauseDr, false => .pauseDr
  | .exit2Dr, true => .updateDr
  | .exit2Dr, false => .shiftDr
  | .updateDr, true => .selectDrScan
  | .updateDr, false => .runTestIdle
  | .selectIrScan, true => .testLogicReset
  | .selectIrScan, false => .captureIr
  | .captureIr, true => .exit1Ir
  | .captureIr, false => .shiftIr
  | .shiftIr, true => .exit1Ir
  | .shiftIr, false => .shiftIr
  | .exit1Ir, true => .updateIr
  | .exit1Ir, false => .pauseIr
  | .pauseIr, true => .exit2Ir
  | .pauseIr, false => .pauseIr
  | .exit2Ir, true => .updateIr
  | .exit2Ir, false => .shiftIr
  | .updateIr, true => .selectDrScan
  | .updateIr, false => .runTestIdle

structure Cycle where
  tms : Bool
  tdi : Bool
  deriving DecidableEq

/-- The ports of a chain, which all go through the same states, and the bits that they have
shifted into their instruction registers. -/
structure Scan where
  state : TapState
  shifted : List Bool

def Scan.clock (s : Scan) (c : Cycle) : Scan :=
  ⟨s.state.next c.tms, if s.state = .shiftIr then s.shifted ++ [c.tdi] else s.shifted⟩

def scan (cycles : List Cycle) : Scan := cycles.foldl Scan.clock ⟨.runTestIdle, []⟩

theorem scan_concat (cycles : List Cycle) (c : Cycle) :
    scan (cycles ++ [c]) = (scan cycles).clock c := List.foldl_concat _ _ _ _

theorem Scan.clock_shift {s : Scan} (h : s.state = .shiftIr) (c : Cycle) :
    s.clock c = ⟨if c.tms then .exit1Ir else .shiftIr, s.shifted ++ [c.tdi]⟩ := by
  rw [Scan.clock, h, if_pos rfl]
  cases c.tms <;> rfl

theorem Scan.clock_other {s : Scan} (h : s.state ≠ .shiftIr) (c : Cycle) :
    s.clock c = ⟨s.state.next c.tms, s.shifted⟩ := by
  rw [Scan.clock, if_neg h]

end WirelessEsp.TapController
