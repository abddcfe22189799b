import Mathlib.Algebra.Order.Floor.Div
import Mathlib.Data.Rat.Cast.Order
import Mathlib.Tactic.Positivity
import WirelessEsp.DapCommand

namespace WirelessEsp.SwjClock

open DapTypes DapProbe DapCommand

def checkedAdd (a b : UInt32) : Option UInt32 :=
  if a.toNat + b.toNat < 2 ^ 32 then some (a + b) else none

def checkedSub (a b : UInt32) : Option UInt32 := if b ≤ a then some (a - b) else none

/-- The computation of the source, which has no result when a step leaves the 32 bits. -/
def checkedClockDelay (t : Target) (clock : UInt32) : Option UInt32 := do
  let before ← checkedSub clock 1
  let sum ← checkedAdd (busClockFixed t / 2) before
  let delay := sum / clock
  if delay > IO_PORT_WRITE_CYCLES then
    let delay ← checkedSub delay IO_PORT_WRITE_CYCLES
    let sum ← checkedAdd delay (DELAY_SLOW_CYCLES - 1)
    pure (sum / DELAY_SLOW_CYCLES)
  else pure 1

theorem checkedAdd_fits {a b : UInt32} (h : a.toNat + b.toNat < 2 ^ 32) :
    checkedAdd a b = some (a + b) := if_pos h

theorem checkedSub_fits {a b : UInt32} (h : b ≤ a) : checkedSub a b = some (a - b) := if_pos h

def halfPeriod (clockDelay : Nat) : Nat :=
  IO_PORT_WRITE_CYCLES.toNat + DELAY_SLOW_CYCLES.toNat * clockDelay

def clockDelayOf (half clock : Nat) : Nat :=
  (half ⌈/⌉ clock - IO_PORT_WRITE_CYCLES.toNat) ⌈/⌉ DELAY_SLOW_CYCLES.toNat

theorem clockDelayOf_le_iff {half clock : Nat} (hclock : 0 < clock) (d : Nat) :
    clockDelayOf half clock ≤ d ↔ half ≤ clock * halfPeriod d := by
  have hslow : 0 < DELAY_SLOW_CYCLES.toNat := by decide
  calc clockDelayOf half clock ≤ d
      ↔ half ⌈/⌉ clock - IO_PORT_WRITE_CYCLES.toNat ≤ DELAY_SLOW_CYCLES.toNat * d :=
        ceilDiv_le_iff_le_mul hslow
    _ ↔ half ⌈/⌉ clock ≤ halfPeriod d := by
        rw [Nat.sub_le_iff_le_add, halfPeriod, Nat.add_comm]
    _ ↔ half ≤ clock * halfPeriod d := ceilDiv_le_iff_le_mul hclock

theorem clockDelayOf_anti (half : Nat) {clock clock' : Nat} (hclock : 0 < clock)
    (h : clock ≤ clock') : clockDelayOf half clock' ≤ clockDelayOf half clock := by
  rw [clockDelayOf_le_iff (Nat.lt_of_lt_of_le hclock h)]
  have hlong := (clockDelayOf_le_iff hclock _).mp (Nat.le_refl (clockDelayOf half clock))
  exact Nat.le_trans hlong (Nat.mul_le_mul_right _ h)

def half (t : Target) : Nat := (busClockFixed t / 2).toNat

theorem half_bounds (t : Target) : 40000000 ≤ half t ∧ half t ≤ 50000000 := by
  cases t <;> decide

theorem busClockFixed_half (t : Target) : (busClockFixed t).toNat = 2 * half t := by
  cases t <;> rfl

section

variable (t : Target) {clock : UInt32}

theorem before_toNat (hzero : 0 < clock) : (clock - 1).toNat = clock.toNat - 1 :=
  UInt32.toNat_sub_of_le clock 1 (by
    rw [UInt32.le_iff_toNat_le]
    exact UInt32.lt_iff_toNat_lt.mp hzero)

theorem sum_fits (hzero : 0 < clock) (hslow : clock < 2000000) :
    (busClockFixed t / 2).toNat + (clock - 1).toNat < 2 ^ 32 := by
  have hhalf := (half_bounds t).2
  have hclock : clock.toNat < 2000000 := UInt32.lt_iff_toNat_lt.mp hslow
  rw [half] at hhalf
  rw [before_toNat hzero]
  omega

theorem delay_toNat (hzero : 0 < clock) (hslow : clock < 2000000) :
    ((busClockFixed t / 2 + (clock - 1)) / clock).toNat = half t ⌈/⌉ clock.toNat := by
  have hpos : 0 < clock.toNat := UInt32.lt_iff_toNat_lt.mp hzero
  rw [UInt32.toNat_div, UInt32.toNat_add, Nat.mod_eq_of_lt (sum_fits t hzero hslow),
    before_toNat hzero, Nat.ceilDiv_eq_add_pred_div, half, Nat.add_sub_assoc hpos]

theorem delay_long (hzero : 0 < clock) (hslow : clock < 2000000) :
    IO_PORT_WRITE_CYCLES < (busClockFixed t / 2 + (clock - 1)) / clock := by
  have hpos : 0 < clock.toNat := UInt32.lt_iff_toNat_lt.mp hzero
  have hclock : clock.toNat < 2000000 := UInt32.lt_iff_toNat_lt.mp hslow
  have hhalf := (half_bounds t).1
  rw [UInt32.lt_iff_toNat_lt, delay_toNat t hzero hslow, ← Nat.not_le,
    ceilDiv_le_iff_le_mul hpos, Nat.not_le]
  change clock.toNat * 2 < half t
  omega

theorem delay_le (hzero : 0 < clock) (hslow : clock < 2000000) :
    ((busClockFixed t / 2 + (clock - 1)) / clock).toNat ≤ 50000000 := by
  have hpos : 0 < clock.toNat := UInt32.lt_iff_toNat_lt.mp hzero
  have hhalf := (half_bounds t).2
  rw [delay_toNat t hzero hslow, ceilDiv_le_iff_le_mul hpos]
  exact Nat.le_trans hhalf (Nat.le_mul_of_pos_left _ hpos)

theorem offset_toNat (hzero : 0 < clock) (hslow : clock < 2000000) :
    ((busClockFixed t / 2 + (clock - 1)) / clock - IO_PORT_WRITE_CYCLES).toNat =
      half t ⌈/⌉ clock.toNat - IO_PORT_WRITE_CYCLES.toNat := by
  rw [UInt32.toNat_sub_of_le _ _ (UInt32.le_of_lt (delay_long t hzero hslow)),
    delay_toNat t hzero hslow]

theorem offset_fits (hzero : 0 < clock) (hslow : clock < 2000000) :
    ((busClockFixed t / 2 + (clock - 1)) / clock - IO_PORT_WRITE_CYCLES).toNat +
      (DELAY_SLOW_CYCLES - 1).toNat < 2 ^ 32 := by
  have hle := delay_le t hzero hslow
  rw [delay_toNat t hzero hslow] at hle
  rw [offset_toNat t hzero hslow]
  change _ + 2 < _
  omega

theorem checkedClockDelay_slow (hzero : 0 < clock) (hslow : clock < 2000000) :
    checkedClockDelay t clock = some (swjClockDelay t clock) := by
  have hlong := delay_long t hzero hslow
  have hone : (1 : UInt32) ≤ clock := by
    rw [UInt32.le_iff_toNat_le]
    exact UInt32.lt_iff_toNat_lt.mp hzero
  rw [checkedClockDelay, checkedSub_fits hone]
  simp only [Option.bind_eq_bind, Option.bind_some]
  rw [checkedAdd_fits (sum_fits t hzero hslow)]
  simp only [Option.bind_some]
  rw [if_pos hlong, checkedSub_fits (UInt32.le_of_lt hlong)]
  simp only [Option.bind_some]
  rw [checkedAdd_fits (offset_fits t hzero hslow), swjClockDelay, if_pos hlong]
  rfl

theorem swjClockDelay_toNat (hzero : 0 < clock) (hslow : clock < 2000000) :
    (swjClockDelay t clock).toNat = clockDelayOf (half t) clock.toNat := by
  rw [swjClockDelay, if_pos (delay_long t hzero hslow), UInt32.toNat_div, UInt32.toNat_add,
    Nat.mod_eq_of_lt (offset_fits t hzero hslow), offset_toNat t hzero hslow, clockDelayOf,
    Nat.ceilDiv_eq_add_pred_div _ DELAY_SLOW_CYCLES.toNat]
  rfl

end

/-- The delay for a requested clock is computed without an overflow, is long enough and is the
shortest that is. -/
structure Slow (t : Target) (clock clockDelay : UInt32) : Prop where
  exact : checkedClockDelay t clock = some clockDelay
  notFaster : ((busClockFixed t).toNat : ℚ) / (2 * clock.toNat) ≤ halfPeriod clockDelay.toNat
  tight : ∀ d < clockDelay.toNat,
    (halfPeriod d : ℚ) < ((busClockFixed t).toNat : ℚ) / (2 * clock.toNat)

theorem halfPeriod_long_iff (t : Target) {clock : UInt32} (hzero : 0 < clock) (d : Nat) :
    ((busClockFixed t).toNat : ℚ) / (2 * clock.toNat) ≤ halfPeriod d ↔
      clockDelayOf (half t) clock.toNat ≤ d := by
  have hpos : 0 < clock.toNat := UInt32.lt_iff_toNat_lt.mp hzero
  have hden : (0 : ℚ) < 2 * clock.toNat := by positivity
  rw [clockDelayOf_le_iff hpos, busClockFixed_half, div_le_iff₀ hden]
  norm_cast
  rw [Nat.mul_comm (halfPeriod d), Nat.mul_assoc, Nat.mul_le_mul_left_iff Nat.zero_lt_two]

theorem swjClockDelay_slow (t : Target) {clock : UInt32} (hzero : 0 < clock)
    (hslow : clock < 2000000) : Slow t clock (swjClockDelay t clock) := by
  have hdelay := swjClockDelay_toNat t hzero hslow
  refine ⟨checkedClockDelay_slow t hzero hslow, ?_, ?_⟩
  · exact (halfPeriod_long_iff t hzero _).mpr (Nat.le_of_eq hdelay.symm)
  · intro d hd
    rw [← not_le, halfPeriod_long_iff t hzero, ← hdelay]
    exact Nat.not_le.mpr hd

theorem swjClockDelay_anti (t : Target) {clock clock' : UInt32} (hzero : 0 < clock)
    (hle : clock ≤ clock') (hslow : clock' < 2000000) :
    swjClockDelay t clock' ≤ swjClockDelay t clock := by
  rw [UInt32.le_iff_toNat_le, swjClockDelay_toNat t (UInt32.lt_of_lt_of_le hzero hle) hslow,
    swjClockDelay_toNat t hzero (UInt32.lt_of_le_of_lt hle hslow)]
  exact clockDelayOf_anti _ (UInt32.lt_iff_toNat_lt.mp hzero) (UInt32.le_iff_toNat_le.mp hle)

variable {σ : Type} (t : Target) (L : Link σ)

/-- What `DAP_SWJ_Clock` leaves in `DAP_Data.clock_delay`. -/
def clockDelayAfter (request : Request) (s : State σ) : UInt32 :=
  (dapSwjClock t L request s).state.dapData.clockDelay

theorem clockDelayAfter_slow {request : Request} (s : State σ) (hzero : 0 < request.word 0)
    (hslow : request.word 0 < 2000000) :
    clockDelayAfter t L request s = swjClockDelay t (request.word 0) := by
  have hne : ¬ (request.word 0 == 0) = true := by
    rw [beq_iff_eq]
    exact (UInt32.ne_of_lt hzero).symm
  have hfast : ¬ request.word 0 ≥ 10000000 :=
    UInt32.not_le.mpr (UInt32.lt_trans hslow (by decide))
  rw [clockDelayAfter, dapSwjClock]
  dsimp only
  rw [if_neg hne, if_neg hfast, if_neg (UInt32.not_le.mpr hslow)]
  rfl

/-- The target is never clocked faster than requested, and no slower than it has to be. -/
theorem dapSwjClock_slow (request : Request) (s : State σ) (hzero : 0 < request.word 0)
    (hslow : request.word 0 < 2000000) :
    Slow t (request.word 0) (clockDelayAfter t L request s) ∧
    ∀ (request' : Request) (s' : State σ), 0 < request'.word 0 →
      request'.word 0 ≤ request.word 0 →
      clockDelayAfter t L request s ≤ clockDelayAfter t L request' s' := by
  rw [clockDelayAfter_slow t L s hzero hslow]
  refine ⟨swjClockDelay_slow t hzero hslow, ?_⟩
  intro request' s' hzero' hle
  rw [clockDelayAfter_slow t L s' hzero' (UInt32.lt_of_le_of_lt hle hslow)]
  exact swjClockDelay_anti t hzero' hle hslow

def megahertz : Request := fun i => [0x40, 0x42, 0x0F, 0x00].getD i 0

theorem dapSwjClock_slow_megahertz : Slow .esp32 1000000
    (clockDelayAfter .esp32 idleLink megahertz ⟨dapSetup .esp32, .spi, ()⟩) :=
  (dapSwjClock_slow .esp32 idleLink megahertz _ (by decide) (by decide)).1

example : clockDelayAfter .esp32 idleLink megahertz ⟨dapSetup .esp32, .spi, ()⟩ = 16 := rfl

end WirelessEsp.SwjClock
