import WirelessEsp.CallRecord

namespace WirelessEsp.PinDelay

open Transition DapTypes DapProbe DapTransfer DapCommand CommandSteps CallRecord
open Relation (ReflTransGen)

/-- The loop of `PIN_DELAY_SLOW`, with the number of its iterations. -/
def pinDelaySlow : Nat → Int32 → Option Nat
  | 0, _ => none
  | fuel + 1, time =>
      let time := time - 1
      if time != 0 then (pinDelaySlow fuel time).map (· + 1) else some 1

/-- The iterations of the loop: what is left to 0 after the first decrement, and that one. -/
def iterations (time : Int32) : Nat := (time - 1).toUInt32.toNat + 1

theorem iterations_pred {time : Int32} (hne : time - 1 ≠ 0) :
    iterations time = iterations (time - 1) + 1 := by
  have hleft : (time - 1).toUInt32 ≠ 0 := fun h => hne (by
    rw [← Int32.toInt32_toUInt32 (time - 1), h]
    rfl)
  have hpos : 1 ≤ (time - 1).toUInt32.toNat :=
    Nat.one_le_iff_ne_zero.mpr fun h => hleft (UInt32.toNat_inj.mp h)
  have hpred : (time - 1 - 1).toUInt32.toNat = (time - 1).toUInt32.toNat - 1 := by
    have hle : (1 : UInt32) ≤ (time - 1).toUInt32 := UInt32.le_iff_toNat_le.mpr hpos
    rw [Int32.toUInt32_sub]
    exact UInt32.toNat_sub_of_le _ _ hle
  rw [iterations, iterations, hpred]
  omega

theorem pinDelaySlow_eq (time : Int32) (fuel : Nat) :
    pinDelaySlow fuel time = if iterations time ≤ fuel then some (iterations time) else none := by
  induction fuel generalizing time with
  | zero =>
      have hpos : ¬ iterations time ≤ 0 := by
        rw [iterations]
        omega
      rw [pinDelaySlow, if_neg hpos]
  | succ fuel ih =>
      rw [pinDelaySlow]
      by_cases hzero : time - 1 = 0
      · have hone : iterations time = 1 := by
          rw [iterations, hzero]
          rfl
        have hdone : ¬ (time - 1 != 0) = true := by simp [hzero]
        rw [if_neg hdone, hone, if_pos (by omega)]
      · rw [if_pos (bne_iff_ne.mpr hzero), ih, iterations_pred hzero]
        by_cases hfuel : iterations (time - 1) ≤ fuel
        · rw [if_pos hfuel, if_pos (by omega), Option.map_some]
        · rw [if_neg hfuel, if_neg (by omega), Option.map_none]

theorem iterations_pos {time : Int32} (hpos : 1 ≤ time.toInt) :
    iterations time = time.toInt.toNat := by
  have hlt : time.toInt < 2 ^ 31 := time.toInt_lt
  have hone : (1 : Int32).toInt = 1 := rfl
  have hpred : (time - 1).toInt = time.toInt - 1 := by
    rw [Int32.toInt_sub, hone]
    exact Int.bmod_eq_of_le (by omega) (by omega)
  have hnonneg : (0 : Int32) ≤ time - 1 := by
    have hzero : (0 : Int32).toInt = 0 := rfl
    rw [Int32.le_iff_toInt_le, hzero, hpred]
    omega
  have hnat : (time - 1).toUInt32.toNat = (time - 1).toInt.toNat :=
    Int32.toNat_toUInt32_of_le hnonneg
  rw [iterations]
  omega

structure CountsDown (delay : Int32) : Prop where
  pos : 1 ≤ delay.toInt
  ends (fuel : Nat) : pinDelaySlow fuel delay =
    if delay.toInt.toNat ≤ fuel then some delay.toInt.toNat else none

theorem countsDown_iff {delay : Int32} : CountsDown delay ↔ 1 ≤ delay.toInt := by
  refine ⟨fun h => h.pos, fun h => ⟨h, fun fuel => ?_⟩⟩
  rw [pinDelaySlow_eq, iterations_pos h]

theorem toInt_of_small {x : UInt32} (h : x.toNat < 2 ^ 31) : x.toInt32.toInt = x.toNat := by
  show x.toBitVec.toInt = x.toNat
  have htwice : 2 * x.toBitVec.toNat < 2 ^ 32 := by
    rw [UInt32.toNat_toBitVec]
    omega
  rw [BitVec.toInt_eq_toNat_of_lt htwice]
  rfl

def Positive (delay : UInt32) : Prop := 1 ≤ delay.toInt32.toInt

theorem positive_of_range {x : UInt32} (hpos : 1 ≤ x.toNat) (h : x.toNat < 2 ^ 31) :
    Positive x := by
  rw [Positive, toInt_of_small h]
  omega

theorem dapSetup_positive (t : Target) : Positive (dapSetup t).clockDelay := by
  cases t <;> exact positive_of_range (by decide) (by decide)

theorem swjClockDelay_positive {clock : UInt32} (hpos : clock ≠ 0) (hslow : clock < 2000000) :
    Positive (swjClockDelay t clock) := by
  have hclock : 1 ≤ clock.toNat := by
    have hne : clock.toNat ≠ 0 := fun h => hpos (UInt32.toNat_inj.mp h)
    omega
  have hlt : clock.toNat < 2000000 := UInt32.lt_iff_toNat_lt.mp hslow
  have hbus : (busClockFixed t / 2).toNat ≤ 50000000 := by
    cases t <;> decide
  obtain ⟨delay, hdelay⟩ : ∃ delay, delay = (busClockFixed t / 2 + (clock - 1)) / clock := ⟨_, rfl⟩
  have hle : delay.toNat < 2 ^ 26 := by
    have hdiv := Nat.div_le_self (busClockFixed t / 2 + (clock - 1)).toNat clock.toNat
    have hsum : (busClockFixed t / 2 + (clock - 1)).toNat < 2 ^ 26 := by
      have hone : (1 : UInt32).toNat = 1 := rfl
      have hle : (1 : UInt32) ≤ clock := UInt32.le_iff_toNat_le.mpr hclock
      rw [UInt32.toNat_add, UInt32.toNat_sub_of_le _ _ hle]
      omega
    rw [hdelay, UInt32.toNat_div]
    omega
  rw [swjClockDelay, ← hdelay]
  dsimp only
  split
  next hbig =>
    have hbig' : 2 < delay.toNat := UInt32.lt_iff_toNat_lt.mp hbig
    have hrounds : ((delay - IO_PORT_WRITE_CYCLES + (DELAY_SLOW_CYCLES - 1)) /
        DELAY_SLOW_CYCLES).toNat = delay.toNat / 3 := by
      have hsub : (delay - IO_PORT_WRITE_CYCLES).toNat = delay.toNat - 2 :=
        UInt32.toNat_sub_of_le _ _ (UInt32.le_iff_toNat_le.mpr hbig'.le)
      have htwo : (DELAY_SLOW_CYCLES - 1).toNat = 2 := rfl
      have hthree : DELAY_SLOW_CYCLES.toNat = 3 := rfl
      rw [UInt32.toNat_div, UInt32.toNat_add, hsub, htwo, hthree]
      omega
    exact positive_of_range (by omega) (by omega)
  · exact positive_of_range (by decide) (by decide)

theorem clockSetting_positive {fast : UInt8} {delay : UInt32} (h : ClockSetting t fast delay) :
    Positive delay := by
  cases h with
  | fast => exact positive_of_range (by decide) (by decide)
  | slow hpos hslow => exact swjClockDelay_positive hpos hslow

theorem delayOf_positive_iff (t : Target) (request : Request) :
    Positive (delayOf t request) ↔ request.half 0 ≠ 0 := by
  have hhalf : (request.half 0).toNat < 2 ^ 16 := request.half_lt 0
  have hscale : ∃ k, 1 ≤ k ∧ k ≤ 80 ∧
      ((cpuClock t / 1000000 + (DELAY_SLOW_CYCLES - 1)) / DELAY_SLOW_CYCLES).toNat = k := by
    cases t <;> exact ⟨_, by decide, by decide, rfl⟩
  obtain ⟨k, hk, hk', hscale⟩ := hscale
  have hprod : (request.half 0).toNat * k ≤ 65535 * 80 := Nat.mul_le_mul (by omega) hk'
  have hdelay : (delayOf t request).toNat = (request.half 0).toNat * k := by
    rw [delayOf, UInt32.toNat_mul, hscale, Nat.mod_eq_of_lt (by omega)]
  rw [Positive, toInt_of_small (by omega), hdelay]
  constructor
  · intro hpos hzero
    rw [hzero] at hpos
    simp at hpos
  · intro hne
    have hpos : (request.half 0).toNat ≠ 0 := fun h => hne (UInt32.toNat_inj.mp h)
    have hmul := Nat.mul_pos (Nat.pos_of_ne_zero hpos) hk
    omega

variable {σ : Type} {L : Link σ} {cmd : UInt8} {request : Request} {s s' : Recorded σ}

/-- All calls so far are counted down, and those with the clock delay will be. -/
structure Inv (s : Recorded σ) : Prop where
  clockDelay : Positive s.dapData.clockDelay
  counted (delay : Int32) (h : .pinDelaySlow delay ∈ calls s) : 1 ≤ delay.toInt

theorem boot_inv (t : Target) (w : σ) : Inv (boot t w) :=
  ⟨dapSetup_positive t, fun _ h => absurd h List.not_mem_nil⟩

theorem Inv.record (hi : Inv s) {calls' : List Call} (hcalls : calls s' = calls s ++ calls')
    (hclock : s'.dapData.clockDelay = s.dapData.clockDelay)
    (hnew : ∀ delay, .pinDelaySlow delay ∈ calls' → 1 ≤ delay.toInt) : Inv s' := by
  refine ⟨hclock ▸ hi.clockDelay, fun delay h => ?_⟩
  rw [hcalls] at h
  rcases List.mem_append.mp h with h | h
  · exact hi.counted delay h
  · exact hnew delay h

theorem Inv.keep (hi : Inv s) (hcalls : calls s' = calls s)
    (hclock : Positive s'.dapData.clockDelay) : Inv s' :=
  ⟨hclock, fun delay h => hi.counted delay (hcalls ▸ h)⟩

theorem Inv.pinDelay (hi : Inv s) (slow : Bool) (delay : Int32)
    (h : .pinDelaySlow delay ∈ pinDelay slow s.dapData) : 1 ≤ delay.toInt := by
  cases slow with
  | false => exact absurd h List.not_mem_nil
  | true =>
      obtain rfl : delay = s.dapData.clockDelay.toInt32 := by
        simpa [CallRecord.pinDelay] using h
      exact hi.clockDelay

theorem does_inv (hsome : cmd = ID_DAP_Delay → request.half 0 ≠ 0) (hi : Inv s)
    (h : Does t (recordingLink L) cmd request s s') : Inv s' := by
  cases h with
  | quiet hf => exact hi.keep (calls_quiet hf) hi.clockDelay
  | delay hcmd =>
      refine hi.record rfl rfl fun delay h => ?_
      obtain rfl : delay = (delayOf t request).toInt32 := by simpa using h
      exact (delayOf_positive_iff t request).mpr (hsome hcmd)
  | swjSequence count data => exact hi.record rfl rfl (hi.pinDelay _)
  | swdSequence info data => exact hi.record rfl rfl (hi.pinDelay _)
  | jtagSequence info data => exact hi.record rfl rfl (hi.pinDelay _)
  | swdTransfer r stores data => exact hi.record rfl rfl (hi.pinDelay _)
  | jtagTransfer r stores data => exact hi.record rfl rfl (hi.pinDelay _)
  | jtagIr ir hvalid =>
      refine hi.record rfl rfl fun delay h => ?_
      rcases List.mem_cons.mp h with h | h
      · cases h
      · exact hi.pinDelay _ _ h
  | jtagReadIdCode => exact hi.record rfl rfl (hi.pinDelay _)
  | jtagWriteAbort data => exact hi.record rfl rfl (hi.pinDelay _)
  | conf d hdelay hfast hjtag => exact hi.keep rfl (hdelay ▸ hi.clockDelay)
  | index i => exact hi.keep rfl hi.clockDelay
  | clock hclock speed => exact hi.keep rfl (clockSetting_positive hclock)
  | configure hcmd => exact hi.keep rfl hi.clockDelay

/-- `DAP_Delay` is asked for some time. -/
def DelaysSome (request : Request) : Prop := request 0 = ID_DAP_Delay → request.half 1 ≠ 0

theorem step_inv (hi : Inv s) (hsome : DelaysSome request) (h : step t L s request = some s') :
    Inv s' := by
  obtain rfl := Option.some.inj h
  have hrequest : request 0 = ID_DAP_Delay → (request.from 1).half 0 ≠ 0 := hsome
  have hdoes : ∀ s s' : Recorded σ, Inv s →
      Does t (recordingLink L) (request 0) (request.from 1) s s' → Inv s' :=
    fun _ _ hi h => does_inv hrequest hi h
  exact does_induction hdoes (processCommand_does t _ request s) hi

def AllCountDown (s : Recorded σ) : Prop :=
  ∀ delay, .pinDelaySlow delay ∈ calls s → CountsDown delay

theorem Inv.allCountDown (hi : Inv s) : AllCountDown s :=
  fun delay h => countsDown_iff.mpr (hi.counted delay h)

theorem processCommand_delay (hcmd : request 0 = ID_DAP_Delay) (s : State σ) :
    (dapProcessCommand t L request s).state =
      s.onWorld (L.pinDelaySlow (delayOf t (request.from 1))) := by
  rw [dapProcessCommand]
  simp only [hcmd]
  rfl

theorem delaysSome_of_next (h : step t L s request = some s') (hall : AllCountDown s') :
    DelaysSome request := by
  intro hcmd
  have hmem : Call.pinDelaySlow (delayOf t (request.from 1)).toInt32 ∈ calls s' := by
    rw [← Option.some.inj h, processCommand_delay hcmd]
    exact List.mem_append_right _ (List.mem_singleton.mpr rfl)
  exact (delayOf_positive_iff t (request.from 1)).mp (hall _ hmem).pos

theorem meets_iff_forall (s : Recorded σ) (requests : List Request) :
    Meets (step t L) (fun _ request => DelaysSome request) s requests ↔
      ∀ request ∈ requests, DelaysSome request := by
  induction requests generalizing s with
  | nil => exact ⟨fun _ _ h => absurd h List.not_mem_nil, fun _ => trivial⟩
  | cons request requests ih =>
      rw [List.forall_mem_cons, ← ih (dapProcessCommand t (recordingLink L) request s).state]
      exact Iff.rfl

/-- In a run of commands every argument of `PIN_DELAY_SLOW` is counted down, exactly when no
`DAP_Delay` of the run is one of no time. -/
theorem countsDown_run_iff (t : Target) (L : Link σ) (w : σ) (requests : List Request) :
    Always (step t L) AllCountDown (boot t w) requests ↔
      ∀ request ∈ requests, DelaysSome request := by
  rw [← meets_iff_forall (t := t) (L := L) (boot t w)]
  constructor
  · exact meets_of_always (I := fun _ => True) (fun _ _ _ _ _ _ => trivial)
      (fun _ _ _ _ h hall => delaysSome_of_next h hall) trivial
  · intro hm
    have h := always_of_step (P := Inv) (fun _ _ _ hi hsome h => step_inv hi hsome h)
      (boot_inv t w) hm
    exact h.mono fun _ hi => hi.allCountDown

/-- The loop is entered with 0, and its first decrement wraps. -/
theorem not_countsDown_delay : ¬ ∀ (t : Target) (L : Link Unit) (w : Unit)
    (requests : List Request), Always (step t L) AllCountDown (boot t w) requests := by
  intro h
  have hall := (h .esp32 idleLink () [fun i => [0x09, 0x00, 0x00].getD i 0]).of_run rfl
  have hpos := (hall 0 (List.mem_singleton.mpr rfl)).pos
  exact absurd hpos (by decide)

end WirelessEsp.PinDelay
