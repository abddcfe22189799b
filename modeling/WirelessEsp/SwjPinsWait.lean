import Mathlib.Order.Bounds.Basic
import WirelessEsp.DapCommand

namespace WirelessEsp.SwjPinsWait

open DapTypes DapProbe DapTransfer DapCommand

def longestWait : Nat := 3000000 * 5

/-- What the pins and the timer do while the wait goes on. Time is counted in readings of the
timer, which runs and is read again before its 32 bits could hide that the wait is over. -/
structure History where
  level : Nat → Pin → Bool
  clock : Nat → Nat
  mono : Monotone clock
  gap (k : Nat) : clock (k + 1) + longestWait ≤ clock k + 2 ^ 32
  runs (bound : Nat) : ∃ k, bound ≤ clock k

def History.link (H : History) (samples : Nat) : Link Nat where
  spiInit := fun k => k
  spiDeinit := fun k => k
  portSwdSetup := fun k => k
  portJtagSetup := fun k => k
  portOff := fun k => k
  resetTarget := fun k => (1, k)
  pinDelaySlow := fun _ k => k
  dapOsDelay := fun _ k => k
  pinOut := fun _ _ k => k
  pinIn := fun pin k => if H.level k pin then 1 else 0
  timestampGet := fun k => (UInt32.ofNat (H.clock k), k + 1)
  pinSamples := samples
  swjSequence := fun _ _ _ _ k => k
  swdSequence := fun _ _ _ _ k => (.replicate _ 0, k)
  jtagSequence := fun _ _ _ k => (.replicate _ 0, k)
  jtagIr := fun _ _ k => k
  jtagReadIdCode := fun _ k => (0, k)
  jtagWriteAbort := fun _ _ k => k
  swdTransfer := fun d _ _ _ data k => ⟨DAP_TRANSFER_FAULT, data, d.timestamp, k⟩
  jtagTransfer := fun d _ _ data k => ⟨DAP_TRANSFER_FAULT, data, d.timestamp, k⟩
  clearTransferAbort := fun k => k
  dapTransferAbort := fun _ => false
  garbage := 0

variable (H : History) (request : Request)

def History.reading (pin : Pin) (k : Nat) : UInt32 := pinIn (H.link 0) pin k

def value : UInt32 := (request 0).toUInt32
def select : UInt32 := (request 1).toUInt32

def timeout : Nat := min (request.word 2).toNat 3000000 * 5

/-- Each selected pin reads its own bit of the value. -/
def Match (k : Nat) : Prop := ∀ pin ∈ swjWaitPins, selected (select request) pin = true →
  H.reading pin k = (value request >>> swjPinBit pin) &&& 1

def Elapsed (k : Nat) : Prop := timeout request ≤ H.clock k - H.clock 0

/-- The wait should be over at sample `k`, or by the reading of the timer before it. -/
def Over (k : Nat) : Prop := 1 ≤ k ∧ (Match H request k ∨ Elapsed H request (k - 1))

/-- `DAP_SWJ_Pins` waits until then, and no longer. -/
def EndsInTime : Prop := ∃ r, IsLeast (Over H request) r ∧
  ∀ samples ≥ r, ∀ d speed, (dapSwjPins (H.link samples) request ⟨d, speed, 0⟩).state.world = r

/-- No selected pin has other bits of the value above its own. -/
def Clean : Prop := ∀ pin ∈ swjWaitPins, selected (select request) pin = true →
  value request >>> swjPinBit pin ≤ 1

def CodeMatch (k : Nat) : Prop := ∀ pin ∈ swjWaitPins,
  swjWaitsFor (H.link 0) (value request) (select request) k pin = false

def waitTicks : UInt32 :=
  (if request.word 2 > 3000000 then 3000000 else request.word 2) * (TIMESTAMP_CLOCK / 1000000)

def CodeElapsed (k : Nat) : Prop :=
  waitTicks request ≤ UInt32.ofNat (H.clock k) - UInt32.ofNat (H.clock 0)

variable {H request}

theorem pinIn_link (samples : Nat) (pin : Pin) (k : Nat) :
    pinIn (H.link samples) pin k = H.reading pin k := by
  cases pin <;> rfl

theorem reading_le (pin : Pin) (k : Nat) : H.reading pin k ≤ 1 := by
  have hlevel : ∀ b : Bool, (if b then (1 : UInt32) else 0) ≤ 1 := by decide
  cases pin with
  | swclkTck => exact UInt32.le_iff_toNat_le.mpr (Nat.zero_le 1)
  | nTrst => exact UInt32.le_iff_toNat_le.mpr (Nat.zero_le 1)
  | swdioTms => exact hlevel _
  | tdi => exact hlevel _
  | tdo => exact hlevel _
  | nReset => exact hlevel _

theorem waitTicks_toNat : (waitTicks request).toNat = timeout request := by
  have hscale : (TIMESTAMP_CLOCK / 1000000).toNat = 5 := rfl
  have hmax : (3000000 : UInt32).toNat = 3000000 := rfl
  rw [waitTicks, timeout, UInt32.toNat_mul, hscale]
  split
  next hlong =>
    have hlong' : 3000000 < (request.word 2).toNat := UInt32.lt_iff_toNat_lt.mp hlong
    rw [hmax]
    omega
  next hshort =>
    have hshort' : ¬ 3000000 < (request.word 2).toNat :=
      fun h => hshort (UInt32.lt_iff_toNat_lt.mpr h)
    omega

theorem timeout_le : timeout request ≤ longestWait := by
  rw [timeout, longestWait]
  omega

theorem ticks_toNat (k : Nat) : (UInt32.ofNat (H.clock k) - UInt32.ofNat (H.clock 0)).toNat =
    (H.clock k - H.clock 0) % 2 ^ 32 := by
  have hle : H.clock 0 ≤ H.clock k := H.mono (Nat.zero_le k)
  rw [UInt32.toNat_sub, UInt32.toNat_ofNat', UInt32.toNat_ofNat']
  omega

theorem elapsed_of_code {k : Nat} (h : CodeElapsed H request k) : Elapsed H request k := by
  have hle := UInt32.le_iff_toNat_le.mp h
  rw [waitTicks_toNat, ticks_toNat] at hle
  rw [Elapsed]
  omega

theorem code_of_elapsed {k : Nat} (h : Elapsed H request k)
    (hfirst : ∀ i < k, ¬ Elapsed H request i) : CodeElapsed H request k := by
  have hsmall : H.clock k - H.clock 0 < 2 ^ 32 := by
    cases k with
    | zero => omega
    | succ k =>
        have hgap := H.gap k
        have hmono := H.mono (Nat.zero_le k)
        have hbefore : H.clock k - H.clock 0 < timeout request :=
          Nat.not_le.mp (hfirst k (Nat.lt_succ_self k))
        have hmax := @timeout_le request
        omega
  rw [CodeElapsed, UInt32.le_iff_toNat_le, waitTicks_toNat, ticks_toNat, Nat.mod_eq_of_lt hsmall]
  exact h

theorem not_elapsed_zero (hwait : request.word 2 ≠ 0) : ¬ Elapsed H request 0 := by
  have hpos : (request.word 2).toNat ≠ 0 := fun h => hwait (UInt32.toNat_inj.mp h)
  rw [Elapsed, timeout]
  omega

theorem swjWaitsFor_false {k : Nat} {pin : Pin} :
    swjWaitsFor (H.link 0) (value request) (select request) k pin = false ↔
      (selected (select request) pin = true →
        H.reading pin k = value request >>> swjPinBit pin) := by
  rw [swjWaitsFor, pinIn_link, Bool.and_eq_false_imp, bne_eq_false_iff_eq, UInt32.xor_eq_zero_iff]
  exact imp_congr_right fun _ => eq_comm

theorem and_one_of_le {x : UInt32} (h : x ≤ 1) : x &&& 1 = x := by
  have hle := UInt32.le_iff_toNat_le.mp h
  have hone : (1 : UInt32).toNat = 1 := rfl
  apply UInt32.toNat_inj.mp
  rw [UInt32.toNat_and, hone, Nat.and_one_is_mod]
  omega

theorem match_of_code {k : Nat} (h : CodeMatch H request k) : Match H request k := by
  intro pin hpin hselected
  have hreading := swjWaitsFor_false.mp (h pin hpin) hselected
  have hle : value request >>> swjPinBit pin ≤ 1 := hreading ▸ reading_le pin k
  rw [hreading, and_one_of_le hle]

theorem code_of_match {k : Nat} (hclean : Clean request) (h : Match H request k) :
    CodeMatch H request k := by
  refine fun pin hpin => swjWaitsFor_false.mpr fun hselected => ?_
  rw [h pin hpin hselected, and_one_of_le (hclean pin hpin hselected)]

theorem clean_of_code {k : Nat} (h : CodeMatch H request k) : Clean request := by
  intro pin hpin hselected
  have hreading := swjWaitsFor_false.mp (h pin hpin) hselected
  exact hreading ▸ reading_le pin k

theorem any_waitsFor (samples k : Nat) :
    swjWaitPins.any (swjWaitsFor (H.link samples) (value request) (select request) k) = false ↔
      CodeMatch H request k := by
  have hlink : swjWaitsFor (H.link samples) (value request) (select request) k =
      swjWaitsFor (H.link 0) (value request) (select request) k := by
    funext pin
    rw [swjWaitsFor, swjWaitsFor, pinIn_link, pinIn_link]
  rw [hlink, List.any_eq_false]
  simp only [Bool.not_eq_true]
  rfl

theorem swjWaitLoop_world {samples n j r : Nat} (hj : j ≤ r) (hn : r - j ≤ n)
    (hmatch : ∀ k, j ≤ k → k < r → ¬ CodeMatch H request k)
    (helapsed : ∀ k, j ≤ k → k + 1 < r → ¬ CodeElapsed H request k)
    (hover : CodeMatch H request r ∨ (j < r ∧ CodeElapsed H request (r - 1))) :
    swjWaitLoop (H.link samples) (value request) (select request) (waitTicks request)
      (UInt32.ofNat (H.clock 0)) n j = r := by
  induction n generalizing j with
  | zero =>
      rw [swjWaitLoop]
      omega
  | succ n ih =>
      rw [swjWaitLoop]
      rcases Nat.eq_or_lt_of_le hj with rfl | hlt
      · have hmatched : CodeMatch H request j := hover.resolve_right fun h => absurd h.1 (by omega)
        rw [(any_waitsFor samples j).mpr hmatched]
        rfl
      · have hany : swjWaitPins.any (swjWaitsFor (H.link samples) (value request)
            (select request) j) = true := by
          rw [← Bool.not_eq_false, any_waitsFor]
          exact hmatch j le_rfl hlt
        have hget : (H.link samples).timestampGet j = (UInt32.ofNat (H.clock j), j + 1) := rfl
        rw [if_pos hany]
        simp only [hget]
        by_cases hdone : CodeElapsed H request j
        · have hlast : j + 1 = r := by
            by_contra hne
            exact helapsed j le_rfl (by omega) hdone
          rw [if_neg (UInt32.not_lt.mpr hdone), hlast]
        · rw [if_pos (UInt32.not_le.mp hdone)]
          refine ih hlt (by omega) (fun k hk => hmatch k (by omega))
            (fun k hk => helapsed k (by omega)) ?_
          refine hover.imp_right fun h => ⟨?_, h.2⟩
          by_contra hle
          have hlast : r - 1 = j := by omega
          exact hdone (hlast ▸ h.2)

def CodeOver (H : History) (request : Request) (k : Nat) : Prop :=
  1 ≤ k ∧ (CodeMatch H request k ∨ CodeElapsed H request (k - 1))

theorem swjOutputs_world (samples : Nat) (v sel : UInt32) (k : Nat) :
    swjOutputs (H.link samples) v sel k = k := by
  have houtput : ∀ pin k, swjOutput (H.link samples) v sel pin k = k := by
    intro pin k
    rw [swjOutput]
    exact ite_self k
  rw [swjOutputs, houtput, houtput, houtput, houtput, houtput]

theorem dapSwjPins_world (hwait : request.word 2 ≠ 0) (samples : Nat) (d : DapData)
    (speed : TransferType) : (dapSwjPins (H.link samples) request ⟨d, speed, 0⟩).state.world =
      swjWaitLoop (H.link samples) (value request) (select request) (waitTicks request)
        (UInt32.ofNat (H.clock 0)) samples 1 := by
  have hnonzero : (request.word 2 != 0) = true := bne_iff_ne.mpr hwait
  have hrun : swjWait (H.link samples) (value request) (select request) (request.word 2) 0 =
      swjWaitLoop (H.link samples) (value request) (select request) (waitTicks request)
        (UInt32.ofNat (H.clock 0)) samples 1 := by
    rw [swjWait, if_pos hnonzero]
    rfl
  have hworld : swjWait (H.link samples) (value request) (select request) (request.word 2)
      (swjOutputs (H.link samples) (value request) (select request) 0) = _ :=
    (congrArg _ (swjOutputs_world samples (value request) (select request) 0)).trans hrun
  cases speed with
  | gpioNormal => exact hworld
  | gpioFast => exact hworld
  | spi => exact hworld

theorem dapSwjPins_ends (hwait : request.word 2 ≠ 0) {r : Nat}
    (hr : IsLeast (CodeOver H request) r) {samples : Nat} (hsamples : r ≤ samples) (d : DapData)
    (speed : TransferType) :
    (dapSwjPins (H.link samples) request ⟨d, speed, 0⟩).state.world = r := by
  obtain ⟨⟨hpos, hover⟩, hleast⟩ := hr
  have hnone : ¬ CodeElapsed H request 0 := fun h => not_elapsed_zero hwait (elapsed_of_code h)
  rw [dapSwjPins_world hwait]
  refine swjWaitLoop_world hpos (by omega) (fun k hk hlt hmatch => ?_)
    (fun k hk hlt helapsed => ?_) (hover.imp_right fun h => ⟨?_, h⟩)
  · exact absurd (hleast ⟨hk, .inl hmatch⟩) (by omega)
  · exact absurd (hleast ⟨Nat.le_add_left 1 k, .inr helapsed⟩) (by omega)
  · by_contra hle
    have hlast : r - 1 = 0 := by omega
    exact hnone (hlast ▸ h)

theorem exists_isLeast {p : Nat → Prop} (h : ∃ k, p k) : ∃ k, IsLeast p k := by
  classical
  exact ⟨Nat.find h, Nat.find_spec h, fun _ hk => Nat.find_min' h hk⟩

theorem exists_first_elapsed (H : History) (request : Request) :
    ∃ k, IsLeast (Elapsed H request) k := by
  obtain ⟨k, hk⟩ := H.runs (H.clock 0 + timeout request)
  refine exists_isLeast ⟨k, ?_⟩
  rw [Elapsed]
  omega

theorem codeElapsed_first {k : Nat} (hk : IsLeast (Elapsed H request) k) :
    CodeElapsed H request k :=
  code_of_elapsed hk.1 fun _ hi h => absurd (hk.2 h) (Nat.not_le.mpr hi)

theorem exists_isLeast_over (H : History) (request : Request) :
    ∃ r, IsLeast (Over H request) r := by
  obtain ⟨k, hk⟩ := exists_first_elapsed H request
  exact exists_isLeast ⟨k + 1, Nat.le_add_left 1 k, .inr hk.1⟩

theorem exists_isLeast_code (H : History) (request : Request) :
    ∃ r, IsLeast (CodeOver H request) r := by
  obtain ⟨k, hk⟩ := exists_first_elapsed H request
  exact exists_isLeast ⟨k + 1, Nat.le_add_left 1 k, .inr (codeElapsed_first hk)⟩

theorem over_of_code {k : Nat} (h : CodeOver H request k) : Over H request k :=
  ⟨h.1, h.2.imp match_of_code elapsed_of_code⟩

theorem code_of_elapsed_over {r : Nat} (hr : IsLeast (Over H request) r)
    (h : Elapsed H request (r - 1)) : CodeOver H request r := by
  refine ⟨hr.1.1, .inr (codeElapsed_first ⟨h, fun i hi => ?_⟩)⟩
  have hle : r ≤ i + 1 := hr.2 ⟨Nat.le_add_left 1 i, .inr hi⟩
  omega

theorem endsInTime_iff_code (hwait : request.word 2 ≠ 0) {r : Nat}
    (hr : IsLeast (Over H request) r) : EndsInTime H request ↔ CodeOver H request r := by
  constructor
  · rintro ⟨r', hr', hends⟩
    obtain rfl : r' = r := hr'.unique hr
    obtain ⟨c, hc⟩ := exists_isLeast_code H request
    have hworld := dapSwjPins_ends hwait hc (le_max_right r' c) (dapSetup .esp32) .gpioNormal
    rw [hends _ (le_max_left r' c)] at hworld
    exact hworld ▸ hc.1
  · intro hover
    have hcode : IsLeast (CodeOver H request) r := ⟨hover, fun k hk => hr.2 (over_of_code hk)⟩
    exact ⟨r, hr, fun samples hsamples d speed => dapSwjPins_ends hwait hcode hsamples d speed⟩

theorem codeOver_iff {r : Nat} (hr : IsLeast (Over H request) r) : CodeOver H request r ↔
    Clean request ∨ ∀ k, 1 ≤ k → Match H request k → ∃ i < k, Elapsed H request i := by
  constructor
  · rintro ⟨hpos, hmatch | helapsed⟩
    · exact .inl (clean_of_code hmatch)
    · refine .inr fun k hk hmatch => ⟨r - 1, ?_, elapsed_of_code helapsed⟩
      have hle : r ≤ k := hr.2 ⟨hk, .inl hmatch⟩
      omega
  · intro h
    obtain ⟨hpos, hmatch | helapsed⟩ := hr.1
    · rcases h with hclean | htime
      · exact ⟨hpos, .inl (code_of_match hclean hmatch)⟩
      · obtain ⟨i, hi, helapsed⟩ := htime r hpos hmatch
        have hle : r ≤ i + 1 := hr.2 ⟨Nat.le_add_left 1 i, .inr helapsed⟩
        obtain rfl : i = r - 1 := by omega
        exact code_of_elapsed_over hr helapsed
    · exact code_of_elapsed_over hr helapsed

/-- `DAP_SWJ_Pins` ends its wait in time exactly when no selected pin has other bits of the value
above its own, or the time is over before each match. -/
theorem endsInTime_iff (H : History) (request : Request) (hwait : request.word 2 ≠ 0) :
    EndsInTime H request ↔
      Clean request ∨ ∀ k, 1 ≤ k → Match H request k → ∃ i < k, Elapsed H request i := by
  obtain ⟨r, hr⟩ := exists_isLeast_over H request
  rw [endsInTime_iff_code hwait hr, codeOver_iff hr]

/-- All pins are high, and the timer counts the readings. -/
def allHigh : History where
  level := fun _ _ => true
  clock := fun k => k
  mono := fun _ _ h => h
  gap := fun k => by
    rw [longestWait]
    omega
  runs := fun bound => ⟨bound, le_rfl⟩

/-- nRESET goes high, and the host waits for it. -/
def waitReset : Request := fun i => [0x80, 0x80, 100, 0, 0, 0].getD i 0

theorem endsInTime_reset : EndsInTime allHigh waitReset :=
  (endsInTime_iff allHigh waitReset (by decide)).mpr
    (.inl (by unfold Clean; decide))

def waitTdi : Request := fun i => [0x84, 0x04, 100, 0, 0, 0].getD i 0

/-- TDI is high at the first sample, and the source goes on with its wait. -/
theorem not_endsInTime_tdi : ¬ ∀ (H : History) (request : Request), request.word 2 ≠ 0 →
    EndsInTime H request := by
  intro h
  have hwait : waitTdi.word 2 ≠ 0 := by decide
  have hmatch : Match allHigh waitTdi 1 := by
    unfold Match
    decide
  have hr : IsLeast (Over allHigh waitTdi) 1 := ⟨⟨le_rfl, .inl hmatch⟩, fun _ hk => hk.1⟩
  obtain ⟨-, hcode | helapsed⟩ := (endsInTime_iff_code hwait hr).mp (h allHigh waitTdi hwait)
  · exact absurd (clean_of_code hcode .tdi (by decide) rfl) (by decide)
  · exact not_elapsed_zero hwait (elapsed_of_code helapsed)

end WirelessEsp.SwjPinsWait
