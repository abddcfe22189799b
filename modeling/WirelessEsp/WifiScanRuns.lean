import WirelessEsp.WifiScanSteps

namespace WirelessEsp.WifiManager

open TaskKernel Transition

section Call

variable {x y : Scanned} {t u : TaskId} {p point q : Pc}

theorem accepts_begins (h : accepts p point = true) :
    p.tracked = false ∧ point.scanning = false ∧ (point.isEvent = true → p.isEvent = true) ∧
      ∀ status number g, point = .scanDone status number g → g = .screen := by
  unfold accepts at h
  split at h
  · exact ⟨rfl, rfl, nofun, nofun⟩
  · exact ⟨rfl, rfl, nofun, nofun⟩
  · exact ⟨rfl, rfl, nofun, nofun⟩
  · exact ⟨rfl, rfl, nofun, nofun⟩
  · exact ⟨rfl, rfl, fun _ => rfl, nofun⟩
  · exact ⟨rfl, rfl, fun _ => rfl, nofun⟩
  · exact ⟨rfl, rfl, fun _ => rfl, nofun⟩
  · exact ⟨rfl, rfl, fun _ => rfl, fun _ _ _ heq => (by cases heq; rfl)⟩
  · cases h

theorem begin_other (w : Written) (hu : u ≠ t) : point.begin t w u = w u := by
  unfold Pc.begin
  split
  · exact Function.update_of_ne hu _ _
  · rfl

theorem waits_call (hcall : Calls manager x.1 t p point y.1) {aps : Address} :
    Waits y u aps ↔ Waits x u aps ∧ u ≠ t := by
  obtain ⟨htracked, hscans, -, -⟩ := accepts_begins hcall.accepts
  constructor
  · rintro ⟨n, g, hq, hg⟩
    have hu : u ≠ t := by
      rintro rfl
      rw [← hcall.self hq, Pc.scanning, GetScanList.scanning_of_awaits hg] at hscans
      cases hscans
    rw [hcall.other hu] at hq
    exact ⟨⟨n, g, hq, hg⟩, hu⟩
  · rintro ⟨⟨n, g, hq, hg⟩, hu⟩
    exact ⟨n, g, (hcall.other hu).trans hq, hg⟩

theorem waits_ne (hcall : Calls manager x.1 t p point y.1) {aps : Address} (h : Waits x u aps) :
    u ≠ t := by
  rintro rfl
  obtain ⟨n, g, hq, -⟩ := h
  have htracked := (accepts_begins hcall.accepts).1
  rw [hcall.waits] at hq
  cases hq
  cases htracked

theorem no_handler (hx : Sound x) (ht : x.1.tasks t = some p) (hp : p.isEvent = true)
    (htracked : p.tracked = false) (hq : x.1.tasks u = some q) : q.isHandler = false := by
  cases q with
  | scanDone =>
      obtain rfl : t = u := (hx.loop t p ht hp).trans (hx.loop u _ hq rfl).symm
      rw [ht] at hq
      cases hq
      cases htracked
  | _ => rfl

theorem handler_begins (hx : Sound x) (hcall : Calls manager x.1 t p point y.1)
    (hdue : point.due x.1 = true) (hview : scanView y.1.memory = scanView x.1.memory)
    (hw : y.2 = point.begin t x.2) {status number : Nat} {g : OnScanDone}
    (hpoint : point = .scanDone status number g) : y.1.memory.event.scanCb = true ∧
      ∃ v aps, Waits y v aps ∧ g.Holds (scanView y.1.memory) aps (y.2 v) := by
  obtain ⟨htracked, -, hevent, hscreen⟩ := accepts_begins hcall.accepts
  obtain rfl := hscreen status number g hpoint
  subst hpoint
  obtain ⟨hcb, hsome⟩ := Bool.and_eq_true_iff.mp hdue
  obtain ⟨v, -, hv⟩ := of_decide_eq_true hsome
  rw [Option.any_eq_true] at hv
  obtain ⟨q, hq, hawaits⟩ := hv
  cases q with
  | getScanList n aps gv =>
      have hwaits : Waits x v aps := ⟨n, gv, hq, hawaits⟩
      have harmed := hx.armed (fun u q => no_handler hx hcall.waits (hevent rfl) htracked) hcb v
        aps hwaits
      rw [hview]
      exact ⟨(congrArg ScanView.scanCb hview).trans hcb, v, aps,
        (waits_call hcall).mpr ⟨hwaits, waits_ne hcall hwaits⟩, harmed⟩
  | _ => cases hawaits

theorem sound_call (hx : Sound x) (hcall : Calls manager x.1 t p point y.1)
    (hw : y.2 = point.begin t x.2) (hdue : point.due x.1 = true) (hfresh : Fresh y.1) :
    Sound y := by
  have hview := view_call hcall
  obtain ⟨htracked, hscans, hevent, -⟩ := accepts_begins hcall.accepts
  have hold : ∀ u q, y.1.tasks u = some q → q ≠ point → u ≠ t ∧ x.1.tasks u = some q := by
    intro u q hq hne
    have hu : u ≠ t := by
      rintro rfl
      exact hne (hcall.self hq)
    exact ⟨hu, (hcall.other hu).symm.trans hq⟩
  have hscanning : ∀ u q, y.1.tasks u = some q → q.scanning = true → x.1.tasks u = some q := by
    intro u q hq hs
    refine (hold u q hq ?_).2
    rintro rfl
    rw [hscans] at hs
    cases hs
  refine ⟨hfresh, ?_, ?_, ?_, ?_, ?_⟩
  · intro u q hq hq'
    by_cases hu : u = t
    · subst hu
      obtain rfl := hcall.self hq
      exact hx.loop u p hcall.waits (hevent hq')
    · rw [hcall.other hu] at hq
      exact hx.loop u q hq hq'
  · intro u v q q' hq hq' hs hs'
    exact hx.alone u v q q' (hscanning u q hq hs) (hscanning v q' hq' hs') hs hs'
  · intro u n aps g hq
    by_cases hg : g.scanning = true
    · have hq' := hscanning u _ hq hg
      have hu : u ≠ t := by
        rintro rfl
        rw [hcall.waits] at hq'
        cases hq'
        cases htracked
      rw [hview, hw, begin_other x.2 hu]
      exact hx.fits u n aps g hq'
    · exact fits_of_not_scanning (Bool.eq_false_iff.mpr hg)
  · intro u status number g hq huncounted
    by_cases hu : u = t
    · subst hu
      exact handler_begins hx hcall hdue hview hw (hcall.self hq).symm
    · rw [hcall.other hu] at hq
      obtain ⟨hcb, v, aps, hwaits, hholds⟩ := hx.handler u status number g hq huncounted
      have hv := waits_ne hcall hwaits
      rw [hview, hw]
      refine ⟨(congrArg ScanView.scanCb hview).trans hcb, v, aps,
        (waits_call hcall).mpr ⟨hwaits, hv⟩, ?_⟩
      rw [begin_other x.2 hv]
      exact hholds
  · intro hnone hcb u aps hwaits
    rw [hview]
    apply hx.armed ?_ ((congrArg ScanView.scanCb hview).symm.trans hcb) u aps
      ((waits_call hcall).mp hwaits).1
    intro u q hq
    by_cases hu : u = t
    · subst hu
      rw [hcall.waits] at hq
      cases hq
      cases p with
      | scanDone => cases htracked
      | _ => rfl
    · exact hnone u q ((hcall.other hu).trans hq)

end Call

section Run

variable {x y : Scanned} {t u : TaskId} {answer : Nat} {p q : Pc} {i : Code Pc}

theorem sound_run (hx : Sound x) (hrun : Runs manager x.1 t answer p i y.1)
    (hw : y.2 = p.write (scanView x.1.memory) answer x.2) (hok : p.orderly x.1 t answer = true)
    (hfresh : Fresh y.1) : Sound y := by
  refine ⟨hfresh, fun u q => loop_run hx hrun, ?_, fun u n aps g => fits_run hx hrun hw hok, ?_,
    fun hnone hcb u aps => armed_run hx hrun hok hnone hcb⟩
  · intro u v q q' hq hq' hs hs'
    by_contra hne
    by_cases hu : u = t
    · subst hu
      exact alone_run hx hrun hok (Ne.symm hne) hq hq' hs hs'
    by_cases hv : v = t
    · subst hv
      exact alone_run hx hrun hok hne hq' hq hs' hs
    · have hold := tracked_other hrun hu hq (.inl (tracked_of_scanning hs))
      have hold' := tracked_other hrun hv hq' (.inl (tracked_of_scanning hs'))
      exact hne (hx.alone u v q q' hold hold' hs hs')
  · intro u status number g hq huncounted
    by_cases hu : u = t
    · subst hu
      exact handler_self hx hrun hw hok hq huncounted
    · exact handler_other hx hrun hw hok hu (tracked_other hrun hu hq (.inl rfl)) huncounted

theorem sound_step {a : Action Pc} (hx : Sound x) (hok : Orderly x a)
    (h : scannedStep x a = some y) : Sound y := by
  obtain ⟨hstep, hsee⟩ := observe_some h
  have hfresh := step_fresh hx.fresh hstep
  cases a with
  | run t answer =>
      obtain ⟨p, i, hrun⟩ := step_run hstep
      simp only [writeStep, hrun.point] at hsee
      exact sound_run hx hrun hsee (hok p hrun.point) hfresh
  | call t point =>
      obtain ⟨p, hcall⟩ := step_call hstep
      exact sound_call hx hcall hsee hok hfresh

end Run

theorem Sound.scanSafe {x : Scanned} (h : Sound x) : ScanSafe x := by
  have hle : ∀ n : UInt16, n.toUInt8.toNat ≤ n.toNat := by
    intro n
    rw [UInt16.toNat_toUInt8]
    exact Nat.mod_le _ _
  refine ⟨?_, ?_, ?_⟩
  · intro t status number ht _
    obtain ⟨-, u, aps, ⟨n, g, hu, hg⟩, harmed⟩ := h.handler t _ _ _ ht rfl
    cases g with
    | scan broke p =>
        have hmax : x.1.memory.ctx.maxAp = n.toUInt8 := (h.fits u n aps _ hu).maxAp rfl
        have hap : x.1.memory.event.ap = aps + x.1.memory.ctx.totalAps.toNat := harmed.ap
        have hroom : x.1.memory.event.number.toNat + x.1.memory.ctx.totalAps.toNat ≤
          x.1.memory.ctx.maxAp.toNat := harmed.room
        have hn := hle n
        rw [hmax] at hroom
        refine ⟨u, n, aps, broke, p, hu, ?_, ?_⟩
        · rw [hap]
          exact Nat.le_add_right _ _
        · rw [hap, Nat.add_assoc]
          apply Nat.add_le_add_left
          omega
    | _ => cases hg
  · intro t status number n ht
    exact (h.handler t _ _ _ ht rfl).1
  · intro t n aps broke err ht
    have hfits := h.fits t n aps _ ht
    have hcounted := hfits.counted rfl
    have hmax : x.1.memory.ctx.maxAp = n.toUInt8 := hfits.maxAp rfl
    refine ⟨Nat.le_trans hcounted.room ?_, hcounted.written⟩
    exact Nat.le_trans (Nat.le_of_eq (congrArg UInt8.toNat hmax)) (hle n)

def unwritten : Written := fun _ _ => false

theorem boot_loop {b : Boot} {t : TaskId} (h : b.system.tasks t = some .eventLoop) : t = 0 := by
  by_contra ht
  have h' : (if t = 0 then some Pc.eventLoop
    else if t = 1 then (if b.storedCredential then some (.main (.disconnected .flag)) else none)
    else if t < b.callers + 2 then some .caller else none) = some .eventLoop := h
  rw [if_neg ht] at h'
  split at h'
  · split at h' <;> cases h'
  · split at h' <;> cases h'

theorem boot_sound (b : Boot) : Sound (b.system, unwritten) := by
  refine ⟨boot_fresh b, ?_, ?_, ?_, ?_, fun _ hcb => nomatch hcb⟩
  · intro t p hp hevent
    rcases boot_task hp with rfl | rfl | rfl
    · exact boot_loop hp
    · cases hevent
    · cases hevent
  · intro t u p q hp hq hs
    rcases boot_task hp with rfl | rfl | rfl <;> cases hs
  · intro u n aps g hq
    rcases boot_task hq with h | h | h <;> cases h
  · intro t status number g hq
    rcases boot_task hq with h | h | h <;> cases h

/-- A scan whose first channel brings three records and whose second one does not start. -/
def oneChannel : List (Action Pc) :=
  [.call 2 (.getScanList 5 100 .take)] ++ turns 2 14 0 ++ [.call 0 (.scanDone 0 3 .screen)] ++
    turns 0 1 0 ++ turns 0 1 3 ++ turns 0 16 0 ++ turns 2 3 0 ++ turns 2 3 1

/-- The first channel times out, and its result comes when the call has returned. -/
def lateResult : List (Action Pc) :=
  [.call 2 (.getScanList 5 100 .take)] ++ turns 2 17 0 ++ [.call 0 (.scanDone 0 3 .screen)] ++
    turns 0 1 0

theorem fresh_of_run {b : Boot} {as : List (Action Pc)} {y : Scanned}
    (h : run scannedStep (b.system, unwritten) as = some y) : Fresh y.1 := by
  have hall : Always scannedStep (fun x => Fresh x.1) (b.system, unwritten) as :=
    always_of_invariant (fun x a z hx hstep => step_fresh hx (observe_some hstep).1)
      (boot_fresh b) as
  exact hall.of_run h

end WirelessEsp.WifiManager
