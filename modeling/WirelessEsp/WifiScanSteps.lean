import WirelessEsp.WifiScanRecords

namespace WirelessEsp.WifiManager

open TaskKernel Transition

section Step

variable {x y : Scanned} {t u : TaskId} {answer : Nat} {p q : Pc} {i : Code Pc}

theorem somewhere_of (hfresh : Fresh x.1) {f : Pc → Bool} (hq : x.1.tasks u = some q)
    (hf : f q = true) : somewhere x.1 f = true := by
  apply decide_eq_true
  refine ⟨u, hfresh.lt hq, ?_⟩
  rw [hq]
  exact hf

theorem nowhere_of (hfresh : Fresh x.1) {f : Pc → Bool} (h : (!somewhere x.1 f) = true)
    (hq : x.1.tasks u = some q) : f q = false := by
  rw [Bool.not_eq_true'] at h
  by_contra hf
  rw [Bool.not_eq_false] at hf
  rw [somewhere_of hfresh hq hf] at h
  cases h

theorem tracked_other (hrun : Runs manager x.1 t answer p i y.1) (hu : u ≠ t)
    (hq : y.1.tasks u = some q) (htracked : q.tracked = true ∨ q.isEvent = true) :
    x.1.tasks u = some q := by
  rcases hrun.other hu hq with ⟨hold, -⟩ | ⟨e, store, -, -, rfl⟩
  · exact hold
  · cases e <;> exact absurd htracked (by decide)

theorem orderly_delete {s : System} (hok : p.orderly s t answer = true)
    (hdelete : p.act = .delete) :
    (s.tasks (s.named (fun m => m.ctx.task) t)).any Pc.busy = false := by
  unfold Pc.orderly at hok
  split at hok
  · cases hdelete
  · cases hdelete
  · cases hdelete
  · cases hdelete
  · cases hdelete
  · simp only [hdelete, Bool.not_eq_true'] at hok
    exact hok

theorem busy_kept (hx : Sound x) (hrun : Runs manager x.1 t answer p i y.1)
    (hok : p.orderly x.1 t answer = true) (hu : u ≠ t) (hq : x.1.tasks u = some q)
    (hbusy : q.busy = true) : y.1.tasks u = some q := by
  apply hrun.kept hx.fresh hu hq
  intro handle hop heq
  have hdoes := code_does hrun.instr
  rw [hop] at hdoes
  obtain ⟨hdelete, rfl⟩ := does_delete hdoes
  have hnot := orderly_delete hok hdelete
  rw [← heq, hq, Option.any_some, hbusy] at hnot
  cases hnot

theorem busy_of_scanning (h : p.scanning = true) : p.busy = true := by
  rw [Pc.busy, h, Bool.true_or]

theorem busy_of_isEvent (h : p.isEvent = true) : p.busy = true := by
  rw [Pc.busy, h, Bool.or_true]

theorem tracked_of_scanning (h : p.scanning = true) : p.tracked = true := by
  cases p with
  | getScanList => rfl
  | _ => cases h

theorem write_mono (m : ScanView) (w : Written) (u : TaskId) (a : Address) (h : w u a = true) :
    p.write m answer w u a = true := by
  unfold Pc.write
  split
  · exact Bool.or_eq_true_iff.mpr (.inl h)
  · exact h

theorem orderly_word (hx : Sound x) (hok : p.orderly x.1 t answer = true)
    (hstores : p.storesWord = true) {n : UInt16} {aps : Address} {g : GetScanList}
    (hq : x.1.tasks u = some (.getScanList n aps g)) : g.usesWord = false := by
  unfold Pc.storesWord at hstores
  split at hstores
  · have hnot : g.scanning = false := nowhere_of hx.fresh hok hq
    by_contra huses
    rw [Bool.not_eq_false] at huses
    rw [GetScanList.scanning_of_usesWord huses] at hnot
    cases hnot
  · exact nowhere_of hx.fresh hok hq
  · exact nowhere_of hx.fresh hok hq
  · cases hstores

theorem awaits_loop {g : GetScanList} (h : g.awaits = true) :
    g.counting = true ∧ g.asks = none ∧ g.target = none ∧ g.stored = none := by
  cases g with
  | scan broke p =>
      cases p with
      | delay | wait => exact ⟨rfl, rfl, rfl, rfl⟩
      | _ => cases h
  | _ => cases h

theorem Fits.total {m : ScanView} {n k : UInt16} {aps : Address} {mine : Address → Bool}
    {g : GetScanList} (h : Fits m n aps mine g) (hg : g.awaits = true)
    (hbrought : Brought m aps mine k.toNat) :
    Fits { m with totalAps := m.totalAps + k } n aps mine g := by
  obtain ⟨hcounting, hasks, htarget, hstored⟩ := awaits_loop hg
  have hroom := hbrought.room
  have htotal : (m.totalAps + k).toNat = m.totalAps.toNat + k.toNat := by
    rw [UInt16.toNat_add]
    apply Nat.mod_eq_of_lt
    have := m.maxAp.toNat_lt
    omega
  refine ⟨h.word, h.maxAp, fun _ => ⟨?_, ?_⟩, ?_, ?_, ?_⟩
  · show (m.totalAps + k).toNat ≤ m.maxAp.toNat
    omega
  · intro j hj
    have hj' : j < m.totalAps.toNat + k.toNat := htotal ▸ hj
    by_cases hold : j < m.totalAps.toNat
    · exact (h.counted hcounting).written j hold
    · have hnew := hbrought.written (j - m.totalAps.toNat) (by omega)
      rwa [Nat.add_sub_cancel' (Nat.le_of_not_lt hold)] at hnew
  · rw [hasks]
    nofun
  · rw [htarget]
    nofun
  · rw [hstored]
    nofun

theorem Waits.at_scanning (hx : Sound x) {v : TaskId} {aps aps' : Address} (hv : Waits x v aps')
    {n : UInt16} {g : GetScanList} (hu : x.1.tasks u = some (.getScanList n aps g))
    (hg : g.scanning = true) : v = u ∧ aps' = aps ∧ g.awaits = true := by
  obtain ⟨n', g', hv, hg'⟩ := hv
  have heq : v = u := hx.alone v u _ _ hv hu (GetScanList.scanning_of_awaits hg') hg
  subst heq
  rw [hu] at hv
  cases hv
  exact ⟨rfl, rfl, hg'⟩

theorem stored_of_uncounted (hx : Sound x) (hp : x.1.tasks t = some p)
    (huncounted : p.uncounted = true)
    {n : UInt16} {aps : Address} {g : GetScanList}
    (hu : x.1.tasks u = some (.getScanList n aps g)) (hg : g.scanning = true) :
    g.stored = none := by
  cases p with
  | scanDone status number q =>
      obtain ⟨-, v, aps', hwaits, -⟩ := hx.handler t _ _ _ hp huncounted
      exact (awaits_loop (hwaits.at_scanning hx hu hg).2.2).2.2.2
  | _ => cases huncounted

theorem fits_other (hx : Sound x) (hrun : Runs manager x.1 t answer p i y.1)
    (hw : y.2 = p.write (scanView x.1.memory) answer x.2) (hok : p.orderly x.1 t answer = true)
    (hu : u ≠ t) {n : UInt16} {aps : Address} {g : GetScanList}
    (hold : x.1.tasks u = some (.getScanList n aps g)) :
    Fits (scanView y.1.memory) n aps (y.2 u) g := by
  have hfits := hx.fits u n aps g hold
  by_cases hg : g.scanning = true
  · have hp : p.scanning = false := by
      by_contra hp
      rw [Bool.not_eq_false] at hp
      exact hu (hx.alone u t _ _ hold hrun.point hg hp)
    rw [view_run hrun, hw]
    by_cases hcounts : p.counts = true
    · unfold Pc.counts at hcounts
      split at hcounts
      next status number k =>
        obtain ⟨-, v, aps', hwaits, hbrought⟩ := hx.handler t _ _ _ hrun.point rfl
        obtain ⟨rfl, rfl, hawaits⟩ := hwaits.at_scanning hx hold hg
        exact hfits.total hawaits hbrought
      next => cases hcounts
    · have hspares := onScan_spares hp (scanView x.1.memory)
      apply hfits.mono _ (hspares.totalAps (Bool.eq_false_iff.mpr hcounts)) hspares.maxAp _
        (write_mono _ _ u)
      · intro huses
        apply hspares.word
        by_contra hstores
        rw [Bool.not_eq_false] at hstores
        rw [orderly_word hx hok hstores hold] at huses
        cases huses
      · intro hstored
        apply hspares.number
        by_contra huncounted
        exact hstored (stored_of_uncounted hx hrun.point (eq_true_of_ne_false huncounted) hold hg)
  · exact fits_of_not_scanning (Bool.eq_false_iff.mpr hg)

theorem fits_run (hx : Sound x) (hrun : Runs manager x.1 t answer p i y.1)
    (hw : y.2 = p.write (scanView x.1.memory) answer x.2) (hok : p.orderly x.1 t answer = true)
    {n : UInt16} {aps : Address} {g : GetScanList}
    (hq : y.1.tasks u = some (.getScanList n aps g)) :
    Fits (scanView y.1.memory) n aps (y.2 u) g := by
  by_cases hu : u = t
  · subst hu
    have hnext := (hrun.self hq).1
    cases htracked : p.tracked with
    | false => cases (next_other htracked hrun.instr hnext).1
    | true =>
        cases p with
        | getScanList n' aps' g' =>
            rcases next_getScanList hrun.instr hnext with ⟨g'', hg'', heq⟩ | heq
            · cases heq
              have hinstr := hrun.instr
              cases hinstr
              rw [view_run hrun, hw]
              exact fits_next (hx.fits u _ _ _ hrun.point) hg''
            · cases heq
        | scanDone status number g' =>
            rcases next_scanDone hrun.instr hnext with ⟨g'', -, heq⟩ | heq
            · cases heq
            · cases heq
        | _ => cases htracked
  · exact fits_other hx hrun hw hok hu (tracked_other hrun hu hq (.inl rfl))

theorem next_scanning (hrun : Runs manager x.1 t answer p i y.1) (hq : y.1.tasks t = some q)
    (hs : q.scanning = true) : p.scanning = true ∨
      ∃ n aps broke, p = .getScanList n aps (.records broke) := by
  have hnext := (hrun.self hq).1
  cases htracked : p.tracked with
  | false =>
      have hnot := (next_other htracked hrun.instr hnext).1
      cases q with
      | getScanList => cases hnot
      | _ => cases hs
  | true =>
      cases p with
      | getScanList n aps g =>
          rcases next_getScanList hrun.instr hnext with ⟨g', hg', rfl⟩ | rfl
          · by_contra hnone
            obtain ⟨hg, hrecords⟩ := not_or.mp hnone
            have hnot := next_outside (Bool.eq_false_iff.mpr hg)
              (fun broke heq => hrecords ⟨n, aps, broke, heq ▸ rfl⟩) hg'
            rw [show g'.scanning = true from hs] at hnot
            cases hnot
          · cases hs
      | scanDone status number g =>
          rcases next_scanDone hrun.instr hnext with ⟨g', -, rfl⟩ | rfl
          · cases hs
          · cases hs
      | _ => cases htracked

theorem alone_run (hx : Sound x) (hrun : Runs manager x.1 t answer p i y.1)
    (hok : p.orderly x.1 t answer = true) (hu : u ≠ t) {q' : Pc} (hq : y.1.tasks t = some q)
    (hq' : y.1.tasks u = some q') (hs : q.scanning = true) (hs' : q'.scanning = true) : False := by
  have hold := tracked_other hrun hu hq' (.inl (tracked_of_scanning hs'))
  rcases next_scanning hrun hq hs with hp | ⟨n, aps, broke, rfl⟩
  · exact hu (hx.alone u t _ _ hold hrun.point hs' hp)
  · rw [nowhere_of hx.fresh hok hold] at hs'
    cases hs'

theorem loop_run (hx : Sound x) (hrun : Runs manager x.1 t answer p i y.1)
    (hq : y.1.tasks u = some q) (hevent : q.isEvent = true) : u = 0 := by
  by_cases hu : u = t
  · subst hu
    have hnext := (hrun.self hq).1
    cases htracked : p.tracked with
    | false => exact hx.loop u p hrun.point ((next_other htracked hrun.instr hnext).2 hevent)
    | true =>
        cases p with
        | getScanList n aps g =>
            rcases next_getScanList hrun.instr hnext with ⟨g', -, rfl⟩ | rfl
            · cases hevent
            · cases hevent
        | scanDone status number g => exact hx.loop u _ hrun.point rfl
        | _ => cases htracked
  · exact hx.loop u q (tracked_other hrun hu hq (.inr hevent)) hevent

theorem Armed.mono {m m' : ScanView} {aps : Address} (h : Armed m aps) (hap : m'.ap = m.ap)
    (hnumber : m'.number = m.number) (htotal : m'.totalAps = m.totalAps)
    (hmax : m'.maxAp = m.maxAp) : Armed m' aps := by
  refine ⟨?_, ?_⟩
  · rw [hap, htotal]
    exact h.ap
  · rw [hnumber, htotal, hmax]
    exact h.room

theorem Brought.mono {m m' : ScanView} {aps : Address} {mine mine' : Address → Bool} {count : Nat}
    (h : Brought m aps mine count) (htotal : m'.totalAps = m.totalAps)
    (hmax : m'.maxAp = m.maxAp) (hmine : ∀ a, mine a = true → mine' a = true) :
    Brought m' aps mine' count := by
  refine ⟨?_, ?_⟩
  · rw [htotal, hmax]
    exact h.room
  · rw [htotal]
    exact fun k hk => hmine _ (h.written k hk)

theorem Brought.of_le {m : ScanView} {aps : Address} {mine : Address → Bool} {count count' : Nat}
    (h : Brought m aps mine count) (hle : count' ≤ count) : Brought m aps mine count' :=
  ⟨Nat.le_trans (Nat.add_le_add_right hle _) h.room,
    fun k hk => h.written k (Nat.lt_of_lt_of_le hk hle)⟩

theorem Brought.toNat {m : ScanView} {aps : Address} {mine : Address → Bool} {count : Nat}
    (h : Brought m aps mine count) : (UInt16.ofNat count).toNat = count := by
  rw [UInt16.toNat_ofNat']
  apply Nat.mod_eq_of_lt
  have hroom := h.room
  have hmax := m.maxAp.toNat_lt
  omega

theorem OnScanDone.Holds.mono {m m' : ScanView} {aps : Address} {mine mine' : Address → Bool}
    {g : OnScanDone} (h : g.Holds m aps mine) (hap : m'.ap = m.ap) (hnumber : m'.number = m.number)
    (htotal : m'.totalAps = m.totalAps) (hmax : m'.maxAp = m.maxAp)
    (hmine : ∀ a, mine a = true → mine' a = true) : g.Holds m' aps mine' := by
  cases g with
  | screen | zero | records => exact Armed.mono h hap hnumber htotal hmax
  | found n | count i | callback n => exact Brought.mono h htotal hmax hmine
  | done n p =>
      cases p with
      | number | total => exact Brought.mono h htotal hmax hmine
      | notify => trivial
  | loop i | rssi i =>
      simp only [OnScanDone.Holds, hnumber]
      exact ⟨h.1, h.2.mono htotal hmax hmine⟩
  | argument =>
      simp only [OnScanDone.Holds, hnumber]
      exact Brought.mono h htotal hmax hmine
  | clearAp | clearCb => trivial

theorem Armed.brought {m : ScanView} {aps : Address} (h : Armed m aps) (w : Written)
    (status number : Nat) (hle : answer ≤ m.number.toNat) :
    Brought m aps ((Pc.scanDone status number .records).write m answer w u) answer := by
  refine ⟨Nat.le_trans (Nat.add_le_add_right hle _) h.room, ?_⟩
  intro k hk
  apply Bool.or_eq_true_iff.mpr
  refine .inr (decide_eq_true ⟨?_, ?_⟩)
  · rw [h.ap]
    exact Nat.add_le_add_left (Nat.le_add_right _ _) _
  · rw [h.ap, Nat.add_assoc]
    exact Nat.add_lt_add_left (Nat.add_lt_add_left hk _) _

theorem holds_next {s : System} {aps : Address} {w : Written} {status number : Nat}
    {g g' : OnScanDone} (h : g.Holds (scanView s.memory) aps (w u))
    (hanswer : g = .records → answer ≤ (scanView s.memory).number.toNat)
    (hnext : (wifiOnScanDone status number g).next
      (exec manager s t answer (wifiOnScanDone status number g).op).2 = .goto g') :
    g'.Holds (g.onScan (scanView s.memory)) aps
      ((Pc.scanDone status number g).write (scanView s.memory) answer w u) := by
  cases g with
  | screen =>
      simp only [wifiOnScanDone] at hnext
      split at hnext
      · cases hnext
        exact h
      split at hnext
      · cases hnext
        exact h
      split at hnext
      · cases hnext
        exact h
      · cases hnext
        exact h
  | zero =>
      cases hnext
      exact ⟨h.ap, Nat.le_trans (Nat.add_le_add_right (Nat.zero_le _) _) h.room⟩
  | records =>
      cases hnext
      have hbrought := Armed.brought (u := u) h w status number (hanswer rfl)
      show Brought _ _ _ (UInt16.ofNat answer).toNat
      rw [hbrought.toNat]
      exact hbrought
  | found n =>
      cases hnext
      exact ⟨Nat.zero_le _, Brought.mono h rfl rfl fun _ hwas => hwas⟩
  | loop i =>
      have hvalue : (exec manager s t answer (wifiOnScanDone status number (.loop i)).op).2 =
        (scanView s.memory).number.toNat := rfl
      rw [hvalue] at hnext
      simp only [wifiOnScanDone] at hnext
      split at hnext
      next hlt =>
        cases hnext
        exact ⟨hlt, h.2⟩
      next =>
        cases hnext
        exact h.2.of_le h.1
  | rssi i =>
      simp only [wifiOnScanDone] at hnext
      split at hnext
      · cases hnext
        exact h.2.of_le (Nat.le_of_lt h.1)
      · cases hnext
        exact h
  | count i =>
      cases hnext
      show Brought _ _ _ (UInt16.ofNat i).toNat
      rw [Brought.toNat h]
      exact Brought.mono h rfl rfl fun _ hwas => hwas
  | argument =>
      have hvalue : (exec manager s t answer (wifiOnScanDone status number .argument).op).2 =
        (scanView s.memory).number.toNat := rfl
      rw [hvalue] at hnext
      cases hnext
      show Brought _ _ _ (UInt16.ofNat (scanView s.memory).number.toNat).toNat
      rw [Brought.toNat h]
      exact h
  | callback n =>
      simp only [wifiOnScanDone] at hnext
      split at hnext
      · cases hnext
        trivial
      · cases hnext
        exact h
  | done n p =>
      cases p with
      | number =>
          cases hnext
          exact h
      | total | notify =>
          cases hnext
          trivial
  | clearAp =>
      cases hnext
      trivial
  | clearCb => cases hnext

theorem next_awaits {n : UInt16} {aps : Address} {v : Nat} {g g' : GetScanList}
    (hnext : (getScanList n aps g).next v = .goto g') (hg' : g'.awaits = true) :
    (∃ broke channel k a, g = .scan broke (.trigger channel k a .records)) ∨
      ∃ broke channel, g = .scan broke (.delay channel) := by
  by_contra hnone
  obtain ⟨htrigger, hdelay⟩ := not_or.mp hnone
  have hleads : leads GetScanList.awaits (fun _ => false) ((getScanList n aps g).next v) =
      false := by
    cases g with
    | take | checkConnecting | checkDelay | credential => exact leads_if rfl rfl
    | number broke err => exact leads_if rfl rfl
    | handler err p =>
        rw [getScanList, Instr.within, leads_within]
        exact leads_const _
    | scan broke p =>
        cases p with
        | delay channel => exact absurd ⟨broke, channel, rfl⟩ hdelay
        | wait channel =>
            rw [getScanList, Instr.within, leads_within]
            exact leads_if rfl (leads_if rfl rfl)
        | trigger channel k a p =>
            cases p with
            | records => exact absurd ⟨broke, channel, k, a, rfl⟩ htrigger
            | callback | number => rfl
            | start =>
                simp only [getScanList, scanLoop, wifiEventTriggerScan, Instr.within]
                split
                · rfl
                split
                next herr =>
                  simp only [Flow.within, if_pos herr]
                  rfl
                next => rfl
        | reset | number channel | records channel k => rfl
    | _ => rfl
  rw [hnext] at hleads
  have hawaits : g'.awaits = false := hleads
  rw [hg'] at hawaits
  cases hawaits

theorem onScan_scanCb {g : OnScanDone} (hg : g.uncounted = true) (m : ScanView) :
    (g.onScan m).scanCb = m.scanCb := by
  cases g with
  | done n p => cases p <;> rfl
  | clearAp | clearCb => cases hg
  | _ => rfl

theorem handler_self (hx : Sound x) (hrun : Runs manager x.1 t answer p i y.1)
    (hw : y.2 = p.write (scanView x.1.memory) answer x.2) (hok : p.orderly x.1 t answer = true)
    {status number : Nat} {g : OnScanDone} (hq : y.1.tasks t = some (.scanDone status number g))
    (huncounted : g.uncounted = true) : (scanView y.1.memory).scanCb = true ∧
      ∃ u aps, Waits y u aps ∧ g.Holds (scanView y.1.memory) aps (y.2 u) := by
  have hnext := (hrun.self hq).1
  cases htracked : p.tracked with
  | false => cases (next_other htracked hrun.instr hnext).1
  | true =>
      cases p with
      | getScanList n aps g' =>
          rcases next_getScanList hrun.instr hnext with ⟨g'', -, heq⟩ | heq
          · cases heq
          · cases heq
      | scanDone status' number' g' =>
          rcases next_scanDone hrun.instr hnext with ⟨g'', hg'', heq⟩ | heq
          · cases heq
            have hwas : g'.uncounted = true := by
              cases g' with
              | clearCb => cases hg''
              | clearAp =>
                  cases hg''
                  cases huncounted
              | done n p =>
                  cases p with
                  | notify =>
                      cases hg''
                      cases huncounted
                  | number | total => rfl
              | _ => rfl
            obtain ⟨hcb, v, aps, ⟨n, gv, hv, hgv⟩, hholds⟩ :=
              hx.handler t _ _ _ hrun.point hwas
            have hne : v ≠ t := by
              rintro rfl
              rw [hrun.point] at hv
              cases hv
            have hkept := busy_kept hx hrun hok hne hv
              (busy_of_scanning (GetScanList.scanning_of_awaits hgv))
            have hinstr := hrun.instr
            cases hinstr
            rw [view_run hrun, hw]
            have hanswer : g' = .records → answer ≤ (scanView x.1.memory).number.toNat := by
              rintro rfl
              exact of_decide_eq_true hok
            exact ⟨(onScan_scanCb hwas _).trans hcb, v, aps, ⟨n, gv, hkept, hgv⟩,
              holds_next hholds hanswer hg''⟩
          · cases heq
      | _ => cases htracked

theorem not_uncounted_of_not_handler (hp : p.isHandler = false) : p.uncounted = false := by
  cases p with
  | scanDone => cases hp
  | _ => rfl

theorem not_counts_of_not_handler (hp : p.isHandler = false) : p.counts = false := by
  cases p with
  | scanDone => cases hp
  | _ => rfl

theorem handler_other (hx : Sound x) (hrun : Runs manager x.1 t answer p i y.1)
    (hw : y.2 = p.write (scanView x.1.memory) answer x.2) (hok : p.orderly x.1 t answer = true)
    (hu : u ≠ t) {status number : Nat} {g : OnScanDone}
    (hold : x.1.tasks u = some (.scanDone status number g)) (huncounted : g.uncounted = true) :
    (scanView y.1.memory).scanCb = true ∧
      ∃ v aps, Waits y v aps ∧ g.Holds (scanView y.1.memory) aps (y.2 v) := by
  obtain ⟨hcb, v, aps, ⟨n, gv, hv, hgv⟩, hholds⟩ := hx.handler u _ _ _ hold huncounted
  have hscans : (Pc.getScanList n aps gv).scanning = true := GetScanList.scanning_of_awaits hgv
  have hp : p.isHandler = false := by
    by_contra hp
    cases p with
    | scanDone =>
        exact hu ((hx.loop u _ hold rfl).trans (hx.loop t _ hrun.point rfl).symm)
    | _ => exact hp rfl
  by_cases hvt : v = t
  · subst hvt
    have hpoint := hrun.point
    rw [hv] at hpoint
    cases hpoint
    have hinstr := hrun.instr
    cases hinstr
    rw [view_run hrun, hw]
    cases gv with
    | scan broke l =>
        cases l with
        | delay channel =>
            have halive : ((exec manager x.1 v answer (.ask : Op Memory Entry)).1.tasks v).isSome :=
              Option.isSome_of_eq_some hv
            exact ⟨hcb, v, aps, ⟨n, _, hrun.next halive, rfl⟩, hholds⟩
        | wait channel =>
            have hnot : g.uncounted = false := nowhere_of hx.fresh hok hold
            rw [huncounted] at hnot
            cases hnot
        | _ => cases hgv
    | _ => cases hgv
  · have hs : p.scanning = false := by
      by_contra hs
      exact hvt (hx.alone v t _ _ hv hrun.point hscans (eq_true_of_ne_false hs))
    have hkept := busy_kept hx hrun hok hvt hv (busy_of_scanning hscans)
    have hspares := onScan_spares hs (scanView x.1.memory)
    obtain ⟨hap, hcb'⟩ := hspares.event hp
    have hnumber := hspares.number (not_uncounted_of_not_handler hp)
    have htotal := hspares.totalAps (not_counts_of_not_handler hp)
    rw [view_run hrun, hw]
    exact ⟨hcb'.trans hcb, v, aps, ⟨n, gv, hkept, hgv⟩,
      hholds.mono hap hnumber htotal hspares.maxAp (write_mono _ _ v)⟩

theorem handler_goes_on (status number v : Nat) {g : OnScanDone} (hg : g ≠ .clearCb) :
    ∃ g', (wifiOnScanDone status number g).next v = .goto g' := by
  cases g with
  | screen =>
      simp only [wifiOnScanDone]
      split
      · exact ⟨_, rfl⟩
      split
      · exact ⟨_, rfl⟩
      split
      · exact ⟨_, rfl⟩
      · exact ⟨_, rfl⟩
  | loop i =>
      by_cases hlt : i < v
      · exact ⟨.rssi i, if_pos hlt⟩
      · exact ⟨.count i, if_neg hlt⟩
  | rssi i =>
      by_cases hweak : v ≠ 0
      · exact ⟨.count i, if_pos hweak⟩
      · exact ⟨.loop (i + 1), if_neg hweak⟩
  | callback n =>
      by_cases hcb : v = 0
      · exact ⟨.clearAp, if_pos hcb⟩
      · exact ⟨.done n .number, if_neg hcb⟩
  | done n p =>
      cases p with
      | number | total | notify => exact ⟨_, rfl⟩
  | clearCb => exact absurd rfl hg
  | zero | records | found | count | argument | clearAp => exact ⟨_, rfl⟩

theorem wifiOnScanDone_stays {status number : Nat} (g : OnScanDone)
    (handle : Memory → Option TaskId) :
    (wifiOnScanDone status number g).op ≠ .delete handle := by
  cases g with
  | done n p => cases p <;> nofun
  | _ => nofun

theorem cleared (hx : Sound x) (hrun : Runs manager x.1 t answer p i y.1)
    (hok : p.orderly x.1 t answer = true) (hold : x.1.tasks u = some q) (hq : q.isHandler = true)
    (hnone : ∀ u q, y.1.tasks u = some q → q.isHandler = false) :
    (scanView y.1.memory).scanCb = false := by
  by_cases hu : u = t
  · subst hu
    have hpoint := hrun.point
    rw [hold] at hpoint
    obtain rfl := Option.some.inj hpoint
    cases q with
    | scanDone status number g =>
        have hinstr := hrun.instr
        cases hinstr
        by_cases hg : g = .clearCb
        · subst hg
          rw [view_run hrun]
          rfl
        · have hkept : (exec manager x.1 u answer (wifiOnScanDone status number g).op).1.tasks u =
              some (.scanDone status number g) :=
            exec_kept _ hold (Nat.ne_of_lt (hx.fresh.lt hold))
              fun handle hop => absurd hop (wifiOnScanDone_stays g handle)
          have hnext := hrun.next (Option.isSome_of_eq_some hkept)
          obtain ⟨g', hg'⟩ := handler_goes_on status number
            (exec manager x.1 u answer (wifiOnScanDone status number g).op).2 hg
          simp only [Instr.within, hg'] at hnext
          cases hnone u _ hnext
    | _ => cases hq
  · have hevent : q.isEvent = true := by
      cases q with
      | scanDone => rfl
      | _ => cases hq
    rw [hnone u q (busy_kept hx hrun hok hu hold (busy_of_isEvent hevent))] at hq
    cases hq

theorem armed_run (hx : Sound x) (hrun : Runs manager x.1 t answer p i y.1)
    (hok : p.orderly x.1 t answer = true)
    (hnone : ∀ u q, y.1.tasks u = some q → q.isHandler = false)
    (hcb : (scanView y.1.memory).scanCb = true) {aps : Address} (hwaits : Waits y u aps) :
    Armed (scanView y.1.memory) aps := by
  have hbefore : ∀ u q, x.1.tasks u = some q → q.isHandler = false := by
    intro u q hold
    by_contra hq
    rw [cleared hx hrun hok hold (eq_true_of_ne_false hq) hnone] at hcb
    cases hcb
  obtain ⟨n, g, hq, hg⟩ := hwaits
  rw [view_run hrun] at hcb ⊢
  by_cases hu : u = t
  · subst hu
    have hnext := (hrun.self hq).1
    cases htracked : p.tracked with
    | false => cases (next_other htracked hrun.instr hnext).1
    | true =>
        cases p with
        | getScanList n' aps' g' =>
            rcases next_getScanList hrun.instr hnext with ⟨g'', hg'', heq⟩ | heq
            · cases heq
              have hinstr := hrun.instr
              cases hinstr
              rcases next_awaits hg'' hg with ⟨broke, channel, k, a, rfl⟩ | ⟨broke, channel, rfl⟩
              · have hfits := hx.fits u _ _ _ hrun.point
                refine ⟨hfits.target a rfl, ?_⟩
                have hnumber : (scanView x.1.memory).number = k := hfits.stored k rfl
                exact Nat.le_of_eq ((congrArg (·.toNat + _) hnumber).trans (hfits.asks k rfl))
              · exact hx.armed hbefore hcb u aps ⟨n, _, hrun.point, rfl⟩
            · cases heq
        | scanDone status number g' => cases hbefore u _ hrun.point
        | _ => cases htracked
  · have hold := tracked_other hrun hu hq (.inl rfl)
    have hs : p.scanning = false := by
      by_contra hs
      exact hu (hx.alone u t _ _ hold hrun.point (GetScanList.scanning_of_awaits hg)
        (eq_true_of_ne_false hs))
    have hp := hbefore t p hrun.point
    have hspares := onScan_spares hs (scanView x.1.memory)
    obtain ⟨hap, hcb'⟩ := hspares.event hp
    have hnumber := hspares.number (not_uncounted_of_not_handler hp)
    exact (hx.armed hbefore (hcb'.symm.trans hcb) u aps ⟨n, g, hold, hg⟩).mono hap hnumber
      (hspares.totalAps (not_counts_of_not_handler hp)) hspares.maxAp

end Step

end WirelessEsp.WifiManager
