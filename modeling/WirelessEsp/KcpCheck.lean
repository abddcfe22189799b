import WirelessEsp.KcpFlush

namespace WirelessEsp.Kcp

open SerialNumber

variable {current t : UInt32} {kcp : Ikcpcb}

/-- `ikcp_update` flushes at the time `t`. -/
def flushDue (t : UInt32) (kcp : Ikcpcb) : Prop := 0 ≤ itimediff t (startClock t kcp).tsFlush

/-- The timer of a segment in `snd_buf` has run out at the time `t`. -/
def timerOut (t : UInt32) (kcp : Ikcpcb) : Prop := ∃ seg ∈ kcp.sndBuf, itimediff seg.resendts t ≤ 0

/-- Calls of `ikcp_update` with nothing between them. -/
def updates : List UInt32 → Ikcpcb → Ikcpcb × List (List UInt8)
  | [], kcp => (kcp, [])
  | t :: times, kcp =>
      let rest := updates times (ikcpUpdate t kcp).1
      (rest.1, (ikcpUpdate t kcp).2 ++ rest.2)

structure Idle (t : UInt32) (kcp : Ikcpcb) : Prop where
  updated : kcp.updated = true
  before : itimediff t kcp.tsFlush < 0
  near : -10000 ≤ itimediff t kcp.tsFlush

theorem Idle.startClock (h : Idle t kcp) : startClock t kcp = { kcp with current := t } := by
  have hrange : ¬(10000 ≤ itimediff t kcp.tsFlush ∨ itimediff t kcp.tsFlush < -10000) := by
    have hbefore := h.before
    have hnear := h.near
    omega
  simp only [Kcp.startClock, h.updated, if_true]
  exact if_neg hrange

theorem itimediff_self (t : UInt32) : itimediff t t = 0 := by
  exact ahead_self t

theorem flushDue_iff : flushDue t kcp ↔ ¬Idle t kcp := by
  constructor
  · intro hdue h
    rw [flushDue, h.startClock] at hdue
    exact absurd hdue (Int.not_le.mpr h.before)
  · intro hidle
    rw [flushDue]
    by_cases hupdated : kcp.updated = true
    · by_cases hrange : 10000 ≤ itimediff t kcp.tsFlush ∨ itimediff t kcp.tsFlush < -10000
      · have hstart : (startClock t kcp).tsFlush = t := by
          simp only [startClock, hupdated, if_true]
          rw [if_pos hrange]
        rw [hstart, itimediff_self]
      · have hstart : (startClock t kcp).tsFlush = kcp.tsFlush := by
          simp only [startClock, hupdated, if_true]
          rw [if_neg hrange]
        rw [hstart]
        apply Int.not_lt.mp
        intro hbefore
        exact hidle ⟨hupdated, hbefore, by omega⟩
    · have hfalse : kcp.updated = false := by
        exact Bool.eq_false_iff.mpr hupdated
      have hstart : (startClock t kcp).tsFlush = t := by
        simp only [startClock, hfalse, Bool.false_eq_true, if_false]
        split <;> rfl
      rw [hstart, itimediff_self]

theorem ikcpUpdate_idle (h : Idle t kcp) : ikcpUpdate t kcp = ({ kcp with current := t }, []) := by
  rw [ikcpUpdate, h.startClock]
  exact if_neg (Int.not_le.mpr h.before)

theorem updates_idle {times : List UInt32} (h : ∀ t ∈ times, Idle t kcp) :
    ∃ last, updates times kcp = ({ kcp with current := last }, []) := by
  induction times generalizing kcp with
  | nil => exact ⟨kcp.current, rfl⟩
  | cons t times ih =>
      obtain ⟨hfirst, hrest⟩ := List.forall_mem_cons.mp h
      have hlater : ∀ s ∈ times, Idle s { kcp with current := t } := by
        intro s hs
        exact ⟨(hrest s hs).updated, (hrest s hs).before, (hrest s hs).near⟩
      obtain ⟨last, hlast⟩ := ih hlater
      refine ⟨last, ?_⟩
      rw [updates, ikcpUpdate_idle hfirst, hlast]
      rfl

theorem packetTimer_least (current : UInt32) (segs : List Segment) (tm : Int) :
    (packetTimer current segs tm = none ∧ ∃ seg ∈ segs, itimediff seg.resendts current ≤ 0) ∨
      ∃ least, packetTimer current segs tm = some least ∧ least ≤ tm ∧
        (∀ seg ∈ segs, 0 < itimediff seg.resendts current ∧
          least ≤ itimediff seg.resendts current) ∧
        (least = tm ∨ ∃ seg ∈ segs, itimediff seg.resendts current = least) := by
  induction segs generalizing tm with
  | nil => exact Or.inr ⟨tm, rfl, le_rfl, fun seg hseg => absurd hseg List.not_mem_nil, Or.inl rfl⟩
  | cons seg rest ih =>
      by_cases hout : itimediff seg.resendts current ≤ 0
      · left
        exact ⟨by rw [packetTimer, if_pos hout], seg, List.mem_cons_self, hout⟩
      · rw [packetTimer, if_neg hout]
        generalize hnext : (if itimediff seg.resendts current < tm
          then itimediff seg.resendts current else tm) = next
        rcases ih next with ⟨hnone, s, hs, hsout⟩ | ⟨least, hsome, hle, hall, hfound⟩
        · exact Or.inl ⟨hnone, s, List.mem_cons_of_mem _ hs, hsout⟩
        · refine Or.inr ⟨least, hsome, ?_, ?_, ?_⟩
          · split at hnext <;> omega
          · intro s hs
            rcases List.mem_cons.mp hs with rfl | hs
            · split at hnext <;> omega
            · exact hall s hs
          · rcases hfound with rfl | ⟨s, hs, hsleast⟩
            · split at hnext
              · exact Or.inr ⟨seg, List.mem_cons_self, hnext⟩
              · exact Or.inl hnext.symm
            · exact Or.inr ⟨s, List.mem_cons_of_mem _ hs, hsleast⟩

/-- `wait` is at most the time to the flush and to each timer. -/
structure Within (current wait : UInt32) (kcp : Ikcpcb) : Prop where
  idle : Idle current kcp
  flush : (wait.toNat : Int) ≤ itimediff kcp.tsFlush current
  timers : ∀ seg ∈ kcp.sndBuf,
    0 < itimediff seg.resendts current ∧ (wait.toNat : Int) ≤ itimediff seg.resendts current

theorem Idle.toFlush (h : Idle current kcp) :
    itimediff kcp.tsFlush current = -itimediff current kcp.tsFlush := by
  apply ahead_symm
  have hnear := h.near
  rw [itimediff] at hnear
  omega

theorem itimediff_until {due : UInt32} (hdue : 0 ≤ itimediff due current)
    (ht : ((t - current).toNat : Int) ≤ itimediff due current) :
    itimediff due t = itimediff due current - (t - current).toNat := by
  have hnat : ((due - current).toNat : Int) = itimediff due current := toNat_of_ahead_nonneg hdue
  have hhalf : (due - current).toNat < 2 ^ 31 := by
    rw [itimediff, ahead_eq] at hnat
    have hlt := (due - current).toNat_lt
    split at hnat <;> omega
  rw [itimediff, ahead_of_base hhalf (by omega), hnat]

theorem Within.before {wait : UInt32} (h : Within current wait kcp)
    (ht : (t - current).toNat < wait.toNat) : Idle t kcp ∧ ¬timerOut t kcp := by
  have hto := h.idle.toFlush
  have hbefore := h.idle.before
  have hnear := h.idle.near
  have hflush := h.flush
  have hleft : itimediff kcp.tsFlush t = itimediff kcp.tsFlush current - (t - current).toNat := by
    apply itimediff_until <;> omega
  have hback : itimediff t kcp.tsFlush = -itimediff kcp.tsFlush t := by
    apply ahead_symm
    rw [itimediff] at hleft
    omega
  refine ⟨⟨h.idle.updated, by omega, by omega⟩, ?_⟩
  rintro ⟨seg, hseg, hout⟩
  obtain ⟨hpos, hle⟩ := h.timers seg hseg
  have htimer : itimediff seg.resendts t =
      itimediff seg.resendts current - (t - current).toNat := by
    apply itimediff_until <;> omega
  omega

theorem ikcpCheck_now (h : ¬Idle current kcp) : ikcpCheck current kcp = current := by
  by_cases hupdated : kcp.updated = true
  · by_cases hrange : 10000 ≤ itimediff current kcp.tsFlush ∨ itimediff current kcp.tsFlush < -10000
    · simp only [ikcpCheck, hupdated, hrange, itimediff_self, Bool.not_true, Bool.false_eq_true,
        if_false, if_true, le_refl]
    · have hnow : 0 ≤ itimediff current kcp.tsFlush := by
        apply Int.not_lt.mp
        intro hbefore
        exact h ⟨hupdated, hbefore, by omega⟩
      simp only [ikcpCheck, hupdated, hrange, hnow, Bool.not_true, Bool.false_eq_true, if_false,
        if_true]
  · rw [ikcpCheck, Bool.eq_false_iff.mpr hupdated]
    rfl

section Idle

variable (h : Idle current kcp)
include h

theorem Idle.tests : ¬(10000 ≤ itimediff current kcp.tsFlush ∨
    itimediff current kcp.tsFlush < -10000) ∧ ¬0 ≤ itimediff current kcp.tsFlush := by
  have hbefore := h.before
  have hnear := h.near
  omega

theorem ikcpCheck_out (hout : packetTimer current kcp.sndBuf 0x7fffffff = none) :
    ikcpCheck current kcp = current := by
  simp only [ikcpCheck, h.updated, h.tests.1, h.tests.2, hout, Bool.not_true, Bool.false_eq_true,
    if_false]

theorem ikcpCheck_wait {least : Int}
    (hleast : packetTimer current kcp.sndBuf 0x7fffffff = some least) :
    ikcpCheck current kcp = current + imin kcp.interval (UInt32.ofNat
      (if least < itimediff kcp.tsFlush current then least
        else itimediff kcp.tsFlush current).toNat) := by
  simp only [ikcpCheck, h.updated, h.tests.1, h.tests.2, hleast, Bool.not_true, Bool.false_eq_true,
    if_false]
  rfl

end Idle

theorem imin_cases (a b : UInt32) : (imin a b = a ∨ imin a b = b) ∧
    (imin a b).toNat ≤ a.toNat ∧ (imin a b).toNat ≤ b.toNat := by
  rw [imin]
  split
  next hle => exact ⟨Or.inl rfl, le_rfl, UInt32.le_iff_toNat_le.mp hle⟩
  next hlt => exact ⟨Or.inr rfl, (UInt32.lt_iff_toNat_lt.mp (UInt32.not_le.mp hlt)).le, le_rfl⟩

theorem ikcpCheck_cases (current : UInt32) (kcp : Ikcpcb) :
    (ikcpCheck current kcp = current ∧ (flushDue current kcp ∨ timerOut current kcp)) ∨
      ∃ wait, ikcpCheck current kcp = current + wait ∧ wait.toNat ≤ kcp.interval.toNat ∧
        Within current wait kcp ∧
        (wait = kcp.interval ∨ (wait.toNat : Int) = itimediff kcp.tsFlush current ∨
          ∃ seg ∈ kcp.sndBuf, (wait.toNat : Int) = itimediff seg.resendts current) := by
  by_cases hidle : Idle current kcp
  · have hbefore := hidle.before
    have hnear := hidle.near
    have hto := hidle.toFlush
    rcases packetTimer_least current kcp.sndBuf 0x7fffffff with
      ⟨hnone, hout⟩ | ⟨least, hsome, _, hall, hfound⟩
    · exact Or.inl ⟨ikcpCheck_out hidle hnone, Or.inr hout⟩
    · right
      have hpos : 0 < least := by
        rcases hfound with hfound | ⟨seg, hseg, hfound⟩
        · omega
        · exact hfound ▸ (hall seg hseg).1
      have hcheck := ikcpCheck_wait hidle hsome
      generalize hfirst : (if least < itimediff kcp.tsFlush current then least
        else itimediff kcp.tsFlush current) = first at hcheck
      have hbound : 0 < first ∧ first ≤ least ∧ first ≤ itimediff kcp.tsFlush current := by
        split at hfirst <;> omega
      have hnat : (UInt32.ofNat first.toNat).toNat = first.toNat := by
        rw [UInt32.toNat_ofNat']
        omega
      obtain ⟨hwhich, hinterval, hwait⟩ := imin_cases kcp.interval (UInt32.ofNat first.toNat)
      refine ⟨_, hcheck, by omega, ⟨hidle, by omega, ?_⟩, ?_⟩
      · intro seg hseg
        obtain ⟨hlater, hle⟩ := hall seg hseg
        exact ⟨hlater, by omega⟩
      · rcases hwhich with hwhole | hminimal
        · exact Or.inl hwhole
        · right
          rw [hminimal, hnat, Int.toNat_of_nonneg hbound.1.le]
          split at hfirst
          · rcases hfound with hfound | ⟨seg, hseg, hfound⟩
            · omega
            · exact Or.inr ⟨seg, hseg, hfirst.symm.trans hfound.symm⟩
          · exact Or.inl hfirst.symm
  · exact Or.inl ⟨ikcpCheck_now hidle, Or.inl (flushDue_iff.mpr hidle)⟩

theorem itimediff_reached {wait due : UInt32} (h : (wait.toNat : Int) = itimediff due current) :
    current + wait = due := by
  have hnat : ((due - current).toNat : Int) = itimediff due current := by
    apply toNat_of_ahead_nonneg
    rw [itimediff] at h
    omega
  have heq : due - current = wait := by
    apply UInt32.toNat_inj.mp
    omega
  rw [← heq]
  grind

/-- `ikcp_check` gives the first time at which `ikcp_update` has something to do, but not later
than after one interval. Calls of `ikcp_update` before it send nothing, and the call at that time
does what it does without them. -/
theorem check_first_due (current : UInt32) (kcp : Ikcpcb) (times : List UInt32)
    (hbefore : ∀ t ∈ times, (t - current).toNat < (ikcpCheck current kcp - current).toNat) :
    (ikcpCheck current kcp - current).toNat ≤ kcp.interval.toNat ∧
      (flushDue (ikcpCheck current kcp) kcp ∨ timerOut (ikcpCheck current kcp) kcp ∨
        ikcpCheck current kcp = current + kcp.interval) ∧
      (∀ t ∈ times, ¬flushDue t kcp ∧ ¬timerOut t kcp) ∧
      (updates times kcp).2 = [] ∧
      ikcpUpdate (ikcpCheck current kcp) (updates times kcp).1 =
        ikcpUpdate (ikcpCheck current kcp) kcp := by
  have hwait : ∀ wait, ikcpCheck current kcp = current + wait →
      ikcpCheck current kcp - current = wait := by
    intro wait hcheck
    rw [hcheck]
    grind
  have hsoon : (ikcpCheck current kcp - current).toNat ≤ kcp.interval.toNat := by
    rcases ikcpCheck_cases current kcp with ⟨hnow, _⟩ | ⟨wait, hcheck, hinterval, _⟩
    · rw [hnow, UInt32.sub_self]
      exact Nat.zero_le _
    · rwa [hwait wait hcheck]
  have hquiet : ∀ t ∈ times, Idle t kcp ∧ ¬timerOut t kcp := by
    intro t ht
    have hlt := hbefore t ht
    rcases ikcpCheck_cases current kcp with ⟨hnow, _⟩ | ⟨wait, hcheck, _, hwithin, _⟩
    · rw [hnow, UInt32.sub_self] at hlt
      exact absurd hlt (Nat.not_lt_zero _)
    · exact hwithin.before (hwait wait hcheck ▸ hlt)
  have hdue : flushDue (ikcpCheck current kcp) kcp ∨ timerOut (ikcpCheck current kcp) kcp ∨
      ikcpCheck current kcp = current + kcp.interval := by
    rcases ikcpCheck_cases current kcp with ⟨hnow, hdue | hdue⟩ |
      ⟨wait, hcheck, _, _, hwait | hwait | ⟨seg, hseg, hwait⟩⟩
    · exact Or.inl (hnow.symm ▸ hdue)
    · exact Or.inr (Or.inl (hnow.symm ▸ hdue))
    · exact Or.inr (Or.inr (hwait ▸ hcheck))
    · left
      rw [hcheck, itimediff_reached hwait, flushDue_iff]
      intro hidle
      exact absurd hidle.before (itimediff_self _ ▸ Int.lt_irrefl 0)
    · refine Or.inr (Or.inl ⟨seg, hseg, ?_⟩)
      rw [hcheck, itimediff_reached hwait, itimediff_self]
  obtain ⟨last, hlast⟩ := updates_idle (fun t ht => (hquiet t ht).1)
  refine ⟨hsoon, hdue, ?_, ?_, ?_⟩
  · intro t ht
    exact ⟨fun h => flushDue_iff.mp h (hquiet t ht).1, (hquiet t ht).2⟩
  · rw [hlast]
  · rw [hlast]
    rfl

/-- A segment is on its way after the first flush, at 0; the next one is at 100. -/
def waiting : Ikcpcb := (ikcpUpdate 0 (ikcpSend [1, 2, 3] (ikcpCreate 1)).2).1

theorem check_first_due_waiting :
    ikcpCheck 30 waiting = 100 ∧ (ikcpCheck 30 waiting - 30).toNat ≤ waiting.interval.toNat ∧
      (updates [40, 60, 99] waiting).2 = [] ∧
      (ikcpUpdate (ikcpCheck 30 waiting) (updates [40, 60, 99] waiting).1).1.tsFlush = 200 := by
  have hbefore : ∀ t ∈ [(40 : UInt32), 60, 99],
      (t - 30).toNat < (ikcpCheck 30 waiting - 30).toNat := by
    refine List.forall_mem_cons.mpr ⟨?_, List.forall_mem_cons.mpr ⟨?_, ?_⟩⟩
    · decide +kernel
    · decide +kernel
    · exact List.forall_mem_singleton.mpr (by decide +kernel)
  obtain ⟨hsoon, _, _, hsilent, hsame⟩ := check_first_due 30 waiting [40, 60, 99] hbefore
  refine ⟨by decide +kernel, hsoon, hsilent, ?_⟩
  rw [hsame]
  decide +kernel

end WirelessEsp.Kcp
