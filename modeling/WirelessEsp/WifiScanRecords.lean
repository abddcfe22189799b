import WirelessEsp.WifiScan

namespace WirelessEsp.WifiManager

open TaskKernel Transition
open Function (update)

/-- For each task, where records have been written since it last called
`wifi_manager_get_scan_list`. -/
abbrev Written := TaskId → Address → Bool

abbrev Scanned := System × Written

/-- `esp_wifi_scan_get_ap_records` writes as many records as it answers. -/
def Pc.write (m : ScanView) (answer : Nat) (w : Written) : Pc → Written
  | .scanDone _ _ .records => fun u a => w u a || decide (m.ap ≤ a ∧ a < m.ap + answer)
  | _ => w

def Pc.begin (t : TaskId) (w : Written) : Pc → Written
  | .getScanList _ _ _ => update w t fun _ => false
  | _ => w

def writeStep (w : Written) (s : System) : Action Pc → Written
  | .call t point => point.begin t w
  | .run t answer => match s.tasks t with
      | none => w
      | some p => p.write (scanView s.memory) answer w

def scannedStep : Scanned → Action Pc → Option Scanned := observe (step manager) writeStep

/-- The handler writes only into the array of a call that waits, and only records that the call has
room for, it calls no missing callback, and what a call counts was written since it began. -/
structure ScanSafe (x : Scanned) : Prop where
  writes : ∀ t status number, x.1.tasks t = some (.scanDone status number .records) →
    x.1.memory.event.number ≠ 0 → ∃ u n aps broke p,
      x.1.tasks u = some (.getScanList n aps (.scan broke p)) ∧ aps ≤ x.1.memory.event.ap ∧
        x.1.memory.event.ap + x.1.memory.event.number.toNat ≤ aps + n.toNat
  callbacks : ∀ t status number n,
    x.1.tasks t = some (.scanDone status number (.callback n)) → x.1.memory.event.scanCb = true
  counts : ∀ t n aps broke err, x.1.tasks t = some (.getScanList n aps (.number broke err)) →
    x.1.memory.ctx.totalAps.toNat ≤ n.toNat ∧
      ∀ k < x.1.memory.ctx.totalAps.toNat, x.2 t (aps + k) = true

def somewhere (s : System) (f : Pc → Bool) : Bool :=
  decide (∃ u < s.fresh, (s.tasks u).any f = true)

def Pc.due (s : System) : Pc → Bool
  | .scanDone _ _ _ => s.memory.event.scanCb && somewhere s Pc.awaits
  | _ => true

def Pc.busy (p : Pc) : Bool := p.scanning || p.isEvent

/-- No call begins to scan while another one does, nothing else stores to the word of `scan.ap`
while a scan needs it, no task that scans or handles events is deleted, and a scan does not leave a
channel while its records are written; at most as many records are written as the handler asks
for. -/
def Pc.orderly (s : System) (t : TaskId) (answer : Nat) : Pc → Bool
  | .getScanList _ _ (.records _) => !somewhere s Pc.scanning
  | .getScanList _ _ (.scan _ (.wait _)) => !somewhere s Pc.uncounted
  | .scanDone _ _ .records => answer ≤ s.memory.event.number.toNat
  | .gotIp _ (.done .event) => !somewhere s Pc.usesWord
  | .staDisconnected (.done .event) => !somewhere s Pc.usesWord
  | p => match p.act with
      | .delete => !(s.tasks (s.named (fun m => m.ctx.task) t)).any Pc.busy
      | _ => true

def Orderly (x : Scanned) : Action Pc → Prop
  | .call _ point => point.due x.1 = true
  | .run t answer => x.1.At t fun p => p.orderly x.1 t answer = true

instance (x : Scanned) : ∀ a, Decidable (Orderly x a)
  | .call _ point => inferInstanceAs (Decidable (point.due x.1 = true))
  | .run t answer => inferInstanceAs (Decidable (x.1.At t fun p => p.orderly x.1 t answer = true))

/-- The records that are counted are written, and there was room for them. -/
structure Counted (m : ScanView) (aps : Address) (mine : Address → Bool) : Prop where
  room : m.totalAps.toNat ≤ m.maxAp.toNat
  written : ∀ k < m.totalAps.toNat, mine (aps + k) = true

structure Armed (m : ScanView) (aps : Address) : Prop where
  ap : m.ap = aps + m.totalAps.toNat
  room : m.number.toNat + m.totalAps.toNat ≤ m.maxAp.toNat

def GetScanList.sized : GetScanList → Bool
  | .callback _ | .self _ | .scan _ _ | .give _ _ | .number _ _ => true
  | _ => false

def GetScanList.counting : GetScanList → Bool
  | .scan _ .reset => false
  | .scan _ _ | .give _ _ | .number _ _ => true
  | _ => false

def ScanLoop.asks : ScanLoop → Option UInt16
  | .records _ n => some n
  | .trigger _ n _ _ => some n
  | _ => none

def ScanLoop.target : ScanLoop → Option Address
  | .trigger _ _ aps _ => some aps
  | _ => none

/-- What `event_ctx.number` has been set to, until the scan waits. -/
def ScanLoop.stored : ScanLoop → Option UInt16
  | .trigger _ n _ .records => some n
  | _ => none

def GetScanList.asks : GetScanList → Option UInt16
  | .scan _ p => p.asks
  | _ => none

def GetScanList.target : GetScanList → Option Address
  | .scan _ p => p.target
  | _ => none

def GetScanList.stored : GetScanList → Option UInt16
  | .scan _ p => p.stored
  | _ => none

structure Fits (m : ScanView) (number : UInt16) (aps : Address) (mine : Address → Bool)
    (g : GetScanList) : Prop where
  word : g.usesWord = true → m.word = aps
  maxAp : g.sized = true → m.maxAp = number.toUInt8
  counted : g.counting = true → Counted m aps mine
  asks : ∀ n ∈ g.asks, n.toNat + m.totalAps.toNat = m.maxAp.toNat
  target : ∀ a ∈ g.target, a = aps + m.totalAps.toNat
  stored : ∀ n ∈ g.stored, m.number = n

structure Brought (m : ScanView) (aps : Address) (mine : Address → Bool) (count : Nat) : Prop where
  room : count + m.totalAps.toNat ≤ m.maxAp.toNat
  written : ∀ k < count, mine (aps + (m.totalAps.toNat + k)) = true

def OnScanDone.Holds (m : ScanView) (aps : Address) (mine : Address → Bool) : OnScanDone → Prop
  | .screen | .zero | .records => Armed m aps
  | .found n | .callback n | .done n .number | .done n .total => Brought m aps mine n.toNat
  | .loop i => i ≤ m.number.toNat ∧ Brought m aps mine m.number.toNat
  | .rssi i => i < m.number.toNat ∧ Brought m aps mine m.number.toNat
  | .count i => Brought m aps mine i
  | .argument => Brought m aps mine m.number.toNat
  | .done _ .notify | .clearAp | .clearCb => True

def Waits (x : Scanned) (u : TaskId) (aps : Address) : Prop :=
  ∃ number g, x.1.tasks u = some (.getScanList number aps g) ∧ g.awaits = true

structure Sound (x : Scanned) : Prop where
  fresh : Fresh x.1
  loop : ∀ t p, x.1.tasks t = some p → p.isEvent = true → t = 0
  alone : ∀ t u p q, x.1.tasks t = some p → x.1.tasks u = some q → p.scanning = true →
    q.scanning = true → t = u
  fits : ∀ u number aps g, x.1.tasks u = some (.getScanList number aps g) →
    Fits (scanView x.1.memory) number aps (x.2 u) g
  handler : ∀ t status number q, x.1.tasks t = some (.scanDone status number q) →
    q.uncounted = true → x.1.memory.event.scanCb = true ∧
      ∃ u aps, Waits x u aps ∧ q.Holds (scanView x.1.memory) aps (x.2 u)
  armed : (∀ t p, x.1.tasks t = some p → p.isHandler = false) →
    x.1.memory.event.scanCb = true → ∀ u aps, Waits x u aps → Armed (scanView x.1.memory) aps

section Fits

variable {m m' : ScanView} {n : UInt16} {aps : Address} {mine mine' : Address → Bool}
  {g g' : GetScanList}

theorem Counted.mono (h : Counted m aps mine) (htotal : m'.totalAps = m.totalAps)
    (hmax : m'.maxAp = m.maxAp) (hmine : ∀ a, mine a = true → mine' a = true) :
    Counted m' aps mine' := by
  refine ⟨?_, ?_⟩
  · rw [htotal, hmax]
    exact h.room
  · intro k hk
    rw [htotal] at hk
    exact hmine _ (h.written k hk)

theorem forall_none {α : Type} {P : α → Prop} : ∀ a ∈ (none : Option α), P a :=
  fun a ha => absurd ha (Option.not_mem_none a)

theorem Fits.unasked (hword : g.usesWord = true → m.word = aps)
    (hmax : g.sized = true → m.maxAp = n.toUInt8)
    (hcounted : g.counting = true → Counted m aps mine)
    (hasks : g.asks = none) (htarget : g.target = none) (hstored : g.stored = none) :
    Fits m n aps mine g := by
  refine ⟨hword, hmax, hcounted, ?_, ?_, ?_⟩
  · rw [hasks]
    exact forall_none
  · rw [htarget]
    exact forall_none
  · rw [hstored]
    exact forall_none

theorem fits_of_not_scanning (hg : g.scanning = false) : Fits m n aps mine g := by
  cases g with
  | maxAp | callback | self | scan | give | number => cases hg
  | _ => exact ⟨nofun, nofun, nofun, nofun, nofun, nofun⟩

theorem Fits.mono (h : Fits m n aps mine g) (hword : g.usesWord = true → m'.word = m.word)
    (htotal : m'.totalAps = m.totalAps) (hmax : m'.maxAp = m.maxAp)
    (hnumber : g.stored ≠ none → m'.number = m.number)
    (hmine : ∀ a, mine a = true → mine' a = true) : Fits m' n aps mine' g := by
  refine ⟨fun hg => (hword hg).trans (h.word hg), fun hg => hmax.trans (h.maxAp hg),
    fun hg => (h.counted hg).mono htotal hmax hmine, ?_, ?_, ?_⟩
  · rw [htotal, hmax]
    exact h.asks
  · rw [htotal]
    exact h.target
  · intro k hk
    have hsome : g.stored ≠ none := Option.ne_none_iff_exists'.mpr ⟨k, hk⟩
    exact (hnumber hsome).trans (h.stored k hk)

theorem fits_give {broke : Bool} {err : Nat} (hmax : m.maxAp = n.toUInt8)
    (hcounted : Counted m aps mine) : Fits m n aps mine (.give broke err) :=
  .unasked (absurd · Bool.false_ne_true) (fun _ => hmax) (fun _ => hcounted) rfl rfl rfl

theorem room_toNat (h : m.totalAps.toNat ≤ m.maxAp.toNat) :
    (UInt16.ofNat (m.maxAp.toUInt16 - m.totalAps).toNat).toNat + m.totalAps.toNat =
      m.maxAp.toNat := by
  have hle : m.totalAps ≤ m.maxAp.toUInt16 := by
    rw [UInt16.le_iff_toNat_le, UInt8.toNat_toUInt16]
    exact h
  rw [UInt16.ofNat_toNat, UInt16.toNat_sub_of_le _ _ hle, UInt8.toNat_toUInt16]
  exact Nat.sub_add_cancel h

variable {s : System} {t : TaskId} {answer : Nat}

theorem fits_trigger {broke : Bool} {channel : Nat} {k : UInt16} {a : Address} {p : TriggerScan}
    (h : Fits (scanView s.memory) n aps mine (.scan broke (.trigger channel k a p)))
    (hnext : (getScanList n aps (.scan broke (.trigger channel k a p))).next answer = .goto g') :
    Fits (p.onScan k a (scanView s.memory)) n aps mine g' := by
  have hmax := h.maxAp rfl
  have hcounted := h.counted rfl
  cases p with
  | start =>
      simp only [getScanList, scanLoop, Instr.within, wifiEventTriggerScan] at hnext
      by_cases hnull : a = 0
      · rw [if_pos hnull] at hnext
        cases hnext
        exact fits_give hmax hcounted
      rw [if_neg hnull] at hnext
      by_cases herr : answer = 0
      · rw [if_neg (not_not.mpr herr)] at hnext
        cases hnext
        exact ⟨h.word, fun _ => hmax, fun _ => hcounted, h.asks, h.target,
          forall_none⟩
      · rw [if_pos herr] at hnext
        simp only [Flow.within, if_pos herr] at hnext
        cases hnext
        exact fits_give hmax hcounted
  | callback =>
      cases hnext
      exact ⟨h.word, fun _ => hmax, fun _ => hcounted.mono rfl rfl fun _ h => h, h.asks, h.target,
        forall_none⟩
  | number =>
      cases hnext
      refine ⟨h.word, fun _ => hmax, fun _ => hcounted.mono rfl rfl fun _ h => h, h.asks,
        h.target, ?_⟩
      exact fun j hj => Option.some.inj hj
  | records =>
      cases hnext
      exact .unasked h.word (fun _ => hmax) (fun _ => hcounted.mono rfl rfl fun _ h => h) rfl rfl rfl

theorem fits_scan {broke : Bool} {p : ScanLoop}
    (h : Fits (scanView s.memory) n aps mine (.scan broke p))
    (hnext : (getScanList n aps (.scan broke p)).next
      (exec manager s t answer (getScanList n aps (.scan broke p)).op).2 = .goto g') :
    Fits (p.onScan (scanView s.memory)) n aps mine g' := by
  have hmax := h.maxAp rfl
  cases p with
  | reset =>
      cases hnext
      have hnone : Counted { scanView s.memory with totalAps := 0 } aps mine :=
        ⟨Nat.zero_le _, fun k hk => absurd hk (Nat.not_lt_zero k)⟩
      exact .unasked (fun _ => h.word rfl) (fun _ => hmax) (fun _ => hnone) rfl rfl rfl
  | number channel =>
      have hvalue : (exec manager s t answer
          (getScanList n aps (.scan broke (.number channel))).op).2 =
          ((scanView s.memory).maxAp.toUInt16 - (scanView s.memory).totalAps).toNat := rfl
      rw [hvalue] at hnext
      have hcounted := h.counted rfl
      obtain rfl := Flow.goto.inj hnext
      refine ⟨fun _ => h.word rfl, fun _ => hmax, fun _ => hcounted, ?_, forall_none,
        forall_none⟩
      intro k hk
      rw [← Option.some.inj hk]
      exact room_toNat hcounted.room
  | records channel k =>
      cases hnext
      refine ⟨fun _ => h.word rfl, fun _ => hmax, fun _ => h.counted rfl, h.asks, ?_,
        forall_none⟩
      intro a ha
      cases ha
      exact congrArg (· + _) (h.word rfl)
  | trigger channel k a p => exact fits_trigger h hnext
  | delay channel =>
      cases hnext
      exact .unasked h.word (fun _ => hmax) (fun _ => h.counted rfl) rfl rfl rfl
  | wait channel =>
      have hcounted := h.counted rfl
      simp only [getScanList, scanLoop, Instr.within] at hnext
      by_cases hret : (exec manager s t answer (.notifyTake : Op Memory Entry)).2 = 0
      · rw [if_pos hret] at hnext
        cases hnext
        exact fits_give hmax hcounted
      rw [if_neg hret] at hnext
      by_cases hlast : channel < 13
      · rw [if_pos hlast] at hnext
        cases hnext
        have hword : (GetScanList.scan broke (.wait channel)).usesWord = true :=
          decide_eq_true hlast
        exact .unasked (fun _ => h.word hword) (fun _ => hmax) (fun _ => hcounted) rfl rfl rfl
      · rw [if_neg hlast] at hnext
        cases hnext
        exact fits_give hmax hcounted

theorem next_outside {v : Nat} (hg : g.scanning = false) (hrecords : ∀ broke, g ≠ .records broke)
    (hnext : (getScanList n aps g).next v = .goto g') : g'.scanning = false := by
  have hleads : leads GetScanList.scanning (fun _ => false) ((getScanList n aps g).next v) =
      false := by
    cases g with
    | maxAp | callback | self | scan | give | number => cases hg
    | records broke => exact absurd rfl (hrecords broke)
    | take | checkConnecting | checkDelay | credential => exact leads_if rfl rfl
    | handler err p =>
        rw [getScanList, Instr.within, leads_within]
        exact leads_const _
    | _ => rfl
  rw [hnext] at hleads
  exact hleads

theorem fits_next (h : Fits (scanView s.memory) n aps mine g)
    (hnext : (getScanList n aps g).next
      (exec manager s t answer (getScanList n aps g).op).2 = .goto g') :
    Fits (g.onScan n aps (scanView s.memory)) n aps mine g' := by
  by_cases hg : g.scanning = true
  · cases g with
    | maxAp broke =>
        cases hnext
        exact ⟨fun _ => h.word rfl, fun _ => rfl, nofun, nofun, nofun, nofun⟩
    | callback broke =>
        cases hnext
        exact ⟨fun _ => h.word rfl, fun _ => h.maxAp rfl, nofun, nofun, nofun, nofun⟩
    | self broke =>
        cases hnext
        exact ⟨fun _ => h.word rfl, fun _ => h.maxAp rfl, nofun, nofun, nofun, nofun⟩
    | scan broke p => exact fits_scan h hnext
    | give broke err =>
        cases hnext
        exact ⟨nofun, fun _ => h.maxAp rfl, fun _ => h.counted rfl, nofun, nofun, nofun⟩
    | number broke err =>
        have hleads : leads GetScanList.scanning (fun _ => false) ((getScanList n aps
            (.number broke err)).next (exec manager s t answer
              (getScanList n aps (.number broke err)).op).2) = false := leads_if rfl rfl
        rw [hnext] at hleads
        exact fits_of_not_scanning hleads
    | _ => cases hg
  · rw [Bool.not_eq_true] at hg
    by_cases hrecords : ∃ broke, g = .records broke
    · obtain ⟨broke, rfl⟩ := hrecords
      cases hnext
      exact ⟨fun _ => rfl, nofun, nofun, nofun, nofun, nofun⟩
    · apply fits_of_not_scanning
      exact next_outside hg (fun broke heq => hrecords ⟨broke, heq⟩) hnext

end Fits

end WirelessEsp.WifiManager
