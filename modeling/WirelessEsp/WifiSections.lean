import WirelessEsp.LockOwner
import WirelessEsp.WifiStores

namespace WirelessEsp.WifiManager

open TaskKernel Transition LockOwner

def DisconnHandler.inside : DisconnHandler → Bool
  | .fast | .create => true
  | _ => false

def GetScanList.inside : GetScanList → Bool
  | .disconnect | .clearConnecting | .checkDelay | .deleteDelay | .clearDelay => true
  | .records _ | .maxAp _ | .callback _ | .self _ | .scan _ _ | .give _ _ => true
  | .handler _ p => p.inside
  | _ => false

def Connect.inside : Connect → Bool
  | .clearConnecting | .config | .self | .auto | .trigger _ | .wait | .give _ => true
  | .handler p => p.inside
  | _ => false

def Reconnection.inside : Reconnection → Bool
  | .delay | .retake => false
  | _ => true

def SetWifiMode.inside : SetWifiMode → Bool
  | .handler _ p => p.inside
  | _ => true

def ChangeMode.inside : ChangeMode → Bool
  | .notifyStop | .notifyStart | .give _ => true
  | .setMode p => p.inside
  | _ => false

def DelayedStop.inside : DelayedStop → Bool
  | .count | .task | .give => true
  | .setMode p => p.inside
  | _ => false

def DelayedStart.inside : DelayedStart → Bool
  | .check | .count | .task | .give => true
  | .setMode p => p.inside
  | _ => false

def AfterDisco.inside : AfterDisco → Bool
  | .handler p => p.inside
  | _ => false

def Pc.inside : Pc → Bool
  | .getScanList _ _ p => p.inside
  | .connect p => p.inside
  | .changeMode _ p => p.inside
  | .staDisconnected p => p.inside
  | .main p => p.inside
  | .delayedStop p => p.inside
  | .delayedStart p => p.inside
  | .reconnection p => p.inside
  | _ => false

abbrev Owned := System × Option TaskId

def ownedStep : Owned → Action Pc → Option Owned :=
  observe (step manager) (ownerAfter manager Pc.inside)

/-- In the branch of `set_wifi_mode` that switches the station on. -/
def SetWifiMode.reopens : SetWifiMode → Bool
  | .give _ | .handler _ _ => true
  | _ => false

/-- The takes whose result is ignored or that are followed by a give do not time out, no task
that owns nothing is deleted for its lock, and the station is not switched on. -/
def Pc.disciplined (x : Owned) (t : TaskId) : Pc → Bool
  | .delayedStop (.take _) => x.1.free
  | .delayedStart (.take _) => x.1.free
  | .reconnection .retake => x.1.free
  | .getScanList _ _ .retake => decide (x.1.free = true ∨ x.2 = some t)
  | .connect .delete =>
      let target := x.1.named (fun m => m.ctx.task) t
      decide (x.2 = some target ∨ target = t)
  | .changeMode _ (.setMode p) => !p.reopens
  | .delayedStop (.setMode p) => !p.reopens
  | .delayedStart (.setMode p) => !p.reopens
  | _ => true

/-- The steps that keep the discipline. -/
def Disciplined (x : Owned) : Action Pc → Prop
  | .run t _ => x.1.At t fun p => p.disciplined x t = true
  | .call _ _ => True

instance (x : Owned) : ∀ a, Decidable (Disciplined x a)
  | .run t _ => inferInstanceAs (Decidable (x.1.At t fun p => p.disciplined x t = true))
  | .call _ _ => isTrue trivial

/-- A give that no run reaches, for nothing sets `need_unlock`. -/
def TryConnectDone.unlocks : TryConnectDone → Bool
  | .unlock | .give => true
  | _ => false

def OnConnected.unlocks : OnConnected → Bool
  | .done p => p.unlocks
  | _ => false

def AfterDisco.unlocks : AfterDisco → Bool
  | .done p => p.unlocks
  | _ => false

def Pc.unlocks : Pc → Bool
  | .gotIp _ p => p.unlocks
  | .staDisconnected p => p.unlocks
  | _ => false

section Functions

variable {x : Owned} {t : TaskId} {here : Bool}

/-- A function that has nothing to do with the lock. -/
def Quiet {ρ : Type} (f : ρ → Code ρ) : Prop := ∀ p, Neutral manager Pc.inside (f p).op

theorem handleWifiConnected_quiet : Quiet handleWifiConnected := by
  intro p
  cases p with
  | create => rfl
  | flag | notifyStart | check => trivial

theorem handleWifiDisconnected_quiet : Quiet handleWifiDisconnected := by
  intro p
  cases p with
  | create => rfl
  | flag | notifyStop | check | count => trivial

theorem triggerConnect_quiet (attempt : UInt8) : Quiet (wifiEventTriggerConnect attempt) := by
  intro p
  cases p <;> trivial

theorem triggerScan_quiet (number : UInt16) (aps : Address) :
    Quiet (wifiEventTriggerScan number aps) := by
  intro p
  cases p <;> trivial

theorem scan_quiet : Quiet scanLoop := by
  intro p
  cases p with
  | trigger channel number aps p => exact triggerScan_quiet number aps p
  | reset | number channel | records channel number | delay channel | wait channel => trivial

theorem scanChannelDone_quiet (number : UInt16) : Quiet (wifiEventScanChannelDone number) := by
  intro p
  cases p <;> trivial

theorem onScanDone_quiet (status number : Nat) : Quiet (wifiOnScanDone status number) := by
  intro p
  cases p with
  | done n p => exact scanChannelDone_quiet n p
  | screen | zero | records | found | loop | rssi | count | argument | callback | clearAp
  | clearCb => trivial

theorem disconnHandler_lawful (p : DisconnHandler) :
    LawfulAt manager Pc.inside x t p.inside DisconnHandler.inside (fun _ => false)
      (disconnHandler p) := by
  cases p with
  | disconnected p =>
      apply LawfulAt.within
      exact lawful_outside (handleWifiDisconnected_quiet p) fun v => leads_const _
  | check =>
      refine lawful_outside ?_ fun v => leads_if rfl rfl
      trivial
  | take => exact .inr fun h => (by cases h)
  | fast => exact lawful_inside trivial
  | create => exact ⟨fun _ => ⟨rfl, rfl⟩, fun _ => rfl⟩

theorem getScanList_lawful (number : UInt16) (aps : Address) (p : GetScanList)
    (howner : p.inside = true → x.2 = some t)
    (hretake : p = .retake → x.1.free = true ∨ x.2 = some t) :
    LawfulAt manager Pc.inside x t p.inside GetScanList.inside (fun _ => false)
      (getScanList number aps p) := by
  cases p with
  | take => exact .inr fun h => (by cases h)
  | checkConnecting =>
      refine lawful_outside ?_ fun v => leads_if rfl rfl
      trivial
  | delete => exact fun h => (by cases h)
  | retake => exact (hretake rfl).imp_right fun h _ => h
  | disconnect | clearConnecting | checkDelay | clearDelay | records broke | maxAp broke
  | callback broke | self broke => exact lawful_inside trivial
  | deleteDelay => exact fun _ => .inl (howner rfl)
  | scan broke p => exact lawful_inside (scan_quiet p)
  | give broke err => exact ⟨rfl, rfl⟩
  | number broke err =>
      refine lawful_outside ?_ fun v => leads_if rfl rfl
      trivial
  | credential err =>
      refine lawful_outside ?_ fun v => leads_if rfl rfl
      trivial
  | handler err p =>
      apply LawfulAt.within
      exact disconnHandler_lawful p

theorem connect_lawful (p : Connect)
    (hdelete : p = .delete → x.2 = some (x.1.named (fun m => m.ctx.task) t) ∨
      x.1.named (fun m => m.ctx.task) t = t) :
    LawfulAt manager Pc.inside x t p.inside Connect.inside (fun _ => false) (connect p) := by
  cases p with
  | take => exact .inr fun h => (by cases h)
  | checkConnecting =>
      refine lawful_outside ?_ fun v => leads_if rfl rfl
      trivial
  | delete => exact fun _ => .inr (hdelete rfl)
  | clearConnecting | config | self | auto | wait => exact lawful_inside trivial
  | trigger p => exact lawful_inside (triggerConnect_quiet 2 p)
  | give ret =>
      exact ⟨rfl, leads_if rfl rfl⟩
  | checkEvent =>
      refine lawful_outside ?_ fun v => leads_if rfl rfl
      trivial
  | credential =>
      refine lawful_outside ?_ fun v => leads_if rfl rfl
      trivial
  | handler p =>
      apply LawfulAt.within
      exact disconnHandler_lawful p
  | connected p =>
      apply LawfulAt.within
      exact lawful_outside (handleWifiConnected_quiet p) fun v => leads_const _
  | save => exact lawful_outside trivial fun v => rfl

theorem reconnectionTask_lawful (p : Reconnection) (hretake : p = .retake → x.1.free = true) :
    LawfulAt manager Pc.inside x t p.inside Reconnection.inside (fun _ => false)
      (reconnectionTask p) := by
  cases p with
  | endless | self | checkFast | clearFast | wait | checkEvent | checkAuto | recheckEvent
  | clearEndless => exact lawful_inside trivial
  | trigger attempt p => exact lawful_inside (triggerConnect_quiet attempt p)
  | connected p => exact lawful_inside (handleWifiConnected_quiet p)
  | pause | give => exact ⟨rfl, rfl⟩
  | delay => exact lawful_outside trivial fun v => rfl
  | retake => exact .inl (hretake rfl)

theorem setWifiMode_lawful (mode : ApstaMode) (p : SetWifiMode) (h : p.reopens = false)
    (ret : Nat → Bool) :
    LawfulAt manager Pc.inside x t p.inside SetWifiMode.inside ret (setWifiMode mode p) := by
  cases p with
  | give new | handler new p => cases h
  | start | flag old | permanent new | compare new | setMode new | checkSta new | store new =>
      exact lawful_inside trivial

theorem changeMode_lawful (mode : ApstaMode) (p : ChangeMode)
    (hset : ∀ r, p = .setMode r → r.reopens = false) :
    LawfulAt manager Pc.inside x t p.inside ChangeMode.inside (fun _ => false)
      (changeMode mode p) := by
  cases p with
  | check =>
      refine lawful_outside ?_ fun v => leads_if rfl rfl
      trivial
  | take => exact .inr fun h => (by cases h)
  | notifyStop | notifyStart => exact lawful_inside trivial
  | setMode p =>
      apply LawfulAt.within
      exact setWifiMode_lawful mode p (hset p rfl) _
  | give err => exact ⟨rfl, leads_if rfl (leads_if rfl rfl)⟩
  | save => exact lawful_outside trivial fun v => rfl

theorem delayedSetApStop_lawful (p : DelayedStop)
    (htake : ∀ ret, p = .take ret → x.1.free = true)
    (hset : ∀ r, p = .setMode r → r.reopens = false) :
    LawfulAt manager Pc.inside x t p.inside DelayedStop.inside (fun _ => false)
      (delayedSetApStop p) := by
  cases p with
  | wait => exact lawful_outside trivial fun v => rfl
  | take ret => exact .inl (htake ret rfl)
  | setMode p =>
      apply LawfulAt.within
      exact setWifiMode_lawful .apStop p (hset p rfl) _
  | count | task => exact lawful_inside trivial
  | give => exact ⟨rfl, rfl⟩

theorem delayedSetApStart_lawful (p : DelayedStart)
    (htake : ∀ ret, p = .take ret → x.1.free = true)
    (hset : ∀ r, p = .setMode r → r.reopens = false) :
    LawfulAt manager Pc.inside x t p.inside DelayedStart.inside (fun _ => false)
      (delayedSetApStart p) := by
  cases p with
  | checkCount =>
      refine lawful_outside ?_ fun v => leads_if rfl rfl
      trivial
  | wait => exact lawful_outside trivial fun v => rfl
  | take ret => exact .inl (htake ret rfl)
  | check => exact lawful_inside trivial
  | setMode p =>
      apply LawfulAt.within
      exact setWifiMode_lawful .apStart p (hset p rfl) _
  | count | task => exact lawful_inside trivial
  | give => exact ⟨rfl, rfl⟩

theorem tryConnectDone_lawful (event : Address) (p : TryConnectDone) (h : p.unlocks = false) :
    LawfulAt manager Pc.inside x t here (fun _ => false) (fun _ => false)
      (tryConnectDone event p) := by
  cases p with
  | event | notify | check => exact lawful_outside trivial fun v => leads_const _
  | unlock | give => cases h

theorem reconnectAfterDisco_lawful (p : AfterDisco) (h : p.unlocks = false) :
    LawfulAt manager Pc.inside x t p.inside AfterDisco.inside (fun _ => false)
      (reconnectAfterDisco p) := by
  cases p with
  | flag | zero | decrement | clear => exact lawful_outside trivial fun v => rfl
  | attempt | connect | callback =>
      refine lawful_outside ?_ fun v => leads_if rfl rfl
      trivial
  | done p =>
      apply LawfulAt.within
      exact tryConnectDone_lawful 0 p h
  | handler p =>
      apply LawfulAt.within
      exact disconnHandler_lawful p

theorem eventOnConnected_lawful (event : Address) (p : OnConnected) (h : p.unlocks = false) :
    LawfulAt manager Pc.inside x t false (fun _ => false) (fun _ => false)
      (eventOnConnected event p) := by
  cases p with
  | check | clear => exact lawful_outside trivial fun v => leads_const _
  | done p =>
      apply LawfulAt.within
      exact tryConnectDone_lawful event p h

end Functions

theorem code_lawful {x : Owned} {t : TaskId} {answer : Nat} {p : Pc} {i : Code Pc}
    (h : Guarded Pc.inside x) (hsealed : p.unlocks = false)
    (hok : Disciplined x (.run t answer)) (hp : x.1.tasks t = some p) (hi : code p = some i) :
    LawfulInstr manager Pc.inside x t p i := by
  have howner := h.owner t p hp
  have hok : p.disciplined x t = true := hok p hp
  cases p with
  | caller | eventLoop => cases hi
  | getScanList number aps p =>
      cases hi
      apply LawfulAt.within
      apply getScanList_lawful number aps p howner
      rintro rfl
      exact of_decide_eq_true hok
  | connect p =>
      cases hi
      apply LawfulAt.within
      apply connect_lawful
      rintro rfl
      exact of_decide_eq_true hok
  | changeMode mode p =>
      cases hi
      apply LawfulAt.within
      apply changeMode_lawful
      rintro r rfl
      exact Bool.not_eq_true' _ ▸ hok
  | disconnect p =>
      cases hi
      cases p <;> exact lawful_outside trivial fun v => rfl
  | staConnected =>
      cases hi
      exact lawful_outside trivial fun v => rfl
  | staDisconnected p =>
      cases hi
      apply LawfulAt.within
      exact reconnectAfterDisco_lawful p hsealed
  | gotIp event p =>
      cases hi
      apply LawfulAt.within
      exact eventOnConnected_lawful event p hsealed
  | scanDone status number p =>
      cases hi
      apply LawfulAt.within
      exact lawful_outside (onScanDone_quiet status number p) fun v => leads_const _
  | main p =>
      cases hi
      apply LawfulAt.within
      exact disconnHandler_lawful p
  | delayedStop p =>
      cases hi
      apply LawfulAt.within
      apply delayedSetApStop_lawful
      · rintro ret rfl
        exact hok
      · rintro r rfl
        exact Bool.not_eq_true' _ ▸ hok
  | delayedStart p =>
      cases hi
      apply LawfulAt.within
      apply delayedSetApStart_lawful
      · rintro ret rfl
        exact hok
      · rintro r rfl
        exact Bool.not_eq_true' _ ▸ hok
  | reconnection p =>
      cases hi
      apply LawfulAt.within
      apply reconnectionTask_lawful
      rintro rfl
      exact hok

end WirelessEsp.WifiManager
