import WirelessEsp.WifiStores

namespace WirelessEsp.WifiManager

open TaskKernel

structure ScanView where
  word : Address
  totalAps : UInt16
  maxAp : UInt8
  ap : Address
  scanCb : Bool
  number : UInt16

def scanView (m : Memory) : ScanView :=
  ⟨m.ctx.word, m.ctx.totalAps, m.ctx.maxAp, m.event.ap, m.event.scanCb, m.event.number⟩

def TriggerScan.onScan (number : UInt16) (aps : Address) : TriggerScan → ScanView → ScanView
  | .start, m => m
  | .callback, m => { m with scanCb := true }
  | .number, m => { m with number := number }
  | .records, m => { m with ap := aps }

def ScanLoop.onScan : ScanLoop → ScanView → ScanView
  | .reset, m => { m with totalAps := 0 }
  | .trigger _ n aps p, m => p.onScan n aps m
  | _, m => m

def GetScanList.onScan (number : UInt16) (aps : Address) : GetScanList → ScanView → ScanView
  | .records _, m => { m with word := aps }
  | .maxAp _, m => { m with maxAp := number.toUInt8 }
  | .scan _ p, m => p.onScan m
  | _, m => m

def ScanChannelDone.onScan (number : UInt16) : ScanChannelDone → ScanView → ScanView
  | .total, m => { m with totalAps := m.totalAps + number }
  | _, m => m

def OnScanDone.onScan : OnScanDone → ScanView → ScanView
  | .zero, m => { m with number := 0 }
  | .found n, m => { m with number := n }
  | .count i, m => { m with number := UInt16.ofNat i }
  | .done n p, m => p.onScan n m
  | .clearAp, m => { m with ap := 0 }
  | .clearCb, m => { m with scanCb := false }
  | _, m => m

def TryConnectDone.onScan (event : Address) : TryConnectDone → ScanView → ScanView
  | .event, m => { m with word := event }
  | _, m => m

def OnConnected.onScan (event : Address) : OnConnected → ScanView → ScanView
  | .done p, m => p.onScan event m
  | _, m => m

def AfterDisco.onScan : AfterDisco → ScanView → ScanView
  | .done p, m => p.onScan 0 m
  | _, m => m

def Pc.onScan : Pc → ScanView → ScanView
  | .getScanList number aps p, m => p.onScan number aps m
  | .scanDone _ _ p, m => p.onScan m
  | .gotIp event p, m => p.onScan event m
  | .staDisconnected p, m => p.onScan m
  | _, m => m

def viewAfter (s : System) (t : TaskId) (answer : Nat) (op : Op Memory Entry) : ScanView :=
  scanView (exec manager s t answer op).1.memory

section Effects

variable (s : System) (t : TaskId) (answer : Nat)

theorem viewAfter_keeps {op : Op Memory Entry} (h : op.Keeps scanView) :
    viewAfter s t answer op = scanView s.memory := exec_view h s t answer

theorem handleWifiConnected_keeps (p : Connected) : (handleWifiConnected p).op.Keeps scanView := by
  cases p with
  | flag | create => exact fun _ _ => rfl
  | notifyStart | check => trivial

theorem handleWifiDisconnected_keeps (p : Disconnected) :
    (handleWifiDisconnected p).op.Keeps scanView := by
  cases p with
  | flag | count | create => exact fun _ _ => rfl
  | notifyStop | check => trivial

theorem disconnHandler_keeps (p : DisconnHandler) : (disconnHandler p).op.Keeps scanView := by
  cases p with
  | disconnected p => exact handleWifiDisconnected_keeps p
  | fast | create => exact fun _ _ => rfl
  | check | take => trivial

theorem wifiEventTriggerConnect_keeps (attempt : UInt8) (p : TriggerConnect) :
    (wifiEventTriggerConnect attempt p).op.Keeps scanView := by
  cases p with
  | register => exact fun _ _ => rfl
  | check | disconnect | connect => trivial

theorem connect_keeps (p : Connect) : (connect p).op.Keeps scanView := by
  cases p with
  | clearConnecting | self | auto => exact fun _ _ => rfl
  | trigger p => exact wifiEventTriggerConnect_keeps 2 p
  | handler p => exact disconnHandler_keeps p
  | connected p => exact handleWifiConnected_keeps p
  | delete | take | checkConnecting | config | wait | give ret | checkEvent | credential
  | save => trivial

theorem reconnectionTask_keeps (p : Reconnection) : (reconnectionTask p).op.Keeps scanView := by
  cases p with
  | endless | self | clearFast | clearEndless => exact fun _ _ => rfl
  | trigger attempt p => exact wifiEventTriggerConnect_keeps attempt p
  | connected p => exact handleWifiConnected_keeps p
  | checkFast | wait | checkEvent | checkAuto | recheckEvent | pause | delay | retake
  | give => trivial

theorem setWifiMode_keeps (mode : ApstaMode) (p : SetWifiMode) :
    (setWifiMode mode p).op.Keeps scanView := by
  cases p with
  | permanent new | store new => exact fun _ _ => rfl
  | handler new p => exact disconnHandler_keeps p
  | start | flag old | compare new | setMode new | checkSta new | give new => trivial

theorem changeMode_keeps (mode : ApstaMode) (p : ChangeMode) :
    (changeMode mode p).op.Keeps scanView := by
  cases p with
  | setMode p => exact setWifiMode_keeps mode p
  | check | take | notifyStop | notifyStart | give err | save => trivial

theorem delayedSetApStop_keeps (p : DelayedStop) : (delayedSetApStop p).op.Keeps scanView := by
  cases p with
  | setMode p => exact setWifiMode_keeps .apStop p
  | count | task => exact fun _ _ => rfl
  | wait | take ret | give => trivial

theorem delayedSetApStart_keeps (p : DelayedStart) : (delayedSetApStart p).op.Keeps scanView := by
  cases p with
  | setMode p => exact setWifiMode_keeps .apStart p
  | count | task => exact fun _ _ => rfl
  | checkCount | wait | take ret | check | give => trivial

theorem disconnect_keeps (p : Disconnect) : (disconnect p).op.Keeps scanView := by
  cases p with
  | auto => exact fun _ _ => rfl
  | disconnect => trivial

theorem tryConnectDone_onScan (event : Address) (p : TryConnectDone) :
    viewAfter s t answer (tryConnectDone event p).op = p.onScan event (scanView s.memory) := by
  cases p with
  | notify => exact viewAfter_keeps s t answer trivial
  | event | check | unlock | give => rfl

theorem eventOnConnected_onScan (event : Address) (p : OnConnected) :
    viewAfter s t answer (eventOnConnected event p).op = p.onScan event (scanView s.memory) := by
  cases p with
  | done p => exact tryConnectDone_onScan s t answer event p
  | check | clear => rfl

theorem reconnectAfterDisco_onScan (p : AfterDisco) :
    viewAfter s t answer (reconnectAfterDisco p).op = p.onScan (scanView s.memory) := by
  cases p with
  | done p => exact tryConnectDone_onScan s t answer 0 p
  | handler p => exact viewAfter_keeps s t answer (disconnHandler_keeps p)
  | flag | attempt | connect | zero | decrement | callback | clear => rfl

theorem scanLoop_onScan (p : ScanLoop) :
    viewAfter s t answer (scanLoop p).op = p.onScan (scanView s.memory) := by
  cases p with
  | trigger channel number aps p => cases p <;> rfl
  | reset | number channel | records channel number | delay channel | wait channel => rfl

theorem getScanList_onScan (number : UInt16) (aps : Address) (p : GetScanList) :
    viewAfter s t answer (getScanList number aps p).op =
      p.onScan number aps (scanView s.memory) := by
  cases p with
  | scan broke p => exact scanLoop_onScan s t answer p
  | handler err p => exact viewAfter_keeps s t answer (disconnHandler_keeps p)
  | take | checkConnecting | delete | retake | disconnect | clearConnecting | checkDelay
  | deleteDelay | clearDelay | records broke | maxAp broke | callback broke | self broke
  | give broke err | number broke err | credential err => rfl

theorem wifiOnScanDone_onScan (status number : Nat) (p : OnScanDone) :
    viewAfter s t answer (wifiOnScanDone status number p).op = p.onScan (scanView s.memory) := by
  cases p with
  | done n p =>
      cases p with
      | notify => exact viewAfter_keeps s t answer trivial
      | number | total => rfl
  | screen | zero | records | found | loop | rssi | count | argument | callback | clearAp
  | clearCb => rfl

theorem code_onScan {p : Pc} {i : Code Pc} (h : code p = some i) :
    viewAfter s t answer i.op = p.onScan (scanView s.memory) := by
  cases p with
  | caller | eventLoop => cases h
  | getScanList number aps p => cases h; exact getScanList_onScan s t answer number aps p
  | scanDone status number p => cases h; exact wifiOnScanDone_onScan s t answer status number p
  | gotIp event p => cases h; exact eventOnConnected_onScan s t answer event p
  | staDisconnected p => cases h; exact reconnectAfterDisco_onScan s t answer p
  | staConnected => cases h; rfl
  | connect p => cases h; exact viewAfter_keeps s t answer (connect_keeps p)
  | changeMode mode p => cases h; exact viewAfter_keeps s t answer (changeMode_keeps mode p)
  | disconnect p => cases h; exact viewAfter_keeps s t answer (disconnect_keeps p)
  | main p => cases h; exact viewAfter_keeps s t answer (disconnHandler_keeps p)
  | delayedStop p => cases h; exact viewAfter_keeps s t answer (delayedSetApStop_keeps p)
  | delayedStart p => cases h; exact viewAfter_keeps s t answer (delayedSetApStart_keeps p)
  | reconnection p => cases h; exact viewAfter_keeps s t answer (reconnectionTask_keeps p)

end Effects

theorem view_run {s s' : System} {t : TaskId} {answer : Nat} {p : Pc} {i : Code Pc}
    (h : Runs manager s t answer p i s') : scanView s'.memory = p.onScan (scanView s.memory) := by
  rw [h.result, after, resume_memory]
  exact code_onScan s t answer h.instr

theorem view_call {s s' : System} {t : TaskId} {p point : Pc}
    (h : Calls manager s t p point s') : scanView s'.memory = scanView s.memory := by
  rw [h.result]

def ScanLoop.awaits : ScanLoop → Bool
  | .delay _ | .wait _ => true
  | _ => false

def GetScanList.awaits : GetScanList → Bool
  | .scan _ p => p.awaits
  | _ => false

/-- From the store of `scan.ap` to the load of the count. -/
def GetScanList.scanning : GetScanList → Bool
  | .maxAp _ | .callback _ | .self _ | .scan _ _ | .give _ _ | .number _ _ => true
  | _ => false

def ScanLoop.usesWord : ScanLoop → Bool
  | .reset | .number _ | .records _ _ => true
  | .trigger channel _ _ _ | .delay channel | .wait channel => channel < 13

def GetScanList.usesWord : GetScanList → Bool
  | .maxAp _ | .callback _ | .self _ => true
  | .scan _ p => p.usesWord
  | _ => false

def OnScanDone.uncounted : OnScanDone → Bool
  | .done _ .notify | .clearAp | .clearCb => false
  | _ => true

def Pc.awaits : Pc → Bool
  | .getScanList _ _ p => p.awaits
  | _ => false

def Pc.scanning : Pc → Bool
  | .getScanList _ _ p => p.scanning
  | _ => false

def Pc.usesWord : Pc → Bool
  | .getScanList _ _ p => p.usesWord
  | _ => false

def Pc.uncounted : Pc → Bool
  | .scanDone _ _ p => p.uncounted
  | _ => false

def Pc.isHandler : Pc → Bool
  | .scanDone _ _ _ => true
  | _ => false

def Pc.isEvent : Pc → Bool
  | .eventLoop | .staConnected | .staDisconnected _ | .gotIp _ _ | .scanDone _ _ _ => true
  | _ => false

theorem GetScanList.scanning_of_awaits {p : GetScanList} (h : p.awaits = true) :
    p.scanning = true := by
  cases p with
  | scan broke p => rfl
  | _ => cases h

theorem GetScanList.scanning_of_usesWord {p : GetScanList} (h : p.usesWord = true) :
    p.scanning = true := by
  cases p with
  | maxAp | callback | self | scan => rfl
  | _ => cases h

section Next

variable {i : Code Pc} {v : Nat} {q : Pc}

theorem next_getScanList {number : UInt16} {aps : Address} {g : GetScanList}
    (hi : code (.getScanList number aps g) = some i)
    (hq : (i.next v).point (back (.getScanList number aps g)) = some q) :
    (∃ g', (getScanList number aps g).next v = .goto g' ∧ q = .getScanList number aps g') ∨
      q = .caller := by
  cases hi
  exact (point_within hq).imp_right fun h => (Option.some.inj h).symm

theorem next_scanDone {status number : Nat} {g : OnScanDone}
    (hi : code (.scanDone status number g) = some i)
    (hq : (i.next v).point (back (.scanDone status number g)) = some q) :
    (∃ g', (wifiOnScanDone status number g).next v = .goto g' ∧ q = .scanDone status number g') ∨
      q = .eventLoop := by
  cases hi
  exact (point_within hq).imp_right fun h => (Option.some.inj h).symm

def Pc.tracked : Pc → Bool
  | .getScanList _ _ _ | .scanDone _ _ _ => true
  | _ => false

theorem next_other {p : Pc} (hp : p.tracked = false) (hi : code p = some i)
    (hq : (i.next v).point (back p) = some q) :
    q.tracked = false ∧ (q.isEvent = true → p.isEvent = true) := by
  cases p with
  | caller | eventLoop => cases hi
  | getScanList | scanDone => cases hp
  | staConnected =>
      cases hi
      cases hq
      exact ⟨rfl, fun _ => rfl⟩
  | staDisconnected p =>
      cases hi
      rcases point_within hq with ⟨g, -, rfl⟩ | h
      · exact ⟨rfl, fun _ => rfl⟩
      · cases h
        exact ⟨rfl, fun _ => rfl⟩
  | gotIp event p =>
      cases hi
      rcases point_within hq with ⟨g, -, rfl⟩ | h
      · exact ⟨rfl, fun _ => rfl⟩
      · cases h
        exact ⟨rfl, fun _ => rfl⟩
  | main p | delayedStop p | delayedStart p | reconnection p =>
      cases hi
      rcases point_within hq with ⟨g, -, rfl⟩ | h
      · exact ⟨rfl, nofun⟩
      · cases h
  | connect p | disconnect p | changeMode mode p =>
      cases hi
      rcases point_within hq with ⟨g, -, rfl⟩ | h
      · exact ⟨rfl, nofun⟩
      · cases h
        exact ⟨rfl, nofun⟩

end Next

def Pc.storesWord : Pc → Bool
  | .getScanList _ _ (.records _) => true
  | .gotIp _ (.done .event) => true
  | .staDisconnected (.done .event) => true
  | _ => false

def Pc.counts : Pc → Bool
  | .scanDone _ _ (.done _ .total) => true
  | _ => false

/-- What a point may change besides: the fields that are in question for it. -/
structure Spares (p : Pc) (m m' : ScanView) : Prop where
  word : p.storesWord = false → m'.word = m.word
  totalAps : p.counts = false → m'.totalAps = m.totalAps
  maxAp : m'.maxAp = m.maxAp
  number : p.uncounted = false → m'.number = m.number
  event : p.isHandler = false → m'.ap = m.ap ∧ m'.scanCb = m.scanCb

theorem Spares.refl (p : Pc) (m : ScanView) : Spares p m m :=
  ⟨fun _ => rfl, fun _ => rfl, rfl, fun _ => rfl, fun _ => ⟨rfl, rfl⟩⟩

theorem tryConnectDone_spares {p : Pc} {event : Address} {g : TryConnectDone}
    (hp : g = .event → p.storesWord = true) (m : ScanView) : Spares p m (g.onScan event m) := by
  cases g with
  | event =>
      refine ⟨fun h => ?_, fun _ => rfl, rfl, fun _ => rfl, fun _ => ⟨rfl, rfl⟩⟩
      rw [hp rfl] at h
      cases h
  | notify | check | unlock | give => exact .refl p m

theorem getScanList_spares {number : UInt16} {aps : Address} {g : GetScanList}
    (hg : g.scanning = false) (m : ScanView) :
    Spares (.getScanList number aps g) m (g.onScan number aps m) := by
  cases g with
  | records broke => exact ⟨nofun, fun _ => rfl, rfl, fun _ => rfl, fun _ => ⟨rfl, rfl⟩⟩
  | maxAp | callback | self | scan | give | number => cases hg
  | _ => exact .refl _ m

theorem wifiOnScanDone_spares (status number : Nat) (g : OnScanDone) (m : ScanView) :
    Spares (.scanDone status number g) m (g.onScan m) := by
  cases g with
  | zero | found n | count i => exact ⟨fun _ => rfl, fun _ => rfl, rfl, nofun, nofun⟩
  | clearAp | clearCb => exact ⟨fun _ => rfl, fun _ => rfl, rfl, fun _ => rfl, nofun⟩
  | done n g =>
      cases g with
      | total => exact ⟨fun _ => rfl, nofun, rfl, fun _ => rfl, nofun⟩
      | number | notify => exact .refl _ m
  | screen | records | loop i | rssi i | argument | callback n => exact .refl _ m

theorem onScan_spares {p : Pc} (hs : p.scanning = false) (m : ScanView) :
    Spares p m (p.onScan m) := by
  cases p with
  | getScanList number aps g => exact getScanList_spares hs m
  | scanDone status number g => exact wifiOnScanDone_spares status number g m
  | gotIp event g =>
      cases g with
      | done g => exact tryConnectDone_spares (by rintro rfl; rfl) m
      | check | clear => exact .refl _ m
  | staDisconnected g =>
      cases g with
      | done g => exact tryConnectDone_spares (by rintro rfl; rfl) m
      | _ => exact .refl _ m
  | _ => exact .refl _ m

end WirelessEsp.WifiManager
