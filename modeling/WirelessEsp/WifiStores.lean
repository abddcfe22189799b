import WirelessEsp.WifiTasks

namespace WirelessEsp.WifiManager

open TaskKernel

structure Shared where
  word : Address
  needUnlock : UInt8
  isStaConnected : Bool
  delayedStopApTask : Option TaskId

def shared (m : Memory) : Shared :=
  ⟨m.ctx.word, m.ctx.needUnlock, m.ctx.isStaConnected, m.ctx.delayedStopApTask⟩

inductive Act
  | nothing
  | word (a : Address)
  | lockFlag
  | station (connected : Bool)
  | createStop
  | forgetStop
  | announce
  | delete

def Does (op : Op Memory Entry) : Act → Prop
  | .nothing =>
      op.Keeps shared ∧ op.entry ≠ some .delayedSetApStop ∧ op.deletes = false
  | .word a => op = store fun _ c => { c with word := a }
  | .lockFlag => op = store fun _ c => { c with needUnlock := 0 }
  | .station connected => op = store fun _ c => { c with isStaConnected := connected }
  | .createStop =>
      op = create .delayedSetApStop fun u c => { c with delayedStopApTask := some u }
  | .forgetStop => op = store fun _ c => { c with delayedStopApTask := none }
  | .announce => op = notify fun c => c.delayedStopApTask
  | .delete => op = deleteTask

def Act.effect (fresh : TaskId) (m : Shared) : Act → Shared
  | .nothing | .announce | .delete => m
  | .word a => { m with word := a }
  | .lockFlag => { m with needUnlock := 0 }
  | .station connected => { m with isStaConnected := connected }
  | .createStop => { m with delayedStopApTask := some fresh }
  | .forgetStop => { m with delayedStopApTask := none }

def TryConnectDone.act (event : Address) : TryConnectDone → Act
  | .event => .word event
  | .unlock => .lockFlag
  | _ => .nothing

def OnConnected.act (event : Address) : OnConnected → Act
  | .done p => p.act event
  | _ => .nothing

def Disconnected.act : Disconnected → Act
  | .flag => .station false
  | .notifyStop => .announce
  | _ => .nothing

def DisconnHandler.act : DisconnHandler → Act
  | .disconnected p => p.act
  | _ => .nothing

def AfterDisco.act : AfterDisco → Act
  | .done p => p.act 0
  | .handler p => p.act
  | _ => .nothing

def Connected.act : Connected → Act
  | .flag => .station true
  | .create => .createStop
  | _ => .nothing

def GetScanList.act (aps : Address) : GetScanList → Act
  | .records _ => .word aps
  | .callback _ => .lockFlag
  | .delete | .deleteDelay => .delete
  | .handler _ p => p.act
  | _ => .nothing

def Connect.act : Connect → Act
  | .delete => .delete
  | .handler p => p.act
  | .connected p => p.act
  | _ => .nothing

def Reconnection.act : Reconnection → Act
  | .connected p => p.act
  | _ => .nothing

def SetWifiMode.act : SetWifiMode → Act
  | .handler _ p => p.act
  | _ => .nothing

def ChangeMode.act : ChangeMode → Act
  | .setMode p => p.act
  | _ => .nothing

def DelayedStop.act : DelayedStop → Act
  | .setMode p => p.act
  | .task => .forgetStop
  | _ => .nothing

def DelayedStart.act : DelayedStart → Act
  | .setMode p => p.act
  | _ => .nothing

def Pc.act : Pc → Act
  | .getScanList _ aps p => p.act aps
  | .connect p => p.act
  | .changeMode _ p => p.act
  | .staDisconnected p => p.act
  | .gotIp event p => p.act event
  | .main p => p.act
  | .delayedStop p => p.act
  | .delayedStart p => p.act
  | .reconnection p => p.act
  | _ => .nothing

theorem wifiEventTriggerScan_quiet (number : UInt16) (aps : Address) (p : TriggerScan) :
    Does (wifiEventTriggerScan number aps p).op .nothing := by
  cases p with
  | start => exact ⟨trivial, nofun, rfl⟩
  | callback | number | records => exact ⟨fun _ _ => rfl, nofun, rfl⟩

theorem wifiEventScanChannelDone_quiet (number : UInt16) (p : ScanChannelDone) :
    Does (wifiEventScanChannelDone number p).op .nothing := by
  cases p with
  | number | total => exact ⟨fun _ _ => rfl, nofun, rfl⟩
  | notify => exact ⟨trivial, nofun, rfl⟩

theorem wifiOnScanDone_quiet (status number : Nat) (p : OnScanDone) :
    Does (wifiOnScanDone status number p).op .nothing := by
  cases p with
  | zero | found | count | clearAp | clearCb => exact ⟨fun _ _ => rfl, nofun, rfl⟩
  | screen | records | loop | rssi | argument | callback => exact ⟨trivial, nofun, rfl⟩
  | done n p => exact wifiEventScanChannelDone_quiet n p

theorem wifiEventTriggerConnect_quiet (attempt : UInt8) (p : TriggerConnect) :
    Does (wifiEventTriggerConnect attempt p).op .nothing := by
  cases p with
  | register => exact ⟨fun _ _ => rfl, nofun, rfl⟩
  | check | disconnect | connect => exact ⟨trivial, nofun, rfl⟩

theorem scanLoop_quiet (p : ScanLoop) : Does (scanLoop p).op .nothing := by
  cases p with
  | reset => exact ⟨fun _ _ => rfl, nofun, rfl⟩
  | number channel | records channel number | delay channel | wait channel => exact ⟨trivial, nofun, rfl⟩
  | trigger channel number aps p => exact wifiEventTriggerScan_quiet number aps p

theorem disconnect_quiet (p : Disconnect) : Does (disconnect p).op .nothing := by
  cases p with
  | auto => exact ⟨fun _ _ => rfl, nofun, rfl⟩
  | disconnect => exact ⟨trivial, nofun, rfl⟩

theorem tryConnectDone_does (event : Address) (p : TryConnectDone) :
    Does (tryConnectDone event p).op (p.act event) := by
  cases p with
  | event | unlock => rfl
  | notify | check | give => exact ⟨trivial, nofun, rfl⟩

theorem eventOnConnected_does (event : Address) (p : OnConnected) :
    Does (eventOnConnected event p).op (p.act event) := by
  cases p with
  | check => exact ⟨trivial, nofun, rfl⟩
  | done p => exact tryConnectDone_does event p
  | clear => exact ⟨fun _ _ => rfl, nofun, rfl⟩

theorem handleWifiDisconnected_does (p : Disconnected) :
    Does (handleWifiDisconnected p).op p.act := by
  cases p with
  | flag | notifyStop => rfl
  | check => exact ⟨trivial, nofun, rfl⟩
  | count | create => exact ⟨fun _ _ => rfl, nofun, rfl⟩

theorem disconnHandler_does (p : DisconnHandler) : Does (disconnHandler p).op p.act := by
  cases p with
  | disconnected p => exact handleWifiDisconnected_does p
  | check | take => exact ⟨trivial, nofun, rfl⟩
  | fast | create => exact ⟨fun _ _ => rfl, nofun, rfl⟩

theorem reconnectAfterDisco_does (p : AfterDisco) : Does (reconnectAfterDisco p).op p.act := by
  cases p with
  | flag | zero | decrement | clear => exact ⟨fun _ _ => rfl, nofun, rfl⟩
  | attempt | connect | callback => exact ⟨trivial, nofun, rfl⟩
  | done p => exact tryConnectDone_does 0 p
  | handler p => exact disconnHandler_does p

theorem handleWifiConnected_does (p : Connected) : Does (handleWifiConnected p).op p.act := by
  cases p with
  | flag | create => rfl
  | notifyStart | check => exact ⟨trivial, nofun, rfl⟩

theorem getScanList_does (number : UInt16) (aps : Address) (p : GetScanList) :
    Does (getScanList number aps p).op (p.act aps) := by
  cases p with
  | records broke | callback broke | delete | deleteDelay => rfl
  | clearConnecting | clearDelay | maxAp broke | self broke => exact ⟨fun _ _ => rfl, nofun, rfl⟩
  | scan broke p => exact scanLoop_quiet p
  | handler err p => exact disconnHandler_does p
  | take | checkConnecting | retake | disconnect | checkDelay
  | give broke err | number broke err | credential err => exact ⟨trivial, nofun, rfl⟩

theorem connect_does (p : Connect) : Does (connect p).op p.act := by
  cases p with
  | clearConnecting | self | auto => exact ⟨fun _ _ => rfl, nofun, rfl⟩
  | trigger p => exact wifiEventTriggerConnect_quiet 2 p
  | handler p => exact disconnHandler_does p
  | connected p => exact handleWifiConnected_does p
  | delete => rfl
  | take | checkConnecting | config | wait | give ret | checkEvent | credential
  | save => exact ⟨trivial, nofun, rfl⟩

theorem reconnectionTask_does (p : Reconnection) : Does (reconnectionTask p).op p.act := by
  cases p with
  | endless | self | clearFast | clearEndless => exact ⟨fun _ _ => rfl, nofun, rfl⟩
  | trigger attempt p => exact wifiEventTriggerConnect_quiet attempt p
  | connected p => exact handleWifiConnected_does p
  | checkFast | wait | checkEvent | checkAuto | recheckEvent | pause | delay | retake
  | give => exact ⟨trivial, nofun, rfl⟩

theorem setWifiMode_does (mode : ApstaMode) (p : SetWifiMode) :
    Does (setWifiMode mode p).op p.act := by
  cases p with
  | permanent new | store new => exact ⟨fun _ _ => rfl, nofun, rfl⟩
  | handler new p => exact disconnHandler_does p
  | start | flag old | compare new | setMode new | checkSta new | give new => exact ⟨trivial, nofun, rfl⟩

theorem changeMode_does (mode : ApstaMode) (p : ChangeMode) :
    Does (changeMode mode p).op p.act := by
  cases p with
  | setMode p => exact setWifiMode_does mode p
  | check | take | notifyStop | notifyStart | give err | save => exact ⟨trivial, nofun, rfl⟩

theorem delayedSetApStop_does (p : DelayedStop) : Does (delayedSetApStop p).op p.act := by
  cases p with
  | setMode p => exact setWifiMode_does .apStop p
  | count => exact ⟨fun _ _ => rfl, nofun, rfl⟩
  | task => rfl
  | wait | take ret | give => exact ⟨trivial, nofun, rfl⟩

theorem delayedSetApStart_does (p : DelayedStart) : Does (delayedSetApStart p).op p.act := by
  cases p with
  | setMode p => exact setWifiMode_does .apStart p
  | count | task => exact ⟨fun _ _ => rfl, nofun, rfl⟩
  | checkCount | wait | take ret | check | give => exact ⟨trivial, nofun, rfl⟩

theorem code_does {p : Pc} {i : Code Pc} (h : code p = some i) : Does i.op p.act := by
  cases p with
  | caller | eventLoop => cases h
  | getScanList number aps p => cases h; exact getScanList_does number aps p
  | connect p => cases h; exact connect_does p
  | changeMode mode p => cases h; exact changeMode_does mode p
  | disconnect p => cases h; exact disconnect_quiet p
  | staConnected => cases h; exact ⟨fun _ _ => rfl, nofun, rfl⟩
  | staDisconnected p => cases h; exact reconnectAfterDisco_does p
  | gotIp event p => cases h; exact eventOnConnected_does event p
  | scanDone status number p => cases h; exact wifiOnScanDone_quiet status number p
  | main p => cases h; exact disconnHandler_does p
  | delayedStop p => cases h; exact delayedSetApStop_does p
  | delayedStart p => cases h; exact delayedSetApStart_does p
  | reconnection p => cases h; exact reconnectionTask_does p

theorem does_delete {act : Act} {handle : Memory → Option TaskId} (h : Does (.delete handle) act) :
    act = .delete ∧ handle = fun m => m.ctx.task := by
  cases act with
  | delete =>
      cases h
      exact ⟨rfl, rfl⟩
  | nothing => cases h.2.2
  | word a | lockFlag | station connected | createStop | forgetStop | announce => cases h

theorem does_createStop {op : Op Memory Entry} {act : Act} (h : Does op act)
    (he : op.entry = some .delayedSetApStop) : act = .createStop := by
  cases act with
  | createStop => rfl
  | nothing => exact absurd he h.2.1
  | word a | lockFlag | station connected | forgetStop | announce | delete =>
      rw [show op = _ from h] at he
      cases he

theorem exec_shared {op : Op Memory Entry} {act : Act} (h : Does op act) (s : System) (t : TaskId)
    (answer : Nat) : shared (exec manager s t answer op).1.memory =
      act.effect s.fresh (shared s.memory) := by
  cases act with
  | nothing => exact exec_view h.1 s t answer
  | announce =>
      rw [show op = _ from h]
      exact congrArg shared (notify_memory _)
  | word a | lockFlag | station connected | createStop | forgetStop | delete =>
      rw [show op = _ from h]
      rfl

theorem shared_run {s s' : System} {t : TaskId} {answer : Nat} {p : Pc} {i : Code Pc}
    (h : Runs manager s t answer p i s') :
    shared s'.memory = p.act.effect s.fresh (shared s.memory) := by
  rw [h.result, after, resume_memory]
  exact exec_shared (code_does h.instr) s t answer

theorem shared_call {s s' : System} {t : TaskId} {p point : Pc}
    (h : Calls manager s t p point s') : shared s'.memory = shared s.memory := by
  rw [h.result]

end WirelessEsp.WifiManager
