import WirelessEsp.WifiContext

namespace WirelessEsp.WifiManager

open TaskKernel

inductive TriggerScan
  | start
  | callback
  | number
  | records

def wifiEventTriggerScan (number : UInt16) (aps : Address) : TriggerScan → Code TriggerScan
  | .start => ⟨.ask, fun err =>
      if aps = 0 then .ret 1 else if err ≠ 0 then .ret err else .goto .callback⟩
  | .callback => ⟨storeEvent fun _ e => { e with scanCb := true }, fun _ => .goto .number⟩
  | .number => ⟨storeEvent fun _ e => { e with number := number }, fun _ => .goto .records⟩
  | .records => ⟨storeEvent fun _ e => { e with ap := aps }, fun _ => .ret 0⟩

inductive ScanChannelDone
  | number
  | total
  | notify

def wifiEventScanChannelDone (number : UInt16) : ScanChannelDone → Code ScanChannelDone
  | .number => ⟨store fun _ c => { c with nrApsInChannel := number }, fun _ => .goto .total⟩
  | .total => ⟨store fun _ c => { c with totalAps := c.totalAps + number },
      fun _ => .goto .notify⟩
  | .notify => ⟨notify fun c => c.task, fun _ => .ret 0⟩

/-- `wifi_on_scan_done` with the two stores that follow it; a call of a missing callback is
taken as a return. -/
inductive OnScanDone
  | screen
  | zero
  | records
  | found (number : UInt16)
  | loop (i : Nat)
  | rssi (i : Nat)
  | count (i : Nat)
  | argument
  | callback (number : UInt16)
  | done (number : UInt16) (p : ScanChannelDone)
  | clearAp
  | clearCb

def wifiOnScanDone (status number : Nat) : OnScanDone → Code OnScanDone
  | .screen => ⟨loadEvent fun e => (e.scanCb = false ∨ e.ap = 0 : Bool).toNat, fun missing =>
      if missing ≠ 0 then .goto .zero
      else if status = 1 then .goto .zero
      else if number = 0 then .goto .zero
      else .goto .records⟩
  | .zero => ⟨storeEvent fun _ e => { e with number := 0 }, fun _ => .goto .records⟩
  | .records => ⟨.ask, fun n => .goto (.found (UInt16.ofNat n))⟩
  | .found n => ⟨storeEvent fun _ e => { e with number := n }, fun _ => .goto (.loop 0)⟩
  | .loop i => ⟨loadEvent fun e => e.number.toNat, fun number =>
      if i < number then .goto (.rssi i) else .goto (.count i)⟩
  | .rssi i => ⟨.ask, fun weak => if weak ≠ 0 then .goto (.count i) else .goto (.loop (i + 1))⟩
  | .count i => ⟨storeEvent fun _ e => { e with number := UInt16.ofNat i },
      fun _ => .goto .argument⟩
  | .argument => ⟨loadEvent fun e => e.number.toNat, fun n => .goto (.callback (UInt16.ofNat n))⟩
  | .callback n => ⟨loadEvent fun e => e.scanCb.toNat, fun cb =>
      if cb = 0 then .goto .clearAp else .goto (.done n .number)⟩
  | .done n p => (wifiEventScanChannelDone n p).within (.done n) fun _ => .goto .clearAp
  | .clearAp => ⟨storeEvent fun _ e => { e with ap := 0 }, fun _ => .goto .clearCb⟩
  | .clearCb => ⟨storeEvent fun _ e => { e with scanCb := false }, fun _ => .ret 0⟩

/-- `wifi_event_trigger_connect` with `try_connect_done` as its callback. -/
inductive TriggerConnect
  | register
  | check
  | disconnect
  | connect

def wifiEventTriggerConnect (attempt : UInt8) : TriggerConnect → Code TriggerConnect
  | .register => ⟨storeEvent fun _ e => { e with attempt := attempt, connCb := true },
      fun _ => .goto .check⟩
  | .check => ⟨loadEvent fun e => e.isConnected.toNat, fun connected =>
      if connected ≠ 0 then .goto .disconnect else .goto .connect⟩
  | .disconnect => ⟨.ask, .ret⟩
  | .connect => ⟨.ask, .ret⟩

inductive TryConnectDone
  | event
  | notify
  | check
  | unlock
  | give

def tryConnectDone (event : Address) : TryConnectDone → Code TryConnectDone
  | .event => ⟨store fun _ c => { c with word := event }, fun _ => .goto .notify⟩
  | .notify => ⟨notify fun c => c.task, fun _ => .goto .check⟩
  | .check => ⟨load fun c => c.needUnlock.toNat, fun unlock =>
      if unlock ≠ 0 then .goto .unlock else .ret 0⟩
  | .unlock => ⟨store fun _ c => { c with needUnlock := 0 }, fun _ => .goto .give⟩
  | .give => ⟨.give, fun _ => .ret 0⟩

inductive OnConnected
  | check
  | done (p : TryConnectDone)
  | clear

def eventOnConnected (event : Address) : OnConnected → Code OnConnected
  | .check => ⟨loadEvent fun e => e.connCb.toNat, fun cb =>
      if cb ≠ 0 then .goto (.done .event) else .goto .clear⟩
  | .done p => (tryConnectDone event p).within .done fun _ => .goto .clear
  | .clear => ⟨storeEvent fun _ e => { e with attempt := 0, connCb := false }, fun _ => .ret 0⟩

inductive Disconnected
  | flag
  | notifyStop
  | check
  | count
  | create

def handleWifiDisconnected : Disconnected → Code Disconnected
  | .flag => ⟨store fun _ c => { c with isStaConnected := false }, fun _ => .goto .notifyStop⟩
  | .notifyStop => ⟨notify fun c => c.delayedStopApTask, fun _ => .goto .check⟩
  | .check => ⟨load fun c => (c.permanentMode = .apAutoStaOn : Bool).toNat, fun auto =>
      if auto = 0 then .ret 0 else .goto .count⟩
  | .count => ⟨store fun _ c => { c with tryConnectCount := c.tryConnectCount + 1 },
      fun _ => .goto .create⟩
  | .create => ⟨create .delayedSetApStart fun u c => { c with delayedStartApTask := some u },
      fun _ => .ret 0⟩

inductive DisconnHandler
  | disconnected (p : Disconnected)
  | check
  | take
  | fast
  | create

def disconnHandler : DisconnHandler → Code DisconnHandler
  | .disconnected p => (handleWifiDisconnected p).within .disconnected fun _ => .goto .check
  | .check => ⟨load fun c => c.autoReconnect.toNat, fun auto =>
      if auto = 0 then .ret 0 else .goto .take⟩
  | .take => ⟨.take, fun ok => if ok ≠ 1 then .ret 0 else .goto .fast⟩
  | .fast => ⟨store fun _ c => { c with doFastConnect := true }, fun _ => .goto .create⟩
  | .create => ⟨create .reconnectionTask fun _ c => c, fun _ => .ret 0⟩

/-- `reconnect_after_disco`, with `is_connected` cleared before it. -/
inductive AfterDisco
  | flag
  | attempt
  | connect
  | zero
  | decrement
  | callback
  | done (p : TryConnectDone)
  | handler (p : DisconnHandler)
  | clear

def reconnectAfterDisco : AfterDisco → Code AfterDisco
  | .flag => ⟨storeEvent fun _ e => { e with isConnected := false }, fun _ => .goto .attempt⟩
  | .attempt => ⟨loadEvent fun e => e.attempt.toNat, fun attempt =>
      if attempt = 0 then .goto .callback else .goto .connect⟩
  | .connect => ⟨.ask, fun err => if err ≠ 0 then .goto .zero else .goto .decrement⟩
  | .zero => ⟨storeEvent fun _ e => { e with attempt := 0 }, fun _ => .goto .callback⟩
  | .decrement => ⟨storeEvent fun _ e => { e with attempt := e.attempt - 1 }, fun _ => .ret 0⟩
  | .callback => ⟨loadEvent fun e => e.connCb.toNat, fun cb =>
      if cb ≠ 0 then .goto (.done .event) else .goto (.handler (.disconnected .flag))⟩
  | .done p => (tryConnectDone 0 p).within .done fun _ => .goto .clear
  | .handler p => (disconnHandler p).within .handler fun _ => .goto .clear
  | .clear => ⟨storeEvent fun _ e => { e with connCb := false }, fun _ => .ret 0⟩

end WirelessEsp.WifiManager
