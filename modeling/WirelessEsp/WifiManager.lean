import WirelessEsp.WifiEvents

namespace WirelessEsp.WifiManager

open TaskKernel

inductive Connected
  | flag
  | notifyStart
  | check
  | create

def handleWifiConnected : Connected → Code Connected
  | .flag => ⟨store fun _ c => { c with isStaConnected := true }, fun _ => .goto .notifyStart⟩
  | .notifyStart => ⟨notify fun c => c.delayedStartApTask, fun _ => .goto .check⟩
  | .check => ⟨load fun c => (c.permanentMode = .apAutoStaOn : Bool).toNat, fun auto =>
      if auto = 0 then .ret 0 else .goto .create⟩
  | .create => ⟨create .delayedSetApStop fun u c => { c with delayedStopApTask := some u },
      fun _ => .ret 0⟩

inductive ScanLoop
  | reset
  | number (channel : Nat)
  | records (channel : Nat) (number : UInt16)
  | trigger (channel : Nat) (number : UInt16) (aps : Address) (p : TriggerScan)
  | delay (channel : Nat)
  | wait (channel : Nat)

def scanLoop : ScanLoop → Code ScanLoop
  | .reset => ⟨store fun _ c => { c with totalAps := 0 }, fun _ => .goto (.number 1)⟩
  | .number channel => ⟨load fun c => (c.maxAp.toUInt16 - c.totalAps).toNat, fun number =>
      .goto (.records channel (UInt16.ofNat number))⟩
  | .records channel number => ⟨load fun c => c.word + c.totalAps.toNat, fun aps =>
      .goto (.trigger channel number aps .start)⟩
  | .trigger channel number aps p =>
      (wifiEventTriggerScan number aps p).within (.trigger channel number aps) fun err =>
        if err ≠ 0 then .ret 1 else .goto (.delay channel)
  | .delay channel => ⟨.ask, fun _ => .goto (.wait channel)⟩
  | .wait channel => ⟨.notifyTake, fun ret =>
      if ret = 0 then .ret 1
      else if channel < 13 then .goto (.number (channel + 1))
      else .ret 0⟩

/-- `wifi_manager_get_scan_list`; `broke` is `broke_endless_connect`. -/
inductive GetScanList
  | take
  | checkConnecting
  | delete
  | retake
  | disconnect
  | clearConnecting
  | checkDelay
  | deleteDelay
  | clearDelay
  | records (broke : Bool)
  | maxAp (broke : Bool)
  | callback (broke : Bool)
  | self (broke : Bool)
  | scan (broke : Bool) (p : ScanLoop)
  | give (broke : Bool) (err : Nat)
  | number (broke : Bool) (err : Nat)
  | credential (err : Nat)
  | handler (err : Nat) (p : DisconnHandler)

def getScanList (number : UInt16) (aps : Address) : GetScanList → Code GetScanList
  | .take => ⟨.take, fun ok => if ok ≠ 1 then .goto .checkConnecting else .goto .checkDelay⟩
  | .checkConnecting => ⟨load fun c => c.isEndlessConnect.toNat, fun endless =>
      if endless = 0 then .ret 1 else .goto .delete⟩
  | .delete => ⟨deleteTask, fun _ => .goto .retake⟩
  | .retake => ⟨.take, fun _ => .goto .disconnect⟩
  | .disconnect => ⟨.ask, fun _ => .goto .clearConnecting⟩
  | .clearConnecting => ⟨store fun _ c => { c with isEndlessConnect := false },
      fun _ => .goto (.records true)⟩
  | .checkDelay => ⟨load fun c => c.isEndlessConnect.toNat, fun endless =>
      if endless = 1 then .goto .deleteDelay else .goto (.records false)⟩
  | .deleteDelay => ⟨deleteTask, fun _ => .goto .clearDelay⟩
  | .clearDelay => ⟨store fun _ c => { c with isEndlessConnect := false },
      fun _ => .goto (.records true)⟩
  | .records broke => ⟨store fun _ c => { c with word := aps }, fun _ => .goto (.maxAp broke)⟩
  | .maxAp broke => ⟨store fun _ c => { c with maxAp := number.toUInt8 },
      fun _ => .goto (.callback broke)⟩
  | .callback broke => ⟨store fun _ c => { c with needUnlock := 0 }, fun _ => .goto (.self broke)⟩
  | .self broke => ⟨store fun self c => { c with task := some self },
      fun _ => .goto (.scan broke .reset)⟩
  | .scan broke p => (scanLoop p).within (.scan broke) fun err => .goto (.give broke err)
  | .give broke err => ⟨.give, fun _ => .goto (.number broke err)⟩
  | .number broke err => ⟨load fun c => c.totalAps.toNat, fun _ =>
      if broke then .goto (.credential err) else .ret err⟩
  | .credential err => ⟨.ask, fun missing =>
      if missing = 0 then .goto (.handler err (.disconnected .flag)) else .ret err⟩
  | .handler err p => (disconnHandler p).within (.handler err) fun _ => .ret err

inductive Connect
  | take
  | checkConnecting
  | delete
  | clearConnecting
  | config
  | self
  | auto
  | trigger (p : TriggerConnect)
  | wait
  | give (ret : Nat)
  | checkEvent
  | credential
  | handler (p : DisconnHandler)
  | connected (p : Connected)
  | save

def connect : Connect → Code Connect
  | .take => ⟨.take, fun ok => if ok ≠ 1 then .goto .checkConnecting else .goto .config⟩
  | .checkConnecting => ⟨load fun c => c.isEndlessConnect.toNat, fun endless =>
      if endless = 0 then .ret 1 else .goto .delete⟩
  | .delete => ⟨deleteTask, fun _ => .goto .clearConnecting⟩
  | .clearConnecting => ⟨store fun _ c => { c with isEndlessConnect := false },
      fun _ => .goto .config⟩
  | .config => ⟨.ask, fun _ => .goto .self⟩
  | .self => ⟨store fun self c => { c with task := some self }, fun _ => .goto .auto⟩
  | .auto => ⟨store fun _ c => { c with autoReconnect := true },
      fun _ => .goto (.trigger .register)⟩
  | .trigger p => (wifiEventTriggerConnect 2 p).within .trigger fun _ => .goto .wait
  | .wait => ⟨.notifyTake, fun ret => .goto (.give ret)⟩
  | .give ret => ⟨.give, fun _ => if ret = 0 then .goto .credential else .goto .checkEvent⟩
  | .checkEvent => ⟨load fun c => c.word, fun event =>
      if event = 0 then .goto .credential else .goto (.connected .flag)⟩
  | .credential => ⟨.ask, fun missing =>
      if missing = 0 then .goto (.handler (.disconnected .flag)) else .ret 1⟩
  | .handler p => (disconnHandler p).within .handler fun _ => .ret 1
  | .connected p => (handleWifiConnected p).within .connected fun _ => .goto .save
  | .save => ⟨.ask, fun _ => .ret 0⟩

inductive Disconnect
  | auto
  | disconnect

def disconnect : Disconnect → Code Disconnect
  | .auto => ⟨store fun _ c => { c with autoReconnect := false }, fun _ => .goto .disconnect⟩
  | .disconnect => ⟨.ask, .ret⟩

inductive Reconnection
  | endless
  | self
  | checkFast
  | clearFast
  | trigger (attempt : UInt8) (p : TriggerConnect)
  | wait
  | checkEvent
  | checkAuto
  | recheckEvent
  | connected (p : Connected)
  | pause
  | delay
  | retake
  | clearEndless
  | give

def reconnectionTask : Reconnection → Code Reconnection
  | .endless => ⟨store fun _ c => { c with isEndlessConnect := true }, fun _ => .goto .self⟩
  | .self => ⟨store fun self c => { c with task := some self }, fun _ => .goto .checkFast⟩
  | .checkFast => ⟨load fun c => c.doFastConnect.toNat, fun fast =>
      if fast ≠ 0 then .goto .clearFast else .goto (.trigger 0 .register)⟩
  | .clearFast => ⟨store fun _ c => { c with doFastConnect := false },
      fun _ => .goto (.trigger 3 .register)⟩
  | .trigger attempt p => (wifiEventTriggerConnect attempt p).within (.trigger attempt) fun err =>
      if err ≠ 0 then .goto .clearEndless else .goto .wait
  | .wait => ⟨.notifyTake, fun _ => .goto .checkEvent⟩
  | .checkEvent => ⟨load fun c => c.word, fun event =>
      if event ≠ 0 then .goto .recheckEvent else .goto .checkAuto⟩
  | .checkAuto => ⟨load fun c => c.autoReconnect.toNat, fun auto =>
      if auto = 0 then .goto .recheckEvent else .goto .pause⟩
  | .recheckEvent => ⟨load fun c => c.word, fun event =>
      if event ≠ 0 then .goto (.connected .flag) else .goto .clearEndless⟩
  | .connected p => (handleWifiConnected p).within .connected fun _ => .goto .clearEndless
  | .pause => ⟨.give, fun _ => .goto .delay⟩
  | .delay => ⟨.ask, fun _ => .goto .retake⟩
  | .retake => ⟨.take, fun ok => if ok ≠ 1 then .goto .clearEndless else .goto .checkFast⟩
  | .clearEndless => ⟨store fun _ c => { c with isEndlessConnect := false }, fun _ => .goto .give⟩
  | .give => ⟨.give, fun _ => .ret 0⟩

inductive SetWifiMode
  | start
  | flag (old : UInt32)
  | permanent (new : UInt32)
  | compare (new : UInt32)
  | setMode (new : UInt32)
  | checkSta (new : UInt32)
  | give (new : UInt32)
  | handler (new : UInt32) (p : DisconnHandler)
  | store (new : UInt32)

def setWifiMode (mode : ApstaMode) : SetWifiMode → Code SetWifiMode
  | .start => ⟨load fun c => c.mode.toNat, fun m =>
      let old := UInt32.ofNat m
      match mode with
      | .other _ _ => .ret 1
      | .apAutoStaOn => .goto (.flag old)
      | .apStaOff | .apOnStaOff | .apOffStaOn | .apStaOn =>
          .goto (.permanent (mode.value &&& ~~~ApstaMode.apStaOff.value))
      | .apStop => .goto (.compare (old &&& ~~~wifiModeAp))
      | .apStart => .goto (.compare (old ||| wifiModeAp))
      | .staStop => .goto (.compare (old &&& ~~~wifiModeSta))
      | .staStart => .goto (.compare (old ||| wifiModeSta))⟩
  | .flag _ => ⟨load fun c => c.isStaConnected.toNat, fun connected =>
      if connected ≠ 0 then .goto (.permanent wifiModeSta) else .goto (.permanent wifiModeApsta)⟩
  | .permanent new => ⟨WifiManager.store fun _ c => { c with permanentMode := mode },
      fun _ => .goto (.compare new)⟩
  | .compare new => ⟨load fun c => (new = c.mode : Bool).toNat, fun same =>
      if same ≠ 0 then .ret 0 else .goto (.setMode new)⟩
  | .setMode new => ⟨.ask, fun err => if err ≠ 0 then .ret err else .goto (.checkSta new)⟩
  | .checkSta new => ⟨load fun c => (c.mode &&& wifiModeSta).toNat, fun sta =>
      if sta = 0 ∧ new &&& wifiModeSta ≠ 0 then .goto (.give new) else .goto (.store new)⟩
  | .give new => ⟨.give, fun _ => .goto (.handler new (.disconnected .flag))⟩
  | .handler new p => (disconnHandler p).within (.handler new) fun _ => .goto (.store new)
  | .store new => ⟨WifiManager.store fun _ c => { c with mode := new }, fun _ => .ret 0⟩

inductive ChangeMode
  | check
  | take
  | notifyStop
  | notifyStart
  | setMode (p : SetWifiMode)
  | give (err : Nat)
  | save

def changeMode (mode : ApstaMode) : ChangeMode → Code ChangeMode
  | .check => ⟨load fun c => (c.permanentMode = mode : Bool).toNat, fun same =>
      if same ≠ 0 then .ret 0 else .goto .take⟩
  | .take => ⟨.take, fun ok => if ok ≠ 1 then .ret 1 else .goto .notifyStop⟩
  | .notifyStop => ⟨notify fun c => c.delayedStopApTask, fun _ => .goto .notifyStart⟩
  | .notifyStart => ⟨notify fun c => c.delayedStartApTask, fun _ => .goto (.setMode .start)⟩
  | .setMode p => (setWifiMode mode p).within .setMode fun err => .goto (.give err)
  | .give err => ⟨.give, fun _ =>
      if err ≠ 0 then .ret err
      else if mode.value ≥ ApstaMode.apStop.value then .ret 0
      else .goto .save⟩
  | .save => ⟨.ask, .ret⟩

inductive DelayedStop
  | wait
  | take (ret : Nat)
  | setMode (p : SetWifiMode)
  | count
  | task
  | give

def delayedSetApStop : DelayedStop → Code DelayedStop
  | .wait => ⟨.notifyTake, fun ret => .goto (.take ret)⟩
  | .take ret => ⟨.take, fun _ => if ret = 0 then .goto (.setMode .start) else .goto .task⟩
  | .setMode p => (setWifiMode .apStop p).within .setMode fun _ => .goto .count
  | .count => ⟨store fun _ c => { c with tryConnectCount := 0 }, fun _ => .goto .task⟩
  | .task => ⟨store fun _ c => { c with delayedStopApTask := none }, fun _ => .goto .give⟩
  | .give => ⟨.give, fun _ => .ret 0⟩

inductive DelayedStart
  | checkCount
  | wait
  | take (ret : Nat)
  | check
  | setMode (p : SetWifiMode)
  | count
  | task
  | give

def delayedSetApStart : DelayedStart → Code DelayedStart
  | .checkCount => ⟨load fun c => c.tryConnectCount.toNat, fun count =>
      if count > 5 then .goto (.take 0) else .goto .wait⟩
  | .wait => ⟨.notifyTake, fun ret => .goto (.take ret)⟩
  | .take ret => ⟨.take, fun _ => if ret = 0 then .goto .check else .goto .task⟩
  | .check => ⟨load fun c => (c.permanentMode = .apAutoStaOn : Bool).toNat, fun auto =>
      if auto = 0 then .goto .task else .goto (.setMode .start)⟩
  | .setMode p => (setWifiMode .apStart p).within .setMode fun _ => .goto .count
  | .count => ⟨store fun _ c => { c with tryConnectCount := 0 }, fun _ => .goto .task⟩
  | .task => ⟨store fun _ c => { c with delayedStartApTask := none }, fun _ => .goto .give⟩
  | .give => ⟨.give, fun _ => .ret 0⟩

end WirelessEsp.WifiManager
