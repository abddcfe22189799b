import WirelessEsp.WifiManager

namespace WirelessEsp.WifiManager

open TaskKernel Transition

/-- Where a task is. Callers wait at `caller` between calls of the manager, the event loop
waits at `eventLoop` between events, and `main` ends `wifi_manager_init`. -/
inductive Pc
  | caller
  | getScanList (number : UInt16) (aps : Address) (p : GetScanList)
  | connect (p : Connect)
  | changeMode (mode : ApstaMode) (p : ChangeMode)
  | disconnect (p : Disconnect)
  | eventLoop
  | staConnected
  | staDisconnected (p : AfterDisco)
  | gotIp (event : Address) (p : OnConnected)
  | scanDone (status number : Nat) (p : OnScanDone)
  | main (p : DisconnHandler)
  | delayedStop (p : DelayedStop)
  | delayedStart (p : DelayedStart)
  | reconnection (p : Reconnection)

def entryPoint : Entry → Pc
  | .delayedSetApStop => .delayedStop .wait
  | .delayedSetApStart => .delayedStart .checkCount
  | .reconnectionTask => .reconnection .endless

def code : Pc → Option (Code Pc)
  | .caller => none
  | .getScanList number aps p => some ((getScanList number aps p).within (.getScanList number aps) .ret)
  | .connect p => some ((WifiManager.connect p).within .connect .ret)
  | .changeMode mode p => some ((changeMode mode p).within (.changeMode mode) .ret)
  | .disconnect p => some ((WifiManager.disconnect p).within .disconnect .ret)
  | .eventLoop => none
  | .staConnected => some ⟨storeEvent fun _ e => { e with isConnected := true }, fun _ => .ret 0⟩
  | .staDisconnected p => some ((reconnectAfterDisco p).within .staDisconnected .ret)
  | .gotIp event p => some ((eventOnConnected event p).within (.gotIp event) .ret)
  | .scanDone status number p =>
      some ((wifiOnScanDone status number p).within (.scanDone status number) .ret)
  | .main p => some ((disconnHandler p).within .main .ret)
  | .delayedStop p => some ((delayedSetApStop p).within .delayedStop .ret)
  | .delayedStart p => some ((delayedSetApStart p).within .delayedStart .ret)
  | .reconnection p => some ((reconnectionTask p).within .reconnection .ret)

def back : Pc → Option Pc
  | .caller | .getScanList _ _ _ | .connect _ | .changeMode _ _ | .disconnect _ => some .caller
  | .eventLoop | .staConnected | .staDisconnected _ | .gotIp _ _ | .scanDone _ _ _ =>
      some .eventLoop
  | .main _ | .delayedStop _ | .delayedStart _ | .reconnection _ => none

def accepts : Pc → Pc → Bool
  | .caller, .getScanList _ _ .take => true
  | .caller, .connect .take => true
  | .caller, .changeMode _ .check => true
  | .caller, .disconnect .auto => true
  | .eventLoop, .staConnected => true
  | .eventLoop, .staDisconnected .flag => true
  | .eventLoop, .gotIp event .check => event ≠ 0
  | .eventLoop, .scanDone _ _ .screen => true
  | _, _ => false

def manager : Program Memory Entry Pc := ⟨entryPoint, code, back, accepts⟩

abbrev System := State Memory Pc

/-- What `wifi_manager_init` finds in the storage, and how many tasks call the manager. -/
structure Boot where
  storedMode : Option ApstaMode
  storedCredential : Bool
  callers : Nat

def Boot.permanentMode (b : Boot) : ApstaMode := b.storedMode.getD .apAutoStaOn

def Boot.mode (b : Boot) : UInt32 :=
  match b.storedMode with
  | none => wifiModeApsta
  | some stored =>
      let mode := stored.value &&& 3
      if mode = wifiModeSta ∨ mode = 0 then wifiModeApsta else mode

/-- The state in which `wifi_manager_init` comes to its call of `disconn_handler`. -/
def Boot.system (b : Boot) : System where
  memory :=
    { ctx :=
        { task := none
          word := 0
          needUnlock := 0
          totalAps := 0
          nrApsInChannel := 0
          maxAp := 0
          isEndlessConnect := false
          autoReconnect := true
          doFastConnect := b.storedCredential
          isStaConnected := false
          delayedStopApTask := none
          delayedStartApTask := none
          tryConnectCount := 0
          permanentMode := b.permanentMode
          mode := b.mode }
      event := ⟨0, false, 0, false, 0, false⟩ }
  free := true
  tasks := fun t =>
    if t = 0 then some .eventLoop
    else if t = 1 then (if b.storedCredential then some (.main (.disconnected .flag)) else none)
    else if t < b.callers + 2 then some .caller
    else none
  notified := fun _ => 0
  fresh := b.callers + 2

/-- Some operations of one task, all with the same answer. -/
def turns (t : TaskId) (count answer : Nat) : List (Action Pc) :=
  List.replicate count (.run t answer)

theorem boot_fresh (b : Boot) : Fresh b.system := by
  intro t ht
  have hge : b.callers + 2 ≤ t := ht
  have h0 : t ≠ 0 := by
    rintro rfl
    exact absurd hge (Nat.not_succ_le_zero _)
  have h1 : t ≠ 1 := by
    rintro rfl
    exact absurd (Nat.le_of_succ_le_succ hge) (Nat.not_succ_le_zero _)
  show (if t = 0 then _ else if t = 1 then _ else if t < b.callers + 2 then _ else none) = none
  rw [if_neg h0, if_neg h1, if_neg (Nat.not_lt.mpr hge)]

theorem boot_task {b : Boot} {t : TaskId} {p : Pc} (h : b.system.tasks t = some p) :
    p = .eventLoop ∨ p = .main (.disconnected .flag) ∨ p = .caller := by
  have h' : (if t = 0 then some Pc.eventLoop
    else if t = 1 then (if b.storedCredential then some (.main (.disconnected .flag)) else none)
    else if t < b.callers + 2 then some .caller else none) = some p := h
  split at h'
  · exact .inl (Option.some.inj h').symm
  · split at h'
    · split at h'
      · exact .inr (.inl (Option.some.inj h').symm)
      · cases h'
    · split at h'
      · exact .inr (.inr (Option.some.inj h').symm)
      · cases h'

end WirelessEsp.WifiManager
