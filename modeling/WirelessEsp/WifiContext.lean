import WirelessEsp.TaskKernel

namespace WirelessEsp.WifiManager

open TaskKernel

/-- A pointer; `NULL` is 0 and arrays of records are indexed in records. -/
abbrev Address := Nat

/-- `wifi_apsta_mode_e`: the first five values are permanent, the next four temporary, and the
others have no name. -/
inductive ApstaMode
  | apAutoStaOn
  | apStaOff
  | apOffStaOn
  | apOnStaOff
  | apStaOn
  | apStop
  | apStart
  | staStop
  | staStart
  | other (value : UInt32) (unnamed : value ∉ [0, 4, 5, 6, 7, 8, 9, 10, 11])
  deriving DecidableEq

def ApstaMode.value : ApstaMode → UInt32
  | .apAutoStaOn => 0
  | .apStaOff => 4
  | .apOffStaOn => 5
  | .apOnStaOff => 6
  | .apStaOn => 7
  | .apStop => 8
  | .apStart => 9
  | .staStop => 10
  | .staStart => 11
  | .other value _ => value

def wifiModeSta : UInt32 := 1

def wifiModeAp : UInt32 := 2

def wifiModeApsta : UInt32 := 3

/-- `wifi_ctx_t` without the lock and the delays. The first word of the union is both
`scan.ap` and `conn.event`, and `conn.need_unlock` lies in `scan.cb`. -/
structure WifiCtx where
  task : Option TaskId
  word : Address
  needUnlock : UInt8
  totalAps : UInt16
  nrApsInChannel : UInt16
  maxAp : UInt8
  isEndlessConnect : Bool
  autoReconnect : Bool
  doFastConnect : Bool
  isStaConnected : Bool
  delayedStopApTask : Option TaskId
  delayedStartApTask : Option TaskId
  tryConnectCount : UInt32
  permanentMode : ApstaMode
  mode : UInt32

/-- `wifi_event_ctx_t`, whose callbacks are either absent or those of the manager. -/
structure WifiEventCtx where
  ap : Address
  scanCb : Bool
  number : UInt16
  connCb : Bool
  attempt : UInt8
  isConnected : Bool

structure Memory where
  ctx : WifiCtx
  event : WifiEventCtx

inductive Entry
  | delayedSetApStop
  | delayedSetApStart
  | reconnectionTask
  deriving DecidableEq

abbrev Code (ρ : Type) := Instr Memory Entry ρ

/-- A store to `ctx` by the running task. -/
def store (f : TaskId → WifiCtx → WifiCtx) : Op Memory Entry :=
  .write fun self m => { m with ctx := f self m.ctx }

def storeEvent (f : WifiCtx → WifiEventCtx → WifiEventCtx) : Op Memory Entry :=
  .write fun _ m => { m with event := f m.ctx m.event }

def load (f : WifiCtx → Nat) : Op Memory Entry := .read fun m => f m.ctx

def loadEvent (f : WifiEventCtx → Nat) : Op Memory Entry := .read fun m => f m.event

def notify (handle : WifiCtx → Option TaskId) : Op Memory Entry :=
  .notifyGive fun m => handle m.ctx

def create (entry : Entry) (f : TaskId → WifiCtx → WifiCtx) : Op Memory Entry :=
  .create entry fun u m => { m with ctx := f u m.ctx }

def deleteTask : Op Memory Entry := .delete fun m => m.ctx.task

end WirelessEsp.WifiManager
