import Mathlib.Logic.Function.Basic
import WirelessEsp.LeWords

namespace WirelessEsp.WifiStorage

open LeWords
open Function (update)

inductive Kind
  | u8
  | u16
  | u32
  | u64
  | blob
  deriving DecidableEq

def Kind.size : Kind → Option Nat
  | .u8 => some 1
  | .u16 => some 2
  | .u32 => some 4
  | .u64 => some 8
  | .blob => none

/-- The non-volatile storage of ESP-IDF keeps one value with its type for each key. -/
structure Value where
  kind : Kind
  data : List UInt8
  sized : ∀ n, kind.size = some n → data.length = n

abbrev Key := List UInt8

abbrev Entries := String → Key → Option Value

def ESP_OK : Int := 0
def ESP_ERR_NVS_NOT_FOUND : Int := 0x1102
def ESP_ERR_NVS_TYPE_MISMATCH : Int := 0x1103
def ESP_ERR_NVS_INVALID_LENGTH : Int := 0x110C

def WT_NVS_ERR_NOT_FOUND : Int := 3

/-- How the storage fares in one call: what its open and the writes of the keys return, and whether
a get of another type than that of the entry says so or says that there is none. -/
structure Outcome where
  opens : Int
  writes : Key → Int
  tellsType : Key → Bool

/-- The entries, and whether an open or a write of the current call has failed. -/
structure Nvs where
  entries : Entries
  failed : Bool

abbrev NvsM := StateM Nvs

def nvsOpen (o : Outcome) : NvsM Int := do
  if o.opens ≠ 0 then modify fun s => { s with failed := true }
  pure o.opens

def readEntry (o : Outcome) (key : Key) (kind : Kind) (size : Nat) :
    Option Value → Except Int (List UInt8)
  | none => .error ESP_ERR_NVS_NOT_FOUND
  | some v =>
      if v.kind ≠ kind then
        .error (if o.tellsType key then ESP_ERR_NVS_TYPE_MISMATCH else ESP_ERR_NVS_NOT_FOUND)
      else if kind = .blob ∧ size < v.data.length then .error ESP_ERR_NVS_INVALID_LENGTH
      else .ok v.data

def nvsGet (o : Outcome) (space : String) (key : Key) (kind : Kind) (size : Nat) :
    NvsM (Except Int (List UInt8)) := do
  let s ← get
  pure (readEntry o key kind size (s.entries space key))

def nvsSet (o : Outcome) (space : String) (key : Key) (v : Value) : NvsM Int := do
  if o.writes key ≠ 0 then modify fun s => { s with failed := true }
  else modify fun s =>
    { s with entries := update s.entries space (update (s.entries space) key (some v)) }
  pure (o.writes key)

def keyName (key : UInt32) : Key :=
  [byteOf key 0, byteOf key 1, byteOf key 2, byteOf key 3].takeWhile (· ≠ 0)

def kindOf : Nat → Kind
  | 0 | 1 => .u8
  | 2 => .u16
  | 4 => .u32
  | 8 => .u64
  | _ => .blob

theorem kindOf_size {len n : Nat} (h : (kindOf len).size = some n) :
    n = if len = 0 then 1 else len := by
  unfold kindOf at h
  split at h <;> cases h <;> rfl

def valueOf (data : List UInt8) : Value where
  kind := kindOf data.length
  data := if data.length = 0 then [0xFF] else data
  sized := by
    intro n hn
    rw [kindOf_size hn]
    split
    · rfl
    · rfl

def wtNvsGet (o : Outcome) (space : String) (key : UInt32) (size : Nat) :
    NvsM (Except Int (List UInt8)) := do
  let r ← nvsGet o space (keyName key) (kindOf size) size
  pure (if size = 0 then r.map fun _ => [] else r)

def wtNvsSet (o : Outcome) (space : String) (key : UInt32) (data : List UInt8) : NvsM Int :=
  nvsSet o space (keyName key) (valueOf data)

def WIFI_NVS_NAMESPACE : String := "wt_wifi"

def KEY_WIFI_AP_CRED : UInt32 := 0x1
def KEY_WIFI_STA_LAST_AP_CRED : UInt32 := 0x08
def KEY_WIFI_STA_AP_BITMAP : UInt32 := 0x09
def KEY_WIFI_STA_STATIC_BASE : UInt32 := 0x10
def KEY_WIFI_APSTA_MODE : UInt32 := 0xFF

/-- `wifi_credential_t`: 32 bytes of SSID and 64 of password. -/
abbrev Credential := Vector UInt8 96

def wordBytes (w : UInt32) : List UInt8 := [byteOf w 0, byteOf w 1, byteOf w 2, byteOf w 3]

def bytesWord (data : List UInt8) : UInt32 :=
  ofBytes (data.getD 0 0) (data.getD 1 0) (data.getD 2 0) (data.getD 3 0)

def fill {n : Nat} (old : Vector UInt8 n) (data : List UInt8) : Vector UInt8 n :=
  Vector.ofFn fun i => data.getD i old[i]

def wifiDataGetStaLastConnCred (o : Outcome) (old : Credential) : NvsM (Int × Credential) := do
  let err ← nvsOpen o
  if err ≠ 0 then pure (err, old)
  else
    match ← wtNvsGet o WIFI_NVS_NAMESPACE KEY_WIFI_STA_AP_BITMAP 4 with
    | .error err => pure (err, old)
    | .ok bitmap =>
        if bytesWord bitmap = 0 then pure (WT_NVS_ERR_NOT_FOUND, old)
        else
          match ← wtNvsGet o WIFI_NVS_NAMESPACE KEY_WIFI_STA_LAST_AP_CRED 96 with
          | .error err => pure (err, old)
          | .ok data => pure (ESP_OK, fill old data)

/-- The last two steps of a save: a get with the size of the bitmap, and the write. -/
def saveLast (o : Outcome) (credential : Credential) : NvsM Int := do
  match ← wtNvsGet o WIFI_NVS_NAMESPACE KEY_WIFI_STA_LAST_AP_CRED 4 with
  | .ok _ => wtNvsSet o WIFI_NVS_NAMESPACE KEY_WIFI_STA_LAST_AP_CRED credential.toList
  | .error err =>
      if err ≠ ESP_ERR_NVS_NOT_FOUND then pure err
      else wtNvsSet o WIFI_NVS_NAMESPACE KEY_WIFI_STA_LAST_AP_CRED credential.toList

/-- The error of the write of the bitmap is overwritten by that of the next get. -/
def saveBitmap (o : Outcome) (bitmap : UInt32) : NvsM Unit := do
  if bitmap = 0 then
    let _ ← wtNvsSet o WIFI_NVS_NAMESPACE KEY_WIFI_STA_AP_BITMAP (wordBytes 1)

def wifiDataSaveStaApCredential (o : Outcome) (credential : Credential) : NvsM Int := do
  let err ← nvsOpen o
  if err ≠ 0 then pure err
  else
    match ← wtNvsGet o WIFI_NVS_NAMESPACE KEY_WIFI_STA_AP_BITMAP 4 with
    | .ok bitmap =>
        saveBitmap o (bytesWord bitmap)
        saveLast o credential
    | .error err =>
        if err ≠ ESP_ERR_NVS_NOT_FOUND then pure err
        else
          saveBitmap o 0
          saveLast o credential

def saveValue (o : Outcome) (key : UInt32) (data : List UInt8) : NvsM Int := do
  let err ← nvsOpen o
  if err ≠ 0 then pure err else wtNvsSet o WIFI_NVS_NAMESPACE key data

def wifiDataSaveWifiMode (o : Outcome) (mode : UInt32) : NvsM Int :=
  saveValue o KEY_WIFI_APSTA_MODE [mode.toUInt8]

def wifiDataSaveApCredential (o : Outcome) (credential : Credential) : NvsM Int :=
  saveValue o KEY_WIFI_AP_CRED credential.toList

/-- `wifi_api_sta_ap_static_info_t`: five addresses, two flags and the padding. -/
abbrev StaticInfo := Vector UInt8 24

theorem static_ip_en_lt : 20 < 24 := by decide

theorem static_dns_en_lt : 21 < 24 := by decide

def wifiDataSaveStatic (o : Outcome) (info : StaticInfo) : NvsM Int :=
  saveValue o KEY_WIFI_STA_STATIC_BASE info.toList

def getValue {n : Nat} (o : Outcome) (key : UInt32) (old : Vector UInt8 n) :
    NvsM (Int × Vector UInt8 n) := do
  let err ← nvsOpen o
  if err ≠ 0 then pure (err, old)
  else
    match ← wtNvsGet o WIFI_NVS_NAMESPACE key n with
    | .error err => pure (err, old)
    | .ok data => pure (ESP_OK, fill old data)

def wifiDataGetWifiMode (o : Outcome) (old : Vector UInt8 1) : NvsM (Int × Vector UInt8 1) :=
  getValue o KEY_WIFI_APSTA_MODE old

def wifiDataGetApCredential (o : Outcome) (old : Credential) : NvsM (Int × Credential) :=
  getValue o KEY_WIFI_AP_CRED old

def clampFlag (i : Fin 24) (info : StaticInfo) : StaticInfo :=
  if info[i] > 1 then info.set i 0 else info

def wifiDataGetStatic (o : Outcome) (old : StaticInfo) : NvsM (Int × StaticInfo) := do
  let (err, info) ← getValue o KEY_WIFI_STA_STATIC_BASE old
  if o.opens ≠ 0 then pure (err, info)
  else if err = ESP_ERR_NVS_NOT_FOUND then pure (ESP_OK, (info.set 20 0).set 21 0)
  else if err ≠ 0 then pure (err, info)
  else pure (ESP_OK, clampFlag 21 (clampFlag 20 info))

inductive Call
  | saveStaApCredential (credential : Credential)
  | getStaLastConnCred (old : Credential)
  | saveWifiMode (mode : UInt32)
  | getWifiMode (old : Vector UInt8 1)
  | saveApCredential (credential : Credential)
  | getApCredential (old : Credential)
  | saveStatic (info : StaticInfo)
  | getStatic (old : StaticInfo)

def Call.perform (o : Outcome) : Call → NvsM Unit
  | .saveStaApCredential credential => discard (wifiDataSaveStaApCredential o credential)
  | .getStaLastConnCred old => discard (wifiDataGetStaLastConnCred o old)
  | .saveWifiMode mode => discard (wifiDataSaveWifiMode o mode)
  | .getWifiMode old => discard (wifiDataGetWifiMode o old)
  | .saveApCredential credential => discard (wifiDataSaveApCredential o credential)
  | .getApCredential old => discard (wifiDataGetApCredential o old)
  | .saveStatic info => discard (wifiDataSaveStatic o info)
  | .getStatic old => discard (wifiDataGetStatic o old)

/-- A call with what the storage does in it. -/
abbrev Action := Call × Outcome

def start (e : Entries) : Nvs := ⟨e, false⟩

def step (e : Entries) (a : Action) : Option Entries :=
  some ((a.1.perform a.2).run (start e)).2.entries

end WirelessEsp.WifiStorage
