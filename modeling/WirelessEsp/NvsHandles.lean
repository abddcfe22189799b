import WirelessEsp.Programs
import WirelessEsp.CredentialRoundTrip

namespace WirelessEsp.NvsHandles

open Programs
open WifiStorage (Key Kind Value Credential StaticInfo keyName kindOf valueOf fill bytesWord
  wordBytes clampFlag ESP_OK ESP_ERR_NVS_NOT_FOUND WT_NVS_ERR_NOT_FOUND WIFI_NVS_NAMESPACE
  KEY_WIFI_AP_CRED KEY_WIFI_STA_LAST_AP_CRED KEY_WIFI_STA_AP_BITMAP KEY_WIFI_STA_STATIC_BASE
  KEY_WIFI_APSTA_MODE static_ip_en_lt static_dns_en_lt)

abbrev Handle := Nat

/-- What the code asks of the storage. A commit is checked, so that it aborts when it fails. -/
inductive Op
  | nvsOpen (space : String)
  | nvsGet (handle : Handle) (key : Key) (kind : Kind) (size : Nat)
  | nvsSet (handle : Handle) (key : Key) (v : Value)
  | nvsCommit (handle : Handle)
  | nvsClose (handle : Handle)

abbrev Op.Ans : Op → Type
  | .nvsOpen _ => Int × Handle
  | .nvsGet .. => Int × List UInt8
  | .nvsSet .. => Int
  | .nvsCommit _ => Unit
  | .nvsClose _ => Unit

abbrev Nvs := Code Op Op.Ans Empty

def ask (op : Op) : Nvs op.Ans := perform op

def wtNvsOpen (space : String) : Nvs (Int × Handle) := ask (.nvsOpen space)

def wtNvsClose (handle : Handle) : Nvs Unit := do
  ask (.nvsCommit handle)
  ask (.nvsClose handle)

def wtNvsGet {n : Nat} (handle : Handle) (key : UInt32) (data : Vector UInt8 n) :
    Nvs (Int × Vector UInt8 n) := do
  let (err, bytes) ← ask (.nvsGet handle (keyName key) (kindOf n) n)
  pure (err, if err = 0 then fill data bytes else data)

def wtNvsSet (handle : Handle) (key : UInt32) (data : List UInt8) : Nvs Int :=
  ask (.nvsSet handle (keyName key) (valueOf data))

def wtNvsGetOnce {n : Nat} (space : String) (key : UInt32) (data : Vector UInt8 n) :
    Nvs (Int × Vector UInt8 n) := do
  let (err, handle) ← wtNvsOpen space
  if err ≠ 0 then return (err, data)
  let (err, data) ← wtNvsGet handle key data
  if err ≠ 0 then return (err, data)
  wtNvsClose handle
  return (0, data)

def wtNvsSetOnce (space : String) (key : UInt32) (data : List UInt8) : Nvs Int := do
  let (err, handle) ← wtNvsOpen space
  if err ≠ 0 then return err
  let err ← wtNvsSet handle key data
  if err ≠ 0 then return err
  wtNvsClose handle
  return 0

variable {α β : Type}

/-- What the functions have in common: `body` is what stands before the label `end`. -/
def opened (refused : Int → α) (body : Handle → Nvs α) : Nvs α := do
  let (err, handle) ← wtNvsOpen WIFI_NVS_NAMESPACE
  if err ≠ 0 then return refused err
  let a ← body handle
  wtNvsClose handle
  return a

def wifiDataGetStaLastConnCred (credential : Credential) : Nvs (Int × Credential) :=
  opened (·, credential) fun handle => do
    let (err, bitmap) ← wtNvsGet handle KEY_WIFI_STA_AP_BITMAP (Vector.replicate 4 0)
    if err ≠ 0 then return (err, credential)
    if bytesWord bitmap.toList = 0 then return (WT_NVS_ERR_NOT_FOUND, credential)
    wtNvsGet handle KEY_WIFI_STA_LAST_AP_CRED credential

def saveLast (handle : Handle) (credential : Credential) : Nvs Int := do
  let (err, _) ← wtNvsGet handle KEY_WIFI_STA_LAST_AP_CRED (Vector.replicate 4 0)
  if err ≠ 0 ∧ err ≠ ESP_ERR_NVS_NOT_FOUND then return err
  wtNvsSet handle KEY_WIFI_STA_LAST_AP_CRED credential.toList

def saveBitmap (handle : Handle) (bitmap : UInt32) : Nvs Unit := do
  if bitmap = 0 then
    let _ ← wtNvsSet handle KEY_WIFI_STA_AP_BITMAP (wordBytes 1)

def wifiDataSaveStaApCredential (credential : Credential) : Nvs Int :=
  opened id fun handle => do
    let (err, bitmap) ← wtNvsGet handle KEY_WIFI_STA_AP_BITMAP (Vector.replicate 4 0)
    if err ≠ 0 ∧ err ≠ ESP_ERR_NVS_NOT_FOUND then return err
    saveBitmap handle (if err = 0 then bytesWord bitmap.toList else 0)
    saveLast handle credential

def wifiDataSaveWifiMode (mode : UInt32) : Nvs Int :=
  opened id fun handle => wtNvsSet handle KEY_WIFI_APSTA_MODE [mode.toUInt8]

def wifiDataGetWifiMode (mode : Vector UInt8 1) : Nvs (Int × Vector UInt8 1) :=
  opened (·, mode) fun handle => wtNvsGet handle KEY_WIFI_APSTA_MODE mode

def wifiDataSaveApCredential (credential : Credential) : Nvs Int :=
  opened id fun handle => wtNvsSet handle KEY_WIFI_AP_CRED credential.toList

def wifiDataGetApCredential (credential : Credential) : Nvs (Int × Credential) :=
  opened (·, credential) fun handle => wtNvsGet handle KEY_WIFI_AP_CRED credential

def wifiDataGetStatic (info : StaticInfo) : Nvs (Int × StaticInfo) :=
  opened (·, info) fun handle => do
    let (err, info) ← wtNvsGet handle KEY_WIFI_STA_STATIC_BASE info
    if err = ESP_ERR_NVS_NOT_FOUND then
      return (ESP_OK, (info.set 20 0 static_ip_en_lt).set 21 0 static_dns_en_lt)
    if err ≠ 0 then return (err, info)
    return (err, clampFlag ⟨21, static_dns_en_lt⟩ (clampFlag ⟨20, static_ip_en_lt⟩ info))

def wifiDataSaveStatic (info : StaticInfo) : Nvs Int :=
  opened id fun handle => wtNvsSet handle KEY_WIFI_STA_STATIC_BASE info.toList

/-- How the storage answers an operation: the error, and the bytes that a get finds. -/
structure Answer where
  err : Int
  data : List UInt8

/-- The answers to the operations of a call, in order. -/
abbrev Answers := Nat → Answer

/-- `misused` says that a handle has been used that is not open. -/
structure State where
  handles : List Handle
  made : Nat
  closed : List Handle
  misused : Bool
  fresh : ∀ handle ∈ handles, handle < made

namespace State

variable (s : State)

def openHandle : State where
  handles := s.made :: s.handles
  made := s.made + 1
  closed := s.closed
  misused := s.misused
  fresh := by
    intro handle hmem
    rcases List.mem_cons.mp hmem with rfl | hold
    · exact Nat.lt_succ_self _
    · exact Nat.lt_succ_of_lt (s.fresh handle hold)

def use (handle : Handle) : State :=
  if handle ∈ s.handles then s else { s with misused := true }

def closeHandle (handle : Handle) : State where
  handles := s.handles.erase handle
  made := s.made
  closed := s.closed ++ [handle]
  misused := s.misused
  fresh := fun h hmem => s.fresh h (List.mem_of_mem_erase hmem)

end State

def answer (a : Answer) (s : State) : (op : Op) → Option (op.Ans × State)
  | .nvsOpen _ => if a.err = 0 then some ((0, s.made), s.openHandle) else some ((a.err, 0), s)
  | .nvsGet handle _ _ _ => some ((a.err, a.data), s.use handle)
  | .nvsSet handle _ _ => some (a.err, s.use handle)
  | .nvsCommit handle => if a.err = 0 then some ((), s.use handle) else none
  | .nvsClose handle => some ((), (s.use handle).closeHandle handle)

/-- The result of a code, the number of the answers that it takes and the state that it leaves. -/
def exec (w : Answers) : Nat → State → Nvs α → Option (α × Nat × State)
  | n, s, .ret a => some (a, n, s)
  | n, s, .op op next => (answer (w n) s op).bind fun x => exec w (n + 1) x.2 (next x.1)
  | _, _, .give item _ => item.elim

theorem exec_bind (w : Answers) (n : Nat) (s : State) (code : Nvs α) (f : α → Nvs β) :
    exec w n s (code >>= f) = (exec w n s code).bind fun x => exec w x.2.1 x.2.2 (f x.1) := by
  induction code generalizing n s with
  | ret a => rfl
  | op op next ih =>
      simp only [op_bind, exec, ih, Option.bind_assoc]
  | give item refused ih => exact item.elim

def Op.Within (handle : Handle) : Op → Prop
  | .nvsGet h .. => h = handle
  | .nvsSet h .. => h = handle
  | _ => False

def Within (handle : Handle) : Nvs α → Prop
  | .ret _ => True
  | .op op next => op.Within handle ∧ ∀ a, Within handle (next a)
  | .give item _ => item.elim

/-- The handles that are opened between the states are closed again, each of them once, and no
other handle is used. -/
structure Balanced (s t : State) : Prop where
  handles : t.handles = s.handles
  closed : ∃ k, t.made = s.made + k ∧ t.closed = s.closed ++ List.range' s.made k
  misused : t.misused = s.misused

section Balance

variable {s t u : State} {w : Answers} {n m : Nat} {handle : Handle}

theorem Balanced.refl (s : State) : Balanced s s := ⟨rfl, ⟨0, by simp⟩, rfl⟩

theorem Balanced.trans (h : Balanced s t) (h' : Balanced t u) : Balanced s u := by
  obtain ⟨hhandles, ⟨k, hmade, hclosed⟩, hmisused⟩ := h
  obtain ⟨hhandles', ⟨l, hmade', hclosed'⟩, hmisused'⟩ := h'
  refine ⟨hhandles'.trans hhandles, ⟨k + l, ?_, ?_⟩, hmisused'.trans hmisused⟩
  · omega
  · rw [hclosed', hclosed, hmade, List.append_assoc, List.range'_append_1]

theorem Within.bind {code : Nvs α} {f : α → Nvs β} (h : Within handle code)
    (hf : ∀ a, Within handle (f a)) : Within handle (code >>= f) := by
  induction code with
  | ret a => exact hf a
  | op op next ih => exact ⟨h.1, fun a => ih a (h.2 a)⟩
  | give item refused ih => exact item.elim

theorem wtNvsGet_within {k : Nat} (handle : Handle) (key : UInt32) (data : Vector UInt8 k) :
    Within handle (wtNvsGet handle key data) := ⟨rfl, fun _ => trivial⟩

theorem wtNvsSet_within (handle : Handle) (key : UInt32) (data : List UInt8) :
    Within handle (wtNvsSet handle key data) := ⟨rfl, fun _ => trivial⟩

theorem Within.ite {c : Prop} [Decidable c] {code code' : Nvs α} (h : Within handle code)
    (h' : Within handle code') : Within handle (if c then code else code') := by
  split
  · exact h
  · exact h'

theorem saveBitmap_within (handle : Handle) (bitmap : UInt32) :
    Within handle (saveBitmap handle bitmap) :=
  .ite (.bind (wtNvsSet_within ..) fun _ => trivial) trivial

theorem saveLast_within (handle : Handle) (credential : Credential) :
    Within handle (saveLast handle credential) :=
  .bind (wtNvsGet_within ..) fun _ => .ite trivial (wtNvsSet_within ..)

theorem State.use_open (h : handle ∈ s.handles) : s.use handle = s := if_pos h

theorem exec_within {code : Nvs α} (h : Within handle code) (hopen : handle ∈ s.handles)
    (w : Answers) (n : Nat) : ∃ a m, exec w n s code = some (a, m, s) := by
  induction code generalizing n with
  | ret a => exact ⟨a, n, rfl⟩
  | op op next ih =>
      obtain ⟨hop, hnext⟩ := h
      cases op with
      | nvsGet k key kind size =>
          cases hop
          simp only [exec, answer, State.use_open hopen, Option.bind_some]
          exact ih _ (hnext _) _
      | nvsSet k key v =>
          cases hop
          simp only [exec, answer, State.use_open hopen, Option.bind_some]
          exact ih _ (hnext _) _
      | nvsOpen space => exact hop.elim
      | nvsCommit k => exact hop.elim
      | nvsClose k => exact hop.elim
  | give item refused ih => exact item.elim

theorem mem_openHandle (s : State) : s.made ∈ s.openHandle.handles := List.mem_cons_self

theorem openHandle_close (s : State) : Balanced s (s.openHandle.closeHandle s.made) :=
  ⟨List.erase_cons_head _ _, ⟨1, rfl, rfl⟩, rfl⟩

theorem exec_close (w : Answers) (n : Nat) (hopen : handle ∈ s.handles) :
    exec w n s (wtNvsClose handle) =
      if (w n).err = 0 then some ((), n + 2, s.closeHandle handle) else none := by
  rw [wtNvsClose, exec_bind]
  show (exec w n s (.op (.nvsCommit handle) .ret)).bind _ = _
  rw [exec, answer]
  split
  · rw [State.use_open hopen]
    show exec w (n + 1) s (.op (.nvsClose handle) .ret) = _
    rw [exec, answer, State.use_open hopen]
    rfl
  · rfl

theorem exec_open (w : Answers) (n : Nat) (s : State) (space : String) :
    exec w n s (wtNvsOpen space) =
      if (w n).err = 0 then some ((0, s.made), n + 1, s.openHandle)
      else some (((w n).err, 0), n + 1, s) := by
  show exec w n s (.op (.nvsOpen space) .ret) = _
  rw [exec, answer]
  split <;> rfl

theorem exec_opened {refused : Int → α} {body : Handle → Nvs α}
    (hbody : ∀ handle, Within handle (body handle)) {a : α}
    (h : exec w n s (opened refused body) = some (a, m, t)) : Balanced s t := by
  rw [opened, exec_bind, exec_open] at h
  by_cases hopen : (w n).err = 0
  · obtain ⟨b, k, hexec⟩ := exec_within (hbody s.made) (mem_openHandle s) w (n + 1)
    rw [if_pos hopen] at h
    simp only [Option.bind_some, ne_eq, not_true_eq_false, if_false, exec_bind, hexec,
      exec_close w k (mem_openHandle s)] at h
    split at h
    · cases h
      exact openHandle_close s
    · cases h
  · rw [if_neg hopen] at h
    simp only [Option.bind_some, ne_eq, hopen, not_false_eq_true, if_true] at h
    cases h
    exact .refl s

theorem exec_wtNvsGet {k : Nat} (key : UInt32) (data : Vector UInt8 k) (w : Answers) (n : Nat)
    (hopen : handle ∈ s.handles) : ∃ data', exec w n s (wtNvsGet handle key data) =
      some (((w n).err, data'), n + 1, s) := by
  refine ⟨if (w n).err = 0 then fill data (w n).data else data, ?_⟩
  show (answer (w n) s (.nvsGet handle (keyName key) (kindOf k) k)).bind _ = _
  rw [answer, State.use_open hopen]
  rfl

theorem exec_wtNvsSet (key : UInt32) (data : List UInt8) (w : Answers) (n : Nat)
    (hopen : handle ∈ s.handles) :
    exec w n s (wtNvsSet handle key data) = some ((w n).err, n + 1, s) := by
  show (answer (w n) s (.nvsSet handle (keyName key) (valueOf data))).bind _ = _
  rw [answer, State.use_open hopen]
  rfl

def Fails (w : Answers) : Prop := (w 0).err = 0 ∧ (w 1).err ≠ 0

theorem exec_getOnce {k : Nat} {data : Vector UInt8 k} {space : String} {key : UInt32}
    {a : Int × Vector UInt8 k} (h : exec w 0 s (wtNvsGetOnce space key data) = some (a, m, t)) :
    (Fails w → t = s.openHandle) ∧ (¬ Fails w → Balanced s t) := by
  have hmem := mem_openHandle s
  rw [wtNvsGetOnce, exec_bind, exec_open] at h
  by_cases hopen : (w 0).err = 0
  · obtain ⟨data', hget⟩ := exec_wtNvsGet key data w 1 hmem
    rw [if_pos hopen] at h
    simp only [Option.bind_some, ne_eq, not_true_eq_false, if_false, exec_bind, hget] at h
    by_cases herr : (w 1).err = 0
    · rw [if_neg (not_not.mpr herr)] at h
      simp only [exec_bind, exec_close w _ hmem] at h
      split at h
      · cases h
        exact ⟨fun hfails => absurd herr hfails.2, fun _ => openHandle_close s⟩
      · cases h
    · rw [if_pos herr] at h
      cases h
      exact ⟨fun _ => rfl, fun hfails => absurd ⟨hopen, herr⟩ hfails⟩
  · rw [if_neg hopen] at h
    simp only [Option.bind_some, ne_eq, hopen, not_false_eq_true, if_true] at h
    cases h
    exact ⟨fun hfails => absurd hfails.1 hopen, fun _ => .refl s⟩

theorem exec_setOnce {data : List UInt8} {space : String} {key : UInt32} {a : Int}
    (h : exec w 0 s (wtNvsSetOnce space key data) = some (a, m, t)) :
    (Fails w → t = s.openHandle) ∧ (¬ Fails w → Balanced s t) := by
  have hmem := mem_openHandle s
  rw [wtNvsSetOnce, exec_bind, exec_open] at h
  by_cases hopen : (w 0).err = 0
  · rw [if_pos hopen] at h
    simp only [Option.bind_some, ne_eq, not_true_eq_false, if_false, exec_bind,
      exec_wtNvsSet key data w 1 hmem] at h
    by_cases herr : (w 1).err = 0
    · rw [if_neg (not_not.mpr herr)] at h
      simp only [exec_bind, exec_close w _ hmem] at h
      split at h
      · cases h
        exact ⟨fun hfails => absurd herr hfails.2, fun _ => openHandle_close s⟩
      · cases h
    · rw [if_pos herr] at h
      cases h
      exact ⟨fun _ => rfl, fun hfails => absurd ⟨hopen, herr⟩ hfails⟩
  · rw [if_neg hopen] at h
    simp only [Option.bind_some, ne_eq, hopen, not_false_eq_true, if_true] at h
    cases h
    exact ⟨fun hfails => absurd hfails.1 hopen, fun _ => .refl s⟩

end Balance

inductive Call
  | getOnce {n : Nat} (space : String) (key : UInt32) (data : Vector UInt8 n)
  | setOnce (space : String) (key : UInt32) (data : List UInt8)
  | wifi (call : WifiStorage.Call)

def ignore (code : Nvs α) : Nvs Unit := do
  let _ ← code

def Call.code : Call → Nvs Unit
  | .getOnce space key data => ignore (wtNvsGetOnce space key data)
  | .setOnce space key data => ignore (wtNvsSetOnce space key data)
  | .wifi (.saveStaApCredential credential) => ignore (wifiDataSaveStaApCredential credential)
  | .wifi (.getStaLastConnCred old) => ignore (wifiDataGetStaLastConnCred old)
  | .wifi (.saveWifiMode mode) => ignore (wifiDataSaveWifiMode mode)
  | .wifi (.getWifiMode old) => ignore (wifiDataGetWifiMode old)
  | .wifi (.saveApCredential credential) => ignore (wifiDataSaveApCredential credential)
  | .wifi (.getApCredential old) => ignore (wifiDataGetApCredential old)
  | .wifi (.saveStatic info) => ignore (wifiDataSaveStatic info)
  | .wifi (.getStatic old) => ignore (wifiDataGetStatic old)

/-- A call with what the storage answers in it. -/
abbrev Action := Call × Answers

/-- The state when the call returns. -/
def step (s : State) (a : Action) : Option State := (exec a.2 0 s a.1.code).map fun x => x.2.2

def Action.Closes (_ : State) : Action → Prop
  | (.wifi _, _) => True
  | (_, w) => ¬ Fails w

section Calls

variable {s t : State} {w : Answers}

theorem exec_ignore {α : Type} {code : Nvs α} {x : Unit × Nat × State}
    (h : exec w 0 s (ignore code) = some x) : ∃ a m, exec w 0 s code = some (a, m, x.2.2) := by
  rw [ignore, exec_bind, Option.bind_eq_some_iff] at h
  obtain ⟨⟨a, m, t⟩, hexec, h⟩ := h
  cases h
  exact ⟨a, m, hexec⟩

theorem exec_wifi (call : WifiStorage.Call) {x : Unit × Nat × State}
    (h : exec w 0 s (Call.wifi call).code = some x) : Balanced s x.2.2 := by
  cases call with
  | saveStaApCredential credential =>
      obtain ⟨a, m, h⟩ := exec_ignore h
      refine exec_opened (fun handle => .bind (wtNvsGet_within ..) fun x => ?_) h
      refine .ite trivial ?_
      exact .bind (saveBitmap_within ..) fun _ => saveLast_within handle credential
  | getStaLastConnCred old =>
      obtain ⟨a, m, h⟩ := exec_ignore h
      refine exec_opened (fun handle => .bind (wtNvsGet_within ..) fun x => ?_) h
      exact .ite trivial (.ite trivial (wtNvsGet_within handle _ old))
  | saveWifiMode mode =>
      obtain ⟨a, m, h⟩ := exec_ignore h
      exact exec_opened (fun handle => wtNvsSet_within handle _ _) h
  | getWifiMode old =>
      obtain ⟨a, m, h⟩ := exec_ignore h
      exact exec_opened (fun handle => wtNvsGet_within handle _ old) h
  | saveApCredential credential =>
      obtain ⟨a, m, h⟩ := exec_ignore h
      exact exec_opened (fun handle => wtNvsSet_within handle _ _) h
  | getApCredential old =>
      obtain ⟨a, m, h⟩ := exec_ignore h
      exact exec_opened (fun handle => wtNvsGet_within handle _ old) h
  | saveStatic info =>
      obtain ⟨a, m, h⟩ := exec_ignore h
      exact exec_opened (fun handle => wtNvsSet_within handle _ _) h
  | getStatic old =>
      obtain ⟨a, m, h⟩ := exec_ignore h
      refine exec_opened (fun handle => .bind (wtNvsGet_within ..) fun x => ?_) h
      exact .ite trivial (.ite trivial trivial)

theorem step_closes {a : Action} (h : step s a = some t) :
    (a.Closes s → Balanced s t) ∧ (¬ a.Closes s → t.handles ≠ s.handles) := by
  obtain ⟨x, hexec, rfl⟩ := Option.map_eq_some_iff.mp h
  have hleft : s.openHandle.handles ≠ s.handles := List.cons_ne_self _ _
  obtain ⟨call, w⟩ := a
  cases call with
  | wifi call => exact ⟨fun _ => exec_wifi call hexec, fun hcloses => absurd trivial hcloses⟩
  | getOnce space key data =>
      obtain ⟨a, m, hexec⟩ := exec_ignore hexec
      obtain ⟨hfails, hcloses⟩ := exec_getOnce hexec
      exact ⟨hcloses, fun h => hfails (not_not.mp h) ▸ hleft⟩
  | setOnce space key data =>
      obtain ⟨a, m, hexec⟩ := exec_ignore hexec
      obtain ⟨hfails, hcloses⟩ := exec_setOnce hexec
      exact ⟨hcloses, fun h => hfails (not_not.mp h) ▸ hleft⟩

theorem always_balanced_iff {r : State} (h : Balanced r s) (as : List Action) :
    Transition.Always step (Balanced r) s as ↔
      Transition.Meets step (fun s a => a.Closes s) s as := by
  induction as generalizing s with
  | nil => exact ⟨fun _ => trivial, fun _ => h⟩
  | cons a as ih =>
      rw [Transition.Always, Transition.Meets, and_iff_right h]
      cases hstep : step s a with
      | none => exact Iff.rfl
      | some t =>
          obtain ⟨hcloses, hleft⟩ := step_closes hstep
          dsimp only
          by_cases hclose : a.Closes s
          · rw [ih (h.trans (hcloses hclose)), and_iff_right hclose]
          · refine ⟨fun halways => ?_, fun hmeets => absurd hmeets.1 hclose⟩
            exact absurd (halways.head.handles.trans h.handles.symm) (hleft hclose)

end Calls

/-- In every run of calls, each handle that is opened is closed again, once, before the call
returns, and none is used after that, exactly when no `wt_nvs_get_once` fails to read and no
`wt_nvs_set_once` fails to write. -/
theorem balanced_iff (s : State) (as : List Action) :
    Transition.Always step (Balanced s) s as ↔
      Transition.Meets step (fun s a => a.Closes s) s as := always_balanced_iff (.refl s) as

def boot : State := ⟨[], 0, [], false, fun _ h => absurd h List.not_mem_nil⟩

def noName : List Action :=
  [(.getOnce "net" 0x80 (Vector.replicate 32 0),
    fun n => if n = 1 then ⟨ESP_ERR_NVS_NOT_FOUND, []⟩ else ⟨0, []⟩)]

theorem not_balanced_noName : ¬ Transition.Always step (Balanced boot) boot noName := by
  intro h
  have hrun : Transition.run step boot noName = some boot.openHandle := rfl
  have hhandles := (h.of_run hrun).handles
  cases hhandles

end WirelessEsp.NvsHandles
