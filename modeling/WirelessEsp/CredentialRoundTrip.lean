import WirelessEsp.Transition
import WirelessEsp.WifiStorage

namespace WirelessEsp.WifiStorage

open LeWords Transition
open Function (update)

def remember (last : Option Credential) (e : Entries) : Action → Option Credential
  | (.saveStaApCredential credential, o) =>
      if ((wifiDataSaveStaApCredential o credential).run (start e)).1 = 0 then some credential
      else none
  | _ => last

abbrev History := Entries × Option Credential

def historyStep : History → Action → Option History := observe step remember

def erased : History := (fun _ _ => none, none)

/-- A save fails only when an open or a write of the storage fails; after a save that returned 0
the credential is there, and until the next save every get yields it. -/
def RoundTrip (x : History) : Action → Prop
  | (.saveStaApCredential credential, o) =>
      let r := (wifiDataSaveStaApCredential o credential).run (start x.1)
      (r.1 ≠ 0 → r.2.failed = true) ∧
      (r.1 = 0 → ∀ o' old, o'.opens = 0 →
        ((wifiDataGetStaLastConnCred o' old).run (start r.2.entries)).1 = (0, credential))
  | (.getStaLastConnCred old, o) => ∀ credential, x.2 = some credential →
      ((wifiDataGetStaLastConnCred o old).run (start x.1)).1 = (0, credential)
  | _ => True

def stored (e : Entries) (key : UInt32) : Option Value := e WIFI_NVS_NAMESPACE (keyName key)

def BitmapFails (e : Entries) (o : Outcome) : Prop :=
  stored e KEY_WIFI_STA_AP_BITMAP = none ∧ o.writes (keyName KEY_WIFI_STA_AP_BITMAP) ≠ 0

/-- A credential is stored, and the storage reports that it is no 32-bit integer. -/
def ProbeFails (e : Entries) (o : Outcome) : Prop :=
  stored e KEY_WIFI_STA_LAST_AP_CRED ≠ none ∧
    o.tellsType (keyName KEY_WIFI_STA_LAST_AP_CRED) = true

instance (e : Entries) (o : Outcome) : Decidable (BitmapFails e o) :=
  inferInstanceAs (Decidable (stored e KEY_WIFI_STA_AP_BITMAP = none ∧
    o.writes (keyName KEY_WIFI_STA_AP_BITMAP) ≠ 0))

instance (e : Entries) (o : Outcome) : Decidable (ProbeFails e o) :=
  inferInstanceAs (Decidable (stored e KEY_WIFI_STA_LAST_AP_CRED ≠ none ∧
    o.tellsType (keyName KEY_WIFI_STA_LAST_AP_CRED) = true))

/-- A save whose open succeeds neither goes wrong at the probing get, unless the write of the
bitmap failed before, nor writes the credential after the write of the bitmap failed; and a get
after a save that returned 0 can open the storage. -/
def Stable (x : History) : Action → Prop
  | (.saveStaApCredential _, o) => o.opens = 0 →
      (ProbeFails x.1 o → BitmapFails x.1 o) ∧
      (¬ ProbeFails x.1 o → BitmapFails x.1 o → o.writes (keyName KEY_WIFI_STA_LAST_AP_CRED) ≠ 0)
  | (.getStaLastConnCred _, o) => x.2 ≠ none → o.opens = 0
  | _ => True

/-- The entries hold no other bitmap than 1 and no other data than credentials. -/
structure Shaped (e : Entries) : Prop where
  bitmap : stored e KEY_WIFI_STA_AP_BITMAP = none ∨
    stored e KEY_WIFI_STA_AP_BITMAP = some (valueOf (wordBytes 1))
  last : stored e KEY_WIFI_STA_LAST_AP_CRED = none ∨
    ∃ c : Credential, stored e KEY_WIFI_STA_LAST_AP_CRED = some (valueOf c.toList)

structure Holds (e : Entries) (c : Credential) : Prop where
  bitmap : stored e KEY_WIFI_STA_AP_BITMAP = some (valueOf (wordBytes 1))
  last : stored e KEY_WIFI_STA_LAST_AP_CRED = some (valueOf c.toList)

theorem nvsGet_run (o : Outcome) (space : String) (key : Key) (kind : Kind) (size : Nat) (s : Nvs) :
    (nvsGet o space key kind size).run s =
      (readEntry o key kind size (s.entries space key), s) := rfl

theorem nvsOpen_run (o : Outcome) (s : Nvs) :
    (nvsOpen o).run s = (o.opens, if o.opens ≠ 0 then { s with failed := true } else s) := by
  unfold nvsOpen
  split <;> rfl

theorem nvsSet_run (o : Outcome) (space : String) (key : Key) (v : Value) (s : Nvs) :
    (nvsSet o space key v).run s = (o.writes key, if o.writes key ≠ 0 then { s with failed := true }
      else { s with entries := update s.entries space (update (s.entries space) key (some v)) }) := by
  unfold nvsSet
  split <;> rfl

theorem wtNvsGet_run (o : Outcome) (key : UInt32) {size : Nat} (hsize : size ≠ 0) (s : Nvs) :
    (wtNvsGet o WIFI_NVS_NAMESPACE key size).run s =
      (readEntry o (keyName key) (kindOf size) size (stored s.entries key), s) := by
  simp only [wtNvsGet, hsize, if_false, bind_pure, nvsGet_run]
  rfl

theorem stored_update (e : Entries) (key key' : UInt32) (v : Option Value) :
    stored (update e WIFI_NVS_NAMESPACE (update (e WIFI_NVS_NAMESPACE) (keyName key) v)) key' =
      if keyName key' = keyName key then v else stored e key' := by
  simp only [stored, Function.update_self, Function.update_apply]

theorem valueOf_credential (c : Credential) :
    (valueOf c.toList).kind = .blob ∧ (valueOf c.toList).data = c.toList := by
  have hlen : c.toList.length = 96 := Vector.length_toList
  constructor
  · show kindOf c.toList.length = .blob
    rw [hlen]
    rfl
  · exact if_neg (by rw [hlen]; decide)

theorem fill_toList {n : Nat} (old c : Vector UInt8 n) : fill old c.toList = c := by
  ext i hi
  simp [fill, List.getD_eq_getElem?_getD]

theorem readBitmap (o : Outcome) : readEntry o (keyName KEY_WIFI_STA_AP_BITMAP) (kindOf 4) 4
    (some (valueOf (wordBytes 1))) = .ok [1, 0, 0, 0] := by
  rfl

theorem readLast (o : Outcome) (c : Credential) :
    readEntry o (keyName KEY_WIFI_STA_LAST_AP_CRED) (kindOf 96) 96 (some (valueOf c.toList)) =
      .ok c.toList := by
  obtain ⟨hkind, hdata⟩ := valueOf_credential c
  rw [readEntry, hkind, hdata]
  simp [kindOf]

theorem probeLast {e : Entries} (h : Shaped e) (o : Outcome) :
    readEntry o (keyName KEY_WIFI_STA_LAST_AP_CRED) (kindOf 4) 4
        (stored e KEY_WIFI_STA_LAST_AP_CRED) =
      .error (if stored e KEY_WIFI_STA_LAST_AP_CRED ≠ none ∧
        o.tellsType (keyName KEY_WIFI_STA_LAST_AP_CRED) = true
        then ESP_ERR_NVS_TYPE_MISMATCH else ESP_ERR_NVS_NOT_FOUND) := by
  rcases h.last with hlast | ⟨c, hlast⟩
  · rw [hlast]
    rfl
  · rw [hlast, readEntry, (valueOf_credential c).1]
    simp [kindOf]

@[simp]
theorem run_bind {α β : Type} (x : NvsM α) (f : α → NvsM β) (s : Nvs) :
    (x >>= f).run s = (f (x.run s).1).run (x.run s).2 := rfl

@[simp]
theorem run_pure {α : Type} (a : α) (s : Nvs) : (pure a : NvsM α).run s = (a, s) := rfl

theorem getLast_run {e : Entries} {c : Credential} (h : Holds e c) {o : Outcome} (ho : o.opens = 0)
    (old : Credential) : (wifiDataGetStaLastConnCred o old).run (start e) = ((0, c), start e) := by
  have hone : bytesWord [1, 0, 0, 0] ≠ 0 := by decide
  simp only [wifiDataGetStaLastConnCred, run_bind, nvsOpen_run, ho, ne_eq, not_true_eq_false,
    if_false, wtNvsGet_run, OfNat.ofNat_ne_zero, not_false_eq_true, start, h.bitmap, readBitmap, hone,
    h.last, readLast, fill_toList, run_pure, ESP_OK]

theorem getLast_closed {o : Outcome} (ho : o.opens ≠ 0) (e : Entries) (old : Credential) :
    ((wifiDataGetStaLastConnCred o old).run (start e)).1.1 ≠ 0 := by
  simp only [wifiDataGetStaLastConnCred, run_bind, nvsOpen_run, ho, ne_eq, not_false_eq_true,
    if_true, run_pure]

theorem getLast_missing {e : Entries} (h : stored e KEY_WIFI_STA_AP_BITMAP = none) (o : Outcome)
    (old : Credential) : ((wifiDataGetStaLastConnCred o old).run (start e)).1.1 ≠ 0 := by
  by_cases ho : o.opens = 0
  · simp only [wifiDataGetStaLastConnCred, run_bind, nvsOpen_run, ho, ne_eq, not_true_eq_false,
      if_false, wtNvsGet_run, OfNat.ofNat_ne_zero, not_false_eq_true, start, h, readEntry, run_pure]
    decide
  · exact getLast_closed ho e old

def put (e : Entries) (key : UInt32) (data : List UInt8) : Entries :=
  update e WIFI_NVS_NAMESPACE (update (e WIFI_NVS_NAMESPACE) (keyName key) (some (valueOf data)))

theorem wtNvsSet_run (o : Outcome) (key : UInt32) (data : List UInt8) (s : Nvs) :
    (wtNvsSet o WIFI_NVS_NAMESPACE key data).run s = (o.writes (keyName key),
      if o.writes (keyName key) ≠ 0 then { s with failed := true }
      else { s with entries := put s.entries key data }) :=
  nvsSet_run _ _ _ _ _

theorem stored_put (e : Entries) (key key' : UInt32) (data : List UInt8) :
    stored (put e key data) key' =
      if keyName key' = keyName key then some (valueOf data) else stored e key' :=
  stored_update e key key' _

def afterBitmap (o : Outcome) (e : Entries) : Nvs :=
  if stored e KEY_WIFI_STA_AP_BITMAP = none then
    if o.writes (keyName KEY_WIFI_STA_AP_BITMAP) ≠ 0 then ⟨e, true⟩
    else start (put e KEY_WIFI_STA_AP_BITMAP (wordBytes 1))
  else start e

def afterLast (o : Outcome) (c : Credential) (s : Nvs) : Nvs :=
  if o.writes (keyName KEY_WIFI_STA_LAST_AP_CRED) ≠ 0 then { s with failed := true }
  else { s with entries := put s.entries KEY_WIFI_STA_LAST_AP_CRED c.toList }

theorem afterBitmap_last (o : Outcome) (e : Entries) :
    stored (afterBitmap o e).entries KEY_WIFI_STA_LAST_AP_CRED =
      stored e KEY_WIFI_STA_LAST_AP_CRED := by
  rw [afterBitmap]
  split
  · split
    · rfl
    · exact stored_put ..
  · rfl

theorem afterBitmap_shaped {e : Entries} (h : Shaped e) (o : Outcome) :
    Shaped (afterBitmap o e).entries := by
  refine ⟨?_, by rw [afterBitmap_last]; exact h.last⟩
  rw [afterBitmap]
  split
  · split
    · exact h.bitmap
    · exact .inr (stored_put ..)
  · exact h.bitmap

theorem saveLast_run {s : Nvs} (h : Shaped s.entries) (o : Outcome) (c : Credential) :
    (saveLast o c).run s = if ProbeFails s.entries o then (ESP_ERR_NVS_TYPE_MISMATCH, s)
      else (o.writes (keyName KEY_WIFI_STA_LAST_AP_CRED), afterLast o c s) := by
  rw [saveLast, run_bind, wtNvsGet_run _ _ (by decide), probeLast h]
  by_cases hp : ProbeFails s.entries o
  · have hp' : stored s.entries KEY_WIFI_STA_LAST_AP_CRED ≠ none ∧
      o.tellsType (keyName KEY_WIFI_STA_LAST_AP_CRED) = true := hp
    rw [if_pos hp', if_pos hp]
    rfl
  · have hp' : ¬ (stored s.entries KEY_WIFI_STA_LAST_AP_CRED ≠ none ∧
      o.tellsType (keyName KEY_WIFI_STA_LAST_AP_CRED) = true) := hp
    rw [if_neg hp', if_neg hp]
    exact wtNvsSet_run ..

theorem saveBitmap_run (o : Outcome) (e : Entries) :
    (if stored e KEY_WIFI_STA_AP_BITMAP = none then saveBitmap o 0 else pure ()).run (start e) =
      ((), afterBitmap o e) := by
  rw [afterBitmap]
  split
  · rw [saveBitmap, if_pos rfl, run_bind, wtNvsSet_run, run_pure]
    rfl
  · rfl

theorem save_run {e : Entries} (h : Shaped e) (o : Outcome) (c : Credential) :
    (wifiDataSaveStaApCredential o c).run (start e) =
      if o.opens ≠ 0 then (o.opens, ⟨e, true⟩)
      else if ProbeFails e o then (ESP_ERR_NVS_TYPE_MISMATCH, afterBitmap o e)
      else (o.writes (keyName KEY_WIFI_STA_LAST_AP_CRED), afterLast o c (afterBitmap o e)) := by
  have hprobe : ProbeFails (afterBitmap o e).entries o = ProbeFails e o := by
    rw [ProbeFails, afterBitmap_last]
    rfl
  have hlast := saveLast_run (afterBitmap_shaped h o) o c
  simp only [hprobe] at hlast
  rw [wifiDataSaveStaApCredential, run_bind, nvsOpen_run]
  by_cases ho : o.opens = 0
  · rw [if_neg (not_not.mpr ho), if_neg (not_not.mpr ho)]
    dsimp only
    rw [if_neg (not_not.mpr ho), run_bind, wtNvsGet_run _ _ (by decide), ← hlast]
    have hbitmap := saveBitmap_run o e
    rcases h.bitmap with hb | hb
    · rw [if_pos hb] at hbitmap
      simp only [start, hb, readEntry, ne_eq, not_true_eq_false, if_false, run_bind]
      rw [← start, hbitmap]
    · have hone : saveBitmap o (bytesWord [1, 0, 0, 0]) = pure () := rfl
      rw [if_neg (by rw [hb]; exact Option.some_ne_none _)] at hbitmap
      simp only [start, hb, readBitmap, run_bind, hone]
      rw [← start, hbitmap]
  · rw [if_pos ho, if_pos ho]
    dsimp only
    rw [if_pos ho]
    rfl

theorem afterBitmap_failed (o : Outcome) (e : Entries) :
    (afterBitmap o e).failed = true ↔ BitmapFails e o := by
  rw [afterBitmap, BitmapFails]
  by_cases hb : stored e KEY_WIFI_STA_AP_BITMAP = none
  · by_cases ho : o.writes (keyName KEY_WIFI_STA_AP_BITMAP) = 0
    · simp [hb, ho, start]
    · simp [hb, ho]
  · simp [hb, start]

theorem afterBitmap_stored {o : Outcome} {e : Entries} (h : Shaped e) :
    stored (afterBitmap o e).entries KEY_WIFI_STA_AP_BITMAP =
      if BitmapFails e o then none else some (valueOf (wordBytes 1)) := by
  rw [afterBitmap]
  rcases h.bitmap with hb | hb
  · rw [if_pos hb]
    by_cases ho : o.writes (keyName KEY_WIFI_STA_AP_BITMAP) = 0
    · rw [if_neg (not_not.mpr ho), if_neg fun hf => hf.2 ho]
      exact (stored_put ..).trans (if_pos rfl)
    · rw [if_pos ho, if_pos ⟨hb, ho⟩]
      exact hb
  · have hsome : stored e KEY_WIFI_STA_AP_BITMAP ≠ none := by
      rw [hb]
      exact Option.some_ne_none _
    rw [if_neg hsome, if_neg fun hf => hsome hf.1]
    exact hb

theorem afterLast_bitmap (o : Outcome) (c : Credential) (s : Nvs) :
    stored (afterLast o c s).entries KEY_WIFI_STA_AP_BITMAP =
      stored s.entries KEY_WIFI_STA_AP_BITMAP := by
  rw [afterLast]
  split
  · rfl
  · exact stored_put ..

theorem afterLast_last {o : Outcome} (ho : o.writes (keyName KEY_WIFI_STA_LAST_AP_CRED) = 0)
    (c : Credential) (s : Nvs) : stored (afterLast o c s).entries KEY_WIFI_STA_LAST_AP_CRED =
      some (valueOf c.toList) := by
  rw [afterLast, if_neg (not_not.mpr ho)]
  exact (stored_put ..).trans (if_pos rfl)

theorem afterLast_shaped {s : Nvs} (h : Shaped s.entries) (o : Outcome) (c : Credential) :
    Shaped (afterLast o c s).entries := by
  refine ⟨by rw [afterLast_bitmap]; exact h.bitmap, ?_⟩
  by_cases ho : o.writes (keyName KEY_WIFI_STA_LAST_AP_CRED) = 0
  · exact .inr ⟨c, afterLast_last ho c s⟩
  · rw [afterLast, if_pos ho]
    exact h.last

theorem save_shaped {e : Entries} (h : Shaped e) (o : Outcome) (c : Credential) :
    Shaped ((wifiDataSaveStaApCredential o c).run (start e)).2.entries := by
  rw [save_run h]
  split
  · exact h
  · split
    · exact afterBitmap_shaped h o
    · exact afterLast_shaped (afterBitmap_shaped h o) o c

theorem save_holds {e : Entries} (h : Shaped e) {o : Outcome} (c : Credential)
    (ho : o.writes (keyName KEY_WIFI_STA_LAST_AP_CRED) = 0) (hb : ¬ BitmapFails e o) :
    Holds (afterLast o c (afterBitmap o e)).entries c := by
  refine ⟨?_, afterLast_last ho c _⟩
  rw [afterLast_bitmap, afterBitmap_stored h, if_neg hb]

theorem save_roundTrip_iff {x : History} (h : Shaped x.1) (o : Outcome) (c : Credential) :
    RoundTrip x (.saveStaApCredential c, o) ↔ Stable x (.saveStaApCredential c, o) := by
  simp only [RoundTrip, Stable, save_run h]
  by_cases ho : o.opens = 0
  · rw [if_neg (not_not.mpr ho)]
    by_cases hp : ProbeFails x.1 o
    · have herr : ESP_ERR_NVS_TYPE_MISMATCH ≠ 0 := by decide
      simp only [hp, if_true, herr, ne_eq, not_false_eq_true, true_implies, afterBitmap_failed, ho,
        false_implies, not_true_eq_false, and_true]
    · rw [if_neg hp]
      simp only [hp, false_implies, not_false_eq_true, true_implies, true_and, ho]
      by_cases hw : o.writes (keyName KEY_WIFI_STA_LAST_AP_CRED) = 0
      · simp only [hw, ne_eq, not_true_eq_false, false_implies, true_and, true_implies]
        constructor
        · intro hget hb
          have hmissing : stored (afterLast o c (afterBitmap o x.1)).entries
              KEY_WIFI_STA_AP_BITMAP = none := by
            rw [afterLast_bitmap, afterBitmap_stored h, if_pos hb]
          have hnone := getLast_missing hmissing ⟨0, fun _ => 0, fun _ => false⟩ c
          rw [hget _ c rfl] at hnone
          exact hnone rfl
        · intro hb o' old ho'
          rw [getLast_run (save_holds h c hw hb) ho']
      · have hfailed : (afterLast o c (afterBitmap o x.1)).failed = true := by
          rw [afterLast, if_pos hw]
        simp only [hw, hfailed, ne_eq, not_false_eq_true, implies_true, false_implies, and_self]
  · simp only [ho, ne_eq, not_false_eq_true, if_true, implies_true, false_implies, and_self]

def Keeps {α : Type} (x : NvsM α) : Prop := ∀ e key,
  key = KEY_WIFI_STA_AP_BITMAP ∨ key = KEY_WIFI_STA_LAST_AP_CRED →
    stored (x.run (start e)).2.entries key = stored e key

theorem saveValue_keeps (o : Outcome) {key : UInt32} (data : List UInt8)
    (hbitmap : keyName KEY_WIFI_STA_AP_BITMAP ≠ keyName key)
    (hlast : keyName KEY_WIFI_STA_LAST_AP_CRED ≠ keyName key) : Keeps (saveValue o key data) := by
  intro e key' hkey
  rw [saveValue, run_bind, nvsOpen_run]
  by_cases ho : o.opens = 0
  · simp only [ho, ne_eq, not_true_eq_false, if_false, wtNvsSet_run]
    split
    · rfl
    · rw [stored_put, if_neg]
      · rfl
      · rcases hkey with rfl | rfl
        · exact hbitmap
        · exact hlast
  · simp only [ho, ne_eq, not_false_eq_true, if_true, run_pure, start]

theorem open_entries (o : Outcome) (s : Nvs) : ((nvsOpen o).run s).2.entries = s.entries := by
  rw [nvsOpen_run]
  split <;> rfl

theorem wtNvsGet_state (o : Outcome) (space : String) (key : UInt32) (size : Nat) (s : Nvs) :
    ((wtNvsGet o space key size).run s).2 = s := rfl

theorem getValue_entries {n : Nat} (o : Outcome) (key : UInt32) (old : Vector UInt8 n) (s : Nvs) :
    ((getValue o key old).run s).2.entries = s.entries := by
  rw [getValue, run_bind]
  split
  · exact open_entries o s
  · rw [run_bind, wtNvsGet_state]
    split <;> exact open_entries o s

theorem getLast_entries (o : Outcome) (old : Credential) (s : Nvs) :
    ((wifiDataGetStaLastConnCred o old).run s).2.entries = s.entries := by
  rw [wifiDataGetStaLastConnCred, run_bind]
  split
  · exact open_entries o s
  · rw [run_bind, wtNvsGet_state]
    split
    · exact open_entries o s
    · split
      · exact open_entries o s
      · rw [run_bind, wtNvsGet_state]
        split <;> exact open_entries o s

theorem getStatic_entries (o : Outcome) (old : StaticInfo) (s : Nvs) :
    ((wifiDataGetStatic o old).run s).2.entries = s.entries := by
  rw [wifiDataGetStatic, run_bind]
  dsimp only
  split
  · exact getValue_entries ..
  · split
    · exact getValue_entries ..
    · split <;> exact getValue_entries ..

theorem perform_keeps {call : Call} (h : ∀ c, call ≠ .saveStaApCredential c) (o : Outcome) :
    Keeps (call.perform o) := by
  intro e key hkey
  cases call with
  | saveStaApCredential c => exact absurd rfl (h c)
  | getStaLastConnCred old => exact congrArg (stored · key) (getLast_entries o old (start e))
  | saveWifiMode mode => exact saveValue_keeps o _ (by decide) (by decide) e key hkey
  | getWifiMode old => exact congrArg (stored · key) (getValue_entries o _ old (start e))
  | saveApCredential c => exact saveValue_keeps o _ (by decide) (by decide) e key hkey
  | getApCredential old => exact congrArg (stored · key) (getValue_entries o _ old (start e))
  | saveStatic info => exact saveValue_keeps o _ (by decide) (by decide) e key hkey
  | getStatic old => exact congrArg (stored · key) (getStatic_entries o old (start e))

structure Inv (x : History) : Prop where
  shaped : Shaped x.1
  holds : ∀ c, x.2 = some c → Holds x.1 c

theorem erased_inv : Inv erased := ⟨⟨.inl rfl, .inl rfl⟩, fun _ h => (by cases h)⟩

theorem roundTrip_iff {x : History} (h : Inv x) (a : Action) : RoundTrip x a ↔ Stable x a := by
  obtain ⟨call, o⟩ := a
  cases call with
  | saveStaApCredential c => exact save_roundTrip_iff h.shaped o c
  | getStaLastConnCred old =>
      simp only [RoundTrip, Stable]
      cases hx : x.2 with
      | none => simp
      | some c =>
          simp only [Option.some.injEq, forall_eq', ne_eq, reduceCtorEq, not_false_eq_true,
            true_implies]
          constructor
          · intro hget
            by_contra ho
            exact getLast_closed ho x.1 old (by rw [hget])
          · intro ho
            rw [getLast_run (h.holds c hx) ho]
  | saveWifiMode | getWifiMode | saveApCredential | getApCredential | saveStatic | getStatic =>
      exact Iff.rfl

theorem step_inv {x y : History} {a : Action} (h : Inv x) (ha : Stable x a)
    (hstep : historyStep x a = some y) : Inv y := by
  obtain ⟨hs, hlast⟩ := observe_some hstep
  have hentries : y.1 = ((a.1.perform a.2).run (start x.1)).2.entries := (Option.some.inj hs).symm
  obtain ⟨call, o⟩ := a
  by_cases hcall : ∃ c, call = .saveStaApCredential c
  · obtain ⟨c, rfl⟩ := hcall
    have hy : y.1 = ((wifiDataSaveStaApCredential o c).run (start x.1)).2.entries := hentries
    refine ⟨by rw [hy]; exact save_shaped h.shaped o c, ?_⟩
    intro c' hc'
    simp only [hlast, remember] at hc'
    split at hc'
    next hret =>
      cases hc'
      rw [save_run h.shaped] at hret hy
      by_cases ho : o.opens = 0
      · rw [if_neg (not_not.mpr ho)] at hret hy
        by_cases hp : ProbeFails x.1 o
        · rw [if_pos hp] at hret
          cases hret
        · rw [if_neg hp] at hret hy
          have hb : ¬ BitmapFails x.1 o := fun hb => (ha ho).2 hp hb hret
          rw [hy]
          exact save_holds h.shaped c hret hb
      · rw [if_pos ho] at hret
        exact absurd hret ho
    next => cases hc'
  · have hother : ∀ c, call ≠ .saveStaApCredential c := fun c hc => hcall ⟨c, hc⟩
    have hsame : y.2 = x.2 := by
      rw [hlast]
      cases call with
      | saveStaApCredential c => exact absurd rfl (hother c)
      | _ => rfl
    have hbitmap := perform_keeps hother o x.1 _ (.inl rfl)
    have hcred := perform_keeps hother o x.1 _ (.inr rfl)
    rw [← hentries] at hbitmap hcred
    refine ⟨⟨hbitmap ▸ h.shaped.bitmap, hcred ▸ h.shaped.last⟩, ?_⟩
    intro c hc
    have hold := h.holds c (hsame ▸ hc)
    exact ⟨hbitmap.trans hold.bitmap, hcred.trans hold.last⟩

theorem stable_of_roundTrips {as : List Action} (h : Meets historyStep RoundTrip erased as) :
    Meets historyStep Stable erased as := by
  apply meets_of_step (P := Inv) _ erased_inv h
  intro x a y hx ha hstep
  have hstable := (roundTrip_iff hx a).mp ha
  exact ⟨step_inv hx hstable hstep, hstable⟩

/-- In a history of calls from an erased storage, exactly the stable calls keep the round trip. -/
theorem roundTrips_iff (as : List Action) :
    Meets historyStep RoundTrip erased as ↔ Meets historyStep Stable erased as := by
  refine ⟨stable_of_roundTrips, ?_⟩
  apply meets_of_step (P := Inv) _ erased_inv
  intro x a y hx ha hstep
  exact ⟨step_inv hx ha hstep, (roundTrip_iff hx a).mpr ha⟩

def tellingOutcome : Outcome := ⟨0, fun _ => 0, fun _ => true⟩

/-- The second of two saves, in a storage that tells the type of an entry. -/
theorem not_roundTrips_twice : ¬ Meets historyStep RoundTrip erased
    [(.saveStaApCredential (.replicate 96 1), tellingOutcome),
      (.saveStaApCredential (.replicate 96 1), tellingOutcome)] := by
  intro h
  have hsecond := (stable_of_roundTrips h).2.1 rfl
  exact absurd (hsecond.1 ⟨by decide, rfl⟩).2 (by decide)

end WirelessEsp.WifiStorage
