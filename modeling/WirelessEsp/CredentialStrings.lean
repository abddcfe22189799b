import Mathlib.Data.List.GetD
import Mathlib.Tactic.ByContra
import Mathlib.Tactic.Tauto

namespace WirelessEsp.CredentialStrings

/-- A string of the C language: its characters, and what the memory has behind its terminator. -/
structure CString where
  chars : List UInt8
  nonzero : 0 ∉ chars
  behind : Nat → UInt8

def CString.byteAt (s : CString) (i : Nat) : UInt8 :=
  if i < s.chars.length then s.chars.getD i 0
  else if i = s.chars.length then 0
  else s.behind (i - s.chars.length - 1)

/-- The members of a request that are strings. -/
abbrev Request := String → Option CString

/-- The fields of `wifi_credential_t`, which the station configuration has too. -/
inductive Field
  | ssid
  | password
  deriving DecidableEq

def Field.name : Field → String
  | .ssid => "ssid"
  | .password => "password"

def Field.size : Field → Nat
  | .ssid => 32
  | .password => 64

/-- A read of a string of the request, or a write to a field of a credential. -/
inductive Access
  | read (field : Field) (i : Nat)
  | write (field : Field) (i : Nat)

abbrev Traced := StateM (List Access)

def reads (field : Field) (n : Nat) : List Access := (List.range n).map (.read field)

def writes (field : Field) (n : Nat) : List Access := (List.range n).map (.write field)

def memcpy (field : Field) (s : CString) (n : Nat) : Traced (List UInt8) := do
  modify fun log => log ++ reads field n ++ writes field n
  pure ((List.range n).map s.byteAt)

/-- The read stops at the terminator; the rest of the `n` bytes is filled with zeros. -/
def strncpy (field : Field) (dest : List UInt8) (s : CString) (n : Nat) : Traced (List UInt8) := do
  modify fun log => log ++ reads field (min n (s.chars.length + 1)) ++ writes field n
  pure ((List.range n).map (fun i => s.chars.getD i 0) ++ dest.drop n)

def terminate (field : Field) (dest : List UInt8) (i : Nat) : Traced (List UInt8) := do
  modify fun log => log ++ [.write field i]
  pure (dest.set i 0)

def wifiApiJsonGetCredential (root : Request) (ssid password : List UInt8) :
    Traced (Int × List UInt8 × List UInt8) :=
  match root "ssid", root "password" with
  | some jsonSsid, some jsonPassword => do
      let ssid ← strncpy .ssid ssid jsonSsid 31
      let password ← strncpy .password password jsonPassword 63
      let ssid ← terminate .ssid ssid 31
      let password ← terminate .password password 64
      pure (0, ssid, password)
  | _, _ => pure (1, ssid, password)

def setStaCred (ssid password : CString) : Traced (List UInt8 × List UInt8) := do
  let configSsid ← memcpy .ssid ssid 32
  let configPassword ← memcpy .password password 64
  pure (configSsid, configPassword)

/-- What a connect finds: the lock, the endless reconnection, and how the attempt ends. -/
structure Attempt where
  take : Bool
  isEndlessConnect : Bool
  notified : UInt32
  event : Bool

structure Connected where
  ret : Int
  config : Option (List UInt8 × List UInt8)
  saved : Option (List UInt8 × List UInt8)

def wifiManagerConnect (attempt : Attempt) (ssid password : CString) : Traced Connected :=
  if !attempt.take && !attempt.isEndlessConnect then
    pure { ret := 1, config := none, saved := none }
  else do
    let config ← setStaCred ssid password
    if attempt.notified = 0 ∨ !attempt.event then
      pure { ret := 1, config := some config, saved := none }
    else do
      let credentialSsid ← memcpy .ssid ssid 32
      let credentialPassword ← memcpy .password password 64
      pure { ret := 0, config := some config, saved := some (credentialSsid, credentialPassword) }

def wifiApiJsonConnect (attempt : Attempt) (root : Request) : Traced Connected :=
  match root "ssid", root "password" with
  | some ssid, some password => wifiManagerConnect attempt ssid password
  | _, _ => pure { ret := 1, config := none, saved := none }

/-- The end of a string in the field, which has the terminator behind it at the latest. -/
def strlen (field : List UInt8) : Nat := (field.takeWhile (· != 0)).length

def Inside (root : Request) : Access → Prop
  | .read field i => ∃ s, root field.name = some s ∧ i ≤ s.chars.length
  | .write field i => i < field.size

def SameStrings (root root' : Request) : Prop :=
  ∀ name, (root name).map CString.chars = (root' name).map CString.chars

inductive Call
  | getCredential (ssid : Vector UInt8 32) (password : Vector UInt8 64)
  | connect (attempt : Attempt)

/-- The accesses of a call are inside, a credential ends up terminated, and what a connect saves
depends only on the strings. -/
def Sound (root : Request) : Call → Prop
  | .getCredential ssid password =>
      let result := wifiApiJsonGetCredential root ssid.toList password.toList []
      (∀ a ∈ result.2, Inside root a) ∧
        (result.1.1 = 0 → 0 ∈ result.1.2.1 ∧ 0 ∈ result.1.2.2)
  | .connect attempt =>
      (∀ a ∈ (wifiApiJsonConnect attempt root []).2, Inside root a) ∧
        ∀ root', SameStrings root root' →
          (wifiApiJsonConnect attempt root' []).1.saved =
            (wifiApiJsonConnect attempt root []).1.saved

/-- A string is missing, or the strings are at least as long as what a connect copies. -/
def Fits (root : Request) : Call → Prop
  | .getCredential _ _ => root "ssid" = none ∨ root "password" = none
  | .connect attempt =>
      (attempt.take = false ∧ attempt.isEndlessConnect = false) ∨
        ∀ ssid password, root "ssid" = some ssid → root "password" = some password →
          31 ≤ ssid.chars.length ∧ 63 ≤ password.chars.length

variable {root root' : Request} {field : Field} {s : CString} {n : Nat}

theorem reads_inside_iff (hs : root field.name = some s) :
    (∀ a ∈ reads field n, Inside root a) ↔ n ≤ s.chars.length + 1 := by
  simp only [reads, List.forall_mem_map, List.mem_range]
  constructor
  · intro h
    by_contra hlong
    obtain ⟨t, ht, hle⟩ := h (s.chars.length + 1) (Nat.lt_of_not_le hlong)
    cases hs.symm.trans ht
    omega
  · intro h i hi
    exact ⟨s, hs, by omega⟩

theorem writes_inside (h : n ≤ field.size) : ∀ a ∈ writes field n, Inside root a := by
  simp only [writes, List.forall_mem_map, List.mem_range]
  intro i hi
  exact Nat.lt_of_lt_of_le hi h

theorem byteAt_congr {t : CString} (hchars : s.chars = t.chars) (h : n ≤ s.chars.length + 1) :
    (List.range n).map s.byteAt = (List.range n).map t.byteAt := by
  apply List.map_congr_left
  intro i hi
  have hi' := List.mem_range.mp hi
  simp only [CString.byteAt, ← hchars]
  by_cases hlt : i < s.chars.length
  · rw [if_pos hlt, if_pos hlt]
  · have heq : i = s.chars.length := by omega
    rw [if_neg hlt, if_neg hlt, if_pos heq, if_pos heq]

theorem memcpy_run (field : Field) (s : CString) (n : Nat) (log : List Access) :
    memcpy field s n log =
      ((List.range n).map s.byteAt, log ++ reads field n ++ writes field n) := rfl

def Attempt.Enters (attempt : Attempt) : Prop :=
  attempt.take = true ∨ attempt.isEndlessConnect = true

/-- What a connect that goes on has read and written: once for the configuration, and once more for
the credential when it succeeds. -/
def copyLog : List Access :=
  reads .ssid 32 ++ writes .ssid 32 ++ reads .password 64 ++ writes .password 64

theorem setStaCred_run (ssid password : CString) (log : List Access) :
    setStaCred ssid password log =
      (((List.range 32).map ssid.byteAt, (List.range 64).map password.byteAt), log ++ copyLog) := by
  simp only [setStaCred, bind, StateT.bind, memcpy_run, copyLog, List.append_assoc]
  rfl

variable {ssid password : CString}

theorem copyLog_inside_iff (hssid : root "ssid" = some ssid)
    (hpassword : root "password" = some password) :
    (∀ a ∈ copyLog, Inside root a) ↔ 31 ≤ ssid.chars.length ∧ 63 ≤ password.chars.length := by
  have hs : (∀ a ∈ reads .ssid 32, Inside root a) ↔ 32 ≤ ssid.chars.length + 1 :=
    reads_inside_iff hssid
  have hp : (∀ a ∈ reads .password 64, Inside root a) ↔ 64 ≤ password.chars.length + 1 :=
    reads_inside_iff hpassword
  have hws : ∀ a ∈ writes .ssid 32, Inside root a := writes_inside (Nat.le_refl _)
  have hwp : ∀ a ∈ writes .password 64, Inside root a := writes_inside (Nat.le_refl _)
  simp only [copyLog, List.forall_mem_append, hs, hp]
  constructor
  · rintro ⟨⟨⟨hssid, -⟩, hpassword⟩, -⟩
    omega
  · rintro ⟨hssid, hpassword⟩
    exact ⟨⟨⟨by omega, hws⟩, by omega⟩, hwp⟩

def copied (ssid password : CString) : List UInt8 × List UInt8 :=
  ((List.range 32).map ssid.byteAt, (List.range 64).map password.byteAt)

theorem wifiManagerConnect_refused {attempt : Attempt} (h : ¬ attempt.Enters) :
    wifiManagerConnect attempt ssid password [] = (⟨1, none, none⟩, []) := by
  simp only [Attempt.Enters, not_or, Bool.not_eq_true] at h
  rw [wifiManagerConnect, h.1, h.2]
  rfl

theorem wifiManagerConnect_enters {attempt : Attempt} (h : attempt.Enters) :
    (∀ a, a ∈ (wifiManagerConnect attempt ssid password []).2 ↔ a ∈ copyLog) ∧
      (wifiManagerConnect attempt ssid password []).1.saved =
        if attempt.notified = 0 ∨ !attempt.event then none else some (copied ssid password) := by
  have henters : (!attempt.take && !attempt.isEndlessConnect) = false := by
    rcases h with h | h <;> simp [h]
  simp only [wifiManagerConnect, henters, Bool.false_eq_true, if_false, bind, StateT.bind,
    setStaCred_run]
  by_cases hfails : attempt.notified = 0 ∨ !attempt.event
  · rw [if_pos hfails, if_pos hfails]
    exact ⟨fun a => Iff.rfl, rfl⟩
  · rw [if_neg hfails, if_neg hfails]
    refine ⟨fun a => ?_, rfl⟩
    change a ∈ copyLog ++ reads .ssid 32 ++ writes .ssid 32 ++ reads .password 64 ++
      writes .password 64 ↔ a ∈ copyLog
    simp only [copyLog, List.mem_append]
    tauto

def Complete (root : Request) : Prop := ¬ (root "ssid" = none ∨ root "password" = none)

theorem Complete.strings (h : Complete root) :
    ∃ ssid password, root "ssid" = some ssid ∧ root "password" = some password := by
  obtain ⟨hs, hp⟩ := not_or.mp h
  obtain ⟨ssid, hssid⟩ := Option.ne_none_iff_exists'.mp hs
  obtain ⟨password, hpassword⟩ := Option.ne_none_iff_exists'.mp hp
  exact ⟨ssid, password, hssid, hpassword⟩

theorem SameStrings.strings (h : SameStrings root root') {name : String} {s : CString}
    (hs : root name = some s) : ∃ t, root' name = some t ∧ s.chars = t.chars := by
  have hname := h name
  rw [hs, Option.map_some] at hname
  obtain ⟨t, ht, hchars⟩ := Option.map_eq_some_iff.mp hname.symm
  exact ⟨t, ht, hchars.symm⟩

theorem SameStrings.missing (h : SameStrings root root')
    (hmissing : root "ssid" = none ∨ root "password" = none) :
    root' "ssid" = none ∨ root' "password" = none := by
  refine hmissing.imp (fun hs => ?_) (fun hs => ?_)
  · have hname := h "ssid"
    rw [hs] at hname
    exact Option.map_eq_none_iff.mp hname.symm
  · have hname := h "password"
    rw [hs] at hname
    exact Option.map_eq_none_iff.mp hname.symm

variable {attempt : Attempt}

theorem wifiApiJsonConnect_strings (hssid : root "ssid" = some ssid)
    (hpassword : root "password" = some password) :
    wifiApiJsonConnect attempt root = wifiManagerConnect attempt ssid password := by
  rw [wifiApiJsonConnect, hssid, hpassword]

theorem wifiApiJsonConnect_missing (h : root "ssid" = none ∨ root "password" = none) :
    wifiApiJsonConnect attempt root [] = (⟨1, none, none⟩, []) := by
  rcases h with h | h
  · rw [wifiApiJsonConnect, h]; rfl
  · rw [wifiApiJsonConnect, h]
    cases root "ssid" <;> rfl

theorem connect_missing_sound (h : root "ssid" = none ∨ root "password" = none) :
    Sound root (.connect attempt) := by
  refine ⟨?_, fun root' hsame => ?_⟩
  · rw [wifiApiJsonConnect_missing h]
    exact fun a ha => absurd ha List.not_mem_nil
  · rw [wifiApiJsonConnect_missing h, wifiApiJsonConnect_missing (hsame.missing h)]

theorem connect_refused_sound (h : Complete root) (hrefused : ¬ attempt.Enters) :
    Sound root (.connect attempt) := by
  obtain ⟨ssid, password, hssid, hpassword⟩ := h.strings
  refine ⟨?_, fun root' hsame => ?_⟩
  · rw [wifiApiJsonConnect_strings hssid hpassword, wifiManagerConnect_refused hrefused]
    exact fun a ha => absurd ha List.not_mem_nil
  · obtain ⟨ssid', hssid', -⟩ := hsame.strings hssid
    obtain ⟨password', hpassword', -⟩ := hsame.strings hpassword
    rw [wifiApiJsonConnect_strings hssid hpassword, wifiApiJsonConnect_strings hssid' hpassword',
      wifiManagerConnect_refused hrefused, wifiManagerConnect_refused hrefused]

/-- A connect that goes on stays inside the strings exactly when both are long enough, and then
the memory behind them does not matter. -/
theorem connect_enters_sound_iff (henters : attempt.Enters) (hssid : root "ssid" = some ssid)
    (hpassword : root "password" = some password) :
    Sound root (.connect attempt) ↔ 31 ≤ ssid.chars.length ∧ 63 ≤ password.chars.length := by
  obtain ⟨hlog, hsaved⟩ :=
    @wifiManagerConnect_enters ssid password attempt henters
  have hinside : (∀ a ∈ (wifiApiJsonConnect attempt root []).2, Inside root a) ↔
      31 ≤ ssid.chars.length ∧ 63 ≤ password.chars.length := by
    rw [wifiApiJsonConnect_strings hssid hpassword, ← copyLog_inside_iff hssid hpassword]
    exact forall_congr' fun a => imp_congr_left (hlog a)
  constructor
  · intro h
    exact hinside.mp h.1
  · intro h
    refine ⟨hinside.mpr h, fun root' hsame => ?_⟩
    obtain ⟨ssid', hssid', hs⟩ := hsame.strings hssid
    obtain ⟨password', hpassword', hp⟩ := hsame.strings hpassword
    have hcopied : copied ssid' password' = copied ssid password :=
      Prod.ext (byteAt_congr hs (by omega)).symm (byteAt_congr hp (by omega)).symm
    rw [wifiApiJsonConnect_strings hssid hpassword, wifiApiJsonConnect_strings hssid' hpassword',
      hsaved, (@wifiManagerConnect_enters ssid' password' attempt henters).2, hcopied]

theorem connect_sound_iff (attempt : Attempt) (root : Request) :
    Sound root (.connect attempt) ↔ Fits root (.connect attempt) := by
  by_cases hmissing : root "ssid" = none ∨ root "password" = none
  · refine iff_of_true (connect_missing_sound hmissing) (.inr fun ssid password hs hp => ?_)
    rcases hmissing with h | h
    · exact absurd (hs.symm.trans h) (Option.some_ne_none _)
    · exact absurd (hp.symm.trans h) (Option.some_ne_none _)
  · by_cases henters : attempt.Enters
    · obtain ⟨ssid, password, hssid, hpassword⟩ := Complete.strings hmissing
      have hrefused : ¬ (attempt.take = false ∧ attempt.isEndlessConnect = false) := by
        rintro ⟨ht, he⟩
        rcases henters with h | h
        · exact absurd (h.symm.trans ht) (by decide)
        · exact absurd (h.symm.trans he) (by decide)
      rw [connect_enters_sound_iff henters hssid hpassword, Fits, or_iff_right hrefused]
      constructor
      · rintro h s p hs hp
        cases hssid.symm.trans hs
        cases hpassword.symm.trans hp
        exact h
      · exact fun h => h ssid password hssid hpassword
    · refine iff_of_true (connect_refused_sound hmissing henters) (.inl ?_)
      simpa only [Attempt.Enters, not_or, Bool.not_eq_true] using henters

/-- The first `n` bytes of the string, filled up with zeros. -/
def cut (s : CString) (n : Nat) : List UInt8 := (List.range n).map fun i => s.chars.getD i 0

theorem set_last {xs rest : List UInt8} {n : Nat} {old v : UInt8} (hn : n = xs.length) :
    (xs ++ old :: rest).set n v = xs ++ v :: rest := by
  rw [hn, List.set_append_right _ _ (Nat.le_refl _), Nat.sub_self]
  rfl

theorem drop_last {n : Nat} (field : Vector UInt8 (n + 1)) :
    field.toList.drop n = [field.get (Fin.last n)] := by
  apply List.ext_getElem
  · rw [List.length_drop, Vector.length_toList, List.length_singleton]
    omega
  · intro i hi hi'
    have hzero : i = 0 := by
      rw [List.length_singleton] at hi'
      omega
    subst hzero
    rw [List.getElem_drop]
    rfl

theorem wifiApiJsonGetCredential_strings (hssid : root "ssid" = some ssid)
    (hpassword : root "password" = some password) (oldSsid : Vector UInt8 32)
    (oldPassword : Vector UInt8 64) :
    (wifiApiJsonGetCredential root oldSsid.toList oldPassword.toList []).1 =
        (0, cut ssid 31 ++ [0], cut password 63 ++ [oldPassword.get 63]) ∧
      .write .password 64 ∈
        (wifiApiJsonGetCredential root oldSsid.toList oldPassword.toList []).2 := by
  have hrun : wifiApiJsonGetCredential root oldSsid.toList oldPassword.toList [] =
      ((0, (cut ssid 31 ++ oldSsid.toList.drop 31).set 31 0,
        (cut password 63 ++ oldPassword.toList.drop 63).set 64 0),
        [] ++ reads .ssid (min 31 (ssid.chars.length + 1)) ++ writes .ssid 31 ++
          reads .password (min 63 (password.chars.length + 1)) ++ writes .password 63 ++
          [.write .ssid 31] ++ [.write .password 64]) := by
    rw [wifiApiJsonGetCredential, hssid, hpassword]
    rfl
  have hcut : ∀ s n, (cut s n).length = n := fun s n => by
    rw [cut, List.length_map, List.length_range]
  rw [hrun]
  refine ⟨?_, List.mem_append_right _ List.mem_cons_self⟩
  have hs : (cut ssid 31 ++ oldSsid.toList.drop 31).set 31 0 = cut ssid 31 ++ [0] := by
    rw [drop_last oldSsid]
    exact set_last (hcut ssid 31).symm
  have hp : (cut password 63 ++ oldPassword.toList.drop 63).set 64 0 =
      cut password 63 ++ [oldPassword.get 63] := by
    rw [drop_last oldPassword]
    have hlength : (cut password 63 ++ [oldPassword.get (Fin.last 63)]).length = 64 := by
      rw [List.length_append, hcut]; rfl
    exact List.set_eq_of_length_le (Nat.le_of_eq hlength)
  rw [hs, hp]

theorem getCredential_sound_iff (root : Request) (oldSsid : Vector UInt8 32)
    (oldPassword : Vector UInt8 64) :
    Sound root (.getCredential oldSsid oldPassword) ↔
      Fits root (.getCredential oldSsid oldPassword) := by
  by_cases hmissing : root "ssid" = none ∨ root "password" = none
  · refine iff_of_true ?_ hmissing
    have hrun : wifiApiJsonGetCredential root oldSsid.toList oldPassword.toList [] =
        ((1, oldSsid.toList, oldPassword.toList), []) := by
      rcases hmissing with h | h
      · rw [wifiApiJsonGetCredential, h]; rfl
      · rw [wifiApiJsonGetCredential, h]
        cases root "ssid" <;> rfl
    simp only [Sound, hrun]
    exact ⟨fun a ha => absurd ha List.not_mem_nil, fun h => absurd h (by decide)⟩
  · obtain ⟨ssid, password, hssid, hpassword⟩ := Complete.strings hmissing
    refine iff_of_false (fun h => ?_) hmissing
    obtain ⟨-, hwrite⟩ :=
      wifiApiJsonGetCredential_strings hssid hpassword oldSsid oldPassword
    exact absurd (h.1 _ hwrite) (Nat.lt_irrefl 64)

/-- Both requests, with any strings: they keep to the strings and to the fields exactly when the
strings fit, which those of a new credential never do. -/
theorem credential_strings_sound_iff (root : Request) (call : Call) :
    Sound root call ↔ Fits root call := by
  cases call with
  | getCredential ssid password => exact getCredential_sound_iff root ssid password
  | connect attempt => exact connect_sound_iff attempt root

/-- A request with the usual lengths: 4 characters and 8. -/
def shortStrings (behind : Nat → UInt8) : Request := fun name =>
  if name = "ssid" then some ⟨[104, 111, 109, 101], by decide, behind⟩
  else if name = "password" then some ⟨[49, 50, 51, 52, 53, 54, 55, 56], by decide, behind⟩
  else none

def granted : Attempt := ⟨true, false, 1, true⟩

/-- The access point gets a write behind its password, and a connect saves what the memory has
behind the strings. -/
theorem shortStrings_overflow :
    ¬ Sound (shortStrings fun _ => 0)
        (.getCredential (Vector.replicate 32 0) (Vector.replicate 64 0)) ∧
      ¬ Sound (shortStrings fun _ => 0) (.connect granted) ∧
      SameStrings (shortStrings fun _ => 0) (shortStrings fun _ => 1) ∧
      (wifiApiJsonConnect granted (shortStrings fun _ => 0) []).1.saved ≠
        (wifiApiJsonConnect granted (shortStrings fun _ => 1) []).1.saved := by
  refine ⟨?_, ?_, ?_, by decide⟩
  · rw [getCredential_sound_iff]
    exact fun h => by rcases h with h | h <;> cases h
  · rw [connect_enters_sound_iff (.inl rfl) rfl rfl]
    exact fun h => absurd h.1 (by decide)
  · intro name
    simp only [shortStrings]
    split
    · rfl
    · split <;> rfl

end WirelessEsp.CredentialStrings
