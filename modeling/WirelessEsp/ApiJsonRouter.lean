import Mathlib.Data.Rat.Cast.Order
import Mathlib.Tactic.NormNum
import Mathlib.Logic.Function.Basic

namespace WirelessEsp.ApiJsonRouter

open Function (update)

def API_MODULE_MAX : Nat := 10

/-- What a handler does with a command: an operation of `ω`, or nothing, which is
`API_JSON_UNSUPPORTED_CMD`. -/
abbrev OnReq (ω : Type) := UInt16 → Option ω

/-- What the function of a module leaves in `api_module`; `onReq` may be a null pointer. -/
structure ModuleCfg (ω : Type) where
  err : Int
  onReq : Option (OnReq ω)
  moduleId : UInt8

abbrev ModuleArr (ω : Type) := UInt8 → Option (OnReq ω)

variable {ω : Type}

def apiJsonModuleAdd (arr : ModuleArr ω) (cfg : ModuleCfg ω) : Nat × ModuleArr ω :=
  if cfg.err ≠ 0 then (1, arr)
  else if cfg.moduleId.toNat ≥ API_MODULE_MAX then (1, arr)
  else if (arr cfg.moduleId).isSome then (1, arr)
  else (0, update arr cfg.moduleId cfg.onReq)

def addAll (arr : ModuleArr ω) (cfgs : List (ModuleCfg ω)) : ModuleArr ω :=
  cfgs.foldl (fun arr cfg => (apiJsonModuleAdd arr cfg).2) arr

def noModules : ModuleArr ω := fun _ => none

inductive Reply (ω : Type)
  | badRequest
  | unsupportedCmd
  | ran (id : UInt8) (cmd : UInt16) (op : ω)
deriving DecidableEq

def apiJsonModuleCall (arr : ModuleArr ω) (id : UInt8) (cmd : UInt16) : Reply ω :=
  if id.toNat ≥ API_MODULE_MAX then .badRequest
  else
    match arr id with
    | none => .badRequest
    | some onReq =>
        match onReq cmd with
        | none => .unsupportedCmd
        | some op => .ran id cmd op

/-- A member of a request: the value of a number, or something else, or nothing. -/
inductive Member
  | number (value : ℚ)
  | other

structure Request where
  cmd : Member
  module : Member

/-- `valueint` is the integer that the parser keeps of a number. -/
def apiJsonRoute (valueint : ℚ → Int) (arr : ModuleArr ω) : Option Request → Reply ω
  | some ⟨.number cmd, .number module⟩ =>
      apiJsonModuleCall arr (UInt8.ofInt (valueint module)) (UInt16.ofInt (valueint cmd))
  | _ => .badRequest

inductive WifiCmd
  | staGetApInfo
  | connect
  | getScan
  | disconnect
  | apGetInfo
  | getMode
  | setMode
  | setApCred
  | staGetStaticInfo
  | staSetStaticConf
deriving DecidableEq, Repr

def WIFI_MODULE_ID : UInt8 := 1

def onJsonReq : OnReq WifiCmd := fun cmd =>
  if cmd = 1 then some .staGetApInfo
  else if cmd = 2 then some .connect
  else if cmd = 3 then some .getScan
  else if cmd = 4 then some .disconnect
  else if cmd = 5 then some .apGetInfo
  else if cmd = 6 then some .getMode
  else if cmd = 7 then some .setMode
  else if cmd = 8 then some .setApCred
  else if cmd = 9 then some .staGetStaticInfo
  else if cmd = 10 then some .staSetStaticConf
  else none

def wifiApiJsonInit : ModuleCfg WifiCmd := ⟨0, some onJsonReq, WIFI_MODULE_ID⟩

def Offers (arr : ModuleArr ω) (id : UInt8) (cmd : UInt16) (op : ω) : Prop :=
  id.toNat < API_MODULE_MAX ∧ ∃ onReq, arr id = some onReq ∧ onReq cmd = some op

/-- An operation is run exactly when both numbers of the request are those of its module and its
command, and no handler that was registered before has got lost. -/
structure Routes (valueint : ℚ → Int) (cfgs : List (ModuleCfg ω)) (module cmd : ℚ) : Prop where
  ran : ∀ id c op, apiJsonRoute valueint (addAll noModules cfgs)
      (some ⟨.number cmd, .number module⟩) = .ran id c op ↔
    module = id.toNat ∧ cmd = c.toNat ∧ Offers (addAll noModules cfgs) id c op
  kept : ∀ earlier, earlier <+: cfgs → ∀ id onReq, addAll noModules earlier id = some onReq →
    addAll noModules cfgs id = some onReq

/-- The parser keeps the integers that an `int` can hold. -/
def KeepsInt (valueint : ℚ → Int) : Prop :=
  ∀ n : Int, -2 ^ 31 ≤ n → n < 2 ^ 31 → valueint n = n

/-- The numbers are those of the module and the command that are looked up, or there is no such
operation. -/
def Narrow (valueint : ℚ → Int) (arr : ModuleArr ω) (module cmd : ℚ) : Prop :=
  (module = (UInt8.ofInt (valueint module)).toNat ∧ cmd = (UInt16.ofInt (valueint cmd)).toNat) ∨
    ∀ op, ¬ Offers arr (UInt8.ofInt (valueint module)) (UInt16.ofInt (valueint cmd)) op

variable {valueint : ℚ → Int} {arr : ModuleArr ω} {id : UInt8} {c : UInt16} {op : ω}
  {module cmd : ℚ} {cfgs : List (ModuleCfg ω)}

theorem apiJsonModuleCall_ran {id' : UInt8} {c' : UInt16} :
    apiJsonModuleCall arr id' c' = .ran id c op ↔ id' = id ∧ c' = c ∧ Offers arr id c op := by
  constructor
  · intro h
    rw [apiJsonModuleCall] at h
    split at h
    next => cases h
    next hid =>
      split at h
      next => cases h
      next onReq harr =>
        split at h
        next => cases h
        next op' hop =>
          cases h
          exact ⟨rfl, rfl, Nat.not_le.mp hid, onReq, harr, hop⟩
  · rintro ⟨rfl, rfl, hid, onReq, harr, hop⟩
    rw [apiJsonModuleCall, if_neg (Nat.not_le.mpr hid), harr]
    simp only [hop]

theorem apiJsonModuleAdd_kept {onReq : OnReq ω} (cfg : ModuleCfg ω) (h : arr id = some onReq) :
    (apiJsonModuleAdd arr cfg).2 id = some onReq := by
  rw [apiJsonModuleAdd]
  split
  next => exact h
  split
  next => exact h
  split
  next => exact h
  next hfree =>
    have hne : id ≠ cfg.moduleId := by
      rintro rfl
      rw [h] at hfree
      exact hfree rfl
    exact (Function.update_of_ne hne _ _).trans h

theorem addAll_kept {onReq : OnReq ω} (cfgs : List (ModuleCfg ω)) (h : arr id = some onReq) :
    addAll arr cfgs id = some onReq := by
  induction cfgs generalizing arr with
  | nil => exact h
  | cons cfg cfgs ih => exact ih (apiJsonModuleAdd_kept cfg h)

theorem addAll_append (arr : ModuleArr ω) (xs ys : List (ModuleCfg ω)) :
    addAll arr (xs ++ ys) = addAll (addAll arr xs) ys := List.foldl_append ..

theorem ofInt_toNat_8 (id : UInt8) : UInt8.ofInt (id.toNat : Int) = id := by
  have hlt := id.toNat_lt
  rw [UInt8.ofInt, Int.emod_eq_of_lt (by omega) (by omega), Int.toNat_natCast, UInt8.ofNat_toNat]

theorem ofInt_toNat_16 (c : UInt16) : UInt16.ofInt (c.toNat : Int) = c := by
  have hlt := c.toNat_lt
  rw [UInt16.ofInt, Int.emod_eq_of_lt (by omega) (by omega), Int.toNat_natCast, UInt16.ofNat_toNat]

theorem narrowed (hkeeps : KeepsInt valueint) (id : UInt8) (c : UInt16) :
    UInt8.ofInt (valueint (id.toNat : ℚ)) = id ∧ UInt16.ofInt (valueint (c.toNat : ℚ)) = c := by
  have hid := hkeeps id.toNat (by omega) (by have := id.toNat_lt; omega)
  have hc := hkeeps c.toNat (by omega) (by have := c.toNat_lt; omega)
  rw [Int.cast_natCast] at hid hc
  rw [hid, hc]
  exact ⟨ofInt_toNat_8 id, ofInt_toNat_16 c⟩

/-- A request is routed right exactly when its numbers are not changed on the way to an
operation. -/
theorem routes_iff (hkeeps : KeepsInt valueint) (cfgs : List (ModuleCfg ω)) (module cmd : ℚ) :
    Routes valueint cfgs module cmd ↔ Narrow valueint (addAll noModules cfgs) module cmd := by
  have hroute (id : UInt8) (c : UInt16) (op : ω) :
      apiJsonRoute valueint (addAll noModules cfgs) (some ⟨.number cmd, .number module⟩) =
          .ran id c op ↔
        UInt8.ofInt (valueint module) = id ∧ UInt16.ofInt (valueint cmd) = c ∧
          Offers (addAll noModules cfgs) id c op := apiJsonModuleCall_ran
  constructor
  · intro h
    by_cases hop : ∃ op, Offers (addAll noModules cfgs) (UInt8.ofInt (valueint module))
        (UInt16.ofInt (valueint cmd)) op
    · obtain ⟨op, hop⟩ := hop
      obtain ⟨hm, hc, -⟩ := (h.ran _ _ op).mp ((hroute _ _ op).mpr ⟨rfl, rfl, hop⟩)
      exact .inl ⟨hm, hc⟩
    · exact .inr (not_exists.mp hop)
  · intro h
    refine ⟨fun id c op => ?_, ?_⟩
    · rw [hroute]
      constructor
      · rintro ⟨rfl, rfl, hop⟩
        rcases h with ⟨hm, hc⟩ | hno
        · exact ⟨hm, hc, hop⟩
        · exact absurd hop (hno op)
      · rintro ⟨rfl, rfl, hop⟩
        obtain ⟨hid, hc⟩ := narrowed hkeeps id c
        exact ⟨hid, hc, hop⟩
    · rintro earlier ⟨later, rfl⟩ id onReq hold
      rw [addAll_append]
      exact addAll_kept later hold

/-- What the parser of the JSON library keeps: the integer part, or the end of the range of an
`int`. -/
def parsedInt (value : ℚ) : Int :=
  if value ≥ 2147483647 then 2147483647
  else if value ≤ -2147483648 then -2147483648
  else value.num.tdiv value.den

theorem keepsInt_parsedInt : KeepsInt parsedInt := by
  intro n hlow hhigh
  rw [parsedInt]
  split
  next hge =>
    have hge' : (2147483647 : Int) ≤ n := by exact_mod_cast hge
    omega
  next =>
    split
    next hle =>
      have hle' : n ≤ (-2147483648 : Int) := by exact_mod_cast hle
      omega
    next => rw [Rat.num_intCast, Rat.den_intCast, Nat.cast_one, Int.tdiv_one]

/-- The fifth command of the wifi module. -/
theorem routes_wifi : Routes parsedInt [wifiApiJsonInit] 1 5 := by
  refine (routes_iff keepsInt_parsedInt [wifiApiJsonInit] 1 5).mpr (.inl ?_)
  obtain ⟨hid, hc⟩ := narrowed keepsInt_parsedInt 1 5
  have hone : (((1 : UInt8).toNat : ℕ) : ℚ) = 1 := Nat.cast_one
  have hfive : (((5 : UInt16).toNat : ℕ) : ℚ) = 5 := Nat.cast_ofNat
  rw [hone] at hid
  rw [hfive] at hc
  rw [hid, hc]
  exact ⟨hone.symm, hfive.symm⟩

/-- The module 257 is taken for the wifi module. -/
theorem not_routes_always :
    ¬ ∀ (cfgs : List (ModuleCfg WifiCmd)) (module cmd : ℚ), Routes parsedInt cfgs module cmd := by
  intro hall
  have hmodule : parsedInt 257 = 257 := keepsInt_parsedInt 257 (by decide) (by decide)
  have hcmd : parsedInt 5 = 5 := keepsInt_parsedInt 5 (by decide) (by decide)
  have hran : apiJsonRoute parsedInt (addAll noModules [wifiApiJsonInit])
      (some ⟨.number 5, .number 257⟩) = .ran 1 5 .apGetInfo := by
    rw [apiJsonRoute, hmodule, hcmd]
    rfl
  have hbad := (((hall [wifiApiJsonInit] 257 5).ran 1 5 .apGetInfo).mp hran).1
  have hone : ((UInt8.toNat 1 : ℕ) : ℚ) = 1 := Nat.cast_one
  rw [hone] at hbad
  norm_num at hbad

end WirelessEsp.ApiJsonRouter
