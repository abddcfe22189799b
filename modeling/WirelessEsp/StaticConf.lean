import WirelessEsp.CredentialRoundTrip

namespace WirelessEsp.StaticConf

open WifiStorage

/-- An `ip4_addr_t`, in the byte order of the network. -/
abbrev Ip4 := Vector UInt8 4

inductive Address
  | ip
  | gateway
  | netmask
  | dnsMain
  | dnsBackup
  deriving DecidableEq

def Address.name : Address → String
  | .ip => "ip"
  | .gateway => "gateway"
  | .netmask => "netmask"
  | .dnsMain => "dns_main"
  | .dnsBackup => "dns_backup"

def Address.index : Address → Fin 5
  | .ip => 0
  | .gateway => 1
  | .netmask => 2
  | .dnsMain => 3
  | .dnsBackup => 4

def getAddress (info : StaticInfo) (a : Address) : Ip4 :=
  Vector.ofFn fun j => info[4 * a.index.val + j.val]

def setAddress (a : Address) (ip : Ip4) (info : StaticInfo) : StaticInfo :=
  Vector.ofFn fun k =>
    if h : 4 * a.index.val ≤ k.val ∧ k.val < 4 * a.index.val + 4 then ip[k.val - 4 * a.index.val]
    else info.get k

def staticIpEn (info : StaticInfo) : UInt8 := getElem info 20 static_ip_en_lt

def staticDnsEn (info : StaticInfo) : UInt8 := getElem info 21 static_dns_en_lt

inductive Member
  | number (valueint : Int)
  | string (valuestring : List UInt8)
  | other

abbrev Request := String → Member

section Requests

variable (aton : List UInt8 → Option Ip4) (ntoa : Ip4 → String)

/-- A text that `ip4addr_aton` refuses leaves the address as it is. -/
def deserAddress (root : Request) (info : StaticInfo) (a : Address) : StaticInfo :=
  match root a.name with
  | .string text => match aton text with
      | some ip => setAddress a ip info
      | none => info
  | _ => info

def wifiApiJsonDeserStaticConf (root : Request) (info : StaticInfo) : Option StaticInfo :=
  match root "static_ip_en", root "static_dns_en" with
  | .number ipEn, .number dnsEn =>
      let info := info.set 21 (UInt8.ofInt dnsEn) static_dns_en_lt
      let info := info.set 20 (UInt8.ofInt ipEn) static_ip_en_lt
      some ([.ip, .gateway, .netmask, .dnsMain, .dnsBackup].foldl (deserAddress aton root) info)
  | _, _ => none

structure StaticReport where
  staticIpEn : UInt8
  staticDnsEn : UInt8
  address : Address → String

def wifiApiJsonSerStaticInfo (info : StaticInfo) : StaticReport where
  staticIpEn := staticIpEn info
  staticDnsEn := staticDnsEn info
  address := fun a => ntoa (getAddress info a)

inductive NetifCall
  | dhcpcStop
  | dhcpcStart
  | setIpInfo (ip gw netmask : Ip4)
  | setDnsMain (ip : Ip4)
  | setDnsBackup (ip : Ip4)

def wifiManagerStaSetStaticConf (gw : Ip4) (info : StaticInfo) : List NetifCall :=
  (if staticIpEn info ≠ 0 then [.dhcpcStop,
      .setIpInfo (getAddress info .ip) (getAddress info .gateway) (getAddress info .netmask)]
    else [.dhcpcStart]) ++
  if staticDnsEn info ≠ 0 then
    [.setDnsMain (getAddress info .dnsMain), .setDnsBackup (getAddress info .dnsBackup)]
  else [.setDnsMain gw]

def wifiApiStaSetStaticConf (save : Outcome) (gw : Ip4) (info : StaticInfo) :
    NvsM (Int × List NetifCall) := do
  let calls := wifiManagerStaSetStaticConf gw info
  let err ← wifiDataSaveStatic save info
  pure (err, calls)

inductive Status
  | ok
  | internalErr
  | propertyErr
  deriving DecidableEq

/-- The results of the load and of the save are not looked at. -/
def wifiApiJsonStaSetStaticConf (load save : Outcome) (gw : Ip4) (root : Request) :
    NvsM (Status × List NetifCall) := do
  let (_, info) ← wifiDataGetStatic load (Vector.replicate 24 0)
  match wifiApiJsonDeserStaticConf aton root info with
  | none => pure (.propertyErr, [])
  | some info => do
      let (_, calls) ← wifiApiStaSetStaticConf save gw info
      pure (.ok, calls)

def wifiApiJsonStaGetStaticInfo (load : Outcome) : NvsM (Status × Option StaticReport) := do
  let (err, info) ← wifiDataGetStatic load (Vector.replicate 24 0)
  if err ≠ 0 then pure (.internalErr, none)
  else pure (.ok, some (wifiApiJsonSerStaticInfo ntoa info))

structure Applied (calls : List NetifCall) (info : StaticInfo) : Prop where
  static : staticIpEn info ≠ 0 → .dhcpcStop ∈ calls ∧ .dhcpcStart ∉ calls ∧
    .setIpInfo (getAddress info .ip) (getAddress info .gateway) (getAddress info .netmask) ∈ calls
  dhcp : staticIpEn info = 0 → .dhcpcStart ∈ calls ∧ .dhcpcStop ∉ calls ∧
    ∀ ip gw netmask, .setIpInfo ip gw netmask ∉ calls
  dns : staticDnsEn info ≠ 0 → .setDnsMain (getAddress info .dnsMain) ∈ calls ∧
    .setDnsBackup (getAddress info .dnsBackup) ∈ calls
  noDns : staticDnsEn info = 0 → ∀ ip, .setDnsBackup ip ∉ calls

structure Reported (report : StaticReport) (info : StaticInfo) : Prop where
  staticIpEn : report.staticIpEn = staticIpEn info
  staticDnsEn : report.staticDnsEn = staticDnsEn info
  address : ∀ a, report.address a = ntoa (getAddress info a)

def Parses (root : Request) : Prop :=
  ∀ a text, root (Address.name a) = .string text → aton text ≠ none

def Numbers (root : Request) : Prop :=
  ∃ ipEn dnsEn, root "static_ip_en" = .number ipEn ∧ root "static_dns_en" = .number dnsEn

def Saves (save : Outcome) : Prop :=
  save.opens = 0 ∧ save.writes (keyName KEY_WIFI_STA_STATIC_BASE) = 0

instance (save : Outcome) : Decidable (Saves save) :=
  inferInstanceAs (Decidable (save.opens = 0 ∧ save.writes (keyName KEY_WIFI_STA_STATIC_BASE) = 0))

/-- The station, the storage and a later report agree when the request returns `API_JSON_OK`, and
a request that is not valid or not saved returns an error and leaves the storage as it was. -/
structure Settles (e : Entries) (save : Outcome) (root : Request)
    (r : (Status × List NetifCall) × Nvs) : Prop where
  ok : r.1.1 = .ok → ∃ info : StaticInfo,
    stored r.2.entries KEY_WIFI_STA_STATIC_BASE = some (valueOf info.toList) ∧
    Applied r.1.2 info ∧
    (∀ get, get.opens = 0 → ∃ report, Reported ntoa report info ∧
      ((wifiApiJsonStaGetStaticInfo ntoa get).run (start r.2.entries)).1 = (.ok, some report)) ∧
    ∀ a text, root (Address.name a) = .string text → aton text = some (getAddress info a)
  error : ¬ (Numbers root ∧ Parses aton root) ∨ ¬ Saves save → r.1.1 ≠ .ok ∧ r.2.entries = e

section Fields

variable {a b : Address} {info : StaticInfo} {ip : Ip4} {root : Request} {text : List UInt8}

theorem Address.index_ne (h : a ≠ b) : a.index.val ≠ b.index.val := by
  cases a <;> cases b <;> first | exact absurd rfl h | decide

theorem getAddress_setAddress_self (a : Address) (ip : Ip4) (info : StaticInfo) :
    getAddress (setAddress a ip info) a = ip := by
  ext j hj
  simp [getAddress, setAddress]

theorem getAddress_setAddress_of_ne (h : a ≠ b) (ip : Ip4) (info : StaticInfo) :
    getAddress (setAddress b ip info) a = getAddress info a := by
  have hne := Address.index_ne h
  ext j hj
  have hmem : ¬ (4 * b.index.val ≤ 4 * a.index.val + j ∧
      4 * a.index.val + j < 4 * b.index.val + 4) := by omega
  simp [getAddress, setAddress, hmem]
  rfl

theorem setAddress_flags (b : Address) (ip : Ip4) (info : StaticInfo) :
    staticIpEn (setAddress b ip info) = staticIpEn info ∧
      staticDnsEn (setAddress b ip info) = staticDnsEn info := by
  have hlast := b.index.isLt
  constructor
  · have hmem : ¬ (4 * b.index.val ≤ 20 ∧ 20 < 4 * b.index.val + 4) := by omega
    simp [staticIpEn, setAddress, hmem]
    rfl
  · have hmem : ¬ (4 * b.index.val ≤ 21 ∧ 21 < 4 * b.index.val + 4) := by omega
    simp [staticDnsEn, setAddress, hmem]
    rfl

theorem deserAddress_flags (root : Request) (info : StaticInfo) (b : Address) :
    staticIpEn (deserAddress aton root info b) = staticIpEn info ∧
      staticDnsEn (deserAddress aton root info b) = staticDnsEn info := by
  rw [deserAddress]
  split
  · split
    · exact setAddress_flags b _ info
    · exact ⟨rfl, rfl⟩
  · exact ⟨rfl, rfl⟩

theorem getAddress_deserAddress_of_ne (h : a ≠ b) :
    getAddress (deserAddress aton root info b) a = getAddress info a := by
  rw [deserAddress]
  split
  · split
    · exact getAddress_setAddress_of_ne h _ info
    · rfl
  · rfl

theorem getAddress_deserAddress_self (htext : root a.name = .string text)
    (hip : aton text = some ip) : getAddress (deserAddress aton root info a) a = ip := by
  simp only [deserAddress, htext, hip]
  exact getAddress_setAddress_self a ip info

theorem foldl_flags (root : Request) (as : List Address) (info : StaticInfo) :
    staticIpEn (as.foldl (deserAddress aton root) info) = staticIpEn info ∧
      staticDnsEn (as.foldl (deserAddress aton root) info) = staticDnsEn info := by
  induction as generalizing info with
  | nil => exact ⟨rfl, rfl⟩
  | cons a as ih =>
      obtain ⟨hip, hdns⟩ := deserAddress_flags aton root info a
      rw [List.foldl_cons, (ih _).1, (ih _).2, hip, hdns]
      exact ⟨rfl, rfl⟩

theorem foldl_of_notMem {as : List Address} (h : a ∉ as) (info : StaticInfo) :
    getAddress (as.foldl (deserAddress aton root) info) a = getAddress info a := by
  induction as generalizing info with
  | nil => rfl
  | cons b as ih =>
      obtain ⟨hne, hmem⟩ := not_or.mp (mt List.mem_cons.mpr h)
      rw [List.foldl_cons, ih hmem, getAddress_deserAddress_of_ne aton hne]

theorem foldl_of_mem {as : List Address} (hnodup : as.Nodup) (h : a ∈ as)
    (htext : root a.name = .string text) (hip : aton text = some ip) (info : StaticInfo) :
    getAddress (as.foldl (deserAddress aton root) info) a = ip := by
  induction as generalizing info with
  | nil => cases h
  | cons b as ih =>
      rw [List.foldl_cons]
      by_cases hab : a = b
      · rw [hab] at htext ⊢
        rw [foldl_of_notMem aton (List.nodup_cons.mp hnodup).1]
        exact getAddress_deserAddress_self aton htext hip
      · exact ih (List.nodup_cons.mp hnodup).2 ((List.mem_cons.mp h).resolve_left hab) _

theorem deser_some {ipEn dnsEn : Int} (hip : root "static_ip_en" = .number ipEn)
    (hdns : root "static_dns_en" = .number dnsEn) (info : StaticInfo) :
    ∃ info', wifiApiJsonDeserStaticConf aton root info = some info' ∧
      staticIpEn info' = UInt8.ofInt ipEn ∧ staticDnsEn info' = UInt8.ofInt dnsEn ∧
      ∀ a text ip, root (Address.name a) = .string text → aton text = some ip →
        getAddress info' a = ip := by
  refine ⟨_, by simp only [wifiApiJsonDeserStaticConf, hip, hdns]; rfl, ?_, ?_, ?_⟩
  · rw [(foldl_flags aton root _ _).1]
    simp [staticIpEn]
  · rw [(foldl_flags aton root _ _).2]
    simp [staticDnsEn]
  · intro a text ip htext hip
    apply foldl_of_mem aton (by decide) _ htext hip
    cases a <;> decide

theorem deser_none (h : ¬ Numbers root) (info : StaticInfo) :
    wifiApiJsonDeserStaticConf aton root info = none := by
  rw [wifiApiJsonDeserStaticConf]
  split
  next ipEn dnsEn hip hdns => exact absurd ⟨ipEn, dnsEn, hip, hdns⟩ h
  · rfl

end Fields

section Storage

variable {e : Entries} {root : Request}

theorem saveValue_run (o : Outcome) (key : UInt32) (data : List UInt8) (s : Nvs) :
    ((saveValue o key data).run s).2.entries =
      if o.opens = 0 ∧ o.writes (keyName key) = 0 then put s.entries key data else s.entries := by
  rw [saveValue, run_bind, nvsOpen_run]
  by_cases hopen : o.opens = 0
  · simp only [hopen, ne_eq, not_true_eq_false, if_false, wtNvsSet_run, true_and]
    by_cases hwrite : o.writes (keyName key) = 0
    · simp only [hwrite, not_true_eq_false, if_false, if_true]
    · simp only [hwrite, not_false_eq_true, if_true, if_false]
  · simp only [hopen, ne_eq, not_false_eq_true, if_true, run_pure, false_and, if_false]

theorem valueOf_info (info : StaticInfo) (o : Outcome) (key : Key) :
    readEntry o key (kindOf 24) 24 (some (valueOf info.toList)) = .ok info.toList := by
  have hlen : info.toList.length = 24 := Vector.length_toList
  have hkind : (valueOf info.toList).kind = .blob := by
    show kindOf info.toList.length = .blob
    rw [hlen]
    rfl
  have hdata : (valueOf info.toList).data = info.toList := if_neg (by rw [hlen]; decide)
  rw [readEntry, hkind, hdata]
  simp [kindOf]

theorem getStatic_stored {info : StaticInfo}
    (h : stored e KEY_WIFI_STA_STATIC_BASE = some (valueOf info.toList)) {get : Outcome}
    (hget : get.opens = 0) (old : StaticInfo) :
    ((wifiDataGetStatic get old).run (start e)).1 = (ESP_OK, clampFlag 21 (clampFlag 20 info)) := by
  have hvalue : ((getValue get KEY_WIFI_STA_STATIC_BASE old).run (start e)).1 = (ESP_OK, info) := by
    rw [getValue, run_bind, nvsOpen_run]
    have hsize : (24 : Nat) ≠ 0 := by decide
    simp only [hget, ne_eq, not_true_eq_false, if_false, run_bind, wtNvsGet_run _ _ hsize, start, h,
      valueOf_info, fill_toList, run_pure]
  rw [wifiDataGetStatic, run_bind, hvalue]
  simp only [hget, ne_eq, not_true_eq_false, if_false, ESP_OK, ESP_ERR_NVS_NOT_FOUND]
  rfl

theorem getStaticInfo_stored {info : StaticInfo}
    (h : stored e KEY_WIFI_STA_STATIC_BASE = some (valueOf info.toList)) {get : Outcome}
    (hget : get.opens = 0) :
    ((wifiApiJsonStaGetStaticInfo ntoa get).run (start e)).1 =
      (.ok, some (wifiApiJsonSerStaticInfo ntoa (clampFlag 21 (clampFlag 20 info)))) := by
  rw [wifiApiJsonStaGetStaticInfo, run_bind, getStatic_stored h hget]
  rfl

theorem set_propertyErr (e : Entries) (load save : Outcome) (gw : Ip4) (h : ¬ Numbers root) :
    ((wifiApiJsonStaSetStaticConf aton load save gw root).run (start e)).1 = (.propertyErr, []) ∧
      ((wifiApiJsonStaSetStaticConf aton load save gw root).run (start e)).2.entries = e := by
  rw [wifiApiJsonStaSetStaticConf, run_bind]
  simp only [deser_none aton h, run_pure, getStatic_entries]
  exact ⟨trivial, rfl⟩

theorem set_ok (e : Entries) (load save : Outcome) (gw : Ip4) {ipEn dnsEn : Int}
    (hip : root "static_ip_en" = .number ipEn) (hdns : root "static_dns_en" = .number dnsEn) :
    ∃ info,
    ((wifiApiJsonStaSetStaticConf aton load save gw root).run (start e)).1 =
      (.ok, wifiManagerStaSetStaticConf gw info) ∧
    ((wifiApiJsonStaSetStaticConf aton load save gw root).run (start e)).2.entries =
      (if Saves save then put e KEY_WIFI_STA_STATIC_BASE info.toList else e) ∧
    staticIpEn info = UInt8.ofInt ipEn ∧ staticDnsEn info = UInt8.ofInt dnsEn ∧
    ∀ a text ip, root (Address.name a) = .string text → aton text = some ip →
      getAddress info a = ip := by
  obtain ⟨info, hinfo, hfields⟩ := deser_some aton hip hdns
    ((wifiDataGetStatic load (Vector.replicate 24 0)).run (start e)).1.2
  refine ⟨info, ?_, ?_, hfields⟩
  · rw [wifiApiJsonStaSetStaticConf, run_bind]
    simp only [hinfo]
    rfl
  · rw [wifiApiJsonStaSetStaticConf, run_bind]
    simp only [hinfo, wifiApiStaSetStaticConf, run_bind, run_pure, wifiDataSaveStatic,
      saveValue_run, getStatic_entries]
    rfl

end Storage

theorem applied_manager (gw : Ip4) (info : StaticInfo) :
    Applied (wifiManagerStaSetStaticConf gw info) info := by
  rw [wifiManagerStaSetStaticConf]
  refine ⟨fun h => ?_, fun h => ?_, fun h => ?_, fun h => ?_⟩
  · simp only [h, ne_eq, not_false_eq_true, if_true]
    split <;> simp
  · simp only [h, ne_eq, not_true_eq_false, if_false]
    split <;> simp
  · simp [h]
  · intro ip
    simp only [h, ne_eq, not_true_eq_false, if_false]
    split <;> simp

theorem clampFlag_address {i : Fin 24} (h : 20 ≤ i.val) (info : StaticInfo) (a : Address) :
    getAddress (clampFlag i info) a = getAddress info a := by
  have hlast := a.index.isLt
  rw [clampFlag]
  split
  · ext j hj
    have hne : i.val ≠ 4 * a.index.val + j := by omega
    simp [getAddress, Vector.getElem_set_ne, hne]
  · rfl

theorem clampFlag_flags (info : StaticInfo) :
    staticIpEn (clampFlag 21 (clampFlag 20 info)) =
        (if staticIpEn info > 1 then 0 else staticIpEn info) ∧
      staticDnsEn (clampFlag 21 (clampFlag 20 info)) =
        (if staticDnsEn info > 1 then 0 else staticDnsEn info) := by
  have hip : ∀ info : StaticInfo, staticIpEn (clampFlag 21 info) = staticIpEn info := by
    intro info
    rw [clampFlag]
    split
    · exact Vector.getElem_set_ne _ _ (by decide)
    · rfl
  have hdns : staticDnsEn (clampFlag 20 info) = staticDnsEn info := by
    rw [clampFlag]
    split
    · exact Vector.getElem_set_ne _ _ (by decide)
    · rfl
  constructor
  · rw [hip, clampFlag]
    show staticIpEn (if staticIpEn info > 1 then _ else _) = _
    split
    · exact Vector.getElem_set_self _
    · rfl
  · rw [← hdns, clampFlag]
    show staticDnsEn (if staticDnsEn (clampFlag 20 info) > 1 then _ else _) = _
    split
    · exact Vector.getElem_set_self _
    · rfl

theorem clamp_eq_iff (flag : UInt8) : (if flag > 1 then 0 else flag) = flag ↔ flag ≤ 1 := by
  split
  next h =>
    refine iff_of_false ?_ (UInt8.not_le.mpr h)
    rintro rfl
    exact absurd h (by decide)
  next h => exact iff_of_true rfl (UInt8.not_lt.mp h)

theorem reported_iff (info : StaticInfo) :
    Reported ntoa (wifiApiJsonSerStaticInfo ntoa (clampFlag 21 (clampFlag 20 info))) info ↔
      staticIpEn info ≤ 1 ∧ staticDnsEn info ≤ 1 := by
  obtain ⟨hip, hdns⟩ := clampFlag_flags info
  rw [← clamp_eq_iff, ← clamp_eq_iff, ← hip, ← hdns]
  refine ⟨fun h => ⟨h.staticIpEn, h.staticDnsEn⟩, fun h => ⟨h.1, h.2, fun a => ?_⟩⟩
  show ntoa (getAddress (clampFlag 21 (clampFlag 20 info)) a) = _
  rw [clampFlag_address (by decide), clampFlag_address (by decide)]

def idle : Outcome := ⟨0, fun _ => 0, fun _ => true⟩

theorem stored_inj {e : Entries} {info info' : StaticInfo}
    (h : stored e KEY_WIFI_STA_STATIC_BASE = some (valueOf info.toList))
    (h' : stored e KEY_WIFI_STA_STATIC_BASE = some (valueOf info'.toList)) : info = info' := by
  have hread := valueOf_info info idle []
  rw [← h, h', valueOf_info] at hread
  exact (Vector.toList_inj.mp (Except.ok.inj hread)).symm

/-- The addresses are parsed and saved, and the low bytes of the flags are 0 or 1. -/
def Regular (save : Outcome) (root : Request) : Prop :=
  ∀ ipEn dnsEn, root "static_ip_en" = .number ipEn → root "static_dns_en" = .number dnsEn →
    Parses aton root ∧ Saves save ∧ UInt8.ofInt ipEn ≤ 1 ∧ UInt8.ofInt dnsEn ≤ 1

/-- A request settles the configuration exactly when the flags are no numbers, or all that it
names is valid and saved. -/
theorem settles_iff (e : Entries) (load save : Outcome) (gw : Ip4) (root : Request) :
    Settles aton ntoa e save root
        ((wifiApiJsonStaSetStaticConf aton load save gw root).run (start e)) ↔
      Regular aton save root := by
  generalize hr : (wifiApiJsonStaSetStaticConf aton load save gw root).run (start e) = r
  by_cases hnumbers : Numbers root
  · obtain ⟨ipEn, dnsEn, hip, hdns⟩ := id hnumbers
    obtain ⟨info, hreply, hentries, hipEn, hdnsEn, hparsed⟩ := set_ok aton e load save gw hip hdns
    rw [hr] at hreply hentries
    have hput : stored (put e KEY_WIFI_STA_STATIC_BASE info.toList) KEY_WIFI_STA_STATIC_BASE =
        some (valueOf info.toList) := by
      rw [stored_put, if_pos rfl]
    constructor
    · rintro ⟨hok, herror⟩ ipEn' dnsEn' hip' hdns'
      rw [hreply] at hok herror
      rw [hentries] at hok
      cases hip.symm.trans hip'
      cases hdns.symm.trans hdns'
      have hparses : Parses aton root := by
        by_contra hparses
        exact (herror (.inl fun h => hparses h.2)).1 rfl
      have hsaves : Saves save := by
        by_contra hsaves
        exact (herror (.inr hsaves)).1 rfl
      rw [if_pos hsaves] at hok
      obtain ⟨info', hstored, -, hget, -⟩ := hok rfl
      cases stored_inj hput hstored
      have hopens : idle.opens = 0 := rfl
      obtain ⟨report, hreport, hreply⟩ := hget idle hopens
      rw [getStaticInfo_stored ntoa hput hopens] at hreply
      cases hreply
      obtain ⟨hipLe, hdnsLe⟩ := (reported_iff ntoa info).mp hreport
      exact ⟨hparses, hsaves, hipEn ▸ hipLe, hdnsEn ▸ hdnsLe⟩
    · intro hregular
      obtain ⟨hparses, hsaves, hipLe, hdnsLe⟩ := hregular ipEn dnsEn hip hdns
      rw [if_pos hsaves] at hentries
      constructor
      · intro _
        rw [hreply, hentries]
        refine ⟨info, hput, applied_manager gw info, ?_, ?_⟩
        · intro get hopens
          refine ⟨_, (reported_iff ntoa info).mpr ⟨hipEn ▸ hipLe, hdnsEn ▸ hdnsLe⟩, ?_⟩
          exact getStaticInfo_stored ntoa hput hopens
        · intro a text htext
          obtain ⟨ip, hparse⟩ := Option.ne_none_iff_exists'.mp (hparses a text htext)
          rw [hparsed a text ip htext hparse, hparse]
      · rintro (h | h)
        · exact absurd ⟨hnumbers, hparses⟩ h
        · exact absurd hsaves h
  · obtain ⟨hreply, hentries⟩ := set_propertyErr aton e load save gw hnumbers
    rw [hr] at hreply hentries
    have hstatus : r.1.1 ≠ .ok := by
      rw [hreply]
      exact nofun
    refine iff_of_true ⟨fun h => absurd h hstatus, fun _ => ⟨hstatus, hentries⟩⟩ ?_
    exact fun ipEn dnsEn hip hdns => absurd ⟨ipEn, dnsEn, hip, hdns⟩ hnumbers

end Requests

/-- The last number of the address is too large for `ip4addr_aton`. -/
def badAddress : Request := fun name =>
  if name = "static_ip_en" ∨ name = "static_dns_en" then .number 1
  else if name = "ip" then .string "192.168.1.300".toUTF8.toList
  else .other

theorem not_settles_badAddress :
    ¬ Settles (fun _ => none) (fun _ => "0.0.0.0") erased.1 idle badAddress
      ((wifiApiJsonStaSetStaticConf (fun _ => none) idle idle (Vector.replicate 4 0)
        badAddress).run (start erased.1)) := by
  intro h
  have hbad : ¬ Parses (fun _ => none) badAddress := fun h => h .ip _ rfl rfl
  exact (h.error (.inl fun hvalid => hbad hvalid.2)).1 rfl

end WirelessEsp.StaticConf
