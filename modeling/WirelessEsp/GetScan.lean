import WirelessEsp.ByteText

namespace WirelessEsp.GetScan

open ByteText

/-- The fields of `wifi_ap_record_t` that are looked at. The driver terminates the SSID. -/
structure ApRecord where
  bssid : Vector UInt8 6
  ssid : Vector UInt8 33
  rssi : Int8
  terminated : 0 ∈ ssid.toList

/-- `wifi_api_ap_scan_info_t` without the addresses, which nothing reads. -/
structure ApScanInfo where
  ssid : List UInt8
  mac : List UInt8
  rssi : Int8

def ESP_ERR_NO_MEM : Int := 0x101

def ESP_ERR_NOT_FINISHED : Int := 0x10C

/-- How the scan of a channel ends: it is not started, no event arrives in time, or an event has a
status and a number, and the driver has these records. -/
inductive Channel
  | notStarted
  | timeout
  | done (status : UInt32) (number : UInt8) (found : List ApRecord)

/-- What the manager finds: the lock, the endless reconnection, and the 13 channels. -/
structure Scan where
  take : Bool
  isEndlessConnect : Bool
  channels : Vector Channel 13

/-- The records that are counted. The driver writes as many as there is room for; the first one
that is too weak ends the count. -/
def wifiOnScanDone (status : UInt32) (number : UInt8) (found : List ApRecord) (room : Nat) :
    List ApRecord :=
  let n := if status = 1 ∨ number = 0 then 0 else room
  (found.take n).takeWhile fun r => !decide (r.rssi < -80)

/-- The error and the records that are counted so far, which are at the start of the array. -/
def scanLoop (maxAp : Nat) : List ApRecord → List Channel → Int × List ApRecord
  | aps, [] => (0, aps)
  | aps, .notStarted :: _ => (1, aps)
  | aps, .timeout :: _ => (1, aps)
  | aps, .done status number found :: channels =>
      scanLoop maxAp (aps ++ wifiOnScanDone status number found (maxAp - aps.length)) channels

/-- The error, the number and the records; a busy lock leaves the number as it is. -/
def wifiManagerGetScanList (s : Scan) (number : Nat) : Int × Nat × List ApRecord :=
  if !s.take && !s.isEndlessConnect then (1, number, [])
  else
    let (err, aps) := scanLoop number [] s.channels.toList
    (err, aps.length, aps)

def rssiComp (r1 r2 : ApScanInfo) : Int := r2.rssi.toInt - r1.rssi.toInt

/-- A `qsort` with `rssiComp`, which may order equal elements in any way. -/
structure Qsort where
  sort : List ApScanInfo → List ApScanInfo
  perm : ∀ l, (sort l).Perm l
  sorted : ∀ l, (sort l).Pairwise fun a b => rssiComp a b ≤ 0

def toScanInfo (r : ApRecord) : ApScanInfo where
  ssid := strncpy r.ssid.toList 33
  mac := strncpy r.bssid.toList 6
  rssi := r.rssi

/-- `allocated` is whether `malloc` has memory for the records. -/
def wifiApiGetScanList (q : Qsort) (allocated : Bool) (s : Scan) (number : Nat)
    (apInfo : List ApScanInfo) : Int × Nat × List ApScanInfo :=
  if !allocated then (ESP_ERR_NO_MEM, number, apInfo)
  else
    let (err, number, aps) := wifiManagerGetScanList s number
    if err ≠ 0 then (err, number, apInfo)
    else (0, number, q.sort (aps.map toScanInfo) ++ apInfo.drop number)

structure Entry where
  rssi : Int
  ssid : List UInt8
  mac : List UInt8

def macStr (m : List UInt8) : List UInt8 := hexBytes (m.take 6)

def serializeAp (info : ApScanInfo) : Entry where
  rssi := info.rssi.toInt
  ssid := cString info.ssid
  mac := macStr info.mac

/-- `req->out`, with the command of the header in front of the list. -/
inductive Out
  | err (msg : String)
  | scanList (cmd : Nat) (entries : List Entry)

def wifiApiJsonSerializeScanList (apsInfo : List ApScanInfo) (count : Nat) : Out :=
  .scanList 3 ((apsInfo.take count).map serializeAp)

/-- `stack` is what the array has before anything is stored in it. -/
def wifiApiJsonGetScan (q : Qsort) (allocated : Bool) (s : Scan) (stack : Vector ApScanInfo 20) :
    Int × Out :=
  let (err, maxCount, apInfo) := wifiApiGetScanList q allocated s 20 stack.toList
  if err = ESP_ERR_NOT_FINISHED then (1, .err "Wi-Fi scan busy")
  else (0, wifiApiJsonSerializeScanList apInfo maxCount)

/-- The scan can begin, and every channel is scanned in time. -/
def Scan.Completes (s : Scan) : Prop :=
  (s.take = true ∨ s.isEndlessConnect = true) ∧
    ∀ c ∈ s.channels.toList, ∃ status number found, c = .done status number found

/-- The records of a scan, up to 20. -/
def Scan.records (s : Scan) : List ApRecord := (scanLoop 20 [] s.channels.toList).2

def Entry.read (e : Entry) : Int × List UInt8 × Option (List UInt8) :=
  (e.rssi, e.ssid, parseBytes e.mac)

def ApRecord.read (r : ApRecord) : Int × List UInt8 × Option (List UInt8) :=
  (r.rssi.toInt, cString r.ssid.toList, some r.bssid.toList)

/-- An error and no list, or the records of the completed scan, the strongest first. -/
def Sound (s : Scan) (allocated : Bool) (reply : Int × Out) : Prop :=
  (reply.1 ≠ 0 ∧ ∃ msg, reply.2 = .err msg) ∨
    allocated = true ∧ s.Completes ∧ ∃ entries, reply = (0, .scanList 3 entries) ∧
      entries.Pairwise (fun a b => b.rssi ≤ a.rssi) ∧
      (entries.map Entry.read).Perm (s.records.map ApRecord.read)

variable {maxAp : Nat} {aps : List ApRecord} {channels : List Channel}

theorem scanLoop_err (maxAp : Nat) (aps : List ApRecord) (channels : List Channel) :
    (scanLoop maxAp aps channels).1 = 0 ∨ (scanLoop maxAp aps channels).1 = 1 := by
  induction channels generalizing aps with
  | nil => exact .inl rfl
  | cons c channels ih =>
      cases c with
      | notStarted => exact .inr rfl
      | timeout => exact .inr rfl
      | done status number found => exact ih _

theorem scanLoop_ok_iff : (scanLoop maxAp aps channels).1 = 0 ↔
    ∀ c ∈ channels, ∃ status number found, c = .done status number found := by
  induction channels generalizing aps with
  | nil => exact ⟨fun _ c hc => absurd hc List.not_mem_nil, fun _ => rfl⟩
  | cons c channels ih =>
      rw [List.forall_mem_cons]
      cases c with
      | notStarted | timeout =>
          constructor
          · exact fun h => absurd h Int.one_ne_zero
          · rintro ⟨⟨_, _, _, h⟩, -⟩
            cases h
      | done status number found =>
          rw [scanLoop, ih]
          exact ⟨fun h => ⟨⟨status, number, found, rfl⟩, h⟩, fun h => h.2⟩

variable {q : Qsort} {allocated : Bool} {s : Scan} {stack : Vector ApScanInfo 20}

theorem wifiManagerGetScanList_err (s : Scan) (number : Nat) :
    (wifiManagerGetScanList s number).1 = 0 ∨ (wifiManagerGetScanList s number).1 = 1 := by
  simp only [wifiManagerGetScanList]
  split
  · exact .inr rfl
  · exact scanLoop_err number [] s.channels.toList

theorem wifiManagerGetScanList_ok_iff (s : Scan) (number : Nat) :
    (wifiManagerGetScanList s number).1 = 0 ↔ s.Completes := by
  simp only [wifiManagerGetScanList, Scan.Completes]
  by_cases hfree : s.take = true ∨ s.isEndlessConnect = true
  · have henter : (!s.take && !s.isEndlessConnect) = false := by
      rcases hfree with h | h <;> simp [h]
    simp only [henter, Bool.false_eq_true, if_false, hfree, true_and]
    exact scanLoop_ok_iff
  · have hbusy : (!s.take && !s.isEndlessConnect) = true := by
      simp only [not_or, Bool.not_eq_true] at hfree
      simp [hfree.1, hfree.2]
    simp only [hbusy, if_true, hfree, false_and, iff_false]
    exact Int.one_ne_zero

theorem wifiManagerGetScanList_completes (hs : s.Completes) (number : Nat) :
    wifiManagerGetScanList s number =
      (0, (scanLoop number [] s.channels.toList).2.length,
        (scanLoop number [] s.channels.toList).2) := by
  have hok := (wifiManagerGetScanList_ok_iff s number).mpr hs
  have henter : (!s.take && !s.isEndlessConnect) = false := by
    rcases hs.1 with h | h <;> simp [h]
  simp only [wifiManagerGetScanList, henter, Bool.false_eq_true, if_false] at hok ⊢
  exact Prod.ext hok rfl

theorem wifiApiGetScanList_err (q : Qsort) (allocated : Bool) (s : Scan) (number : Nat)
    (apInfo : List ApScanInfo) :
    (wifiApiGetScanList q allocated s number apInfo).1 ≠ ESP_ERR_NOT_FINISHED := by
  have hmem : ESP_ERR_NO_MEM ≠ ESP_ERR_NOT_FINISHED := by decide
  have hzero : (0 : Int) ≠ ESP_ERR_NOT_FINISHED := by decide
  have hone : (1 : Int) ≠ ESP_ERR_NOT_FINISHED := by decide
  simp only [wifiApiGetScanList]
  split
  · exact hmem
  · split
    · rcases wifiManagerGetScanList_err s number with h | h <;> rw [h] <;> assumption
    · exact hzero

theorem wifiApiJsonGetScan_ok (q : Qsort) (allocated : Bool) (s : Scan)
    (stack : Vector ApScanInfo 20) : ∃ entries,
      wifiApiJsonGetScan q allocated s stack = (0, .scanList 3 entries) := by
  have herr := wifiApiGetScanList_err q allocated s 20 stack.toList
  simp only [wifiApiJsonGetScan, if_neg herr]
  exact ⟨_, rfl⟩

theorem wifiApiJsonGetScan_completes (ha : allocated = true) (hs : s.Completes) :
    wifiApiJsonGetScan q allocated s stack =
      (0, .scanList 3 ((q.sort (s.records.map toScanInfo)).map serializeAp)) := by
  have hlength : (q.sort (s.records.map toScanInfo)).length = s.records.length := by
    rw [(q.perm _).length_eq, List.length_map]
  have hlist : wifiApiGetScanList q allocated s 20 stack.toList =
      (0, s.records.length, q.sort (s.records.map toScanInfo) ++
        stack.toList.drop s.records.length) := by
    simp only [wifiApiGetScanList, ha, Bool.not_true, Bool.false_eq_true, if_false,
      wifiManagerGetScanList_completes hs, ne_eq, not_true_eq_false]
    rfl
  simp only [wifiApiJsonGetScan, hlist]
  rw [if_neg (by decide), wifiApiJsonSerializeScanList, ← hlength, List.take_left]

theorem not_sound_of_fails (h : ¬ (allocated = true ∧ s.Completes)) :
    ¬ Sound s allocated (wifiApiJsonGetScan q allocated s stack) := by
  obtain ⟨entries, hreply⟩ := wifiApiJsonGetScan_ok q allocated s stack
  rw [hreply]
  rintro (⟨hstatus, -⟩ | ⟨ha, hs, -⟩)
  · exact hstatus rfl
  · exact h ⟨ha, hs⟩

def ApRecord.cutRead (r : ApRecord) : Int × List UInt8 × Option (List UInt8) :=
  (r.rssi.toInt, cString r.ssid.toList, some (strncpy r.bssid.toList 6))

theorem read_serializeAp (r : ApRecord) : (serializeAp (toScanInfo r)).read = r.cutRead := by
  have hssid : cString (strncpy r.ssid.toList 33) = cString r.ssid.toList := by
    have hlength := cString_length_lt r.terminated
    rw [Vector.length_toList] at hlength
    rw [cString_strncpy, List.take_of_length_le (Nat.le_of_lt hlength)]
  have hmac : parseBytes (macStr (strncpy r.bssid.toList 6)) =
      some (strncpy r.bssid.toList 6) := by
    rw [macStr, List.take_of_length_le (Nat.le_of_eq strncpy_length)]
    exact parseBytes_hexBytes _
  simp only [Entry.read, serializeAp, toScanInfo, hssid, hmac, ApRecord.cutRead]

theorem cutRead_perm_iff (records : List ApRecord) :
    (records.map ApRecord.cutRead).Perm (records.map ApRecord.read) ↔
      ∀ r ∈ records, Intact r.bssid.toList := by
  constructor
  · intro hperm r hr
    have hmem := hperm.symm.subset (List.mem_map_of_mem hr)
    obtain ⟨r', -, hread⟩ := List.mem_map.mp hmem
    have hbssid : strncpy r'.bssid.toList 6 = r.bssid.toList :=
      Option.some.inj (congrArg (fun x => x.2.2) hread)
    rw [← hbssid]
    exact strncpy_intact _ _
  · intro hintact
    refine List.Perm.of_eq (List.map_congr_left fun r hr => ?_)
    rw [ApRecord.cutRead, ApRecord.read,
      (strncpy_eq_iff (Vector.length_toList)).mpr (hintact r hr)]

theorem serialized_sorted (q : Qsort) (infos : List ApScanInfo) :
    ((q.sort infos).map serializeAp).Pairwise fun a b => b.rssi ≤ a.rssi := by
  rw [List.pairwise_map]
  refine (q.sorted infos).imp fun h => ?_
  exact Int.le_of_sub_nonpos h

theorem serialized_read (q : Qsort) (records : List ApRecord) :
    (((q.sort (records.map toScanInfo)).map serializeAp).map Entry.read).Perm
      (records.map ApRecord.cutRead) := by
  have hperm := ((q.perm (records.map toScanInfo)).map serializeAp).map Entry.read
  refine hperm.trans (List.Perm.of_eq ?_)
  rw [List.map_map, List.map_map]
  exact List.map_congr_left fun r _ => read_serializeAp r

theorem sound_of_completes_iff (ha : allocated = true) (hs : s.Completes) :
    Sound s allocated (wifiApiJsonGetScan q allocated s stack) ↔
      ∀ r ∈ s.records, Intact r.bssid.toList := by
  rw [wifiApiJsonGetScan_completes ha hs, ← cutRead_perm_iff]
  have hread := serialized_read q s.records
  constructor
  · rintro (⟨hstatus, -⟩ | ⟨-, -, entries, hreply, -, hperm⟩)
    · exact absurd rfl hstatus
    · cases hreply
      exact hread.symm.trans hperm
  · intro hperm
    exact .inr ⟨ha, hs, _, rfl, serialized_sorted q _, hread.trans hperm⟩

/-- Whatever happens, the reply is one of the two that make sense exactly when the scan completes
with addresses that `strncpy` does not cut. -/
theorem wifiApiJsonGetScan_sound_iff (q : Qsort) (allocated : Bool) (s : Scan)
    (stack : Vector ApScanInfo 20) :
    Sound s allocated (wifiApiJsonGetScan q allocated s stack) ↔
      allocated = true ∧ s.Completes ∧ ∀ r ∈ s.records, Intact r.bssid.toList := by
  by_cases hok : allocated = true ∧ s.Completes
  · rw [sound_of_completes_iff hok.1 hok.2, ← and_assoc, and_iff_right hok]
  · rw [← and_assoc]
    exact iff_of_false (not_sound_of_fails hok) fun h => hok h.1

def mergeQsort : Qsort where
  sort := fun l => l.mergeSort fun a b => decide (rssiComp a b ≤ 0)
  perm := fun l => List.mergeSort_perm l _
  sorted := by
    intro l
    have htrans : ∀ a b c : ApScanInfo, decide (rssiComp a b ≤ 0) = true →
        decide (rssiComp b c ≤ 0) = true → decide (rssiComp a c ≤ 0) = true := by
      intro a b c hab hbc
      have hab' := of_decide_eq_true hab
      have hbc' := of_decide_eq_true hbc
      simp only [rssiComp] at hab' hbc'
      refine decide_eq_true ?_
      simp only [rssiComp]
      omega
    have htotal : ∀ a b : ApScanInfo,
        (decide (rssiComp a b ≤ 0) || decide (rssiComp b a ≤ 0)) = true := by
      intro a b
      rw [Bool.or_eq_true]
      rcases Int.le_total a.rssi.toInt b.rssi.toInt with h | h
      · exact .inr (decide_eq_true (Int.sub_nonpos_of_le h))
      · exact .inl (decide_eq_true (Int.sub_nonpos_of_le h))
    exact (List.pairwise_mergeSort htrans htotal l).imp fun h => of_decide_eq_true h

def busyScan : Scan := ⟨false, false, Vector.replicate 13 .timeout⟩

def homeRecord : ApRecord := ⟨#v[2, 0, 94, 16, 0, 1], Vector.replicate 33 0, -40, by decide⟩

def homeScan : Scan :=
  ⟨true, false, (Vector.replicate 13 (.done 0 0 [])).set 0 (.done 0 1 [homeRecord]) (by decide)⟩

theorem homeScan_completes : homeScan.Completes := by
  have hchannels : homeScan.channels.toList =
      .done 0 1 [homeRecord] :: List.replicate 12 (.done 0 0 []) := rfl
  refine ⟨.inl rfl, ?_⟩
  rw [hchannels, List.forall_mem_cons]
  refine ⟨⟨0, 1, _, rfl⟩, fun c hc => ⟨0, 0, [], List.eq_of_mem_replicate hc⟩⟩

def emptyStack : Vector ApScanInfo 20 := Vector.replicate 20 ⟨[], [], 0⟩

/-- The first reply lists what the stack has, as a success; the second one has the address
02:00:00:00:00:00. -/
theorem getScan_misreports :
    ¬ Sound busyScan true (wifiApiJsonGetScan mergeQsort true busyScan emptyStack) ∧
      ¬ Sound homeScan true (wifiApiJsonGetScan mergeQsort true homeScan emptyStack) := by
  constructor
  · apply not_sound_of_fails
    rintro ⟨-, h, -⟩
    rcases h with h | h <;> cases h
  · rw [sound_of_completes_iff rfl homeScan_completes]
    intro h
    have hintact := h homeRecord List.mem_cons_self
    exact absurd (hintact 94 (by decide)) (by decide)

end WirelessEsp.GetScan
