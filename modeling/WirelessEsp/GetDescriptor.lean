import Mathlib.Data.List.TakeDrop
import WirelessEsp.MemoryBlock
import WirelessEsp.UsbipReplies

namespace WirelessEsp.GetDescriptor

open LeWords UsbipHeader UsbHandle MemoryBlock UsbipReplies

def sizeofTempBuff : Nat := 64

def fillData : List UInt8 → Nat → List UInt8 → Option (List UInt8)
  | [], _, buff => some buff
  | c :: cs, i, buff => do
      let buff ← store buff (2 + 2 * i) [c, 0]
      fillData cs (i + 1) buff

/-- What is sent of `temp_buff` for the string at an index of `strings_list`. -/
def fillString (s buff : List UInt8) : Option (List UInt8) := do
  let buffLen := 2 + 2 * s.length
  let buff ← store buff 0 [UInt8.ofNat buffLen]
  let buff ← store buff 1 [0x03]
  let buff ← fillData s 0 buff
  fetch buff 0 buffLen

/-- `getString` with the reads of `strings_list` and the writes of `temp_buff`, none when one of
them is outside. -/
def getStringChecked (h : Stage2Header) (index : UInt8) (buff : List UInt8) :
    Option (List Send) :=
  if index == 0 then some (sendStage2SubmitData h 0 kLangDescriptor)
  else if index != 0xEE then do
    let s ← stringsList[index.toNat]?
    let data ← fillString s buff
    some (sendStage2SubmitData h 0 data)
  else some (sendStage2Submit h 0 0)

def handleGetDescriptorChecked (h : Stage2Header) (buff : List UInt8) : Option (List Send) :=
  if wValueHigh h == 3 then getStringChecked h (wValueLow h) buff else handleGetDescriptor h

theorem wide_cons (c : UInt8) (cs : List UInt8) : wide (c :: cs) = [c, 0] ++ wide cs := rfl

theorem wide_length (s : List UInt8) : (wide s).length = 2 * s.length := by
  induction s with
  | nil => rfl
  | cons c cs ih =>
      have htwo : [c, 0].length = 2 := rfl
      rw [wide_cons, List.length_append, ih, htwo, List.length_cons]
      omega

theorem fillData_eq {s pre rest buff : List UInt8} {i : Nat} (hbuff : buff = pre ++ rest)
    (hpre : pre.length = 2 + 2 * i) (hroom : 2 * s.length ≤ rest.length) :
    fillData s i buff = some (pre ++ wide s ++ rest.drop (2 * s.length)) := by
  induction s generalizing pre rest buff i with
  | nil =>
      rw [fillData, hbuff]
      exact congrArg some (by simp [wide])
  | cons c cs ih =>
      rw [List.length_cons] at hroom
      have hold : (rest.take 2).length = 2 := List.length_take_of_le (by omega)
      have hsplit : buff = pre ++ rest.take 2 ++ rest.drop 2 := by
        rw [hbuff, List.append_assoc, List.take_append_drop]
      have hstore : store buff (2 + 2 * i) [c, 0] = some (pre ++ [c, 0] ++ rest.drop 2) :=
        store_segment hsplit hpre.symm hold.symm
      have hlen : (pre ++ [c, 0]).length = 2 + 2 * (i + 1) := by
        rw [List.length_append, hpre]
        rfl
      have hleft : 2 * cs.length ≤ (rest.drop 2).length := by
        rw [List.length_drop]
        omega
      have hrest := ih rfl hlen hleft
      rw [fillData, hstore]
      refine hrest.trans (congrArg some ?_)
      rw [List.drop_drop, List.length_cons, wide_cons, Nat.mul_succ, Nat.add_comm 2,
        ← List.append_assoc pre]

theorem fillString_eq {s buff : List UInt8} (hbuff : buff.length = sizeofTempBuff)
    (hs : s.length ≤ 31) : fillString s buff = some (stringDescriptor s) := by
  have hlong : 1 < buff.length := by
    rw [hbuff]
    decide
  have hsplit : buff = [] ++ [buff[0]] ++ buff[1] :: buff.drop 2 := by
    rw [List.nil_append, List.singleton_append, ← List.drop_eq_getElem_cons,
      ← List.drop_eq_getElem_cons, List.drop_zero]
  generalize buff[0] = b₀, buff[1] = b₁, hdrop : buff.drop 2 = rest at hsplit
  have hrest : rest.length = 62 := by
    rw [← hdrop, List.length_drop, hbuff]
    rfl
  generalize hlen : UInt8.ofNat (2 + 2 * s.length) = buffLen
  have hfirst : store buff 0 [buffLen] = some ([buffLen] ++ [b₁] ++ rest) :=
    store_segment hsplit rfl rfl
  have hsecond : store ([buffLen] ++ [b₁] ++ rest) 1 [0x03] = some ([buffLen, 0x03] ++ rest) :=
    store_segment rfl rfl rfl
  have hdata : fillData s 0 ([buffLen, 0x03] ++ rest) = _ := fillData_eq rfl rfl (by omega)
  have hfilled : (2 + 2 * s.length) = ([buffLen, 0x03] ++ wide s).length := by
    rw [List.length_append, wide_length]
    rfl
  have hsent : fetch ([buffLen, 0x03] ++ wide s ++ rest.drop (2 * s.length)) 0
      (2 + 2 * s.length) = some ([buffLen, 0x03] ++ wide s) :=
    fetch_segment (List.nil_append _).symm List.length_nil.symm hfilled
  rw [fillString, hlen]
  simp only [Option.bind_eq_bind, hfirst, hsecond, hdata, hsent, Option.bind_some]
  rw [stringDescriptor, hlen]
  rfl

theorem stringsList_short : ∀ s ∈ stringsList, s.length ≤ 31 := by decide

theorem handleGetDescriptor_string (h : Stage2Header) (htype : wValueHigh h = 3) :
    handleGetDescriptor h = getString h (wValueLow h) := by
  unfold handleGetDescriptor
  rw [htype]
  rfl

/-- The buffer has room for each string of the list, so that only an index behind the list makes
the function go wrong. -/
theorem handleGetDescriptorChecked_eq (h : Stage2Header) {buff : List UInt8}
    (hbuff : buff.length = sizeofTempBuff) :
    handleGetDescriptorChecked h buff = handleGetDescriptor h := by
  rw [handleGetDescriptorChecked]
  split
  next hstring =>
    have htype : wValueHigh h = 3 := by simpa using hstring
    rw [handleGetDescriptor_string h htype, getStringChecked, getString]
    split
    · rfl
    · split
      · cases hs : stringsList[(wValueLow h).toNat]? with
        | none => rfl
        | some s =>
            have hshort := stringsList_short s (List.mem_of_getElem? hs)
            simp only [Option.bind_eq_bind, Option.bind_some, fillString_eq hbuff hshort]
            rfl
      · rfl
  · rfl

/-- The descriptor that a setup packet asks for, where there is one. -/
def descriptor (h : Stage2Header) : Option (List UInt8) :=
  match wValueHigh h with
  | 1 => some kUSBd0DeviceDescriptor
  | 2 => some (kUSBd0ConfigDescriptor ++ kUSBd0InterfaceDescriptor)
  | 3 =>
      if wValueLow h == 0 then some kLangDescriptor
      else (stringsList[(wValueLow h).toNat]?).map stringDescriptor
  | 6 => some (.replicate 10 0)
  | 15 => some bosDescriptor
  | _ => none

/-- The host asks for `wLength` bytes, and has room for as many as the transfer length. -/
def requested (h : Stage2Header) : Nat := min (wLength h).toNat h.dataLength.toNat

def Replies (data : List UInt8) (sends : List Send) : Prop :=
  ∃ (header : Stage2Header) (rest : List (List UInt8)),
    sends = .retSubmit header [] :: rest.map Send.payload ∧
      ntohl header.command = USBIP_STAGE2_RSP_SUBMIT ∧
      (ntohl header.dataLength).toNat = rest.flatten.length ∧ rest.flatten = data

/-- The index of a string is one of the list, or not looked up. -/
def ValidIndex (h : Stage2Header) : Prop :=
  wValueHigh h = 3 → wValueLow h < 4 ∨ wValueLow h = 0xEE

/-- The descriptor is no longer than asked for; or it is that of the configuration, and its nine
bytes are asked for alone; or that of the BOS, where `wLength` is what both lengths come to. -/
def Fits (h : Stage2Header) (full : List UInt8) : Prop :=
  full.length ≤ requested h ∨
  wValueHigh h = 2 ∧ h.dataLength = 9 ∧ 9 ≤ (wLength h).toNat ∨
  wValueHigh h = 15 ∧ (wLength h).toNat ≤ h.dataLength.toNat

/-- All memory accesses are inside, and a descriptor is sent up to the requested length. -/
def Serves (h : Stage2Header) (buff : List UInt8) : Prop :=
  ∃ sends, handleGetDescriptorChecked h buff = some sends ∧
    ∀ full, descriptor h = some full → Replies (full.take (requested h)) sends

variable {h : Stage2Header} {full data data' : List UInt8} {sends : List Send}

theorem Replies.unique (hr : Replies data sends) (hr' : Replies data' sends) : data = data' := by
  obtain ⟨header, rest, rfl, -, -, rfl⟩ := hr
  obtain ⟨header', rest', heq, -, -, rfl⟩ := hr'
  have hrest : rest.map Send.payload = rest'.map Send.payload := (List.cons.inj heq).2
  have hinj : Function.Injective Send.payload := fun _ _ h => Send.payload.inj h
  rw [List.map_injective_iff.mpr hinj hrest]

theorem sendStage2Submit_replies (h : Stage2Header) {rest : List (List UInt8)}
    (hlen : rest.flatten.length < 2 ^ 32) :
    Replies rest.flatten (sendStage2Submit h 0 (UInt32.ofNat rest.flatten.length) ++
      rest.map Send.payload) := by
  refine ⟨_, rest, rfl, ntohl_ntohl _, ?_, rfl⟩
  exact (congrArg UInt32.toNat (ntohl_ntohl _)).trans (UInt32.toNat_ofNat_of_lt' hlen)

theorem sendStage2SubmitData_replies (h : Stage2Header) (hlen : data.length < 2 ^ 32) :
    Replies data (sendStage2SubmitData h 0 data) := by
  rw [sendStage2SubmitData]
  have hflat : [data].flatten = data := List.append_nil data
  split
  · have hsent := sendStage2Submit_replies h (hflat.symm ▸ hlen)
    rw [hflat] at hsent
    exact hsent
  next hempty =>
    have hnil : data = [] := List.eq_nil_of_length_eq_zero (not_not.mp hempty)
    rw [hnil]
    exact @sendStage2Submit_replies h [] (by decide)

def sent (h : Stage2Header) (full : List UInt8) : List UInt8 :=
  if wValueHigh h = 2 then
    if h.dataLength = 9 then kUSBd0ConfigDescriptor else full
  else if wValueHigh h = 15 then full.take (wLength h).toNat
  else full

theorem sent_plain {v : UInt8} (htype : wValueHigh h = v) (h2 : v ≠ 2) (h15 : v ≠ 15) :
    sent h full = full := by
  rw [sent, htype, if_neg h2, if_neg h15]

theorem sent_bos (htype : wValueHigh h = 15) : sent h full = full.take (wLength h).toNat := by
  have h2 : wValueHigh h ≠ 2 := by
    rw [htype]
    decide
  rw [sent, if_neg h2, if_pos htype]

theorem getConfiguration_replies (htype : wValueHigh h = 2) :
    Replies (sent h (kUSBd0ConfigDescriptor ++ kUSBd0InterfaceDescriptor))
      (getConfiguration h) := by
  rw [sent, if_pos htype, getConfiguration]
  by_cases hfirst : h.dataLength = 9
  · have hlen : (h.dataLength == UInt32.ofNat kUSBd0ConfigDescriptor.length) = true :=
      beq_iff_eq.mpr hfirst
    rw [if_pos hfirst, if_pos hlen, hfirst]
    exact @sendStage2Submit_replies h [kUSBd0ConfigDescriptor] (by decide)
  · have hlen : ¬ (h.dataLength == UInt32.ofNat kUSBd0ConfigDescriptor.length) = true :=
      fun heq => hfirst (beq_iff_eq.mp heq)
    rw [if_neg hfirst, if_neg hlen]
    exact @sendStage2Submit_replies h [kUSBd0ConfigDescriptor, kUSBd0InterfaceDescriptor]
      (by decide)

theorem getString_replies (hfull : (if wValueLow h == 0 then some kLangDescriptor
      else (stringsList[(wValueLow h).toNat]?).map stringDescriptor) = some full) :
    ∃ sends, getString h (wValueLow h) = some sends ∧ Replies full sends := by
  rw [getString]
  split at hfull
  next hzero =>
    cases hfull
    rw [if_pos hzero]
    exact ⟨_, rfl, sendStage2SubmitData_replies h (by decide)⟩
  next hzero =>
    obtain ⟨s, hs, rfl⟩ := Option.map_eq_some_iff.mp hfull
    have hspecial : (wValueLow h != 0xEE) = true := by
      rw [bne_iff_ne]
      intro heq
      rw [heq] at hs
      cases hs
    rw [if_neg hzero, if_pos hspecial, hs]
    exact ⟨_, rfl, sendStage2SubmitData_replies h
      (stringDescriptor_length s (List.mem_of_getElem? hs))⟩

theorem handleGetDescriptor_replies (hfull : descriptor h = some full) :
    ∃ sends, handleGetDescriptor h = some sends ∧ Replies (sent h full) sends := by
  unfold handleGetDescriptor
  unfold descriptor at hfull
  split at hfull
  next htype =>
    cases hfull
    rw [htype, sent_plain htype (by decide) (by decide)]
    exact ⟨_, rfl, sendStage2SubmitData_replies h (by decide)⟩
  next htype =>
    cases hfull
    rw [htype]
    exact ⟨_, rfl, getConfiguration_replies htype⟩
  next htype =>
    rw [htype, sent_plain htype (by decide) (by decide)]
    exact getString_replies hfull
  next htype =>
    cases hfull
    rw [htype, sent_plain htype (by decide) (by decide)]
    exact ⟨_, rfl, sendStage2SubmitData_replies h (by decide)⟩
  next htype =>
    cases hfull
    rw [htype, sent_bos htype]
    refine ⟨_, rfl, sendStage2SubmitData_replies h ?_⟩
    exact lt_of_le_of_lt (List.length_take_le' _ _) (by decide)
  next => cases hfull

theorem sent_eq_iff (hfull : descriptor h = some full) :
    sent h full = full.take (requested h) ↔ Fits h full := by
  have hwhole : full = full.take (requested h) ↔ full.length ≤ requested h :=
    List.take_self_eq_iff full
  by_cases hconfig : wValueHigh h = 2
  · have hother : ¬ (wValueHigh h = 15 ∧ (wLength h).toNat ≤ h.dataLength.toNat) :=
      fun hbos => absurd (hconfig.symm.trans hbos.1) (by decide)
    by_cases hfirst : h.dataLength = 9
    · have hlong : ¬ (kUSBd0ConfigDescriptor ++ kUSBd0InterfaceDescriptor).length ≤
          requested h := by
        rw [requested, hfirst]
        exact fun hle => absurd (hle.trans (min_le_right _ _)) (by decide)
      obtain rfl : full = kUSBd0ConfigDescriptor ++ kUSBd0InterfaceDescriptor := by
        unfold descriptor at hfull
        rw [hconfig] at hfull
        exact (Option.some.inj hfull).symm
      have hnine : h.dataLength.toNat = 9 := congrArg UInt32.toNat hfirst
      have hpart : kUSBd0ConfigDescriptor =
          (kUSBd0ConfigDescriptor ++ kUSBd0InterfaceDescriptor).take 9 := rfl
      rw [sent, if_pos hconfig, if_pos hfirst, Fits, or_iff_right hlong, or_iff_left hother]
      rw [requested, hnine, and_iff_right hconfig, and_iff_right hfirst]
      constructor
      · intro heq
        have hlen := congrArg List.length heq
        rw [List.length_take] at hlen
        have hshort : kUSBd0ConfigDescriptor.length = 9 := rfl
        omega
      · intro hle
        rw [min_eq_right hle]
        rfl
    · have hno : ¬ (wValueHigh h = 2 ∧ h.dataLength = 9 ∧ 9 ≤ (wLength h).toNat) :=
        fun hyes => hfirst hyes.2.1
      rw [sent, if_pos hconfig, if_neg hfirst, hwhole, Fits, or_iff_left (not_or.mpr ⟨hno, hother⟩)]
  · have hno : ¬ (wValueHigh h = 2 ∧ h.dataLength = 9 ∧ 9 ≤ (wLength h).toNat) :=
      fun hyes => hconfig hyes.1
    by_cases hbos : wValueHigh h = 15
    · have hlast : (wValueHigh h = 15 ∧ (wLength h).toNat ≤ h.dataLength.toNat) ↔
          (wLength h).toNat ≤ h.dataLength.toNat := and_iff_right hbos
      rw [sent_bos hbos, List.take_eq_take_iff, Fits, or_iff_right hno, hlast, requested]
      omega
    · have hother : ¬ (wValueHigh h = 15 ∧ (wLength h).toNat ≤ h.dataLength.toNat) :=
        fun hyes => hbos hyes.1
      rw [sent_plain rfl hconfig hbos, hwhole, Fits, or_iff_left (not_or.mpr ⟨hno, hother⟩)]

theorem handleGetDescriptor_none (h : Stage2Header) :
    handleGetDescriptor h = none ↔ ¬ ValidIndex h := by
  by_cases htype : wValueHigh h = 3
  · have hlen : stringsList.length = 4 := rfl
    rw [handleGetDescriptor_string h htype, getString, ValidIndex, Classical.not_imp,
      and_iff_right htype, not_or]
    by_cases hzero : wValueLow h = 0
    · have hlow : wValueLow h < 4 := by
        rw [hzero]
        decide
      rw [if_pos (beq_iff_eq.mpr hzero)]
      exact ⟨fun hnone => absurd hnone (Option.some_ne_none _), fun hno => absurd hlow hno.1⟩
    · rw [if_neg (fun heq => hzero (beq_iff_eq.mp heq))]
      by_cases hspecial : wValueLow h = 0xEE
      · rw [hspecial]
        exact ⟨fun hnone => absurd hnone (Option.some_ne_none _), fun hno => absurd rfl hno.2⟩
      · rw [if_pos (bne_iff_ne.mpr hspecial), Option.map_eq_none_iff, List.getElem?_eq_none_iff,
          hlen, and_iff_left hspecial, UInt8.lt_iff_toNat_lt, not_lt]
        rfl
  · have hvalid : ValidIndex h := fun heq => absurd heq htype
    rw [iff_false_right (not_not.mpr hvalid)]
    unfold handleGetDescriptor
    split
    next => exact Option.some_ne_none _
    next => exact Option.some_ne_none _
    next hstring => exact absurd hstring htype
    all_goals exact Option.some_ne_none _

variable {buff : List UInt8}

theorem valid_of_serves (hbuff : buff.length = sizeofTempBuff) (hs : Serves h buff) :
    ValidIndex h := by
  obtain ⟨sends, hsends, -⟩ := hs
  rw [handleGetDescriptorChecked_eq h hbuff] at hsends
  by_contra hindex
  rw [(handleGetDescriptor_none h).mpr hindex] at hsends
  cases hsends

theorem fits_of_serves (hbuff : buff.length = sizeofTempBuff) (hs : Serves h buff)
    (hfull : descriptor h = some full) : Fits h full := by
  obtain ⟨sends, hsends, hreplies⟩ := hs
  rw [handleGetDescriptorChecked_eq h hbuff] at hsends
  obtain ⟨sends', hsends', hsent⟩ := handleGetDescriptor_replies hfull
  obtain rfl : sends = sends' := Option.some.inj (hsends.symm.trans hsends')
  exact (sent_eq_iff hfull).mp (hsent.unique (hreplies full hfull))

/-- A request is served as it asks exactly when a string that it asks for is in the list, and the
descriptor is no longer than asked for, but for the two branches that look at a length. -/
theorem serves_iff (h : Stage2Header) (buff : List UInt8) (hbuff : buff.length = sizeofTempBuff) :
    Serves h buff ↔ ValidIndex h ∧ ∀ full, descriptor h = some full → Fits h full := by
  constructor
  · exact fun hs => ⟨valid_of_serves hbuff hs, fun full => fits_of_serves hbuff hs⟩
  · rintro ⟨hindex, hfits⟩
    have hsome : handleGetDescriptor h ≠ none :=
      fun hnone => (handleGetDescriptor_none h).mp hnone hindex
    obtain ⟨sends, hsends⟩ := Option.ne_none_iff_exists'.mp hsome
    rw [Serves, handleGetDescriptorChecked_eq h hbuff]
    refine ⟨sends, hsends, fun full hfull => ?_⟩
    obtain ⟨sends', hsends', hsent⟩ := handleGetDescriptor_replies hfull
    obtain rfl : sends = sends' := Option.some.inj (hsends.symm.trans hsends')
    rw [← (sent_eq_iff hfull).mpr (hfits full hfull)]
    exact hsent

/-- `GET_DESCRIPTOR` of the device, for `n` bytes. -/
def deviceRequest (n : UInt8) : Stage2Header :=
  ⟨1, 1, 1, 1, 0, 0, n.toUInt32, 0, 0, 0, #v[0x80, 6, 0, 1, 0, 0, n, 0]⟩

theorem serves_device : Serves (deviceRequest 64) (.replicate 64 0) :=
  (serves_iff _ _ rfl).mpr ⟨by unfold ValidIndex; decide, fun full hfull => by
    obtain rfl : kUSBd0DeviceDescriptor = full := Option.some.inj hfull
    exact .inl (by decide)⟩

/-- A host that asks for the first eight bytes gets all eighteen. -/
theorem not_serves_device : ¬ ∀ (h : Stage2Header) (buff : List UInt8),
    buff.length = sizeofTempBuff → Serves h buff := by
  intro hall
  have hbuff : (List.replicate 64 (0 : UInt8)).length = sizeofTempBuff := rfl
  have hfits := fits_of_serves hbuff (hall (deviceRequest 8) _ hbuff) rfl
  rcases hfits with hlen | ⟨htype, -⟩ | ⟨htype, -⟩
  · exact absurd hlen (by decide)
  · exact absurd htype (by decide)
  · exact absurd htype (by decide)

end WirelessEsp.GetDescriptor
