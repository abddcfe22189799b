import WirelessEsp.UsbipReceive

namespace WirelessEsp.UsbipReplies

open LeWords UsbipHeader UsbHandle UsbipServer UsbipReceive

theorem bytes_length (h : Stage2Header) : h.bytes.length = 48 := by
  simp [Stage2Header.bytes, wordBytes]

/-- A reply to a submit, as words in memory when it is sent, with the status and the number of
data bytes behind it. -/
structure Echoes (req : Stage2Header) (status : UInt32) (n : Nat) (h : Stage2Header) : Prop where
  command : h.command = ntohl USBIP_STAGE2_RSP_SUBMIT
  seqnum : h.seqnum = req.seqnum
  devid : h.devid = req.devid
  ep : h.ep = req.ep
  status : h.status = ntohl status
  dataLength : (ntohl h.dataLength).toNat = n
  startFrame : h.startFrame = 0
  numberOfPackets : h.numberOfPackets = 0
  errorCount : h.errorCount = 0

def Echoed (req : Stage2Header) (status : UInt32) (sends : List Send) : Prop :=
  ∃ (h : Stage2Header) (data : List UInt8) (rest : List (List UInt8)),
    sends = .retSubmit h data :: rest.map Send.payload ∧
      Echoes req status (data.length + rest.flatten.length) h

theorem ntohl_zero : ntohl 0 = 0 := by decide

theorem sendStage2Submit_echoed (req : Stage2Header) (status : UInt32) (rest : List (List UInt8))
    (h : rest.flatten.length < 2 ^ 32) :
    Echoed req status (sendStage2Submit req.swap status (UInt32.ofNat rest.flatten.length) ++
      rest.map Send.payload) := by
  refine ⟨_, [], rest, rfl, ?_⟩
  constructor
  · rfl
  · exact ntohl_ntohl _
  · exact ntohl_ntohl _
  · exact ntohl_ntohl _
  · rfl
  · rw [List.length_nil, Nat.zero_add]
    exact (congrArg UInt32.toNat (ntohl_ntohl _)).trans (UInt32.toNat_ofNat_of_lt' h)
  · exact ntohl_zero
  · exact ntohl_zero
  · exact ntohl_zero

theorem sendStage2SubmitData_echoed (req : Stage2Header) (status : UInt32) {data : List UInt8}
    (h : data.length < 2 ^ 32) : Echoed req status (sendStage2SubmitData req.swap status data) := by
  rw [sendStage2SubmitData]
  by_cases hdata : data.length = 0
  · rw [if_neg (not_not.mpr hdata), hdata]
    exact sendStage2Submit_echoed req status [] (by decide)
  · rw [if_pos hdata]
    have hflat : [data].flatten = data := List.append_nil data
    have hsent := sendStage2Submit_echoed req status [data] (hflat.symm ▸ h)
    rw [hflat] at hsent
    exact hsent

theorem sendStage2SubmitDataFast_echoed (req : Stage2Header) {data : List UInt8}
    (h : data.length < 2 ^ 32) : Echoed req 0 (sendStage2SubmitDataFast req data) := by
  refine ⟨_, data, [], rfl, ?_⟩
  constructor
  · rfl
  · rfl
  · rfl
  · rfl
  · rfl
  · exact (congrArg UInt32.toNat (ntohl_ntohl _)).trans (UInt32.toNat_ofNat_of_lt' h)
  · rfl
  · rfl
  · rfl

theorem notZero_ntohl (x : UInt32) : notZero (ntohl x) = notZero x := by
  have hzero : ntohl x = 0 ↔ x = 0 := by
    constructor
    · intro h
      rw [← ntohl_ntohl x, h]
      rfl
    · intro h
      rw [h]
      rfl
  simp only [notZero, beq_iff_eq, hzero]

theorem encoders_agree (req : Stage2Header) (data : List UInt8) :
    (sendStage2SubmitDataFast req data).flatMap Send.bytes =
      (sendStage2SubmitData req.swap 0 data).flatMap Send.bytes := by
  have hheader : (retSubmit { req.swap with
      command := USBIP_STAGE2_RSP_SUBMIT, direction := notZero req.swap.direction } 0
        (UInt32.ofNat data.length)).swap =
      retSubmit { req with
        command := ntohl USBIP_STAGE2_RSP_SUBMIT, direction := ntohl (notZero req.direction) } 0
        (ntohl (UInt32.ofNat data.length)) := by
    simp only [retSubmit, Stage2Header.swap, ntohl_ntohl, notZero_ntohl]
    rfl
  rw [sendStage2SubmitData, sendStage2Submit, hheader, sendStage2SubmitDataFast]
  by_cases hdata : data.length = 0
  · rw [if_neg (not_not.mpr hdata), List.eq_nil_of_length_eq_zero hdata]
    rfl
  · rw [if_pos hdata]
    simp only [List.flatMap_cons, List.flatMap_nil, List.cons_append, List.nil_append, Send.bytes,
      List.append_nil]

def acknowledged : UInt8 → List UInt8
  | 0x00 => [USB_REQ_CLEAR_FEATURE, USB_REQ_SET_FEATURE, USB_REQ_SET_ADDRESS, USB_REQ_SET_DESCRIPTOR,
      USB_REQ_SET_CONFIGURATION]
  | 0x01 => [USB_REQ_CLEAR_FEATURE, USB_REQ_SET_FEATURE, USB_REQ_SET_INTERFACE]
  | 0x02 => [USB_REQ_CLEAR_FEATURE, USB_REQ_SET_FEATURE]
  | 0x80 => [USB_REQ_GET_CONFIGURATION, USB_REQ_GET_STATUS]
  | 0x81 => [USB_REQ_GET_INTERFACE, USB_REQ_SET_SYNCH_FRAME, USB_REQ_GET_STATUS]
  | 0x82 => [USB_REQ_GET_STATUS]
  | 0x21 => [USB_REQ_SET_IDLE]
  | _ => []

def DescriptorAnswered (h : Stage2Header) : Prop :=
  wValueHigh h ∈ [1, 2, 4, 5, 6, 7, 8, 15] ∨
  wValueHigh h = 3 ∧ (wValueLow h < 4 ∨ wValueLow h = 0xEE)

def ControlAnswered (h : Stage2Header) : Prop :=
  bRequest h ∈ acknowledged (bmRequestType h) ∨
  bmRequestType h = 0x80 ∧ bRequest h = USB_REQ_GET_DESCRIPTOR ∧ DescriptorAnswered h ∨
  bmRequestType h = 0xC0 ∧ wIndex h = MS_OS_20_DESCRIPTOR_INDEX

theorem stringDescriptor_length : ∀ s ∈ stringsList, (stringDescriptor s).length < 2 ^ 32 := by
  decide

/-- A branch that replies once when its condition holds, and else sends nothing. -/
structure Answers (req : Stage2Header) (answered : Prop) (reply : Option (List Send)) : Prop where
  once : answered → ∃ sends, reply = some sends ∧ Echoed req 0 sends
  silent : ¬answered → reply = none ∨ reply = some []

theorem Answers.reply {req : Stage2Header} {answered : Prop} {sends : List Send} (h : answered)
    (hsends : Echoed req 0 sends) : Answers req answered (some sends) := by
  constructor
  · intro _
    exact ⟨sends, rfl, hsends⟩
  · intro hno
    exact absurd h hno

theorem Answers.nothing {req : Stage2Header} {answered : Prop} (h : ¬answered) :
    Answers req answered (some []) := by
  constructor
  · intro hyes
    exact absurd hyes h
  · intro _
    exact .inr rfl

theorem Answers.congr {req : Stage2Header} {p q : Prop} {reply : Option (List Send)} (h : p ↔ q)
    (hq : Answers req q reply) : Answers req p reply := by
  constructor
  · intro hp
    exact hq.once (h.mp hp)
  · intro hp
    apply hq.silent
    intro hyes
    exact hp (h.mpr hyes)

theorem bRequest_swap (req : Stage2Header) : bRequest req.swap = bRequest req := rfl

theorem wIndex_swap (req : Stage2Header) : wIndex req.swap = wIndex req := rfl

theorem acknowledge_echoed (req : Stage2Header) : Echoed req 0 (acknowledge req.swap) :=
  sendStage2SubmitData_echoed req 0 (by decide)

theorem acknowledgeIf_answers (requests : List UInt8) (req : Stage2Header) :
    Answers req (bRequest req ∈ requests) (some (acknowledgeIf requests req.swap)) := by
  rw [acknowledgeIf, bRequest_swap]
  by_cases h : bRequest req ∈ requests
  · rw [if_pos (List.contains_iff_mem.mpr h)]
    exact .reply h (acknowledge_echoed req)
  · rw [if_neg (fun hmem => h (List.contains_iff_mem.mp hmem))]
    exact .nothing h

theorem getString_answers (req : Stage2Header) :
    Answers req (wValueLow req < 4 ∨ wValueLow req = 0xEE) (getString req.swap (wValueLow req)) := by
  rw [getString]
  by_cases hzero : wValueLow req = 0
  · rw [if_pos (beq_iff_eq.mpr hzero)]
    exact .reply (.inl (hzero ▸ by decide)) (sendStage2SubmitData_echoed req 0 (by decide))
  · rw [if_neg (by simpa using hzero)]
    by_cases hspecial : wValueLow req = 0xEE
    · rw [hspecial]
      exact .reply (.inr rfl) (sendStage2Submit_echoed req 0 [] (by decide))
    · rw [if_pos (by simpa using hspecial)]
      have hlist : stringsList.length = 4 := rfl
      by_cases hlt : (wValueLow req).toNat < 4
      · rw [List.getElem?_eq_getElem (by omega)]
        exact .reply (.inl (UInt8.lt_iff_toNat_lt.mpr hlt))
          (sendStage2SubmitData_echoed req 0 (stringDescriptor_length _ (List.getElem_mem _)))
      · rw [List.getElem?_eq_none (by omega)]
        constructor
        · rintro (hyes | hyes)
          · exact absurd (UInt8.lt_iff_toNat_lt.mp hyes) hlt
          · exact absurd hyes hspecial
        · intro _
          exact .inl rfl

theorem getConfiguration_echoed (req : Stage2Header) : Echoed req 0 (getConfiguration req.swap) := by
  rw [getConfiguration]
  by_cases h : req.swap.dataLength = UInt32.ofNat kUSBd0ConfigDescriptor.length
  · rw [if_pos (beq_iff_eq.mpr h), h]
    exact sendStage2Submit_echoed req 0 [kUSBd0ConfigDescriptor] (by decide)
  · rw [if_neg (by simpa using h)]
    exact sendStage2Submit_echoed req 0 [kUSBd0ConfigDescriptor, kUSBd0InterfaceDescriptor]
      (by decide)

theorem handleGetDescriptor_answers (req : Stage2Header) :
    Answers req (DescriptorAnswered req) (handleGetDescriptor req.swap) := by
  unfold handleGetDescriptor
  have hlisted : ∀ v : UInt8, wValueHigh req = v → v ∈ [1, 2, 4, 5, 6, 7, 8, 15] →
      DescriptorAnswered req := by
    intro v hv hmem
    exact .inl (hv ▸ hmem)
  split
  next h => exact .reply (hlisted _ h (by decide)) (sendStage2SubmitData_echoed req 0 (by decide))
  next h => exact .reply (hlisted _ h (by decide)) (getConfiguration_echoed req)
  next h =>
    refine .congr ?_ (getString_answers req)
    have hstring : wValueHigh req = 3 := h
    rw [DescriptorAnswered, hstring]
    simp
  next h => exact .reply (hlisted _ h (by decide)) (sendStage2Submit_echoed req 0 [] (by decide))
  next h => exact .reply (hlisted _ h (by decide)) (sendStage2Submit_echoed req 0 [] (by decide))
  next h => exact .reply (hlisted _ h (by decide)) (sendStage2SubmitData_echoed req 0 (by decide))
  next h => exact .reply (hlisted _ h (by decide)) (sendStage2Submit_echoed req 0 [] (by decide))
  next h => exact .reply (hlisted _ h (by decide)) (sendStage2Submit_echoed req 0 [] (by decide))
  next h =>
    refine .reply (hlisted _ h (by decide)) (sendStage2SubmitData_echoed req 0 ?_)
    have hbos : bosDescriptor.length < 2 ^ 32 := by decide
    exact Nat.lt_of_le_of_lt (List.length_take_le' _ _) hbos
  next h1 h2 h3 h4 h5 h6 h7 h8 h15 =>
    apply Answers.nothing
    rintro (hmem | ⟨hstring, -⟩)
    · simp only [List.mem_cons, List.not_mem_nil, or_false] at hmem
      rcases hmem with h | h | h | h | h | h | h | h
      · exact h1 h
      · exact h2 h
      · exact h4 h
      · exact h5 h
      · exact h6 h
      · exact h7 h
      · exact h8 h
      · exact h15 h
    · exact h3 hstring

theorem handleUsbControlRequest_answers (req : Stage2Header) :
    Answers req (ControlAnswered req) (handleUsbControlRequest req.swap) := by
  unfold handleUsbControlRequest
  have hplain : ∀ t : UInt8, bmRequestType req = t → t ≠ 0x80 → t ≠ 0xC0 →
      (ControlAnswered req ↔ bRequest req ∈ acknowledged t) := by
    intro t ht h80 hC0
    rw [ControlAnswered, ht]
    simp [h80, hC0]
  have hack : ∀ t : UInt8, bmRequestType req = t → t ≠ 0x80 → t ≠ 0xC0 →
      Answers req (ControlAnswered req) (some (acknowledgeIf (acknowledged t) req.swap)) := by
    intro t ht h80 hC0
    exact .congr (hplain t ht h80 hC0) (acknowledgeIf_answers _ req)
  split
  next h => exact hack _ h (by decide) (by decide)
  next h => exact hack _ h (by decide) (by decide)
  next h => exact hack _ h (by decide) (by decide)
  next h =>
    have htype : bmRequestType req = 0x80 := h
    rw [bRequest_swap]
    by_cases hget : bRequest req = USB_REQ_GET_DESCRIPTOR
    · rw [if_pos (beq_iff_eq.mpr hget)]
      refine .congr ?_ (handleGetDescriptor_answers req)
      rw [ControlAnswered, htype, hget]
      simp [acknowledged, USB_REQ_GET_DESCRIPTOR, USB_REQ_GET_CONFIGURATION, USB_REQ_GET_STATUS]
    · rw [if_neg (fun heq => hget (beq_iff_eq.mp heq))]
      refine .congr ?_ (acknowledgeIf_answers _ req)
      rw [ControlAnswered, htype]
      simp [acknowledged, hget]
  next h => exact hack _ h (by decide) (by decide)
  next h => exact hack _ h (by decide) (by decide)
  next h =>
    have htype : bmRequestType req = 0xC0 := h
    rw [wIndex_swap]
    by_cases hindex : wIndex req = MS_OS_20_DESCRIPTOR_INDEX
    · rw [if_pos (beq_iff_eq.mpr hindex)]
      have hset : msOs20DescriptorSetHeader.length = 0xA2 := rfl
      exact .reply (.inr (.inr ⟨htype, hindex⟩))
        (sendStage2SubmitData_echoed req 0 (hset ▸ by decide))
    · rw [if_neg (fun heq => hindex (beq_iff_eq.mp heq))]
      apply Answers.nothing
      rw [ControlAnswered, htype]
      simp [acknowledged, hindex]
  next h => exact hack _ h (by decide) (by decide)
  next h0 h1 h2 h80 h81 h82 hC0 h21 =>
    apply Answers.nothing
    rintro (hmem | ⟨h, -⟩ | ⟨h, -⟩)
    · unfold acknowledged at hmem
      split at hmem
      next h => exact h0 h
      next h => exact h1 h
      next h => exact h2 h
      next h => exact h80 h
      next h => exact h81 h
      next h => exact h82 h
      next h => exact h21 h
      next => cases hmem
    · exact h80 h
    · exact hC0 h

end WirelessEsp.UsbipReplies
