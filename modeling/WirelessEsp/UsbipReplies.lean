import WirelessEsp.UsbipControl

namespace WirelessEsp.UsbipReplies

open LeWords UsbipHeader UsbHandle UsbipServer UsbipReceive

section

variable {req : Stage2Header} (s : UrbState)

theorem urbCommand_in (hcommand : ntohl req.command = USBIP_STAGE2_REQ_SUBMIT)
    (hep : ntohl req.ep = 1) (hdir : ntohl req.direction = USBIP_DIR_IN) :
    urbCommand req s = (fastReply req s).map fun x => some (x.1, { x.2 with
      dapReqNum := if x.2.dapReqNum > 0 then x.2.dapReqNum - 1 else x.2.dapReqNum }) := by
  simp only [urbCommand, hcommand, hep, hdir, beq_self_eq_true, Bool.and_self, if_true]
  cases fastReply req s <;> rfl

theorem urbCommand_out (hcommand : ntohl req.command = USBIP_STAGE2_REQ_SUBMIT)
    (hep : ntohl req.ep = 1) (hdir : ntohl req.direction = USBIP_DIR_OUT) :
    urbCommand req s = .ok (some (sendStage2SubmitDataFast req [],
      { s with dapReqNum := s.dapReqNum + 1 })) := by
  have hne : (USBIP_DIR_OUT == USBIP_DIR_IN) = false := rfl
  simp only [urbCommand, hcommand, hep, hdir, hne, beq_self_eq_true, Bool.and_self, Bool.and_false,
    Bool.false_eq_true, if_true, if_false]
  rfl

theorem urbCommand_control (hcommand : ntohl req.command = USBIP_STAGE2_REQ_SUBMIT)
    (hep : ntohl req.ep = 0) : urbCommand req s =
      match handleUsbControlRequest req.swap with
      | none => .error .badIndex
      | some sends => .ok (some (sends, s)) := by
  have hne : ((0 : UInt32) == 1) = false := rfl
  simp only [urbCommand, hcommand, hep, hne, beq_self_eq_true, Bool.false_and, Bool.false_eq_true,
    if_true, if_false]
  cases handleUsbControlRequest req.swap <;> rfl

theorem urbCommand_reserved (hcommand : ntohl req.command = USBIP_STAGE2_REQ_SUBMIT)
    (hep : ntohl req.ep ≠ 0)
    (hdir : ntohl req.ep = 1 → ntohl req.direction ≠ USBIP_DIR_IN ∧ ntohl req.direction ≠ USBIP_DIR_OUT) :
    urbCommand req s = .ok (some (sendStage2Submit req 0 0, s)) := by
  have hin : (ntohl req.ep == 1 && ntohl req.direction == USBIP_DIR_IN) = false := by
    simp only [Bool.and_eq_false_imp, beq_iff_eq]
    intro h
    exact beq_false_of_ne (hdir h).1
  have hout : (ntohl req.ep == 1 && ntohl req.direction == USBIP_DIR_OUT) = false := by
    simp only [Bool.and_eq_false_imp, beq_iff_eq]
    intro h
    exact beq_false_of_ne (hdir h).2
  simp only [urbCommand, hcommand, hin, hout, beq_false_of_ne hep, beq_self_eq_true,
    Bool.false_eq_true, if_true, if_false]
  rfl

theorem urbCommand_unlink (hcommand : ntohl req.command = USBIP_STAGE2_REQ_UNLINK) :
    urbCommand req s = .ok (some (sendStage2Unlink req.swap, s)) := by
  have hne : (USBIP_STAGE2_REQ_UNLINK == USBIP_STAGE2_REQ_SUBMIT) = false := rfl
  simp only [urbCommand, hcommand, hne, beq_self_eq_true, Bool.false_eq_true, if_true, if_false]
  rfl

end

def OneReply (sends : List Send) : Prop :=
  ∃ (h : Stage2Header) (data : List UInt8) (rest : List (List UInt8)),
    sends = .retSubmit h data :: rest.map Send.payload ∧
      h.command = ntohl USBIP_STAGE2_RSP_SUBMIT ∧ h.bytes.length = 48

theorem Echoed.oneReply {req : Stage2Header} {status : UInt32} {sends : List Send}
    (h : Echoed req status sends) : OneReply sends := by
  obtain ⟨reply, data, rest, hsends, hechoes⟩ := h
  exact ⟨reply, data, rest, hsends, hechoes.command, bytes_length reply⟩

theorem oneReply_nil : ¬ OneReply [] := by
  rintro ⟨h, data, rest, hsends, -⟩
  cases hsends

/-- What `usbip_urb_process` sends for a command before it reads the next header. -/
structure AnsweredOnce (req : Stage2Header) (s : UrbState) : Prop where
  submit : ntohl req.command = USBIP_STAGE2_REQ_SUBMIT → ∃ sends s',
    urbCommand req s = .ok (some (sends, s')) ∧ OneReply sends
  unlink : ntohl req.command = USBIP_STAGE2_REQ_UNLINK → ∃ h s',
    urbCommand req s = .ok (some ([.retUnlink h], s')) ∧
      h.command = ntohl USBIP_STAGE2_RSP_UNLINK ∧ h.bytes.length = 48

/-- A submit to read the response of a packet gets an item of the right size from the ring, with
data that fits behind the header, and the setup packet of a submit to endpoint 0 is one with a
reply. -/
structure Answerable (req : Stage2Header) (s : UrbState) : Prop where
  ring : ntohl req.command = USBIP_STAGE2_REQ_SUBMIT → ntohl req.ep = 1 →
    ntohl req.direction = USBIP_DIR_IN → 0 < s.dapReqNum → ∃ length buf items,
      s.items = .packet length buf :: items ∧ 48 + length.toNat ≤ bufferLength
  control : ntohl req.command = USBIP_STAGE2_REQ_SUBMIT → ntohl req.ep = 0 → ControlAnswered req

theorem fastReply_packet {req : Stage2Header} {s : UrbState} {length : UInt16} {buf : Nat → UInt8}
    {items : List DapItem} (hnum : 0 < s.dapReqNum) (hitems : s.items = .packet length buf :: items)
    (hfit : 48 + length.toNat ≤ bufferLength) : fastReply req s =
      .ok (sendStage2SubmitDataFast req ((List.range length.toNat).map buf), { s with items }) := by
  rw [fastReply, if_pos hnum, hitems]
  exact if_neg (by omega)

theorem fastReply_empty {req : Stage2Header} {s : UrbState} (hnum : ¬ 0 < s.dapReqNum) :
    fastReply req s = .ok ([.retSubmit { req with
      command := ntohl USBIP_STAGE2_RSP_SUBMIT, direction := ntohl USBIP_DIR_OUT,
      transferFlags := 0, dataLength := 0, interval := 0 } []], s) := by
  rw [fastReply, if_neg hnum]

theorem fastReply_ring {req : Stage2Header} {s s' : UrbState} {sends : List Send}
    (hnum : 0 < s.dapReqNum) (h : fastReply req s = .ok (sends, s')) (hsends : sends ≠ []) :
    ∃ length buf items, s.items = .packet length buf :: items ∧ 48 + length.toNat ≤ bufferLength := by
  rw [fastReply, if_pos hnum] at h
  split at h
  next => cases h
  next length buf items hitems =>
    refine ⟨length, buf, items, hitems, ?_⟩
    split at h
    next => cases h
    next hfit => exact Nat.le_of_not_lt hfit
  next =>
    cases h
    exact absurd rfl hsends

theorem sendStage2Submit_oneReply (req : Stage2Header) (status n : UInt32) :
    OneReply (sendStage2Submit req status n) :=
  ⟨_, [], [], rfl, rfl, bytes_length _⟩

theorem answeredOnce_iff (req : Stage2Header) (s : UrbState) :
    AnsweredOnce req s ↔ Answerable req s := by
  constructor
  · intro h
    constructor
    · intro hcommand hep hdir hnum
      obtain ⟨sends, s', hurb, hreply⟩ := h.submit hcommand
      rw [urbCommand_in s hcommand hep hdir] at hurb
      cases hfast : fastReply req s with
      | error e =>
          rw [hfast] at hurb
          cases hurb
      | ok x =>
          rw [hfast] at hurb
          cases hurb
          refine fastReply_ring hnum hfast ?_
          intro hnil
          rw [hnil] at hreply
          exact oneReply_nil hreply
    · intro hcommand hep
      obtain ⟨sends, s', hurb, hreply⟩ := h.submit hcommand
      rw [urbCommand_control s hcommand hep] at hurb
      by_contra hno
      rcases (handleUsbControlRequest_answers req).silent hno with hnone | hnil
      · rw [hnone] at hurb
        cases hurb
      · rw [hnil] at hurb
        cases hurb
        exact oneReply_nil hreply
  · intro h
    constructor
    · intro hcommand
      by_cases hep : ntohl req.ep = 0
      · obtain ⟨sends, hcontrol, hechoed⟩ :=
          (handleUsbControlRequest_answers req).once (h.control hcommand hep)
        refine ⟨sends, s, ?_, hechoed.oneReply⟩
        rw [urbCommand_control s hcommand hep, hcontrol]
      · by_cases hin : ntohl req.ep = 1 ∧ ntohl req.direction = USBIP_DIR_IN
        · rw [urbCommand_in s hcommand hin.1 hin.2]
          by_cases hnum : 0 < s.dapReqNum
          · obtain ⟨length, buf, items, hitems, hfit⟩ := h.ring hcommand hin.1 hin.2 hnum
            rw [fastReply_packet hnum hitems hfit]
            refine ⟨_, _, rfl, (sendStage2SubmitDataFast_echoed req ?_).oneReply⟩
            have hlength := length.toNat_lt
            rw [List.length_map, List.length_range]
            omega
          · rw [fastReply_empty hnum]
            exact ⟨_, _, rfl, _, [], [], rfl, rfl, bytes_length _⟩
        · by_cases hout : ntohl req.ep = 1 ∧ ntohl req.direction = USBIP_DIR_OUT
          · rw [urbCommand_out s hcommand hout.1 hout.2]
            exact ⟨_, _, rfl, (sendStage2SubmitDataFast_echoed req (by decide)).oneReply⟩
          · rw [urbCommand_reserved s hcommand hep fun h1 => ⟨fun hd => hin ⟨h1, hd⟩,
              fun hd => hout ⟨h1, hd⟩⟩]
            exact ⟨_, _, rfl, sendStage2Submit_oneReply req 0 0⟩
    · intro hcommand
      rw [urbCommand_unlink s hcommand]
      exact ⟨_, _, rfl, rfl, bytes_length _⟩

/-- Every command of a run is answered once if and only if every one of them is answerable. -/
theorem answered_iff (p₀ : UrbPoint) :
    (∀ p r, Reached p₀ p → readCommand p = .ok r → AnsweredOnce r.req r.state) ↔
    (∀ p r, Reached p₀ p → readCommand p = .ok r → Answerable r.req r.state) := by
  simp only [answeredOnce_iff]

/-- A submit to endpoint 0 for a descriptor of type `0x0A`. -/
def unknownDescriptor : List UInt8 :=
  [0, 0, 0, 1, 0, 0, 0, 1, 0, 0, 0, 0, 0, 0, 0, 1] ++ List.replicate 24 0 ++
    [0x80, 6, 0, 0x0A, 0, 0, 0x40, 0]

theorem not_answered_descriptor : ¬ ∀ p r,
    Reached ⟨fun _ => 0, [unknownDescriptor], ⟨0, []⟩⟩ p → readCommand p = .ok r →
      AnsweredOnce r.req r.state := by
  intro h
  obtain ⟨r, hread, hreq, hstate⟩ := @readCommand_plain
    ⟨fun _ => 0, [unknownDescriptor], ⟨0, []⟩⟩ (by decide) (by decide)
  have hanswered := h _ r .refl hread
  rw [hreq, hstate] at hanswered
  obtain ⟨sends, s', hurb, hreply⟩ := hanswered.submit (by decide)
  rw [urbCommand_control _ (by decide) (by decide)] at hurb
  have hsilent : handleUsbControlRequest
      (headerOf (stream [unknownDescriptor])).swap = some [] := by decide
  rw [hsilent] at hurb
  cases hurb
  exact oneReply_nil hreply

/-- What is sent for a submit is its reply, with the fields of the request, and the two encoders
send the same bytes. -/
structure EchoedAlways (req : Stage2Header) (s : UrbState) : Prop where
  replies : ∀ sends s', urbCommand req s = .ok (some (sends, s')) → sends ≠ [] → Echoed req 0 sends
  encoders : ∀ data, (sendStage2SubmitDataFast req data).flatMap Send.bytes =
    (sendStage2SubmitData req.swap 0 data).flatMap Send.bytes

/-- The endpoint is not a reserved one, and a submit that is answered at once has the fields of
isochronous transfers zero. -/
structure Echoable (req : Stage2Header) (s : UrbState) : Prop where
  endpoint : ntohl req.ep = 0 ∨
    ntohl req.ep = 1 ∧ (ntohl req.direction = USBIP_DIR_IN ∨ ntohl req.direction = USBIP_DIR_OUT)
  frames : ntohl req.ep = 1 → ntohl req.direction = USBIP_DIR_IN → ¬ 0 < s.dapReqNum →
    req.startFrame = 0 ∧ req.numberOfPackets = 0

theorem Echoed.fields {req h : Stage2Header} {status : UInt32} {data : List UInt8}
    {rest : List Send} (hechoed : Echoed req status (.retSubmit h data :: rest)) :
    ∃ n, Echoes req status n h := by
  obtain ⟨h', data', rest', hsends, hechoes⟩ := hechoed
  cases hsends
  exact ⟨_, hechoes⟩

theorem ntohl_reserved {x : UInt32} (hx : ntohl x ≤ 15) (hne : ntohl x ≠ 0) : ntohl x ≠ x := by
  intro heq
  rw [heq] at hx hne
  have hrange : ∀ i < 16, ntohl (UInt32.ofNat i) = UInt32.ofNat i → i = 0 := by decide
  have hlt : x.toNat < 16 := Nat.lt_succ_of_le (UInt32.le_iff_toNat_le.mp hx)
  have hzero := hrange x.toNat hlt (by rw [UInt32.ofNat_toNat]; exact heq)
  exact hne (UInt32.toNat_inj.mp hzero)

theorem echoedAlways_iff (req : Stage2Header) (s : UrbState)
    (hcommand : ntohl req.command = USBIP_STAGE2_REQ_SUBMIT) (hep : ntohl req.ep ≤ 15) :
    EchoedAlways req s ↔ Echoable req s := by
  constructor
  · intro h
    constructor
    · by_contra hno
      have hep0 : ntohl req.ep ≠ 0 := fun h0 => hno (.inl h0)
      have hsent := urbCommand_reserved s hcommand hep0
        fun h1 => ⟨fun hd => hno (.inr ⟨h1, .inl hd⟩), fun hd => hno (.inr ⟨h1, .inr hd⟩)⟩
      obtain ⟨n, hechoes⟩ := (h.replies _ _ hsent (List.cons_ne_nil _ _)).fields
      exact ntohl_reserved hep hep0 hechoes.ep
    · intro hep1 hdir hnum
      have hsent := urbCommand_in s hcommand hep1 hdir
      rw [fastReply_empty hnum] at hsent
      obtain ⟨n, hechoes⟩ := (h.replies _ _ hsent (List.cons_ne_nil _ _)).fields
      exact ⟨hechoes.startFrame, hechoes.numberOfPackets⟩
  · intro h
    refine ⟨?_, encoders_agree req⟩
    intro sends s' hurb hsends
    rcases h.endpoint with hep0 | ⟨hep1, hin | hout⟩
    · rw [urbCommand_control s hcommand hep0] at hurb
      by_cases hanswered : ControlAnswered req
      · obtain ⟨sends', hcontrol, hechoed⟩ := (handleUsbControlRequest_answers req).once hanswered
        rw [hcontrol] at hurb
        cases hurb
        exact hechoed
      · rcases (handleUsbControlRequest_answers req).silent hanswered with hnone | hnil
        · rw [hnone] at hurb
          cases hurb
        · rw [hnil] at hurb
          cases hurb
          exact absurd rfl hsends
    · rw [urbCommand_in s hcommand hep1 hin] at hurb
      by_cases hnum : 0 < s.dapReqNum
      · cases hfast : fastReply req s with
        | error e =>
            rw [hfast] at hurb
            cases hurb
        | ok x =>
            rw [hfast] at hurb
            cases hurb
            obtain ⟨length, buf, items, hitems, hfit⟩ := fastReply_ring hnum hfast hsends
            rw [fastReply_packet hnum hitems hfit] at hfast
            cases hfast
            apply sendStage2SubmitDataFast_echoed
            have hlength := length.toNat_lt
            rw [List.length_map, List.length_range]
            omega
      · rw [fastReply_empty hnum] at hurb
        cases hurb
        obtain ⟨hframe, hpackets⟩ := h.frames hep1 hin hnum
        exact ⟨_, [], [], rfl, ⟨rfl, rfl, rfl, rfl, rfl,
          congrArg UInt32.toNat ntohl_zero, hframe, hpackets, rfl⟩⟩
    · rw [urbCommand_out s hcommand hep1 hout] at hurb
      cases hurb
      exact sendStage2SubmitDataFast_echoed req (by decide)

/-- A submit with sequence number 1, in network order. -/
def submitTo (ep direction : UInt32) : Stage2Header :=
  ⟨ntohl 1, ntohl 1, ntohl 1, ntohl direction, ntohl ep, 0, 0, 0, 0, 0, .replicate 8 0⟩

theorem echoedAlways_out : EchoedAlways (submitTo 1 USBIP_DIR_OUT) ⟨0, []⟩ :=
  (echoedAlways_iff (submitTo 1 USBIP_DIR_OUT) ⟨0, []⟩ (by decide) (by decide)).mpr
    ⟨by decide, fun _ h => absurd h (by decide)⟩

theorem not_echoed_reserved : ¬ EchoedAlways (submitTo 2 USBIP_DIR_IN) ⟨0, []⟩ := by
  intro h
  have hsent := @urbCommand_reserved (submitTo 2 USBIP_DIR_IN) ⟨0, []⟩ (by decide) (by decide)
    fun h1 => absurd h1 (by decide)
  obtain ⟨n, hechoes⟩ := (h.replies _ _ hsent (List.cons_ne_nil _ _)).fields
  exact absurd hechoes.seqnum (by decide)

end WirelessEsp.UsbipReplies
