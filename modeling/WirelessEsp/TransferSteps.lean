import WirelessEsp.DapTransfer

namespace WirelessEsp.TransferSteps

open DapTypes DapProbe DapTransfer

variable {σ : Type}

def timestampBytes (value : UInt32) : Nat := if has value DAP_TRANSFER_TIMESTAMP then 4 else 0

/-- The most that one request of `DAP_Transfer` puts into the response. -/
def requestBytes (value : UInt32) : Nat :=
  if has value DAP_TRANSFER_RnW then
    if has value DAP_TRANSFER_MATCH_VALUE then 0 else 4 + timestampBytes value
  else if has value DAP_TRANSFER_MATCH_MASK then 0
  else timestampBytes value

def nextMask (request : Request) (i : Nat) (mask : UInt32) : UInt32 :=
  let value := (request i).toUInt32
  if !has value DAP_TRANSFER_RnW && has value DAP_TRANSFER_MATCH_MASK then request.word (i + 1)
  else mask

/-- The request at offset `i` compares data with a value that has bits outside of the mask. -/
def unmatchable (request : Request) (i : Nat) (mask : UInt32) : Bool :=
  let value := (request i).toUInt32
  has value DAP_TRANSFER_RnW && has value DAP_TRANSFER_MATCH_VALUE &&
    request.word (i + 1) &&& mask != request.word (i + 1)

def due (l : Loop σ) : Nat := l.response.length + if l.postRead then 4 else 0

def mask (l : Loop σ) : UInt32 := l.state.dapData.transfer.matchMask

def Ends (good bad : Loop σ → Prop) : Step σ (Loop σ) → Prop
  | .ok l => good l
  | .error l => bad l

theorem Ends.mono {good good' bad bad' : Loop σ → Prop} {x : Step σ (Loop σ)} (h : Ends good bad x)
    (hgood : ∀ l, good l → good' l) (hbad : ∀ l, bad l → bad' l) : Ends good' bad' x := by
  cases x with
  | ok l => exact hgood l h
  | error l => exact hbad l h

theorem Ends.bind {good good' bad : Loop σ → Prop} {x : Step σ (Loop σ)}
    {f : Loop σ → Step σ (Loop σ)} (hx : Ends good bad x) (hf : ∀ l, good l → Ends good' bad (f l)) :
    Ends good' bad (x >>= f) := by
  cases x with
  | ok l => exact hf l hx
  | error l => exact hx

theorem check_ends {bad : Loop σ → Prop} {l : Loop σ} (hbad : bad l) :
    Ends (fun l' => l' = l ∧ l'.responseValue = DAP_TRANSFER_OK.toUInt32) bad l.check := by
  rw [Loop.check]
  by_cases h : l.responseValue = DAP_TRANSFER_OK.toUInt32
  · rw [if_neg (by simp [h])]
    exact ⟨rfl, h⟩
  · rw [if_pos (by simpa using h)]
    exact hbad

def KeepsConf (access : Access σ) : Prop := ∀ request stores data s,
  (access request stores data s).2.2.dapData.transfer = s.dapData.transfer

theorem swdTransfer_keepsConf (L : Link σ) : KeepsConf (swdTransfer L) := fun _ _ _ _ => rfl

theorem jtagTransfer_keepsConf (L : Link σ) : KeepsConf (jtagTransfer L) := fun _ _ _ _ => rfl

/-- What an access leaves alone. -/
structure Frame (l l' : Loop σ) : Prop where
  request : l'.request = l.request
  response : l'.response = l.response
  postRead : l'.postRead = l.postRead
  mask : mask l' = mask l

theorem Frame.refl (l : Loop σ) : Frame l l := ⟨rfl, rfl, rfl, rfl⟩

theorem Frame.trans {l l' l'' : Loop σ} (h : Frame l l') (h' : Frame l' l'') : Frame l l'' :=
  ⟨h'.request.trans h.request, h'.response.trans h.response, h'.postRead.trans h.postRead,
    h'.mask.trans h.mask⟩

theorem Frame.due {l l' : Loop σ} (h : Frame l l') : due l' = due l := by
  rw [TransferSteps.due, TransferSteps.due, h.response, h.postRead]

variable (L : Link σ) {access : Access σ}

theorem retryLoop_transfer (haccess : KeepsConf access) (request : UInt32) (stores : Bool) (n : Nat)
    (data : UInt32) (s : State σ) :
    (retryLoop L access request stores n data s).2.2.dapData.transfer = s.dapData.transfer := by
  induction n generalizing data s with
  | zero => exact haccess _ _ _ _
  | succ n ih =>
      simp only [retryLoop]
      split
      · rw [ih, haccess]
      · exact haccess _ _ _ _

theorem access_frame (haccess : KeepsConf access) (request : UInt32) (stores : Bool) (l : Loop σ) :
    Frame l (l.access L access request stores) :=
  ⟨rfl, rfl, rfl, congrArg TransferConf.matchMask (retryLoop_transfer L haccess _ _ _ _ _)⟩

theorem selectIr_frame (next : UInt32) (l : Loop σ) : Frame l (l.selectIr L next) := by
  rw [Loop.selectIr]
  split
  · exact ⟨rfl, rfl, rfl, rfl⟩
  · exact .refl l

theorem storeTimestamp_eq (value : UInt32) (l : Loop σ) : ∃ stamp : List UInt8,
    l.storeTimestamp value = { l with response := l.response ++ stamp } ∧
      stamp.length = timestampBytes value := by
  rw [Loop.storeTimestamp, timestampBytes]
  by_cases h : has value DAP_TRANSFER_TIMESTAMP = true
  · rw [if_pos h, if_pos h]
    exact ⟨_, rfl, rfl⟩
  · rw [if_neg h, if_neg h]
    refine ⟨[], ?_, rfl⟩
    rw [List.append_nil]

/-- A step that takes so many bytes of the request, adds so many to the response, and leaves the
match mask at `m`. -/
structure Adds (l : Loop σ) (taken n : Nat) (m : UInt32) (l' : Loop σ) : Prop where
  request : l'.request = l.request + taken
  due : due l' = due l + n
  mask : mask l' = m
  ok : l'.responseValue = DAP_TRANSFER_OK.toUInt32

theorem storeWord_length (data : UInt32) : (storeWord data).length = 4 := rfl

/-- Posted data is stored; when the next access is posted too, the request is served. -/
structure Posted (direct : Prop) (value : UInt32) (l l' : Loop σ) : Prop where
  request : l'.request = l.request
  due : due l' = due l + if l'.postRead then 4 + timestampBytes value else 0
  mask : mask l' = mask l
  stays : l'.postRead = true → l'.responseValue = DAP_TRANSFER_OK.toUInt32 ∧ direct

theorem Posted.none {direct : Prop} (value : UInt32) {l : Loop σ} (h : l.postRead = false) :
    Posted direct value l l := by
  constructor
  · rfl
  · rw [h]
    rfl
  · rfl
  · intro hpost
    rw [h] at hpost
    cases hpost

def storePosted (value : UInt32) (l : Loop σ) : Step σ (Loop σ) := do
  let l ← l.check
  let l := l.store l.data
  pure (if l.postRead then l.storeTimestamp value else l)

theorem storePosted_ends {direct : Prop} {l l₁ : Loop σ} (value : UInt32) (hpost : l.postRead = true)
    (hrequest : l₁.request = l.request) (hresponse : l₁.response = l.response)
    (hmask : mask l₁ = mask l) (hdirect : l₁.postRead = true → direct) :
    Ends (Posted direct value l) (fun l' => due l' ≤ due l) (storePosted value l₁) := by
  have hdue : due l = l.response.length + 4 := by
    rw [due, hpost]
    rfl
  have hdue₁ : due l₁ ≤ due l := by
    rw [due, hresponse, hdue]
    split <;> omega
  refine Ends.bind (check_ends hdue₁) ?_
  rintro l' ⟨rfl, hok⟩
  show Ends _ _ (.ok (if l'.postRead then (l'.store l'.data).storeTimestamp value
    else l'.store l'.data))
  by_cases h : l'.postRead = true
  · rw [if_pos h]
    obtain ⟨stamp, hstamp, hlen⟩ := storeTimestamp_eq value (l'.store l'.data)
    rw [hstamp]
    refine ⟨hrequest, ?_, hmask, fun _ => ⟨hok, hdirect h⟩⟩
    simp only [due, Loop.store, hresponse, List.length_append, storeWord_length, hlen, h, hpost,
      if_true]
    omega
  · rw [if_neg h]
    refine ⟨hrequest, ?_, hmask, fun hstays => absurd hstays h⟩
    simp only [due, Loop.store, hresponse, List.length_append, storeWord_length, h, hpost, if_true]
    rfl

theorem direct_bits {value : UInt32}
    (h : value &&& (DAP_TRANSFER_APnDP ||| DAP_TRANSFER_MATCH_VALUE) = DAP_TRANSFER_APnDP) :
    has value DAP_TRANSFER_APnDP = true ∧ has value DAP_TRANSFER_MATCH_VALUE = false := by
  have hflag : ∀ flag, (DAP_TRANSFER_APnDP ||| DAP_TRANSFER_MATCH_VALUE) &&& flag = flag →
      value &&& flag = DAP_TRANSFER_APnDP &&& flag := by
    intro flag hflag
    calc value &&& flag
        = value &&& ((DAP_TRANSFER_APnDP ||| DAP_TRANSFER_MATCH_VALUE) &&& flag) := by rw [hflag]
      _ = value &&& (DAP_TRANSFER_APnDP ||| DAP_TRANSFER_MATCH_VALUE) &&& flag :=
          (UInt32.and_assoc _ _ _).symm
      _ = DAP_TRANSFER_APnDP &&& flag := by rw [h]
  have hap := hflag DAP_TRANSFER_APnDP (by decide)
  have hmatch := hflag DAP_TRANSFER_MATCH_VALUE (by decide)
  rw [has, has, hap, hmatch]
  exact ⟨rfl, rfl⟩

theorem swdReadPosted_ends (value : UInt32) (l : Loop σ) :
    Ends (Posted (has value DAP_TRANSFER_APnDP = true ∧ has value DAP_TRANSFER_MATCH_VALUE = false)
        value l)
      (fun l' => due l' ≤ due l) (swdReadPosted L value l) := by
  have haccess := swdTransfer_keepsConf L
  rw [swdReadPosted]
  by_cases hpost : l.postRead = true
  · rw [if_pos hpost]
    by_cases hdirect : value &&& (DAP_TRANSFER_APnDP ||| DAP_TRANSFER_MATCH_VALUE) =
        DAP_TRANSFER_APnDP
    · rw [if_pos (beq_iff_eq.mpr hdirect)]
      have hframe := access_frame L haccess value true l
      exact storePosted_ends value hpost hframe.request hframe.response hframe.mask
        fun _ => direct_bits hdirect
    · rw [if_neg (by simpa using hdirect)]
      have hframe := access_frame L haccess rdbuff true l
      exact storePosted_ends value hpost hframe.request hframe.response hframe.mask
        fun h => (by cases h)
  · rw [if_neg hpost]
    exact .none value (Bool.eq_false_iff.mpr hpost)

theorem jtagReadPosted_ends (value : UInt32) (l : Loop σ) :
    Ends (Posted (has value DAP_TRANSFER_MATCH_VALUE = false) value l)
      (fun l' => due l' ≤ due l) (jtagReadPosted L value l) := by
  have haccess := jtagTransfer_keepsConf L
  rw [jtagReadPosted]
  by_cases hpost : l.postRead = true
  · rw [if_pos hpost]
    by_cases hdirect : (l.ir == irOf value && !has value DAP_TRANSFER_MATCH_VALUE) = true
    · rw [if_pos hdirect]
      have hframe := access_frame L haccess value true l
      refine storePosted_ends value hpost hframe.request hframe.response hframe.mask fun _ => ?_
      have hmatch := (Bool.and_eq_true_iff.mp hdirect).2
      exact (Bool.not_eq_true' _).mp hmatch
    · rw [if_neg hdirect]
      have hframe := (selectIr_frame L JTAG_DPACC l).trans
        (access_frame L haccess rdbuff true (l.selectIr L JTAG_DPACC))
      exact storePosted_ends value hpost hframe.request hframe.response hframe.mask
        fun h => (by cases h)
  · rw [if_neg hpost]
    exact .none value (Bool.eq_false_iff.mpr hpost)

theorem matchLoop_frame (haccess : KeepsConf access) (value matchValue : UInt32) (n : Nat)
    (l : Loop σ) : Frame l (matchLoop L access value matchValue n l) := by
  induction n generalizing l with
  | zero => exact access_frame L haccess value true l
  | succ n ih =>
      have hframe := access_frame L haccess value true l
      rw [matchLoop]
      split
      · exact hframe
      · split
        · exact hframe.trans (ih _)
        · exact hframe

theorem mismatch_ne (x : UInt32) :
    x ||| DAP_TRANSFER_MISMATCH.toUInt32 ≠ DAP_TRANSFER_OK.toUInt32 := by
  intro h
  have hbit := congrArg (fun y => y &&& DAP_TRANSFER_MISMATCH.toUInt32) h
  have hself : (x ||| DAP_TRANSFER_MISMATCH.toUInt32) &&& DAP_TRANSFER_MISMATCH.toUInt32 =
      DAP_TRANSFER_MISMATCH.toUInt32 := by
    apply UInt32.toBitVec_inj.mp
    apply BitVec.eq_of_getLsbD_eq
    intro i hi
    simp only [UInt32.toBitVec_and, UInt32.toBitVec_or, BitVec.getLsbD_and, BitVec.getLsbD_or]
    cases x.toBitVec.getLsbD i <;> cases DAP_TRANSFER_MISMATCH.toUInt32.toBitVec.getLsbD i <;> rfl
  rw [hself] at hbit
  exact absurd hbit (by decide)

theorem pollMatch_ends (haccess : KeepsConf access) (value matchValue : UInt32) (retry : Nat)
    (l : Loop σ) :
    Ends (fun l' => Frame l l' ∧ l'.responseValue = DAP_TRANSFER_OK.toUInt32 ∧
        matchValue &&& mask l = matchValue)
      (Frame l) (pollMatch L access value matchValue retry l) := by
  have hframe := matchLoop_frame L haccess value matchValue retry l
  rw [pollMatch]
  generalize matchLoop L access value matchValue retry l = l₁ at hframe
  have hmask : l₁.state.dapData.transfer.matchMask = mask l := hframe.mask
  simp only [hmask]
  by_cases hdata : l₁.data &&& mask l = matchValue
  · rw [if_neg (by simpa using hdata)]
    refine (check_ends hframe).mono ?_ (fun _ h => h)
    rintro l' ⟨rfl, hok⟩
    refine ⟨hframe, hok, ?_⟩
    rw [← hdata, UInt32.and_assoc, UInt32.and_self]
  · rw [if_pos (by simpa using hdata)]
    have hbad : Frame l { l₁ with
        responseValue := l₁.responseValue ||| DAP_TRANSFER_MISMATCH.toUInt32 } :=
      ⟨hframe.request, hframe.response, hframe.postRead, hframe.mask⟩
    refine (check_ends hbad).mono ?_ (fun _ h => h)
    rintro l' ⟨rfl, hok⟩
    exact absurd hok (mismatch_ne _)

/-- The read is served with its match value under the mask; it is left with nothing posted. -/
def Compared (request : Request) (l l' : Loop σ) : Prop :=
  Adds l 4 0 (mask l) l' ∧ l'.postRead = false ∧
    request.word l.request &&& mask l = request.word l.request

def Unserved (l l' : Loop σ) : Prop := due l' = due l ∧ l'.postRead = false

theorem pollMatch_compared (haccess : KeepsConf access) (request : Request) (value : UInt32)
    (retry : Nat) {l l₁ : Loop σ} (hpost : l.postRead = false) (hframe : Frame (l.skip 4) l₁) :
    Ends (Compared request l) (Unserved l)
      (pollMatch L access value (request.word l.request) retry l₁) := by
  have hdue : due (l.skip 4) = due l := rfl
  refine (pollMatch_ends L haccess value _ retry l₁).mono ?_ ?_
  · rintro l' ⟨hframe', hok, hmatch⟩
    have hall := hframe.trans hframe'
    rw [hframe.mask] at hmatch
    exact ⟨⟨hall.request, hall.due, hall.mask, hok⟩, hall.postRead.trans hpost, hmatch⟩
  · intro l' hframe'
    have hall := hframe.trans hframe'
    exact ⟨hall.due, hall.postRead.trans hpost⟩

theorem swdReadMatch_ends (request : Request) (value : UInt32) {l : Loop σ}
    (hpost : l.postRead = false) :
    Ends (Compared request l) (Unserved l) (swdReadMatch L request value l) := by
  have haccess := swdTransfer_keepsConf L
  rw [swdReadMatch]
  by_cases hap : has value DAP_TRANSFER_APnDP = true
  · have hframe := access_frame L haccess value false (l.skip 4)
    rw [if_pos hap]
    refine Ends.bind (check_ends ⟨hframe.due, hpost⟩) ?_
    rintro l' ⟨rfl, -⟩
    exact pollMatch_compared L haccess request value _ hpost hframe
  · rw [if_neg hap]
    exact pollMatch_compared L haccess request value _ hpost (.refl _)

theorem jtagReadMatch_ends (request : Request) (value : UInt32) {l : Loop σ}
    (hpost : l.postRead = false) :
    Ends (Compared request l) (Unserved l) (jtagReadMatch L request value l) := by
  have haccess := jtagTransfer_keepsConf L
  have hframe := (selectIr_frame L (irOf value) (l.skip 4)).trans
    (access_frame L haccess value false _)
  rw [jtagReadMatch]
  refine Ends.bind (check_ends ⟨hframe.due, hframe.postRead.trans hpost⟩) ?_
  rintro l' ⟨rfl, -⟩
  exact pollMatch_compared L haccess request value _ hpost hframe

theorem post_adds {l l₁ : Loop σ} (value : UInt32) (hpost : l.postRead = false)
    (hframe : Frame l l₁) (hok : l₁.responseValue = DAP_TRANSFER_OK.toUInt32) :
    Adds l 0 (4 + timestampBytes value) (mask l)
      { l₁.storeTimestamp value with postRead := true } := by
  obtain ⟨stamp, hstamp, hlen⟩ := storeTimestamp_eq value l₁
  rw [hstamp]
  refine ⟨hframe.request, ?_, hframe.mask, hok⟩
  simp only [due, hframe.response, List.length_append, hlen, hpost, if_true]
  simp only [Bool.false_eq_true, if_false]
  omega

theorem swdReadNormal_ends (value : UInt32) {l : Loop σ} (hpost : l.postRead = false) :
    Ends (Adds l 0 (4 + timestampBytes value) (mask l)) (fun l' => due l' ≤ due l)
      (swdReadNormal L value l) := by
  have haccess := swdTransfer_keepsConf L
  rw [swdReadNormal]
  by_cases hap : has value DAP_TRANSFER_APnDP = true
  · have hframe := access_frame L haccess value false l
    rw [if_pos hap, if_neg (by simp [hpost])]
    refine Ends.bind (check_ends (Nat.le_of_eq hframe.due)) ?_
    rintro l' ⟨rfl, hok⟩
    exact post_adds value hpost hframe hok
  · have hframe := access_frame L haccess value true l
    rw [if_neg hap]
    refine Ends.bind (check_ends (Nat.le_of_eq hframe.due)) ?_
    rintro l' ⟨rfl, hok⟩
    obtain ⟨stamp, hstamp, hlen⟩ := storeTimestamp_eq value (l.access L (swdTransfer L) value true)
    simp only [hstamp]
    refine ⟨hframe.request, ?_, hframe.mask, hok⟩
    simp only [due, Loop.store, hframe.response, hframe.postRead, List.length_append,
      storeWord_length, hlen]
    omega

theorem jtagReadNormal_ends (value : UInt32) {l : Loop σ} (hpost : l.postRead = false) :
    Ends (Adds l 0 (4 + timestampBytes value) (mask l)) (fun l' => due l' ≤ due l)
      (jtagReadNormal L value l) := by
  have haccess := jtagTransfer_keepsConf L
  have hframe := (selectIr_frame L (irOf value) l).trans (access_frame L haccess value false _)
  rw [jtagReadNormal, if_neg (by simp [hpost])]
  refine Ends.bind (check_ends (Nat.le_of_eq hframe.due)) ?_
  rintro l' ⟨rfl, hok⟩
  exact post_adds value hpost hframe hok

end WirelessEsp.TransferSteps
