import WirelessEsp.TransferSteps

namespace WirelessEsp.TransferRounds

open DapTypes DapProbe DapTransfer TransferSteps

variable {σ : Type} (L : Link σ)

theorem read_ends {direct : Prop} {request : Request} {value : UInt32} {l : Loop σ}
    {posted : Step σ (Loop σ)} {readMatch readNormal : Loop σ → Step σ (Loop σ)}
    (hrnw : has value DAP_TRANSFER_RnW = true)
    (hposted : Ends (Posted direct value l) (fun l' => due l' ≤ due l) posted)
    (hmatch : ∀ l₁, l₁.postRead = false → Ends (Compared request l₁) (Unserved l₁) (readMatch l₁))
    (hnormal : ∀ l₁, l₁.postRead = false →
      Ends (Adds l₁ 0 (4 + timestampBytes value) (mask l₁)) (fun l' => due l' ≤ due l₁)
        (readNormal l₁))
    (hdirect : ∀ l₁, l₁.postRead = true → direct →
      has value DAP_TRANSFER_MATCH_VALUE = false ∧ readNormal l₁ = .ok l₁) :
    Ends (fun l' => Adds l (operandBytes value) (requestBytes value) (mask l) l' ∧
        (has value DAP_TRANSFER_MATCH_VALUE = true →
          request.word l.request &&& mask l = request.word l.request))
      (fun l' => due l' ≤ due l)
      (posted >>= fun l₁ =>
        if has value DAP_TRANSFER_MATCH_VALUE then readMatch l₁ else readNormal l₁) := by
  refine Ends.bind hposted ?_
  intro l₁ h₁
  by_cases hpost : l₁.postRead = true
  · obtain ⟨hok, hd⟩ := h₁.stays hpost
    obtain ⟨hvalue, hpure⟩ := hdirect l₁ hpost hd
    have hdue := h₁.due
    rw [if_pos hpost] at hdue
    rw [if_neg (by simp [hvalue]), hpure, operandBytes, requestBytes, if_pos hrnw, if_pos hrnw,
      if_neg (by simp [hvalue]), if_neg (by simp [hvalue])]
    refine ⟨⟨h₁.request, hdue, h₁.mask, hok⟩, ?_⟩
    intro hyes
    rw [hvalue] at hyes
    cases hyes
  · have hnone := Bool.eq_false_iff.mpr hpost
    have hdue := h₁.due
    rw [if_neg hpost, Nat.add_zero] at hdue
    by_cases hvalue : has value DAP_TRANSFER_MATCH_VALUE = true
    · rw [if_pos hvalue, operandBytes, requestBytes, if_pos hrnw, if_pos hrnw, if_pos hvalue,
        if_pos hvalue]
      refine (hmatch l₁ hnone).mono ?_ ?_
      · rintro l' ⟨hadds, -, hcompared⟩
        rw [h₁.request, h₁.mask] at hcompared
        refine ⟨⟨hadds.request.trans (congrArg (· + 4) h₁.request), hadds.due.trans hdue,
          hadds.mask.trans h₁.mask, hadds.ok⟩, fun _ => hcompared⟩
      · intro l' hunserved
        exact Nat.le_of_eq (hunserved.1.trans hdue)
    · rw [if_neg hvalue, operandBytes, requestBytes, if_pos hrnw, if_pos hrnw, if_neg hvalue,
        if_neg hvalue]
      refine (hnormal l₁ hnone).mono ?_ ?_
      · intro l' hadds
        refine ⟨⟨hadds.request.trans h₁.request, hadds.due.trans (by rw [hdue]),
          hadds.mask.trans h₁.mask, hadds.ok⟩, fun h => absurd h hvalue⟩
      · intro l' hle
        exact Nat.le_trans hle (Nat.le_of_eq hdue)

theorem swdRead_eq (request : Request) (value : UInt32) (l : Loop σ) : swdRead L request value l =
    ((swdReadPosted L value l >>= fun l₁ =>
      if has value DAP_TRANSFER_MATCH_VALUE then swdReadMatch L request value l₁
      else swdReadNormal L value l₁) >>= fun l' => pure { l' with checkWrite := false }) := by
  rw [swdRead]
  cases swdReadPosted L value l with
  | error l₁ => rfl
  | ok l₁ =>
      simp only [bind, Except.bind]
      split <;> rfl

theorem swdRead_ends (request : Request) {value : UInt32} (l : Loop σ)
    (hrnw : has value DAP_TRANSFER_RnW = true) :
    Ends (fun l' => Adds l (operandBytes value) (requestBytes value) (mask l) l' ∧
        (has value DAP_TRANSFER_MATCH_VALUE = true →
          request.word l.request &&& mask l = request.word l.request))
      (fun l' => due l' ≤ due l) (swdRead L request value l) := by
  have hread := read_ends hrnw (swdReadPosted_ends L value l)
    (fun l₁ => swdReadMatch_ends L request value) (fun l₁ => swdReadNormal_ends L value) (by
      rintro l₁ hpost ⟨hap, hvalue⟩
      refine ⟨hvalue, ?_⟩
      rw [swdReadNormal, if_pos hap, if_pos hpost]
      rfl)
  rw [swdRead_eq]
  refine Ends.bind hread ?_
  rintro l' ⟨hadds, hcompared⟩
  exact ⟨⟨hadds.request, hadds.due, hadds.mask, hadds.ok⟩, hcompared⟩

theorem jtagRead_ends (request : Request) {value : UInt32} (l : Loop σ)
    (hrnw : has value DAP_TRANSFER_RnW = true) :
    Ends (fun l' => Adds l (operandBytes value) (requestBytes value) (mask l) l' ∧
        (has value DAP_TRANSFER_MATCH_VALUE = true →
          request.word l.request &&& mask l = request.word l.request))
      (fun l' => due l' ≤ due l) (jtagRead L request value l) :=
  read_ends hrnw (jtagReadPosted_ends L value l) (fun l₁ => jtagReadMatch_ends L request value)
    (fun l₁ => jtagReadNormal_ends L value) (by
      intro l₁ hpost hvalue
      refine ⟨hvalue, ?_⟩
      rw [jtagReadNormal, if_pos hpost]
      rfl)

structure Flushed (l l' : Loop σ) : Prop where
  request : l'.request = l.request
  due : due l' = due l
  mask : mask l' = mask l
  postRead : l'.postRead = false

theorem flush_ends {l l₁ : Loop σ} (hpost : l.postRead = true) (hframe : Frame l l₁) :
    Ends (Flushed l) (fun l' => due l' ≤ due l)
      (l₁.check >>= fun l => pure { l.store l.data with postRead := false }) := by
  refine Ends.bind (check_ends (Nat.le_of_eq hframe.due)) ?_
  rintro l' ⟨rfl, -⟩
  refine ⟨hframe.request, ?_, hframe.mask, rfl⟩
  simp only [due, Loop.store, List.length_append, storeWord_length, hframe.response, hpost, if_true]
  rfl

theorem writeRegister_adds {l l₁ : Loop σ} (value : UInt32) (hframe : Frame l l₁)
    (hok : l₁.responseValue = DAP_TRANSFER_OK.toUInt32) :
    Adds l 0 (timestampBytes value) (mask l) (l₁.storeTimestamp value) := by
  obtain ⟨stamp, hstamp, hlen⟩ := storeTimestamp_eq value l₁
  rw [hstamp]
  refine ⟨hframe.request, ?_, hframe.mask, hok⟩
  simp only [due, hframe.response, hframe.postRead, List.length_append, hlen]
  omega

theorem write_ends {request : Request} {value : UInt32} {l : Loop σ} {flush : Step σ (Loop σ)}
    {register : Loop σ → Step σ (Loop σ)} (hwrite : has value DAP_TRANSFER_RnW = false)
    (hflush : Ends (Flushed l) (fun l' => due l' ≤ due l) flush)
    (hregister : ∀ l₁, Ends (Adds l₁ 0 (timestampBytes value) (mask l₁)) (fun l' => due l' ≤ due l₁)
      (register l₁)) :
    Ends (Adds l (operandBytes value) (requestBytes value)
        (if has value DAP_TRANSFER_MATCH_MASK then request.word l.request else mask l))
      (fun l' => due l' ≤ due l)
      (flush >>= fun l₁ =>
        if has value DAP_TRANSFER_MATCH_MASK then pure (writeMatchMask (loadData request l₁))
        else register (loadData request l₁)) := by
  rw [operandBytes, requestBytes, if_neg (by simp [hwrite]), if_neg (by simp [hwrite])]
  refine Ends.bind hflush ?_
  intro l₁ h₁
  by_cases hmask : has value DAP_TRANSFER_MATCH_MASK = true
  · rw [if_pos hmask, if_pos hmask, if_pos hmask]
    exact ⟨congrArg (· + 4) h₁.request, h₁.due, congrArg request.word h₁.request, rfl⟩
  · rw [if_neg hmask, if_neg hmask, if_neg hmask]
    refine (hregister (loadData request l₁)).mono ?_ ?_
    · intro l' hadds
      exact ⟨hadds.request.trans (congrArg (· + 4) h₁.request),
        hadds.due.trans (congrArg (· + timestampBytes value) h₁.due), hadds.mask.trans h₁.mask,
        hadds.ok⟩
    · intro l' hle
      exact Nat.le_trans hle (Nat.le_of_eq h₁.due)

def swdFlush (l : Loop σ) : Step σ (Loop σ) :=
  if l.postRead then
    (l.access L (swdTransfer L) rdbuff true).check >>= fun l =>
      pure { l.store l.data with postRead := false }
  else pure l

def swdRegister (value : UInt32) (l : Loop σ) : Step σ (Loop σ) :=
  (l.access L (swdTransfer L) value true).check >>= fun l =>
    pure { l.storeTimestamp value with checkWrite := true }

theorem swdWrite_eq (request : Request) (value : UInt32) (l : Loop σ) :
    swdWrite L request value l = (swdFlush L l >>= fun l₁ =>
      if has value DAP_TRANSFER_MATCH_MASK then pure (writeMatchMask (loadData request l₁))
      else swdRegister L value (loadData request l₁)) := by
  rw [swdWrite, swdFlush]
  by_cases hpost : l.postRead = true
  · rw [if_pos hpost, if_pos hpost]
    cases (l.access L (swdTransfer L) rdbuff true).check <;> rfl
  · rw [if_neg hpost, if_neg hpost]
    rfl

theorem swdWrite_ends (request : Request) {value : UInt32} (l : Loop σ)
    (hwrite : has value DAP_TRANSFER_RnW = false) :
    Ends (Adds l (operandBytes value) (requestBytes value)
        (if has value DAP_TRANSFER_MATCH_MASK then request.word l.request else mask l))
      (fun l' => due l' ≤ due l) (swdWrite L request value l) := by
  have haccess := swdTransfer_keepsConf L
  rw [swdWrite_eq]
  apply write_ends hwrite
  · rw [swdFlush]
    by_cases hpost : l.postRead = true
    · rw [if_pos hpost]
      exact flush_ends hpost (access_frame L haccess rdbuff true l)
    · rw [if_neg hpost]
      exact ⟨rfl, rfl, rfl, Bool.eq_false_iff.mpr hpost⟩
  · intro l₁
    have hframe := access_frame L haccess value true l₁
    refine Ends.bind (check_ends (Nat.le_of_eq hframe.due)) ?_
    rintro l' ⟨rfl, hok⟩
    have hadds := writeRegister_adds value hframe hok
    exact ⟨hadds.request, hadds.due, hadds.mask, hadds.ok⟩

def jtagFlush (l : Loop σ) : Step σ (Loop σ) :=
  if l.postRead then
    ((l.selectIr L JTAG_DPACC).access L (jtagTransfer L) rdbuff true).check >>= fun l =>
      pure { l.store l.data with postRead := false }
  else pure l

def jtagRegister (value : UInt32) (l : Loop σ) : Step σ (Loop σ) :=
  ((l.selectIr L (irOf value)).access L (jtagTransfer L) value true).check >>= fun l =>
    pure (l.storeTimestamp value)

theorem jtagWrite_eq (request : Request) (value : UInt32) (l : Loop σ) :
    jtagWrite L request value l = (jtagFlush L l >>= fun l₁ =>
      if has value DAP_TRANSFER_MATCH_MASK then pure (writeMatchMask (loadData request l₁))
      else jtagRegister L value (loadData request l₁)) := by
  rw [jtagWrite, jtagFlush]
  by_cases hpost : l.postRead = true
  · rw [if_pos hpost, if_pos hpost]
    dsimp only
    cases ((l.selectIr L JTAG_DPACC).access L (jtagTransfer L) rdbuff true).check <;> rfl
  · rw [if_neg hpost, if_neg hpost]
    rfl

theorem jtagWrite_ends (request : Request) {value : UInt32} (l : Loop σ)
    (hwrite : has value DAP_TRANSFER_RnW = false) :
    Ends (Adds l (operandBytes value) (requestBytes value)
        (if has value DAP_TRANSFER_MATCH_MASK then request.word l.request else mask l))
      (fun l' => due l' ≤ due l) (jtagWrite L request value l) := by
  have haccess := jtagTransfer_keepsConf L
  rw [jtagWrite_eq]
  apply write_ends hwrite
  · rw [jtagFlush]
    by_cases hpost : l.postRead = true
    · rw [if_pos hpost]
      exact flush_ends hpost ((selectIr_frame L JTAG_DPACC l).trans
        (access_frame L haccess rdbuff true _))
    · rw [if_neg hpost]
      exact ⟨rfl, rfl, rfl, Bool.eq_false_iff.mpr hpost⟩
  · intro l₁
    have hframe := (selectIr_frame L (irOf value) l₁).trans (access_frame L haccess value true _)
    refine Ends.bind (check_ends (Nat.le_of_eq hframe.due)) ?_
    rintro l' ⟨rfl, hok⟩
    exact writeRegister_adds value hframe hok

/-- A round that serves the request at the offset of the loop. -/
def Served (request : Request) (l l' : Loop σ) : Prop :=
  Adds l (1 + operandBytes (request l.request).toUInt32) (requestBytes (request l.request).toUInt32)
    (nextMask request l.request (mask l)) l' ∧
  unmatchable request l.request (mask l) = false

def RoundSpec (request : Request) (round : Loop σ → Step σ (Loop σ)) : Prop := ∀ l,
  Ends (Served request l)
    (fun l' => due l' ≤ due l + requestBytes (request l.request).toUInt32) (round l)

theorem round_ends {request : Request}
    {read write : UInt32 → Loop σ → Step σ (Loop σ)}
    (hread : ∀ value l, has value DAP_TRANSFER_RnW = true →
      Ends (fun l' => Adds l (operandBytes value) (requestBytes value) (mask l) l' ∧
          (has value DAP_TRANSFER_MATCH_VALUE = true →
            request.word l.request &&& mask l = request.word l.request))
        (fun l' => due l' ≤ due l) (read value l))
    (hwrite : ∀ value l, has value DAP_TRANSFER_RnW = false →
      Ends (Adds l (operandBytes value) (requestBytes value)
          (if has value DAP_TRANSFER_MATCH_MASK then request.word l.request else mask l))
        (fun l' => due l' ≤ due l) (write value l)) :
    RoundSpec request fun l =>
      (if has (request l.request).toUInt32 DAP_TRANSFER_RnW then
        read (request l.request).toUInt32 (l.skip 1)
      else write (request l.request).toUInt32 (l.skip 1)) >>= countTransfer L := by
  intro l
  beta_reduce
  generalize hvalue : (request l.request).toUInt32 = value
  have hserved : Ends (Served request l) (fun l' => due l' ≤ due l + requestBytes value)
      (if has value DAP_TRANSFER_RnW then read value (l.skip 1) else write value (l.skip 1)) := by
    by_cases hrnw : has value DAP_TRANSFER_RnW = true
    · rw [if_pos hrnw]
      refine (hread value (l.skip 1) hrnw).mono ?_ fun l' h => Nat.le_add_right_of_le h
      rintro l' ⟨hadds, hcompared⟩
      rw [Served, nextMask, unmatchable, hvalue]
      refine ⟨⟨hadds.request.trans (Nat.add_assoc _ _ _), hadds.due, ?_, hadds.ok⟩, ?_⟩
      · rw [hadds.mask, hrnw]
        rfl
      · by_cases hmatch : has value DAP_TRANSFER_MATCH_VALUE = true
        · have heq : request.word (l.request + 1) &&& mask l = request.word (l.request + 1) :=
            hcompared hmatch
          rw [heq, bne_self_eq_false, Bool.and_false]
        · simp [hmatch]
    · rw [if_neg hrnw]
      have hwrites := Bool.eq_false_iff.mpr hrnw
      refine (hwrite value (l.skip 1) hwrites).mono ?_ fun l' h => Nat.le_add_right_of_le h
      intro l' hadds
      rw [Served, nextMask, unmatchable, hvalue]
      refine ⟨⟨hadds.request.trans (Nat.add_assoc _ _ _), hadds.due, ?_, hadds.ok⟩, ?_⟩
      · rw [hadds.mask, hwrites]
        rfl
      · simp [hwrites]
  refine Ends.bind hserved ?_
  rintro l' ⟨hadds, hmatch⟩
  rw [countTransfer]
  split
  · exact Nat.le_of_eq (hvalue ▸ hadds.due)
  · exact ⟨⟨hadds.request, hadds.due, hadds.mask, hadds.ok⟩, hmatch⟩

theorem swdRound_eq (request : Request) : swdRound L request = fun l =>
    (if has (request l.request).toUInt32 DAP_TRANSFER_RnW then
      swdRead L request (request l.request).toUInt32 (l.skip 1)
    else swdWrite L request (request l.request).toUInt32 (l.skip 1)) >>= countTransfer L := by
  funext l
  rw [swdRound]
  dsimp only
  split <;> rfl

theorem jtagRound_eq (request : Request) : jtagRound L request = fun l =>
    (if has (request l.request).toUInt32 DAP_TRANSFER_RnW then
      jtagRead L request (request l.request).toUInt32 (l.skip 1)
    else jtagWrite L request (request l.request).toUInt32 (l.skip 1)) >>= countTransfer L := by
  funext l
  rw [jtagRound]
  dsimp only
  split <;> rfl

theorem swdRound_spec (request : Request) : RoundSpec request (swdRound L request) := by
  rw [swdRound_eq]
  exact round_ends L (fun _ l hrnw => swdRead_ends L request l hrnw)
    fun _ l hwrite => swdWrite_ends L request l hwrite

theorem jtagRound_spec (request : Request) : RoundSpec request (jtagRound L request) := by
  rw [jtagRound_eq]
  exact round_ends L (fun _ l hrnw => jtagRead_ends L request l hrnw)
    fun _ l hwrite => jtagWrite_ends L request l hwrite

/-- The most that the requests of `DAP_Transfer` from offset `i` on put into the response. -/
def transferBytes (request : Request) : Nat → Nat → UInt32 → Nat
  | 0, _, _ => 0
  | n + 1, i, mask =>
      if unmatchable request i mask then 0
      else
        requestBytes (request i).toUInt32 +
          transferBytes request n (i + 1 + operandBytes (request i).toUInt32)
            (nextMask request i mask)

theorem unmatchable_bytes {request : Request} {i : Nat} {mask : UInt32}
    (h : unmatchable request i mask = true) : requestBytes (request i).toUInt32 = 0 := by
  have hflags := (Bool.and_eq_true_iff.mp h).1
  rw [requestBytes, if_pos (Bool.and_eq_true_iff.mp hflags).1,
    if_pos (Bool.and_eq_true_iff.mp hflags).2]

theorem transferLoop_due {request : Request} {round : Loop σ → Step σ (Loop σ)}
    (hround : RoundSpec request round) (n : Nat) (l : Loop σ) :
    due (transferLoop round n l).2 ≤ due l + transferBytes request n l.request (mask l) := by
  induction n generalizing l with
  | zero => exact Nat.le_refl _
  | succ n ih =>
      have hspec := hround l
      rw [transferLoop, transferBytes]
      cases hx : round l with
      | error l' =>
          rw [hx] at hspec
          by_cases hmatch : unmatchable request l.request (mask l) = true
          · rw [if_pos hmatch]
            exact unmatchable_bytes hmatch ▸ hspec
          · rw [if_neg hmatch, ← Nat.add_assoc]
            exact Nat.le_add_right_of_le hspec
      | ok l' =>
          rw [hx] at hspec
          obtain ⟨hadds, hmatch⟩ := hspec
          have hrest := ih l'
          rw [hadds.due, hadds.request, hadds.mask, ← Nat.add_assoc, Nat.add_assoc (due l)] at hrest
          rw [if_neg (by simp [hmatch])]
          exact hrest

theorem store_due {l : Loop σ} (h : l.postRead = true) (data : UInt32) :
    (l.store data).response.length = due l := by
  rw [Loop.store, List.length_append, storeWord_length, due, h]
  rfl

theorem response_le_due (l : Loop σ) : l.response.length ≤ due l := Nat.le_add_right _ _

theorem swdFinish_response (l : Loop σ) : (swdFinish L l).response.length ≤ due l := by
  have hframe := access_frame L (swdTransfer_keepsConf L) rdbuff true l
  rw [swdFinish]
  split
  · exact response_le_due l
  · split
    next hpost =>
      dsimp only
      split
      · exact Nat.le_trans (response_le_due _) (Nat.le_of_eq hframe.due)
      · exact Nat.le_of_eq ((store_due (hframe.postRead.trans hpost) _).trans hframe.due)
    next =>
      split
      · exact response_le_due l
      · exact response_le_due l

theorem jtagFinish_response (l : Loop σ) : (jtagFinish L l).response.length ≤ due l := by
  have hselect := selectIr_frame L JTAG_DPACC l
  have hframe := hselect.trans (access_frame L (jtagTransfer_keepsConf L) rdbuff true _)
  rw [jtagFinish]
  split
  · exact response_le_due l
  · dsimp only
    split
    next hpost =>
      split
      · exact Nat.le_trans (response_le_due _) (Nat.le_of_eq hframe.due)
      · exact Nat.le_of_eq ((store_due (hframe.postRead.trans
          (hselect.postRead.symm.trans hpost)) _).trans hframe.due)
    next => exact Nat.le_trans (response_le_due _) (Nat.le_of_eq hselect.due)

end WirelessEsp.TransferRounds
