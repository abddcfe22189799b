import WirelessEsp.TransferRounds

namespace WirelessEsp.ObligingTarget

open DapTypes DapProbe DapTransfer TransferSteps TransferRounds

variable {σ : Type}

/-- The data for an access: the next of the values to compare with, for the reads that compare. -/
def answer (request : UInt32) (stores : Bool) (values : List UInt32) : UInt32 × List UInt32 :=
  if has request DAP_TRANSFER_RnW && has request DAP_TRANSFER_MATCH_VALUE && stores then
    (values.headD 0, values.tail)
  else (0, values)

def obliging : Link (List UInt32) where
  spiInit := id
  spiDeinit := id
  portSwdSetup := id
  portJtagSetup := id
  portOff := id
  resetTarget := fun w => (1, w)
  pinDelaySlow := fun _ => id
  dapOsDelay := fun _ => id
  pinOut := fun _ _ => id
  pinIn := fun _ _ => 0
  timestampGet := fun w => (0, w)
  pinSamples := 0
  swjSequence := fun _ _ _ _ => id
  swdSequence := fun _ _ _ _ w => (.replicate _ 0, w)
  jtagSequence := fun _ _ _ w => (.replicate _ 0, w)
  jtagIr := fun _ _ => id
  jtagReadIdCode := fun _ w => (0, w)
  jtagWriteAbort := fun _ _ => id
  swdTransfer := fun d _ request stores _ w =>
    ⟨DAP_TRANSFER_OK, (answer request stores w).1, d.timestamp, (answer request stores w).2⟩
  jtagTransfer := fun d request stores _ w =>
    ⟨DAP_TRANSFER_OK, (answer request stores w).1, d.timestamp, (answer request stores w).2⟩
  clearTransferAbort := id
  dapTransferAbort := fun _ => false
  garbage := 0

/-- The values that the requests from offset `i` on compare with. -/
def matchValues (request : Request) : Nat → Nat → List UInt32
  | 0, _ => []
  | n + 1, i =>
      let value := (request i).toUInt32
      let rest := matchValues request n (i + 1 + operandBytes value)
      if has value DAP_TRANSFER_RnW && has value DAP_TRANSFER_MATCH_VALUE then
        request.word (i + 1) :: rest
      else rest

def values (l : Loop (List UInt32)) : List UInt32 := l.state.world

def Obliges (access : Access (List UInt32)) : Prop := ∀ request stores data s,
  access request stores data s = (DAP_TRANSFER_OK.toUInt32,
    if stores then (answer request stores s.world).1 else data,
    { s with world := (answer request stores s.world).2 })

theorem swdTransfer_obliges : Obliges (swdTransfer obliging) := fun _ _ _ _ => rfl

theorem jtagTransfer_obliges : Obliges (jtagTransfer obliging) := fun _ _ _ _ => rfl

section

variable {access : Access (List UInt32)}

theorem access_obliging (haccess : Obliges access) (request : UInt32) (stores : Bool)
    (l : Loop (List UInt32)) : l.access obliging access request stores =
      { l with
        responseValue := DAP_TRANSFER_OK.toUInt32
        data := if stores then (answer request stores l.state.world).1 else l.data
        state := { l.state with world := (answer request stores l.state.world).2 } } := by
  have hretry : ∀ n, retryLoop obliging access request stores n l.data l.state =
      access request stores l.data l.state := by
    intro n
    cases n with
    | zero => rfl
    | succ n =>
        rw [retryLoop, haccess]
        rfl
  rw [Loop.access, hretry, haccess]

theorem check_ok {l : Loop σ} (h : l.responseValue = DAP_TRANSFER_OK.toUInt32) :
    l.check = .ok l := by
  rw [Loop.check, if_neg (by simp [h])]

theorem check_obliging (haccess : Obliges access) (request : UInt32) (stores : Bool)
    (l : Loop (List UInt32)) : (l.access obliging access request stores).check =
      .ok (l.access obliging access request stores) :=
  check_ok (by rw [access_obliging haccess])

theorem values_access (haccess : Obliges access) {request : UInt32} {stores : Bool}
    (h : (has request DAP_TRANSFER_RnW && has request DAP_TRANSFER_MATCH_VALUE && stores) = false)
    (l : Loop (List UInt32)) :
    values (l.access obliging access request stores) = values l := by
  rw [access_obliging haccess]
  show (answer request stores l.state.world).2 = _
  rw [answer, h]
  rfl

theorem pollMatch_obliging (haccess : Obliges access) {value matchValue : UInt32}
    {rest : List UInt32} (retry : Nat) {l : Loop (List UInt32)}
    (hrnw : has value DAP_TRANSFER_RnW = true) (hvalue : has value DAP_TRANSFER_MATCH_VALUE = true)
    (hvalues : values l = matchValue :: rest) (hmask : matchValue &&& mask l = matchValue) :
    Ends (fun l' => values l' = rest) (fun _ => False)
      (pollMatch obliging access value matchValue retry l) := by
  have hanswer : answer value true l.state.world = (matchValue, rest) := by
    have hworld : l.state.world = matchValue :: rest := hvalues
    rw [answer, hrnw, hvalue, hworld]
    rfl
  have hequal : (matchValue &&& mask l != matchValue) = false := by
    rw [hmask, bne_self_eq_false]
  have hloop : matchLoop obliging access value matchValue retry l =
      { l with
        responseValue := DAP_TRANSFER_OK.toUInt32
        data := matchValue
        state := { l.state with world := rest } } := by
    cases retry with
    | zero =>
        rw [matchLoop, access_obliging haccess, hanswer]
        rfl
    | succ n =>
        rw [matchLoop, access_obliging haccess, hanswer]
        dsimp only
        rw [if_neg (by simp), if_neg]
        · rfl
        · intro hagain
          have hdiffers := (Bool.and_eq_true_iff.mp hagain).1
          exact absurd (hequal.symm.trans hdiffers) (by decide)
  rw [pollMatch, hloop]
  dsimp only
  rw [if_neg]
  · rw [check_ok rfl]
    rfl
  · intro hdiffers
    exact absurd (hequal.symm.trans hdiffers) (by decide)

theorem Ends.and {good good' bad bad' : Loop σ → Prop} {x : Step σ (Loop σ)} (h : Ends good bad x)
    (h' : Ends good' bad' x) : Ends (fun l => good l ∧ good' l) (fun l => bad l ∧ bad' l) x := by
  cases x with
  | ok l => exact ⟨h, h'⟩
  | error l => exact ⟨h, h'⟩

def Passes (l : Loop (List UInt32)) : Step (List UInt32) (Loop (List UInt32)) → Prop :=
  Ends (fun l' => values l' = values l) fun _ => False

theorem Passes.bind {l : Loop (List UInt32)} {x : Step (List UInt32) (Loop (List UInt32))}
    {f : Loop (List UInt32) → Step (List UInt32) (Loop (List UInt32))} (hx : Passes l x)
    (hf : ∀ l₁, Passes l₁ (f l₁)) : Passes l (x >>= f) := by
  refine Ends.bind hx ?_
  intro l₁ h₁
  exact (hf l₁).mono (fun _ h => Eq.trans h h₁) fun _ h => h

theorem access_passes (haccess : Obliges access) {request : UInt32} {stores : Bool}
    (h : (has request DAP_TRANSFER_RnW && has request DAP_TRANSFER_MATCH_VALUE && stores) = false)
    (l : Loop (List UInt32)) :
    Passes l (l.access obliging access request stores).check := by
  rw [check_obliging haccess]
  exact values_access haccess h l

theorem values_storeTimestamp (value : UInt32) (l : Loop (List UInt32)) :
    values (l.storeTimestamp value) = values l := by
  rw [Loop.storeTimestamp]
  split <;> rfl

theorem values_selectIr (next : UInt32) (l : Loop (List UInt32)) :
    values (l.selectIr obliging next) = values l := by
  rw [Loop.selectIr]
  split <;> rfl

/-- A read of either port, from its parts: it is left only because of a comparison that cannot
hold, with nothing lost. -/
theorem read_obliges {direct : Prop} {request : Request} {value : UInt32} {l : Loop (List UInt32)}
    {posted : Step (List UInt32) (Loop (List UInt32))}
    {readMatch readNormal : Loop (List UInt32) → Step (List UInt32) (Loop (List UInt32))}
    (rest : List UInt32)
    (hvalues : values l =
      if has value DAP_TRANSFER_MATCH_VALUE then request.word l.request :: rest else rest)
    (hposted : Ends (Posted direct value l) (fun l' => due l' ≤ due l) posted)
    (hpasses : Passes l posted)
    (hdirect : direct → has value DAP_TRANSFER_MATCH_VALUE = false)
    (hmatch : ∀ l₁, l₁.postRead = false → Ends (Compared request l₁) (Unserved l₁) (readMatch l₁))
    (hcompare : ∀ l₁, has value DAP_TRANSFER_MATCH_VALUE = true →
      values l₁ = request.word l₁.request :: rest →
      request.word l₁.request &&& mask l₁ = request.word l₁.request →
        Ends (fun l' => values l' = rest) (fun _ => False) (readMatch l₁))
    (hnormal : ∀ l₁, has value DAP_TRANSFER_MATCH_VALUE = false → Passes l₁ (readNormal l₁)) :
    Ends (fun l' => values l' = rest)
      (fun l' => has value DAP_TRANSFER_MATCH_VALUE = true ∧
        request.word l.request &&& mask l ≠ request.word l.request ∧ Unserved l l')
      (posted >>= fun l₁ =>
        if has value DAP_TRANSFER_MATCH_VALUE then readMatch l₁ else readNormal l₁) := by
  refine Ends.bind ((Ends.and hposted hpasses).mono (fun _ h => h) fun _ h => absurd h.2 id) ?_
  rintro l₁ ⟨h₁, hsame⟩
  by_cases hvalue : has value DAP_TRANSFER_MATCH_VALUE = true
  · have hpost : l₁.postRead = false := by
      apply Bool.eq_false_iff.mpr
      intro hpost
      have hno := hdirect (h₁.stays hpost).2
      rw [hvalue] at hno
      cases hno
    have hdue := h₁.due
    rw [hpost] at hdue
    rw [if_pos hvalue] at hvalues ⊢
    by_cases hequal : request.word l.request &&& mask l = request.word l.request
    · refine (hcompare l₁ hvalue ?_ ?_).mono (fun _ h => h) fun _ h => absurd h id
      · rw [hsame, hvalues, h₁.request]
      · rw [h₁.request, h₁.mask]
        exact hequal
    · refine (hmatch l₁ hpost).mono ?_ ?_
      · rintro l' ⟨-, -, hcompared⟩
        rw [h₁.request, h₁.mask] at hcompared
        exact absurd hcompared hequal
      · intro l' hunserved
        exact ⟨hvalue, hequal, hunserved.1.trans hdue, hunserved.2⟩
  · rw [if_neg hvalue] at hvalues ⊢
    refine (hnormal l₁ (Bool.eq_false_iff.mpr hvalue)).mono ?_ fun _ h => absurd h id
    intro l' h
    exact (Eq.trans h hsame).trans hvalues

theorem passes_of_values {l l₁ : Loop (List UInt32)} (h : values l₁ = values l)
    {x : Step (List UInt32) (Loop (List UInt32))} (hx : Passes l₁ x) : Passes l x :=
  hx.mono (fun _ h' => Eq.trans h' h) fun _ h' => h'

theorem storePosted_passes (haccess : Obliges access) {request : UInt32}
    (h : (has request DAP_TRANSFER_RnW && has request DAP_TRANSFER_MATCH_VALUE && true) = false)
    (value : UInt32) (post : Bool) (l : Loop (List UInt32)) :
    Passes l (storePosted value
      { l.access obliging access request true with postRead := post }) := by
  have hcheck : Loop.check { l.access obliging access request true with postRead := post } =
      .ok { l.access obliging access request true with postRead := post } :=
    check_ok (by rw [access_obliging haccess])
  rw [storePosted, hcheck]
  show values (if post then _ else _) = values l
  have hvalues := values_access haccess h l
  split
  · rw [values_storeTimestamp]
    exact hvalues
  · exact hvalues

end

theorem rdbuff_plain : (has rdbuff DAP_TRANSFER_RnW && has rdbuff DAP_TRANSFER_MATCH_VALUE &&
    true) = false := by decide

theorem post_plain (value : UInt32) : (has value DAP_TRANSFER_RnW &&
    has value DAP_TRANSFER_MATCH_VALUE && false) = false :=
  Bool.and_false _

theorem read_plain {value : UInt32} (h : has value DAP_TRANSFER_MATCH_VALUE = false) :
    (has value DAP_TRANSFER_RnW && has value DAP_TRANSFER_MATCH_VALUE && true) = false := by
  rw [h, Bool.and_false]
  rfl

theorem write_plain {value : UInt32} (h : has value DAP_TRANSFER_RnW = false) :
    (has value DAP_TRANSFER_RnW && has value DAP_TRANSFER_MATCH_VALUE && true) = false := by
  rw [h]
  rfl

theorem swdReadPosted_passes (value : UInt32) (l : Loop (List UInt32)) :
    Passes l (swdReadPosted obliging value l) := by
  have haccess := swdTransfer_obliges
  rw [swdReadPosted]
  by_cases hpost : l.postRead = true
  · rw [if_pos hpost]
    by_cases hdirect : value &&& (DAP_TRANSFER_APnDP ||| DAP_TRANSFER_MATCH_VALUE) =
        DAP_TRANSFER_APnDP
    · rw [if_pos (beq_iff_eq.mpr hdirect)]
      have hvalue := (direct_bits hdirect).2
      exact storePosted_passes haccess (read_plain hvalue) value l.postRead l
    · rw [if_neg (by simpa using hdirect)]
      exact storePosted_passes haccess rdbuff_plain value false l
  · rw [if_neg hpost]
    exact rfl

theorem jtagReadPosted_passes (value : UInt32) (l : Loop (List UInt32)) :
    Passes l (jtagReadPosted obliging value l) := by
  have haccess := jtagTransfer_obliges
  rw [jtagReadPosted]
  by_cases hpost : l.postRead = true
  · rw [if_pos hpost]
    by_cases hdirect : (l.ir == irOf value && !has value DAP_TRANSFER_MATCH_VALUE) = true
    · rw [if_pos hdirect]
      have hvalue := (Bool.not_eq_true' _).mp (Bool.and_eq_true_iff.mp hdirect).2
      exact storePosted_passes haccess (read_plain hvalue) value l.postRead l
    · rw [if_neg hdirect]
      exact passes_of_values (values_selectIr JTAG_DPACC l)
        (storePosted_passes haccess rdbuff_plain value false (l.selectIr obliging JTAG_DPACC))
  · rw [if_neg hpost]
    exact rfl

theorem swdReadNormal_passes {value : UInt32} (hvalue : has value DAP_TRANSFER_MATCH_VALUE = false)
    (l : Loop (List UInt32)) : Passes l (swdReadNormal obliging value l) := by
  rw [swdReadNormal]
  split
  · split
    · exact rfl
    · exact (access_passes swdTransfer_obliges (post_plain value) l).bind (values_storeTimestamp value)
  · exact (access_passes swdTransfer_obliges (read_plain hvalue) l).bind (values_storeTimestamp value)

theorem jtagReadNormal_passes (value : UInt32) (l : Loop (List UInt32)) :
    Passes l (jtagReadNormal obliging value l) := by
  rw [jtagReadNormal]
  split
  · exact rfl
  · exact passes_of_values (values_selectIr (irOf value) l)
      ((access_passes jtagTransfer_obliges (post_plain value) _).bind (values_storeTimestamp value))

section

variable {request : Request} {value : UInt32} {l : Loop (List UInt32)} {rest : List UInt32}

theorem swdReadMatch_obliging (hrnw : has value DAP_TRANSFER_RnW = true)
    (hvalue : has value DAP_TRANSFER_MATCH_VALUE = true)
    (hvalues : values l = request.word l.request :: rest)
    (hmask : request.word l.request &&& mask l = request.word l.request) :
    Ends (fun l' => values l' = rest) (fun _ => False) (swdReadMatch obliging request value l) := by
  have haccess := swdTransfer_obliges
  rw [swdReadMatch]
  by_cases hap : has value DAP_TRANSFER_APnDP = true
  · have hframe := access_frame obliging (swdTransfer_keepsConf obliging) value false (l.skip 4)
    have hsame := values_access haccess (post_plain value) (l.skip 4)
    rw [if_pos hap, check_obliging haccess]
    exact pollMatch_obliging haccess _ hrnw hvalue (hsame.trans hvalues)
      (by rw [hframe.mask]; exact hmask)
  · rw [if_neg hap]
    exact pollMatch_obliging haccess _ hrnw hvalue hvalues hmask

theorem jtagReadMatch_obliging (hrnw : has value DAP_TRANSFER_RnW = true)
    (hvalue : has value DAP_TRANSFER_MATCH_VALUE = true)
    (hvalues : values l = request.word l.request :: rest)
    (hmask : request.word l.request &&& mask l = request.word l.request) :
    Ends (fun l' => values l' = rest) (fun _ => False) (jtagReadMatch obliging request value l) := by
  have haccess := jtagTransfer_obliges
  have hselect := selectIr_frame obliging (irOf value) (l.skip 4)
  have hframe := hselect.trans
    (access_frame obliging (jtagTransfer_keepsConf obliging) value false _)
  have hsame := (values_access haccess (post_plain value)
    ((l.skip 4).selectIr obliging (irOf value))).trans (values_selectIr (irOf value) (l.skip 4))
  rw [jtagReadMatch, check_obliging haccess]
  exact pollMatch_obliging haccess _ hrnw hvalue (hsame.trans hvalues)
    (by rw [hframe.mask]; exact hmask)

/-- A read is left only because of a comparison that cannot hold, with nothing lost. -/
def ReadObliges (request : Request) (value : UInt32) (l : Loop (List UInt32)) (rest : List UInt32) :
    Step (List UInt32) (Loop (List UInt32)) → Prop :=
  Ends (fun l' => values l' = rest) fun l' => has value DAP_TRANSFER_MATCH_VALUE = true ∧
    request.word l.request &&& mask l ≠ request.word l.request ∧ Unserved l l'

theorem swdRead_obliges (hrnw : has value DAP_TRANSFER_RnW = true)
    (hvalues : values l =
      if has value DAP_TRANSFER_MATCH_VALUE then request.word l.request :: rest else rest) :
    ReadObliges request value l rest (swdRead obliging request value l) := by
  rw [swdRead_eq]
  have hread := read_obliges rest hvalues (swdReadPosted_ends obliging value l)
    (swdReadPosted_passes value l) And.right (fun _ => swdReadMatch_ends obliging request value)
    (fun _ hvalue => swdReadMatch_obliging hrnw hvalue)
    (fun l₁ hvalue => swdReadNormal_passes hvalue l₁)
  exact Ends.bind hread fun l' h => h

theorem jtagRead_obliges (hrnw : has value DAP_TRANSFER_RnW = true)
    (hvalues : values l =
      if has value DAP_TRANSFER_MATCH_VALUE then request.word l.request :: rest else rest) :
    ReadObliges request value l rest (jtagRead obliging request value l) :=
  read_obliges rest hvalues (jtagReadPosted_ends obliging value l) (jtagReadPosted_passes value l) id
    (fun _ => jtagReadMatch_ends obliging request value)
    (fun _ hvalue => jtagReadMatch_obliging hrnw hvalue)
    (fun l₁ _ => jtagReadNormal_passes value l₁)

theorem swdWrite_passes (hwrite : has value DAP_TRANSFER_RnW = false) :
    Passes l (swdWrite obliging request value l) := by
  rw [swdWrite_eq]
  apply Passes.bind
  · rw [swdFlush]
    split
    · exact (access_passes swdTransfer_obliges rdbuff_plain l).bind fun _ => rfl
    · exact rfl
  · intro l₁
    split
    · exact rfl
    · exact passes_of_values rfl ((access_passes swdTransfer_obliges (write_plain hwrite)
        (loadData request l₁)).bind (values_storeTimestamp value))

theorem jtagWrite_passes (hwrite : has value DAP_TRANSFER_RnW = false) :
    Passes l (jtagWrite obliging request value l) := by
  rw [jtagWrite_eq]
  apply Passes.bind
  · rw [jtagFlush]
    split
    · exact passes_of_values (values_selectIr JTAG_DPACC l)
        ((access_passes jtagTransfer_obliges rdbuff_plain _).bind fun _ => rfl)
    · exact rfl
  · intro l₁
    split
    · exact rfl
    · exact passes_of_values (values_selectIr (irOf value) (loadData request l₁))
        ((access_passes jtagTransfer_obliges (write_plain hwrite) _).bind
          (values_storeTimestamp value))

end

def RoundObliges (request : Request)
    (round : Loop (List UInt32) → Step (List UInt32) (Loop (List UInt32))) : Prop :=
  ∀ n l, values l = matchValues request (n + 1) l.request →
    Ends (fun l' => values l' =
        matchValues request n (l.request + 1 + operandBytes (request l.request).toUInt32))
      (fun l' => unmatchable request l.request (mask l) = true ∧ Unserved l l') (round l)

theorem round_obliges {request : Request}
    {read write : UInt32 → Loop (List UInt32) → Step (List UInt32) (Loop (List UInt32))}
    (hread : ∀ value l rest, has value DAP_TRANSFER_RnW = true → (values l =
      if has value DAP_TRANSFER_MATCH_VALUE then request.word l.request :: rest else rest) →
        ReadObliges request value l rest (read value l))
    (hwrite : ∀ value l, has value DAP_TRANSFER_RnW = false → Passes l (write value l)) :
    RoundObliges request fun l =>
      (if has (request l.request).toUInt32 DAP_TRANSFER_RnW then
        read (request l.request).toUInt32 (l.skip 1)
      else write (request l.request).toUInt32 (l.skip 1)) >>= countTransfer obliging := by
  intro n l hvalues
  rw [matchValues] at hvalues
  beta_reduce
  generalize hvalue : (request l.request).toUInt32 = value at hvalues ⊢
  generalize hrest : matchValues request n (l.request + 1 + operandBytes value) = rest at hvalues ⊢
  have hcount : ∀ l' : Loop (List UInt32), values l' = rest →
      Ends (fun l' => values l' = rest)
        (fun l' => unmatchable request l.request (mask l) = true ∧ Unserved l l')
        (countTransfer obliging l') := fun l' h => h
  by_cases hrnw : has value DAP_TRANSFER_RnW = true
  · rw [if_pos hrnw]
    have hexpected : values (l.skip 1) = if has value DAP_TRANSFER_MATCH_VALUE then
        request.word (l.skip 1).request :: rest else rest := by
      rw [hrnw, Bool.true_and] at hvalues
      exact hvalues
    refine Ends.bind ((hread value (l.skip 1) rest hrnw hexpected).mono (fun _ h => h) ?_) hcount
    rintro l' ⟨hmatch, hmask, hunserved⟩
    refine ⟨?_, hunserved⟩
    rw [unmatchable, hvalue, hrnw, hmatch]
    exact bne_iff_ne.mpr hmask
  · rw [if_neg hrnw]
    have hwrites := Bool.eq_false_iff.mpr hrnw
    refine Ends.bind ((hwrite value (l.skip 1) hwrites).mono ?_ fun _ h => absurd h id) hcount
    intro l' h
    rw [hwrites] at hvalues
    exact Eq.trans h hvalues

theorem swdRound_obliges (request : Request) : RoundObliges request (swdRound obliging request) := by
  rw [swdRound_eq]
  exact round_obliges (fun _ _ _ hrnw hvalues => swdRead_obliges hrnw hvalues)
    fun _ _ hwrite => swdWrite_passes hwrite

theorem jtagRound_obliges (request : Request) :
    RoundObliges request (jtagRound obliging request) := by
  rw [jtagRound_eq]
  exact round_obliges (fun _ _ _ hrnw hvalues => jtagRead_obliges hrnw hvalues)
    fun _ _ hwrite => jtagWrite_passes hwrite

def Readable (l : Loop σ) : Prop :=
  l.responseValue = DAP_TRANSFER_OK.toUInt32 ∨ l.postRead = false

theorem Readable.ok {l : Loop σ} (h : Readable l) (hpost : l.postRead = true) :
    l.responseValue = DAP_TRANSFER_OK.toUInt32 := by
  rcases h with hok | hnothing
  · exact hok
  · rw [hpost] at hnothing
    cases hnothing

theorem transferLoop_obliging {request : Request}
    {round : Loop (List UInt32) → Step (List UInt32) (Loop (List UInt32))}
    (hround : RoundSpec request round) (hobliges : RoundObliges request round) (n : Nat)
    {l : Loop (List UInt32)} (hvalues : values l = matchValues request n l.request)
    (hreadable : Readable l) :
    due (transferLoop round n l).2 = due l + transferBytes request n l.request (mask l) ∧
    Readable (transferLoop round n l).2 := by
  induction n generalizing l with
  | zero => exact ⟨rfl, hreadable⟩
  | succ n ih =>
      have hspec := Ends.and (hround l) (hobliges n l hvalues)
      rw [transferLoop, transferBytes]
      cases hx : round l with
      | error l' =>
          rw [hx] at hspec
          obtain ⟨-, hmatch, hdue, hpost⟩ := hspec
          rw [if_pos hmatch]
          exact ⟨hdue, .inr hpost⟩
      | ok l' =>
          rw [hx] at hspec
          obtain ⟨⟨hadds, hmatch⟩, hrest⟩ := hspec
          rw [Nat.add_assoc, ← hadds.request] at hrest
          have hnext := ih hrest (.inl hadds.ok)
          rw [hadds.due, hadds.request, hadds.mask, ← Nat.add_assoc, Nat.add_assoc (due l)] at hnext
          rw [if_neg (by simp [hmatch])]
          exact hnext

theorem due_of_nothing {l : Loop σ} (h : l.postRead = false) : l.response.length = due l := by
  rw [due, h]
  rfl

theorem swdFinish_obliging {l : Loop (List UInt32)} (hreadable : Readable l) :
    (swdFinish obliging l).response.length = due l := by
  have hframe := access_frame obliging (swdTransfer_keepsConf obliging) rdbuff true l
  rw [swdFinish]
  by_cases hpost : l.postRead = true
  · have hok := hreadable.ok hpost
    rw [if_neg (by simp [hok]), if_pos hpost]
    dsimp only
    rw [if_neg (by rw [access_obliging swdTransfer_obliges]; simp)]
    exact (store_due (hframe.postRead.trans hpost) _).trans hframe.due
  · have hnothing := due_of_nothing (Bool.eq_false_iff.mpr hpost)
    split
    · exact hnothing
    · split <;> exact hnothing

theorem jtagFinish_obliging {l : Loop (List UInt32)} (hreadable : Readable l) :
    (jtagFinish obliging l).response.length = due l := by
  have hselect := selectIr_frame obliging JTAG_DPACC l
  have hframe := hselect.trans
    (access_frame obliging (jtagTransfer_keepsConf obliging) rdbuff true _)
  rw [jtagFinish]
  by_cases hpost : l.postRead = true
  · have hok := hreadable.ok hpost
    rw [if_neg (by simp [hok])]
    dsimp only
    rw [if_pos (hselect.postRead.trans hpost),
      if_neg (by rw [access_obliging jtagTransfer_obliges]; simp)]
    exact (store_due (hframe.postRead.trans hpost) _).trans hframe.due
  · have hnothing := due_of_nothing (Bool.eq_false_iff.mpr hpost)
    split
    · exact hnothing
    · dsimp only
      rw [if_neg (by rw [hselect.postRead]; exact hpost)]
      exact (congrArg List.length hselect.response).trans hnothing

end WirelessEsp.ObligingTarget
