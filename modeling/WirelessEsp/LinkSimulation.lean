import WirelessEsp.TransferRounds

namespace WirelessEsp.LinkSimulation

open DapTypes DapProbe DapTransfer TransferSteps TransferRounds

variable {σ σ' : Type}

/-- How a state of one link goes with a world of the other, by the variable `ir`. -/
abbrev Relation (σ σ' : Type) := UInt32 → State σ → σ' → Prop

def inWorld (s : State σ) (w' : σ') : State σ' := ⟨s.dapData, s.speed, w'⟩

def loopIn (l : Loop σ) (w' : σ') : Loop σ' where
  request := l.request
  response := l.response
  responseCount := l.responseCount
  responseValue := l.responseValue
  postRead := l.postRead
  checkWrite := l.checkWrite
  ir := l.ir
  data := l.data
  state := inWorld l.state w'

variable (R : Relation σ σ')

def Alike (l : Loop σ) (l' : Loop σ') : Prop :=
  ∃ w', l' = loopIn l w' ∧ R l.ir l.state w'

inductive Agree (good : Loop σ → Prop) : Step σ (Loop σ) → Step σ' (Loop σ') → Prop
  | ok {l l'} (h : Alike R l l') (hgood : good l) : Agree good (.ok l) (.ok l')
  | error {l l'} (h : Alike R l l') : Agree good (.error l) (.error l')

structure Related (L : Link σ) (L' : Link σ') : Prop where
  setMask {ir s w'} (m : UInt32) (h : R ir s w') :
    R ir (s.onDapData fun d => { d with transfer := { d.transfer with matchMask := m } }) w'
  clear {ir s w'} (h : R ir s w') :
    R 0 (s.onWorld L.clearTransferAbort) (L'.clearTransferAbort w')
  aborted {ir s w'} (h : R ir s w') : L'.dapTransferAbort w' = L.dapTransferAbort s.world
  garbage : L'.garbage = L.garbage

/-- An access with its retries has the same results, and takes worlds that go together to such. -/
def SameAccess (L : Link σ) (L' : Link σ') (usable : UInt32 → Prop) (access : Access σ)
    (access' : Access σ') : Prop :=
  ∀ ⦃ir : UInt32⦄ ⦃s : State σ⦄ ⦃w' : σ'⦄ (request : UInt32) (stores : Bool) (data : UInt32),
    usable ir → R ir s w' →
    let result := retryLoop L access request stores s.dapData.transfer.retryCount.toNat data s
    ∃ w'', retryLoop L' access' request stores s.dapData.transfer.retryCount.toNat data
        (inWorld s w') = (result.1, result.2.1, inWorld result.2.2 w'') ∧
      R ir result.2.2 w''

def SameSelect (L : Link σ) (L' : Link σ') : Prop :=
  ∀ ⦃ir : UInt32⦄ ⦃s : State σ⦄ ⦃w' : σ'⦄ (value : UInt32), R ir s w' →
    R (irOf value) (s.onWorld (L.jtagIr s.dapData (irOf value)))
      (L'.jtagIr s.dapData (irOf value) w')

def Selected (ir : UInt32) : Prop := ir ≠ 0

variable {R} {L : Link σ} {L' : Link σ'} {l : Loop σ} {l' : Loop σ'} {request : Request}

theorem Agree.mono {good good' : Loop σ → Prop} {x : Step σ (Loop σ)} {x' : Step σ' (Loop σ')}
    (h : Agree R good x x') (hgood : ∀ l, good l → good' l) : Agree R good' x x' := by
  cases h with
  | ok h hl => exact .ok h (hgood _ hl)
  | error h => exact .error h

theorem Agree.bind {good good' : Loop σ → Prop} {x : Step σ (Loop σ)} {x' : Step σ' (Loop σ')}
    {f : Loop σ → Step σ (Loop σ)} {f' : Loop σ' → Step σ' (Loop σ')} (h : Agree R good x x')
    (hf : ∀ l l', Alike R l l' → good l → Agree R good' (f l) (f' l')) :
    Agree R good' (x >>= f) (x' >>= f') := by
  cases h with
  | ok h hl => exact hf _ _ h hl
  | error h => exact .error h

theorem Agree.follow {good : Loop σ → Prop} {x : Step σ (Loop σ)} {x' : Step σ' (Loop σ')}
    {f : Loop σ → Step σ (Loop σ)} {f' : Loop σ' → Step σ' (Loop σ')}
    (h : Agree R (fun _ => True) x x') (hf : ∀ l l', Alike R l l' → Agree R good (f l) (f' l')) :
    Agree R good (x >>= f) (x' >>= f') := h.bind fun l l' hl _ => hf l l' hl

theorem Agree.pure {good : Loop σ → Prop} (h : Alike R l l') (hgood : good l) :
    Agree R good (pure l) (pure l') := .ok h hgood

theorem Alike.update (h : Alike R l l') (f : Loop σ → Loop σ) (f' : Loop σ' → Loop σ')
    (hsame : ∀ w', f' (loopIn l w') = loopIn (f l) w') (hir : (f l).ir = l.ir)
    (hstate : (f l).state = l.state) : Alike R (f l) (f' l') := by
  obtain ⟨w', rfl, hw⟩ := h
  refine ⟨w', hsame w', ?_⟩
  rw [hir, hstate]
  exact hw

theorem Alike.store (h : Alike R l l') (word : UInt32) : Alike R (l.store word) (l'.store word) :=
  h.update (Loop.store word) (Loop.store word) (fun _ => rfl) rfl rfl

theorem Alike.skip (h : Alike R l l') (n : Nat) : Alike R (l.skip n) (l'.skip n) :=
  h.update (Loop.skip n) (Loop.skip n) (fun _ => rfl) rfl rfl

theorem Alike.setPost (h : Alike R l l') (post : Bool) :
    Alike R { l with postRead := post } { l' with postRead := post } :=
  h.update (fun l => { l with postRead := post }) (fun l => { l with postRead := post })
    (fun _ => rfl) rfl rfl

theorem Alike.setCheck (h : Alike R l l') (check : Bool) :
    Alike R { l with checkWrite := check } { l' with checkWrite := check } :=
  h.update (fun l => { l with checkWrite := check }) (fun l => { l with checkWrite := check })
    (fun _ => rfl) rfl rfl

theorem Alike.count (h : Alike R l l') :
    Alike R { l with responseCount := l.responseCount + 1 }
      { l' with responseCount := l'.responseCount + 1 } :=
  h.update (fun l => { l with responseCount := l.responseCount + 1 })
    (fun l => { l with responseCount := l.responseCount + 1 }) (fun _ => rfl) rfl rfl

theorem Alike.loadData (h : Alike R l l') (request : Request) :
    Alike R (loadData request l) (loadData request l') :=
  h.update (DapTransfer.loadData request) (DapTransfer.loadData request) (fun _ => rfl) rfl rfl

theorem Alike.mismatch (h : Alike R l l') :
    Alike R { l with responseValue := l.responseValue ||| DAP_TRANSFER_MISMATCH.toUInt32 }
      { l' with responseValue := l'.responseValue ||| DAP_TRANSFER_MISMATCH.toUInt32 } :=
  h.update (fun l => { l with responseValue := l.responseValue ||| DAP_TRANSFER_MISMATCH.toUInt32 })
    (fun l => { l with responseValue := l.responseValue ||| DAP_TRANSFER_MISMATCH.toUInt32 })
    (fun _ => rfl) rfl rfl

theorem storeTimestamp_ir (value : UInt32) (l : Loop σ) : (l.storeTimestamp value).ir = l.ir := by
  rw [Loop.storeTimestamp]
  split <;> rfl

theorem Alike.storeTimestamp (h : Alike R l l') (value : UInt32) :
    Alike R (l.storeTimestamp value) (l'.storeTimestamp value) := by
  obtain ⟨w', rfl, hw⟩ := h
  rw [Loop.storeTimestamp, Loop.storeTimestamp]
  split
  · exact Alike.store ⟨w', rfl, hw⟩ _
  · exact ⟨w', rfl, hw⟩

theorem check_agrees (h : Alike R l l') : Agree R (· = l) l.check l'.check := by
  obtain ⟨w', rfl, hw⟩ := h
  have hvalue : (loopIn l w').responseValue = l.responseValue := rfl
  rw [Loop.check, Loop.check, hvalue]
  split
  · exact .error ⟨w', rfl, hw⟩
  · exact .ok ⟨w', rfl, hw⟩ rfl

section Port

variable (hL : Related R L L') {usable : UInt32 → Prop} {access : Access σ} {access' : Access σ'}
  (ha : SameAccess R L L' usable access access')

include ha in
theorem Alike.runAccess (h : Alike R l l') (hu : usable l.ir) (value : UInt32) (stores : Bool) :
    Alike R (l.access L access value stores) (l'.access L' access' value stores) := by
  obtain ⟨w', rfl, hw⟩ := h
  obtain ⟨w'', hsame, hw''⟩ := ha value stores l.data hu hw
  refine ⟨w'', ?_, hw''⟩
  have hrun : (loopIn l w').access L' access' value stores =
      { loopIn l w' with
        responseValue := (retryLoop L' access' value stores
          l.state.dapData.transfer.retryCount.toNat l.data (inWorld l.state w')).1
        data := (retryLoop L' access' value stores
          l.state.dapData.transfer.retryCount.toNat l.data (inWorld l.state w')).2.1
        state := (retryLoop L' access' value stores
          l.state.dapData.transfer.retryCount.toNat l.data (inWorld l.state w')).2.2 } := rfl
  rw [hrun, hsame]
  rfl

include ha in
theorem accessCheck_agrees (h : Alike R l l') (hu : usable l.ir) (value : UInt32) (stores : Bool) :
    Agree R (fun l₁ => l₁.ir = l.ir) (l.access L access value stores).check
      (l'.access L' access' value stores).check :=
  (check_agrees (h.runAccess ha hu value stores)).mono fun l₁ heq => by rw [heq]; rfl

include hL in
theorem Alike.aborted (h : Alike R l l') : l'.aborted L' = l.aborted L := by
  obtain ⟨w', rfl, hw⟩ := h
  exact hL.aborted hw

include hL in
theorem countTransfer_agrees (h : Alike R l l') :
    Agree R (fun _ => True) (countTransfer L l) (countTransfer L' l') := by
  have hcount := h.count
  simp only [countTransfer, hcount.aborted hL]
  split
  · exact .error hcount
  · exact .ok hcount trivial

include hL in
theorem Alike.writeMatchMask (h : Alike R l l') :
    Alike R (writeMatchMask l) (writeMatchMask l') := by
  obtain ⟨w', rfl, hw⟩ := h
  exact ⟨w', rfl, hL.setMask l.data hw⟩

include hL ha in
theorem matchLoop_alike (value matchValue : UInt32) (n : Nat) (h : Alike R l l')
    (hu : usable l.ir) :
    Alike R (matchLoop L access value matchValue n l) (matchLoop L' access' value matchValue n l') ∧
      (matchLoop L access value matchValue n l).ir = l.ir := by
  induction n generalizing l l' with
  | zero => exact ⟨h.runAccess ha hu value true, rfl⟩
  | succ n ih =>
      have hnext := h.runAccess ha hu value true
      have hsame := hnext.aborted hL
      have hir : (l.access L access value true).ir = l.ir := rfl
      simp only [matchLoop, hsame]
      generalize l.access L access value true = m at hnext hir
      generalize l'.access L' access' value true = m' at hnext
      obtain ⟨w', rfl, hw⟩ := hnext
      have hvalue : (loopIn m w').responseValue = m.responseValue := rfl
      have hdata : (loopIn m w').data = m.data := rfl
      have hmask : (loopIn m w').state.dapData = m.state.dapData := rfl
      rw [hvalue, hdata, hmask]
      split
      · exact ⟨⟨w', rfl, hw⟩, hir⟩
      · split
        · obtain ⟨hrest, hend⟩ := ih ⟨w', rfl, hw⟩ (hir.symm ▸ hu)
          exact ⟨hrest, hend.trans hir⟩
        · exact ⟨⟨w', rfl, hw⟩, hir⟩

include hL ha in
theorem pollMatch_agrees (value matchValue : UInt32) (n : Nat) (h : Alike R l l')
    (hu : usable l.ir) :
    Agree R (fun l₁ => l₁.ir = l.ir) (pollMatch L access value matchValue n l)
      (pollMatch L' access' value matchValue n l') := by
  obtain ⟨hpoll, hir⟩ := matchLoop_alike hL ha value matchValue n h hu
  rw [pollMatch, pollMatch]
  generalize matchLoop L access value matchValue n l = m at hpoll hir
  generalize matchLoop L' access' value matchValue n l' = m' at hpoll
  obtain ⟨w', rfl, hw⟩ := hpoll
  have hdata : (loopIn m w').data = m.data := rfl
  have hmask : (loopIn m w').state.dapData = m.state.dapData := rfl
  simp only [hdata, hmask]
  split
  · refine (check_agrees (Alike.mismatch ⟨w', rfl, hw⟩)).mono fun _ heq => ?_
    rw [heq, ← hir]
  · refine (check_agrees ⟨w', rfl, hw⟩).mono fun _ heq => ?_
    rw [heq, hir]

end Port

theorem SameAccess.of_once {usable : UInt32 → Prop} {access : Access σ} {access' : Access σ'}
    (hL : Related R L L')
    (h : ∀ (ir : UInt32) (s : State σ) (w' : σ') (request : UInt32) (stores : Bool) (data : UInt32),
      usable ir → R ir s w' →
      ∃ w'', access' request stores data (inWorld s w') =
          ((access request stores data s).1, (access request stores data s).2.1,
            inWorld (access request stores data s).2.2 w'') ∧
        R ir (access request stores data s).2.2 w'') :
    SameAccess R L L' usable access access' := by
  intro ir s w' request stores data hu hw
  simp only
  generalize s.dapData.transfer.retryCount.toNat = n
  induction n generalizing s w' data with
  | zero => exact h ir s w' request stores data hu hw
  | succ n ih =>
      obtain ⟨w'', hsame, hw''⟩ := h ir s w' request stores data hu hw
      have habort : L'.dapTransferAbort (inWorld (access request stores data s).2.2 w'').world = _ :=
        hL.aborted hw''
      simp only [retryLoop, hsame, habort]
      split
      · exact ih _ hw''
      · exact ⟨w'', rfl, hw''⟩

section Swd

variable (hL : Related R L L')
  (ha : SameAccess R L L' (fun _ => True) (swdTransfer L) (swdTransfer L'))

theorem postRead_eq (h : Alike R l l') : l'.postRead = l.postRead := by
  obtain ⟨w', rfl, hw⟩ := h
  rfl

theorem checkWrite_eq (h : Alike R l l') : l'.checkWrite = l.checkWrite := by
  obtain ⟨w', rfl, hw⟩ := h
  rfl

theorem responseValue_eq (h : Alike R l l') : l'.responseValue = l.responseValue := by
  obtain ⟨w', rfl, hw⟩ := h
  rfl

theorem request_eq (h : Alike R l l') : l'.request = l.request := by
  obtain ⟨w', rfl, hw⟩ := h
  rfl

theorem ir_eq (h : Alike R l l') : l'.ir = l.ir := by
  obtain ⟨w', rfl, hw⟩ := h
  rfl

theorem data_eq (h : Alike R l l') : l'.data = l.data := by
  obtain ⟨w', rfl, hw⟩ := h
  rfl

theorem dapData_eq (h : Alike R l l') : l'.state.dapData = l.state.dapData := by
  obtain ⟨w', rfl, hw⟩ := h
  rfl

theorem storePosted_agrees (value : UInt32) (h : Alike R l l') :
    Agree R (fun l₁ => l₁.ir = l.ir) (storePosted value l) (storePosted value l') := by
  refine (check_agrees h).bind fun m m' hm heq => ?_
  have hstore := hm.store m.data
  have hdata := data_eq hm
  have hpost := postRead_eq hstore
  subst heq
  simp only [hdata]
  generalize hn : m.store m.data = n at hstore hpost
  have hir : n.ir = m.ir := hn ▸ rfl
  simp only [hpost]
  split
  · exact .pure (hstore.storeTimestamp value) ((storeTimestamp_ir value n).trans hir)
  · exact .pure hstore hir

include ha in
theorem swdReadPosted_agrees (value : UInt32) (h : Alike R l l') :
    Agree R (fun _ => True) (swdReadPosted L value l) (swdReadPosted L' value l') := by
  rw [swdReadPosted, swdReadPosted, postRead_eq h]
  split
  · split
    · exact (storePosted_agrees value (h.runAccess ha trivial value true)).mono fun _ _ => trivial
    · have hread := (h.runAccess ha trivial rdbuff true).setPost false
      exact (storePosted_agrees value hread).mono fun _ _ => trivial
  · exact .pure h trivial

include hL ha in
theorem swdReadMatch_agrees (value : UInt32) (h : Alike R l l') :
    Agree R (fun _ => True) (swdReadMatch L request value l) (swdReadMatch L' request value l') := by
  have hskip := h.skip 4
  have hpoll : ∀ m m', Alike R m m' → Agree R (fun _ => True)
      (pollMatch L (swdTransfer L) value (request.word l.request)
        l.state.dapData.transfer.matchRetry.toNat m)
      (pollMatch L' (swdTransfer L') value (request.word l.request)
        l.state.dapData.transfer.matchRetry.toNat m') :=
    fun m m' hm => (pollMatch_agrees hL ha value _ _ hm trivial).mono fun _ _ => trivial
  have hretry : (l'.skip 4).state.dapData = (l.skip 4).state.dapData := dapData_eq hskip
  simp only [swdReadMatch, hretry, request_eq h]
  split
  · exact (accessCheck_agrees ha hskip trivial value false).bind fun m m' hm _ => hpoll m m' hm
  · exact hpoll _ _ hskip

include ha in
theorem swdReadNormal_agrees (value : UInt32) (h : Alike R l l') :
    Agree R (fun _ => True) (swdReadNormal L value l) (swdReadNormal L' value l') := by
  rw [swdReadNormal, swdReadNormal, postRead_eq h]
  split
  · split
    · exact .pure h trivial
    · refine (accessCheck_agrees ha h trivial value false).bind fun m m' hm _ => ?_
      exact .pure ((hm.storeTimestamp value).setPost true) trivial
  · refine (accessCheck_agrees ha h trivial value true).bind fun m m' hm _ => ?_
    have hstamp := hm.storeTimestamp value
    have hdata := data_eq hstamp
    simp only [hdata]
    exact .pure (hstamp.store _) trivial

include hL ha in
theorem swdRead_agrees (value : UInt32) (h : Alike R l l') :
    Agree R (fun _ => True) (swdRead L request value l) (swdRead L' request value l') := by
  rw [swdRead_eq, swdRead_eq]
  refine Agree.follow ?_ fun n n' hn => ?_
  · refine (swdReadPosted_agrees ha value h).bind fun m m' hm _ => ?_
    split
    · exact swdReadMatch_agrees hL ha value hm
    · exact swdReadNormal_agrees ha value hm
  · exact .ok (hn.setCheck false) trivial

include ha in
theorem swdFlush_agrees (h : Alike R l l') :
    Agree R (fun _ => True) (swdFlush L l) (swdFlush L' l') := by
  rw [swdFlush, swdFlush, postRead_eq h]
  split
  · refine (accessCheck_agrees ha h trivial rdbuff true).bind fun m m' hm _ => ?_
    rw [data_eq hm]
    exact .pure ((hm.store m.data).setPost false) trivial
  · exact .pure h trivial

include hL ha in
theorem swdWrite_agrees (value : UInt32) (h : Alike R l l') :
    Agree R (fun _ => True) (swdWrite L request value l) (swdWrite L' request value l') := by
  rw [swdWrite_eq, swdWrite_eq]
  refine (swdFlush_agrees ha h).bind fun m m' hm _ => ?_
  have hload := hm.loadData request
  split
  · exact .pure (hload.writeMatchMask hL) trivial
  · refine (accessCheck_agrees ha hload trivial value true).bind fun n n' hn _ => ?_
    exact .pure ((hn.storeTimestamp value).setCheck true) trivial

include hL ha in
theorem swdRound_agrees (h : Alike R l l') :
    Agree R (fun _ => True) (swdRound L request l) (swdRound L' request l') := by
  have hskip := h.skip 1
  simp only [swdRound_eq, request_eq h]
  refine Agree.follow ?_ fun m m' hm => countTransfer_agrees hL hm
  split
  · exact swdRead_agrees hL ha _ hskip
  · exact swdWrite_agrees hL ha _ hskip

include ha in
theorem swdFinish_alike (h : Alike R l l') : Alike R (swdFinish L l) (swdFinish L' l') := by
  rw [swdFinish, swdFinish, responseValue_eq h, postRead_eq h, checkWrite_eq h]
  split
  · exact h
  · split
    · have hread := h.runAccess ha trivial rdbuff true
      simp only [responseValue_eq hread, data_eq hread]
      split
      · exact hread
      · exact hread.store _
    · split
      · exact h.runAccess ha trivial rdbuff false
      · exact h

end Swd

section Jtag

variable (hL : Related R L L') (hs : SameSelect R L L')
  (ha : SameAccess R L L' Selected (jtagTransfer L) (jtagTransfer L'))

theorem irOf_selected (value : UInt32) : Selected (irOf value) := by
  rw [irOf]
  split <;> exact ne_of_beq_false rfl

theorem irOf_rdbuff : irOf rdbuff = JTAG_DPACC := rfl

include hs in
theorem Alike.selectIr (h : Alike R l l') (value : UInt32) :
    Alike R (l.selectIr L (irOf value)) (l'.selectIr L' (irOf value)) ∧
      (l.selectIr L (irOf value)).ir = irOf value := by
  obtain ⟨w', rfl, hw⟩ := h
  have hir : (loopIn l w').ir = l.ir := rfl
  rw [Loop.selectIr, Loop.selectIr, hir]
  split
  next hne => exact ⟨⟨_, rfl, hs value hw⟩, rfl⟩
  next heq => exact ⟨⟨w', rfl, hw⟩, by simpa using heq⟩

include hs ha in
theorem selectedAccess_alike (h : Alike R l l') (value : UInt32) (request : UInt32)
    (stores : Bool) :
    Alike R ((l.selectIr L (irOf value)).access L (jtagTransfer L) request stores)
        ((l'.selectIr L' (irOf value)).access L' (jtagTransfer L') request stores) ∧
      ((l.selectIr L (irOf value)).access L (jtagTransfer L) request stores).ir = irOf value := by
  obtain ⟨hselect, hir⟩ := h.selectIr hs value
  have hselected : Selected (l.selectIr L (irOf value)).ir := by
    rw [hir]
    exact irOf_selected value
  exact ⟨hselect.runAccess ha hselected request stores, hir⟩

include hs ha in
theorem jtagReadPosted_agrees (value : UInt32) (h : Alike R l l') :
    Agree R (fun _ => True) (jtagReadPosted L value l) (jtagReadPosted L' value l') := by
  rw [jtagReadPosted, jtagReadPosted, postRead_eq h]
  split
  · rw [ir_eq h]
    split
    next hdirect =>
      have hir : l.ir = irOf value := eq_of_beq (Bool.and_eq_true_iff.mp hdirect).1
      have hread := h.runAccess ha (hir ▸ irOf_selected value) value true
      exact (storePosted_agrees value hread).mono fun _ _ => trivial
    next =>
      obtain ⟨hread, -⟩ := selectedAccess_alike hs ha h rdbuff rdbuff true
      exact (storePosted_agrees value (hread.setPost false)).mono fun _ _ => trivial
  · exact .pure h trivial

include hL hs ha in
theorem jtagReadMatch_agrees (value : UInt32) (h : Alike R l l') :
    Agree R (fun _ => True) (jtagReadMatch L request value l)
      (jtagReadMatch L' request value l') := by
  have hskip := h.skip 4
  obtain ⟨hread, hir⟩ := selectedAccess_alike hs ha hskip value value false
  have hretry : (l'.skip 4).state.dapData = (l.skip 4).state.dapData := dapData_eq hskip
  simp only [jtagReadMatch, hretry, request_eq h]
  refine (check_agrees hread).bind fun m m' hm heq => ?_
  have hselected : Selected m.ir := by
    rw [heq, hir]
    exact irOf_selected value
  exact (pollMatch_agrees hL ha value _ _ hm hselected).mono fun _ _ => trivial

include hs ha in
theorem jtagReadNormal_agrees (value : UInt32) (h : Alike R l l') :
    Agree R (fun _ => True) (jtagReadNormal L value l) (jtagReadNormal L' value l') := by
  rw [jtagReadNormal, jtagReadNormal, postRead_eq h]
  split
  · exact .pure h trivial
  · obtain ⟨hread, -⟩ := selectedAccess_alike hs ha h value value false
    refine (check_agrees hread).bind fun m m' hm _ => ?_
    exact .pure ((hm.storeTimestamp value).setPost true) trivial

include hL hs ha in
theorem jtagRead_agrees (value : UInt32) (h : Alike R l l') :
    Agree R (fun _ => True) (jtagRead L request value l) (jtagRead L' request value l') := by
  refine (jtagReadPosted_agrees hs ha value h).bind fun m m' hm _ => ?_
  split
  · exact jtagReadMatch_agrees hL hs ha value hm
  · exact jtagReadNormal_agrees hs ha value hm

include hs ha in
theorem jtagFlush_agrees (h : Alike R l l') :
    Agree R (fun _ => True) (jtagFlush L l) (jtagFlush L' l') := by
  rw [jtagFlush, jtagFlush, postRead_eq h]
  split
  · obtain ⟨hread, -⟩ := selectedAccess_alike hs ha h rdbuff rdbuff true
    refine (check_agrees hread).bind fun m m' hm _ => ?_
    rw [data_eq hm]
    exact .pure ((hm.store m.data).setPost false) trivial
  · exact .pure h trivial

include hL hs ha in
theorem jtagWrite_agrees (value : UInt32) (h : Alike R l l') :
    Agree R (fun _ => True) (jtagWrite L request value l) (jtagWrite L' request value l') := by
  rw [jtagWrite_eq, jtagWrite_eq]
  refine (jtagFlush_agrees hs ha h).bind fun m m' hm _ => ?_
  have hload := hm.loadData request
  split
  · exact .pure (hload.writeMatchMask hL) trivial
  · obtain ⟨hwrite, -⟩ := selectedAccess_alike hs ha hload value value true
    refine (check_agrees hwrite).bind fun n n' hn _ => ?_
    exact .pure (hn.storeTimestamp value) trivial

include hL hs ha in
theorem jtagRound_agrees (h : Alike R l l') :
    Agree R (fun _ => True) (jtagRound L request l) (jtagRound L' request l') := by
  have hskip := h.skip 1
  simp only [jtagRound_eq, request_eq h]
  refine Agree.follow ?_ fun m m' hm => countTransfer_agrees hL hm
  split
  · exact jtagRead_agrees hL hs ha _ hskip
  · exact jtagWrite_agrees hL hs ha _ hskip

include hs ha in
theorem jtagFinish_alike (h : Alike R l l') : Alike R (jtagFinish L l) (jtagFinish L' l') := by
  obtain ⟨hselect, -⟩ := h.selectIr hs rdbuff
  obtain ⟨hread, -⟩ := selectedAccess_alike hs ha h rdbuff rdbuff true
  obtain ⟨hcheck, -⟩ := selectedAccess_alike hs ha h rdbuff rdbuff false
  rw [irOf_rdbuff] at hselect hread hcheck
  simp only [jtagFinish, responseValue_eq h, postRead_eq hselect, responseValue_eq hread,
    data_eq hread]
  split
  · exact h
  · split
    · split
      · exact hread
      · exact hread.store _
    · exact hcheck

end Jtag

theorem transferLoop_alike {round : Loop σ → Step σ (Loop σ)} {round' : Loop σ' → Step σ' (Loop σ')}
    (hround : ∀ l l', Alike R l l' → Agree R (fun _ => True) (round l) (round' l')) (n : Nat)
    (h : Alike R l l') :
    (transferLoop round' n l').1 = (transferLoop round n l).1 ∧
      Alike R (transferLoop round n l).2 (transferLoop round' n l').2 := by
  induction n generalizing l l' with
  | zero => exact ⟨rfl, h⟩
  | succ n ih =>
      have hstep := hround l l' h
      rw [transferLoop, transferLoop]
      generalize round l = x at hstep
      generalize round' l' = x' at hstep
      cases hstep with
      | ok hnext => exact ih hnext
      | error hend => exact ⟨rfl, hend⟩

theorem cancelRequests_alike {rest : Nat × Loop σ} {rest' : Nat × Loop σ'}
    (hleft : rest'.1 = rest.1) (h : Alike R rest.2 rest'.2) :
    Alike R (cancelRequests request rest) (cancelRequests request rest') := by
  obtain ⟨n, l⟩ := rest
  obtain ⟨n', l'⟩ := rest'
  obtain rfl : n' = n := hleft
  exact h.update (fun l => { l with request := skipRequests request n' l.request })
    (fun l => { l with request := skipRequests request n' l.request }) (fun _ => rfl) rfl rfl

structure SameReply (R : Relation σ σ') (reply : Reply σ) (reply' : Reply σ') : Prop where
  bytes : reply'.bytes = reply.bytes
  num : reply'.num = reply.num
  state : ∃ ir w', reply'.state = inWorld reply.state w' ∧
    R ir reply.state w'

theorem Alike.state (h : Alike R l l') : ∃ ir w', l'.state = inWorld l.state w' ∧
    R ir l.state w' := by
  obtain ⟨w', rfl, hw⟩ := h
  exact ⟨l.ir, w', rfl, hw⟩

theorem transferReply_same (h : Alike R l l') : SameReply R (transferReply l) (transferReply l') where
  bytes := by
    obtain ⟨w', rfl, -⟩ := h
    rfl
  num := by
    obtain ⟨w', rfl, -⟩ := h
    rfl
  state := h.state

theorem blockReply_same (h : Alike R l l') : SameReply R (blockReply l) (blockReply l') where
  bytes := by
    obtain ⟨w', rfl, -⟩ := h
    rfl
  num := by
    obtain ⟨w', rfl, -⟩ := h
    rfl
  state := h.state

theorem startLoop_alike (hL : Related R L L') (n : Nat) {ir : UInt32} {s : State σ} {w' : σ'}
    (h : R ir s w') : Alike R (startLoop L n s) (startLoop L' n (inWorld s w')) := by
  refine ⟨L'.clearTransferAbort w', ?_, hL.clear h⟩
  rw [startLoop, startLoop, hL.garbage]
  rfl

section Block

variable {usable : UInt32 → Prop} {access : Access σ} {access' : Access σ'}
  (ha : SameAccess R L L' usable access access')

include ha in
theorem readBlock_agrees (value last : UInt32) {select : Loop σ → Loop σ}
    {select' : Loop σ' → Loop σ'}
    (hselect : ∀ l l', Alike R l l' → usable l.ir →
      Alike R (select l) (select' l') ∧ usable (select l).ir)
    (n : Nat) (h : Alike R l l') (hu : usable l.ir) :
    Agree R (fun _ => True) (readBlock L access value last select n l)
      (readBlock L' access' value last select' n l') := by
  induction n generalizing l l' with
  | zero => exact .pure h trivial
  | succ n ih =>
      rw [readBlock, readBlock]
      have hstart : Alike R (if n = 0 then select l else l) (if n = 0 then select' l' else l') ∧
          usable (if n = 0 then select l else l).ir := by
        split
        · exact hselect l l' h hu
        · exact ⟨h, hu⟩
      refine (accessCheck_agrees ha hstart.1 hstart.2 _ true).bind fun m m' hm hir => ?_
      rw [data_eq hm]
      exact ih (hm.store m.data).count (hir.symm ▸ hstart.2)

include ha in
theorem writeBlock_agrees (value : UInt32) (n : Nat) (h : Alike R l l') (hu : usable l.ir) :
    Agree R (fun l₁ => usable l₁.ir) (writeBlock L access request value n l)
      (writeBlock L' access' request value n l') := by
  induction n generalizing l l' with
  | zero => exact .pure h hu
  | succ n ih =>
      refine (accessCheck_agrees ha (h.loadData request) hu value true).bind
        fun m m' hm hir => ?_
      exact ih hm.count (hir.symm ▸ hu)

end Block

theorem swdBlock_agrees (ha : SameAccess R L L' (fun _ => True) (swdTransfer L) (swdTransfer L'))
    (value : UInt32) (n : Nat) (h : Alike R l l') :
    Agree R (fun _ => True) (swdBlock L request value n l) (swdBlock L' request value n l') := by
  rw [swdBlock, swdBlock]
  split
  · split
    · refine (accessCheck_agrees ha h trivial value false).bind fun m m' hm _ => ?_
      exact readBlock_agrees ha value rdbuff (fun l l' h _ => ⟨h, trivial⟩) n hm trivial
    · exact readBlock_agrees ha value value (fun l l' h _ => ⟨h, trivial⟩) n h trivial
  · refine (writeBlock_agrees ha value n h trivial).bind fun m m' hm _ => ?_
    exact .pure (hm.runAccess ha trivial rdbuff false) trivial

theorem jtagBlock_agrees (hs : SameSelect R L L')
    (ha : SameAccess R L L' Selected (jtagTransfer L) (jtagTransfer L')) (value : UInt32) (n : Nat)
    (h : Alike R l l') :
    Agree R (fun _ => True) (jtagBlock L request value n l) (jtagBlock L' request value n l') := by
  have hstart : Alike R { l with
      ir := irOf value, state := l.state.onWorld (L.jtagIr l.state.dapData (irOf value)) }
      { l' with
        ir := irOf value, state := l'.state.onWorld (L'.jtagIr l'.state.dapData (irOf value)) } := by
    obtain ⟨w', rfl, hw⟩ := h
    exact ⟨_, rfl, hs value hw⟩
  have hselect : ∀ l l', Alike R l l' → Selected l.ir →
      Alike R (l.selectIr L JTAG_DPACC) (l'.selectIr L' JTAG_DPACC) ∧
        Selected (l.selectIr L JTAG_DPACC).ir := by
    intro l l' h _
    obtain ⟨halike, hir⟩ := h.selectIr hs rdbuff
    exact ⟨halike, hir ▸ irOf_selected rdbuff⟩
  simp only [jtagBlock]
  split
  · refine (accessCheck_agrees ha hstart (irOf_selected value) value false).bind
      fun m m' hm hir => ?_
    exact readBlock_agrees ha value rdbuff hselect n hm (hir ▸ irOf_selected value)
  · refine (writeBlock_agrees ha value n hstart (irOf_selected value)).bind fun m m' hm hu => ?_
    obtain ⟨hlast, hlastIr⟩ := hselect m m' hm hu
    exact .pure (hlast.runAccess ha hlastIr rdbuff false) trivial

theorem endOf_alike {x : Step σ (Loop σ)} {x' : Step σ' (Loop σ')}
    (h : Agree R (fun _ => True) x x') : Alike R (endOf x) (endOf x') := by
  cases h with
  | ok h => exact h
  | error h => exact h

theorem runBlock_same {block : UInt32 → Nat → Loop σ → Step σ (Loop σ)}
    {block' : UInt32 → Nat → Loop σ' → Step σ' (Loop σ')}
    (hblock : ∀ value n l l', Alike R l l' →
      Agree R (fun _ => True) (block value n l) (block' value n l'))
    (h : Alike R l l') : SameReply R (runBlock block request l) (runBlock block' request l') := by
  simp only [runBlock]
  split
  · exact blockReply_same h
  · exact blockReply_same (endOf_alike (hblock _ _ _ _ (h.skip 4)))

variable {s : State σ} {w' : σ'} {ir : UInt32}

theorem dapSwdTransfer_same (hL : Related R L L')
    (ha : SameAccess R L L' (fun _ => True) (swdTransfer L) (swdTransfer L'))
    (h : R ir s w') :
    SameReply R (dapSwdTransfer L request s) (dapSwdTransfer L' request (inWorld s w')) := by
  obtain ⟨hleft, hloop⟩ := transferLoop_alike (fun _ _ h => swdRound_agrees hL ha h)
    (request 1).toNat (startLoop_alike hL 2 h)
  exact transferReply_same (swdFinish_alike ha (cancelRequests_alike hleft hloop))

theorem dapJtagTransfer_same (hL : Related R L L') (hs : SameSelect R L L')
    (ha : SameAccess R L L' Selected (jtagTransfer L) (jtagTransfer L'))
    (h : R ir (setJtagIndex (request 0) s) w') :
    SameReply R (dapJtagTransfer L request s) (dapJtagTransfer L' request (inWorld s w')) := by
  have hvalid : (setJtagIndex (request 0) (inWorld s w')).dapData =
      (setJtagIndex (request 0) s).dapData := rfl
  simp only [dapJtagTransfer, hvalid]
  split
  · obtain ⟨hleft, hloop⟩ := transferLoop_alike (fun _ _ h => jtagRound_agrees hL hs ha h)
      (request 1).toNat (@startLoop_alike _ _ _ _ _ hL 2 ir (setJtagIndex (request 0) s) w' h)
    exact transferReply_same (jtagFinish_alike hs ha (cancelRequests_alike hleft hloop))
  · exact transferReply_same
      (@startLoop_alike _ _ _ _ _ hL 1 ir (setJtagIndex (request 0) s) w' h)

theorem dapSwdTransferBlock_same (hL : Related R L L')
    (ha : SameAccess R L L' (fun _ => True) (swdTransfer L) (swdTransfer L'))
    (h : R ir s w') :
    SameReply R (dapSwdTransferBlock L request s)
      (dapSwdTransferBlock L' request (inWorld s w')) :=
  runBlock_same (fun value n _ _ h => swdBlock_agrees ha value n h) (startLoop_alike hL 0 h)

theorem dapJtagTransferBlock_same (hL : Related R L L') (hs : SameSelect R L L')
    (ha : SameAccess R L L' Selected (jtagTransfer L) (jtagTransfer L'))
    (h : R ir (setJtagIndex (request 0) s) w') :
    SameReply R (dapJtagTransferBlock L request s)
      (dapJtagTransferBlock L' request (inWorld s w')) := by
  have hstart : Alike R (startLoop L 0 (setJtagIndex (request 0) s))
      (startLoop L' 0 (setJtagIndex (request 0) (inWorld s w'))) :=
    @startLoop_alike _ _ _ _ _ hL 0 ir (setJtagIndex (request 0) s) w' h
  simp only [dapJtagTransferBlock, dapData_eq hstart]
  split
  · exact runBlock_same (fun value n _ _ h => jtagBlock_agrees hs ha value n h) hstart
  · exact blockReply_same hstart

end WirelessEsp.LinkSimulation
