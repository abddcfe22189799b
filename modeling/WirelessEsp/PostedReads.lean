import WirelessEsp.PostedTarget

namespace WirelessEsp.PostedReads

open DapTypes DapProbe DapTransfer TransferSteps TransferRounds PostedTarget

variable {τ : Type} (T : Registers τ) (port : Port) (retry : Nat)

def after (l : Loop (World τ)) (data : UInt32) (dap : DebugPort τ) : Loop (World τ) :=
  { l with
    responseValue := DAP_TRANSFER_OK.toUInt32
    data
    state := l.state.onWorld fun w => { w with dap } }

def Ready (value : UInt32) (s : State (World τ)) : Prop := port = .jtag → s.world.ir = irOf value

def transferOf (value data : UInt32) (dap : DebugPort τ) : UInt32 × DebugPort τ :=
  dap.transfer T (port.posts value) (has value DAP_TRANSFER_APnDP) value data

theorem transferOf_read {value : UInt32} (hread : has value DAP_TRANSFER_RnW = true)
    (data : UInt32) (dap : DebugPort τ) :
    transferOf T port value data dap = dap.access T port value := by
  rw [transferOf, DebugPort.transfer, if_pos hread]
  rfl

theorem transferOf_write {value : UInt32} (hwrite : has value DAP_TRANSFER_RnW = false)
    (data : UInt32) (dap : DebugPort τ) : transferOf T port value data dap =
      (data, dap.write T (has value DAP_TRANSFER_APnDP) value data) := by
  rw [transferOf, DebugPort.transfer, if_neg (by simp [hwrite])]

def Serves (access : Access (World τ)) : Prop := ∀ value stores data s, Ready port value s →
  access value stores data s =
    (DAP_TRANSFER_OK.toUInt32,
      if stores then (transferOf T port value data s.world.dap).1 else data,
      s.onWorld fun w => { w with dap := (transferOf T port value data s.world.dap).2 })

theorem swdTransfer_serves : Serves T .swd (swdTransfer (postedLink T)) := fun _ _ _ _ _ => rfl

theorem irOf_ap (value : UInt32) :
    (irOf value == JTAG_APACC) = has value DAP_TRANSFER_APnDP := by
  rw [irOf]
  cases has value DAP_TRANSFER_APnDP <;> rfl

theorem jtagTransfer_serves : Serves T .jtag (jtagTransfer (postedLink T)) := by
  intro value stores data s hready
  rw [transferOf, ← irOf_ap, ← hready rfl]
  rfl

section

variable {T port} {access : Access (World τ)} {value : UInt32} {l : Loop (World τ)}

theorem access_after (haccess : Serves T port access) (hready : Ready port value l.state)
    (stores : Bool) : l.access (postedLink T) access value stores =
      after l (if stores then (transferOf T port value l.data l.state.world.dap).1 else l.data)
        (transferOf T port value l.data l.state.world.dap).2 := by
  have hretry : ∀ n, retryLoop (postedLink T) access value stores n l.data l.state =
      access value stores l.data l.state := by
    intro n
    cases n with
    | zero => rfl
    | succ n =>
        rw [retryLoop, haccess value stores l.data l.state hready]
        rfl
  rw [Loop.access, hretry, haccess value stores l.data l.state hready]
  rfl

theorem access_read (haccess : Serves T port access) (hready : Ready port value l.state)
    (hread : has value DAP_TRANSFER_RnW = true) : l.access (postedLink T) access value true =
      after l (l.state.world.dap.access T port value).1
        (l.state.world.dap.access T port value).2 := by
  rw [access_after haccess hready, transferOf_read T port hread]
  rfl

theorem access_post (haccess : Serves T port access) (hready : Ready port value l.state)
    (hread : has value DAP_TRANSFER_RnW = true) : l.access (postedLink T) access value false =
      after l l.data (l.state.world.dap.access T port value).2 := by
  rw [access_after haccess hready, transferOf_read T port hread]
  rfl

theorem access_write (haccess : Serves T port access) (hready : Ready port value l.state)
    (hwrite : has value DAP_TRANSFER_RnW = false) : l.access (postedLink T) access value true =
      after l l.data
        (l.state.world.dap.write T (has value DAP_TRANSFER_APnDP) value l.data) := by
  rw [access_after haccess hready, transferOf_write T port hwrite]
  rfl

theorem rdbuff_read : has rdbuff DAP_TRANSFER_RnW = true := by decide

theorem access_rdbuff (dap : DebugPort τ) : dap.access T port rdbuff = (dap.result, dap) := by
  rw [DebugPort.access, DebugPort.read, if_pos (by decide)]

theorem after_check (l : Loop (World τ)) (data : UInt32) (dap : DebugPort τ) :
    (after l data dap).check = .ok (after l data dap) := rfl

end

def pending (l : Loop (World τ)) : List UInt8 :=
  if l.postRead then storeWord l.state.world.dap.result else []

theorem pending_posted {l : Loop (World τ)} (hpost : l.postRead = true) :
    pending l = storeWord l.state.world.dap.result := if_pos hpost

theorem pending_none {l : Loop (World τ)} (hpost : l.postRead = false) : pending l = [] := by
  rw [pending, hpost]
  rfl

/-- The executor is ahead of the loop by the word that is pending. -/
structure Tracks (e : Executed τ) (l : Loop (World τ)) : Prop where
  dap : l.state.world.dap = e.dap
  mask : mask l = e.mask
  retry : l.state.dapData.transfer.matchRetry.toNat = retry
  count : l.responseCount = UInt32.ofNat e.count
  response : l.response ++ pending l = e.words.flatMap storeWord
  ir : port = .jtag → l.ir ≠ 0 → l.state.world.ir = l.ir

/-- What the read of posted data leaves: nothing posted, or the plain read served with it. -/
inductive Flushes (value : UInt32) (e : Executed τ) (l l₁ : Loop (World τ)) : Prop
  | flushed (hrequest : l₁.request = l.request) (hpost : l₁.postRead = false)
      (h : Tracks port retry e l₁)
  | served (hpost : l₁.postRead = true) (hposts : port.posts value = true)
      (hvalue : has value DAP_TRANSFER_MATCH_VALUE = false)
      (hok : l₁.responseValue = DAP_TRANSFER_OK.toUInt32)
      (h : Tracks port retry (serve T port retry (.read value) e).2 l₁)

structure Found (item : Item) (e : Executed τ) (l : Loop (World τ)) : Prop where
  found : (serve T port retry item e).1 = true
  tracks : Tracks port retry (serve T port retry item e).2 l
  ok : l.responseValue = DAP_TRANSFER_OK.toUInt32

structure Lost (item : Item) (e : Executed τ) (l : Loop (World τ)) : Prop where
  lost : (serve T port retry item e).1 = false
  tracks : Tracks port retry (serve T port retry item e).2 l
  ack : l.responseValue = mismatch
  postRead : l.postRead = false

section

variable {T port retry} {e : Executed τ} {value : UInt32} {l : Loop (World τ)}

def flushed (l : Loop (World τ)) : Loop (World τ) :=
  { (after l l.state.world.dap.result l.state.world.dap).store l.state.world.dap.result with
    postRead := false }

theorem Tracks.flushed (h : Tracks port retry e l) (hpost : l.postRead = true) :
    Tracks port retry e (flushed l) := by
  refine ⟨h.dap, h.mask, h.retry, h.count, ?_, h.ir⟩
  rw [← h.response, pending_posted hpost, pending_none rfl]
  exact List.append_nil _

theorem access_word (hposts : port.posts value = true) (dap : DebugPort τ) :
    (dap.access T port value).1 = dap.result := by
  rw [DebugPort.access, DebugPort.read, hposts]
  split <;> rfl

theorem readBack_posts (hposts : port.posts value = true) (dap : DebugPort τ) :
    dap.readBack T port value =
      ((dap.access T port value).2.result, (dap.access T port value).2) := by
  rw [DebugPort.readBack]
  dsimp only
  rw [if_pos hposts, access_rdbuff]

theorem readBack_immediate (hposts : port.posts value = false) (dap : DebugPort τ) :
    dap.readBack T port value = dap.access T port value := by
  rw [DebugPort.readBack]
  dsimp only
  rw [if_neg (by simp [hposts])]

theorem words_snoc {words : List UInt32} {word : UInt32} {response bytes : List UInt8}
    (h : response = words.flatMap storeWord) (hbytes : bytes = storeWord word) :
    response ++ bytes = (words ++ [word]).flatMap storeWord := by
  rw [List.flatMap_append, ← h, hbytes]
  simp only [List.flatMap_cons, List.flatMap_nil, List.append_nil]

theorem words_stored {words : List UInt32} {word : UInt32} {response bytes : List UInt8}
    (h : response = words.flatMap storeWord) (hbytes : bytes = []) :
    response ++ storeWord word ++ bytes = (words ++ [word]).flatMap storeWord := by
  rw [hbytes, List.append_nil]
  exact words_snoc h rfl

theorem Tracks.direct (h : Tracks port retry e l) (hpost : l.postRead = true)
    (hposts : port.posts value = true) :
    Tracks port retry (serve T port retry (.read value) e).2
      ((after l (l.state.world.dap.access T port value).1
        (l.state.world.dap.access T port value).2).store
        (l.state.world.dap.access T port value).1) := by
  have hserve := readBack_posts (T := T) hposts l.state.world.dap
  refine ⟨?_, h.mask, h.retry, h.count, ?_, h.ir⟩
  · simp only [serve, ← h.dap, hserve]
    rfl
  · have hresponse := h.response
    rw [pending_posted hpost, ← access_word (T := T) hposts] at hresponse
    simp only [serve, ← h.dap, hserve]
    exact words_snoc hresponse (pending_posted hpost)

theorem Tracks.post (h : Tracks port retry e l) (hpost : l.postRead = false)
    (hposts : port.posts value = true) :
    Tracks port retry (serve T port retry (.read value) e).2
      { after l l.data (l.state.world.dap.access T port value).2 with postRead := true } := by
  have hserve := readBack_posts (T := T) hposts l.state.world.dap
  have hresponse := h.response
  rw [pending_none hpost, List.append_nil] at hresponse
  refine ⟨?_, h.mask, h.retry, h.count, ?_, h.ir⟩
  · simp only [serve, ← h.dap, hserve]
    rfl
  · simp only [serve, ← h.dap, hserve]
    exact words_snoc hresponse (pending_posted rfl)

theorem Tracks.immediate (h : Tracks port retry e l) (hpost : l.postRead = false)
    (hposts : port.posts value = false) :
    Tracks port retry (serve T port retry (.read value) e).2
      ((after l (l.state.world.dap.access T port value).1
        (l.state.world.dap.access T port value).2).store
        (l.state.world.dap.access T port value).1) := by
  have hserve := readBack_immediate (T := T) hposts l.state.world.dap
  have hresponse := h.response
  rw [pending_none hpost, List.append_nil] at hresponse
  refine ⟨?_, h.mask, h.retry, h.count, ?_, h.ir⟩
  · simp only [serve, ← h.dap, hserve]
    rfl
  · simp only [serve, ← h.dap, hserve]
    exact words_stored hresponse (pending_none hpost)

theorem storeTimestamp_none (hplain : has value DAP_TRANSFER_TIMESTAMP = false)
    (l : Loop (World τ)) : l.storeTimestamp value = l := by
  rw [Loop.storeTimestamp, if_neg (by simp [hplain])]

variable {access : Access (World τ)}

theorem storePosted_flushed (haccess : Serves T port access)
    (hready : Ready port rdbuff l.state) :
    storePosted value { l.access (postedLink T) access rdbuff true with postRead := false } =
      .ok (flushed l) := by
  rw [access_read haccess hready rdbuff_read, access_rdbuff]
  rfl

theorem storePosted_direct (haccess : Serves T port access) (hready : Ready port value l.state)
    (hread : has value DAP_TRANSFER_RnW = true)
    (hplain : has value DAP_TRANSFER_TIMESTAMP = false) :
    storePosted value (l.access (postedLink T) access value true) =
      .ok ((after l (l.state.world.dap.access T port value).1
        (l.state.world.dap.access T port value).2).store
        (l.state.world.dap.access T port value).1) := by
  rw [access_read haccess hready hread, storePosted, after_check]
  simp only [bind, Except.bind, storeTimestamp_none hplain, ite_self]
  rfl

theorem swdReadPosted_flushes (hread : has value DAP_TRANSFER_RnW = true)
    (hplain : has value DAP_TRANSFER_TIMESTAMP = false) (h : Tracks .swd retry e l) :
    Ends (Flushes T .swd retry value e l) (fun _ => False)
      (swdReadPosted (postedLink T) value l) := by
  have haccess := swdTransfer_serves T
  have hready : ∀ value, Ready .swd value l.state := fun _ hport => by cases hport
  rw [swdReadPosted]
  by_cases hpost : l.postRead = true
  · rw [if_pos hpost]
    by_cases hdirect : value &&& (DAP_TRANSFER_APnDP ||| DAP_TRANSFER_MATCH_VALUE) =
        DAP_TRANSFER_APnDP
    · obtain ⟨hap, hvalue⟩ := direct_bits hdirect
      have hstored := storePosted_direct haccess (hready value) hread hplain
      rw [if_pos (beq_iff_eq.mpr hdirect)]
      change Ends _ _ (storePosted value (l.access (postedLink T) (swdTransfer _) value true))
      rw [hstored]
      exact .served hpost hap hvalue rfl (h.direct hpost hap)
    · rw [if_neg (by simpa using hdirect)]
      change Ends _ _ (storePosted value
        { l.access (postedLink T) (swdTransfer _) rdbuff true with postRead := false })
      rw [storePosted_flushed haccess (hready rdbuff)]
      exact .flushed rfl rfl (h.flushed hpost)
  · rw [if_neg hpost]
    exact .flushed rfl (Bool.eq_false_iff.mpr hpost) h

theorem irOf_ne_zero (value : UInt32) : irOf value ≠ 0 := by
  rw [irOf]
  split <;> decide

theorem dpacc_ne_zero : JTAG_DPACC ≠ 0 := by decide

theorem Tracks.selectIr {next : UInt32} (hnext : next ≠ 0) (h : Tracks .jtag retry e l) :
    Tracks .jtag retry e (l.selectIr (postedLink T) next) ∧
      (l.selectIr (postedLink T) next).state.world.ir = next := by
  rw [Loop.selectIr]
  by_cases hsame : l.ir = next
  · rw [if_neg (by simp [hsame])]
    have hir := h.ir rfl (by rw [hsame]; exact hnext)
    exact ⟨h, hir.trans hsame⟩
  · rw [if_pos (by simpa using hsame)]
    exact ⟨⟨h.dap, h.mask, h.retry, h.count, h.response, fun _ _ => rfl⟩, rfl⟩

theorem jtagReadPosted_flushes (hread : has value DAP_TRANSFER_RnW = true)
    (hplain : has value DAP_TRANSFER_TIMESTAMP = false) (h : Tracks .jtag retry e l) :
    Ends (Flushes T .jtag retry value e l) (fun _ => False)
      (jtagReadPosted (postedLink T) value l) := by
  have haccess := jtagTransfer_serves T
  rw [jtagReadPosted]
  by_cases hpost : l.postRead = true
  · rw [if_pos hpost]
    by_cases hdirect : (l.ir == irOf value && !has value DAP_TRANSFER_MATCH_VALUE) = true
    · obtain ⟨hir, hvalue⟩ := Bool.and_eq_true_iff.mp hdirect
      have hready : Ready .jtag value l.state := by
        intro _
        rw [← beq_iff_eq.mp hir]
        exact h.ir rfl (by rw [beq_iff_eq.mp hir]; exact irOf_ne_zero value)
      have hstored := storePosted_direct haccess hready hread hplain
      rw [if_pos hdirect]
      change Ends _ _ (storePosted value (l.access (postedLink T) (jtagTransfer _) value true))
      rw [hstored]
      exact .served hpost rfl ((Bool.not_eq_true' _).mp hvalue) rfl (h.direct hpost rfl)
    · have hframe := selectIr_frame (postedLink T) JTAG_DPACC l
      obtain ⟨hselected, hir⟩ := h.selectIr (T := T) dpacc_ne_zero
      rw [if_neg hdirect]
      change Ends _ _ (storePosted value
        { (l.selectIr (postedLink T) JTAG_DPACC).access (postedLink T) (jtagTransfer _) rdbuff
          true with postRead := false })
      rw [storePosted_flushed haccess fun _ => hir]
      exact .flushed hframe.request rfl (hselected.flushed (hframe.postRead.trans hpost))
  · rw [if_neg hpost]
    exact .flushed rfl (Bool.eq_false_iff.mpr hpost) h

theorem swdReadNormal_found (hread : has value DAP_TRANSFER_RnW = true)
    (hplain : has value DAP_TRANSFER_TIMESTAMP = false) (hpost : l.postRead = false)
    (h : Tracks .swd retry e l) :
    Ends (Found T .swd retry (.read value) e) (fun _ => False)
      (swdReadNormal (postedLink T) value l) := by
  have haccess := swdTransfer_serves T
  have hready : Ready .swd value l.state := fun hport => by cases hport
  rw [swdReadNormal]
  by_cases hap : has value DAP_TRANSFER_APnDP = true
  · rw [if_pos hap, if_neg (by simp [hpost]), access_post haccess hready hread, after_check]
    simp only [bind, Except.bind, storeTimestamp_none hplain]
    exact ⟨rfl, h.post hpost hap, rfl⟩
  · rw [if_neg hap, access_read haccess hready hread, after_check]
    simp only [bind, Except.bind, storeTimestamp_none hplain]
    exact ⟨rfl, h.immediate hpost (Bool.eq_false_iff.mpr hap), rfl⟩

theorem jtagReadNormal_found (hread : has value DAP_TRANSFER_RnW = true)
    (hplain : has value DAP_TRANSFER_TIMESTAMP = false) (hpost : l.postRead = false)
    (h : Tracks .jtag retry e l) :
    Ends (Found T .jtag retry (.read value) e) (fun _ => False)
      (jtagReadNormal (postedLink T) value l) := by
  have hframe := selectIr_frame (postedLink T) (irOf value) l
  obtain ⟨hselected, hir⟩ := h.selectIr (T := T) (irOf_ne_zero value)
  rw [jtagReadNormal, if_neg (by simp [hpost])]
  dsimp only
  rw [access_post (jtagTransfer_serves T) (fun _ => hir) hread, after_check]
  simp only [bind, Except.bind, storeTimestamp_none hplain]
  exact ⟨rfl, hselected.post (hframe.postRead.trans hpost) rfl, rfl⟩

theorem Tracks.skip (h : Tracks port retry e l) (n : Nat) : Tracks port retry e (l.skip n) :=
  ⟨h.dap, h.mask, h.retry, h.count, h.response, h.ir⟩

theorem Tracks.moved (h : Tracks port retry e l) (hpost : l.postRead = false) (data : UInt32)
    (dap : DebugPort τ) : Tracks port retry { e with dap } (after l data dap) := by
  have hnone : pending (after l data dap) = pending l :=
    (pending_none (l := after l data dap) hpost).trans (pending_none hpost).symm
  refine ⟨rfl, h.mask, h.retry, h.count, ?_, h.ir⟩
  rw [hnone]
  exact h.response

theorem matchLoop_poll (haccess : Serves T port access) (hready : Ready port value l.state)
    (hread : has value DAP_TRANSFER_RnW = true) (matchValue : UInt32) (n : Nat) :
    matchLoop (postedLink T) access value matchValue n l =
      after l (l.state.world.dap.poll T port value matchValue (mask l) n).1
        (l.state.world.dap.poll T port value matchValue (mask l) n).2 := by
  induction n generalizing l with
  | zero =>
      rw [matchLoop, access_read haccess hready hread]
      rfl
  | succ n ih =>
      rw [matchLoop, access_read haccess hready hread, DebugPort.poll]
      generalize l.state.world.dap.access T port value = polled
      have hagain := ih (l := after l polled.1 polled.2) hready
      dsimp only
      rw [if_neg (by simp [after]), hagain]
      by_cases hmore : (polled.1 &&& mask l != matchValue && !T.aborted polled.2.regs) = true
      · rw [if_pos hmore]
        exact if_pos hmore
      · rw [if_neg hmore]
        exact if_neg hmore

theorem pollMatch_item {matchValue : UInt32} {dap : DebugPort τ} (haccess : Serves T port access)
    (hready : Ready port value l.state) (hread : has value DAP_TRANSFER_RnW = true)
    (hpost : l.postRead = false) (h : Tracks port retry { e with dap } l)
    (hpoll : e.dap.readMatch T port value matchValue e.mask retry =
      dap.poll T port value matchValue e.mask retry) :
    Ends (Found T port retry (.matchRead value matchValue) e)
      (Lost T port retry (.matchRead value matchValue) e)
      (pollMatch (postedLink T) access value matchValue retry l) := by
  have hdap : l.state.world.dap = dap := h.dap
  have hmask : mask l = e.mask := h.mask
  rw [pollMatch, matchLoop_poll haccess hready hread, hdap, hmask]
  generalize hword : dap.poll T port value matchValue e.mask retry = polled at hpoll
  have hserve : serve T port retry (.matchRead value matchValue) e =
      (polled.1 &&& e.mask == matchValue, { e with dap := polled.2 }) := by
    rw [serve, hpoll]
  have htracks : Tracks port retry { e with dap := polled.2 } (after l polled.1 polled.2) :=
    h.moved hpost polled.1 polled.2
  have hsame : (after l polled.1 polled.2).state.dapData.transfer.matchMask = e.mask := hmask
  rw [hsame]
  by_cases hdata : polled.1 &&& e.mask = matchValue
  · rw [if_neg (by simp [after, hdata])]
    refine ⟨?_, ?_, rfl⟩
    · rw [hserve]
      exact beq_iff_eq.mpr hdata
    · rw [hserve]
      exact htracks
  · rw [if_pos (by simpa [after] using hdata)]
    refine (check_ends ?_).mono (fun l' hl' => ?_) fun _ hl' => hl'
    · refine ⟨?_, ?_, rfl, hpost⟩
      · rw [hserve]
        exact beq_eq_false_iff_ne.mpr hdata
      · rw [hserve]
        exact ⟨rfl, htracks.mask, htracks.retry, htracks.count, htracks.response, htracks.ir⟩
    · rw [hl'.1] at hl'
      exact absurd hl'.2 (mismatch_ne _)

theorem readMatch_posts (hposts : port.posts value = true) (matchValue mask : UInt32)
    (dap : DebugPort τ) : dap.readMatch T port value matchValue mask retry =
      (dap.access T port value).2.poll T port value matchValue mask retry := by
  rw [DebugPort.readMatch, if_pos hposts]

theorem readMatch_immediate (hposts : port.posts value = false) (matchValue mask : UInt32)
    (dap : DebugPort τ) : dap.readMatch T port value matchValue mask retry =
      dap.poll T port value matchValue mask retry := by
  rw [DebugPort.readMatch, if_neg (by simp [hposts])]

variable (request : Request)

theorem swdReadMatch_item (hread : has value DAP_TRANSFER_RnW = true) (hpost : l.postRead = false)
    (h : Tracks .swd retry e l) :
    Ends (Found T .swd retry (.matchRead value (request.word l.request)) e)
      (Lost T .swd retry (.matchRead value (request.word l.request)) e)
      (swdReadMatch (postedLink T) request value l) := by
  have haccess := swdTransfer_serves T
  have hready : ∀ s : State (World τ), Ready .swd value s := fun _ hport => by cases hport
  have hskip := h.skip 4
  rw [swdReadMatch]
  dsimp only
  rw [hskip.retry]
  by_cases hap : has value DAP_TRANSFER_APnDP = true
  · rw [if_pos hap, access_post haccess (hready _) hread, after_check]
    refine pollMatch_item haccess (hready _) hread hpost (hskip.moved hpost _ _) ?_
    rw [hskip.dap]
    exact @readMatch_posts τ T .swd retry value hap _ _ _
  · have himmediate : Port.swd.posts value = false := Bool.eq_false_iff.mpr hap
    rw [if_neg hap]
    exact pollMatch_item haccess (hready _) hread hpost hskip
      (readMatch_immediate himmediate _ _ _)

theorem jtagReadMatch_item (hread : has value DAP_TRANSFER_RnW = true) (hpost : l.postRead = false)
    (h : Tracks .jtag retry e l) :
    Ends (Found T .jtag retry (.matchRead value (request.word l.request)) e)
      (Lost T .jtag retry (.matchRead value (request.word l.request)) e)
      (jtagReadMatch (postedLink T) request value l) := by
  have haccess := jtagTransfer_serves T
  have hskip := h.skip 4
  have hframe := selectIr_frame (postedLink T) (irOf value) (l.skip 4)
  obtain ⟨hselected, hir⟩ := hskip.selectIr (T := T) (irOf_ne_zero value)
  have hnone := hframe.postRead.trans hpost
  rw [jtagReadMatch, hskip.retry, access_post haccess (fun _ => hir) hread, after_check]
  refine pollMatch_item haccess (fun _ => hir) hread hnone (hselected.moved hnone _ _) ?_
  rw [hselected.dap]
  exact readMatch_posts rfl _ _ _

def readItem (request : Request) (value : UInt32) (i : Nat) : Item :=
  if has value DAP_TRANSFER_MATCH_VALUE then .matchRead value (request.word i) else .read value

theorem read_item {posted : Step (World τ) (Loop (World τ))}
    {readMatch readNormal : Loop (World τ) → Step (World τ) (Loop (World τ))}
    (hposted : Ends (Flushes T port retry value e l) (fun _ => False) posted)
    (hmatch : ∀ l₁, l₁.postRead = false → Tracks port retry e l₁ →
      Ends (Found T port retry (.matchRead value (request.word l₁.request)) e)
        (Lost T port retry (.matchRead value (request.word l₁.request)) e) (readMatch l₁))
    (hnormal : ∀ l₁, l₁.postRead = false → Tracks port retry e l₁ →
      Ends (Found T port retry (.read value) e) (fun _ => False) (readNormal l₁))
    (hserved : ∀ l₁, l₁.postRead = true → port.posts value = true → readNormal l₁ = .ok l₁) :
    Ends (Found T port retry (readItem request value l.request) e)
      (Lost T port retry (readItem request value l.request) e)
      (posted >>= fun l₁ =>
        if has value DAP_TRANSFER_MATCH_VALUE then readMatch l₁ else readNormal l₁) := by
  refine Ends.bind (hposted.mono (fun _ h => h) fun _ h => absurd h id) ?_
  rintro l₁ (⟨hrequest, hpost, h⟩ | ⟨hpost, hposts, hvalue, hok, h⟩)
  · rw [readItem, ← hrequest]
    by_cases hvalue : has value DAP_TRANSFER_MATCH_VALUE = true
    · rw [if_pos hvalue, if_pos hvalue]
      exact hmatch l₁ hpost h
    · rw [if_neg hvalue, if_neg hvalue]
      exact (hnormal l₁ hpost h).mono (fun _ h => h) fun _ h => absurd h id
  · rw [readItem, hvalue]
    change Ends _ _ (readNormal l₁)
    rw [hserved l₁ hpost hposts]
    exact ⟨rfl, h, hok⟩

theorem swdRead_item (hread : has value DAP_TRANSFER_RnW = true)
    (hplain : has value DAP_TRANSFER_TIMESTAMP = false) (h : Tracks .swd retry e l) :
    Ends (Found T .swd retry (readItem request value l.request) e)
      (Lost T .swd retry (readItem request value l.request) e)
      (swdRead (postedLink T) request value l) := by
  have hserved : ∀ l₁ : Loop (World τ), l₁.postRead = true → Port.swd.posts value = true →
      swdReadNormal (postedLink T) value l₁ = .ok l₁ := by
    intro l₁ hpost hposts
    have hap : has value DAP_TRANSFER_APnDP = true := hposts
    rw [swdReadNormal, if_pos hap, if_pos hpost]
    rfl
  have hitem := read_item request (swdReadPosted_flushes hread hplain h)
    (fun _ hpost h => swdReadMatch_item request hread hpost h)
    (fun _ hpost h => swdReadNormal_found hread hplain hpost h) hserved
  rw [swdRead_eq]
  refine Ends.bind hitem ?_
  rintro l' ⟨hfound, h, hok⟩
  exact ⟨hfound, ⟨h.dap, h.mask, h.retry, h.count, h.response, h.ir⟩, hok⟩

theorem jtagRead_item (hread : has value DAP_TRANSFER_RnW = true)
    (hplain : has value DAP_TRANSFER_TIMESTAMP = false) (h : Tracks .jtag retry e l) :
    Ends (Found T .jtag retry (readItem request value l.request) e)
      (Lost T .jtag retry (readItem request value l.request) e)
      (jtagRead (postedLink T) request value l) := by
  have hserved : ∀ l₁ : Loop (World τ), l₁.postRead = true → Port.jtag.posts value = true →
      jtagReadNormal (postedLink T) value l₁ = .ok l₁ := by
    intro l₁ hpost _
    rw [jtagReadNormal, if_pos hpost]
    rfl
  exact read_item request (jtagReadPosted_flushes hread hplain h)
    (fun _ hpost h => jtagReadMatch_item request hread hpost h)
    (fun _ hpost h => jtagReadNormal_found hread hplain hpost h) hserved

def writeItem (request : Request) (value : UInt32) (i : Nat) : Item :=
  if has value DAP_TRANSFER_MATCH_MASK then .matchMask value (request.word i)
  else .write value (request.word i)

theorem Tracks.loadData (h : Tracks port retry e l) :
    Tracks port retry e (loadData request l) :=
  ⟨h.dap, h.mask, h.retry, h.count, h.response, h.ir⟩

theorem writeMatchMask_found (h : Tracks port retry e l) :
    Found T port retry (.matchMask value l.data) e (writeMatchMask l) :=
  ⟨rfl, ⟨h.dap, rfl, h.retry, h.count, h.response, h.ir⟩, rfl⟩

theorem write_tracks (h : Tracks port retry e l) (hpost : l.postRead = false) :
    Tracks port retry (serve T port retry (.write value l.data) e).2
      (after l l.data (l.state.world.dap.write T (has value DAP_TRANSFER_APnDP) value l.data)) := by
  rw [h.dap]
  exact h.moved hpost _ _

theorem write_item {flush : Step (World τ) (Loop (World τ))}
    {register : Loop (World τ) → Step (World τ) (Loop (World τ))}
    (hflush : Ends (fun l₁ => l₁.request = l.request ∧ l₁.postRead = false ∧
      Tracks port retry e l₁) (fun _ => False) flush)
    (hregister : ∀ l₁, l₁.postRead = false → Tracks port retry e l₁ →
      Ends (Found T port retry (.write value l₁.data) e) (fun _ => False) (register l₁)) :
    Ends (Found T port retry (writeItem request value l.request) e) (fun _ => False)
      (flush >>= fun l₁ =>
        if has value DAP_TRANSFER_MATCH_MASK then
          pure (writeMatchMask (DapTransfer.loadData request l₁))
        else register (DapTransfer.loadData request l₁)) := by
  refine Ends.bind hflush ?_
  rintro l₁ ⟨hrequest, hpost, h⟩
  have hload := h.loadData request
  rw [writeItem, ← hrequest]
  split
  · exact writeMatchMask_found hload
  · exact hregister _ hpost hload

theorem swdWrite_item (hwrite : has value DAP_TRANSFER_RnW = false)
    (hplain : has value DAP_TRANSFER_TIMESTAMP = false) (h : Tracks .swd retry e l) :
    Ends (Found T .swd retry (writeItem request value l.request) e) (fun _ => False)
      (swdWrite (postedLink T) request value l) := by
  have haccess := swdTransfer_serves T
  have hready : ∀ value (s : State (World τ)), Ready .swd value s := fun _ _ hport => by cases hport
  rw [swdWrite_eq]
  apply write_item
  · rw [swdFlush]
    by_cases hpost : l.postRead = true
    · rw [if_pos hpost, access_read haccess (hready _ _) rdbuff_read, access_rdbuff, after_check]
      exact ⟨rfl, rfl, h.flushed hpost⟩
    · rw [if_neg hpost]
      exact ⟨rfl, Bool.eq_false_iff.mpr hpost, h⟩
  · intro l₁ hpost h₁
    have hwritten := @write_tracks τ T .swd retry e value l₁ h₁ hpost
    rw [swdRegister, access_write haccess (hready _ _) hwrite, after_check]
    simp only [bind, Except.bind, storeTimestamp_none hplain]
    exact ⟨rfl, ⟨hwritten.dap, hwritten.mask, hwritten.retry, hwritten.count, hwritten.response,
      hwritten.ir⟩, rfl⟩

theorem jtagWrite_item (hwrite : has value DAP_TRANSFER_RnW = false)
    (hplain : has value DAP_TRANSFER_TIMESTAMP = false) (h : Tracks .jtag retry e l) :
    Ends (Found T .jtag retry (writeItem request value l.request) e) (fun _ => False)
      (jtagWrite (postedLink T) request value l) := by
  have haccess := jtagTransfer_serves T
  rw [jtagWrite_eq]
  apply write_item
  · rw [jtagFlush]
    by_cases hpost : l.postRead = true
    · have hframe := selectIr_frame (postedLink T) JTAG_DPACC l
      obtain ⟨hselected, hir⟩ := h.selectIr (T := T) dpacc_ne_zero
      rw [if_pos hpost, access_read haccess (fun _ => hir) rdbuff_read, access_rdbuff, after_check]
      exact ⟨hframe.request, rfl, hselected.flushed (hframe.postRead.trans hpost)⟩
    · rw [if_neg hpost]
      exact ⟨rfl, Bool.eq_false_iff.mpr hpost, h⟩
  · intro l₁ hpost h₁
    have hframe := selectIr_frame (postedLink T) (irOf value) l₁
    obtain ⟨hselected, hir⟩ := h₁.selectIr (T := T) (irOf_ne_zero value)
    have hdata : (l₁.selectIr (postedLink T) (irOf value)).data = l₁.data := by
      rw [Loop.selectIr]
      split <;> rfl
    have hwritten := @write_tracks τ T .jtag retry e value _ hselected (hframe.postRead.trans hpost)
    rw [hdata] at hwritten
    rw [jtagRegister, access_write haccess (fun _ => hir) hwrite, after_check, hdata]
    simp only [bind, Except.bind, storeTimestamp_none hplain]
    exact ⟨rfl, hwritten, rfl⟩

end

structure AtItem (e : Executed τ) (l : Loop (World τ)) : Prop where
  tracks : Tracks port retry e l
  ack : l.responseValue = e.ack
  settled : e.ack ≠ DAP_TRANSFER_OK.toUInt32 → l.postRead = false

/-- The item asks for no timestamp. -/
abbrev Plain (item : Item) : Prop := has item.value DAP_TRANSFER_TIMESTAMP = false

def RoundRuns (request : Request) (round : Loop (World τ) → Step (World τ) (Loop (World τ))) :
    Prop := ∀ e l items, Tracks port retry e l → Plain (itemAt request l.request) →
  Ends (fun l' => ∃ e', execute T port retry (itemAt request l.request :: items) e =
      execute T port retry items e' ∧ AtItem port retry e' l')
    (AtItem port retry (execute T port retry (itemAt request l.request :: items) e)) (round l)

theorem itemAt_eq (request : Request) (i : Nat) : itemAt request i =
    if has (request i).toUInt32 DAP_TRANSFER_RnW then
      readItem request (request i).toUInt32 (i + 1)
    else writeItem request (request i).toUInt32 (i + 1) := rfl

theorem readItem_value (request : Request) (value : UInt32) (i : Nat) :
    (readItem request value i).value = value := by
  rw [readItem]
  split <;> rfl

theorem writeItem_value (request : Request) (value : UInt32) (i : Nat) :
    (writeItem request value i).value = value := by
  rw [writeItem]
  split <;> rfl

theorem itemAt_value (request : Request) (i : Nat) :
    (itemAt request i).value = (request i).toUInt32 := by
  rw [itemAt_eq]
  split
  · exact readItem_value request _ _
  · exact writeItem_value request _ _

section

variable {T port retry} {e : Executed τ} {item : Item} {l : Loop (World τ)}

theorem Found.counted (h : Found T port retry item e l) :
    AtItem port retry (serve T port retry item e).2.served
      { l with responseCount := l.responseCount + 1 } := by
  have htracks := h.tracks
  refine ⟨⟨htracks.dap, htracks.mask, htracks.retry, ?_, htracks.response, htracks.ir⟩, h.ok,
    fun hack => absurd rfl hack⟩
  change l.responseCount + 1 = UInt32.ofNat (_ + 1)
  rw [htracks.count, UInt32.ofNat_add]
  rfl

theorem Lost.atItem (h : Lost T port retry item e l) :
    AtItem port retry (serve T port retry item e).2.mismatched l := by
  have htracks := h.tracks
  exact ⟨⟨htracks.dap, htracks.mask, htracks.retry, htracks.count, htracks.response, htracks.ir⟩,
    h.ack, fun _ => h.postRead⟩

theorem execute_found (items : List Item) (hfound : (serve T port retry item e).1 = true) :
    execute T port retry (item :: items) e =
      if T.aborted (serve T port retry item e).2.dap.regs then (serve T port retry item e).2.served
      else execute T port retry items (serve T port retry item e).2.served := by
  rw [execute]
  exact if_pos hfound

theorem execute_lost (items : List Item) (hlost : (serve T port retry item e).1 = false) :
    execute T port retry (item :: items) e = (serve T port retry item e).2.mismatched := by
  rw [execute]
  exact if_neg (Bool.eq_false_iff.mp hlost)

theorem count_runs (items : List Item) {x : Step (World τ) (Loop (World τ))}
    (hitem : Ends (Found T port retry item e) (Lost T port retry item e) x) :
    Ends (fun l' => ∃ e', execute T port retry (item :: items) e =
        execute T port retry items e' ∧ AtItem port retry e' l')
      (AtItem port retry (execute T port retry (item :: items) e))
      (x >>= countTransfer (postedLink T)) := by
  refine Ends.bind (hitem.mono (fun _ h => h) fun l' h => ?_) ?_
  · rw [execute_lost items h.lost]
    exact h.atItem
  · intro l' h
    have haborted : Loop.aborted (postedLink T) { l' with responseCount := l'.responseCount + 1 } =
        T.aborted (serve T port retry item e).2.dap.regs := by
      rw [← h.tracks.dap]
      rfl
    rw [countTransfer, execute_found items h.found, haborted]
    by_cases habort : T.aborted (serve T port retry item e).2.dap.regs = true
    · rw [if_pos habort, if_pos habort]
      exact h.counted
    · rw [if_neg habort, if_neg habort]
      exact ⟨_, rfl, h.counted⟩

end

theorem round_runs {request : Request}
    {read write : UInt32 → Loop (World τ) → Step (World τ) (Loop (World τ))}
    (hread : ∀ value e l, has value DAP_TRANSFER_RnW = true →
      has value DAP_TRANSFER_TIMESTAMP = false → Tracks port retry e l →
      Ends (Found T port retry (readItem request value l.request) e)
        (Lost T port retry (readItem request value l.request) e) (read value l))
    (hwrite : ∀ value e l, has value DAP_TRANSFER_RnW = false →
      has value DAP_TRANSFER_TIMESTAMP = false → Tracks port retry e l →
      Ends (Found T port retry (writeItem request value l.request) e) (fun _ => False)
        (write value l)) :
    RoundRuns T port retry request fun l =>
      (if has (request l.request).toUInt32 DAP_TRANSFER_RnW then
        read (request l.request).toUInt32 (l.skip 1)
      else write (request l.request).toUInt32 (l.skip 1)) >>= countTransfer (postedLink T) := by
  intro e l items h hplain
  rw [Plain, itemAt_value] at hplain
  have hskip := h.skip 1
  apply count_runs
  rw [itemAt_eq]
  by_cases hrnw : has (request l.request).toUInt32 DAP_TRANSFER_RnW = true
  · rw [if_pos hrnw, if_pos hrnw]
    exact hread _ e (l.skip 1) hrnw hplain hskip
  · rw [if_neg hrnw, if_neg hrnw]
    exact (hwrite _ e (l.skip 1) (Bool.eq_false_iff.mpr hrnw) hplain hskip).mono
      (fun _ h => h) fun _ h => absurd h id

theorem swdRound_runs (request : Request) :
    RoundRuns T .swd retry request (swdRound (postedLink T) request) := by
  rw [swdRound_eq]
  exact round_runs T .swd retry (fun _ _ _ hrnw hplain h => swdRead_item request hrnw hplain h)
    fun _ _ _ hwrite hplain h => swdWrite_item request hwrite hplain h

theorem jtagRound_runs (request : Request) :
    RoundRuns T .jtag retry request (jtagRound (postedLink T) request) := by
  rw [jtagRound_eq]
  exact round_runs T .jtag retry (fun _ _ _ hrnw hplain h => jtagRead_item request hrnw hplain h)
    fun _ _ _ hwrite hplain h => jtagWrite_item request hwrite hplain h

section

variable {T port retry} {e : Executed τ} {l : Loop (World τ)}

theorem transferLoop_runs {request : Request}
    {round : Loop (World τ) → Step (World τ) (Loop (World τ))}
    (hspec : RoundSpec request round) (hround : RoundRuns T port retry request round) (n : Nat)
    (hplain : ∀ item ∈ itemsFrom request n l.request, Plain item) (h : AtItem port retry e l) :
    AtItem port retry (execute T port retry (itemsFrom request n l.request) e)
      (transferLoop round n l).2 := by
  induction n generalizing e l with
  | zero => exact h
  | succ n ih =>
      rw [itemsFrom] at hplain ⊢
      obtain ⟨hitem, hrest⟩ := List.forall_mem_cons.mp hplain
      have hoffset := hspec l
      have hruns := hround e l (itemsFrom request n
        (l.request + 1 + operandBytes (request l.request).toUInt32)) h.tracks hitem
      rw [transferLoop]
      cases hx : round l with
      | error l' =>
          rw [hx] at hruns
          exact hruns
      | ok l' =>
          rw [hx] at hoffset hruns
          obtain ⟨⟨hrequest, -, -, -⟩, -⟩ := hoffset
          obtain ⟨e', hexecute, h'⟩ := hruns
          rw [hexecute]
          rw [Nat.add_assoc, ← hrequest] at hrest ⊢
          exact ih hrest h'

/-- What is replied of a loop. -/
structure Finished (e : Executed τ) (l : Loop (World τ)) : Prop where
  dap : l.state.world.dap = e.dap
  mask : mask l = e.mask
  count : l.responseCount = UInt32.ofNat e.count
  ack : l.responseValue = e.ack
  response : l.response = e.words.flatMap storeWord

theorem AtItem.finished (h : AtItem port retry e l) (hpost : l.postRead = false) :
    Finished e l := by
  have hresponse := h.tracks.response
  rw [pending_none hpost, List.append_nil] at hresponse
  exact ⟨h.tracks.dap, h.tracks.mask, h.tracks.count, h.ack, hresponse⟩

theorem AtItem.readBack (h : AtItem port retry e l)
    (hok : l.responseValue = DAP_TRANSFER_OK.toUInt32) (hpost : l.postRead = true) :
    Finished e ((after l l.state.world.dap.result l.state.world.dap).store
      l.state.world.dap.result) := by
  have hresponse := h.tracks.response
  rw [pending_posted hpost] at hresponse
  exact ⟨h.tracks.dap, h.tracks.mask, h.tracks.count, hok.symm.trans h.ack, hresponse⟩

theorem AtItem.checked (h : AtItem port retry e l)
    (hok : l.responseValue = DAP_TRANSFER_OK.toUInt32) (hpost : l.postRead = false) :
    Finished e (after l l.data l.state.world.dap) := by
  have hfinished := h.finished hpost
  exact ⟨hfinished.dap, hfinished.mask, hfinished.count, hok.symm.trans h.ack, hfinished.response⟩

theorem AtItem.postRead_none (h : AtItem port retry e l)
    (hbad : l.responseValue ≠ DAP_TRANSFER_OK.toUInt32) : l.postRead = false := by
  apply h.settled
  rw [← h.ack]
  exact hbad

theorem swdFinish_finished (h : AtItem .swd retry e l) :
    Finished e (swdFinish (postedLink T) l) := by
  have haccess := swdTransfer_serves T
  have hready : ∀ s : State (World τ), Ready .swd rdbuff s := fun _ hport => by cases hport
  rw [swdFinish]
  by_cases hok : l.responseValue = DAP_TRANSFER_OK.toUInt32
  · rw [if_neg (by simp [hok])]
    by_cases hpost : l.postRead = true
    · rw [if_pos hpost, access_read haccess (hready _) rdbuff_read, access_rdbuff]
      exact h.readBack hok hpost
    · have hnone := Bool.eq_false_iff.mpr hpost
      rw [if_neg hpost, access_post haccess (hready _) rdbuff_read, access_rdbuff]
      split
      · exact h.checked hok hnone
      · exact h.finished hnone
  · rw [if_pos (by simpa using hok)]
    exact h.finished (h.postRead_none hok)

theorem jtagFinish_finished (h : AtItem .jtag retry e l) :
    Finished e (jtagFinish (postedLink T) l) := by
  have haccess := jtagTransfer_serves T
  rw [jtagFinish]
  by_cases hok : l.responseValue = DAP_TRANSFER_OK.toUInt32
  · have hframe := selectIr_frame (postedLink T) JTAG_DPACC l
    obtain ⟨hselected, hir⟩ := h.tracks.selectIr (T := T) dpacc_ne_zero
    have hvalue : (l.selectIr (postedLink T) JTAG_DPACC).responseValue = l.responseValue := by
      rw [Loop.selectIr]
      split <;> rfl
    have hselect : AtItem .jtag retry e (l.selectIr (postedLink T) JTAG_DPACC) :=
      ⟨hselected, hvalue.trans h.ack, fun hack => hframe.postRead.trans (h.settled hack)⟩
    rw [if_neg (by simp [hok])]
    dsimp only
    by_cases hpost : (l.selectIr (postedLink T) JTAG_DPACC).postRead = true
    · rw [if_pos hpost, access_read haccess (fun _ => hir) rdbuff_read, access_rdbuff]
      exact hselect.readBack (hvalue.trans hok) hpost
    · rw [if_neg hpost, access_post haccess (fun _ => hir) rdbuff_read, access_rdbuff]
      exact hselect.checked (hvalue.trans hok) (Bool.eq_false_iff.mpr hpost)
  · rw [if_pos (by simpa using hok)]
    exact h.finished (h.postRead_none hok)

end

def begun (T : Registers τ) (s : State (World τ)) : Executed τ where
  dap := { s.world.dap with regs := T.clearAbort s.world.dap.regs }
  mask := s.dapData.transfer.matchMask
  words := []
  count := 0
  ack := 0

def reference (T : Registers τ) (port : Port) (request : Request) (s : State (World τ)) :
    Executed τ :=
  execute T port s.dapData.transfer.matchRetry.toNat (transferList request) (begun T s)

/-- The reply is that of the reference executor, word for word, and so are the target and the match
mask. The items that have been started are done in order, each once but for the polls. -/
structure Agrees (T : Registers τ) (port : Port) (request : Request) (s : State (World τ))
    (reply : Reply (World τ)) : Prop where
  bytes : reply.bytes = [UInt8.ofNat (reference T port request s).count,
    (reference T port request s).ack.toUInt8] ++
      (reference T port request s).words.flatMap storeWord
  dap : reply.state.world.dap = (reference T port request s).dap
  mask : reply.state.dapData.transfer.matchMask = (reference T port request s).mask
  accesses : ∃ traces, traces.length = (reference T port request s).started ∧
    List.Forall₂ Asks ((transferList request).take traces.length) traces ∧
    reply.state.world.dap.accesses = s.world.dap.accesses ++ traces.flatten

theorem ack_none : (0 : UInt32) ≠ mismatch := by decide

theorem finished_agrees {request : Request} {s : State (World τ)} {l : Loop (World τ)}
    (h : Finished (reference T port request s) l) :
    Agrees T port request s (transferReply l) := by
  obtain ⟨traces, hstarted, hall, haccesses⟩ := execute_accesses T port
    s.dapData.transfer.matchRetry.toNat (transferList request) (e := begun T s) ack_none
  refine ⟨?_, h.dap, h.mask, traces, ?_, hall, ?_⟩
  · simp only [transferReply, h.count, h.ack, h.response, UInt32.toUInt8_ofNat']
  · exact (hstarted.trans (Nat.zero_add _)).symm
  · exact (congrArg DebugPort.accesses h.dap).trans haccesses

theorem startLoop_atItem (s : State (World τ)) :
    AtItem port s.dapData.transfer.matchRetry.toNat (begun T s) (startLoop (postedLink T) 2 s) :=
  ⟨⟨rfl, rfl, rfl, rfl, rfl, fun _ hir => absurd rfl hir⟩, rfl, fun _ => rfl⟩

theorem cancelRequests_atItem {e : Executed τ} (request : Request) {rest : Nat × Loop (World τ)}
    (h : AtItem port retry e rest.2) : AtItem port retry e (cancelRequests request rest) :=
  ⟨⟨h.tracks.dap, h.tracks.mask, h.tracks.retry, h.tracks.count, h.tracks.response, h.tracks.ir⟩,
    h.ack, h.settled⟩

theorem cancelled_atItem {request : Request}
    {round : Loop (World τ) → Step (World τ) (Loop (World τ))}
    (hspec : RoundSpec request round)
    (hround : ∀ retry, RoundRuns T port retry request round) (s : State (World τ))
    (hplain : ∀ item ∈ transferList request, Plain item) :
    AtItem port s.dapData.transfer.matchRetry.toNat (reference T port request s)
      (cancelRequests request
        (transferLoop round (request 1).toNat (startLoop (postedLink T) 2 s))) := by
  apply cancelRequests_atItem
  exact transferLoop_runs hspec (hround _) (request 1).toNat
    (l := startLoop (postedLink T) 2 s) hplain (startLoop_atItem T port s)

theorem swdTransfer_agrees (request : Request) (s : State (World τ))
    (hplain : ∀ item ∈ transferList request, Plain item) :
    Agrees T .swd request s (dapSwdTransfer (postedLink T) request s) := by
  have hend := cancelled_atItem T .swd (swdRound_spec _ request)
    (fun _ => swdRound_runs T _ request) s hplain
  exact finished_agrees T .swd (swdFinish_finished hend)

theorem jtagTransfer_agrees (request : Request) (s : State (World τ))
    (hplain : ∀ item ∈ transferList request, Plain item)
    (hindex : validIndex (setJtagIndex (request 0) s).dapData = true) :
    Agrees T .jtag request s (dapJtagTransfer (postedLink T) request s) := by
  have hend := cancelled_atItem T .jtag (jtagRound_spec _ request)
    (fun _ => jtagRound_runs T _ request) (setJtagIndex (request 0) s) hplain
  rw [dapJtagTransfer]
  dsimp only
  rw [if_pos hindex]
  exact finished_agrees T .jtag (jtagFinish_finished hend)

/-- The posted reads of `DAP_Transfer` are a reordering of the reads of the reference executor: with
a target that posts its reads, nothing is lost, doubled or given to another request. -/
theorem transfer_agrees (request : Request) (s : State (World τ))
    (hplain : ∀ item ∈ transferList request, Plain item) :
    Agrees T .swd request s (dapSwdTransfer (postedLink T) request s) ∧
    (validIndex (setJtagIndex (request 0) s).dapData = true →
      Agrees T .jtag request s (dapJtagTransfer (postedLink T) request s)) :=
  ⟨swdTransfer_agrees T request s hplain, jtagTransfer_agrees T request s hplain⟩

/-- A memory access port in which every address holds itself: TAR is written at 4, and a read of DRW
at 12 goes on by a word. -/
def memoryPort : Registers UInt32 where
  read := fun ap address tar =>
    if ap && address == 0x0C then (tar, tar + 4) else (0x2BA01477, tar)
  write := fun ap address data tar => if ap && address == 0x04 then data else tar
  clearAbort := id
  aborted := fun _ => false

/-- A write of TAR, two reads of DRW, one of IDCODE and one more of DRW. -/
def memoryRequest : Request := fun i =>
  [0, 5, 0x05, 0x00, 0x00, 0x00, 0x20, 0x0F, 0x0F, 0x02, 0x0F].getD i 0

def oneDevice : State (World UInt32) where
  dapData := { dapSetup .esp32 with jtagDev := { (dapSetup .esp32).jtagDev with count := 1 } }
  speed := .gpioNormal
  world := { ir := 0, dap := { regs := 0, result := 0, accesses := [] } }

theorem transfer_agrees_memoryPort :
    Agrees memoryPort .swd memoryRequest oneDevice
      (dapSwdTransfer (postedLink memoryPort) memoryRequest oneDevice) ∧
    Agrees memoryPort .jtag memoryRequest oneDevice
      (dapJtagTransfer (postedLink memoryPort) memoryRequest oneDevice) := by
  obtain ⟨hswd, hjtag⟩ := transfer_agrees memoryPort memoryRequest oneDevice (by decide)
  exact ⟨hswd, hjtag (by decide)⟩

example : (dapJtagTransfer (postedLink memoryPort) memoryRequest oneDevice).bytes =
    [5, 1] ++ [0x20000000, 0x20000004, 0x2BA01477, 0x20000008].flatMap storeWord := rfl

end WirelessEsp.PostedReads
