import WirelessEsp.PostedReads

namespace WirelessEsp.PostedBlock

open DapTypes DapProbe DapTransfer TransferSteps PostedTarget PostedReads

variable {τ : Type} (T : Registers τ) (port : Port) (retry : Nat)

/-- The items of a block of writes whose data stand from offset `i` on. -/
def writesFrom (request : Request) (value : UInt32) : Nat → Nat → List Item
  | 0, _ => []
  | n + 1, i => .write value (request.word i) :: writesFrom request value n (i + 4)

def blockItems (request : Request) : List Item :=
  let value := (request 3).toUInt32
  let count := (request.half 1).toNat
  if has value DAP_TRANSFER_RnW then List.replicate count (.read value)
  else writesFrom request value count 4

def serveAll (items : List Item) (e : Executed τ) : Executed τ :=
  items.foldl (fun e item => (serve T port retry item e).2.served) e

theorem execute_serveAll (habort : ∀ regs, T.aborted regs = false) {items : List Item}
    (hfound : ∀ item ∈ items, ∀ e, (serve T port retry item e).1 = true) (e : Executed τ) :
    execute T port retry items e = serveAll T port retry items e := by
  induction items generalizing e with
  | nil => rfl
  | cons item items ih =>
      rw [execute]
      dsimp only
      rw [if_pos (hfound item List.mem_cons_self e), if_neg (by rw [habort]; exact Bool.noConfusion)]
      exact ih (fun item hitem => hfound item (List.mem_cons_of_mem _ hitem)) _

variable {T port retry} {access : Access (World τ)} {value last : UInt32} {e : Executed τ}
  {l l₁ : Loop (World τ)} {select : Loop (World τ) → Loop (World τ)}

/-- What the loop has stored and counted is what the executor has read and counted. -/
structure Keeps (e : Executed τ) (l : Loop (World τ)) : Prop where
  mask : mask l = e.mask
  count : l.responseCount = UInt32.ofNat e.count
  response : l.response = e.words.flatMap storeWord

def Selected (port : Port) (value : UInt32) (l : Loop (World τ)) : Prop :=
  port = .jtag → l.state.world.ir = irOf value ∧ l.ir = irOf value

theorem Selected.ready (h : Selected port value l) : Ready port value l.state :=
  fun hport => (h hport).1

/-- What `select` does: the debug port can be read behind it, and all else is as before. -/
structure Selects (port : Port) (l l₁ : Loop (World τ)) : Prop where
  dap : l₁.state.world.dap = l.state.world.dap
  mask : mask l₁ = mask l
  count : l₁.responseCount = l.responseCount
  response : l₁.response = l.response
  ready : Ready port rdbuff l₁.state

theorem swdSelects (l : Loop (World τ)) : Selects .swd l l :=
  ⟨rfl, rfl, rfl, rfl, fun hport => by cases hport⟩

theorem jtagSelects (h : Selected .jtag value l) :
    Selects .jtag l (l.selectIr (postedLink T) JTAG_DPACC) := by
  obtain ⟨hworld, hir⟩ := h rfl
  have hrdbuff : irOf rdbuff = JTAG_DPACC := by decide
  rw [Loop.selectIr]
  split
  · exact ⟨rfl, rfl, rfl, rfl, fun _ => hrdbuff.symm⟩
  next hsame =>
    have hdpacc : l.ir = JTAG_DPACC := by simpa using hsame
    exact ⟨rfl, rfl, rfl, rfl, fun _ => (hworld.trans (hir.symm.trans hdpacc)).trans hrdbuff.symm⟩

def stored (l : Loop (World τ)) (word : UInt32) (dap : DebugPort τ) : Loop (World τ) :=
  { (after l word dap).store word with responseCount := l.responseCount + 1 }

def readStored (T : Registers τ) (port : Port) (value : UInt32) (l : Loop (World τ)) :
    Loop (World τ) :=
  stored l (l.state.world.dap.access T port value).1 (l.state.world.dap.access T port value).2

def readServed (T : Registers τ) (port : Port) (retry : Nat) (value : UInt32) (e : Executed τ) :
    Executed τ := (serve T port retry (.read value) e).2.served

theorem readServed_dap : (readServed T port retry value e).dap = (e.dap.readBack T port value).2 :=
  rfl

theorem Keeps.stored (h : Keeps e l) {word : UInt32} {dap : DebugPort τ}
    (hword : (e.dap.readBack T port value).1 = word) :
    Keeps (readServed T port retry value e) (PostedBlock.stored l word dap) := by
  refine ⟨h.mask, ?_, ?_⟩
  · have hnext : UInt32.ofNat (e.count + 1) = UInt32.ofNat e.count + 1 := UInt32.ofNat_add _ _
    exact (congrArg (· + 1) h.count).trans hnext.symm
  · have hsnoc : e.words.flatMap storeWord ++ storeWord word =
        (e.words ++ [(e.dap.readBack T port value).1]).flatMap storeWord :=
      words_snoc rfl (congrArg storeWord hword.symm)
    exact (congrArg (· ++ storeWord word) h.response).trans hsnoc

theorem readBlock_immediate (haccess : Serves T port access)
    (hread : has value DAP_TRANSFER_RnW = true) (hposts : port.posts value = false) (n : Nat)
    (hready : Selected port value l) (hkeeps : Keeps e l) (hdap : l.state.world.dap = e.dap) :
    ∃ l', readBlock (postedLink T) access value value id n l = .ok l' ∧
      Keeps (serveAll T port retry (List.replicate n (.read value)) e) l' ∧
      l'.state.world.dap = (serveAll T port retry (List.replicate n (.read value)) e).dap ∧
      (0 < n → l'.responseValue = DAP_TRANSFER_OK.toUInt32) := by
  induction n generalizing e l with
  | zero => exact ⟨l, rfl, hkeeps, hdap, fun h => absurd h (Nat.lt_irrefl 0)⟩
  | succ n ih =>
      have hback := @readBack_immediate τ T port value hposts e.dap
      have hround : readBlock (postedLink T) access value value id (n + 1) l =
          readBlock (postedLink T) access value value id n (readStored T port value l) := by
        rw [readBlock]
        simp only [id_eq, ite_self, access_read haccess hready.ready hread, after_check]
        rfl
      have hnext : Keeps (readServed T port retry value e) (readStored T port value l) :=
        hkeeps.stored (by rw [hback, hdap])
      have hdap' : (readStored T port value l).state.world.dap =
          (readServed T port retry value e).dap := by
        rw [readServed_dap, hback, ← hdap]
        rfl
      obtain ⟨l', hrun, hkeeps', hdone, hok⟩ := @ih _ (readStored T port value l) hready hnext hdap'
      refine ⟨l', hround.trans hrun, hkeeps', hdone, fun _ => ?_⟩
      cases n with
      | zero =>
          cases hrun
          rfl
      | succ n => exact hok (Nat.succ_pos n)

theorem readBlock_posted (haccess : Serves T port access)
    (hread : has value DAP_TRANSFER_RnW = true) (hposts : port.posts value = true)
    (hselect : ∀ l, Selected port value l → Selects port l (select l)) (n : Nat)
    (hready : Selected port value l) (hkeeps : Keeps e l)
    (hdap : l.state.world.dap = (e.dap.access T port value).2) :
    ∃ l', readBlock (postedLink T) access value rdbuff select (n + 1) l = .ok l' ∧
      Keeps (serveAll T port retry (List.replicate (n + 1) (.read value)) e) l' ∧
      l'.state.world.dap = (serveAll T port retry (List.replicate (n + 1) (.read value)) e).dap ∧
      l'.responseValue = DAP_TRANSFER_OK.toUInt32 := by
  induction n generalizing e l with
  | zero =>
      have hback := @readBack_posts τ T port value hposts e.dap
      have hsel := hselect l hready
      have hround : readBlock (postedLink T) access value rdbuff select 1 l =
          .ok (stored (select l) l.state.world.dap.result l.state.world.dap) := by
        rw [readBlock]
        simp only [if_true, access_read haccess hsel.ready rdbuff_read, access_rdbuff, hsel.dap,
          after_check]
        rfl
      have hselected : Keeps e (select l) :=
        ⟨hsel.mask.trans hkeeps.mask, hsel.count.trans hkeeps.count,
          hsel.response.trans hkeeps.response⟩
      have hserved : (readServed T port retry value e).dap = l.state.world.dap := by
        rw [readServed_dap, hback, hdap]
      refine ⟨_, hround, hselected.stored ?_, hserved.symm, rfl⟩
      rw [hback, ← hdap]
  | succ n ih =>
      have hback := @readBack_posts τ T port value hposts e.dap
      have hround : readBlock (postedLink T) access value rdbuff select (n + 2) l =
          readBlock (postedLink T) access value rdbuff select (n + 1) (readStored T port value l) := by
        rw [readBlock]
        simp only [Nat.succ_ne_zero, if_false, access_read haccess hready.ready hread, after_check]
        rfl
      have hword : (e.dap.readBack T port value).1 = (l.state.world.dap.access T port value).1 := by
        rw [hback, access_word hposts, hdap]
      have hnext : Keeps (readServed T port retry value e) (readStored T port value l) :=
        hkeeps.stored hword
      have hdap' : (readStored T port value l).state.world.dap =
          ((readServed T port retry value e).dap.access T port value).2 := by
        rw [readServed_dap, hback, ← hdap]
        rfl
      obtain ⟨l', hrun, hrest⟩ := @ih _ (readStored T port value l) hready hnext hdap'
      exact ⟨l', hround.trans hrun, hrest⟩

theorem writeBlock_serves (haccess : Serves T port access) (request : Request)
    (hwrite : has value DAP_TRANSFER_RnW = false) (n : Nat) (hready : Selected port value l)
    (hkeeps : Keeps e l) (hdap : l.state.world.dap = e.dap) :
    ∃ l', writeBlock (postedLink T) access request value n l = .ok l' ∧
      Selected port value l' ∧
      Keeps (serveAll T port retry (writesFrom request value n l.request) e) l' ∧
      l'.state.world.dap =
        (serveAll T port retry (writesFrom request value n l.request) e).dap := by
  induction n generalizing e l with
  | zero => exact ⟨l, rfl, hready, hkeeps, hdap⟩
  | succ n ih =>
      generalize hnext : ({ after (loadData request l) (request.word l.request)
        (l.state.world.dap.write T (has value DAP_TRANSFER_APnDP) value
          (request.word l.request)) with responseCount := l.responseCount + 1 } :
        Loop (World τ)) = l₂
      have hround : writeBlock (postedLink T) access request value (n + 1) l =
          writeBlock (postedLink T) access request value n l₂ := by
        rw [writeBlock, access_write (l := loadData request l) haccess hready.ready hwrite, ← hnext]
        rfl
      have hrequest : l₂.request = l.request + 4 := by rw [← hnext]; rfl
      have hready' : Selected port value l₂ := by rw [← hnext]; exact hready
      have hserved : l₂.state.world.dap =
          (serve T port retry (.write value (request.word l.request)) e).2.served.dap := by
        rw [← hnext]
        exact congrArg (DebugPort.write T (has value DAP_TRANSFER_APnDP) value
          (request.word l.request)) hdap
      have hkeeps' : Keeps
          (serve T port retry (.write value (request.word l.request)) e).2.served l₂ := by
        have hcount : UInt32.ofNat (e.count + 1) = UInt32.ofNat e.count + 1 :=
          UInt32.ofNat_add _ _
        rw [← hnext]
        exact ⟨hkeeps.mask, (congrArg (· + 1) hkeeps.count).trans hcount.symm, hkeeps.response⟩
      obtain ⟨l', hrun, hrest⟩ := ih hready' hkeeps' hserved
      rw [hrequest] at hrest
      exact ⟨l', hround.trans hrun, hrest⟩

theorem serveAll_ack {items : List Item} (hitems : items ≠ []) (e : Executed τ) :
    (serveAll T port retry items e).ack = DAP_TRANSFER_OK.toUInt32 := by
  induction items using List.reverseRecOn with
  | nil => exact absurd rfl hitems
  | append_singleton items item _ =>
      rw [serveAll, List.foldl_concat]
      rfl

theorem finished_of_keeps {items : List Item} (hitems : items ≠ [])
    (hkeeps : Keeps (serveAll T port retry items e) l)
    (hdap : l.state.world.dap = (serveAll T port retry items e).dap)
    (hok : l.responseValue = DAP_TRANSFER_OK.toUInt32) :
    Finished (serveAll T port retry items e) l :=
  ⟨hdap, hkeeps.mask, hkeeps.count, hok.trans (serveAll_ack hitems e).symm, hkeeps.response⟩

theorem replicate_ne_nil {α : Type} {n : Nat} (hn : n ≠ 0) (a : α) : List.replicate n a ≠ [] := by
  cases n with
  | zero => exact absurd rfl hn
  | succ n => exact List.cons_ne_nil _ _

theorem writesFrom_ne_nil (request : Request) (value : UInt32) {n : Nat} (hn : n ≠ 0) (i : Nat) :
    writesFrom request value n i ≠ [] := by
  cases n with
  | zero => exact absurd rfl hn
  | succ n => exact List.cons_ne_nil _ _

def itemsOf (request : Request) (value : UInt32) (count : Nat) : List Item :=
  if has value DAP_TRANSFER_RnW then List.replicate count (.read value)
  else writesFrom request value count 4

theorem posted_finished (haccess : Serves T port access) {count : Nat} (hcount : count ≠ 0)
    (hread : has value DAP_TRANSFER_RnW = true) (hposts : port.posts value = true)
    (hselect : ∀ l, Selected port value l → Selects port l (select l))
    (hready : Selected port value l) (hkeeps : Keeps e l) (hdap : l.state.world.dap = e.dap) :
    Finished (serveAll T port retry (List.replicate count (.read value)) e) (endOf do
      let l ← (l.access (postedLink T) access value false).check
      readBlock (postedLink T) access value rdbuff select count l) := by
  obtain ⟨n, rfl⟩ := Nat.exists_eq_succ_of_ne_zero hcount
  rw [access_post haccess hready.ready hread, after_check]
  have hposted : (after l l.data (l.state.world.dap.access T port value).2).state.world.dap =
      (e.dap.access T port value).2 := by rw [← hdap]; rfl
  obtain ⟨l', hrun, hkeeps', hdone, hok⟩ := @readBlock_posted τ T port retry access value e
    (after l l.data (l.state.world.dap.access T port value).2) select haccess hread hposts hselect n
    hready ⟨hkeeps.mask, hkeeps.count, hkeeps.response⟩ hposted
  have hend : endOf (readBlock (postedLink T) access value rdbuff select (n + 1)
      (after l l.data (l.state.world.dap.access T port value).2)) = l' := by rw [hrun]; rfl
  change Finished _ (endOf (readBlock (postedLink T) access value rdbuff select (n + 1)
    (after l l.data (l.state.world.dap.access T port value).2)))
  rw [hend]
  exact finished_of_keeps (replicate_ne_nil hcount _) hkeeps' hdone hok

theorem writes_finished (haccess : Serves T port access) (request : Request) {count : Nat}
    (hcount : count ≠ 0) (hwrite : has value DAP_TRANSFER_RnW = false)
    (hselect : ∀ l, Selected port value l → Selects port l (select l))
    (hready : Selected port value l) (hkeeps : Keeps e l) (hdap : l.state.world.dap = e.dap) :
    Finished (serveAll T port retry (writesFrom request value count l.request) e) (endOf do
      let l ← writeBlock (postedLink T) access request value count l
      pure ((select l).access (postedLink T) access rdbuff false)) := by
  obtain ⟨l', hrun, hready', hkeeps', hdone⟩ := @writeBlock_serves τ T port retry access value e l
    haccess request hwrite count hready hkeeps hdap
  have hsel := hselect l' hready'
  rw [hrun]
  change Finished _ ((select l').access (postedLink T) access rdbuff false)
  rw [access_post haccess hsel.ready rdbuff_read, access_rdbuff]
  exact finished_of_keeps (writesFrom_ne_nil request value hcount _)
    ⟨hsel.mask.trans hkeeps'.mask, hsel.count.trans hkeeps'.count,
      hsel.response.trans hkeeps'.response⟩ (hsel.dap.trans hdone) rfl

theorem swdSelected (l : Loop (World τ)) : Selected .swd value l := fun hport => by cases hport

theorem swdBlock_finished (request : Request) {count : Nat} (hcount : count ≠ 0)
    (hrequest : l.request = 4) (hkeeps : Keeps e l) (hdap : l.state.world.dap = e.dap) :
    Finished (serveAll T .swd retry (itemsOf request value count) e)
      (endOf (swdBlock (postedLink T) request value count l)) := by
  have haccess := swdTransfer_serves T
  rw [swdBlock, itemsOf]
  by_cases hread : has value DAP_TRANSFER_RnW = true
  · rw [if_pos hread, if_pos hread]
    by_cases hap : has value DAP_TRANSFER_APnDP = true
    · rw [if_pos hap]
      exact posted_finished haccess hcount hread hap (fun l _ => swdSelects l) (swdSelected l)
        hkeeps hdap
    · rw [if_neg hap]
      obtain ⟨l', hrun, hkeeps', hdone, hok⟩ := @readBlock_immediate τ T .swd retry _ value e l
        haccess hread (Bool.eq_false_iff.mpr hap) count (swdSelected l) hkeeps hdap
      rw [hrun]
      exact finished_of_keeps (replicate_ne_nil hcount _) hkeeps' hdone
        (hok (Nat.pos_of_ne_zero hcount))
  · rw [if_neg hread, if_neg hread, ← hrequest]
    exact @writes_finished τ T .swd retry _ value e l id haccess request count hcount
      (Bool.eq_false_iff.mpr hread) (fun l _ => swdSelects l) (swdSelected l) hkeeps hdap

theorem jtagBlock_finished (request : Request) {count : Nat} (hcount : count ≠ 0)
    (hrequest : l.request = 4) (hkeeps : Keeps e l) (hdap : l.state.world.dap = e.dap) :
    Finished (serveAll T .jtag retry (itemsOf request value count) e)
      (endOf (jtagBlock (postedLink T) request value count l)) := by
  have haccess := jtagTransfer_serves T
  rw [jtagBlock, itemsOf]
  generalize hsel : ({ l with
    ir := irOf value
    state := l.state.onWorld ((postedLink T).jtagIr l.state.dapData (irOf value)) } :
    Loop (World τ)) = l₂
  have hready : Selected .jtag value l₂ := fun _ => by rw [← hsel]; exact ⟨rfl, rfl⟩
  have hkeeps₂ : Keeps e l₂ := by
    rw [← hsel]
    exact ⟨hkeeps.mask, hkeeps.count, hkeeps.response⟩
  have hdap₂ : l₂.state.world.dap = e.dap := by rw [← hsel]; exact hdap
  have hrequest₂ : l₂.request = 4 := by rw [← hsel]; exact hrequest
  by_cases hread : has value DAP_TRANSFER_RnW = true
  · rw [if_pos hread, if_pos hread]
    exact posted_finished haccess hcount hread rfl (fun l h => jtagSelects h) hready hkeeps₂ hdap₂
  · rw [if_neg hread, if_neg hread, ← hrequest₂]
    exact writes_finished haccess request hcount (Bool.eq_false_iff.mpr hread)
      (fun l h => jtagSelects h) hready hkeeps₂ hdap₂

def blockReference (T : Registers τ) (port : Port) (request : Request) (s : State (World τ)) :
    Executed τ :=
  serveAll T port s.dapData.transfer.matchRetry.toNat (blockItems request) (begun T s)

/-- The reply is that of the reference executor, word for word, and so is the target. Each item is
done once, in order. Without aborts the executor does the same as on a list of transfers. -/
structure BlockServes (T : Registers τ) (port : Port) (request : Request) (s : State (World τ))
    (reply : Reply (World τ)) : Prop where
  bytes : reply.bytes = [UInt8.ofNat (blockReference T port request s).count,
    UInt8.ofNat ((blockReference T port request s).count / 256),
    (blockReference T port request s).ack.toUInt8] ++
      (blockReference T port request s).words.flatMap storeWord
  count : (blockReference T port request s).count = (request.half 1).toNat
  dap : reply.state.world.dap = (blockReference T port request s).dap
  mask : reply.state.dapData.transfer.matchMask = s.dapData.transfer.matchMask
  accesses : ∃ traces, List.Forall₂ Asks (blockItems request) traces ∧
    reply.state.world.dap.accesses = s.world.dap.accesses ++ traces.flatten
  listed : (∀ regs, T.aborted regs = false) → blockReference T port request s =
    execute T port s.dapData.transfer.matchRetry.toNat (blockItems request) (begun T s)

def transferOn (T : Registers τ) : Port → Request → State (World τ) → Reply (World τ)
  | .swd => dapSwdTransfer (postedLink T)
  | .jtag => dapJtagTransfer (postedLink T)

/-- `DAP_Transfer` gives the same acknowledge and words, and leaves the same target. -/
structure SameAsListed (single block : Reply (World τ)) : Prop where
  bytes : ∃ count ack words, single.bytes = [count, ack] ++ words ∧
    block.bytes = [count, 0, ack] ++ words
  dap : single.state.world.dap = block.state.world.dap

/-- Without aborts `DAP_Transfer` does the same with the words of the block in a list. -/
structure BlockAgrees (T : Registers τ) (port : Port) (request : Request) (s : State (World τ))
    (reply : Reply (World τ)) : Prop extends BlockServes T port request s reply where
  transfers : (∀ regs, T.aborted regs = false) → ∀ list : Request, list 0 = request 0 →
    transferList list = blockItems request → (∀ item ∈ blockItems request, Plain item) →
    SameAsListed (transferOn T port list s) reply

theorem writesFrom_length (request : Request) (value : UInt32) (n i : Nat) :
    (writesFrom request value n i).length = n := by
  induction n generalizing i with
  | zero => rfl
  | succ n ih => exact congrArg (· + 1) (ih (i + 4))

theorem itemsOf_length (request : Request) (value : UInt32) (count : Nat) :
    (itemsOf request value count).length = count := by
  rw [itemsOf]
  split
  · exact List.length_replicate
  · exact writesFrom_length request value count 4

theorem writesFrom_write {request : Request} {n i : Nat} {item : Item}
    (h : item ∈ writesFrom request value n i) : ∃ data, item = .write value data := by
  induction n generalizing i with
  | zero => cases h
  | succ n ih =>
      rcases List.mem_cons.mp h with rfl | hrest
      · exact ⟨_, rfl⟩
      · exact ih hrest

theorem itemsOf_found (request : Request) (count : Nat) {item : Item}
    (h : item ∈ itemsOf request value count) (e : Executed τ) :
    (serve T port retry item e).1 = true := by
  rw [itemsOf] at h
  split at h
  · rw [List.eq_of_mem_replicate h]
    rfl
  · obtain ⟨data, rfl⟩ := writesFrom_write h
    rfl

theorem serveAll_count (items : List Item) (e : Executed τ) :
    (serveAll T port retry items e).count = e.count + items.length := by
  induction items generalizing e with
  | nil => rfl
  | cons item items ih =>
      have hone : (serve T port retry item e).2.served.count = e.count + 1 :=
        congrArg (· + 1) (serve_count T port retry item e)
      refine (ih _).trans ?_
      rw [hone, List.length_cons, Nat.add_assoc, Nat.add_comm 1]

theorem serveAll_accesses (items : List Item) (e : Executed τ) : ∃ traces,
    List.Forall₂ Asks items traces ∧
      (serveAll T port retry items e).dap.accesses = e.dap.accesses ++ traces.flatten := by
  induction items generalizing e with
  | nil => exact ⟨[], .nil, (List.append_nil _).symm⟩
  | cons item items ih =>
      obtain ⟨trace, hasks, htrace⟩ := serve_accesses T port retry item e
      obtain ⟨traces, hall, haccesses⟩ := ih (serve T port retry item e).2.served
      refine ⟨trace :: traces, .cons hasks hall, haccesses.trans ?_⟩
      rw [List.flatten_cons, ← List.append_assoc, ← htrace]
      rfl

theorem serveAll_mask {items : List Item}
    (hkeep : ∀ item ∈ items, ∀ e, (serve T port retry item e).2.mask = e.mask) (e : Executed τ) :
    (serveAll T port retry items e).mask = e.mask := by
  induction items generalizing e with
  | nil => rfl
  | cons item items ih =>
      exact (ih (fun i hi => hkeep i (List.mem_cons_of_mem _ hi)) _).trans
        (hkeep item List.mem_cons_self e)

theorem itemsOf_mask (request : Request) (count : Nat) {item : Item}
    (h : item ∈ itemsOf request value count) (e : Executed τ) :
    (serve T port retry item e).2.mask = e.mask := by
  rw [itemsOf] at h
  split at h
  · rw [List.eq_of_mem_replicate h]
    rfl
  · obtain ⟨data, rfl⟩ := writesFrom_write h
    rfl

theorem countHigh (n : Nat) (hn : n < 2 ^ 16) :
    (UInt32.ofNat n >>> 8).toUInt8 = UInt8.ofNat (n / 256) := by
  have hword : (UInt32.ofNat n).toNat = n := UInt32.toNat_ofNat_of_lt' (Nat.lt_trans hn (by decide))
  apply UInt8.toNat_inj.mp
  rw [UInt32.toNat_toUInt8, UInt32.toNat_shiftRight, UInt8.toNat_ofNat', hword,
    Nat.shiftRight_eq_div_pow]
  rfl

theorem finished_blockServes {request : Request} {s : State (World τ)}
    (h : Finished (blockReference T port request s) l) :
    BlockServes T port request s (blockReply l) := by
  have hcount : (blockReference T port request s).count = (request.half 1).toNat := by
    refine (serveAll_count (blockItems request) (begun T s)).trans ?_
    exact (Nat.zero_add _).trans (itemsOf_length request _ _)
  obtain ⟨traces, hall, haccesses⟩ := @serveAll_accesses τ T port
    s.dapData.transfer.matchRetry.toNat (blockItems request) (begun T s)
  refine ⟨?_, hcount, h.dap, ?_, ⟨traces, hall, (congrArg DebugPort.accesses h.dap).trans haccesses⟩,
    fun habort => ?_⟩
  · simp only [blockReply, h.count, h.ack, h.response, UInt32.toUInt8_ofNat']
    rw [countHigh _ (hcount ▸ request.half_lt 1)]
  · exact h.mask.trans (serveAll_mask (fun item hitem => itemsOf_mask request _ hitem) (begun T s))
  · exact (execute_serveAll T port _ habort (fun item hitem => itemsOf_found request _ hitem) _).symm

variable (T)

theorem startLoop_keeps (s : State (World τ)) : Keeps (begun T s) (startLoop (postedLink T) 4 s) :=
  ⟨rfl, rfl, rfl⟩

theorem emptyBlock_serves {request : Request} (s : State (World τ)) (n : Nat)
    (hzero : (request.half 1).toNat = 0) :
    BlockServes T port request s (blockReply (startLoop (postedLink T) n s)) := by
  have hitems : blockItems request = [] := List.length_eq_zero_iff.mp
    ((itemsOf_length request _ _).trans hzero)
  apply finished_blockServes
  rw [blockReference, hitems]
  exact ⟨rfl, rfl, rfl, rfl, rfl⟩

theorem swdTransferBlock_serves (request : Request) (s : State (World τ)) :
    BlockServes T .swd request s (dapSwdTransferBlock (postedLink T) request s) := by
  rw [dapSwdTransferBlock, runBlock]
  by_cases hzero : (request.half 1).toNat = 0
  · rw [if_pos hzero]
    exact emptyBlock_serves T s 0 hzero
  · rw [if_neg hzero]
    exact finished_blockServes
      (swdBlock_finished request hzero rfl (startLoop_keeps T s) rfl)

theorem jtagTransferBlock_serves (request : Request) (s : State (World τ))
    (hindex : validIndex (setJtagIndex (request 0) s).dapData = true) :
    BlockServes T .jtag request s (dapJtagTransferBlock (postedLink T) request s) := by
  have hvalid : validIndex
      (startLoop (postedLink T) 0 (setJtagIndex (request 0) s)).state.dapData = true := hindex
  rw [dapJtagTransferBlock, if_pos hvalid, runBlock]
  by_cases hzero : (request.half 1).toNat = 0
  · rw [if_pos hzero]
    have hempty := @emptyBlock_serves τ T .jtag request (setJtagIndex (request 0) s) 0 hzero
    exact ⟨hempty.bytes, hempty.count, hempty.dap, hempty.mask, hempty.accesses, hempty.listed⟩
  · rw [if_neg hzero]
    have hend : Finished (blockReference T .jtag request (setJtagIndex (request 0) s)) _ :=
      jtagBlock_finished request hzero rfl (startLoop_keeps T (setJtagIndex (request 0) s)) rfl
    have hblock := finished_blockServes hend
    exact ⟨hblock.bytes, hblock.count, hblock.dap, hblock.mask, hblock.accesses, hblock.listed⟩

theorem transferList_length_lt (list : Request) : (transferList list).length < 256 := by
  have hlen : ∀ n i, (itemsFrom list n i).length = n := by
    intro n
    induction n with
    | zero => exact fun _ => rfl
    | succ n ih => exact fun i => congrArg (· + 1) (ih _)
  rw [transferList, hlen]
  exact (list 1).toNat_lt

variable {T}

theorem BlockServes.agrees {request : Request} {s : State (World τ)} {reply : Reply (World τ)}
    (h : BlockServes T port request s reply)
    (htransfer : ∀ list : Request, list 0 = request 0 → (∀ item ∈ transferList list, Plain item) →
      Agrees T port list s (transferOn T port list s)) :
    BlockAgrees T port request s reply := by
  refine ⟨h, fun habort list hindex hlist hplain => ?_⟩
  have hsingle := htransfer list hindex (hlist ▸ hplain)
  have hsame : reference T port list s = blockReference T port request s := by
    rw [reference, hlist, h.listed habort]
  have hcount : (blockReference T port request s).count < 256 := by
    have hitems : (blockItems request).length = (request.half 1).toNat :=
      itemsOf_length request _ _
    rw [h.count, ← hitems, ← hlist]
    exact transferList_length_lt list
  have hbytes := h.bytes
  rw [Nat.div_eq_of_lt hcount] at hbytes
  refine ⟨⟨_, _, _, ?_, hbytes⟩, ?_⟩
  · rw [hsingle.bytes, hsame]
  · rw [hsingle.dap, hsame, h.dap]

variable (T)

theorem swdTransferBlock_agrees (request : Request) (s : State (World τ)) :
    BlockAgrees T .swd request s (dapSwdTransferBlock (postedLink T) request s) :=
  (swdTransferBlock_serves T request s).agrees fun list _ hplain => swdTransfer_agrees T list s hplain

theorem jtagTransferBlock_agrees (request : Request) (s : State (World τ))
    (hindex : validIndex (setJtagIndex (request 0) s).dapData = true) :
    BlockAgrees T .jtag request s (dapJtagTransferBlock (postedLink T) request s) :=
  (jtagTransferBlock_serves T request s hindex).agrees fun list hsame hplain =>
    jtagTransfer_agrees T list s hplain (hsame ▸ hindex)

/-- The pipeline of `DAP_TransferBlock` does what single transfers do: with a target that posts its
reads, every word is read or written once, and each word read is in its place. -/
theorem block_agrees (request : Request) (s : State (World τ)) :
    BlockAgrees T .swd request s (dapSwdTransferBlock (postedLink T) request s) ∧
    (validIndex (setJtagIndex (request 0) s).dapData = true →
      BlockAgrees T .jtag request s (dapJtagTransferBlock (postedLink T) request s)) :=
  ⟨swdTransferBlock_agrees T request s, jtagTransferBlock_agrees T request s⟩

/-- A block of three reads of DRW. -/
def memoryBlock : Request := fun i => [0, 3, 0, 0x0F].getD i 0

theorem block_agrees_memoryPort :
    BlockAgrees memoryPort .swd memoryBlock oneDevice
      (dapSwdTransferBlock (postedLink memoryPort) memoryBlock oneDevice) ∧
    BlockAgrees memoryPort .jtag memoryBlock oneDevice
      (dapJtagTransferBlock (postedLink memoryPort) memoryBlock oneDevice) := by
  obtain ⟨hswd, hjtag⟩ := block_agrees memoryPort memoryBlock oneDevice
  exact ⟨hswd, hjtag (by decide)⟩

example : transferList (fun i => [0, 3, 0x0F, 0x0F, 0x0F].getD i 0) = blockItems memoryBlock := by
  decide

example : (dapJtagTransferBlock (postedLink memoryPort) memoryBlock oneDevice).bytes =
    [3, 0, 1] ++ [0, 4, 8].flatMap storeWord := rfl

end WirelessEsp.PostedBlock
