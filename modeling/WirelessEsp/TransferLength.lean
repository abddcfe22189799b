import WirelessEsp.ResponseSize

namespace WirelessEsp.TransferLength

open DapTypes DapProbe DapTransfer DapCommand TransferSteps TransferRounds TransferBound
open ResponseCounts (low_toNat dapTransfer_exact Exact)

variable {σ : Type} (L : Link σ)

/-- The bytes of one transfer: its value, and the data that a write or a match comes with. -/
def itemLength (value : UInt32) : Nat := 1 + operandBytes value

def itemsLength (request : Request) : Nat → Nat → Nat
  | 0, _ => 0
  | n + 1, i =>
      itemLength (request i).toUInt32 +
        itemsLength request n (i + itemLength (request i).toUInt32)

/-- The syntactic length of the body of a `DAP_Transfer`. -/
def bodyLength (request : Request) : Nat := 2 + itemsLength request (request 1).toNat 2

theorem itemLength_or (value : UInt32) : itemLength value = 1 ∨ itemLength value = 5 := by
  rw [itemLength, operandBytes]
  split
  · split
    · exact .inr rfl
    · exact .inl rfl
  · exact .inr rfl

theorem itemsLength_bounds (request : Request) (n i : Nat) : ∃ k ≤ n,
    itemsLength request n i = n + 4 * k := by
  induction n generalizing i with
  | zero => exact ⟨0, Nat.le_refl 0, rfl⟩
  | succ n ih =>
      obtain ⟨k, hk, hitems⟩ := ih (i + itemLength (request i).toUInt32)
      rw [itemsLength, hitems]
      rcases itemLength_or (request i).toUInt32 with hitem | hitem
      · exact ⟨k, by omega, by omega⟩
      · exact ⟨k + 1, by omega, by omega⟩

theorem skipRequests_eq (request : Request) (n i : Nat) :
    skipRequests request n i = i + itemsLength request n i := by
  induction n generalizing i with
  | zero => rfl
  | succ n ih =>
      rw [skipRequests, ih, itemsLength, itemLength, ← Nat.add_assoc i 1, Nat.add_assoc i 1,
        Nat.add_assoc i]

def Behind (i : Nat) (l : Loop σ) : Prop := l.request = i ∨ l.request = i + 4

def Keeps (i : Nat) (l : Loop σ) : Step σ (Loop σ) → Prop :=
  Ends (fun l' => l'.request = l.request) (Behind i)

section Parts

variable {i : Nat} {l : Loop σ}

theorem Behind.of {l' : Loop σ} (h : Behind i l) (hrequest : l'.request = l.request) :
    Behind i l' := by
  rw [Behind, hrequest]
  exact h

theorem Keeps.check (h : Behind i l) {l' : Loop σ} {f : Loop σ → Step σ (Loop σ)}
    (hrequest : l'.request = l.request) (hf : Keeps i l (f l')) : Keeps i l (l'.check >>= f) := by
  refine Ends.bind (check_ends (h.of hrequest)) ?_
  rintro l₁ ⟨rfl, -⟩
  exact hf

theorem check_keeps (h : Behind i l) {l' : Loop σ} (hrequest : l'.request = l.request) :
    Keeps i l l'.check := by
  refine (check_ends (h.of hrequest)).mono ?_ fun _ h => h
  rintro l₁ ⟨rfl, -⟩
  exact hrequest

theorem Keeps.behind (h : Behind i l) {x : Step σ (Loop σ)} (hx : Keeps i l x) :
    Ends (Behind i) (Behind i) x :=
  Ends.mono hx (fun _ hrequest => h.of hrequest) fun _ h => h

theorem storeTimestamp_request (value : UInt32) (l : Loop σ) :
    (l.storeTimestamp value).request = l.request := by
  rw [Loop.storeTimestamp]
  split <;> rfl

theorem swdReadPosted_keeps (value : UInt32) (h : Behind i l) :
    Keeps i l (swdReadPosted L value l) := by
  rw [swdReadPosted]
  split
  · dsimp only
    apply Keeps.check h
    · split <;> rfl
    · split
      · split
        · exact storeTimestamp_request value _
        · rfl
      · split
        · exact storeTimestamp_request value _
        · rfl
  · rfl

theorem swdReadNormal_keeps (value : UInt32) (h : Behind i l) :
    Keeps i l (swdReadNormal L value l) := by
  rw [swdReadNormal]
  split
  · split
    · rfl
    · apply Keeps.check h
      · rfl
      · exact storeTimestamp_request value _
  · apply Keeps.check h
    · rfl
    · exact storeTimestamp_request value _

theorem jtagReadPosted_keeps (value : UInt32) (h : Behind i l) :
    Keeps i l (jtagReadPosted L value l) := by
  rw [jtagReadPosted]
  split
  · dsimp only
    apply Keeps.check h
    · split
      · rfl
      · exact (selectIr_frame L JTAG_DPACC l).request
    · split
      · split
        · exact storeTimestamp_request value _
        · rfl
      · split
        · exact (storeTimestamp_request value _).trans (selectIr_frame L JTAG_DPACC l).request
        · exact (selectIr_frame L JTAG_DPACC l).request
  · rfl

theorem jtagReadNormal_keeps (value : UInt32) (h : Behind i l) :
    Keeps i l (jtagReadNormal L value l) := by
  have hselect := (selectIr_frame L (irOf value) l).request
  rw [jtagReadNormal]
  split
  · rfl
  · dsimp only
    apply Keeps.check h
    · exact hselect
    · exact (storeTimestamp_request value _).trans hselect

theorem pollMatch_keeps {access : Access σ} (haccess : KeepsConf access)
    (value matchValue : UInt32) (retry : Nat) (h : Behind i l) :
    Keeps i l (pollMatch L access value matchValue retry l) :=
  (pollMatch_ends L haccess value matchValue retry l).mono (fun _ hl => hl.1.request)
    fun _ hframe => h.of hframe.request

theorem swdFlush_keeps (h : Behind i l) : Keeps i l (swdFlush L l) := by
  rw [swdFlush]
  split
  · apply Keeps.check h
    · rfl
    · rfl
  · rfl

theorem jtagFlush_keeps (h : Behind i l) : Keeps i l (jtagFlush L l) := by
  have hselect := (selectIr_frame L JTAG_DPACC l).request
  rw [jtagFlush]
  split
  · apply Keeps.check h
    · exact hselect
    · exact hselect
  · rfl

theorem swdRegister_keeps (value : UInt32) (h : Behind i l) :
    Keeps i l (swdRegister L value l) := by
  rw [swdRegister]
  apply Keeps.check h
  · rfl
  · exact storeTimestamp_request value _

theorem jtagRegister_keeps (value : UInt32) (h : Behind i l) :
    Keeps i l (jtagRegister L value l) := by
  have hselect := (selectIr_frame L (irOf value) l).request
  rw [jtagRegister]
  apply Keeps.check h
  · exact hselect
  · exact (storeTimestamp_request value _).trans hselect

end Parts

def Behaves (part : Loop σ → Step σ (Loop σ)) : Prop := ∀ l,
  Ends (Behind l.request) (Behind l.request) (part l)

theorem skip_behind (l : Loop σ) : Behind l.request (l.skip 4) := .inr rfl

theorem swdReadMatch_behaves (request : Request) (value : UInt32) :
    Behaves (swdReadMatch L request value) := by
  intro l
  have haccess := swdTransfer_keepsConf L
  rw [swdReadMatch]
  split
  · have hframe := (access_frame L haccess value false (l.skip 4)).request
    refine Ends.bind ((check_keeps (skip_behind l) hframe).behind (skip_behind l)) ?_
    intro l₁ h
    exact (pollMatch_keeps L haccess value _ _ h).behind h
  · exact (pollMatch_keeps L haccess value _ _ (skip_behind l)).behind (skip_behind l)

theorem jtagReadMatch_behaves (request : Request) (value : UInt32) :
    Behaves (jtagReadMatch L request value) := by
  intro l
  have haccess := jtagTransfer_keepsConf L
  have hframe := ((selectIr_frame L (irOf value) (l.skip 4)).trans
    (access_frame L haccess value false _)).request
  rw [jtagReadMatch]
  refine Ends.bind ((check_keeps (skip_behind l) hframe).behind (skip_behind l)) ?_
  intro l₁ h
  exact (pollMatch_keeps L haccess value _ _ h).behind h

theorem Behaves.after {first next : Loop σ → Step σ (Loop σ)}
    (hfirst : ∀ l, Keeps l.request l (first l)) (hnext : Behaves next) :
    Behaves fun l => first l >>= next := by
  intro l
  refine Ends.bind (hfirst l) ?_
  intro l₁ hrequest
  rw [← hrequest]
  exact hnext l₁

theorem start_behind (l : Loop σ) : Behind l.request l := .inl rfl

theorem behaves_of_keeps {part : Loop σ → Step σ (Loop σ)}
    (h : ∀ l, Keeps l.request l (part l)) : Behaves part :=
  fun l => (h l).behind (start_behind l)

theorem swdRead_behaves (request : Request) (value : UInt32) :
    Behaves (swdRead L request value) := by
  have hread : Behaves fun l => swdReadPosted L value l >>= fun l₁ =>
      if has value DAP_TRANSFER_MATCH_VALUE then swdReadMatch L request value l₁
      else swdReadNormal L value l₁ := by
    apply Behaves.after fun l => swdReadPosted_keeps L value (start_behind l)
    intro l
    split
    · exact swdReadMatch_behaves L request value l
    · exact behaves_of_keeps (fun l => swdReadNormal_keeps L value (start_behind l)) l
  intro l
  rw [swdRead_eq]
  exact Ends.bind (hread l) fun l₁ h => h

theorem jtagRead_behaves (request : Request) (value : UInt32) :
    Behaves (jtagRead L request value) := by
  apply Behaves.after fun l => jtagReadPosted_keeps L value (start_behind l)
  intro l
  split
  · exact jtagReadMatch_behaves L request value l
  · exact behaves_of_keeps (fun l => jtagReadNormal_keeps L value (start_behind l)) l

theorem write_behaves (request : Request) (value : UInt32)
    {flush register : Loop σ → Step σ (Loop σ)} (hflush : ∀ l, Keeps l.request l (flush l))
    (hregister : ∀ {i} {l : Loop σ}, Behind i l → Keeps i l (register l)) :
    Behaves fun l => flush l >>= fun l₁ =>
      if has value DAP_TRANSFER_MATCH_MASK then pure (writeMatchMask (loadData request l₁))
      else register (loadData request l₁) := by
  apply Behaves.after hflush
  intro l
  have hload : Behind l.request (loadData request l) := .inr rfl
  split
  · exact hload
  · exact (hregister hload).behind hload

theorem swdWrite_behaves (request : Request) (value : UInt32) :
    Behaves (swdWrite L request value) := by
  have hwrite := write_behaves request value
    (fun l => swdFlush_keeps L (start_behind l)) (swdRegister_keeps L value)
  intro l
  rw [swdWrite_eq]
  exact hwrite l

theorem jtagWrite_behaves (request : Request) (value : UInt32) :
    Behaves (jtagWrite L request value) := by
  have hwrite := write_behaves request value
    (fun l => jtagFlush_keeps L (start_behind l)) (jtagRegister_keeps L value)
  intro l
  rw [jtagWrite_eq]
  exact hwrite l

/-- A round that is left by `break` has taken the value of its transfer, and its data or not. -/
def Halts (round : Loop σ → Step σ (Loop σ)) : Prop := ∀ l,
  Ends (fun _ => True) (Behind (l.request + 1)) (round l)

theorem round_halts {request : Request} {read write : UInt32 → Loop σ → Step σ (Loop σ)}
    (hread : ∀ value, Behaves (read value)) (hwrite : ∀ value, Behaves (write value)) :
    Halts fun l =>
      (if has (request l.request).toUInt32 DAP_TRANSFER_RnW then
        read (request l.request).toUInt32 (l.skip 1)
      else write (request l.request).toUInt32 (l.skip 1)) >>= countTransfer L := by
  intro l
  have hround : Ends (Behind (l.request + 1)) (Behind (l.request + 1))
      (if has (request l.request).toUInt32 DAP_TRANSFER_RnW then
        read (request l.request).toUInt32 (l.skip 1)
      else write (request l.request).toUInt32 (l.skip 1)) := by
    split
    · exact hread _ (l.skip 1)
    · exact hwrite _ (l.skip 1)
  refine Ends.bind hround ?_
  intro l₁ h
  rw [countTransfer]
  split
  · exact h
  · trivial

theorem swdRound_halts (request : Request) : Halts (swdRound L request) := by
  rw [swdRound_eq]
  exact round_halts L (swdRead_behaves L request) (swdWrite_behaves L request)

theorem jtagRound_halts (request : Request) : Halts (jtagRound L request) := by
  rw [jtagRound_eq]
  exact round_halts L (jtagRead_behaves L request) (jtagWrite_behaves L request)

/-- No round of the loop over the transfers is left by `break`. -/
def RunsThrough (round : Loop σ → Step σ (Loop σ)) : Nat → Loop σ → Prop
  | 0, _ => True
  | n + 1, l => ∃ l', round l = .ok l' ∧ RunsThrough round n l'

section Walk

variable {request : Request} {round : Loop σ → Step σ (Loop σ)}
  (hround : RoundSpec request round)

include hround

theorem round_request {l l' : Loop σ} (h : round l = .ok l') :
    l'.request = l.request + itemLength (request l.request).toUInt32 := by
  have hspec := hround l
  rw [h] at hspec
  exact hspec.1.request

theorem transferLoop_through {n : Nat} {l : Loop σ} (h : RunsThrough round n l) :
    (cancelRequests request (transferLoop round n l)).request =
      l.request + itemsLength request n l.request := by
  induction n generalizing l with
  | zero => rfl
  | succ n ih =>
      obtain ⟨l', hl', hrest⟩ := h
      rw [transferLoop, hl', itemsLength, ← Nat.add_assoc, ← round_request hround hl']
      exact ih hrest

theorem transferLoop_left (hhalts : Halts round) {n : Nat} {l : Loop σ}
    (h : ¬ RunsThrough round n l) : ∃ k ≤ n + 1,
    (cancelRequests request (transferLoop round n l)).request = l.request + n + 1 + 4 * k := by
  induction n generalizing l with
  | zero => exact absurd trivial h
  | succ n ih =>
      rw [transferLoop]
      cases hl : round l with
      | ok l' =>
          have hrest : ¬ RunsThrough round n l' := fun hrest => h ⟨l', hl, hrest⟩
          obtain ⟨k, hk, hrequest⟩ := ih hrest
          dsimp only
          rw [hrequest, round_request hround hl]
          rcases itemLength_or (request l.request).toUInt32 with hitem | hitem
          · exact ⟨k, by omega, by omega⟩
          · exact ⟨k + 1, by omega, by omega⟩
      | error l' =>
          have hbehind := hhalts l
          rw [hl] at hbehind
          obtain ⟨k, hk, hitems⟩ := itemsLength_bounds request (n + 1) l'.request
          dsimp only
          rw [cancelRequests]
          dsimp only
          rw [skipRequests_eq, hitems]
          rcases hbehind with hbehind | hbehind
          · exact ⟨k, by omega, by omega⟩
          · exact ⟨k + 1, by omega, by omega⟩

theorem transferLoop_request_iff (hhalts : Halts round) (n : Nat) (l : Loop σ) :
    (cancelRequests request (transferLoop round n l)).request =
      l.request + itemsLength request n l.request ↔ RunsThrough round n l := by
  constructor
  · intro hrequest
    by_contra h
    obtain ⟨k, -, hleft⟩ := transferLoop_left hround hhalts h
    obtain ⟨k', -, hitems⟩ := itemsLength_bounds request n l.request
    omega
  · exact transferLoop_through hround

theorem transferLoop_request_lt (hhalts : Halts round) {n : Nat} (hn : n < 256) (l : Loop σ) :
    (cancelRequests request (transferLoop round n l)).request ≤ l.request + 1300 := by
  by_cases h : RunsThrough round n l
  · obtain ⟨k, hk, hitems⟩ := itemsLength_bounds request n l.request
    rw [transferLoop_through hround h, hitems]
    omega
  · obtain ⟨k, hk, hleft⟩ := transferLoop_left hround hhalts h
    omega

end Walk

theorem transferBytes_le (request : Request) (n i : Nat) (mask : UInt32) :
    transferBytes request n i mask ≤ 8 * n := by
  have hrequest : ∀ value, requestBytes value ≤ 8 := by
    intro value
    have hstamp : timestampBytes value ≤ 4 := by
      rw [timestampBytes]
      split <;> omega
    rw [requestBytes]
    split <;> split <;> omega
  induction n generalizing i mask with
  | zero => exact Nat.le_refl 0
  | succ n ih =>
      rw [transferBytes]
      split
      · exact Nat.zero_le _
      · have hvalue := hrequest (request i).toUInt32
        have hrest := ih (i + 1 + operandBytes (request i).toUInt32) (nextMask request i mask)
        omega

theorem counts_high {a b : Nat} (ha : a < 65536) (hb : b < 65536) :
    (counts (UInt32.ofNat a) (UInt32.ofNat b) >>> 16).toNat = a := by
  have hlow : b >>> 16 = 0 := by
    rw [Nat.shiftRight_eq_div_pow]
    omega
  have hhigh : (a <<< 16 % 2 ^ 32) >>> 16 = a := by
    rw [Nat.shiftRight_eq_div_pow, Nat.shiftLeft_eq]
    omega
  rw [counts, UInt32.toNat_shiftRight, UInt32.toNat_or, UInt32.toNat_shiftLeft,
    UInt32.toNat_ofNat_of_lt' (Nat.lt_trans ha (by decide)),
    UInt32.toNat_ofNat_of_lt' (Nat.lt_trans hb (by decide))]
  show (a <<< 16 % 2 ^ 32 ||| b) >>> 16 = a
  rw [Nat.shiftRight_or_distrib, hlow, hhigh, Nat.or_zero]

theorem swdFinish_request (l : Loop σ) : (swdFinish L l).request = l.request := by
  rw [swdFinish]
  split
  · rfl
  · split
    · dsimp only
      split <;> rfl
    · split <;> rfl

theorem jtagFinish_request (l : Loop σ) : (jtagFinish L l).request = l.request := by
  have hselect := (selectIr_frame L JTAG_DPACC l).request
  rw [jtagFinish]
  split
  · rfl
  · dsimp only
    split
    · split
      · exact hselect
      · exact hselect
    · exact hselect

theorem transferEnd_taken_iff {request : Request} {round : Loop σ → Step σ (Loop σ)}
    {finish : Loop σ → Loop σ} (hround : RoundSpec request round) (hhalts : Halts round)
    (hrequest : ∀ l, (finish l).request = l.request)
    (hfinish : ∀ l, (finish l).response.length ≤ due l) (s : State σ) :
    ((transferEnd L request round finish s).num >>> 16).toNat = bodyLength request ↔
      RunsThrough round (request 1).toNat (startLoop L 2 s) := by
  have hcount : (request 1).toNat < 256 := (request 1).toNat_lt
  have hlength := transferEnd_length L hround hfinish s
  have hbytes := transferBytes_le request (request 1).toNat 2 s.dapData.transfer.matchMask
  have hlt := transferLoop_request_lt hround hhalts hcount (startLoop L 2 s)
  have hstart : (startLoop L 2 s).request = 2 := rfl
  rw [← transferLoop_request_iff hround hhalts, hstart, ← bodyLength]
  rw [hstart] at hlt
  rw [transferEnd, transferReply] at hlength ⊢
  rw [List.length_append] at hlength
  dsimp only at hlength ⊢
  rw [counts_high, hrequest]
  · rw [hrequest]
    omega
  · simp only [List.length_cons, List.length_nil] at hlength
    omega

/-- The loop of the port that is used runs through. A port that does not exist has none. -/
def Unbroken (request : Request) (s : State σ) : Prop :=
  if s.dapData.debugPort = DAP_PORT_SWD then
    RunsThrough (swdRound L request) (request 1).toNat (startLoop L 2 s)
  else if s.dapData.debugPort = DAP_PORT_JTAG then
    request 0 < s.dapData.jtagDev.count ∧
      RunsThrough (jtagRound L request) (request 1).toNat
        (startLoop L 2 (setJtagIndex (request 0) s))
  else True

theorem dapTransfer_taken_iff (request : Request) (s : State σ) :
    ((dapTransfer L request s).num >>> 16).toNat = bodyLength request ↔ Unbroken L request s := by
  rw [dapTransfer, Unbroken]
  by_cases hswd : s.dapData.debugPort = DAP_PORT_SWD
  · rw [if_pos (by simpa using hswd), if_pos hswd]
    exact transferEnd_taken_iff L (swdRound_spec L request) (swdRound_halts L request)
      (swdFinish_request L) (swdFinish_response L) s
  · rw [if_neg (by simpa using hswd), if_neg hswd]
    by_cases hjtag : s.dapData.debugPort = DAP_PORT_JTAG
    · rw [if_pos (by simpa using hjtag), if_pos hjtag, dapJtagTransfer]
      dsimp only
      rw [validIndex_set]
      by_cases hindex : request 0 < s.dapData.jtagDev.count
      · rw [decide_eq_true hindex, and_iff_right hindex]
        exact transferEnd_taken_iff L (jtagRound_spec L request) (jtagRound_halts L request)
          (jtagFinish_request L) (jtagFinish_response L) _
      · rw [decide_eq_false hindex]
        refine iff_of_false ?_ fun h => hindex h.1
        have hone : (counts (UInt32.ofNat 1) (UInt32.ofNat 2) >>> 16).toNat = 1 :=
          counts_high (by decide) (by decide)
        intro h
        have hbody : 2 ≤ bodyLength request := Nat.le_add_right 2 _
        rw [← h] at hbody
        exact absurd (Nat.le_trans hbody (Nat.le_of_eq hone)) (by decide)
    · rw [if_neg (by simpa using hjtag), if_neg hjtag, dapDummyTransfer]
      refine iff_of_true ?_ trivial
      have hcount : (request 1).toNat < 256 := (request 1).toNat_lt
      obtain ⟨k, hk, hitems⟩ := itemsLength_bounds request (request 1).toNat 2
      have htwo : (2 : UInt32) = UInt32.ofNat 2 := rfl
      dsimp only
      rw [skipRequests_eq, ← bodyLength, htwo, counts_high _ (by decide)]
      rw [bodyLength]
      omega

theorem bodyLength_le (request : Request) : bodyLength request ≤ 1277 := by
  have hcount : (request 1).toNat < 256 := (request 1).toNat_lt
  obtain ⟨k, hk, hitems⟩ := itemsLength_bounds request (request 1).toNat 2
  rw [bodyLength, hitems]
  omega

theorem high_toNat (n : UInt32) : (n >>> 16).toNat = n.toNat / 65536 := by
  rw [UInt32.toNat_shiftRight]
  exact Nat.shiftRight_eq_div_pow n.toNat 16

theorem counts_one_high {n : UInt32} (h : (n &&& 0xFFFF).toNat < 65535) :
    ((counts 1 1 + n) >>> 16).toNat = (1 + (n >>> 16).toNat) % 65536 := by
  have hone : (counts 1 1).toNat = 65537 := by decide
  have hlt := n.toNat_lt
  rw [low_toNat] at h
  rw [high_toNat, high_toNat, UInt32.toNat_add, hone]
  omega

variable (t : Target)

theorem dapProcessCommand_transfer {request : Request} (h : request 0 = ID_DAP_Transfer)
    (s : State σ) : (dapProcessCommand t L request s).num =
      counts 1 1 + (dapTransfer L (request.from 1) s).num := by
  rw [dapProcessCommand, h]
  rfl

theorem transfer_taken_iff (request : Request) (h : request 0 = ID_DAP_Transfer) (s : State σ) :
    ((dapProcessCommand t L request s).num >>> 16).toUInt16.toNat =
      1 + bodyLength (request.from 1) ↔ Unbroken L (request.from 1) s := by
  have hexact := dapTransfer_exact L (request.from 1) s
  have hlength := dapTransfer_length L (request.from 1) s
  have hlongest : longestTransfer (request.from 1) s.dapData ≤ 2042 := by
    have hcount : (request.from 1 1).toNat < 256 := (request.from 1 1).toNat_lt
    have hbytes := transferBytes_le (request.from 1) (request.from 1 1).toNat 2
      s.dapData.transfer.matchMask
    rw [longestTransfer]
    split <;> omega
  have hbody := bodyLength_le (request.from 1)
  rw [← dapTransfer_taken_iff, dapProcessCommand_transfer L t h]
  generalize dapTransfer L (request.from 1) s = reply at hexact hlength ⊢
  rw [Exact] at hexact
  have hhigh : (reply.num >>> 16).toNat < 65536 := by
    have hlt := reply.num.toNat_lt
    rw [high_toNat]
    omega
  rw [UInt32.toNat_toUInt16, counts_one_high (by omega)]
  omega

/-- Something of every command of a batch: its offset, that of the next command, and the state. -/
def AlongBatch (request : Request) (P : Nat → Nat → State σ → Prop) : Nat → Nat → State σ → Prop
  | 0, _, _ => True
  | cnt + 1, i, s =>
      let reply := dapProcessCommand t L (request.from i) s
      let next := i + (reply.num >>> 16).toUInt16.toNat
      P i next s ∧ AlongBatch request P cnt next reply.state

theorem alongBatch_congr {request : Request} {P Q : Nat → Nat → State σ → Prop}
    (h : ∀ i s, let reply := dapProcessCommand t L (request.from i) s
      let next := i + (reply.num >>> 16).toUInt16.toNat
      P i next s ↔ Q i next s) (cnt i : Nat) (s : State σ) :
    AlongBatch L t request P cnt i s ↔ AlongBatch L t request Q cnt i s := by
  induction cnt generalizing i s with
  | zero => exact Iff.rfl
  | succ cnt ih =>
      rw [AlongBatch, AlongBatch]
      exact and_congr (h i s) (ih _ _)

/-- The command behind a `DAP_Transfer` is decoded at its first byte. -/
def DecodesNext (request : Request) (i next : Nat) (_ : State σ) : Prop :=
  request i = ID_DAP_Transfer → next = i + 1 + bodyLength (request.from (i + 1))

def TransferUnbroken (request : Request) (i _next : Nat) (s : State σ) : Prop :=
  request i = ID_DAP_Transfer → Unbroken L (request.from (i + 1)) s

theorem from_from (request : Request) (i j : Nat) :
    (request.from i).from j = request.from (i + j) := by
  funext k
  exact congrArg request (Nat.add_assoc i j k).symm

/-- The reported length of a transfer is right, by itself and in a batch, exactly when no round of
its loop is left by `break` and its device exists. -/
theorem reportedLength_iff (request : Request) (s : State σ) :
    (((dapTransfer L request s).num >>> 16).toNat = bodyLength request ↔ Unbroken L request s) ∧
    (AlongBatch L t request (DecodesNext request) (request 1).toNat 2 s ↔
      AlongBatch L t request (TransferUnbroken L request) (request 1).toNat 2 s) := by
  refine ⟨dapTransfer_taken_iff L request s, alongBatch_congr L t ?_ _ _ _⟩
  intro i s
  apply imp_congr_right
  intro hid
  have htaken := transfer_taken_iff L t (request.from i) hid s
  rw [from_from] at htaken
  rw [← htaken]
  omega

def faultingRead : Request := fun i => if i = 1 then 1 else if i = 2 then 0x02 else 0

def swdState : State Unit := ⟨{ dapSetup .esp32 with debugPort := DAP_PORT_SWD }, .gpioNormal, ()⟩

/-- Eight bytes are reported for a body of three. -/
theorem not_reportedLength_fault :
    ((dapTransfer idleLink faultingRead swdState).num >>> 16).toNat ≠ bodyLength faultingRead := by
  decide

end WirelessEsp.TransferLength
