import WirelessEsp.ObligingTarget

namespace WirelessEsp.TransferBound

open DapTypes DapProbe DapTransfer TransferSteps TransferRounds ObligingTarget

variable {σ : Type} (L : Link σ)

def live (request : Request) (d : DapData) : Bool :=
  d.debugPort == DAP_PORT_SWD || d.debugPort == DAP_PORT_JTAG && request 0 < d.jtagDev.count

def longestTransfer (request : Request) (d : DapData) : Nat :=
  2 + if live request d then transferBytes request (request 1).toNat 2 d.transfer.matchMask else 0

def blockBytes (value : UInt32) (count : Nat) : Nat :=
  if has value DAP_TRANSFER_RnW then 4 * count else 0

def longestBlock (request : Request) (d : DapData) : Nat :=
  3 + if live request d then blockBytes (request 3).toUInt32 (request.half 1).toNat else 0

/-- The end of `DAP_SWD_Transfer` and of `DAP_JTAG_Transfer`. -/
def transferEnd (request : Request) (round : Loop σ → Step σ (Loop σ)) (finish : Loop σ → Loop σ)
    (s : State σ) : Reply σ :=
  transferReply (finish
    (cancelRequests request (transferLoop round (request 1).toNat (startLoop L 2 s))))

theorem transferEnd_length {request : Request} {round : Loop σ → Step σ (Loop σ)}
    {finish : Loop σ → Loop σ} (hround : RoundSpec request round)
    (hfinish : ∀ l, (finish l).response.length ≤ due l) (s : State σ) :
    (transferEnd L request round finish s).bytes.length ≤
      2 + transferBytes request (request 1).toNat 2 s.dapData.transfer.matchMask := by
  have hloop := transferLoop_due hround (request 1).toNat (startLoop L 2 s)
  have hstart : due (startLoop L 2 s) = 0 := rfl
  rw [hstart, Nat.zero_add] at hloop
  rw [transferEnd, transferReply, List.length_append]
  exact Nat.add_le_add_left (Nat.le_trans (hfinish (cancelRequests request _)) hloop) 2

theorem transferEnd_obliging {request : Request}
    {round : Loop (List UInt32) → Step (List UInt32) (Loop (List UInt32))}
    {finish : Loop (List UInt32) → Loop (List UInt32)} (hround : RoundSpec request round)
    (hobliges : RoundObliges request round)
    (hfinish : ∀ l, Readable l → (finish l).response.length = due l) {s : State (List UInt32)}
    (hworld : s.world = matchValues request (request 1).toNat 2) :
    (transferEnd obliging request round finish s).bytes.length =
      2 + transferBytes request (request 1).toNat 2 s.dapData.transfer.matchMask := by
  obtain ⟨hdue, hreadable⟩ := @transferLoop_obliging request round hround hobliges
    (request 1).toNat (startLoop obliging 2 s) hworld (.inr rfl)
  have hstart : due (startLoop obliging 2 s) = 0 := rfl
  rw [hstart, Nat.zero_add] at hdue
  have hlength := hfinish (cancelRequests request (transferLoop round (request 1).toNat
    (startLoop obliging 2 s))) hreadable
  rw [transferEnd, transferReply, List.length_append, hlength]
  exact congrArg (2 + ·) hdue

theorem validIndex_set (index : UInt8) (s : State σ) :
    validIndex (setJtagIndex index s).dapData = decide (index < s.dapData.jtagDev.count) := rfl

theorem dapTransfer_length (request : Request) (s : State σ) :
    (dapTransfer L request s).bytes.length ≤ longestTransfer request s.dapData := by
  rw [dapTransfer, longestTransfer, live]
  by_cases hswd : (s.dapData.debugPort == DAP_PORT_SWD) = true
  · rw [if_pos hswd, hswd]
    exact transferEnd_length L (swdRound_spec L request) (swdFinish_response L) s
  · rw [if_neg hswd, Bool.eq_false_iff.mpr hswd]
    by_cases hjtag : (s.dapData.debugPort == DAP_PORT_JTAG) = true
    · rw [if_pos hjtag, hjtag, dapJtagTransfer]
      dsimp only
      rw [validIndex_set]
      by_cases hindex : request 0 < s.dapData.jtagDev.count
      · rw [decide_eq_true hindex]
        exact transferEnd_length L (jtagRound_spec L request) (jtagFinish_response L) _
      · rw [decide_eq_false hindex]
        exact Nat.le_add_right 2 _
    · rw [if_neg hjtag]
      exact Nat.le_add_right 2 _

theorem dapTransfer_obliging (request : Request) {s : State (List UInt32)}
    (hworld : s.world = matchValues request (request 1).toNat 2) :
    (dapTransfer obliging request s).bytes.length = longestTransfer request s.dapData := by
  rw [dapTransfer, longestTransfer, live]
  by_cases hswd : (s.dapData.debugPort == DAP_PORT_SWD) = true
  · rw [if_pos hswd, hswd]
    exact transferEnd_obliging (swdRound_spec obliging request) (swdRound_obliges request)
      (fun l => swdFinish_obliging) hworld
  · rw [if_neg hswd, Bool.eq_false_iff.mpr hswd]
    by_cases hjtag : (s.dapData.debugPort == DAP_PORT_JTAG) = true
    · rw [if_pos hjtag, hjtag, dapJtagTransfer]
      dsimp only
      rw [validIndex_set]
      by_cases hindex : request 0 < s.dapData.jtagDev.count
      · rw [decide_eq_true hindex]
        exact transferEnd_obliging (jtagRound_spec obliging request) (jtagRound_obliges request)
          (fun l => jtagFinish_obliging) hworld
      · rw [decide_eq_false hindex]
        rfl
    · rw [if_neg hjtag, Bool.eq_false_iff.mpr hjtag]
      rfl

/-- A step that makes the response longer by `n` bytes when it is not left. -/
def Grows (n : Nat) (l : Loop σ) : Step σ (Loop σ) → Prop :=
  Ends (fun l' => l'.response.length = l.response.length + n)
    fun l' => l'.response.length ≤ l.response.length + n

theorem Grows.check {l l' : Loop σ} (hresponse : l'.response = l.response) {n : Nat}
    {f : Loop σ → Step σ (Loop σ)} (hf : Grows n l (f l')) : Grows n l (l'.check >>= f) := by
  refine Ends.bind (check_ends ?_) ?_
  · rw [hresponse]
    exact Nat.le_add_right _ _
  · rintro l₁ ⟨rfl, -⟩
    exact hf

theorem Grows.of {m n : Nat} {l l' : Loop σ} {x : Step σ (Loop σ)} (h : Grows m l' x)
    (hlen : l'.response.length + m = l.response.length + n) : Grows n l x :=
  Ends.mono h (fun _ hl => Eq.trans hl hlen) fun _ hl => Nat.le_trans hl (Nat.le_of_eq hlen)

theorem readBlock_grows (access : Access σ) (value last : UInt32) {select : Loop σ → Loop σ}
    (hselect : ∀ l, (select l).response = l.response) (n : Nat) (l : Loop σ) :
    Grows (4 * n) l (readBlock L access value last select n l) := by
  induction n generalizing l with
  | zero => exact rfl
  | succ n ih =>
      have hresponse : (if n = 0 then select l else l).response = l.response := by
        split
        · exact hselect l
        · rfl
      rw [readBlock]
      dsimp only
      generalize (if n = 0 then select l else l) = l₁ at hresponse ⊢
      have haccess : (l₁.access L access (if n = 0 then last else value) true).response =
          l.response := hresponse
      apply Grows.check haccess
      apply (ih _).of
      show (_ ++ storeWord _).length + 4 * n = _
      rw [List.length_append, storeWord_length, haccess]
      omega

theorem writeBlock_grows (access : Access σ) (request : Request) (value : UInt32) (n : Nat)
    (l : Loop σ) : Grows 0 l (writeBlock L access request value n l) := by
  induction n generalizing l with
  | zero => exact rfl
  | succ n ih =>
      have haccess : ((loadData request l).access L access value true).response = l.response := rfl
      rw [writeBlock]
      apply Grows.check haccess
      exact (ih _).of (congrArg (List.length · + 0) haccess)

theorem swdBlock_grows (request : Request) (value : UInt32) (count : Nat) (l : Loop σ) :
    Grows (blockBytes value count) l (swdBlock L request value count l) := by
  have hid : ∀ l : Loop σ, (id l).response = l.response := fun _ => rfl
  rw [swdBlock, blockBytes]
  split
  · split
    · have haccess : (l.access L (swdTransfer L) value false).response = l.response := rfl
      apply Grows.check haccess
      exact (readBlock_grows L _ value rdbuff hid count _).of (by rw [haccess])
    · exact readBlock_grows L _ value value hid count l
  · refine Ends.bind (writeBlock_grows L _ request value count l) ?_
    intro l' h
    exact h

theorem jtagBlock_grows (request : Request) (value : UInt32) (count : Nat) (l : Loop σ) :
    Grows (blockBytes value count) l (jtagBlock L request value count l) := by
  have hselect : ∀ l : Loop σ, (l.selectIr L JTAG_DPACC).response = l.response :=
    fun l => (selectIr_frame L JTAG_DPACC l).response
  rw [jtagBlock, blockBytes]
  generalize hl : ({ l with
    ir := irOf value, state := l.state.onWorld (L.jtagIr l.state.dapData (irOf value)) } : Loop σ) = l₁
  have hresponse : l₁.response = l.response := hl ▸ rfl
  split
  · have haccess : (l₁.access L (jtagTransfer L) value false).response = l.response := hresponse
    apply Grows.check haccess
    exact (readBlock_grows L _ value rdbuff hselect count _).of (by rw [haccess])
  · refine Ends.bind ((writeBlock_grows L _ request value count l₁).of (by rw [hresponse])) ?_
    intro l' h
    exact (congrArg List.length (hselect l')).trans h

/-- A step that is not left. -/
def Completes : Step σ (Loop σ) → Prop := Ends (fun _ => True) fun _ => False

theorem readBlock_completes {access : Access (List UInt32)} (haccess : Obliges access)
    (value last : UInt32) (select : Loop (List UInt32) → Loop (List UInt32)) (n : Nat)
    (l : Loop (List UInt32)) : Completes (readBlock obliging access value last select n l) := by
  induction n generalizing l with
  | zero => exact True.intro
  | succ n ih =>
      rw [readBlock]
      dsimp only
      rw [check_obliging haccess]
      exact ih _

theorem writeBlock_completes {access : Access (List UInt32)} (haccess : Obliges access)
    (request : Request) (value : UInt32) (n : Nat) (l : Loop (List UInt32)) :
    Completes (writeBlock obliging access request value n l) := by
  induction n generalizing l with
  | zero => exact True.intro
  | succ n ih =>
      rw [writeBlock, check_obliging haccess]
      exact ih _

theorem swdBlock_completes (request : Request) (value : UInt32) (count : Nat)
    (l : Loop (List UInt32)) : Completes (swdBlock obliging request value count l) := by
  have haccess := swdTransfer_obliges
  rw [swdBlock]
  split
  · split
    · rw [check_obliging haccess]
      exact readBlock_completes haccess value rdbuff id count _
    · exact readBlock_completes haccess value value id count l
  · exact Ends.bind (writeBlock_completes haccess request value count l) fun _ h => h

theorem jtagBlock_completes (request : Request) (value : UInt32) (count : Nat)
    (l : Loop (List UInt32)) : Completes (jtagBlock obliging request value count l) := by
  have haccess := jtagTransfer_obliges
  rw [jtagBlock]
  split
  · rw [check_obliging haccess]
    exact readBlock_completes haccess value rdbuff _ count _
  · exact Ends.bind (writeBlock_completes haccess request value count _) fun _ h => h

theorem Grows.endOf_length {n : Nat} {l : Loop σ} {x : Step σ (Loop σ)} (h : Grows n l x) :
    (endOf x).response.length ≤ l.response.length + n := by
  cases x with
  | ok l' => exact Nat.le_of_eq h
  | error l' => exact h

theorem Grows.endOf_completes {n : Nat} {l : Loop σ} {x : Step σ (Loop σ)} (h : Grows n l x)
    (hx : Completes x) : (endOf x).response.length = l.response.length + n := by
  cases x with
  | ok l' => exact h
  | error l' => exact absurd hx id

section

variable {block : UInt32 → Nat → Loop σ → Step σ (Loop σ)}
  (hblock : ∀ value count l, Grows (blockBytes value count) l (block value count l))

include hblock

theorem runBlock_length (request : Request) {l : Loop σ} (hl : l.response = []) :
    (runBlock block request l).bytes.length ≤
      3 + blockBytes (request 3).toUInt32 (request.half 1).toNat := by
  rw [runBlock]
  split
  · rw [blockReply, List.length_append, hl]
    exact Nat.le_add_right 3 _
  · have hgrows := (hblock (request 3).toUInt32 (request.half 1).toNat (l.skip 4)).endOf_length
    have hskip : (l.skip 4).response.length = 0 := congrArg List.length hl
    rw [hskip, Nat.zero_add] at hgrows
    rw [blockReply, List.length_append]
    exact Nat.add_le_add_left hgrows 3

theorem runBlock_completes (hcompletes : ∀ value count l, Completes (block value count l))
    (request : Request) {l : Loop σ} (hl : l.response = []) :
    (runBlock block request l).bytes.length =
      3 + blockBytes (request 3).toUInt32 (request.half 1).toNat := by
  rw [runBlock]
  split
  next hcount =>
    have hnone : blockBytes (request 3).toUInt32 0 = 0 := by
      rw [blockBytes]
      split <;> rfl
    rw [blockReply, List.length_append, hl, hcount, hnone]
    rfl
  next =>
    have hgrows := (hblock (request 3).toUInt32 (request.half 1).toNat (l.skip 4)).endOf_completes
      (hcompletes _ _ _)
    have hskip : (l.skip 4).response.length = 0 := congrArg List.length hl
    rw [hskip, Nat.zero_add] at hgrows
    rw [blockReply, List.length_append, hgrows]
    rfl

end

theorem dapTransferBlock_length (request : Request) (s : State σ) :
    (dapTransferBlock L request s).bytes.length ≤ longestBlock request s.dapData := by
  rw [dapTransferBlock, longestBlock, live]
  dsimp only
  by_cases hswd : (s.dapData.debugPort == DAP_PORT_SWD) = true
  · rw [if_pos hswd, hswd]
    exact runBlock_length (swdBlock_grows L request) request rfl
  · rw [if_neg hswd, Bool.eq_false_iff.mpr hswd]
    by_cases hjtag : (s.dapData.debugPort == DAP_PORT_JTAG) = true
    · rw [if_pos hjtag, hjtag, dapJtagTransferBlock]
      have hindex : validIndex (startLoop L 0 (setJtagIndex (request 0) s)).state.dapData =
          decide (request 0 < s.dapData.jtagDev.count) := rfl
      rw [hindex]
      by_cases hlt : request 0 < s.dapData.jtagDev.count
      · rw [decide_eq_true hlt]
        exact runBlock_length (jtagBlock_grows L request) request rfl
      · rw [decide_eq_false hlt]
        exact Nat.le_add_right 3 _
    · rw [if_neg hjtag]
      exact Nat.le_add_right 3 _

theorem dapTransferBlock_obliging (request : Request) (s : State (List UInt32)) :
    (dapTransferBlock obliging request s).bytes.length = longestBlock request s.dapData := by
  rw [dapTransferBlock, longestBlock, live]
  dsimp only
  by_cases hswd : (s.dapData.debugPort == DAP_PORT_SWD) = true
  · rw [if_pos hswd, hswd]
    exact runBlock_completes (swdBlock_grows obliging request) (swdBlock_completes request) request
      rfl
  · rw [if_neg hswd, Bool.eq_false_iff.mpr hswd]
    by_cases hjtag : (s.dapData.debugPort == DAP_PORT_JTAG) = true
    · rw [if_pos hjtag, hjtag, dapJtagTransferBlock]
      have hindex : validIndex (startLoop obliging 0 (setJtagIndex (request 0) s)).state.dapData =
          decide (request 0 < s.dapData.jtagDev.count) := rfl
      rw [hindex]
      by_cases hlt : request 0 < s.dapData.jtagDev.count
      · rw [decide_eq_true hlt]
        exact runBlock_completes (jtagBlock_grows obliging request) (jtagBlock_completes request)
          request rfl
      · rw [decide_eq_false hlt]
        rfl
    · rw [if_neg hjtag, Bool.eq_false_iff.mpr hjtag]
      rfl

end WirelessEsp.TransferBound
