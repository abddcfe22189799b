import WirelessEsp.DapCommand
import Mathlib.Tactic.IntervalCases

namespace WirelessEsp.ResponseCounts

open DapTypes DapProbe DapTransfer DapCommand

variable {σ : Type} (t : Target) (L : Link σ)

theorem counts_low (a b : UInt32) : counts a b &&& 0xFFFF = b &&& 0xFFFF := by
  apply UInt32.toBitVec_inj.mp
  apply BitVec.eq_of_getLsbD_eq
  intro i hi
  interval_cases i <;> simp [counts]

theorem low_toNat (n : UInt32) : (n &&& 0xFFFF).toNat = n.toNat % 65536 := by
  rw [UInt32.toNat_and]
  exact Nat.and_two_pow_sub_one_eq_mod n.toNat 16

theorem low_ofNat (n : Nat) : (UInt32.ofNat n &&& 0xFFFF).toNat = n % 65536 := by
  rw [low_toNat, UInt32.toNat_ofNat', Nat.mod_mod_of_dvd _ (by decide)]

def Exact (r : Reply σ) : Prop := (r.num &&& 0xFFFF).toNat = r.bytes.length % 65536

theorem counts_exact (taken n : UInt32) (bytes : List UInt8) (s : State σ)
    (h : (n &&& 0xFFFF).toNat = bytes.length % 65536) : Exact ⟨bytes, counts taken n, s⟩ := by
  rw [Exact, counts_low]
  exact h

theorem one_low (byte : UInt8) : ((1 : UInt32) &&& 0xFFFF).toNat = [byte].length % 65536 :=
  (by decide : ((1 : UInt32) &&& 0xFFFF).toNat = 1 % 65536)

theorem one_exact (taken : UInt32) (byte : UInt8) (s : State σ) :
    Exact ⟨[byte], counts taken 1, s⟩ :=
  counts_exact _ _ _ _ (one_low byte)

theorem replyByte_exact (taken : UInt32) (byte : UInt8) (s : State σ) :
    Exact (replyByte taken byte s) :=
  one_exact taken byte s

theorem transferReply_exact (l : Loop σ) : Exact (transferReply l) := by
  apply counts_exact
  rw [List.length_append]
  exact low_ofNat _

theorem blockReply_exact (l : Loop σ) : Exact (blockReply l) := by
  rw [Exact, blockReply, List.length_append]
  exact low_ofNat _

theorem dapTransfer_exact (request : Request) (s : State σ) :
    Exact (dapTransfer L request s) := by
  rw [dapTransfer]
  split
  · exact transferReply_exact _
  · split
    · rw [dapJtagTransfer]
      split <;> exact transferReply_exact _
    · exact counts_exact _ _ _ _ (by decide)

theorem runBlock_exact (block : UInt32 → Nat → Loop σ → Step σ (Loop σ)) (request : Request)
    (l : Loop σ) : Exact (runBlock block request l) := by
  rw [runBlock]
  split <;> exact blockReply_exact _

theorem or_shiftLeft_low (a b : UInt32) : (b ||| a <<< 16) &&& 0xFFFF = b &&& 0xFFFF := by
  rw [UInt32.or_comm]
  exact counts_low a b

theorem dapTransferBlock_exact (request : Request) (s : State σ) :
    Exact (dapTransferBlock L request s) := by
  rw [dapTransferBlock, Exact, or_shiftLeft_low]
  split
  · exact runBlock_exact _ _ _
  · split
    · rw [dapJtagTransferBlock]
      split
      · exact runBlock_exact _ _ _
      · exact blockReply_exact _
    · exact (by decide : (3 &&& 0xFFFF : UInt32).toNat = 3 % 65536)

theorem dapWriteAbort_exact (request : Request) (s : State σ) :
    Exact (dapWriteAbort L request s) := by
  rw [dapWriteAbort]
  apply counts_exact
  split
  · exact one_low _
  · split
    · rw [dapJtagWriteAbort]
      split <;> exact one_low _
    · exact one_low _

def Tracks (q : Sequence σ) : Prop := q.responseCount = UInt32.ofNat q.response.length

theorem Tracks.capture {q : Sequence σ} (h : Tracks q) (bytes : List UInt8) :
    Tracks (q.capture bytes) := by
  rw [Tracks] at h
  simp only [Tracks, Sequence.capture, h, List.length_append, UInt32.ofNat_add]

theorem swdSequence_tracks (request : Request) {q : Sequence σ} (h : Tracks q) :
    Tracks (swdSequence L request q) := by
  simp only [swdSequence]
  split
  · exact Tracks.capture h _
  · exact h

theorem jtagSequence_tracks (request : Request) {q : Sequence σ} (h : Tracks q) :
    Tracks (jtagSequence L request q) := by
  simp only [jtagSequence]
  split
  · exact Tracks.capture h _
  · exact h

theorem startSequences_tracks (s : State σ) : Tracks (startSequences s) := rfl

theorem sequenceLoop_tracks {one : Sequence σ → Sequence σ} (hone : ∀ q, Tracks q → Tracks (one q))
    (n : Nat) {q : Sequence σ} (h : Tracks q) : Tracks (sequenceLoop one n q) := by
  induction n generalizing q with
  | zero => exact h
  | succ n ih => exact ih (hone q h)

theorem Tracks.exact {q : Sequence σ} (h : Tracks q) : Exact q.reply := by
  apply counts_exact
  rw [h]
  exact low_ofNat _

theorem dapSwdSequence_exact (request : Request) (s : State σ) :
    Exact (dapSwdSequence L request s) :=
  (sequenceLoop_tracks (fun _ h => swdSequence_tracks L request h) _
    (startSequences_tracks s)).exact

theorem dapJtagSequence_exact (request : Request) (s : State σ) :
    Exact (dapJtagSequence L request s) :=
  (sequenceLoop_tracks (fun _ h => jtagSequence_tracks L request h) _
    (startSequences_tracks s)).exact

theorem dapConnect_exact (request : Request) (s : State σ) :
    Exact (dapConnect L request s) := by
  rw [dapConnect]
  split
  · exact replyByte_exact _ _ _
  · split <;> exact replyByte_exact _ _ _

theorem dapHostStatus_exact (request : Request) (s : State σ) :
    Exact (dapHostStatus request s) := by
  rw [dapHostStatus]
  split <;> exact replyByte_exact _ _ _

theorem dapSwjClock_exact (request : Request) (s : State σ) :
    Exact (dapSwjClock t L request s) := by
  rw [dapSwjClock]
  split
  · exact replyByte_exact _ _ _
  · split
    · exact replyByte_exact _ _ _
    · split <;> exact replyByte_exact _ _ _

theorem dapJtagIdCode_exact (request : Request) (s : State σ) :
    Exact (dapJtagIdCode L request s) := by
  rw [dapJtagIdCode]
  split
  · exact replyByte_exact _ _ _
  · simp only
    split
    · exact counts_exact _ _ _ _ (by decide : (5 &&& 0xFFFF : UInt32).toNat = 5 % 65536)
    · exact replyByte_exact _ _ _

theorem command_exact {id : UInt8} {request : Request} {s : State σ} {reply : Reply σ}
    (h : command t L id request s = some reply) : Exact reply := by
  unfold command at h
  split at h <;> cases h
  · exact dapHostStatus_exact request s
  · exact dapConnect_exact L request s
  · exact one_low _
  · exact replyByte_exact _ _ _
  · exact (by decide : (2 &&& 0xFFFF : UInt32).toNat = 2 % 65536)
  · exact replyByte_exact _ _ _
  · exact dapSwjClock_exact t L request s
  · exact one_exact _ _ _
  · exact replyByte_exact _ _ _
  · exact dapSwdSequence_exact L request s
  · exact dapJtagSequence_exact L request s
  · exact one_exact _ _ _
  · exact dapJtagIdCode_exact L request s
  · exact replyByte_exact _ _ _
  · exact dapTransfer_exact L request s
  · exact dapTransferBlock_exact L request s
  · exact dapWriteAbort_exact L request s

theorem add_low (a b : UInt32) :
    ((a + b) &&& 0xFFFF).toNat = ((a &&& 0xFFFF).toNat + (b &&& 0xFFFF).toNat) % 65536 := by
  rw [low_toNat, low_toNat, low_toNat, UInt32.toNat_add]
  omega

theorem dapInfo_length (id : UInt8) : (dapInfo id).length < 256 := by
  unfold dapInfo
  split <;> decide

theorem dapProcessCommand_exact (request : Request) (s : State σ) :
    Exact (dapProcessCommand t L request s) := by
  rw [dapProcessCommand]
  split
  · exact one_exact _ _ _
  · split
    · have hnum : ((UInt8.ofNat (dapInfo (request 1)).length).toUInt32 &&& 0xFFFF).toNat =
          (dapInfo (request 1)).length := by
        have hlength := dapInfo_length (request 1)
        rw [low_toNat, UInt8.toNat_toUInt32, UInt8.toNat_ofNat']
        omega
      have htwo : (counts 2 2 &&& 0xFFFF).toNat = 2 := rfl
      rw [Exact, add_low, hnum, htwo, List.length_cons, List.length_cons, Nat.add_comm]
    · split
      next reply h =>
        have hone : (counts 1 1 &&& 0xFFFF).toNat = 1 := rfl
        rw [Exact, add_low, hone, command_exact t L h, List.length_cons, Nat.add_mod_mod,
          Nat.add_comm]
      next => exact one_exact _ _ _

end WirelessEsp.ResponseCounts
