import WirelessEsp.KcpDatagrams
import WirelessEsp.KcpSettings

namespace WirelessEsp.Kcp

open MessageParts

inductive Call
  | send (buffer : List UInt8)
  | recv (len : Int)
  | update (current : UInt32)
  | flush
  | nodelay (nodelay interval resend nc : Int)
  | interval (interval : Int)
  | wndsize (sndwnd rcvwnd : Int)
  | setmtu (mtu : Int)
deriving DecidableEq

/-- The buffer for the new packet size has room for a packet, which its size in 32 bits need not
have, and no segment that waits is longer than a packet. -/
def mtuAllowed (mtu : Int) (kcp : Ikcpcb) : Prop :=
  mtu < 2 ^ 31 ∧ mtu ≤ (bufferSize (UInt32.ofNat mtu.toNat)).toNat ∧
    ∀ seg ∈ kcp.sndQueue ++ kcp.sndBuf, ((IKCP_OVERHEAD + seg.data.length : Nat) : Int) ≤ mtu

instance (mtu : Int) (kcp : Ikcpcb) : Decidable (mtuAllowed mtu kcp) :=
  inferInstanceAs (Decidable (_ ∧ _ ∧ _))

/-- A call: what it leaves and the datagrams it gives to `output`. -/
def Ikcpcb.call (kcp : Ikcpcb) : Call → Option (Ikcpcb × List (List UInt8))
  | .send buffer => some ((ikcpSend buffer kcp).2, [])
  | .recv len => some ((ikcpRecv len kcp).2.2, [])
  | .update current => some (ikcpUpdate current kcp)
  | .flush => some (ikcpFlush kcp)
  | .nodelay nodelay interval resend nc => some (ikcpNodelay nodelay interval resend nc kcp, [])
  | .interval interval => some (ikcpInterval interval kcp, [])
  | .wndsize sndwnd rcvwnd => some (ikcpWndsize sndwnd rcvwnd kcp, [])
  | .setmtu mtu => if mtuAllowed mtu kcp then some ((ikcpSetmtu mtu kcp).2, []) else none

/-- What a call takes of its user to send. -/
def Call.took (kcp : Ikcpcb) : Call → List (List UInt8)
  | .send buffer => accepted buffer kcp
  | _ => []

def Call.gave (kcp : Ikcpcb) : Call → List (List UInt8)
  | .recv len => taken len kcp
  | _ => []

/-- The parts of the segments that have left `snd_queue`. -/
def passed (kcp kcp' : Ikcpcb) : List (Piece UInt8) :=
  parts (kcp.sndQueue.take (kcp.sndQueue.length - kcp'.sndQueue.length))

/-- A segment size that leaves room for data and fits an `int`. -/
def MssFits (kcp : Ikcpcb) : Prop := 0 < kcp.mss.toNat ∧ kcp.mss.toNat < 2 ^ 31

/-- One step of a control block between its two logs: what has been said stays true. -/
structure Onward (log plog : List (Piece UInt8)) (took received : List (List UInt8))
    (kcp kcp' peer : Ikcpcb) (ds : List (List UInt8)) : Prop where
  sound : Sound (log ++ passed kcp kcp') plog took received kcp' peer
  later : Later kcp kcp'
  conv : kcp'.conv = kcp.conv
  stream : kcp'.stream = kcp.stream
  mss : MssFits kcp → MssFits kcp'
  sent : ∀ d ∈ ds, Datagram (Genuine (log ++ passed kcp kcp') kcp') d

variable {log plog : List (Piece UInt8)} {took received : List (List UInt8)} {kcp kcp' peer : Ikcpcb}

theorem passed_moved {moved : List Segment} (h : kcp.sndQueue = moved ++ kcp'.sndQueue) :
    passed kcp kcp' = parts moved := by
  rw [passed, h, List.length_append, Nat.add_sub_cancel, List.take_left]

theorem passed_nil (h : kcp.sndQueue.length ≤ kcp'.sndQueue.length) : passed kcp kcp' = [] := by
  rw [passed, Nat.sub_eq_zero_of_le h]
  rfl

theorem Onward.quiet (hqueue : kcp.sndQueue.length ≤ kcp'.sndQueue.length)
    (hsound : Sound log plog took received kcp' peer) (hlater : Later kcp kcp')
    (hset : kcp'.settings = kcp.settings) : Onward log plog took received kcp kcp' peer [] := by
  simp only [Ikcpcb.settings, Prod.mk.injEq] at hset
  obtain ⟨hconv, _, hmss, hstream, _⟩ := hset
  refine ⟨?_, hlater, hconv, hstream, ?_, ?_⟩
  · rwa [passed_nil hqueue, List.append_nil]
  · rw [MssFits, MssFits, hmss]
    exact fun h => h
  · exact fun d hd => absurd hd List.not_mem_nil

theorem ikcpSend_longer (buffer : List UInt8) (kcp : Ikcpcb) :
    kcp.sndQueue.length ≤ (ikcpSend buffer kcp).2.sndQueue.length := by
  have hextend : ∀ more, (extendLast more kcp).sndQueue.length = kcp.sndQueue.length := by
    intro more
    rcases extendLast_cases 0 more kcp with ⟨_, h⟩ | ⟨front, old, hqueue, _, _, h⟩
    · rw [h]
    · rw [h, hqueue, List.length_append, List.length_append]
      rfl
  have hsend : ∀ buffer k, k.sndQueue.length ≤ (sendFragments buffer k).2.sndQueue.length := by
    intro buffer k
    rw [sendFragments]
    split
    next => exact le_rfl
    next =>
      simp only [queueFragments, List.length_append]
      exact Nat.le_add_right _ _
  rw [ikcpSend]
  split
  next =>
    dsimp only
    split
    next => exact (hextend _).ge
    next => exact (hextend _).ge.trans (hsend _ _)
  next => exact hsend _ _

theorem Onward.flushed {ds : List (List UInt8)} (hset : kcp'.settings = kcp.settings)
    (h : ∃ moved, kcp.sndQueue = moved ++ kcp'.sndQueue ∧
      Sound (log ++ parts moved) plog took received kcp' peer ∧ Later kcp kcp' ∧
      kcp'.conv = kcp.conv ∧ ∀ d ∈ ds, Datagram (Genuine (log ++ parts moved) kcp') d) :
    Onward log plog took received kcp kcp' peer ds := by
  simp only [Ikcpcb.settings, Prod.mk.injEq] at hset
  obtain ⟨hconv, _, hmss, hstream, _⟩ := hset
  obtain ⟨moved, hqueue, hsound, hlater, _, hds⟩ := h
  rw [← passed_moved hqueue] at hsound hds
  refine ⟨hsound, hlater, hconv, hstream, ?_, hds⟩
  rw [MssFits, MssFits, hmss]
  exact fun h => h

theorem ikcpNodelay_sides (nodelay interval resend nc : Int) (kcp : Ikcpcb) :
    (ikcpNodelay nodelay interval resend nc kcp).sender = kcp.sender ∧
      (ikcpNodelay nodelay interval resend nc kcp).receiver = kcp.receiver := by
  rw [ikcpNodelay]
  split <;> split <;> split <;> split <;> exact ⟨rfl, rfl⟩

theorem ikcpWndsize_sides (sndwnd rcvwnd : Int) (kcp : Ikcpcb) :
    (ikcpWndsize sndwnd rcvwnd kcp).sender = kcp.sender ∧
      (ikcpWndsize sndwnd rcvwnd kcp).receiver = kcp.receiver := by
  rw [ikcpWndsize]
  split <;> split <;> exact ⟨rfl, rfl⟩

theorem Onward.configure (h : Sound log plog took received kcp peer)
    (hsides : kcp'.sender = kcp.sender ∧ kcp'.receiver = kcp.receiver) :
    Onward log plog took received kcp kcp' peer [] := by
  obtain ⟨hsender, hreceiver⟩ := hsides
  have hqueue : kcp'.sndQueue = kcp.sndQueue := congrArg (fun t => t.1.2.2.1) hsender
  have hmss : kcp'.mss = kcp.mss := congrArg (fun t => t.1.1) hsender
  refine ⟨?_, Later.of_receiver hreceiver, ?_, ?_, ?_, ?_⟩
  · rw [passed_nil (hqueue ▸ le_rfl), List.append_nil]
    exact h.fewer (Fewer.of_sender hsender) hreceiver
  · exact congrArg (fun t => t.2.1) hsender
  · exact congrArg (fun t => t.1.2.1) hsender
  · rw [MssFits, MssFits, hmss]
    exact fun h => h
  · exact fun d hd => absurd hd List.not_mem_nil

theorem ikcpSetmtu_fields {mtu : Int} (hint : mtu < 2 ^ 31)
    (h : ¬ (mtu < 50 ∨ mtu < (IKCP_OVERHEAD : Int))) (kcp : Ikcpcb) :
    (ikcpSetmtu mtu kcp).2.mtu.toNat = mtu.toNat ∧
      (ikcpSetmtu mtu kcp).2.mss.toNat = mtu.toNat - IKCP_OVERHEAD := by
  have hover : (UInt32.ofNat IKCP_OVERHEAD).toNat = 24 := rfl
  have hover' : IKCP_OVERHEAD = 24 := rfl
  have hnat : (UInt32.ofNat mtu.toNat).toNat = mtu.toNat := by
    rw [UInt32.toNat_ofNat']
    omega
  have hle : UInt32.ofNat IKCP_OVERHEAD ≤ UInt32.ofNat mtu.toNat := by
    rw [UInt32.le_iff_toNat_le, hnat, hover]
    omega
  simp only [ikcpSetmtu, if_neg h]
  rw [UInt32.toNat_sub_of_le _ _ hle, hnat, hover, hover']
  exact ⟨rfl, rfl⟩

theorem Onward.setmtu (h : Sound log plog took received kcp peer) {mtu : Int}
    (hmtu : mtuAllowed mtu kcp) :
    Onward log plog took received kcp (ikcpSetmtu mtu kcp).2 peer [] := by
  obtain ⟨hint, -, hsegs⟩ := hmtu
  by_cases hbig : mtu < 50 ∨ mtu < (IKCP_OVERHEAD : Int)
  · have hsame : (ikcpSetmtu mtu kcp).2 = kcp := by
      rw [ikcpSetmtu, if_pos hbig]
    rw [hsame]
    exact Onward.configure h ⟨rfl, rfl⟩
  · obtain ⟨_, hmss⟩ := ikcpSetmtu_fields hint hbig kcp
    have hover : IKCP_OVERHEAD = 24 := rfl
    have hset : ikcpSetmtu mtu kcp = (0, { kcp with
        mtu := (ikcpSetmtu mtu kcp).2.mtu
        mss := (ikcpSetmtu mtu kcp).2.mss
        buffer := (ikcpSetmtu mtu kcp).2.buffer }) := by
      rw [ikcpSetmtu, if_neg hbig]
    generalize (ikcpSetmtu mtu kcp).2.mtu = m at hset
    generalize (ikcpSetmtu mtu kcp).2.mss = n at hset hmss
    generalize (ikcpSetmtu mtu kcp).2.buffer = size at hset
    rw [hset]
    obtain ⟨hs, hq, hk, hd, ha⟩ := h
    refine ⟨?_, Later.of_receiver rfl, rfl, rfl, ?_, ?_⟩
    · have hnil : passed kcp { kcp with mtu := m, mss := n, buffer := size } = [] := passed_nil le_rfl
      rw [hnil, List.append_nil]
      refine ⟨hs.congr rfl, ⟨hq.whole, hq.counted, hq.bytes, hq.messages, ?_, hq.cost, hq.number⟩,
        hk, hd.congr rfl, ha.congr rfl⟩
      intro seg hseg
      have hfit := hsegs seg (List.mem_append_left _ hseg)
      refine ⟨?_, (hq.small seg hseg).2⟩
      change seg.data.length ≤ n.toNat
      omega
    · intro _
      change 0 < n.toNat ∧ n.toNat < 2 ^ 31
      omega
    · exact fun d hd => absurd hd List.not_mem_nil

theorem call_onward (h : Sound log plog took received kcp peer) (hmss : MssFits kcp)
    (hplog : plog.length < 2 ^ 31) (htook : traffic took < 2 ^ 31)
    (hsmall : ∀ p ∈ plog, p.1 < 128) (hcounted : Counted plog) {c : Call}
    {r : Ikcpcb × List (List UInt8)} (hcall : kcp.call c = some r) :
    Onward log plog (took ++ c.took kcp) (received ++ c.gave kcp) kcp r.1 peer r.2 := by
  have hnone : took ++ [] = took ∧ received ++ [] = received := by
    exact ⟨List.append_nil _, List.append_nil _⟩
  cases c with
  | send buffer =>
      obtain rfl := Option.some.inj hcall
      rw [Call.gave, hnone.2]
      · exact Onward.quiet (ikcpSend_longer _ _) (ikcpSend_sound h hmss.1 buffer)
          (Later.of_receiver (ikcpSend_sides buffer kcp).2) (ikcpSend_settings _ _)
      · exact fun _ => Call.noConfusion
  | recv len =>
      obtain rfl := Option.some.inj hcall
      obtain ⟨hsound, hlater⟩ := ikcpRecv_sound h hplog hsmall hcounted len
      have hqueue : (ikcpRecv len kcp).2.2.sndQueue = kcp.sndQueue := by
        exact congrArg (fun t => t.1.2.2.1) (ikcpRecv_sender len kcp)
      rw [Call.took, hnone.1]
      · exact Onward.quiet (hqueue ▸ le_rfl) hsound hlater (ikcpRecv_settings _ _)
      · exact fun _ => Call.noConfusion
  | update current =>
      obtain rfl := Option.some.inj hcall
      have hon := Onward.flushed (ikcpUpdate_settings _ _) (ikcpUpdate_sound current htook hmss.2 h)
      rwa [← hnone.1, ← hnone.2] at hon
  | flush =>
      obtain rfl := Option.some.inj hcall
      have hon := Onward.flushed (ikcpFlush_settings _) (ikcpFlush_sound htook hmss.2 h)
      rwa [← hnone.1, ← hnone.2] at hon
  | nodelay nodelay interval resend nc =>
      obtain rfl := Option.some.inj hcall
      have hon := Onward.configure h (ikcpNodelay_sides nodelay interval resend nc kcp)
      rwa [← hnone.1, ← hnone.2] at hon
  | interval interval =>
      obtain rfl := Option.some.inj hcall
      have hon := @Onward.configure _ _ _ _ _ (ikcpInterval interval kcp) _ h ⟨rfl, rfl⟩
      rwa [← hnone.1, ← hnone.2] at hon
  | wndsize sndwnd rcvwnd =>
      obtain rfl := Option.some.inj hcall
      have hon := Onward.configure h (ikcpWndsize_sides sndwnd rcvwnd kcp)
      rwa [← hnone.1, ← hnone.2] at hon
  | setmtu mtu =>
      rw [Ikcpcb.call] at hcall
      split at hcall
      next hmtu =>
        obtain rfl := Option.some.inj hcall
        have hon := Onward.setmtu h hmtu
        rwa [← hnone.1, ← hnone.2] at hon
      next => exact absurd hcall (Option.some_ne_none _).symm

end WirelessEsp.Kcp
