import WirelessEsp.KcpNetwork

namespace WirelessEsp.Kcp

open MessageParts Transition LossyNetwork

variable {conv : UInt32} {stream : Side → Bool} {w : Side → Endpoint}
variable {log : List (Piece UInt8)} {received took : List (List UInt8)} {kcp peer : Ikcpcb}

/-- What the end `receiver` has got of all that the end `sender` has sent. In message mode the
messages come as they were sent; in stream mode their bytes do. Nothing is lost: when the sender
has no segment left, everything is at the other end. -/
structure Delivered (stream : Bool) (sender receiver : Endpoint) : Prop where
  bytes : receiver.received.flatten <+: sender.took.flatten
  messages : stream = false → receiver.received <+: sender.took
  all : ikcpWaitsnd sender.kcp = 0 →
    receiver.received.flatten ++ payload receiver.kcp.rcvQueue ++ payload receiver.kcp.rcvBuf =
      sender.took.flatten

theorem parts_of_all {buf : List Segment} {r : Nat}
    (hbuf : ∀ seg ∈ buf, r ≤ seg.sn.toNat ∧ log[seg.sn.toNat]? = some seg.part)
    (hsorted : buf.Pairwise (fun s t => s.sn < t.sn))
    (hall : ∀ n, r ≤ n → n < log.length → ∃ seg ∈ buf, seg.sn.toNat = n) :
    parts buf = log.drop r := by
  induction buf generalizing r with
  | nil =>
      have hend : log.length ≤ r := by
        apply Nat.le_of_not_lt
        intro hlt
        obtain ⟨seg, hseg, _⟩ := hall r le_rfl hlt
        exact absurd hseg List.not_mem_nil
      rw [List.drop_eq_nil_of_le hend]
      rfl
  | cons seg rest ih =>
      obtain ⟨⟨hle, hpart⟩, hrest⟩ := List.forall_mem_cons.mp hbuf
      obtain ⟨hfirst, hpair⟩ := List.pairwise_cons.mp hsorted
      obtain ⟨hlt, hget⟩ := List.getElem?_eq_some_iff.mp hpart
      have hr : seg.sn.toNat = r := by
        obtain ⟨s, hs, hsn⟩ := hall r le_rfl (by omega)
        rcases List.mem_cons.mp hs with rfl | hs
        · exact hsn
        · have hbelow := UInt32.lt_iff_toNat_lt.mp (hfirst s hs)
          omega
      have hnext : parts rest = log.drop (r + 1) := by
        apply ih _ hpair
        · intro n hn hnl
          obtain ⟨s, hs, hsn⟩ := hall n (by omega) hnl
          rcases List.mem_cons.mp hs with rfl | hs
          · omega
          · exact ⟨s, hs, hsn⟩
        · intro s hs
          have hbelow := UInt32.lt_iff_toNat_lt.mp (hfirst s hs)
          exact ⟨by omega, (hrest s hs).2⟩
      subst hr
      rw [List.drop_eq_getElem_cons hlt, hget, ← hnext]
      rfl

theorem Sending.length_le (h : Sending log kcp) : kcp.sndBuf.length ≤ log.length := by
  apply @length_le_of_increasing (fun seg => seg.sn.toNat)
  · intro seg hseg
    exact (List.getElem?_eq_some_iff.mp (h.buf seg hseg).1).1
  · have hsorted := h.sorted
    rw [List.pairwise_map] at hsorted
    apply hsorted.imp
    intro s t hst
    exact UInt32.lt_iff_toNat_lt.mp hst

theorem waitsnd_zero (hs : Sending log kcp) (hq : Queue log took kcp) (htook : traffic took < 2 ^ 31)
    (h : ikcpWaitsnd kcp = 0) : kcp.sndBuf = [] ∧ kcp.sndQueue = [] := by
  have hbuf := hs.length_le
  have hcost := hq.cost
  rw [ikcpWaitsnd, hs.number, hq.number, ← UInt32.ofNat_add] at h
  have hnat := congrArg UInt32.toNat h
  have hzero : (0 : UInt32).toNat = 0 := rfl
  rw [UInt32.toNat_ofNat', hzero] at hnat
  refine ⟨List.eq_nil_of_length_eq_zero ?_, List.eq_nil_of_length_eq_zero ?_⟩ <;> omega

theorem Ends.delivered (h : Ends conv stream w) (hQ : Bounded w) (x : Side) :
    Delivered (stream x) (w x) (w x.other) := by
  have hsender := h x
  have hreceiver := h x.other
  rw [other_other] at hreceiver
  have hqueue := hsender.sound.queue
  have hdelivery := hreceiver.sound.delivery
  obtain ⟨consumed, hwhole, hmessages, htake⟩ := hdelivery.queue
  have hsplit : (w x).log ++ parts (w x).kcp.sndQueue = consumed ++
      (parts (w x.other).kcp.rcvQueue ++ (w x).log.drop (w x.other).kcp.rcvNxt.toNat ++
        parts (w x).kcp.sndQueue) := by
    rw [← List.append_assoc, ← List.append_assoc, ← htake, List.take_append_drop]
  have hbytes := hqueue.bytes
  rw [hsplit, contents_append, ← messages_flatten hwhole, hmessages] at hbytes
  refine ⟨⟨_, hbytes⟩, ?_, ?_⟩
  · intro hs
    have hmode : (w x).kcp.stream = false := hsender.stream.trans hs
    rw [← hqueue.messages hmode, hsplit, ← hmessages]
    exact messages_prefix _ _
  · intro hwait
    obtain ⟨hbuf, hnil⟩ := waitsnd_zero hsender.sound.sending hqueue (hQ x) hwait
    have hrest : parts (w x.other).kcp.rcvBuf = (w x).log.drop (w x.other).kcp.rcvNxt.toNat := by
      apply parts_of_all _ hdelivery.sorted
      · intro n hle hlt
        rcases hsender.sound.kept n hlt with (hgot | hgot) | ⟨seg, hseg, _⟩
        · omega
        · exact hgot
        · rw [hbuf] at hseg
          exact absurd hseg List.not_mem_nil
      · intro seg hseg
        have hearly := hdelivery.early seg hseg
        exact ⟨UInt32.le_iff_toNat_le.mp hearly.1, hearly.2⟩
    have hempty : parts ([] : List Segment) = [] := rfl
    rw [hnil, hempty, List.append_nil, ← hrest, contents_append, contents_parts, contents_parts] at hbytes
    rw [List.append_assoc, hbytes]

theorem opened_ends (conv : UInt32) (stream : Side → Bool) :
    Ends conv stream (opened conv stream).parties := by
  intro side
  have hmss : (IKCP_MTU_DEF - UInt32.ofNat IKCP_OVERHEAD).toNat = 1376 := rfl
  refine ⟨⟨⟨rfl, ?_, ?_, rfl, ?_⟩, ⟨whole_nil, List.isChain_nil, rfl, fun _ => rfl, ?_, le_rfl, rfl⟩,
    ?_, ⟨le_rfl, ⟨[], whole_nil, rfl, rfl⟩, ?_, ?_, rfl⟩, ?_⟩, rfl, rfl, ?_⟩
  · exact fun seg hseg => absurd hseg List.not_mem_nil
  · exact List.Pairwise.nil
  · exact fun p hp => absurd hp List.not_mem_nil
  · exact fun seg hseg => absurd hseg List.not_mem_nil
  · exact fun n hn => absurd hn (Nat.not_lt_zero n)
  · exact fun seg hseg => absurd hseg List.not_mem_nil
  · exact List.Pairwise.nil
  · exact fun a ha => absurd ha List.not_mem_nil
  · change 0 < (IKCP_MTU_DEF - UInt32.ofNat IKCP_OVERHEAD).toNat ∧
      (IKCP_MTU_DEF - UInt32.ofNat IKCP_OVERHEAD).toNat < 2 ^ 31
    rw [hmss]
    omega

theorem run_sound (events : List (Event (Side × Call)))
    {s : Net (Side → Endpoint) (Side × List UInt8)}
    (hrun : run (step ends) (opened conv stream) events = some s)
    (hsent : ∀ side, traffic (s.parties side).took < 2 ^ 31) :
    Ends conv stream s.parties ∧ ∀ m ∈ s.sent, Truth s.parties m := by
  have hsound : LossyNetwork.Sound Bounded (Ends conv stream) Truth (opened conv stream) := by
    refine fun _ => ⟨opened_ends conv stream, ?_⟩
    exact fun m hm => absurd hm List.not_mem_nil
  exact ((ends_stable conv stream).always hsound events).of_run hrun hsent

/-- Over a network that loses, repeats and reorders datagrams at will, each end gets the messages
of the other one in their order, each of them once, and none is lost. -/
theorem delivered_in_order (conv : UInt32) (stream : Side → Bool)
    (events : List (Event (Side × Call))) {s : Net (Side → Endpoint) (Side × List UInt8)}
    (hrun : run (step ends) (opened conv stream) events = some s)
    (hsent : ∀ side, traffic (s.parties side).took < 2 ^ 31) (side : Side) :
    Delivered (stream side) (s.parties side) (s.parties side.other) := by
  exact (run_sound events hrun hsent).1.delivered hsent side

/-- Two messages whose datagrams arrive in the other order, the first one twice. -/
def reordered : List (Event (Side × Call)) :=
  [.act (.client, .nodelay 1 10 2 1), .act (.client, .send [1, 2]), .act (.client, .update 0),
    .act (.client, .send [3]), .act (.client, .flush), .deliver 1, .deliver 0, .deliver 0,
    .act (.server, .recv 100), .act (.server, .recv 100), .act (.server, .update 0), .deliver 2]

def afterReordered : Net (Side → Endpoint) (Side × List UInt8) :=
  (run (step ends) (opened 1 (fun _ => false)) reordered).getD (opened 1 (fun _ => false))

theorem delivered_in_order_reordered :
    Delivered false (afterReordered.parties .client) (afterReordered.parties .server) ∧
      (afterReordered.parties .server).received = [[1, 2], [3]] := by
  have hrun : run (step ends) (opened 1 (fun _ => false)) reordered = some afterReordered := rfl
  have hsent : ∀ side, traffic (afterReordered.parties side).took < 2 ^ 31 := by
    intro side
    cases side <;> decide +kernel
  exact ⟨delivered_in_order 1 (fun _ => false) reordered hrun hsent .client, by decide +kernel⟩

end WirelessEsp.Kcp
