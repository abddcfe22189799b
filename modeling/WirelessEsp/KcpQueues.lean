import WirelessEsp.Kcp
import WirelessEsp.MessageParts

namespace WirelessEsp.Kcp

open MessageParts

def Segment.part (seg : Segment) : Piece UInt8 := (seg.frg.toNat, seg.data)

def parts (segs : List Segment) : List (Piece UInt8) := segs.map Segment.part

theorem parts_append (ss ts : List Segment) : parts (ss ++ ts) = parts ss ++ parts ts := by
  exact List.map_append

theorem contents_parts (segs : List Segment) : contents (parts segs) = payload segs := by
  induction segs with
  | nil => rfl
  | cons seg segs ih =>
      have hl : contents (parts (seg :: segs)) = seg.data ++ contents (parts segs) := rfl
      have hr : payload (seg :: segs) = seg.data ++ payload segs := rfl
      rw [hl, hr, ih]

theorem fragments_length (mss : Nat) (stream : Bool) (n : Nat) (buffer : List UInt8) :
    (fragments mss stream n buffer).length = n := by
  induction n generalizing buffer with
  | zero => rfl
  | succ n ih => rw [fragments, List.length_cons, ih]

theorem parts_fragments (mss : Nat) {n : Nat} (hn : n ≤ 2 ^ 32) (buffer : List UInt8) :
    parts (fragments mss false n buffer) = cut mss n buffer := by
  induction n generalizing buffer with
  | zero => rfl
  | succ n ih =>
      have hfrg : (UInt32.ofNat n).toNat = n := by
        rw [UInt32.toNat_ofNat']
        omega
      have hcons : parts (fragments mss false (n + 1) buffer) =
          ((UInt32.ofNat n).toNat, buffer.take mss) ::
            parts (fragments mss false n (buffer.drop mss)) := rfl
      rw [hcons, hfrg, ih (by omega), cut]

theorem payload_fragments (mss : Nat) (stream : Bool) (n : Nat) (buffer : List UInt8) :
    payload (fragments mss stream n buffer) = contents (cut mss n buffer) := by
  induction n generalizing buffer with
  | zero => rfl
  | succ n ih =>
      have hl : payload (fragments mss stream (n + 1) buffer) =
          buffer.take mss ++ payload (fragments mss stream n (buffer.drop mss)) := rfl
      have hr : contents (cut mss (n + 1) buffer) =
          buffer.take mss ++ contents (cut mss n (buffer.drop mss)) := rfl
      rw [hl, hr, ih]

theorem fragments_stream {mss n : Nat} {buffer : List UInt8} :
    ∀ p ∈ parts (fragments mss true n buffer), p.1 = 0 := by
  induction n generalizing buffer with
  | zero => simp [fragments, parts]
  | succ n ih =>
      intro p hp
      rcases List.mem_cons.mp hp with rfl | hp
      · rfl
      · exact ih p hp

theorem whole_of_zero {ps : List (Piece UInt8)} (h : ∀ p ∈ ps, p.1 = 0) : Whole ps := by
  intro p hp
  exact h p (List.mem_of_getLast? hp)

theorem counted_of_zero {ps : List (Piece UInt8)} (h : ∀ p ∈ ps, p.1 = 0) : Counted ps := by
  apply List.Pairwise.isChain
  apply List.pairwise_of_forall_mem_list
  intro p hp q _ hne
  exact absurd (h p hp) hne

theorem fragments_small {mss n : Nat} {stream : Bool} {buffer : List UInt8} :
    ∀ seg ∈ fragments mss stream n buffer, seg.data.length ≤ mss ∧ seg.frg.toNat < n := by
  induction n generalizing buffer with
  | zero => simp [fragments]
  | succ n ih =>
      intro seg hseg
      rcases List.mem_cons.mp hseg with rfl | hseg
      · refine ⟨?_, ?_⟩
        · rw [List.length_take]
          omega
        · cases stream with
          | false =>
              have := Nat.mod_le n (2 ^ 32)
              simp only [Bool.false_eq_true, if_false, UInt32.toNat_ofNat']
              omega
          | true => exact Nat.succ_pos n
      · have h := ih seg hseg
        omega

theorem fragmentCount_spec {length mss : Nat} (hmss : 0 < mss) :
    0 < fragmentCount length mss ∧ length ≤ fragmentCount length mss * mss ∧
      fragmentCount length mss ≤ length + 1 := by
  by_cases h : length ≤ mss
  · have hc : fragmentCount length mss = 1 := by
      simp [fragmentCount, h]
    rw [hc]
    omega
  · have hdiv := Nat.div_add_mod (length + mss - 1) mss
    have hmod := Nat.mod_lt (length + mss - 1) hmss
    have hpos : 0 < (length + mss - 1) / mss := by
      apply Nat.div_pos _ hmss
      omega
    have hc : fragmentCount length mss = (length + mss - 1) / mss := by
      simp only [fragmentCount, if_neg h]
      rw [if_neg (by omega)]
    have hle : (length + mss - 1) / mss ≤ length := by
      apply Nat.div_le_of_le_mul
      have hmul := Nat.mul_le_mul_right (length - 1) hmss
      have hone : mss * length = mss * (length - 1) + mss := by
        rw [← Nat.mul_succ, Nat.succ_eq_add_one, Nat.sub_add_cancel (by omega)]
      omega
    rw [hc, Nat.mul_comm]
    refine ⟨hpos, by omega, by omega⟩

/-- The bytes of some messages and the number of the messages together, which is at least the number
of segments that they take. -/
def traffic : List (List UInt8) → Nat
  | [] => 0
  | message :: later => message.length + 1 + traffic later

theorem traffic_append (ms ns : List (List UInt8)) : traffic (ms ++ ns) = traffic ms + traffic ns := by
  induction ms with
  | nil => rw [List.nil_append, traffic, Nat.zero_add]
  | cons m ms ih =>
      rw [List.cons_append, traffic, traffic, ih]
      omega

/-- What `ikcp_send` takes: its buffer when it returns 0, and in stream mode the bytes that it
appends to the last segment also when it returns -2. -/
def accepted (buffer : List UInt8) (kcp : Ikcpcb) : List (List UInt8) :=
  if (ikcpSend buffer kcp).1 = 0 then [buffer]
  else if kcp.stream then [buffer.take (extension buffer.length kcp)]
  else []

/-- `log` has the parts of the segments that have got their numbers, and `took` what `ikcp_send`
has taken: the parts in `log` and in `snd_queue` are the messages of `took`. -/
structure Queue (log : List (Piece UInt8)) (took : List (List UInt8)) (kcp : Ikcpcb) : Prop where
  whole : Whole (log ++ parts kcp.sndQueue)
  counted : Counted (log ++ parts kcp.sndQueue)
  bytes : contents (log ++ parts kcp.sndQueue) = took.flatten
  messages : kcp.stream = false → messages (log ++ parts kcp.sndQueue) = took
  small : ∀ seg ∈ kcp.sndQueue, seg.data.length ≤ kcp.mss.toNat ∧ seg.frg.toNat < 128
  cost : log.length + kcp.sndQueue.length ≤ traffic took
  number : kcp.nsndQue = UInt32.ofNat kcp.sndQueue.length

theorem extendLast_cases (length : Nat) (more : List UInt8) (kcp : Ikcpcb) :
    (extension length kcp = 0 ∧ extendLast more kcp = kcp) ∨
    ∃ front old, kcp.sndQueue = front ++ [old] ∧ old.len < kcp.mss ∧
      extension length kcp = min length (kcp.mss - old.len).toNat ∧
      extendLast more kcp =
        { kcp with sndQueue := front ++ [{ data := old.data ++ more, frg := 0 }] } := by
  cases h : kcp.sndQueue.getLast? with
  | none =>
      left
      simp only [extension, extendLast, h, and_self]
  | some old =>
      by_cases hold : old.len < kcp.mss
      · right
        refine ⟨kcp.sndQueue.dropLast, old, ?_, hold, ?_, ?_⟩
        · exact (List.dropLast_append_getLast? old h).symm
        · simp only [extension, h, if_pos hold]
        · simp only [extendLast, h, if_pos hold]
      · left
        simp only [extension, extendLast, h, if_neg hold, and_self]

theorem extension_le (length : Nat) (kcp : Ikcpcb) : extension length kcp ≤ length := by
  rcases extendLast_cases length [] kcp with ⟨h, _⟩ | ⟨_, _, _, _, h, _⟩ <;> omega

theorem parts_extended {log : List (Piece UInt8)} {front : List Segment} {old : Segment}
    (more : List UInt8) (hwhole : Whole (log ++ parts (front ++ [old])))
    (hcounted : Counted (log ++ parts (front ++ [old]))) :
    let new := log ++ parts (front ++ [{ data := old.data ++ more, frg := 0 }])
    Whole new ∧ Counted new ∧ contents new = contents (log ++ parts (front ++ [old])) ++ more := by
  have hfrg : old.frg.toNat = 0 := by
    apply hwhole old.part
    simp [parts]
  have hold : log ++ parts (front ++ [old]) = (log ++ parts front) ++ [(0, old.data)] := by
    rw [parts_append, ← List.append_assoc, ← hfrg]
    rfl
  have hnew : log ++ parts (front ++ [{ data := old.data ++ more, frg := 0 }]) =
      (log ++ parts front) ++ [(0, old.data ++ more)] := by
    rw [parts_append, ← List.append_assoc]
    rfl
  rw [hold] at hcounted
  simp only [hold, hnew]
  refine ⟨?_, ?_, ?_⟩
  · intro p hp
    rw [List.getLast?_append] at hp
    simp only [List.getLast?_singleton, Option.some_or, Option.mem_def, Option.some.injEq] at hp
    rw [← hp]
  · obtain ⟨hfront, _, hlast⟩ := List.isChain_append.mp hcounted
    apply List.isChain_append.mpr
    refine ⟨hfront, List.isChain_singleton _, ?_⟩
    intro p hp q hq
    simp only [List.head?_cons, Option.mem_def, Option.some.injEq] at hq
    have hlast := hlast p hp (0, old.data) rfl
    rw [← hq]
    exact hlast
  · simp only [contents, List.flatMap_append, List.flatMap_cons, List.flatMap_nil,
      List.append_nil, List.append_assoc]

variable {log : List (Piece UInt8)} {took : List (List UInt8)} {kcp : Ikcpcb}

theorem Queue.extend (h : Queue log took kcp) (hstream : kcp.stream = true) {more : List UInt8}
    {length : Nat} (hmore : more.length = extension length kcp) :
    Queue log (took ++ [more]) (extendLast more kcp) ∧
      (extendLast more kcp).sndQueue.length = kcp.sndQueue.length ∧
      (extendLast more kcp).mss = kcp.mss ∧ (extendLast more kcp).stream = true := by
  have htook : (took ++ [more]).flatten = took.flatten ++ more := by
    simp only [List.flatten_append, List.flatten_cons, List.flatten_nil, List.append_nil]
  have hcost : traffic took ≤ traffic (took ++ [more]) := by
    rw [traffic_append]
    exact Nat.le_add_right _ _
  rcases extendLast_cases length more kcp with ⟨hzero, hkcp⟩ | ⟨front, old, hqueue, hold, hext, hkcp⟩
  · rw [hzero] at hmore
    have hnil := List.eq_nil_of_length_eq_zero hmore
    have hbytes := h.bytes
    rw [hkcp]
    refine ⟨⟨h.whole, h.counted, ?_, ?_, h.small, h.cost.trans hcost, h.number⟩, rfl, rfl, hstream⟩
    · rw [htook, hnil, List.append_nil, hbytes]
    · intro hs
      rw [hstream] at hs
      exact absurd hs Bool.noConfusion
  · obtain ⟨whole, counted, bytes, _, small, cost, number⟩ := h
    rw [hqueue] at whole counted bytes small cost number
    obtain ⟨hwhole, hcounted, hcontents⟩ := parts_extended more whole counted
    have hlength : (front ++ [({ data := old.data ++ more, frg := 0 } : Segment)]).length =
        (front ++ [old]).length := by
      simp only [List.length_append, List.length_singleton]
    rw [hkcp, hqueue]
    refine ⟨⟨hwhole, hcounted, ?_, ?_, ?_, ?_, ?_⟩, hlength, rfl, hstream⟩
    · rw [htook, ← bytes]
      exact hcontents
    · intro hs
      rw [hstream] at hs
      exact absurd hs Bool.noConfusion
    · intro seg hseg
      rcases List.mem_append.mp hseg with hseg | hseg
      · exact small seg (List.mem_append_left _ hseg)
      · obtain rfl := List.mem_singleton.mp hseg
        have hsmall := small old (List.mem_append_right _ List.mem_cons_self)
        have hlen : old.len.toNat = old.data.length := by
          have := kcp.mss.toNat_lt
          rw [Segment.len, UInt32.toNat_ofNat']
          omega
        have hsub := UInt32.toNat_sub_of_le _ _ (UInt32.le_of_lt hold)
        have hlt := UInt32.lt_iff_toNat_lt.mp hold
        refine ⟨?_, Nat.succ_pos 127⟩
        change (old.data ++ more).length ≤ kcp.mss.toNat
        rw [List.length_append, hmore, hext, hsub, hlen]
        omega
    · rw [hlength]
      exact cost.trans hcost
    · rw [hlength]
      exact number

theorem Queue.append (h : Queue log took kcp) (hmss : 0 < kcp.mss.toNat) {buffer : List UInt8}
    (hcount : fragmentCount buffer.length kcp.mss.toNat < 128) :
    Queue log (took ++ [buffer])
      (queueFragments (fragmentCount buffer.length kcp.mss.toNat) buffer kcp) := by
  obtain ⟨hpos, henough, hfew⟩ := @fragmentCount_spec buffer.length _ hmss
  generalize fragmentCount buffer.length kcp.mss.toNat = count at *
  have hparts : log ++ parts (queueFragments count buffer kcp).sndQueue =
      (log ++ parts kcp.sndQueue) ++ parts (fragments kcp.mss.toNat kcp.stream count buffer) := by
    rw [queueFragments, parts_append, List.append_assoc]
  have hnew : Whole (parts (fragments kcp.mss.toNat kcp.stream count buffer)) ∧
      Counted (parts (fragments kcp.mss.toNat kcp.stream count buffer)) := by
    cases kcp.stream with
    | false =>
        rw [parts_fragments _ (by omega)]
        exact ⟨whole_cut _ _ _, counted_cut _ _ _⟩
    | true => exact ⟨whole_of_zero fragments_stream, counted_of_zero fragments_stream⟩
  have hlength : (queueFragments count buffer kcp).sndQueue.length = kcp.sndQueue.length + count := by
    rw [queueFragments, List.length_append, fragments_length]
  constructor
  · rw [hparts]
    exact whole_append h.whole hnew.1
  · rw [hparts]
    exact counted_append h.counted hnew.2 h.whole
  · rw [hparts, contents_append, h.bytes, contents_parts, payload_fragments,
      contents_cut henough]
    simp only [List.flatten_append, List.flatten_cons, List.flatten_nil, List.append_nil]
  · intro hstream
    change kcp.stream = false at hstream
    rw [hparts, messages_append h.whole, h.messages hstream, hstream, parts_fragments _ (by omega),
      messages_cut hpos henough]
  · intro seg hseg
    rcases List.mem_append.mp hseg with hseg | hseg
    · exact h.small seg hseg
    · have hsmall := fragments_small seg hseg
      exact ⟨hsmall.1, by omega⟩
  · have hcost := h.cost
    rw [hlength, traffic_append, traffic, traffic]
    omega
  · rw [hlength, UInt32.ofNat_add, ← h.number]
    rfl

theorem Queue.retake (h : Queue log took kcp) (hstream : kcp.stream = true)
    {took' : List (List UInt8)} (hbytes : took.flatten = took'.flatten)
    (hcost : log.length + kcp.sndQueue.length ≤ traffic took') : Queue log took' kcp := by
  refine ⟨h.whole, h.counted, h.bytes.trans hbytes, ?_, h.small, hcost, h.number⟩
  intro hs
  rw [hstream] at hs
  exact absurd hs Bool.noConfusion

theorem sendFragments_queue (h : Queue log took kcp) (hmss : 0 < kcp.mss.toNat)
    (buffer : List UInt8) :
    ((sendFragments buffer kcp).1 = 0 ∧ Queue log (took ++ [buffer]) (sendFragments buffer kcp).2 ∧
      (sendFragments buffer kcp).2.sndQueue.length ≤ kcp.sndQueue.length + buffer.length + 1 ∧
      (sendFragments buffer kcp).2.stream = kcp.stream) ∨
    sendFragments buffer kcp = (-2, kcp) := by
  by_cases hcount : IKCP_WND_RCV.toNat ≤ fragmentCount buffer.length kcp.mss.toNat
  · right
    simp only [sendFragments, if_pos hcount]
  · left
    simp only [sendFragments, if_neg hcount]
    refine ⟨trivial, h.append hmss (Nat.not_le.mp hcount), ?_, rfl⟩
    have hfew := (@fragmentCount_spec buffer.length _ hmss).2.2
    simp only [queueFragments, List.length_append, fragments_length]
    omega

theorem ikcpSend_queue (h : Queue log took kcp) (hmss : 0 < kcp.mss.toNat) (buffer : List UInt8) :
    Queue log (took ++ accepted buffer kcp) (ikcpSend buffer kcp).2 := by
  cases hstream : kcp.stream with
  | false =>
      have hsend : ikcpSend buffer kcp = sendFragments buffer kcp := by
        simp only [ikcpSend, hstream, Bool.false_eq_true, if_false]
      rw [accepted, hsend]
      rcases sendFragments_queue h hmss buffer with ⟨hcode, hqueue, _⟩ | hrefused
      · simpa only [hcode, if_true] using hqueue
      · simpa [hrefused, hstream] using h
  | true =>
      have hlength : (buffer.take (extension buffer.length kcp)).length =
          extension buffer.length kcp := by
        rw [List.length_take]
        exact Nat.min_eq_left (extension_le _ _)
      obtain ⟨hext, hsame, hmss', hstream'⟩ := h.extend hstream hlength
      rw [← hmss'] at hmss
      have hcost := h.cost
      by_cases hrest : buffer.length - extension buffer.length kcp = 0
      · have hsend : ikcpSend buffer kcp =
            (0, extendLast (buffer.take (extension buffer.length kcp)) kcp) := by
          simp only [ikcpSend, hstream, if_true, hrest]
        have hall : buffer.take (extension buffer.length kcp) = buffer := by
          exact List.take_of_length_le (by omega)
        rw [accepted, hsend]
        simpa only [if_true, hall] using hext
      · have hsend : ikcpSend buffer kcp = sendFragments (buffer.drop (extension buffer.length kcp))
            (extendLast (buffer.take (extension buffer.length kcp)) kcp) := by
          simp only [ikcpSend, hstream, if_true, if_neg hrest]
        rw [accepted, hsend]
        rcases sendFragments_queue hext hmss (buffer.drop (extension buffer.length kcp)) with
          ⟨hcode, hqueue, hlonger, hs⟩ | hrefused
        · rw [if_pos hcode]
          apply hqueue.retake (hs.trans hstream')
          · simp only [List.flatten_append, List.flatten_cons, List.flatten_nil, List.append_nil,
              List.append_assoc, List.take_append_drop]
          · rw [hsame, List.length_drop] at hlonger
            rw [traffic_append, traffic, traffic]
            omega
        · simpa [hrefused, hstream] using hext

end WirelessEsp.Kcp
