import WirelessEsp.KcpInput
import WirelessEsp.KcpQueues
import Mathlib.Data.List.Perm.Subperm

namespace WirelessEsp.Kcp

open MessageParts SerialNumber

def Got (kcp : Ikcpcb) (n : Nat) : Prop :=
  n < kcp.rcvNxt.toNat ∨ ∃ seg ∈ kcp.rcvBuf, seg.sn.toNat = n

/-- The receiving side of a control block. `log` has the parts of the segments in the order of
their numbers, and `received` what `ikcp_recv` has returned. -/
structure Delivery (log : List (Piece UInt8)) (received : List (List UInt8)) (kcp : Ikcpcb) :
    Prop where
  next : kcp.rcvNxt.toNat ≤ log.length
  queue : ∃ consumed, Whole consumed ∧ messages consumed = received ∧
    log.take kcp.rcvNxt.toNat = consumed ++ parts kcp.rcvQueue
  early : ∀ seg ∈ kcp.rcvBuf, kcp.rcvNxt ≤ seg.sn ∧ log[seg.sn.toNat]? = some seg.part
  sorted : kcp.rcvBuf.Pairwise (fun s t => s.sn < t.sn)
  number : kcp.nrcvQue = UInt32.ofNat kcp.rcvQueue.length

def Acked (kcp : Ikcpcb) : Prop := ∀ a ∈ kcp.acklist, Got kcp a.1.toNat

structure Later (kcp kcp' : Ikcpcb) : Prop where
  next : kcp.rcvNxt.toNat ≤ kcp'.rcvNxt.toNat
  got : ∀ n, Got kcp n → Got kcp' n

theorem Later.refl (kcp : Ikcpcb) : Later kcp kcp := ⟨le_rfl, fun _ h => h⟩

theorem Acked.later {kcp kcp' : Ikcpcb} (h : Acked kcp) (hlater : Later kcp kcp')
    (hacks : kcp'.acklist = kcp.acklist) : Acked kcp' := by
  intro a ha
  rw [hacks] at ha
  exact hlater.got _ (h a ha)

theorem Later.trans {k₁ k₂ k₃ : Ikcpcb} (h : Later k₁ k₂) (h' : Later k₂ k₃) : Later k₁ k₃ :=
  ⟨h.next.trans h'.next, fun n hn => h'.got n (h.got n hn)⟩

variable {log : List (Piece UInt8)} {received : List (List UInt8)} {kcp : Ikcpcb}

theorem Delivery.grow (h : Delivery log received kcp) (more : List (Piece UInt8)) :
    Delivery (log ++ more) received kcp := by
  obtain ⟨consumed, hwhole, hmessages, htake⟩ := h.queue
  refine ⟨?_, ⟨consumed, hwhole, hmessages, ?_⟩, ?_, h.sorted, h.number⟩
  · rw [List.length_append]
    exact h.next.trans (Nat.le_add_right _ _)
  · rw [List.take_append_of_le_length h.next, htake]
  · intro seg hseg
    obtain ⟨hle, hpart⟩ := h.early seg hseg
    refine ⟨hle, ?_⟩
    rw [List.getElem?_append_left (List.getElem?_eq_some_iff.mp hpart).1, hpart]

theorem moveOne_delivery {seg : Segment} {rest : List Segment} (hlog : log.length < 2 ^ 31)
    (h : Delivery log received kcp) (hbuf : kcp.rcvBuf = seg :: rest) (hsn : seg.sn = kcp.rcvNxt) :
    Delivery log received (moveOne seg rest kcp) ∧ Later kcp (moveOne seg rest kcp) := by
  have hmem : seg ∈ kcp.rcvBuf := by
    rw [hbuf]
    exact List.mem_cons_self
  obtain ⟨hlt, hpart⟩ := List.getElem?_eq_some_iff.mp (h.early seg hmem).2
  rw [hsn] at hlt
  have hnext : (kcp.rcvNxt + 1).toNat = kcp.rcvNxt.toNat + 1 := by
    exact succ_toNat (by omega)
  have hsorted := h.sorted
  rw [hbuf] at hsorted
  obtain ⟨hfirst, hrest⟩ := List.pairwise_cons.mp hsorted
  have hgot : ∀ n, Got kcp n → Got (moveOne seg rest kcp) n := by
    rintro n (hn | ⟨s, hs, rfl⟩)
    · left
      change n < (kcp.rcvNxt + 1).toNat
      omega
    · rw [hbuf] at hs
      rcases List.mem_cons.mp hs with rfl | hs
      · left
        change s.sn.toNat < (kcp.rcvNxt + 1).toNat
        rw [hsn]
        omega
      · right
        exact ⟨s, hs, rfl⟩
  refine ⟨⟨?_, ?_, ?_, hrest, ?_⟩, ?_, hgot⟩
  · change (kcp.rcvNxt + 1).toNat ≤ log.length
    omega
  · obtain ⟨consumed, hwhole, hmessages, htake⟩ := h.queue
    refine ⟨consumed, hwhole, hmessages, ?_⟩
    change log.take (kcp.rcvNxt + 1).toNat = consumed ++ parts (kcp.rcvQueue ++ [seg])
    rw [hnext, List.take_add_one, htake, parts_append, ← List.append_assoc, ← hsn,
      (h.early seg hmem).2]
    rfl
  · intro s hs
    have hold := h.early s (by rw [hbuf]; exact List.mem_cons_of_mem _ hs)
    refine ⟨?_, hold.2⟩
    have hlater := UInt32.lt_iff_toNat_lt.mp (hfirst s hs)
    rw [hsn] at hlater
    change kcp.rcvNxt + 1 ≤ s.sn
    rw [UInt32.le_iff_toNat_le]
    omega
  · change kcp.nrcvQue + 1 = UInt32.ofNat (kcp.rcvQueue ++ [seg]).length
    rw [List.length_append, List.length_singleton, ofNat_succ, ← h.number]
  · change kcp.rcvNxt.toNat ≤ (kcp.rcvNxt + 1).toNat
    omega

theorem moveAvailable_delivery {segs : List Segment} (hlog : log.length < 2 ^ 31)
    (h : Delivery log received kcp) (hbuf : kcp.rcvBuf = segs) :
    Delivery log received (moveAvailable segs kcp) ∧ Later kcp (moveAvailable segs kcp) := by
  induction segs generalizing kcp with
  | nil => exact ⟨h, Later.refl _⟩
  | cons seg rest ih =>
      rw [moveAvailable]
      split
      next hnext =>
        obtain ⟨hone, hlater⟩ := moveOne_delivery hlog h hbuf hnext.1
        obtain ⟨hall, hlater'⟩ := ih hone rfl
        exact ⟨hall, hlater.trans hlater'⟩
      next => exact ⟨h, Later.refl _⟩

theorem length_le_of_increasing {key : Segment → Nat} {n : Nat} {segs : List Segment}
    (hbelow : ∀ seg ∈ segs, key seg < n) (hsorted : segs.Pairwise (fun s t => key s < key t)) :
    segs.length ≤ n := by
  have hnodup : (segs.map key).Nodup := by
    apply List.pairwise_map.mpr
    exact hsorted.imp Nat.ne_of_lt
  have hsub : segs.map key ⊆ List.range n := by
    intro k hk
    obtain ⟨seg, hseg, rfl⟩ := List.mem_map.mp hk
    exact List.mem_range.mpr (hbelow seg hseg)
  have hlen := (List.subperm_of_subset hnodup hsub).length_le
  rwa [List.length_map, List.length_range] at hlen

/-- The walk from the tail of `rcv_buf` finds the place of a new number. The list is the one from
the tail on, so that its numbers go down; all of them are counted from `base`. -/
theorem insertLoop_spec {newseg : Segment} {segs : List Segment} (base : UInt32)
    (hnew : (newseg.sn - base).toNat < 2 ^ 31)
    (hsegs : ∀ seg ∈ segs, (seg.sn - base).toNat < 2 ^ 31)
    (hsorted : segs.Pairwise (fun s t => (t.sn - base).toNat < (s.sn - base).toNat)) :
    match insertLoop newseg segs with
    | none => ∃ seg ∈ segs, seg.sn = newseg.sn
    | some buf => buf.Pairwise (fun s t => (t.sn - base).toNat < (s.sn - base).toNat) ∧
        buf.length = segs.length + 1 ∧ ∀ s, s ∈ buf ↔ s = newseg ∨ s ∈ segs := by
  induction segs with
  | nil => simp [insertLoop]
  | cons seg front ih =>
      obtain ⟨hseg, hfront⟩ := List.forall_mem_cons.mp hsegs
      obtain ⟨hbelow, hrest⟩ := List.pairwise_cons.mp hsorted
      have hahead := ahead_of_base hnew hseg
      rw [insertLoop]
      by_cases hsame : seg.sn = newseg.sn
      · rw [if_pos hsame]
        exact ⟨seg, List.mem_cons_self, hsame⟩
      · rw [if_neg hsame, itimediff, hahead]
        by_cases hgt : (0 : Int) < (newseg.sn - base).toNat - (seg.sn - base).toNat
        · rw [if_pos hgt]
          refine ⟨?_, rfl, fun s => List.mem_cons⟩
          apply List.pairwise_cons.mpr
          refine ⟨?_, hsorted⟩
          intro s hs
          rcases List.mem_cons.mp hs with rfl | hs
          · omega
          · have := hbelow s hs
            omega
        · rw [if_neg hgt]
          have hlt : (newseg.sn - base).toNat < (seg.sn - base).toNat := by
            apply Nat.lt_of_le_of_ne (by omega)
            intro heq
            apply hsame
            have hsub := UInt32.toNat_inj.mp heq
            grind
          have ih := ih hfront hrest
          cases hins : insertLoop newseg front with
          | none =>
              rw [hins] at ih
              obtain ⟨s, hs, hsn⟩ := ih
              exact ⟨s, List.mem_cons_of_mem _ hs, hsn⟩
          | some buf =>
              rw [hins] at ih
              obtain ⟨hpair, hlength, hmem⟩ := ih
              refine ⟨?_, congrArg (· + 1) hlength, ?_⟩
              · apply List.pairwise_cons.mpr
                refine ⟨?_, hpair⟩
                intro s hs
                rcases (hmem s).mp hs with rfl | hs
                · exact hlt
                · exact hbelow s hs
              · intro s
                rw [List.mem_cons, hmem, List.mem_cons]
                exact or_left_comm

theorem moveAvailable_acklist (segs : List Segment) (kcp : Ikcpcb) :
    (moveAvailable segs kcp).acklist = kcp.acklist := by
  induction segs generalizing kcp with
  | nil => rfl
  | cons seg rest ih =>
      rw [moveAvailable]
      split
      next => exact ih _
      next => rfl

theorem insert_delivery {newseg : Segment} (hlog : log.length < 2 ^ 31)
    (h : Delivery log received kcp) (hpart : log[newseg.sn.toNat]? = some newseg.part)
    (hnext : kcp.rcvNxt ≤ newseg.sn) :
    match insertLoop newseg kcp.rcvBuf.reverse with
    | none => Got kcp newseg.sn.toNat
    | some buf =>
        let kcp' := { kcp with rcvBuf := buf.reverse, nrcvBuf := kcp.nrcvBuf + 1 }
        Delivery log received kcp' ∧ Later kcp kcp' ∧ Got kcp' newseg.sn.toNat := by
  have hzero : ∀ sn : UInt32, sn - 0 = sn := by
    simp
  have hspec := @insertLoop_spec newseg kcp.rcvBuf.reverse 0
  simp only [hzero, ← UInt32.lt_iff_toNat_lt] at hspec
  have hnew : newseg.sn.toNat < 2 ^ 31 := by
    exact (List.getElem?_eq_some_iff.mp hpart).1.trans hlog
  have hsegs : ∀ seg ∈ kcp.rcvBuf.reverse, seg.sn.toNat < 2 ^ 31 := by
    intro seg hseg
    have hlt := (List.getElem?_eq_some_iff.mp (h.early seg (List.mem_reverse.mp hseg)).2).1
    exact hlt.trans hlog
  replace hspec := hspec hnew hsegs (List.pairwise_reverse.mpr h.sorted)
  cases hins : insertLoop newseg kcp.rcvBuf.reverse with
  | none =>
      rw [hins] at hspec
      obtain ⟨seg, hseg, hsn⟩ := hspec
      right
      exact ⟨seg, List.mem_reverse.mp hseg, congrArg UInt32.toNat hsn⟩
  | some buf =>
      rw [hins] at hspec
      obtain ⟨hpair, _, hmem⟩ := hspec
      have hmem' : ∀ s, s ∈ buf.reverse ↔ s = newseg ∨ s ∈ kcp.rcvBuf := by
        intro s
        rw [List.mem_reverse, hmem, List.mem_reverse]
      refine ⟨⟨h.next, h.queue, ?_, List.pairwise_reverse.mpr hpair, h.number⟩, ⟨le_rfl, ?_⟩, ?_⟩
      · intro s hs
        rcases (hmem' s).mp hs with rfl | hs
        · exact ⟨hnext, hpart⟩
        · exact h.early s hs
      · rintro n (hn | ⟨s, hs, hn⟩)
        · exact .inl hn
        · exact .inr ⟨s, (hmem' s).mpr (.inr hs), hn⟩
      · exact .inr ⟨newseg, (hmem' newseg).mpr (.inl rfl), rfl⟩

theorem ikcpParseData_delivery {newseg : Segment} (hlog : log.length < 2 ^ 31)
    (h : Delivery log received kcp) (hpart : log[newseg.sn.toNat]? = some newseg.part)
    (hwindow : itimediff newseg.sn (kcp.rcvNxt + kcp.rcvWnd) < 0)
    (hold : 0 ≤ itimediff newseg.sn kcp.rcvNxt) :
    Delivery log received (ikcpParseData newseg kcp) ∧ Later kcp (ikcpParseData newseg kcp) ∧
      Got (ikcpParseData newseg kcp) newseg.sn.toNat ∧
      (ikcpParseData newseg kcp).acklist = kcp.acklist := by
  have hnew : newseg.sn.toNat < 2 ^ 31 := by
    exact (List.getElem?_eq_some_iff.mp hpart).1.trans hlog
  have hnext : kcp.rcvNxt ≤ newseg.sn := by
    apply UInt32.not_lt.mp
    intro hlt
    have hneg := (ahead_neg_iff hnew (h.next.trans_lt hlog)).mpr hlt
    exact absurd hneg (Int.not_lt.mpr hold)
  have hinside : ¬ (0 ≤ itimediff newseg.sn (kcp.rcvNxt + kcp.rcvWnd) ∨
      itimediff newseg.sn kcp.rcvNxt < 0) := by
    rintro (hw | ho)
    · exact absurd hwindow (Int.not_lt.mpr hw)
    · exact absurd ho (Int.not_lt.mpr hold)
  have hinsert := insert_delivery hlog h hpart hnext
  rw [ikcpParseData, if_neg hinside]
  cases hins : insertLoop newseg kcp.rcvBuf.reverse with
  | none =>
      rw [hins] at hinsert
      obtain ⟨hmove, hlater⟩ := moveAvailable_delivery hlog h rfl
      exact ⟨hmove, hlater, hlater.got _ hinsert, moveAvailable_acklist _ _⟩
  | some buf =>
      rw [hins] at hinsert
      obtain ⟨hdelivery, hlater, hgot⟩ := hinsert
      obtain ⟨hmove, hlater'⟩ := moveAvailable_delivery hlog hdelivery rfl
      exact ⟨hmove, hlater.trans hlater', hlater'.got _ hgot, moveAvailable_acklist _ _⟩

theorem inputPush_delivery {seg : Segment} (hlog : log.length < 2 ^ 31)
    (h : Delivery log received kcp) (hacked : Acked kcp)
    (hpart : log[seg.sn.toNat]? = some seg.part) :
    Delivery log received (inputPush seg kcp) ∧ Later kcp (inputPush seg kcp) ∧
      Acked (inputPush seg kcp) := by
  have hnew : seg.sn.toNat < 2 ^ 31 := by
    exact (List.getElem?_eq_some_iff.mp hpart).1.trans hlog
  rw [inputPush]
  split
  next hwindow =>
    have hpushed : Delivery log received (ikcpAckPush seg.sn seg.ts kcp) := by
      exact ⟨h.next, h.queue, h.early, h.sorted, h.number⟩
    have hlater : Later kcp (ikcpAckPush seg.sn seg.ts kcp) := ⟨le_rfl, fun _ hn => hn⟩
    have hacks {kcp' : Ikcpcb} (hlater' : Later (ikcpAckPush seg.sn seg.ts kcp) kcp')
        (hgot : Got kcp' seg.sn.toNat)
        (hsame : kcp'.acklist = (ikcpAckPush seg.sn seg.ts kcp).acklist) : Acked kcp' := by
      intro a ha
      rw [hsame] at ha
      rcases List.mem_append.mp ha with ha | ha
      · exact (hlater.trans hlater').got _ (hacked a ha)
      · rw [List.mem_singleton.mp ha]
        exact hgot
    by_cases hold : 0 ≤ itimediff seg.sn (ikcpAckPush seg.sn seg.ts kcp).rcvNxt
    · rw [if_pos hold]
      obtain ⟨hd, hl, hg, hs⟩ := ikcpParseData_delivery hlog hpushed hpart hwindow hold
      exact ⟨hd, hlater.trans hl, hacks hl hg hs⟩
    · rw [if_neg hold]
      have hlt := (ahead_neg_iff hnew (h.next.trans_lt hlog)).mp (Int.not_le.mp hold)
      exact ⟨hpushed, hlater, hacks (Later.refl _) (.inl (UInt32.lt_iff_toNat_lt.mp hlt)) rfl⟩
  next => exact ⟨h, Later.refl _, hacked⟩

theorem splitMessage_append (queue : List Segment) :
    (splitMessage queue).1 ++ (splitMessage queue).2 = queue := by
  induction queue with
  | nil => rfl
  | cons seg rest ih =>
      rw [splitMessage]
      split
      next => rfl
      next => rw [List.cons_append, ih]

theorem splitMessage_whole {seg : Segment} {rest : List Segment}
    (hcounted : Counted (parts (seg :: rest))) (hlong : seg.frg.toNat ≤ rest.length) :
    Whole (parts (splitMessage (seg :: rest)).1) ∧
      messages (parts (splitMessage (seg :: rest)).1) = [payload (splitMessage (seg :: rest)).1] := by
  induction rest generalizing seg with
  | nil =>
      have hfrg : seg.frg = 0 := by
        apply UInt32.toNat_inj.mp
        exact Nat.le_zero.mp hlong
      rw [splitMessage, if_pos hfrg]
      refine ⟨whole_of_zero ?_, ?_⟩
      · intro p hp
        rw [List.mem_singleton.mp hp]
        exact congrArg UInt32.toNat hfrg
      · simp [parts, Segment.part, hfrg, messages, payload]
  | cons next rest ih =>
      rw [splitMessage]
      by_cases hfrg : seg.frg = 0
      · rw [if_pos hfrg]
        refine ⟨whole_of_zero ?_, ?_⟩
        · intro p hp
          rw [List.mem_singleton.mp hp]
          exact congrArg UInt32.toNat hfrg
        · simp [parts, Segment.part, hfrg, messages, payload]
      · rw [if_neg hfrg]
        have hne : seg.frg.toNat ≠ 0 := by
          intro hzero
          exact hfrg (UInt32.toNat_inj.mp hzero)
        obtain ⟨hstep, hrest⟩ := List.isChain_cons_cons.mp hcounted
        have hcount : next.frg.toNat + 1 = seg.frg.toNat := hstep hne
        rw [List.length_cons] at hlong
        obtain ⟨hwhole, hmessages⟩ := ih hrest (by omega)
        obtain ⟨n, hn⟩ := Nat.exists_eq_succ_of_ne_zero hne
        have hcons : parts (seg :: (splitMessage (next :: rest)).1) =
            (n + 1, seg.data) :: parts (splitMessage (next :: rest)).1 := by
          rw [← Nat.succ_eq_add_one, ← hn]
          rfl
        have hpayload : payload (seg :: (splitMessage (next :: rest)).1) =
            seg.data ++ payload (splitMessage (next :: rest)).1 := rfl
        refine ⟨?_, ?_⟩
        · change Whole (parts (seg :: (splitMessage (next :: rest)).1))
          have hnotnil : parts (splitMessage (next :: rest)).1 ≠ [] := by
            rw [splitMessage]
            split <;> exact List.cons_ne_nil _ _
          intro p hp
          apply hwhole p
          rw [hcons, List.getLast?_cons_of_ne_nil hnotnil] at hp
          exact hp
        · change messages (parts (seg :: (splitMessage (next :: rest)).1)) =
            [payload (seg :: (splitMessage (next :: rest)).1)]
          rw [hcons, messages, hmessages, hpayload]

theorem Delivery.queue_length (h : Delivery log received kcp) :
    kcp.rcvQueue.length ≤ log.length := by
  obtain ⟨consumed, _, _, htake⟩ := h.queue
  have hlen := congrArg List.length htake
  rw [List.length_take, List.length_append, parts, List.length_map] at hlen
  omega

theorem Delivery.nrcvQue_toNat (hlog : log.length < 2 ^ 31) (h : Delivery log received kcp) :
    kcp.nrcvQue.toNat = kcp.rcvQueue.length := by
  have hlen := h.queue_length
  rw [h.number, UInt32.toNat_ofNat']
  omega

theorem peeksize_whole {seg : Segment} {rest : List Segment} (hlog : log.length < 2 ^ 31)
    (hfrg : ∀ p ∈ log, p.1 < 128) (h : Delivery log received kcp)
    (hqueue : kcp.rcvQueue = seg :: rest) (hpeek : 0 ≤ ikcpPeeksize kcp) :
    seg.frg.toNat ≤ rest.length := by
  have hlen := h.nrcvQue_toNat hlog
  rw [hqueue, List.length_cons] at hlen
  have hmem : seg.part ∈ log := by
    obtain ⟨consumed, _, _, htake⟩ := h.queue
    apply List.mem_of_mem_take
    rw [htake, hqueue]
    exact List.mem_append_right _ List.mem_cons_self
  have hsmall : seg.frg.toNat < 128 := hfrg _ hmem
  by_cases hzero : seg.frg = 0
  · rw [hzero]
    exact Nat.zero_le _
  · rw [ikcpPeeksize] at hpeek
    simp only [hqueue, if_neg hzero] at hpeek
    by_cases hfew : kcp.nrcvQue < seg.frg + 1
    · rw [if_pos hfew] at hpeek
      exact absurd hpeek (by omega)
    · have hle := UInt32.le_iff_toNat_le.mp (UInt32.not_lt.mp hfew)
      rw [succ_toNat (by omega)] at hle
      omega

theorem dropMessage_delivery (hlog : log.length < 2 ^ 31) (hfrg : ∀ p ∈ log, p.1 < 128)
    (hcounted : Counted log) (h : Delivery log received kcp) (hne : kcp.rcvQueue ≠ [])
    (hpeek : 0 ≤ ikcpPeeksize kcp) :
    Delivery log (received ++ [payload (splitMessage kcp.rcvQueue).1]) (dropMessage kcp) := by
  obtain ⟨seg, rest, hqueue⟩ := List.exists_cons_of_ne_nil hne
  have hlong := peeksize_whole hlog hfrg h hqueue hpeek
  obtain ⟨consumed, hwhole, hmessages, htake⟩ := h.queue
  have hchain : Counted (parts kcp.rcvQueue) := by
    have hprefix : Counted (consumed ++ parts kcp.rcvQueue) := by
      rw [← htake]
      exact hcounted.take _
    exact hprefix.right_of_append
  rw [hqueue] at hchain
  obtain ⟨hfirst, hone⟩ := splitMessage_whole hchain hlong
  rw [← hqueue] at hfirst hone
  have hsplit := splitMessage_append kcp.rcvQueue
  refine ⟨h.next, ⟨consumed ++ parts (splitMessage kcp.rcvQueue).1, ?_, ?_, ?_⟩, h.early, h.sorted, ?_⟩
  · exact whole_append hwhole hfirst
  · rw [messages_append hwhole, hmessages, hone]
  · change log.take kcp.rcvNxt.toNat = _ ++ parts (splitMessage kcp.rcvQueue).2
    rw [htake, List.append_assoc, ← parts_append, hsplit]
  · change kcp.nrcvQue - UInt32.ofNat (splitMessage kcp.rcvQueue).1.length =
      UInt32.ofNat (splitMessage kcp.rcvQueue).2.length
    have hlen := congrArg List.length hsplit
    rw [List.length_append] at hlen
    rw [h.number, ← hlen, UInt32.ofNat_add, UInt32.add_comm, UInt32.add_sub_cancel]

theorem refill_delivery (recover : Bool) (hlog : log.length < 2 ^ 31)
    (h : Delivery log received kcp) :
    Delivery log received (refill recover kcp) ∧ Later kcp (refill recover kcp) ∧
      (refill recover kcp).acklist = kcp.acklist := by
  obtain ⟨hmove, hlater⟩ := moveAvailable_delivery hlog h rfl
  rw [refill]
  split
  next =>
    refine ⟨⟨hmove.next, hmove.queue, hmove.early, hmove.sorted, hmove.number⟩, ?_,
      moveAvailable_acklist _ _⟩
    exact ⟨hlater.next, hlater.got⟩
  next => exact ⟨hmove, hlater, moveAvailable_acklist _ _⟩

/-- The message that a call of `ikcp_recv` returns, unless it is only a look at it. -/
def taken (len : Int) (kcp : Ikcpcb) : List (List UInt8) :=
  if 0 ≤ (ikcpRecv len kcp).1 ∧ 0 ≤ len then [(ikcpRecv len kcp).2.1] else []

theorem ikcpRecv_delivery (len : Int) (hlog : log.length < 2 ^ 31) (hfrg : ∀ p ∈ log, p.1 < 128)
    (hcounted : Counted log) (h : Delivery log received kcp) :
    Delivery log (received ++ taken len kcp) (ikcpRecv len kcp).2.2 ∧
      Later kcp (ikcpRecv len kcp).2.2 ∧ (ikcpRecv len kcp).2.2.acklist = kcp.acklist := by
  have hstays (hcode : ikcpRecv len kcp = (-1, [], kcp) ∨ ikcpRecv len kcp = (-2, [], kcp) ∨
      ikcpRecv len kcp = (-3, [], kcp)) :
      Delivery log (received ++ taken len kcp) (ikcpRecv len kcp).2.2 ∧
        Later kcp (ikcpRecv len kcp).2.2 ∧ (ikcpRecv len kcp).2.2.acklist = kcp.acklist := by
    rcases hcode with hcode | hcode | hcode <;>
      simpa [taken, hcode] using ⟨h, Later.refl kcp⟩
  by_cases hne : kcp.rcvQueue = []
  · apply hstays
    left
    rw [ikcpRecv, if_pos hne]
  by_cases hpeek : ikcpPeeksize kcp < 0
  · apply hstays
    right; left
    rw [ikcpRecv, if_neg hne, if_pos hpeek]
  by_cases hroom : len.natAbs < ikcpPeeksize kcp
  · apply hstays
    right; right
    rw [ikcpRecv, if_neg hne, if_neg hpeek, if_pos hroom]
  have hrecv : ikcpRecv len kcp = (((payload (splitMessage kcp.rcvQueue).1).length : Int),
      payload (splitMessage kcp.rcvQueue).1, refill (kcp.rcvWnd ≤ kcp.nrcvQue)
        (if len < 0 then kcp else dropMessage kcp)) := by
    rw [ikcpRecv, if_neg hne, if_neg hpeek, if_neg hroom]
  rw [taken, hrecv]
  by_cases hlen : len < 0
  · have hpeeked : ¬ (0 ≤ ((payload (splitMessage kcp.rcvQueue).1).length : Int) ∧ 0 ≤ len) := by
      omega
    simp only [if_pos hlen, if_neg hpeeked, List.append_nil]
    exact refill_delivery _ hlog h
  · have htaken : 0 ≤ ((payload (splitMessage kcp.rcvQueue).1).length : Int) ∧ 0 ≤ len := by
      omega
    simp only [if_neg hlen, if_pos htaken]
    have hdrop := dropMessage_delivery hlog hfrg hcounted h hne (Int.not_lt.mp hpeek)
    obtain ⟨hrefill, hlater, hacks⟩ := refill_delivery (kcp.rcvWnd ≤ kcp.nrcvQue) hlog hdrop
    exact ⟨hrefill, ⟨hlater.next, hlater.got⟩, hacks⟩

end WirelessEsp.Kcp
