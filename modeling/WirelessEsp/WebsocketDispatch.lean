import WirelessEsp.WebsocketSync

namespace WirelessEsp.WebsocketDispatch

open Rfc6455 WebsocketServer WebsocketHeader WebsocketPayload WebsocketSync

/-- A masked binary message in one frame that the receive buffer can hold. -/
structure Message (f : Frame) : Prop where
  fin : f.header.fin = true
  rsv : f.header.rsv = 0
  opcode : f.header.opcode = WS_OPCODE_BINARY
  masked : f.header.key.isSome = true
  fits : f.header.length ≤ CONFIG_CO_SOCKET_BUFFER_SIZE

def cuts : Decoder → List (List UInt8) → Nat
  | _, [] => 0
  | d, bytes :: rest => (if d.inPayload then 1 else 0) + cuts (d.bytes bytes) rest

/-- No chunk but the last ends between the header of a frame and the end of its payload. -/
def Uncut (chunks : List (List UInt8)) : Prop :=
  ∀ before after, chunks = before ++ after → after ≠ [] →
    (Decoder.init.bytes before.flatten).inPayload = false

theorem Message.plain {f : Frame} (hm : Message f) : Plain f.header := by
  have hfits := hm.fits
  rw [CONFIG_CO_SOCKET_BUFFER_SIZE] at hfits
  exact ⟨hm.rsv, .inl hm.opcode, by omega⟩

theorem cuts_eq_zero (d : Decoder) (chunks : List (List UInt8)) :
    cuts d chunks = 0 ↔ ∀ before after, chunks = before ++ after → after ≠ [] →
      (d.bytes before.flatten).inPayload = false := by
  induction chunks generalizing d with
  | nil =>
      refine ⟨fun _ before after hsplit hne => ?_, fun _ => rfl⟩
      exact absurd (List.append_eq_nil_iff.mp hsplit.symm).2 hne
  | cons bytes rest ih =>
      rw [cuts, Nat.add_eq_zero_iff, ih]
      constructor
      · rintro ⟨hhere, hlater⟩ before after hsplit hne
        cases before with
        | nil =>
            rw [List.flatten_nil, bytes_nil]
            by_contra hin
            rw [Bool.not_eq_false] at hin
            simp [hin] at hhere
        | cons b before =>
            rw [List.cons_append, List.cons.injEq] at hsplit
            rw [List.flatten_cons, bytes_append, ← hsplit.1]
            exact hlater before after hsplit.2 hne
      · intro h
        refine ⟨?_, fun before after hsplit hne => ?_⟩
        · have hd := h [] (bytes :: rest) rfl (List.cons_ne_nil _ _)
          rw [List.flatten_nil, bytes_nil] at hd
          rw [hd]
          rfl
        · have hd := h (bytes :: before) after (by rw [hsplit, List.cons_append]) hne
          rw [List.flatten_cons, bytes_append] at hd
          exact hd

theorem uncut_iff (chunks : List (List UInt8)) : Uncut chunks ↔ cuts Decoder.init chunks = 0 :=
  (cuts_eq_zero Decoder.init chunks).symm

def AllBinary (d : Decoder) : Prop := ∀ f ∈ d.seen, f.header.opcode = WS_OPCODE_BINARY

theorem AllBinary.before {d : Decoder} {bytes : List UInt8} (hb : AllBinary (d.bytes bytes)) :
    AllBinary d := by
  intro f hf
  have hmem := (headers_bytes d bytes).subset (List.mem_map_of_mem hf)
  obtain ⟨g, hg, heq⟩ := List.mem_map.mp hmem
  rw [← heq]
  exact hb g hg

theorem binaryPayloads_all {fs : List Frame}
    (hb : ∀ f ∈ fs, f.header.opcode = WS_OPCODE_BINARY) :
    binaryPayloads fs = fs.map Frame.payload := by
  rw [binaryPayloads, List.filter_eq_self.mpr]
  intro f hf
  rw [hb f hf]
  rfl

/-- Each call of the parser makes one call for each header it comes to, and one
more when it starts inside a payload. -/
theorem callsOf_length {d d' : Decoder} {calls : List (List UInt8)} (hb : AllBinary d')
    (hc : CallsOf d d' calls) :
    calls.length + d.seen.length = d'.seen.length + if d.inPayload then 1 else 0 := by
  obtain ⟨fs, mode⟩ := d
  cases mode with
  | header seen =>
      obtain ⟨gs, hseen, rfl⟩ := hc
      have hgs : ∀ f ∈ gs, f.header.opcode = WS_OPCODE_BINARY :=
        fun f hf => hb f (hseen ▸ List.mem_append_right _ hf)
      rw [binaryPayloads_all hgs, hseen]
      simp only [Decoder.seen, Decoder.inPayload, List.length_map, List.length_append]
      simp only [Bool.false_eq_true, if_false]
      omega
  | payload h got =>
      obtain ⟨data, gs, hseen, rfl⟩ := hc
      have hgs : ∀ f ∈ gs, f.header.opcode = WS_OPCODE_BINARY :=
        fun f hf => hb f (hseen ▸ List.mem_append_right _ (List.mem_cons_of_mem _ hf))
      have hop : h.opcode = WS_OPCODE_BINARY :=
        hb ⟨h, got ++ data⟩ (hseen ▸ List.mem_append_right _ List.mem_cons_self)
      rw [binaryPayloads_all hgs, hseen, executedChunk, if_pos hop]
      simp only [Decoder.seen, Decoder.inPayload, List.length_map, List.length_append,
        List.length_cons, List.length_nil, if_true]
      omega

theorem callsAlong_length {d : Decoder} {chunks calls : List (List UInt8)}
    (hb : AllBinary (d.bytes chunks.flatten)) (hc : CallsAlong d chunks calls) :
    calls.length + d.seen.length = (d.bytes chunks.flatten).seen.length + cuts d chunks := by
  induction chunks generalizing d calls with
  | nil => rw [hc, List.flatten_nil, bytes_nil, cuts, List.length_nil]; omega
  | cons bytes rest ih =>
      obtain ⟨here, later, hhere, hlater, rfl⟩ := hc
      rw [List.flatten_cons, bytes_append] at hb ⊢
      have h1 := callsOf_length hb.before hhere
      have h2 := ih hb hlater
      rw [List.length_append, cuts]
      omega

theorem callsAlong_uncut {d : Decoder} {chunks calls : List (List UInt8)}
    (hcuts : cuts d chunks = 0) (hd : d.inPayload = false) (hc : CallsAlong d chunks calls) :
    ∃ gs, (d.bytes chunks.flatten).seen = d.frames ++ gs ∧ calls = binaryPayloads gs := by
  induction chunks generalizing d calls with
  | nil =>
      obtain ⟨fs, mode⟩ := d
      cases mode with
      | header seen => exact ⟨[], (List.append_nil _).symm, hc⟩
      | payload h got => cases hd
  | cons bytes rest ih =>
      obtain ⟨here, later, hhere, hlater, rfl⟩ := hc
      rw [cuts, Nat.add_eq_zero_iff] at hcuts
      obtain ⟨gs₁, hseen₁, hcall₁⟩ : ∃ gs, (d.bytes bytes).seen = d.frames ++ gs ∧
          here = binaryPayloads gs := by
        obtain ⟨fs, mode⟩ := d
        cases mode with
        | header seen => exact hhere
        | payload h got => cases hd
      rw [List.flatten_cons, bytes_append]
      by_cases hin : (d.bytes bytes).inPayload = true
      · cases rest with
        | nil =>
            refine ⟨gs₁, hseen₁, ?_⟩
            rw [show later = [] from hlater, hcall₁, List.append_nil]
        | cons b rest =>
            have h2 := hcuts.2
            rw [cuts, if_pos hin] at h2
            omega
      · rw [Bool.not_eq_true] at hin
        obtain ⟨gs₂, hseen₂, hcall₂⟩ := ih hcuts.2 hin hlater
        have hframes : (d.bytes bytes).seen = (d.bytes bytes).frames := by
          generalize d.bytes bytes = d₁ at hin
          obtain ⟨fs, mode⟩ := d₁
          cases mode with
          | header seen => rfl
          | payload h got => cases hin
        refine ⟨gs₁ ++ gs₂, ?_, ?_⟩
        · rw [hseen₂, ← hframes, hseen₁, List.append_assoc]
        · rw [hcall₁, hcall₂, binaryPayloads_append]

/-- The session calls the command processor once for each message, with its payload. -/
def ExecutesEach (addr : UInt32) (chunks : List (List UInt8)) (frames : List Frame) : Prop :=
  ∃ s, websocketWorker (Session.start addr) chunks = some (true, s) ∧
    executed s.log = frames.map Frame.payload

theorem websocketWorker_calls (addr : UInt32) {frames : List Frame} {chunks : List (List UInt8)}
    (hdec : decode chunks.flatten = some frames) (hmsg : ∀ f ∈ frames, Message f)
    (hfits : Fits (Session.start addr) chunks) :
    ∃ s calls, websocketWorker (Session.start addr) chunks = some (true, s) ∧
      CallsAlong Decoder.init chunks calls ∧ executed s.log = calls ∧
      AllBinary (Decoder.init.bytes chunks.flatten) := by
  obtain ⟨s, calls, hw, _, hcalls, hexec⟩ := websocketWorker_sim (sim_start addr) hfits
    (finishes_decode hdec (fun f hf => (hmsg f hf).plain))
  refine ⟨s, calls, hw, hcalls, hexec, ?_⟩
  rw [bytes_decode hdec]
  exact fun f hf => (hmsg f hf).opcode

/-- The dispatch is right exactly when no chunk ends inside a payload. -/
theorem executesEach_iff (addr : UInt32) {stream : List UInt8} {frames : List Frame}
    {chunks : List (List UInt8)} (hdec : decode stream = some frames)
    (hmsg : ∀ f ∈ frames, Message f) (hflat : chunks.flatten = stream)
    (hfits : Fits (Session.start addr) chunks) :
    ExecutesEach addr chunks frames ↔ Uncut chunks := by
  subst hflat
  obtain ⟨s, calls, hw, hcalls, hexec, hbin⟩ := websocketWorker_calls addr hdec hmsg hfits
  rw [uncut_iff]
  constructor
  · rintro ⟨s', hw', hexec'⟩
    have hs : s = s' := by rw [hw] at hw'; simpa using hw'
    have hlen := callsAlong_length hbin hcalls
    rw [← hexec, hs, hexec', bytes_decode hdec, List.length_map] at hlen
    simp only [Decoder.seen, Decoder.init, List.length_nil] at hlen
    exact (Nat.left_eq_add.mp hlen)
  · intro hcuts
    obtain ⟨gs, hseen, hgs⟩ := callsAlong_uncut hcuts rfl hcalls
    rw [bytes_decode hdec] at hseen
    have hframes : frames = gs := hseen
    refine ⟨s, hw, ?_⟩
    rw [hexec, hgs, ← hframes]
    exact binaryPayloads_all (fun f hf => (hmsg f hf).opcode)

/-- Two messages, the second cut inside its mask. -/
theorem executesEach_cut_in_mask :
    ExecutesEach 0 [[0x82, 0x82, 1, 2, 3, 4, 1, 3, 0x82, 0x81, 5, 6], [7, 8, 7]]
      [⟨⟨true, 0, 2, some [1, 2, 3, 4], 2⟩, [0, 1]⟩, ⟨⟨true, 0, 2, some [5, 6, 7, 8], 1⟩, [2]⟩] := by
  have hdec : decode [0x82, 0x82, 1, 2, 3, 4, 1, 3, 0x82, 0x81, 5, 6, 7, 8, 7] = some
      [⟨⟨true, 0, 2, some [1, 2, 3, 4], 2⟩, [0, 1]⟩,
        ⟨⟨true, 0, 2, some [5, 6, 7, 8], 1⟩, [2]⟩] := by decide
  have hmsg : ∀ f ∈ [Frame.mk ⟨true, 0, 2, some [1, 2, 3, 4], 2⟩ [0, 1],
      Frame.mk ⟨true, 0, 2, some [5, 6, 7, 8], 1⟩ [2]], Message f := by
    intro f hf
    rcases List.mem_pair.mp hf with rfl | rfl <;> exact ⟨rfl, rfl, rfl, rfl, by decide⟩
  refine (executesEach_iff 0 hdec hmsg rfl ?_).mpr ((uncut_iff _).mpr (by decide))
  exact fits_of_short (sim_start 0) (finishes_decode hdec fun f hf => (hmsg f hf).plain) (by decide)

/-- A message of two bytes that comes in two parts is executed in two parts. -/
theorem not_executesEach_always :
    ¬ ∀ (addr : UInt32) (stream : List UInt8) (frames : List Frame) (chunks : List (List UInt8)),
      decode stream = some frames → (∀ f ∈ frames, Message f) → chunks.flatten = stream →
      Fits (Session.start addr) chunks → ExecutesEach addr chunks frames := by
  intro hall
  have hdec : decode (List.flatten [[0x82, 0x82, 1, 2, 3, 4, 1], [3]]) = some
      [⟨⟨true, 0, 2, some [1, 2, 3, 4], 2⟩, [0, 1]⟩] := by decide
  have hmsg : ∀ f ∈ [Frame.mk ⟨true, 0, 2, some [1, 2, 3, 4], 2⟩ [0, 1]], Message f := by
    intro f hf
    rw [List.mem_singleton.mp hf]
    exact ⟨rfl, rfl, rfl, rfl, by decide⟩
  have hfits : Fits (Session.start 0) [[0x82, 0x82, 1, 2, 3, 4, 1], [3]] :=
    fits_of_short (sim_start 0) (finishes_decode hdec fun f hf => (hmsg f hf).plain) (by decide)
  obtain ⟨s, hw, hexec⟩ := hall 0 _ _ _ hdec hmsg rfl hfits
  obtain ⟨s', calls, hw', hcalls, hexec', hbin⟩ := websocketWorker_calls 0 hdec hmsg hfits
  have hs : s' = s := by rw [hw'] at hw; simpa using hw
  have hlen := callsAlong_length hbin hcalls
  rw [← hexec', hs, hexec] at hlen
  revert hlen
  decide

end WirelessEsp.WebsocketDispatch
