import WirelessEsp.WebsocketText

namespace WirelessEsp.WebsocketFragments

open EventRuns Rfc6455 FrameParts WebsocketServer WebsocketSync WebsocketBuffer WebsocketAnswers
  WebsocketTrace WebsocketEntries WebsocketText

/-- A message of a text or binary frame and the frames that continue it, with control frames
between them, behind the frames `pre` of the stream. -/
structure MessageAt (chunks : List (List UInt8)) (pre : List Frame) (first : Frame)
    (rest : List Frame) : Prop where
  place : ∃ before message later, chunks.flatten = before ++ (message ++ later) ∧
    decode before = some pre ∧ decode message = some (first :: rest)
  begins : first.header.opcode = WS_OPCODE_TEXT ∨ first.header.opcode = WS_OPCODE_BINARY
  goes : ∀ f ∈ rest,
    f.header.opcode ∈ [WS_OPCODE_CONTINUATION, WS_OPCODE_PING, WS_OPCODE_PONG]

/-- Every continuation frame is handed on, as a whole, under the opcode of the first frame, which
is the frame number `k` of the stream. -/
def KeepsOpcode (addr : UInt32) (chunks : List (List UInt8)) (k : Nat) (first : Frame)
    (rest : List Frame) : Prop :=
  ∃ b s, websocketWorker (Session.start addr) chunks = some (b, s) ∧
    ∀ i f, rest[i]? = some f → f.header.opcode = WS_OPCODE_CONTINUATION →
      ∃ n, entry s.log (k + 1 + i) = some n ∧ n.opcode = first.header.opcode ∧
        n.handed = f.payload

/-- The message finds the session open, no control frame is between its first frame and the one
at hand, and no text among them is stored through the null pointer. -/
structure Continues (chunks : List (List UInt8)) (k : Nat) (first : Frame) (rest : List Frame)
    (i : Nat) : Prop where
  opened : OpenAt chunks k
  plain : ∀ f ∈ rest.take i, f.header.opcode = WS_OPCODE_CONTINUATION
  stored : ∀ g ∈ ((cutFrames chunks).drop k).take (i + 2),
    first.header.opcode = WS_OPCODE_TEXT → FirstPartFits g

variable {d d' : Dispatch} {f : CutFrame} {es log : List Event} {r : Option Dispatch}
  {head last : List UInt8} {earlier ps : List (List UInt8)} {gs : List CutFrame}

theorem partAnswer_same {pong : List UInt8} (hop : d.opcode ≠ WS_OPCODE_TEXT)
    (h : (partAnswer d f pong).2 = some d') : d' = d := by
  rw [partAnswer, if_neg hop] at h
  repeat' split at h
  all_goals cases h <;> rfl

theorem run_parts_same {fs : List CutFrame} (hop : d.opcode ≠ WS_OPCODE_TEXT)
    (h : Run Step d (fs.map .part) es (some d')) : d' = d := by
  induction fs generalizing es with
  | nil => cases h; rfl
  | cons f fs ih =>
      rw [List.map_cons] at h
      cases h with
      | cons first rest =>
          obtain ⟨pong, -, -, hr⟩ := step_part first
          cases partAnswer_same hop hr.symm
          exact ih rest

theorem run_parts_opcode {fs : List CutFrame} (h : Run Step d (fs.map .part) es (some d')) :
    d'.opcode = d.opcode := by
  induction fs generalizing d es with
  | nil => cases h; rfl
  | cons f fs ih =>
      rw [List.map_cons] at h
      cases h with
      | cons first rest =>
          obtain ⟨pong, -, -, hr⟩ := step_part first
          exact (ih rest).trans (partAnswer_opcode hr.symm)

theorem run_parts_open {fs : List CutFrame} (hop : d.opcode = WS_OPCODE_BINARY)
    (h : Run Step d (fs.map .part) es r) : r ≠ none := by
  have hanswer (f : CutFrame) (pong : List UInt8) : (partAnswer d f pong).2 = some d := by
    rw [partAnswer, if_neg (by rw [hop]; decide), if_pos hop]
  induction fs generalizing es with
  | nil => cases h; exact Option.some_ne_none d
  | cons f fs ih =>
      rw [List.map_cons] at h
      cases h with
      | stop last =>
          obtain ⟨pong, -, -, hr⟩ := step_part last
          rw [hanswer] at hr
          cases hr
      | cons first rest =>
          obtain ⟨pong, -, -, hr⟩ := step_part first
          rw [hanswer] at hr
          cases hr
          exact ih rest

theorem run_frame_same (hskip : d.skip = false) (hc : Closed f)
    (h : Run Step d (partItems f) es (some d')) : d' = d := by
  by_cases hop : d.opcode = WS_OPCODE_TEXT
  · have hr := (run_text_frame hop hskip hc h).2
    split at hr
    · cases hr
    · exact Option.some.inj hr
  · rw [partItems_parts] at h
    exact run_parts_same hop h

theorem run_frames_state (hskip : d.skip = false) (hgs : ∀ g ∈ gs, Closed g)
    (h : Run Step d (gs.flatMap CutFrame.items) log (some d')) :
    d' = ⟨(gs.map fun g => g.header.opcode).foldl resolve d.opcode, false⟩ := by
  induction gs generalizing d log with
  | nil =>
      cases h
      rw [← hskip]
      rfl
  | cons g gs ih =>
      obtain ⟨es, rfl, hrun⟩ := run_cons h
      rcases hrun.split with ⟨es₁, es₂, d₁, rfl, h₁, h₂⟩ | ⟨hnone, -⟩
      · cases run_frame_same (d := d.under g.header) hskip (hgs g List.mem_cons_self) h₁
        exact ih (d := d.under g.header) hskip (fun g hg => hgs g (List.mem_cons_of_mem _ hg)) h₂
      · cases hnone

theorem foldl_resolve_plain {ops : List UInt8} (o : UInt8)
    (h : ∀ op ∈ ops, op = WS_OPCODE_CONTINUATION) : ops.foldl resolve o = o := by
  induction ops with
  | nil => rfl
  | cons op ops ih =>
      rw [List.foldl_cons, resolve, if_pos (h op List.mem_cons_self)]
      exact ih fun op hop => h op (List.mem_cons_of_mem _ hop)

theorem foldl_resolve_cases (o : UInt8) (ops : List UInt8) :
    (∀ op ∈ ops, op = WS_OPCODE_CONTINUATION) ∨
      (ops.foldl resolve o ∈ ops ∧ ops.foldl resolve o ≠ WS_OPCODE_CONTINUATION) := by
  induction ops generalizing o with
  | nil => exact .inl fun op h => by cases h
  | cons op ops ih =>
      rw [List.foldl_cons]
      rcases ih (resolve o op) with hplain | ⟨hmem, hne⟩
      · by_cases hop : op = WS_OPCODE_CONTINUATION
        · exact .inl (List.forall_mem_cons.mpr ⟨hop, hplain⟩)
        · rw [foldl_resolve_plain _ hplain, resolve, if_neg hop]
          exact .inr ⟨List.mem_cons_self, hop⟩
      · exact .inr ⟨List.mem_cons_of_mem _ hmem, hne⟩

theorem handedOf_append (xs ys : List Event) :
    handedOf (xs ++ ys) = handedOf xs ++ handedOf ys := by
  rw [handedOf, List.filterMap_append, List.flatten_append]
  rfl

theorem partAnswer_handed (d : Dispatch) (f : CutFrame) (pong : List UInt8) :
    handedOf (partAnswer d f pong).1 = [] := by
  rw [partAnswer, textPart]
  repeat' split
  all_goals rfl

theorem handedOf_part {pong : List UInt8} (hop : d.opcode ≠ WS_OPCODE_PING) :
    handedOf (.payload (handedOn d f) :: (partAnswer d f pong).1) = f.data := by
  change handedOn d f ++ handedOf (partAnswer d f pong).1 = f.data
  rw [partAnswer_handed, List.append_nil, handedOn, if_neg hop]

theorem run_handed (hop : d.opcode ≠ WS_OPCODE_PING)
    (h : Run Step d ((snapshots head earlier ps).map .part) es r) :
    (handedOf es).length ≤ ps.flatten.length ∧
      (r ≠ none → handedOf es = unmask (headerOf head).key earlier.flatten.length ps.flatten) := by
  induction ps generalizing d earlier es with
  | nil =>
      cases h
      refine ⟨Nat.le_refl _, fun _ => ?_⟩
      exact (List.eq_nil_of_length_eq_zero (unmask_length _ _ _)).symm
  | cons p ps ih =>
      have hdata : (⟨head, earlier, p⟩ : CutFrame).data =
          unmask (headerOf head).key earlier.flatten.length p := rfl
      rw [snapshots, List.map_cons] at h
      cases h with
      | stop first =>
          obtain ⟨pong, -, rfl, -⟩ := step_part first
          refine ⟨?_, fun hne => absurd rfl hne⟩
          rw [handedOf_part hop, hdata, unmask_length, List.flatten_cons, List.length_append]
          exact Nat.le_add_right _ _
      | @cons _ d₁ _ _ _ es' _ first rest =>
          obtain ⟨pong, -, rfl, hr⟩ := step_part first
          have hop₁ : d₁.opcode ≠ WS_OPCODE_PING := by
            rw [partAnswer_opcode hr.symm]
            exact hop
          obtain ⟨hle, hall⟩ := ih hop₁ rest
          rw [handedOf_append, handedOf_part hop, hdata]
          refine ⟨?_, fun hne => ?_⟩
          · rw [List.length_append, unmask_length, List.flatten_cons, List.length_append]
            exact Nat.add_le_add_left hle _
          · rw [hall hne, List.flatten_cons, unmask_append, List.flatten_append,
              List.length_append, List.flatten_singleton]

theorem textPart_last (hlen : f.last.length = left f) : (textPart d f.data (left f)).2 ≠ none := by
  rw [textPart, data_length, if_pos hlen]
  split <;> simp

theorem run_text_handed (hop : d.opcode = WS_OPCODE_TEXT) (hc : Closed f)
    (h : Run Step d (partItems f) es none) : (handedOf es).length < f.header.length := by
  have hping : d.opcode ≠ WS_OPCODE_PING := by rw [hop]; decide
  have hlast : f.last.length = left f := by
    rw [left, hc.length, CutFrame.body, List.length_append]
    omega
  rw [partItems] at h
  rcases h.split with ⟨es₁, es₂, d₁, -, h₁, h₂⟩ | ⟨-, h₁⟩
  · have hop₁ : d₁.opcode = WS_OPCODE_TEXT := (run_parts_opcode h₁).trans hop
    cases h₂ with
    | stop last =>
        obtain ⟨pong, -, -, hr⟩ := step_part last
        rw [partAnswer_text hop₁] at hr
        exact absurd hr.symm (textPart_last hlast)
    | cons _ rest => cases rest
  · refine Nat.lt_of_le_of_lt (run_handed hping h₁).1 (hc.more ?_)
    intro hnil
    rw [hnil] at h₁
    cases h₁

theorem run_frame_handed (hop : d.opcode ≠ WS_OPCODE_PING) (hr : r ≠ none)
    (h : Run Step d (partItems f) es r) : handedOf es = f.payload := by
  rw [partItems_parts] at h
  rw [(run_handed hop h).2 hr, List.flatten_append, List.flatten_singleton]
  rfl

theorem run_frame_open (hop : d.opcode = WS_OPCODE_TEXT ∨ d.opcode = WS_OPCODE_BINARY)
    (hskip : d.skip = false) (hc : Closed f) (h : Run Step d (partItems f) es r) :
    r ≠ none ↔ (d.opcode = WS_OPCODE_TEXT → FirstPartFits f) := by
  rcases hop with htext | hbinary
  · have hr := (run_text_frame htext hskip hc h).2
    by_cases hfits : FirstPartFits f
    · rw [if_neg (fun hnull => textReply_eq_nullWrite.mp hnull hfits)] at hr
      simp [hr, hfits]
    · rw [if_pos (textReply_eq_nullWrite.mpr hfits)] at hr
      simp [hr, hfits, htext]
  · rw [partItems_parts] at h
    have hne : d.opcode ≠ WS_OPCODE_TEXT := by rw [hbinary]; decide
    simp [run_parts_open hbinary h, hne]

variable {op : UInt8} {g : CutFrame}

theorem run_cons_open (hop : op = WS_OPCODE_TEXT ∨ op = WS_OPCODE_BINARY)
    (hunder : (d.under g.header).opcode = op) (hskip : d.skip = false) (hc : Closed g)
    (h : Run Step d ((g :: gs).flatMap CutFrame.items) log r) :
    ((op = WS_OPCODE_TEXT → FirstPartFits g) ∧
      ∃ es, Run Step (d.under g.header) (gs.flatMap CutFrame.items) es r) ∨
    (¬ (op = WS_OPCODE_TEXT → FirstPartFits g) ∧ r = none) := by
  obtain ⟨es, rfl, hrun⟩ := run_cons h
  rw [← hunder] at hop ⊢
  have hskip' : (d.under g.header).skip = false := hskip
  rcases hrun.split with ⟨es₁, es₂, d₁, -, h₁, h₂⟩ | ⟨hr, h₁⟩
  · cases run_frame_same hskip' hc h₁
    exact .inl ⟨(run_frame_open hop hskip' hc h₁).mp (Option.some_ne_none _), es₂, h₂⟩
  · refine .inr ⟨fun hfits => ?_, hr⟩
    exact (run_frame_open hop hskip' hc h₁).mpr hfits rfl

theorem run_plain_open (hop : op = WS_OPCODE_TEXT ∨ op = WS_OPCODE_BINARY) (hd : d.opcode = op)
    (hskip : d.skip = false)
    (hgs : ∀ g ∈ gs, Closed g ∧ g.header.opcode = WS_OPCODE_CONTINUATION)
    (h : Run Step d (gs.flatMap CutFrame.items) log r) :
    r ≠ none ↔ ∀ g ∈ gs, op = WS_OPCODE_TEXT → FirstPartFits g := by
  induction gs generalizing d log with
  | nil =>
      cases h
      simp
  | cons g gs ih =>
      obtain ⟨hc, hcont⟩ := hgs g List.mem_cons_self
      have hunder : (d.under g.header).opcode = op := (if_pos hcont).trans hd
      rw [List.forall_mem_cons]
      rcases run_cons_open hop hunder hskip hc h with ⟨hfits, es, hrun⟩ | ⟨hno, hr⟩
      · rw [ih (d := d.under g.header) hunder hskip
          (fun g hg => hgs g (List.mem_cons_of_mem _ hg)) hrun]
        exact (and_iff_right hfits).symm
      · exact ⟨fun hne => absurd hr hne, fun hall => absurd hall.1 hno⟩

/-- The session stays open over the first frames of a message, with no control frame among them,
exactly when no text of theirs is stored. -/
theorem run_message_open (hop : op = WS_OPCODE_TEXT ∨ op = WS_OPCODE_BINARY)
    (hg : g.header.opcode = op) (hskip : d.skip = false) (hc : Closed g)
    (hgs : ∀ g ∈ gs, Closed g ∧ g.header.opcode = WS_OPCODE_CONTINUATION)
    (h : Run Step d ((g :: gs).flatMap CutFrame.items) log r) :
    r ≠ none ↔ ∀ h ∈ g :: gs, op = WS_OPCODE_TEXT → FirstPartFits h := by
  have hne : g.header.opcode ≠ WS_OPCODE_CONTINUATION := by
    rcases hop with rfl | rfl <;> rw [hg] <;> decide
  have hunder : (d.under g.header).opcode = op := (under_opcode hne).trans hg
  rw [List.forall_mem_cons]
  rcases run_cons_open hop hunder hskip hc h with ⟨hfits, es, hrun⟩ | ⟨hno, hr⟩
  · rw [run_plain_open (d := d.under g.header) hop hunder hskip hgs hrun]
    exact (and_iff_right hfits).symm
  · exact ⟨fun hne => absurd hr hne, fun hall => absurd hall.1 hno⟩

variable {chunks : List (List UInt8)} {pre : List Frame} {first frame : Frame} {rest : List Frame}
  {i : Nat}

theorem MessageAt.cut (hm : MessageAt chunks pre first rest) :
    ∃ cp g cs more, cutFrames chunks = cp ++ (g :: cs ++ more) ∧ cp.length = pre.length ∧
      (∀ h ∈ cp ++ g :: cs, Closed h) ∧ g.frame = first ∧ cs.map CutFrame.frame = rest := by
  obtain ⟨before, message, later, hflat, hpre, hdec⟩ := hm.place
  obtain ⟨cp, cm, more, tail, hcut, hmap, hclosed, htail, hrest⟩ := cutFrames_front hflat hpre
  obtain ⟨cg, cl, rfl, hframes, -⟩ := next_frames
    (fun h hh => hclosed h (List.mem_append_right _ hh)) htail hrest hdec
  cases cg with
  | nil => cases hframes
  | cons g cs =>
      simp only [List.map_cons, List.cons.injEq] at hframes
      refine ⟨cp, g, cs, cl ++ more, by rw [hcut, List.append_assoc], ?_, ?_, hframes.1, hframes.2⟩
      · rw [← hmap, List.length_map]
      · intro h hh
        refine hclosed h ?_
        rw [← List.append_assoc]
        exact List.mem_append_left _ hh

theorem MessageAt.split (hm : MessageAt chunks pre first rest) (hi : rest[i]? = some frame) :
    ∃ cp g cs f more, cutFrames chunks = cp ++ g :: cs ++ f :: more ∧ cp.length = pre.length ∧
      cs.length = i ∧ (∀ h ∈ cp ++ g :: cs, Closed h) ∧ Closed f ∧ g.frame = first ∧
      cs.map CutFrame.frame = rest.take i ∧ f.frame = frame := by
  obtain ⟨cp, g, cs, more, hcut, hlen, hclosed, hg, rfl⟩ := hm.cut
  rw [List.getElem?_map, Option.map_eq_some_iff] at hi
  obtain ⟨f, hf, rfl⟩ := hi
  obtain ⟨fs, gs, rfl, rfl⟩ := getElem?_split hf
  have hmem : ∀ h ∈ cp ++ g :: fs ++ f :: gs, Closed h := by
    intro h hh
    rw [List.append_assoc] at hh
    exact hclosed h hh
  refine ⟨cp, g, fs, f, gs ++ more, ?_, hlen, rfl, fun h hh => hmem h (List.mem_append_left _ hh),
    hmem f (List.mem_append_right _ List.mem_cons_self), hg, ?_, rfl⟩
  · simp only [hcut, List.cons_append, List.append_assoc]
  · rw [List.map_append, List.take_left' (List.length_map _)]

/-- Between the first frame and the one at hand are continuation frames only, exactly when the
opcode of the first is the one left behind. -/
theorem foldl_resolve_message {cs : List CutFrame} (o : UInt8)
    (hop : op = WS_OPCODE_TEXT ∨ op = WS_OPCODE_BINARY) (hg : g.header.opcode = op)
    (hcs : ∀ h ∈ cs, h.header.opcode ∈ [WS_OPCODE_CONTINUATION, WS_OPCODE_PING, WS_OPCODE_PONG]) :
    ((g :: cs).map fun h => h.header.opcode).foldl resolve o = op ↔
      ∀ h ∈ cs, h.header.opcode = WS_OPCODE_CONTINUATION := by
  have hne : op ≠ WS_OPCODE_CONTINUATION := by rcases hop with rfl | rfl <;> decide
  rw [List.map_cons, List.foldl_cons, hg, resolve, if_neg hne]
  refine ⟨fun heq => ?_, fun hplain => foldl_resolve_plain op (List.forall_mem_map.mpr hplain)⟩
  rcases foldl_resolve_cases op (cs.map fun h => h.header.opcode) with hplain | ⟨hmem, -⟩
  · exact List.forall_mem_map.mp hplain
  · rw [heq] at hmem
    obtain ⟨h, hh, heq'⟩ := List.mem_map.mp hmem
    have hin := hcs h hh
    rw [heq'] at hin
    rcases hop with rfl | rfl <;> exact absurd hin (by decide)

theorem run_fragment_handed (hop : d.opcode = WS_OPCODE_TEXT ∨ d.opcode = WS_OPCODE_BINARY)
    (hskip : d.skip = false) (hc : Closed f) (h : Run Step d (partItems f) es r) :
    handedOf es = f.payload ↔ (d.opcode = WS_OPCODE_TEXT → FirstPartFits f) := by
  have hping : d.opcode ≠ WS_OPCODE_PING := by rcases hop with hop | hop <;> rw [hop] <;> decide
  rw [← run_frame_open hop hskip hc h]
  refine ⟨fun heq hnone => ?_, fun hr => run_frame_handed hping hr h⟩
  rcases hop with htext | hbinary
  · rw [hnone] at h
    have hlt := run_text_handed htext hc h
    rw [heq, payload_length, hc.length] at hlt
    exact Nat.lt_irrefl _ hlt
  · rw [partItems_parts] at h
    exact run_parts_open hbinary h hnone

theorem fragment_entry {cp cs more : List CutFrame} (hop : op = WS_OPCODE_TEXT ∨ op = WS_OPCODE_BINARY)
    (hg : g.header.opcode = op) (hclosed : ∀ h ∈ cp ++ g :: cs, Closed h) (hf : Closed f)
    (hcs : ∀ h ∈ cs, h.header.opcode ∈ [WS_OPCODE_CONTINUATION, WS_OPCODE_PING, WS_OPCODE_PONG])
    (hcont : f.header.opcode = WS_OPCODE_CONTINUATION)
    (hrun : Run Step .start ((cp ++ g :: cs ++ f :: more).flatMap CutFrame.items) log r) :
    (∃ n, entry log (cp ++ g :: cs).length = some n ∧ n.opcode = op ∧ n.handed = f.payload) ↔
      (after .start (cp.flatMap CutFrame.items)).isSome ∧
        (∀ h ∈ cs, h.header.opcode = WS_OPCODE_CONTINUATION) ∧
          ∀ h ∈ g :: cs ++ [f], op = WS_OPCODE_TEXT → FirstPartFits h := by
  have hcp : ∀ h ∈ cp, Closed h := fun h hh => hclosed h (List.mem_append_left _ hh)
  have hcgs : ∀ h ∈ g :: cs, Closed h := fun h hh => hclosed h (List.mem_append_right _ hh)
  have hclosedCs : ∀ h ∈ cs, Closed h := fun h hh => hcgs h (List.mem_cons_of_mem _ hh)
  have hgc : Closed g := hcgs g List.mem_cons_self
  have hparts := hrun
  rw [List.append_assoc, List.flatMap_append] at hparts
  rcases hparts.split with ⟨es₁, es₂, d₀, -, h₁, h₂⟩ | ⟨-, h₁⟩
  · -- the message finds the session open
    have hskip₀ : d₀.skip = false := by rw [run_frames_state rfl hcp h₁]
    rw [after_eq h₁, and_iff_right (by rfl)]
    rw [List.flatMap_append] at h₂
    rcases h₂.split with ⟨es₃, es₄, d', -, h₃, -⟩ | ⟨-, h₃⟩
    · have hwhole := h₁.append h₃
      rw [← List.flatMap_append] at hwhole
      obtain ⟨es', r', hthis, hentry⟩ := entry_open hrun (after_eq hwhole)
      have hd' := run_frames_state hskip₀ hcgs h₃
      have hskip' : (d'.under f.header).skip = false := by rw [hd']; rfl
      have hopcode : resolve d'.opcode f.header.opcode = d'.opcode := if_pos hcont
      have hleft := foldl_resolve_message d₀.opcode hop hg hcs
      rw [show List.foldl _ _ _ = d'.opcode from (congrArg Dispatch.opcode hd').symm] at hleft
      rw [hentry, ← hleft]
      refine ⟨fun ⟨n, hn, hnop, hhanded⟩ => ?_, fun ⟨hd, hall⟩ => ?_⟩
      · cases hn
        have hd : d'.opcode = op := hopcode.symm.trans hnop
        have hplain := hleft.mp hd
        have hbefore := (run_message_open hop hg hskip₀ hgc
          (fun h hh => ⟨hclosedCs h hh, hplain h hh⟩) h₃).mp (Option.some_ne_none _)
        have hunder : (d'.under f.header).opcode = op := hopcode.trans hd
        refine ⟨hd, List.forall_mem_append.mpr ⟨hbefore, ?_⟩⟩
        rw [List.forall_mem_singleton, ← hunder]
        rw [← hunder] at hop
        exact (run_fragment_handed hop hskip' hf hthis).mp hhanded
      · have hunder : (d'.under f.header).opcode = op := hopcode.trans hd
        have hfits := hall f (List.mem_append_right _ (List.mem_singleton_self f))
        rw [← hunder] at hfits hop
        exact ⟨_, rfl, hunder, (run_fragment_handed hop hskip' hf hthis).mpr hfits⟩
    · have hwhole := h₁.append h₃
      rw [← List.flatMap_append] at hwhole
      rw [entry_ended hrun (after_eq hwhole)]
      refine ⟨fun ⟨n, hn, _⟩ => (by cases hn), fun ⟨hplain, hall⟩ => ?_⟩
      exact absurd rfl ((run_message_open hop hg hskip₀ hgc
        (fun h hh => ⟨hclosedCs h hh, hplain h hh⟩) h₃).mpr
          fun h hh => hall h (List.mem_append_left _ hh))
  · have hwhole := h₁.stopped (List.prefix_append _ ((g :: cs).flatMap CutFrame.items))
    rw [← List.flatMap_append] at hwhole
    rw [after_eq h₁, entry_ended hrun (after_eq hwhole)]
    exact ⟨fun ⟨n, hn, _⟩ => (by cases hn), fun ⟨h, _⟩ => (by cases h)⟩

theorem fragment_handed_iff (hm : MessageAt chunks pre first rest)
    (hrun : Run Step .start ((cutFrames chunks).flatMap CutFrame.items) log r)
    (hi : rest[i]? = some frame) (hcont : frame.header.opcode = WS_OPCODE_CONTINUATION) :
    (∃ n, entry log (pre.length + 1 + i) = some n ∧ n.opcode = first.header.opcode ∧
      n.handed = frame.payload) ↔ Continues chunks pre.length first rest i := by
  obtain ⟨cp, g, cs, f, more, hcut, hlen, rfl, hclosed, hf, rfl, hcs, rfl⟩ := hm.split hi
  have hopen : OpenAt chunks pre.length ↔
      (after .start (cp.flatMap CutFrame.items)).isSome := by
    rw [List.append_assoc] at hcut
    rw [← hlen]
    exact openAt_split hcut
  have hplain : (∀ h ∈ rest.take cs.length, h.header.opcode = WS_OPCODE_CONTINUATION) ↔
      ∀ h ∈ cs, h.header.opcode = WS_OPCODE_CONTINUATION := by
    rw [← hcs, List.forall_mem_map]
    rfl
  have hmessage : ((cutFrames chunks).drop pre.length).take (cs.length + 2) = g :: cs ++ [f] := by
    rw [hcut, ← hlen, List.append_assoc, List.drop_left]
    have hfront : g :: cs ++ f :: more = (g :: cs ++ [f]) ++ more := by simp
    rw [hfront]
    exact List.take_left' (by simp)
  have hnumber : pre.length + 1 + cs.length = (cp ++ g :: cs).length := by
    rw [List.length_append, List.length_cons, hlen]
    omega
  have hgoes : ∀ h ∈ cs,
      h.header.opcode ∈ [WS_OPCODE_CONTINUATION, WS_OPCODE_PING, WS_OPCODE_PONG] := by
    intro h hh
    have hmem : h.frame ∈ rest.take cs.length := by
      rw [← hcs]
      exact List.mem_map_of_mem hh
    exact hm.goes h.frame (List.mem_of_mem_take hmem)
  rw [hcut] at hrun
  rw [hnumber]
  refine (fragment_entry hm.begins rfl hclosed hf hgoes hcont hrun).trans ?_
  rw [← hopen, ← hplain, ← hmessage]
  exact ⟨fun ⟨h₁, h₂, h₃⟩ => ⟨h₁, h₂, h₃⟩, fun h => ⟨h.opened, h.plain, h.stored⟩⟩

/-- A continuation frame is handed on under the opcode of the first frame exactly when the
session is open at the message, no control frame comes between, and no text is stored. -/
theorem keepsOpcode_iff (addr : UInt32) (hfits : Fits (Session.start addr) chunks)
    (hstream : Stream chunks) (hm : MessageAt chunks pre first rest) :
    KeepsOpcode addr chunks pre.length first rest ↔
      ∀ i f, rest[i]? = some f → f.header.opcode = WS_OPCODE_CONTINUATION →
        Continues chunks pre.length first rest i := by
  obtain ⟨b, s, r, hw, hrun, -⟩ := log_follows addr hfits hstream
  refine ⟨fun ⟨b', s', hw', hall⟩ i f hi hcont => ?_, fun hall => ⟨b, s, hw, fun i f hi hcont => ?_⟩⟩
  · rw [hw] at hw'
    cases hw'
    exact (fragment_handed_iff hm hrun hi hcont).mp (hall i f hi hcont)
  · exact (fragment_handed_iff hm hrun hi hcont).mpr (hall i f hi hcont)

/-- A binary message of two frames, cut in the mask of the second, with a ping behind it. -/
theorem keepsOpcode_two_frames :
    KeepsOpcode 0 [[0x02, 0x81, 1, 2, 3, 4, 5, 0x80, 0x82, 6, 7], [8, 9, 0x16, 0x27, 0x89, 0x80],
      [0, 0, 0, 0]] 0 ⟨⟨false, 0, 2, some [1, 2, 3, 4], 1⟩, [4]⟩
      [⟨⟨true, 0, 0, some [6, 7, 8, 9], 2⟩, [0x10, 0x20]⟩] := by
  have hfits : Fits (Session.start 0)
      [[0x02, 0x81, 1, 2, 3, 4, 5, 0x80, 0x82, 6, 7], [8, 9, 0x16, 0x27, 0x89, 0x80],
        [0, 0, 0, 0]] := fits_of_small (rest_start 0) (by decide)
  have hstream : Stream
      [[0x02, 0x81, 1, 2, 3, 4, 5, 0x80, 0x82, 6, 7], [8, 9, 0x16, 0x27, 0x89, 0x80],
        [0, 0, 0, 0]] :=
    ⟨[], [⟨⟨false, 0, 2, some [1, 2, 3, 4], 1⟩, [4]⟩,
      ⟨⟨true, 0, 0, some [6, 7, 8, 9], 2⟩, [0x10, 0x20]⟩,
      ⟨⟨true, 0, 9, some [0, 0, 0, 0], 0⟩, []⟩], by decide, by decide⟩
  have hm : MessageAt
      [[0x02, 0x81, 1, 2, 3, 4, 5, 0x80, 0x82, 6, 7], [8, 9, 0x16, 0x27, 0x89, 0x80],
        [0, 0, 0, 0]] [] ⟨⟨false, 0, 2, some [1, 2, 3, 4], 1⟩, [4]⟩
      [⟨⟨true, 0, 0, some [6, 7, 8, 9], 2⟩, [0x10, 0x20]⟩] :=
    ⟨⟨[], [0x02, 0x81, 1, 2, 3, 4, 5, 0x80, 0x82, 6, 7, 8, 9, 0x16, 0x27],
      [0x89, 0x80, 0, 0, 0, 0], by decide, by decide, by decide⟩, by decide, by decide⟩
  refine (keepsOpcode_iff 0 hfits hstream hm).mpr fun i f hi _ => ?_
  cases i with
  | zero => exact ⟨by decide, by decide, by decide⟩
  | succ i => cases hi

/-- A ping between the two frames of a message: what continues the message is taken for a ping. -/
theorem not_keepsOpcode_always :
    ¬ ∀ (addr : UInt32) (chunks : List (List UInt8)) (pre : List Frame) (first : Frame)
      (rest : List Frame), Fits (Session.start addr) chunks → Stream chunks →
      MessageAt chunks pre first rest → KeepsOpcode addr chunks pre.length first rest := by
  intro hall
  have hfits : Fits (Session.start 0)
      [[0x02, 0x81, 1, 2, 3, 4, 5], [0x89, 0x80, 0, 0, 0, 0], [0x80, 0x81, 1, 2, 3, 4, 5]] :=
    fits_of_small (rest_start 0) (by decide)
  have hstream : Stream
      [[0x02, 0x81, 1, 2, 3, 4, 5], [0x89, 0x80, 0, 0, 0, 0], [0x80, 0x81, 1, 2, 3, 4, 5]] :=
    ⟨[], [⟨⟨false, 0, 2, some [1, 2, 3, 4], 1⟩, [4]⟩, ⟨⟨true, 0, 9, some [0, 0, 0, 0], 0⟩, []⟩,
      ⟨⟨true, 0, 0, some [1, 2, 3, 4], 1⟩, [4]⟩], by decide, by decide⟩
  have hm : MessageAt
      [[0x02, 0x81, 1, 2, 3, 4, 5], [0x89, 0x80, 0, 0, 0, 0], [0x80, 0x81, 1, 2, 3, 4, 5]] []
      ⟨⟨false, 0, 2, some [1, 2, 3, 4], 1⟩, [4]⟩ [⟨⟨true, 0, 9, some [0, 0, 0, 0], 0⟩, []⟩,
      ⟨⟨true, 0, 0, some [1, 2, 3, 4], 1⟩, [4]⟩] :=
    ⟨⟨[], _, [], by rw [List.append_nil]; rfl, by decide, by decide⟩, by decide, by decide⟩
  obtain ⟨b, s, r, hw, hrun, -⟩ := log_follows 0 hfits hstream
  obtain ⟨b', s', hw', hkeeps⟩ := hall 0 _ _ _ _ hfits hstream hm
  rw [hw] at hw'
  cases hw'
  have hc := (fragment_handed_iff hm hrun rfl rfl).mp (hkeeps 1 _ rfl rfl)
  exact absurd hc.plain (by decide)

end WirelessEsp.WebsocketFragments
