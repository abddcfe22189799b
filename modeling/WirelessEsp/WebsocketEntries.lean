import WirelessEsp.WebsocketTrace

namespace WirelessEsp.WebsocketEntries

open EventRuns Rfc6455 FrameParts WebsocketServer WebsocketSync WebsocketBuffer WebsocketAnswers
  WebsocketTrace

/-- A header that was established, with the events up to the next one. -/
structure Entry where
  fin : Bool
  opcode : UInt8
  mask : Bool
  payloadLen : Nat
  events : List Event
deriving DecidableEq, Repr

def isHeader : Event → Bool
  | .header _ _ _ _ => true
  | _ => false

def entry : List Event → Nat → Option Entry
  | [], _ => none
  | .header fin opcode mask payloadLen :: es, 0 =>
      some ⟨fin, opcode, mask, payloadLen, es.takeWhile fun e => !isHeader e⟩
  | .header _ _ _ _ :: es, k + 1 => entry es k
  | _ :: es, k => entry es k

def repliesOf (es : List Event) : List Event :=
  es.filter fun
    | .payload _ => false
    | _ => true

def handedOf (es : List Event) : List UInt8 :=
  (es.filterMap fun
    | .payload data => some data
    | _ => none).flatten

def Entry.replies (n : Entry) : List Event := repliesOf n.events

def Entry.handed (n : Entry) : List UInt8 := handedOf n.events

/-- The stream goes on to be a sequence of frames that the protocol defines. -/
def Stream (chunks : List (List UInt8)) : Prop :=
  ∃ later frames, decode (chunks.flatten ++ later) = some frames ∧ ∀ f ∈ frames, Known f.header

/-- The frames of a stream, cut where the chunks end. -/
def cutFrames (chunks : List (List UInt8)) : List CutFrame := (Cutter.init.chunks chunks).frames

/-- The dispatcher after some items; `none` when the session has ended. -/
def after (d : Dispatch) (items : List Item) : Option Dispatch := items.foldlM Dispatch.next d

/-- The session is still open when the frame number `k` begins. -/
def OpenAt (chunks : List (List UInt8)) (k : Nat) : Prop :=
  (after .start (((cutFrames chunks).take k).flatMap CutFrame.items)).isSome

instance (chunks : List (List UInt8)) (k : Nat) : Decidable (OpenAt chunks k) :=
  inferInstanceAs (Decidable (_ = true))

def entryOf (d : Dispatch) (h : Header) (events : List Event) : Entry :=
  ⟨h.fin, resolve d.opcode h.opcode, h.key.isSome, h.length, events⟩

variable {d : Dispatch} {f : CutFrame} {es log : List Event} {r : Option Dispatch} {k : Nat}

theorem entry_none (h : es.countP isHeader ≤ k) : entry es k = none := by
  induction es generalizing k with
  | nil => rfl
  | cons e es ih =>
      cases e with
      | header fin opcode mask payloadLen =>
          cases k with
          | zero => simp [isHeader] at h
          | succ k =>
              rw [List.countP_cons_of_pos rfl] at h
              exact ih (Nat.le_of_succ_le_succ h)
      | payload | processBinary | processText | send | sendMsgWithCode | nullWrite =>
          rw [List.countP_cons_of_neg (by exact Bool.false_ne_true)] at h
          exact ih h

theorem entry_append (xs ys : List Event) (k : Nat) :
    entry (xs ++ ys) (xs.countP isHeader + k) = entry ys k := by
  induction xs generalizing k with
  | nil => rw [List.nil_append, List.countP_nil, Nat.zero_add]
  | cons e xs ih =>
      cases e with
      | header fin opcode mask payloadLen =>
          rw [List.countP_cons_of_pos rfl, Nat.add_right_comm]
          exact ih k
      | payload | processBinary | processText | send | sendMsgWithCode | nullWrite =>
          rw [List.countP_cons_of_neg (by exact Bool.false_ne_true)]
          exact ih k

/-- No header is among the events. -/
def Quiet (es : List Event) : Prop := ∀ e ∈ es, isHeader e = false

def Opens (es : List Event) : Prop := ∀ e ∈ es.head?, isHeader e = true

theorem takeWhile_quiet {xs ys : List Event} (hx : Quiet xs) (hy : Opens ys) :
    (xs ++ ys).takeWhile (fun e => !isHeader e) = xs := by
  rw [List.takeWhile_append_of_pos (fun e he => by rw [hx e he]; rfl)]
  cases ys with
  | nil => exact List.append_nil _
  | cons y ys =>
      have hhead : isHeader y = true := hy y rfl
      rw [List.takeWhile_cons_of_neg (by rw [hhead]; decide), List.append_nil]

theorem entry_zero (d : Dispatch) (h : Header) {xs ys : List Event} (hx : Quiet xs)
    (hy : Opens ys) : entry (headerEvent d h :: (xs ++ ys)) 0 = some (entryOf d h xs) := by
  rw [headerEvent, entry, takeWhile_quiet hx hy]
  rfl

def isHead : Item → Bool
  | .header _ => true
  | .part _ => false

theorem partAnswer_quiet (d : Dispatch) (f : CutFrame) (pong : List UInt8) :
    Quiet (partAnswer d f pong).1 := by
  rw [partAnswer, textPart]
  repeat' split
  all_goals
    intro e he
    simp only [List.mem_singleton, List.not_mem_nil] at he
    try rw [he]; rfl

theorem step_count {i : Item} (h : Step d i es r) :
    es.countP isHeader = if isHead i then 1 else 0 := by
  cases h with
  | header bs => rfl
  | part f pong _ =>
      rw [List.countP_cons_of_neg (by exact Bool.false_ne_true)]
      exact List.countP_eq_zero.mpr fun e he => by simp [partAnswer_quiet d f pong e he]

theorem run_count {is : List Item} {d' : Dispatch} (h : Run Step d is es (some d')) :
    es.countP isHeader = is.countP isHead := by
  generalize hr : some d' = r at h
  induction h with
  | nil => rfl
  | cons first _ ih => rw [List.countP_append, step_count first, ih hr, List.countP_cons, Nat.add_comm]
  | stop => cases hr

theorem run_count_le {is : List Item} (h : Run Step d is es r) :
    es.countP isHeader ≤ is.countP isHead := by
  induction h with
  | nil => exact Nat.le_refl _
  | cons first _ ih =>
      rw [List.countP_append, step_count first, List.countP_cons, Nat.add_comm]
      exact Nat.add_le_add_right ih _
  | stop last as =>
      rw [step_count last, List.countP_cons]
      exact Nat.le_add_left _ _

def partItems (f : CutFrame) : List Item := (snapshots f.head [] f.earlier).map .part ++ [.part f]

theorem items_eq (f : CutFrame) : f.items = .header f.head :: partItems f := rfl

theorem partItems_quiet (f : CutFrame) : (partItems f).countP isHead = 0 := by
  refine List.countP_eq_zero.mpr fun i hi => ?_
  rcases List.mem_append.mp hi with hi | hi
  · obtain ⟨g, -, rfl⟩ := List.mem_map.mp hi
    exact Bool.false_ne_true
  · rw [List.mem_singleton.mp hi]
    exact Bool.false_ne_true

theorem items_count (fs : List CutFrame) :
    (fs.flatMap CutFrame.items).countP isHead = fs.length := by
  induction fs with
  | nil => rfl
  | cons f fs ih =>
      rw [List.flatMap_cons, List.countP_append, items_eq, List.countP_cons_of_pos rfl,
        partItems_quiet, ih, List.length_cons, Nat.add_comm]

theorem run_opens {fs : List CutFrame} (h : Run Step d (fs.flatMap CutFrame.items) es r) :
    Opens es := by
  cases fs with
  | nil =>
      cases h with
      | nil => intro e he; cases he
  | cons f fs =>
      rw [List.flatMap_cons, items_eq, List.cons_append] at h
      cases h with
      | cons first _ =>
          cases first
          intro e he
          cases he
          rfl
      | stop last => cases last

theorem run_quiet (h : Run Step d (partItems f) es r) : Quiet es := by
  have hcount := run_count_le h
  rw [partItems_quiet] at hcount
  intro e he
  have hzero := List.countP_eq_zero.mp (Nat.le_zero.mp hcount) e he
  exact Bool.eq_false_of_not_eq_true hzero

theorem run_cons {fs : List CutFrame} (h : Run Step d ((f :: fs).flatMap CutFrame.items) log r) :
    ∃ es, log = headerEvent d f.header :: es ∧
      Run Step (d.under f.header) (partItems f ++ fs.flatMap CutFrame.items) es r := by
  rw [List.flatMap_cons, items_eq, List.cons_append] at h
  cases h with
  | stop last => cases last
  | cons first rest =>
      cases first
      exact ⟨_, rfl, rest⟩

theorem entry_of_run {fs gs : List CutFrame}
    (h : Run Step d ((fs ++ f :: gs).flatMap CutFrame.items) log r) :
    (∃ d' es₁ es r', Run Step d (fs.flatMap CutFrame.items) es₁ (some d') ∧
      Run Step (d'.under f.header) (partItems f) es r' ∧
      entry log fs.length = some (entryOf d' f.header es)) ∨
    (after d (fs.flatMap CutFrame.items) = none ∧ entry log fs.length = none) := by
  rw [List.flatMap_append] at h
  rcases h.split with ⟨es₁, es₂, d', rfl, h₁, h₂⟩ | ⟨-, h₁⟩
  · have hcount := run_count h₁
    rw [items_count] at hcount
    have hentry := entry_append es₁ es₂ 0
    rw [hcount, Nat.add_zero] at hentry
    refine .inl ?_
    rw [hentry]
    obtain ⟨e₂, rfl, hrest⟩ := run_cons h₂
    rcases hrest.split with ⟨es, es', d'', rfl, h₃, h₄⟩ | ⟨-, h₃⟩
    · exact ⟨d', es₁, es, some d'', h₁, h₃, entry_zero d' f.header (run_quiet h₃) (run_opens h₄)⟩
    · have hnil : Opens [] := fun e he => (by cases he)
      have hzero := entry_zero d' f.header (run_quiet h₃) hnil
      rw [List.append_nil] at hzero
      exact ⟨d', es₁, e₂, none, h₁, h₃, hzero⟩
  · have hcount := run_count_le h₁
    rw [items_count] at hcount
    exact .inr ⟨(h₁.result step_result).symm, entry_none hcount⟩

theorem after_eq {is : List Item} (h : Run Step d is es r) : after d is = r :=
  (h.result step_result).symm

theorem entry_open {fs gs : List CutFrame} {d' : Dispatch}
    (h : Run Step d ((fs ++ f :: gs).flatMap CutFrame.items) log r)
    (ha : after d (fs.flatMap CutFrame.items) = some d') :
    ∃ es r', Run Step (d'.under f.header) (partItems f) es r' ∧
      entry log fs.length = some (entryOf d' f.header es) := by
  rcases entry_of_run h with ⟨d₁, _, es, r', hbefore, hparts, hentry⟩ | ⟨hnone, -⟩
  · cases (after_eq hbefore).symm.trans ha
    exact ⟨es, r', hparts, hentry⟩
  · cases hnone.symm.trans ha

theorem entry_ended {fs gs : List CutFrame}
    (h : Run Step d ((fs ++ f :: gs).flatMap CutFrame.items) log r)
    (ha : after d (fs.flatMap CutFrame.items) = none) : entry log fs.length = none := by
  rcases entry_of_run h with ⟨d₁, _, es, r', hbefore, -⟩ | ⟨-, hnone⟩
  · cases (after_eq hbefore).symm.trans ha
  · exact hnone

theorem cutFrames_front {chunks : List (List UInt8)} {before rest : List UInt8} {pre : List Frame}
    (hflat : chunks.flatten = before ++ rest) (hpre : decode before = some pre) :
    ∃ cp cm more tail, cutFrames chunks = cp ++ (cm ++ more) ∧ cp.map CutFrame.frame = pre ∧
      (∀ g ∈ cp ++ cm, Closed g) ∧ decodeFrame tail = none ∧
      rest = cm.flatMap CutFrame.wire ++ tail := by
  have hsound := chunks_sound init_sound chunks
  have hwire : (Cutter.init.chunks chunks).done.flatMap CutFrame.wire ++
      (Cutter.init.chunks chunks).tail = before ++ rest := by
    rw [chunks_wire, hflat]
    rfl
  obtain ⟨more, hmore⟩ : ∃ more, cutFrames chunks = (Cutter.init.chunks chunks).done ++ more := by
    rw [cutFrames, Cutter.frames]
    split
    next => exact ⟨[], (List.append_nil _).symm⟩
    next f _ => exact ⟨[f], rfl⟩
  have hclosed := hsound.done
  obtain ⟨cp, cm, hcs, hmap, hrest⟩ :=
    next_frames hclosed hsound.decodeFrame_tail hwire.symm hpre
  rw [hcs] at hclosed hmore
  exact ⟨cp, cm, more, _, by rw [hmore, List.append_assoc], hmap, hclosed, hsound.decodeFrame_tail,
    hrest⟩

theorem cutFrames_split {chunks : List (List UInt8)} {before wire rest : List UInt8}
    {pre : List Frame} {frame : Frame} (hflat : chunks.flatten = before ++ wire ++ rest)
    (hpre : decode before = some pre) (hframe : decodeFrame wire = some (frame, [])) :
    ∃ cp g cm, cutFrames chunks = cp ++ g :: cm ∧ cp.length = pre.length ∧ g.frame = frame ∧
      g.wire = wire ∧ Closed g := by
  rw [List.append_assoc] at hflat
  obtain ⟨cp, cm, more, tail, hcut, hmap, hclosed, htail, hrest⟩ := cutFrames_front hflat hpre
  obtain ⟨g, cs, rfl, hg, hsplit, -⟩ := next_frame
    (fun h hh => hclosed h (List.mem_append_right _ hh)) htail hrest
    (decodeFrame_append (t := rest) hframe)
  refine ⟨cp, g, cs ++ more, hcut, by rw [← hmap, List.length_map], hg, ?_, ?_⟩
  · exact (List.append_cancel_right hsplit).symm
  · exact hclosed g (List.mem_append_right _ List.mem_cons_self)

theorem openAt_split {chunks : List (List UInt8)} {cp cm : List CutFrame}
    (h : cutFrames chunks = cp ++ cm) :
    OpenAt chunks cp.length ↔ (after .start (cp.flatMap CutFrame.items)).isSome := by
  rw [OpenAt, h, List.take_left]

theorem log_follows (addr : UInt32) {chunks : List (List UInt8)}
    (hfits : Fits (Session.start addr) chunks) (hstream : Stream chunks) :
    ∃ b s r, websocketWorker (Session.start addr) chunks = some (b, s) ∧
      Run Step .start ((cutFrames chunks).flatMap CutFrame.items) s.log r ∧
      (∀ d, r = some d → s.cb = ⟨none, 0⟩) := by
  obtain ⟨later, frames, hdec, hknown⟩ := hstream
  have hout := websocketWorker_follows addr hfits (promising_decode hdec hknown)
  generalize websocketWorker (Session.start addr) chunks = o at hout ⊢
  cases hout with
  | alive run sim =>
      refine ⟨_, _, _, rfl, run, fun _ _ => ?_⟩
      generalize (Cutter.init.chunks chunks).current = current at sim
      cases sim with
      | head sim _ _ => exact sim.cb
      | body sim _ _ => exact sim.cb
  | ended run => exact ⟨_, _, _, rfl, run, fun d h => by cases h⟩

theorem fits_of_small {s : Session} {chunks : List (List UInt8)} (hr : Rest s.scb)
    (hsmall : ∀ bytes ∈ chunks, bytes ≠ [] ∧ bytes.length + 13 ≤ CONFIG_CO_SOCKET_BUFFER_SIZE) :
    Fits s chunks := by
  induction chunks generalizing s with
  | nil => trivial
  | cons bytes rest ih =>
      obtain ⟨hne, hlen⟩ := hsmall bytes List.mem_cons_self
      have hrem := hr.remainingLen
      refine ⟨hne, by omega, fun s' hp => ?_⟩
      have harr : Arrives s bytes := ⟨hne, by omega⟩
      obtain ⟨b, s₁, heq, hrest⟩ := hr.call harr
      rw [heq] at hp
      cases hp
      exact ih (hrest rfl) (fun b hb => hsmall b (List.mem_cons_of_mem _ hb))

end WirelessEsp.WebsocketEntries
