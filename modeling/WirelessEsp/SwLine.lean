import WirelessEsp.BitStreams

namespace WirelessEsp.SwLine

open BitStreams

structure Header where
  ap : Bool
  rnw : Bool
  a2 : Bool
  a3 : Bool

inductive Refusal where
  | wait
  | fault

def Refusal.bits : Refusal → List Bool
  | .wait => [false, true, false]
  | .fault => [false, false, true]

def okBits : List Bool := [true, false, false]

/-- A debug port with the states `υ`: the cycles of a turnaround, whether a refused access has a
data phase, and what an access does. -/
structure Port (υ : Type) where
  turn : Nat
  dataPhase : Bool
  refuse : Header → υ → Option (Refusal × υ)
  read : Header → υ → UInt32 × υ
  write : Header → UInt32 → υ → υ

inductive Slot where
  | release
  | drive (level : Bool)
  | sample
  deriving DecidableEq

/-- The port waits for a packet and has its first bits, or answers one, or has lost the
synchronisation, or sees a line reset. -/
inductive Phase where
  | listen (bits : List Bool)
  | answer (slots : List Slot) (store : Option Header) (bits : List Bool)
  | deaf
  | reset

/-- `ones` is the number of cycles in which the line has been high. -/
structure Line (υ : Type) where
  phase : Phase
  ones : Nat
  unit : υ

def packet (h : Header) : List Bool :=
  [true, h.ap, h.rnw, h.a2, h.a3, h.ap ^^ h.rnw ^^ h.a2 ^^ h.a3, false, true]

def decode : List Bool → Option Header
  | [_, ap, rnw, a2, a3, parity, stop, park] =>
      if (parity == (ap ^^ rnw ^^ a2 ^^ a3)) && !stop && park then some ⟨ap, rnw, a2, a3⟩ else none
  | _ => none

def wordBits (word : UInt32) : List Bool := bitsOf 32 word ++ [parityOf (bit word) 32]

variable {υ : Type} (P : Port υ)

/-- The acknowledge, the cycles after it, and whether the bits sampled in these are stored. -/
structure Reaction (υ : Type) where
  ack : List Bool
  rest : List Slot
  store : Option Header
  unit : υ

def Port.react (h : Header) (u : υ) : Reaction υ :=
  match P.refuse h u with
  | some (r, u) =>
      ⟨r.bits, .replicate (if P.dataPhase then 33 + P.turn else P.turn) .release, none, u⟩
  | none =>
      if h.rnw then
        let (word, u) := P.read h u
        ⟨okBits, (wordBits word).map .drive ++ .replicate P.turn .release, none, u⟩
      else ⟨okBits, .replicate P.turn .release ++ .replicate 33 .sample, some h, u⟩

def Port.finish (store : Option Header) (bits : List Bool) (u : υ) : υ :=
  match store with
  | none => u
  | some h =>
      let word := ofBits fun i => bits.getD i false
      if parityOf (bit word) 32 == bits.getD 32 false then P.write h word u else u

def Line.await (slots : List Slot) (store : Option Header) (bits : List Bool) (ones : Nat) (u : υ) :
    Line υ :=
  if slots = [] then ⟨.listen [], ones, P.finish store bits u⟩
  else ⟨.answer slots store bits, ones, u⟩

def Line.out (l : Line υ) : Option Bool :=
  match l.phase with
  | .answer (.drive level :: _) _ _ => some level
  | _ => none

def Line.level (host : Option Bool) (l : Line υ) : Bool := (l.out.or host).getD true

def Line.take (bits : List Bool) (ones : Nat) (u : υ) : Line υ :=
  if bits.length < 8 then ⟨.listen bits, ones, u⟩
  else
    match decode bits with
    | none => ⟨.deaf, ones, u⟩
    | some h =>
        let r := P.react h u
        Line.await P (.replicate P.turn .release ++ r.ack.map .drive ++ r.rest) r.store [] ones r.unit

def Line.advance (level : Bool) (ones : Nat) (l : Line υ) : Line υ :=
  match l.phase with
  | .listen [] => if level then Line.take P [true] ones l.unit else ⟨.listen [], ones, l.unit⟩
  | .listen bits => Line.take P (bits ++ [level]) ones l.unit
  | .answer [] store bits => Line.await P [] store bits ones l.unit
  | .answer (.sample :: slots) store bits =>
      Line.await P slots store (bits ++ [level]) ones l.unit
  | .answer (_ :: slots) store bits => Line.await P slots store bits ones l.unit
  | .deaf => ⟨.deaf, ones, l.unit⟩
  | .reset => if level then ⟨.reset, ones, l.unit⟩ else ⟨.listen [], ones, l.unit⟩

/-- One cycle with this level of the host. Fifty ones in a row are a line reset. -/
def Line.step (l : Line υ) (host : Option Bool) : Line υ :=
  let level := l.level host
  let ones := if level then l.ones + 1 else 0
  let l := l.advance P level ones
  if ones < 50 then l else { l with phase := .reset }

def Line.run (l : Line υ) (hosts : List (Option Bool)) : Line υ := hosts.foldl (Line.step P) l

def Line.levels : Line υ → List (Option Bool) → List Bool
  | _, [] => []
  | l, host :: hosts => l.level host :: Line.levels (l.step P host) hosts

def Port.access (h : Header) (data : UInt32) (u : υ) : Option Refusal × UInt32 × υ :=
  match P.refuse h u with
  | some (r, u) => (some r, data, u)
  | none =>
      if h.rnw then
        let (word, u) := P.read h u
        (none, word, u)
      else (none, data, P.write h data u)

variable {P} {l : Line υ} {slots : List Slot} {store : Option Header} {bits : List Bool} {ones : Nat}
  {u : υ} {hosts : List (Option Bool)}

theorem run_append (xs ys : List (Option Bool)) : l.run P (xs ++ ys) = (l.run P xs).run P ys :=
  List.foldl_append

theorem run_cons (host : Option Bool) (hosts : List (Option Bool)) :
    l.run P (host :: hosts) = (l.step P host).run P hosts := rfl

theorem levels_append (xs ys : List (Option Bool)) :
    l.levels P (xs ++ ys) = l.levels P xs ++ (l.run P xs).levels P ys := by
  induction xs generalizing l with
  | nil => rfl
  | cons x xs ih =>
      rw [List.cons_append, Line.levels, ih]
      rfl

theorem levels_length (l : Line υ) (hosts : List (Option Bool)) :
    (l.levels P hosts).length = hosts.length := by
  induction hosts generalizing l with
  | nil => rfl
  | cons host hosts ih => rw [Line.levels, List.length_cons, ih, List.length_cons]

def onesAfter (ones : Nat) (levels : List Bool) : Nat :=
  levels.foldl (fun ones level => if level then ones + 1 else 0) ones

theorem onesAfter_le (ones : Nat) (levels : List Bool) :
    onesAfter ones levels ≤ ones + levels.length := by
  induction levels generalizing ones with
  | nil => exact Nat.le_refl _
  | cons level levels ih =>
      have h := ih (if level then ones + 1 else 0)
      rw [List.length_cons]
      refine Nat.le_trans h ?_
      split <;> omega

theorem await_ones (slots : List Slot) (store : Option Header) (bits : List Bool) (ones : Nat)
    (u : υ) :
    (Line.await P slots store bits ones u).ones = ones := by
  rw [Line.await]
  split <;> rfl

theorem take_ones (bits : List Bool) (ones : Nat) (u : υ) :
    (Line.take P bits ones u).ones = ones := by
  rw [Line.take]
  split
  · rfl
  · split
    · rfl
    · exact await_ones _ _ _ _ _

theorem advance_ones (level : Bool) (ones : Nat) : (l.advance P level ones).ones = ones := by
  rw [Line.advance]
  split
  · split
    · exact take_ones _ _ _
    · rfl
  · exact take_ones _ _ _
  · exact await_ones _ _ _ _ _
  · exact await_ones _ _ _ _ _
  · exact await_ones _ _ _ _ _
  · rfl
  · split <;> rfl

theorem step_quiet (h : l.ones + 1 < 50) (host : Option Bool) :
    l.step P host = l.advance P (l.level host) (if l.level host then l.ones + 1 else 0) := by
  rw [Line.step]
  apply if_pos
  split <;> omega

theorem await_cons (slot : Slot) (slots : List Slot) (store : Option Header) (bits : List Bool)
    (ones : Nat) (u : υ) :
    Line.await P (slot :: slots) store bits ones u = ⟨.answer (slot :: slots) store bits, ones, u⟩ :=
  if_neg (List.cons_ne_nil slot slots)

theorem step_await (slot : Slot) (slots : List Slot) (store : Option Header) (bits : List Bool)
    (u : υ) (hones : ones + 1 < 50) (host : Option Bool) :
    (Line.await P (slot :: slots) store bits ones u).step P host =
      let level := (Line.await P (slot :: slots) store bits ones u).level host
      Line.await P slots store (if slot = .sample then bits ++ [level] else bits)
        (if level then ones + 1 else 0) u := by
  rw [await_cons, step_quiet hones]
  cases slot <;> rfl

theorem level_drive (level : Bool) (slots : List Slot) (store : Option Header) (bits : List Bool)
    (ones : Nat) (u : υ) (host : Option Bool) :
    (Line.await P (.drive level :: slots) store bits ones u).level host = level := by
  rw [await_cons]
  rfl

theorem level_sample (level : Bool) (slots : List Slot) (store : Option Header) (bits : List Bool)
    (ones : Nat) (u : υ) :
    (Line.await P (.sample :: slots) store bits ones u).level (some level) = level := by
  rw [await_cons]
  rfl

theorem run_release (n : Nat) (slots : List Slot) (hlen : hosts.length = n)
    (hones : ones + n < 50) :
    ∃ ones' ≤ ones + n,
      (Line.await P (.replicate n .release ++ slots) store bits ones u).run P hosts =
        Line.await P slots store bits ones' u := by
  induction hosts generalizing n ones with
  | nil =>
      obtain rfl : 0 = n := hlen
      exact ⟨ones, Nat.le_refl _, rfl⟩
  | cons host hosts ih =>
      obtain rfl : hosts.length + 1 = n := hlen
      rw [List.replicate_succ, List.cons_append, run_cons, step_await _ _ _ _ _ (by omega)]
      generalize Line.level host _ = level
      have hle : (if level then ones + 1 else 0) ≤ ones + 1 := by split <;> omega
      obtain ⟨ones', hones', hrun⟩ := @ih (if level then ones + 1 else 0) hosts.length rfl (by omega)
      exact ⟨ones', by omega, hrun⟩

theorem run_drive (levels : List Bool) (slots : List Slot) (hlen : hosts.length = levels.length)
    (hones : ones + levels.length < 50) :
    (Line.await P (levels.map .drive ++ slots) store bits ones u).levels P hosts = levels ∧
      (Line.await P (levels.map .drive ++ slots) store bits ones u).run P hosts =
        Line.await P slots store bits (onesAfter ones levels) u := by
  induction hosts generalizing levels ones with
  | nil =>
      obtain rfl : levels = [] := List.eq_nil_of_length_eq_zero hlen.symm
      exact ⟨rfl, rfl⟩
  | cons host hosts ih =>
      cases levels with
      | nil => exact absurd hlen (Nat.succ_ne_zero _)
      | cons level levels =>
          rw [List.length_cons, List.length_cons] at *
          have hle : (if level then ones + 1 else 0) ≤ ones + 1 := by split <;> omega
          have hstep := @step_await _ P ones (.drive level) (levels.map .drive ++ slots) store bits u
            (by omega) host
          simp only [level_drive] at hstep
          obtain ⟨hlevels, hrun⟩ := @ih (if level then ones + 1 else 0) levels (by omega) (by omega)
          rw [List.map_cons, List.cons_append, run_cons, Line.levels, hstep, level_drive]
          exact ⟨congrArg (level :: ·) hlevels, hrun⟩

theorem run_sample (word : List Bool) (slots : List Slot) (hones : ones + word.length < 50) :
    (Line.await P (.replicate word.length .sample ++ slots) store bits ones u).run P
        (word.map some) =
      Line.await P slots store (bits ++ word) (onesAfter ones word) u := by
  induction word generalizing bits ones with
  | nil =>
      rw [List.append_nil]
      rfl
  | cons level word ih =>
      rw [List.length_cons] at *
      have hle : (if level then ones + 1 else 0) ≤ ones + 1 := by split <;> omega
      have hstep := @step_await _ P ones .sample (.replicate word.length .sample ++ slots) store
        bits u (by omega) (some level)
      simp only [level_sample] at hstep
      have hih := @ih (bits ++ [level]) (if level then ones + 1 else 0) (by omega)
      rw [List.append_assoc] at hih
      rw [List.replicate_succ, List.cons_append, List.map_cons, run_cons, hstep]
      exact hih

theorem run_listen (hbits : bits ≠ []) (levels : List Bool)
    (hlen : bits.length + levels.length < 8) (hones : ones + levels.length < 50) :
    (⟨.listen bits, ones, u⟩ : Line υ).run P (levels.map some) =
      ⟨.listen (bits ++ levels), onesAfter ones levels, u⟩ := by
  induction levels generalizing bits ones with
  | nil =>
      rw [List.append_nil]
      rfl
  | cons level levels ih =>
      rw [List.length_cons] at hlen hones
      have hle : (if level then ones + 1 else 0) ≤ ones + 1 := by split <;> omega
      have hshort : (bits ++ [level]).length < 8 := by
        rw [List.length_append, List.length_singleton]
        omega
      have hstep : (⟨.listen bits, ones, u⟩ : Line υ).step P (some level) =
          ⟨.listen (bits ++ [level]), if level then ones + 1 else 0, u⟩ := by
        rw [step_quiet (show ones + 1 < 50 by omega)]
        cases bits with
        | nil => exact absurd rfl hbits
        | cons b bits =>
            show Line.take P (b :: bits ++ [level]) _ _ = _
            rw [Line.take, if_pos hshort]
            rfl
      have hnext : (bits ++ [level]).length + levels.length < 8 := by
        rw [List.length_append, List.length_singleton]
        omega
      have hih := @ih (bits ++ [level]) (if level then ones + 1 else 0)
        (List.append_ne_nil_of_right_ne_nil _ (List.cons_ne_nil _ _)) hnext (by omega)
      rw [List.append_assoc] at hih
      rw [List.map_cons, run_cons, hstep]
      exact hih

theorem packet_length (h : Header) : (packet h).length = 8 := rfl

theorem wordBits_length (word : UInt32) : (wordBits word).length = 33 := by
  rw [wordBits, List.length_append, bitsOf_length]
  rfl

def Shows (levels : List Bool) (k : Nat) (bits : List Bool) : Prop :=
  ∃ before after, before.length = k ∧ levels = before ++ bits ++ after

theorem Shows.append {levels : List Bool} {k : Nat} (h : Shows levels k bits) (more : List Bool) :
    Shows (levels ++ more) k bits := by
  obtain ⟨before, after, hlen, rfl⟩ := h
  exact ⟨before, after ++ more, hlen, List.append_assoc _ _ _⟩

theorem Shows.get {levels : List Bool} {k : Nat} (h : Shows levels k bits) {i : Nat}
    (hi : i < bits.length) : levels[k + i]? = bits[i]? := by
  obtain ⟨before, after, rfl, rfl⟩ := h
  rw [List.append_assoc, List.getElem?_append_right (Nat.le_add_right _ _), Nat.add_sub_cancel_left,
    List.getElem?_append_left hi]

/-- The line is idle, and too short of ones for a line reset within the next packet. -/
structure Line.Rests (l : Line υ) (u : υ) : Prop where
  phase : l.phase = .listen []
  ones : l.ones ≤ 42
  unit : l.unit = u

theorem await_rests (h : ones ≤ 42) :
    (Line.await P [] store bits ones u).Rests (P.finish store bits u) :=
  ⟨rfl, h, rfl⟩

theorem Line.Rests.eq (h : l.Rests u) : l = ⟨.listen [], l.ones, u⟩ := by
  obtain ⟨phase, ones, unit⟩ := l
  obtain ⟨rfl, -, rfl⟩ := h
  rfl

theorem run_idle (h : l.Rests u) {idle : List (Option Bool)}
    (hosts : ∀ host ∈ idle, host = some false) :
    (l.run P idle).Rests u := by
  induction idle generalizing l with
  | nil => exact h
  | cons host idle ih =>
      obtain rfl : host = some false := hosts host List.mem_cons_self
      have hstep : l.step P (some false) = ⟨.listen [], 0, u⟩ := by
        rw [h.eq]
        rfl
      rw [run_cons, hstep]
      exact ih ⟨rfl, Nat.zero_le _, rfl⟩ fun host hmem => hosts host (List.mem_cons_of_mem _ hmem)

theorem decode_packet (h : Header) : decode (packet h) = some h := by
  simp [packet, decode]

theorem run_packet (hl : l.Rests u) (h : Header) :
    l.run P ((packet h).map some) =
      Line.await P (.replicate P.turn .release ++ (P.react h u).ack.map .drive ++ (P.react h u).rest)
        (P.react h u).store [] 1 (P.react h u).unit := by
  obtain ⟨ones, hones, rfl⟩ : ∃ ones ≤ 42, l = ⟨.listen [], ones, u⟩ := ⟨l.ones, hl.ones, hl.eq⟩
  have hfirst : (⟨.listen [], ones, u⟩ : Line υ).step P (some true) =
      ⟨.listen [true], ones + 1, u⟩ := by
    rw [step_quiet (show ones + 1 < 50 by omega)]
    rfl
  have hquiet : ones + 1 + 6 < 50 := by omega
  have hmiddle := @run_listen _ P [true] (ones + 1) u (List.cons_ne_nil _ _)
    [h.ap, h.rnw, h.a2, h.a3, h.ap ^^ h.rnw ^^ h.a2 ^^ h.a3, false]
    (Nat.lt_succ_self 7) hquiet
  have hsplit : (packet h).map some =
      some true :: ([h.ap, h.rnw, h.a2, h.a3, h.ap ^^ h.rnw ^^ h.a2 ^^ h.a3, false].map some ++
        [some true]) := rfl
  rw [hsplit, run_cons, hfirst, run_append, hmiddle, run_cons]
  have hzero : onesAfter (ones + 1)
      [h.ap, h.rnw, h.a2, h.a3, h.ap ^^ h.rnw ^^ h.a2 ^^ h.a3, false] = 0 := rfl
  rw [hzero, step_quiet (show 0 + 1 < 50 by decide)]
  have htake : Line.take P (packet h) 1 u = Line.await P (.replicate P.turn .release ++
      (P.react h u).ack.map .drive ++ (P.react h u).rest) (P.react h u).store [] 1
      (P.react h u).unit := by
    rw [Line.take, packet_length, if_neg (Nat.lt_irrefl 8), decode_packet]
  exact htake

theorem react_ack (h : Header) (u : υ) :
    (P.react h u).ack.length = 3 ∧ ∀ ones, onesAfter ones (P.react h u).ack ≤ 1 := by
  rw [Port.react]
  split
  · next r u' _ => cases r <;> exact ⟨rfl, fun ones => by simp [Refusal.bits, onesAfter]⟩
  · split
    · exact ⟨rfl, fun ones => by simp [okBits, onesAfter]⟩
    · exact ⟨rfl, fun ones => by simp [okBits, onesAfter]⟩

theorem run_head (hturn : P.turn ≤ 4) (hl : l.Rests u) (h : Header)
    (hlen : hosts.length = P.turn + 3) :
    ∃ ones ≤ 1, l.run P ((packet h).map some ++ hosts) =
        Line.await P (P.react h u).rest (P.react h u).store [] ones (P.react h u).unit ∧
      Shows (l.levels P ((packet h).map some ++ hosts)) (8 + P.turn) (P.react h u).ack := by
  obtain ⟨hack, hones⟩ := @react_ack _ P h u
  have hpacket := @run_packet _ P _ _ hl h
  have hsplit : hosts = hosts.take P.turn ++ hosts.drop P.turn := (List.take_append_drop _ _).symm
  obtain ⟨ones, hle, hturned⟩ := @run_release _ P (P.react h u).store [] 1 (P.react h u).unit
    (hosts.take P.turn) P.turn ((P.react h u).ack.map .drive ++ (P.react h u).rest)
    (by rw [List.length_take]; omega) (by omega)
  obtain ⟨hlevels, hdriven⟩ := @run_drive _ P (P.react h u).store [] ones (P.react h u).unit
    (hosts.drop P.turn) (P.react h u).ack (P.react h u).rest
    (by rw [List.length_drop, hack]; omega) (by omega)
  rw [← List.append_assoc] at hturned
  refine ⟨_, hones ones, ?_, l.levels P ((packet h).map some ++ hosts.take P.turn), [], ?_, ?_⟩
  · rw [run_append, hpacket, hsplit, run_append, hturned, hdriven]
  · rw [levels_length, List.length_append, List.length_map, List.length_take, hlen]
    have hpacket : (packet h).length = 8 := rfl
    omega
  · have hall : (packet h).map some ++ hosts =
        (packet h).map some ++ hosts.take P.turn ++ hosts.drop P.turn := by
      rw [List.append_assoc, ← hsplit]
    rw [hall, levels_append, run_append, hpacket, hturned, hlevels, List.append_nil]

variable {h : Header} {head : List (Option Bool)} {u' : υ}

theorem run_refused (hturn : P.turn ≤ 4) (hl : l.Rests u) {r : Refusal}
    (hrefuse : P.refuse h u = some (r, u')) (hhead : head.length = P.turn + 3)
    (hlen : hosts.length = if P.dataPhase then 33 + P.turn else P.turn) :
    (l.run P ((packet h).map some ++ head ++ hosts)).Rests u' ∧
      Shows (l.levels P ((packet h).map some ++ head ++ hosts)) (8 + P.turn) r.bits := by
  have hreact : P.react h u =
      ⟨r.bits, .replicate (if P.dataPhase then 33 + P.turn else P.turn) .release, none, u'⟩ := by
    rw [Port.react, hrefuse]
  obtain ⟨ones, hones, hrun, hshows⟩ := run_head hturn hl h hhead
  rw [hreact] at hrun hshows
  have hle : (if P.dataPhase then 33 + P.turn else P.turn) ≤ 37 := by split <;> omega
  obtain ⟨ones', hones', hend⟩ := @run_release _ P none [] ones u' hosts _ [] hlen (by omega)
  rw [List.append_nil] at hend
  refine ⟨?_, ?_⟩
  · rw [run_append, hrun, hend]
    exact await_rests (by omega)
  · rw [levels_append]
    exact hshows.append _

theorem run_read (hturn : P.turn ≤ 4) (hl : l.Rests u) (hrefuse : P.refuse h u = none)
    (hrnw : h.rnw = true) (hhead : head.length = P.turn + 3) (hlen : hosts.length = 33 + P.turn) :
    (l.run P ((packet h).map some ++ head ++ hosts)).Rests (P.read h u).2 ∧
      Shows (l.levels P ((packet h).map some ++ head ++ hosts)) (8 + P.turn)
        (okBits ++ wordBits (P.read h u).1) := by
  have hreact : P.react h u = ⟨okBits,
      (wordBits (P.read h u).1).map .drive ++ .replicate P.turn .release, none, (P.read h u).2⟩ := by
    rw [Port.react, hrefuse]
    exact if_pos hrnw
  obtain ⟨ones, hones, hrun, before, after, hbefore, hlevels⟩ := run_head hturn hl h hhead
  rw [hreact] at hrun hlevels
  have hack : l.levels P ((packet h).map some ++ head) = before ++ okBits ++ after := hlevels
  have hword := wordBits_length (P.read h u).1
  have hsplit : hosts = hosts.take 33 ++ hosts.drop 33 := (List.take_append_drop _ _).symm
  obtain ⟨hdrive, hdriven⟩ := @run_drive _ P none [] ones (P.read h u).2 (hosts.take 33)
    (wordBits (P.read h u).1) (.replicate P.turn .release)
    (by rw [List.length_take, hword]; omega) (by omega)
  have hbound := onesAfter_le ones (wordBits (P.read h u).1)
  obtain ⟨ones', hones', hend⟩ := @run_release _ P none []
    (onesAfter ones (wordBits (P.read h u).1)) (P.read h u).2 (hosts.drop 33) P.turn []
    (by rw [List.length_drop]; omega) (by omega)
  rw [List.append_nil] at hend
  obtain rfl : after = [] := by
    have hcount := congrArg List.length hack
    rw [levels_length, List.length_append, List.length_map, packet_length, List.length_append,
      List.length_append, hbefore, hhead] at hcount
    have hok : okBits.length = 3 := rfl
    exact List.eq_nil_of_length_eq_zero (by omega)
  rw [List.append_nil] at hack
  refine ⟨?_, before, (Line.await P (.replicate P.turn .release) none []
    (onesAfter ones (wordBits (P.read h u).1)) (P.read h u).2).levels P (hosts.drop 33), hbefore, ?_⟩
  · rw [run_append, hrun, hsplit, run_append, hdriven, hend]
    exact await_rests (by omega)
  · rw [levels_append, hack, hrun, hsplit, levels_append, hdrive, hdriven]
    simp only [List.append_assoc, List.take_append_drop]

theorem finish_word (h : Header) (word : UInt32) (u : υ) :
    P.finish (some h) (wordBits word) u = P.write h word u := by
  have hget : ∀ i < 32, (wordBits word).getD i false = bit word i := by
    intro i hi
    rw [wordBits, List.getD_eq_getElem?_getD, List.getElem?_append_left (by simpa using hi), bitsOf,
      List.getElem?_map, List.getElem?_range hi]
    rfl
  have hword : (ofBits fun i => (wordBits word).getD i false) = word := by
    apply eq_of_bit
    intro i hi
    rw [bit_ofBits _ hi, hget i hi]
  have hlast : (wordBits word).getD 32 false = parityOf (bit word) 32 := by
    rw [wordBits, List.getD_eq_getElem?_getD, List.getElem?_append_right (by simp), bitsOf_length]
    rfl
  simp only [Port.finish, hword, hlast, beq_self_eq_true, if_true]

theorem run_write (hturn : P.turn ≤ 4) (hl : l.Rests u) (hrefuse : P.refuse h u = none)
    (hrnw : h.rnw = false) (hhead : head.length = P.turn + 3) (hlen : hosts.length = P.turn)
    (word : UInt32) :
    (l.run P ((packet h).map some ++ head ++ (hosts ++ (wordBits word).map some))).Rests
        (P.write h word u) ∧
      Shows (l.levels P ((packet h).map some ++ head ++ (hosts ++ (wordBits word).map some)))
        (8 + P.turn) okBits := by
  have hreact : P.react h u =
      ⟨okBits, .replicate P.turn .release ++ .replicate 33 .sample, some h, u⟩ := by
    rw [Port.react, hrefuse]
    exact if_neg (by rw [hrnw]; exact Bool.false_ne_true)
  obtain ⟨ones, hones, hrun, hshows⟩ := run_head hturn hl h hhead
  rw [hreact] at hrun hshows
  have hword := wordBits_length word
  obtain ⟨ones', hones', hturned⟩ := @run_release _ P (some h) [] ones u hosts P.turn
    (.replicate 33 .sample) hlen (by omega)
  have hsample := @run_sample _ P (some h) [] ones' u (wordBits word) [] (by omega)
  have hbound := onesAfter_le ones' (wordBits word)
  rw [List.append_nil, hword] at hsample
  refine ⟨?_, ?_⟩
  · rw [run_append, hrun, run_append, hturned, hsample, ← finish_word h word u]
    exact await_rests (by omega)
  · rw [levels_append]
    exact hshows.append _

/-- The port drives nothing, and its packet has no more than ones. -/
def Line.Silent (l : Line υ) : Prop :=
  match l.phase with
  | .listen bits => ∃ n < 8, bits = .replicate n true
  | .answer _ _ _ => False
  | .deaf => True
  | .reset => True

theorem Line.Rests.silent (h : l.Rests u) : l.Silent := by
  rw [h.eq]
  exact ⟨0, Nat.zero_lt_succ 7, rfl⟩

theorem take_high {n : Nat} (hn : n ≤ 8) :
    (Line.take P (.replicate n true) ones u).Silent ∧
      (Line.take P (.replicate n true) ones u).unit = u := by
  rw [Line.take, List.length_replicate]
  rcases Nat.lt_or_eq_of_le hn with hlt | rfl
  · rw [if_pos hlt]
    exact ⟨⟨n, hlt, rfl⟩, rfl⟩
  · exact ⟨trivial, rfl⟩

theorem step_high (h : l.Silent) :
    (l.step P (some true)).Silent ∧ (l.step P (some true)).unit = l.unit ∧
      (l.step P (some true)).ones = l.ones + 1 ∧
      (50 ≤ l.ones + 1 → (l.step P (some true)).phase = .reset) := by
  obtain ⟨phase, ones, u⟩ := l
  have hadvance : ((⟨phase, ones, u⟩ : Line υ).advance P true (ones + 1)).Silent ∧
      ((⟨phase, ones, u⟩ : Line υ).advance P true (ones + 1)).unit = u := by
    cases phase with
    | listen bits =>
        obtain ⟨n, hn, rfl⟩ := h
        have hnext : (Line.mk (.listen (.replicate n true)) ones u).advance P true (ones + 1) =
            Line.take P (.replicate (n + 1) true) (ones + 1) u := by
          rw [List.replicate_succ']
          cases n <;> rfl
        rw [hnext]
        exact take_high hn
    | answer slots store bits => exact h.elim
    | deaf => exact ⟨trivial, rfl⟩
    | reset => exact ⟨trivial, rfl⟩
  have hlevel : (⟨phase, ones, u⟩ : Line υ).level (some true) = true := by
    cases phase with
    | answer slots store bits => exact h.elim
    | listen bits => rfl
    | deaf => rfl
    | reset => rfl
  have hstep : (⟨phase, ones, u⟩ : Line υ).step P (some true) =
      if ones + 1 < 50 then (⟨phase, ones, u⟩ : Line υ).advance P true (ones + 1)
      else { (⟨phase, ones, u⟩ : Line υ).advance P true (ones + 1) with phase := .reset } := by
    rw [Line.step, hlevel]
    rfl
  have hones := @advance_ones _ P ⟨phase, ones, u⟩ true (ones + 1)
  rw [hstep]
  split
  · next hlt => exact ⟨hadvance.1, hadvance.2, hones, fun hge => absurd hlt (Nat.not_lt.mpr hge)⟩
  · exact ⟨trivial, hadvance.2, hones, fun _ => rfl⟩

theorem run_high (h : l.Silent) (n : Nat) :
    (l.run P (.replicate n (some true))).Silent ∧
      (l.run P (.replicate n (some true))).unit = l.unit ∧
      (0 < n → 50 ≤ l.ones + n → (l.run P (.replicate n (some true))).phase = .reset) := by
  induction n generalizing l with
  | zero => exact ⟨h, rfl, fun hpos => absurd hpos (Nat.lt_irrefl 0)⟩
  | succ n ih =>
      obtain ⟨hsilent, hunit, hones, hreset⟩ := @step_high _ P l h
      obtain ⟨hsilent', hunit', hreset'⟩ := ih hsilent
      rw [List.replicate_succ, run_cons]
      refine ⟨hsilent', hunit'.trans hunit, fun _ hge => ?_⟩
      cases n with
      | zero => exact hreset hge
      | succ n => exact hreset' (Nat.zero_lt_succ n) (by omega)

theorem run_lineReset (h : l.Silent) {n m : Nat} (hn : 50 ≤ n) (hm : 0 < m) :
    (l.run P (.replicate n (some true) ++ .replicate m (some false))).Rests l.unit := by
  obtain ⟨-, hunit, hreset⟩ := @run_high _ P l h n
  obtain ⟨m, rfl⟩ := Nat.exists_eq_succ_of_ne_zero (Nat.ne_of_gt hm)
  have hphase := hreset (by omega) (by omega)
  rw [run_append, List.replicate_succ, run_cons, ← hunit]
  generalize l.run P (.replicate n (some true)) = l at hphase
  obtain ⟨phase, ones, u⟩ := l
  obtain rfl : phase = .reset := hphase
  exact run_idle ⟨rfl, Nat.zero_le _, rfl⟩ fun host hmem => List.eq_of_mem_replicate hmem

end WirelessEsp.SwLine
