import WirelessEsp.Rfc6455

namespace WirelessEsp.FrameParts

open Rfc6455

/-- A frame as it comes in: the octets of its header, the parts of its payload that came with
earlier chunks, and the part of the chunk at hand. -/
structure CutFrame where
  head : List UInt8
  earlier : List (List UInt8)
  last : List UInt8
deriving DecidableEq, Repr

namespace CutFrame

variable (f : CutFrame)

def header : Header := headerOf f.head
def parts : List (List UInt8) := f.earlier ++ [f.last]
def body : List UInt8 := f.earlier.flatten ++ f.last
def payload : List UInt8 := unmask f.header.key 0 f.body

/-- The payload octets of the part at hand. -/
def data : List UInt8 := unmask f.header.key f.earlier.flatten.length f.last

def frame : Frame := ⟨f.header, f.payload⟩
def withLast (xs : List UInt8) : CutFrame := { f with last := xs }
def push (xs : List UInt8) : CutFrame := f.withLast (f.last ++ xs)
def cut : CutFrame := { f with earlier := f.parts, last := [] }

end CutFrame

/-- The order in which the headers and the parts of a stream come up. -/
inductive Item
  | header (bs : List UInt8)
  | part (f : CutFrame)
deriving DecidableEq, Repr

def snapshots (head : List UInt8) : List (List UInt8) → List (List UInt8) → List CutFrame
  | _, [] => []
  | earlier, p :: ps => ⟨head, earlier, p⟩ :: snapshots head (earlier ++ [p]) ps

namespace CutFrame

def opening (f : CutFrame) : List Item :=
  .header f.head :: (snapshots f.head [] f.earlier).map .part

def items (f : CutFrame) : List Item := f.opening ++ [.part f]

end CutFrame

inductive Current
  | head (seen : List UInt8)
  | body (f : CutFrame)
deriving DecidableEq, Repr

/-- The octet machine of `Rfc6455` with the frames cut where the chunks end. -/
structure Cutter where
  done : List CutFrame
  current : Current
deriving DecidableEq, Repr

def Cutter.init : Cutter := ⟨[], .head []⟩

def close (done : List CutFrame) (f : CutFrame) : Cutter :=
  if f.header.length ≤ f.body.length then ⟨done ++ [f], .head []⟩ else ⟨done, .body f⟩

namespace Cutter

variable (c : Cutter)

def byte (x : UInt8) : Cutter :=
  match c.current with
  | .head seen =>
      if Complete (seen ++ [x]) then close c.done ⟨seen ++ [x], [], []⟩
      else ⟨c.done, .head (seen ++ [x])⟩
  | .body f => close c.done (f.push [x])

def bytes (xs : List UInt8) : Cutter := xs.foldl byte c

def cut : Cutter :=
  match c.current with
  | .head _ => c
  | .body f => ⟨c.done, .body f.cut⟩

def chunk (xs : List UInt8) : Cutter := c.cut.bytes xs

def chunks (cs : List (List UInt8)) : Cutter := cs.foldl chunk c

/-- The frames whose header has come, the last one possibly in part. -/
def frames : List CutFrame :=
  match c.current with
  | .head _ => c.done
  | .body f => c.done ++ [f]

def items : List Item := c.frames.flatMap CutFrame.items

def fixed : List Item :=
  match c.current with
  | .head _ => c.done.flatMap CutFrame.items
  | .body f => c.done.flatMap CutFrame.items ++ f.opening

def decoder : Decoder :=
  match c.current with
  | .head seen => ⟨c.done.map CutFrame.frame, .header seen⟩
  | .body f => ⟨c.done.map CutFrame.frame, .payload f.header f.payload⟩

end Cutter

open Cutter

variable {done : List CutFrame} {f : CutFrame} {seen xs : List UInt8}

@[simp] theorem bytes_nil (c : Cutter) : c.bytes [] = c := rfl

@[simp] theorem bytes_cons (c : Cutter) (x : UInt8) (xs : List UInt8) :
    c.bytes (x :: xs) = (c.byte x).bytes xs := rfl

theorem cutter_bytes_append (c : Cutter) (xs ys : List UInt8) :
    c.bytes (xs ++ ys) = (c.bytes xs).bytes ys := List.foldl_append ..

@[simp] theorem payload_length (f : CutFrame) : f.payload.length = f.body.length := by
  simp [CutFrame.payload]

@[simp] theorem withLast_header (f : CutFrame) (xs : List UInt8) :
    (f.withLast xs).header = f.header := rfl

@[simp] theorem withLast_earlier (f : CutFrame) (xs : List UInt8) :
    (f.withLast xs).earlier = f.earlier := rfl

@[simp] theorem withLast_last (f : CutFrame) (xs : List UInt8) : (f.withLast xs).last = xs := rfl

@[simp] theorem withLast_head (f : CutFrame) (xs : List UInt8) : (f.withLast xs).head = f.head :=
  rfl

@[simp] theorem push_header (f : CutFrame) (xs : List UInt8) : (f.push xs).header = f.header := rfl

@[simp] theorem cut_header (f : CutFrame) : f.cut.header = f.header := rfl

@[simp] theorem cut_head (f : CutFrame) : f.cut.head = f.head := rfl

theorem cut_earlier (f : CutFrame) : f.cut.earlier = f.earlier ++ [f.last] := rfl

theorem push_body (f : CutFrame) (xs : List UInt8) : (f.push xs).body = f.body ++ xs := by
  simp [CutFrame.body, CutFrame.push]

theorem cut_body (f : CutFrame) : f.cut.body = f.body := by
  simp [CutFrame.body, CutFrame.cut, CutFrame.parts]

theorem push_push (f : CutFrame) (xs ys : List UInt8) :
    (f.push xs).push ys = f.push (xs ++ ys) := by
  simp only [CutFrame.push, CutFrame.withLast, List.append_assoc]

theorem push_nil (f : CutFrame) : f.push [] = f := by
  rw [CutFrame.push, List.append_nil]
  rfl

theorem close_decoder (done : List CutFrame) (f : CutFrame) :
    (close done f).decoder = settle (done.map CutFrame.frame) f.header f.payload := by
  rw [close, settle, payload_length]
  split
  · simp [Cutter.decoder, CutFrame.frame]
  · rfl

theorem byte_head (done : List CutFrame) (seen : List UInt8) (x : UInt8) :
    Cutter.byte ⟨done, .head seen⟩ x =
      if Complete (seen ++ [x]) then close done ⟨seen ++ [x], [], []⟩
      else ⟨done, .head (seen ++ [x])⟩ := rfl

theorem byte_body (done : List CutFrame) (f : CutFrame) (x : UInt8) :
    Cutter.byte ⟨done, .body f⟩ x = close done (f.push [x]) := rfl

theorem byte_decoder (c : Cutter) (x : UInt8) : (c.byte x).decoder = c.decoder.byte x := by
  obtain ⟨done, current⟩ := c
  cases current with
  | head seen =>
      have hdec : (Cutter.decoder ⟨done, .head seen⟩).byte x =
          if Complete (seen ++ [x]) then
            settle (done.map CutFrame.frame) (headerOf (seen ++ [x])) []
          else ⟨done.map CutFrame.frame, .header (seen ++ [x])⟩ := rfl
      rw [byte_head, hdec]
      by_cases hc : Complete (seen ++ [x])
      · rw [if_pos hc, if_pos hc, close_decoder]
        congr 1
        exact List.eq_nil_of_length_eq_zero (payload_length _)
      · rw [if_neg hc, if_neg hc]
        rfl
  | body f =>
      have hdec : (Cutter.decoder ⟨done, .body f⟩).byte x =
          settle (done.map CutFrame.frame) f.header
            (f.payload ++ unmask f.header.key f.payload.length [x]) := rfl
      have hpush : (f.push [x]).payload = f.payload ++ unmask f.header.key f.payload.length [x] := by
        rw [CutFrame.payload, push_body, push_header, unmask_append, Nat.zero_add, payload_length]
        rfl
      rw [byte_body, close_decoder, hdec, hpush, push_header]

theorem bytes_decoder (c : Cutter) (xs : List UInt8) :
    (c.bytes xs).decoder = c.decoder.bytes xs := by
  induction xs generalizing c with
  | nil => rfl
  | cons x xs ih => rw [bytes_cons, ih, byte_decoder, Rfc6455.bytes_cons]

theorem cut_decoder (c : Cutter) : c.cut.decoder = c.decoder := by
  obtain ⟨done, current⟩ := c
  cases current with
  | head seen => rfl
  | body f => simp only [Cutter.cut, Cutter.decoder, cut_header, CutFrame.payload, cut_body]

theorem chunk_decoder (c : Cutter) (xs : List UInt8) :
    (c.chunk xs).decoder = c.decoder.bytes xs := by
  rw [chunk, bytes_decoder, cut_decoder]

theorem chunks_decoder (c : Cutter) (cs : List (List UInt8)) :
    (c.chunks cs).decoder = c.decoder.bytes cs.flatten := by
  induction cs generalizing c with
  | nil => rfl
  | cons xs cs ih =>
      rw [chunks, List.foldl_cons, List.flatten_cons, bytes_append, ← chunk_decoder]
      exact ih (c.chunk xs)

theorem chunks_decode {cs : List (List UInt8)} {fs : List Frame} (h : decode cs.flatten = some fs) :
    (init.chunks cs).current = .head [] ∧ (init.chunks cs).frames.map CutFrame.frame = fs := by
  have hdec := chunks_decoder init cs
  have hinit : init.decoder = Decoder.init := rfl
  rw [hinit, bytes_decode h] at hdec
  generalize init.chunks cs = c at hdec ⊢
  obtain ⟨done, current⟩ := c
  cases current with
  | head seen =>
      simp only [Cutter.decoder, Decoder.mk.injEq, Mode.header.injEq] at hdec
      obtain ⟨hdone, rfl⟩ := hdec
      exact ⟨rfl, hdone⟩
  | body f => simp [Cutter.decoder] at hdec

theorem bytes_head_incomplete (h : ¬ Complete (seen ++ xs)) :
    Cutter.bytes ⟨done, .head seen⟩ xs = ⟨done, .head (seen ++ xs)⟩ := by
  induction xs generalizing seen with
  | nil => rw [bytes_nil, List.append_nil]
  | cons x xs ih =>
      have hsplit : seen ++ x :: xs = (seen ++ [x]) ++ xs := by simp
      rw [hsplit] at h ⊢
      have hx : ¬ Complete (seen ++ [x]) := fun hc => h (hc.append xs)
      rw [bytes_cons, byte_head, if_neg hx]
      exact ih h

theorem bytes_head_complete (hs : ¬ Complete seen) (hc : Complete (seen ++ xs)) :
    Cutter.bytes ⟨done, .head seen⟩ xs =
      (close done ⟨(seen ++ xs).take (headerSize (seen ++ xs)), [], []⟩).bytes
        ((seen ++ xs).drop (headerSize (seen ++ xs))) := by
  induction xs generalizing seen with
  | nil => rw [List.append_nil] at hc; exact absurd hc hs
  | cons x xs ih =>
      have hsplit : seen ++ x :: xs = (seen ++ [x]) ++ xs := by simp
      rw [hsplit] at hc ⊢
      rw [bytes_cons, byte_head]
      by_cases hx : Complete (seen ++ [x])
      · rw [if_pos hx, headerSize_append xs hx.1, headerSize_eq_length hs hx, List.take_left, List.drop_left]
      · rw [if_neg hx]
        exact ih hx hc

theorem bytes_fresh_head_incomplete (h : ¬ Complete xs) :
    Cutter.bytes ⟨done, .head []⟩ xs = ⟨done, .head xs⟩ := bytes_head_incomplete h

theorem bytes_fresh_head_complete (hc : Complete xs) :
    Cutter.bytes ⟨done, .head []⟩ xs =
      (close done ⟨xs.take (headerSize xs), [], []⟩).bytes (xs.drop (headerSize xs)) :=
  bytes_head_complete not_complete_nil hc

theorem close_bytes (hfit : f.body.length + xs.length ≤ f.header.length) :
    (close done f).bytes xs = close done (f.push xs) := by
  induction xs generalizing f with
  | nil => rw [bytes_nil, push_nil]
  | cons x xs ih =>
      rw [List.length_cons] at hfit
      have hopen : close done f = ⟨done, .body f⟩ := by
        rw [close, if_neg (by omega)]
      have hlen : (f.push [x]).body.length = f.body.length + 1 := by
        rw [push_body, List.length_append, List.length_singleton]
      rw [bytes_cons, hopen, byte_body, ih (by rw [hlen, push_header]; omega), push_push,
        List.singleton_append]

theorem close_full (h : f.header.length = f.body.length) :
    close done f = ⟨done ++ [f], .head []⟩ := by
  rw [close, if_pos (by omega)]

theorem close_part (h : f.body.length < f.header.length) : close done f = ⟨done, .body f⟩ := by
  rw [close, if_neg (by omega)]

theorem close_frames (done : List CutFrame) (f : CutFrame) :
    (close done f).frames = done ++ [f] := by
  rw [close]
  split <;> rfl

theorem snapshots_concat (head : List UInt8) (earlier ps : List (List UInt8)) (p : List UInt8) :
    snapshots head earlier (ps ++ [p]) = snapshots head earlier ps ++ [⟨head, earlier ++ ps, p⟩] := by
  induction ps generalizing earlier with
  | nil => rw [List.nil_append, snapshots, snapshots, snapshots, List.append_nil]; rfl
  | cons q ps ih =>
      rw [List.cons_append, snapshots, ih, snapshots, List.cons_append, List.append_assoc]
      rfl

@[simp] theorem push_opening (f : CutFrame) (xs : List UInt8) : (f.push xs).opening = f.opening :=
  rfl

@[simp] theorem cut_opening (f : CutFrame) : f.cut.opening = f.items := by
  simp only [CutFrame.opening, CutFrame.items, CutFrame.cut, CutFrame.parts, snapshots_concat,
    List.map_append, List.map_cons, List.map_nil, List.nil_append, List.cons_append]

theorem close_items (done : List CutFrame) (f : CutFrame) :
    (close done f).items = done.flatMap CutFrame.items ++ f.items := by
  rw [Cutter.items, close_frames, List.flatMap_append, List.flatMap_singleton]

theorem fixed_prefix_items (c : Cutter) : c.fixed <+: c.items := by
  obtain ⟨done, current⟩ := c
  cases current with
  | head seen => exact List.prefix_refl _
  | body f =>
      have hitems : Cutter.items ⟨done, .body f⟩ = done.flatMap CutFrame.items ++ f.items := by
        rw [Cutter.items, Cutter.frames, List.flatMap_append, List.flatMap_singleton]
      rw [hitems, CutFrame.items, ← List.append_assoc]
      exact List.prefix_append _ _

theorem fixed_prefix_close (done : List CutFrame) (f : CutFrame) :
    done.flatMap CutFrame.items ++ f.opening <+: (close done f).fixed := by
  rw [close]
  split
  · rw [Cutter.fixed, List.flatMap_append, List.flatMap_singleton, CutFrame.items,
      ← List.append_assoc]
    exact List.prefix_append _ _
  · exact List.prefix_refl _

theorem fixed_byte (c : Cutter) (x : UInt8) : c.fixed <+: (c.byte x).fixed := by
  obtain ⟨done, current⟩ := c
  cases current with
  | head seen =>
      rw [byte_head]
      split
      · exact (List.prefix_append _ _).trans (fixed_prefix_close _ _)
      · exact List.prefix_refl _
  | body f =>
      rw [byte_body]
      exact fixed_prefix_close done (f.push [x])

theorem fixed_bytes (c : Cutter) (xs : List UInt8) : c.fixed <+: (c.bytes xs).fixed := by
  induction xs generalizing c with
  | nil => exact List.prefix_refl _
  | cons x xs ih => exact (fixed_byte c x).trans (ih (c.byte x))

theorem cut_fixed (c : Cutter) : c.cut.fixed = c.items := by
  obtain ⟨done, current⟩ := c
  cases current with
  | head seen => rfl
  | body f =>
      have hfixed : (Cutter.cut ⟨done, .body f⟩).fixed =
          done.flatMap CutFrame.items ++ f.cut.opening := rfl
      rw [hfixed, cut_opening, Cutter.items, Cutter.frames, List.flatMap_append,
        List.flatMap_singleton]

theorem items_chunk (c : Cutter) (xs : List UInt8) : c.items <+: (c.chunk xs).items := by
  rw [← cut_fixed]
  exact (fixed_bytes c.cut xs).trans (fixed_prefix_items _)

theorem items_chunks (c : Cutter) (cs : List (List UInt8)) : c.items <+: (c.chunks cs).items := by
  induction cs generalizing c with
  | nil => exact List.prefix_refl _
  | cons xs cs ih => exact (items_chunk c xs).trans (ih (c.chunk xs))

def CutFrame.wire (f : CutFrame) : List UInt8 := f.head ++ f.body

/-- The header has all of its octets and no others, and the frame was not at its end before the
part at hand. -/
structure Headed (f : CutFrame) : Prop where
  complete : Complete f.head
  size : headerSize f.head = f.head.length
  more : f.earlier ≠ [] → f.earlier.flatten.length < f.header.length

structure Closed (f : CutFrame) : Prop extends Headed f where
  length : f.header.length = f.body.length

def Cutter.tail (c : Cutter) : List UInt8 :=
  match c.current with
  | .head seen => seen
  | .body f => f.wire

structure Sound (c : Cutter) : Prop where
  done : ∀ f ∈ c.done, Closed f
  head : ∀ seen, c.current = .head seen → ¬ Complete seen
  body : ∀ f, c.current = .body f → Headed f ∧ f.body.length < f.header.length

variable {c : Cutter}

theorem close_sound (hd : ∀ g ∈ done, Closed g) (hf : Headed f)
    (hlen : f.body.length ≤ f.header.length) : Sound (close done f) := by
  rw [close]
  split
  next hle =>
    refine ⟨fun g hg => ?_, fun seen h => ?_, fun g h => (by cases h)⟩
    · rcases List.mem_append.mp hg with hg | hg
      · exact hd g hg
      · rw [List.mem_singleton.mp hg]
        exact ⟨hf, Nat.le_antisymm hle hlen⟩
    · cases h
      exact not_complete_nil
  next hlt =>
    refine ⟨hd, fun seen h => (by cases h), fun g h => ?_⟩
    cases h
    exact ⟨hf, Nat.lt_of_not_le hlt⟩

theorem close_wire (done : List CutFrame) (f : CutFrame) :
    (close done f).done.flatMap CutFrame.wire ++ (close done f).tail =
      done.flatMap CutFrame.wire ++ f.wire := by
  rw [close]
  split
  next => simp [Cutter.tail]
  next => rfl

theorem byte_sound (hs : Sound c) (x : UInt8) : Sound (c.byte x) := by
  obtain ⟨done, current⟩ := c
  cases current with
  | head seen =>
      rw [byte_head]
      split
      next hc =>
        exact close_sound hs.done ⟨hc, headerSize_eq_length (hs.head seen rfl) hc, fun h => absurd rfl h⟩
          (Nat.zero_le _)
      next hc =>
        refine ⟨hs.done, fun seen' h => ?_, fun g h => (by cases h)⟩
        cases h
        exact hc
  | body f =>
      obtain ⟨hf, hlt⟩ := hs.body f rfl
      rw [byte_body]
      refine close_sound hs.done ⟨hf.complete, hf.size, hf.more⟩ ?_
      rw [push_body, push_header, List.length_append, List.length_singleton]
      exact hlt

theorem byte_wire (c : Cutter) (x : UInt8) :
    (c.byte x).done.flatMap CutFrame.wire ++ (c.byte x).tail =
      c.done.flatMap CutFrame.wire ++ c.tail ++ [x] := by
  obtain ⟨done, current⟩ := c
  cases current with
  | head seen =>
      rw [byte_head]
      split
      next =>
        rw [close_wire, List.append_assoc]
        simp [CutFrame.wire, CutFrame.body, Cutter.tail]
      next => exact (List.append_assoc _ _ _).symm
  | body f =>
      have hwire : (f.push [x]).wire = f.wire ++ [x] := by
        rw [CutFrame.wire, push_body, ← List.append_assoc]
        rfl
      rw [byte_body, close_wire, hwire, ← List.append_assoc]
      rfl

theorem bytes_sound (hs : Sound c) (xs : List UInt8) : Sound (c.bytes xs) := by
  induction xs generalizing c with
  | nil => exact hs
  | cons x xs ih => exact ih (byte_sound hs x)

theorem bytes_wire (c : Cutter) (xs : List UInt8) :
    (c.bytes xs).done.flatMap CutFrame.wire ++ (c.bytes xs).tail =
      c.done.flatMap CutFrame.wire ++ c.tail ++ xs := by
  induction xs generalizing c with
  | nil => exact (List.append_nil _).symm
  | cons x xs ih => rw [bytes_cons, ih, byte_wire, List.append_assoc, List.singleton_append]

theorem cut_sound (hs : Sound c) : Sound c.cut := by
  obtain ⟨done, current⟩ := c
  cases current with
  | head seen => exact hs
  | body f =>
      obtain ⟨hf, hlt⟩ := hs.body f rfl
      refine ⟨hs.done, fun seen h => (by cases h), fun g h => ?_⟩
      cases h
      refine ⟨⟨hf.complete, hf.size, fun _ => ?_⟩, ?_⟩
      · rw [cut_earlier, List.flatten_append, List.flatten_singleton]
        exact hlt
      · rw [cut_body, cut_header]
        exact hlt

theorem cut_wire (c : Cutter) :
    c.cut.done.flatMap CutFrame.wire ++ c.cut.tail = c.done.flatMap CutFrame.wire ++ c.tail := by
  obtain ⟨done, current⟩ := c
  cases current with
  | head seen => rfl
  | body f =>
      have hwire : f.cut.wire = f.wire := by rw [CutFrame.wire, cut_body, cut_head, CutFrame.wire]
      simp only [Cutter.cut, Cutter.tail, hwire]

theorem chunks_sound (hs : Sound c) (cs : List (List UInt8)) : Sound (c.chunks cs) := by
  induction cs generalizing c with
  | nil => exact hs
  | cons xs cs ih => exact ih (bytes_sound (cut_sound hs) xs)

theorem chunks_wire (c : Cutter) (cs : List (List UInt8)) :
    (c.chunks cs).done.flatMap CutFrame.wire ++ (c.chunks cs).tail =
      c.done.flatMap CutFrame.wire ++ c.tail ++ cs.flatten := by
  induction cs generalizing c with
  | nil => exact (List.append_nil _).symm
  | cons xs cs ih =>
      have hchunk : (c.chunk xs).done.flatMap CutFrame.wire ++ (c.chunk xs).tail =
          c.done.flatMap CutFrame.wire ++ c.tail ++ xs := by
        rw [chunk, bytes_wire, cut_wire]
      rw [List.flatten_cons, ← List.append_assoc, ← hchunk]
      exact ih (c.chunk xs)

theorem init_sound : Sound init :=
  ⟨fun _ h => absurd h List.not_mem_nil, fun _ h => (by cases h; exact not_complete_nil),
    fun _ h => (by cases h)⟩

theorem decodeFrame_append {s rest t : List UInt8} {f : Frame}
    (h : decodeFrame s = some (f, rest)) : decodeFrame (s ++ t) = some (f, rest ++ t) := by
  rw [decodeFrame] at h ⊢
  split at h
  next hc =>
    simp only [Option.ite_none_right_eq_some, Option.some.injEq, Prod.mk.injEq] at h
    obtain ⟨hl, rfl, rfl⟩ := h
    have hdrop : (s ++ t).drop (headerSize s) = s.drop (headerSize s) ++ t :=
      List.drop_append_of_le_length hc.2
    rw [if_pos (hc.append t), headerSize_append t hc.1, headerOf_append hc, hdrop]
    have hl' : (headerOf s).length ≤ (s.drop (headerSize s) ++ t).length := by
      rw [List.length_append]
      exact Nat.le_trans hl (Nat.le_add_right _ _)
    simp only [if_pos hl', List.take_append_of_le_length hl, List.drop_append_of_le_length hl]
  next => cases h

theorem Closed.decodeFrame (hc : Closed f) (rest : List UInt8) :
    decodeFrame (f.wire ++ rest) = some (f.frame, rest) := by
  have hsize : headerSize (f.head ++ (f.body ++ rest)) = f.head.length := by
    rw [headerSize_append _ hc.complete.1, hc.size]
  have hlen : f.header.length ≤ (f.body ++ rest).length := by
    rw [List.length_append, hc.length]
    exact Nat.le_add_right _ _
  have hwire : f.wire ++ rest = f.head ++ (f.body ++ rest) := List.append_assoc _ _ _
  rw [Rfc6455.decodeFrame, hwire, if_pos (hc.complete.append _), hsize,
    headerOf_append hc.complete, List.drop_left]
  change (if f.header.length ≤ (f.body ++ rest).length then
    some (Frame.mk f.header (unmask f.header.key 0 ((f.body ++ rest).take f.header.length)),
      (f.body ++ rest).drop f.header.length) else none) = _
  rw [if_pos hlen, hc.length, List.take_left, List.drop_left]
  rfl

theorem Sound.decodeFrame_tail (hs : Sound c) : decodeFrame c.tail = none := by
  obtain ⟨done, current⟩ := c
  cases current with
  | head seen => exact if_neg (hs.head seen rfl)
  | body f =>
      obtain ⟨hf, hlt⟩ := hs.body f rfl
      have hsize : headerSize (f.head ++ f.body) = f.head.length := by
        rw [headerSize_append _ hf.complete.1, hf.size]
      have htail : Cutter.tail ⟨done, .body f⟩ = f.head ++ f.body := rfl
      rw [htail, decodeFrame, if_pos (hf.complete.append _), hsize, headerOf_append hf.complete,
        List.drop_left]
      exact if_neg (Nat.not_le_of_lt hlt)

theorem next_frame {cs : List CutFrame} {s t tail : List UInt8} {f : Frame}
    (hcs : ∀ g ∈ cs, Closed g) (htail : decodeFrame tail = none)
    (hs : s = cs.flatMap CutFrame.wire ++ tail) (hdec : decodeFrame s = some (f, t)) :
    ∃ g cs', cs = g :: cs' ∧ g.frame = f ∧ s = g.wire ++ t ∧
      t = cs'.flatMap CutFrame.wire ++ tail := by
  cases cs with
  | nil =>
      rw [hs, List.flatMap_nil, List.nil_append, htail] at hdec
      cases hdec
  | cons g cs =>
      rw [List.flatMap_cons, List.append_assoc] at hs
      have hg := (hcs g List.mem_cons_self).decodeFrame (cs.flatMap CutFrame.wire ++ tail)
      rw [hs, hg, Option.some.injEq, Prod.mk.injEq] at hdec
      exact ⟨g, cs, rfl, hdec.1, hdec.2 ▸ hs, hdec.2.symm⟩

theorem next_frames {n : Nat} {cs : List CutFrame} {s t tail : List UInt8} {fs : List Frame}
    (hcs : ∀ g ∈ cs, Closed g) (htail : decodeFrame tail = none)
    (hs : s ++ t = cs.flatMap CutFrame.wire ++ tail) (hdec : decodeUpTo n s = some fs) :
    ∃ cp cm, cs = cp ++ cm ∧ cp.map CutFrame.frame = fs ∧
      t = cm.flatMap CutFrame.wire ++ tail := by
  induction n generalizing s fs cs with
  | zero =>
      cases s with
      | nil =>
          cases hdec
          exact ⟨[], cs, rfl, rfl, hs⟩
      | cons b s => cases hdec
  | succ n ih =>
      cases s with
      | nil =>
          cases hdec
          exact ⟨[], cs, rfl, rfl, hs⟩
      | cons b s =>
          simp only [decodeUpTo, Option.bind_eq_bind, Option.bind_eq_some_iff, Option.pure_def,
            Option.some.injEq] at hdec
          obtain ⟨⟨f, rest⟩, hf, gs, hrest, rfl⟩ := hdec
          obtain ⟨g, cs', rfl, hframe, -, hnext⟩ :=
            next_frame hcs htail hs (decodeFrame_append (t := t) hf)
          obtain ⟨cp, cm, rfl, hmap, ht⟩ :=
            ih (fun h hh => hcs h (List.mem_cons_of_mem _ hh)) hnext hrest
          exact ⟨g :: cp, cm, rfl, by rw [List.map_cons, hframe, hmap], ht⟩

end WirelessEsp.FrameParts
