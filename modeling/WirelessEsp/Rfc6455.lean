import Mathlib.Data.List.GetD

namespace WirelessEsp.Rfc6455

/-- The fields of a frame header. The length is the payload length after the
extended length field has been read; an unmasked frame has no key. -/
structure Header where
  fin : Bool
  rsv : UInt8
  opcode : UInt8
  key : Option (List UInt8)
  length : Nat
deriving DecidableEq, Repr

structure Frame where
  header : Header
  payload : List UInt8
deriving DecidableEq, Repr

def lengthField (b : UInt8) : Nat := (b &&& 0x7f).toNat

def maskBit (b : UInt8) : Bool := b &&& 0x80 != 0

def extendedSize (b : UInt8) : Nat :=
  if lengthField b = 126 then 2 else if lengthField b = 127 then 8 else 0

def keySize (b : UInt8) : Nat := if maskBit b then 4 else 0

def headerSize (s : List UInt8) : Nat := 2 + extendedSize (s.getD 1 0) + keySize (s.getD 1 0)

def Complete (s : List UInt8) : Prop := 2 ≤ s.length ∧ headerSize s ≤ s.length

instance (s : List UInt8) : Decidable (Complete s) := inferInstanceAs (Decidable (_ ∧ _))

def beNat (xs : List UInt8) : Nat := xs.foldl (fun n x => n * 256 + x.toNat) 0

def headerLength (s : List UInt8) : Nat :=
  if extendedSize (s.getD 1 0) = 0 then lengthField (s.getD 1 0)
  else beNat ((s.drop 2).take (extendedSize (s.getD 1 0)))

def headerKey (s : List UInt8) : Option (List UInt8) :=
  if maskBit (s.getD 1 0) then some ((s.drop (2 + extendedSize (s.getD 1 0))).take 4) else none

def headerOf (s : List UInt8) : Header where
  fin := s.getD 0 0 &&& 0x80 != 0
  rsv := s.getD 0 0 &&& 0x70
  opcode := s.getD 0 0 &&& 0x0f
  key := headerKey s
  length := headerLength s

/-- Payload octets from position `start` on, exclusive-or'd with the octets of
the key taken modulo four. -/
def unmask (key : Option (List UInt8)) (start : Nat) (xs : List UInt8) : List UInt8 :=
  match key with
  | none => xs
  | some k => xs.mapIdx (fun i x => x ^^^ k.getD ((start + i) % 4) 0)

def decodeFrame (s : List UInt8) : Option (Frame × List UInt8) :=
  if Complete s then
    let h := headerOf s
    let body := s.drop (headerSize s)
    if h.length ≤ body.length then
      some (⟨h, unmask h.key 0 (body.take h.length)⟩, body.drop h.length)
    else none
  else none

def decodeUpTo : Nat → List UInt8 → Option (List Frame)
  | _, [] => some []
  | 0, _ :: _ => none
  | n + 1, b :: s => do
      let (f, rest) ← decodeFrame (b :: s)
      let fs ← decodeUpTo n rest
      pure (f :: fs)

/-- A stream that consists of whole frames, one after the other. -/
def decode (s : List UInt8) : Option (List Frame) := decodeUpTo s.length s

inductive Mode
  | header (seen : List UInt8)
  | payload (h : Header) (got : List UInt8)
deriving DecidableEq, Repr

/-- The same decoding one octet at a time. Frames that are complete are kept
in order; the mode holds what is known of the next one. -/
structure Decoder where
  frames : List Frame
  mode : Mode
deriving DecidableEq, Repr

def Decoder.init : Decoder := ⟨[], .header []⟩

def settle (fs : List Frame) (h : Header) (got : List UInt8) : Decoder :=
  if h.length ≤ got.length then ⟨fs ++ [⟨h, got⟩], .header []⟩ else ⟨fs, .payload h got⟩

def Decoder.byte (d : Decoder) (x : UInt8) : Decoder :=
  match d.mode with
  | .header seen =>
      if Complete (seen ++ [x]) then settle d.frames (headerOf (seen ++ [x])) []
      else ⟨d.frames, .header (seen ++ [x])⟩
  | .payload h got => settle d.frames h (got ++ unmask h.key got.length [x])

def Decoder.bytes (d : Decoder) (xs : List UInt8) : Decoder := xs.foldl Decoder.byte d

def Decoder.seen (d : Decoder) : List Frame :=
  match d.mode with
  | .header _ => d.frames
  | .payload h got => d.frames ++ [⟨h, got⟩]

def Decoder.inPayload (d : Decoder) : Bool :=
  match d.mode with
  | .header _ => false
  | .payload _ _ => true

@[simp] theorem bytes_nil (d : Decoder) : d.bytes [] = d := rfl

@[simp] theorem bytes_cons (d : Decoder) (x : UInt8) (xs : List UInt8) :
    d.bytes (x :: xs) = (d.byte x).bytes xs := rfl

theorem bytes_append (d : Decoder) (xs ys : List UInt8) :
    d.bytes (xs ++ ys) = (d.bytes xs).bytes ys := List.foldl_append ..

@[simp] theorem unmask_length (key : Option (List UInt8)) (start : Nat) (xs : List UInt8) :
    (unmask key start xs).length = xs.length := by
  cases key <;> simp [unmask]

theorem unmask_append (key : Option (List UInt8)) (start : Nat) (xs ys : List UInt8) :
    unmask key start (xs ++ ys) = unmask key start xs ++ unmask key (start + xs.length) ys := by
  cases key with
  | none => rfl
  | some k =>
      simp only [unmask, List.mapIdx_append, List.append_cancel_left_eq]
      congr 1
      funext i x
      congr 3
      omega

theorem headerSize_append {s : List UInt8} (t : List UInt8) (hs : 2 ≤ s.length) :
    headerSize (s ++ t) = headerSize s := by
  simp only [headerSize, List.getD_append _ _ _ _ hs]

theorem two_le_headerSize (s : List UInt8) : 2 ≤ headerSize s := by
  simp only [headerSize]; omega

theorem Complete.append {s : List UInt8} (h : Complete s) (t : List UInt8) : Complete (s ++ t) := by
  refine ⟨?_, ?_⟩
  · rw [List.length_append]; exact Nat.le_trans h.1 (Nat.le_add_right _ _)
  · rw [headerSize_append t h.1, List.length_append]
    exact Nat.le_trans h.2 (Nat.le_add_right _ _)

theorem getD_append_left {s : List UInt8} (t : List UInt8) {i : Nat} (hi : i < s.length) :
    (s ++ t).getD i 0 = s.getD i 0 := List.getD_append _ _ _ _ hi

theorem headerLength_append {s : List UInt8} (h2 : 2 ≤ s.length)
    (h : 2 + extendedSize (s.getD 1 0) ≤ s.length) (t : List UInt8) :
    headerLength (s ++ t) = headerLength s := by
  simp only [headerLength, getD_append_left t (show 1 < s.length from h2)]
  split
  next => rfl
  next =>
    rw [List.drop_append_of_le_length h2, List.take_append_of_le_length]
    rw [List.length_drop]
    omega

theorem headerKey_append {s : List UInt8} (h : Complete s) (t : List UInt8) :
    headerKey (s ++ t) = headerKey s := by
  obtain ⟨h2, hsz⟩ := h
  simp only [headerKey, getD_append_left t (show 1 < s.length from h2)]
  split
  next hm =>
    simp only [headerSize, keySize, hm, if_true] at hsz
    rw [List.drop_append_of_le_length (by omega), List.take_append_of_le_length]
    rw [List.length_drop]
    omega
  next => rfl

theorem headerOf_append {s : List UInt8} (h : Complete s) (t : List UInt8) :
    headerOf (s ++ t) = headerOf s := by
  have h2 := h.1
  have hsz := h.2
  rw [headerSize] at hsz
  simp only [headerOf, getD_append_left t (show 0 < s.length by omega),
    headerLength_append h2 (by omega), headerKey_append h]

theorem not_complete_nil : ¬ Complete [] := by decide

theorem headerSize_eq_length {s : List UInt8} {x : UInt8} (hs : ¬ Complete s)
    (hc : Complete (s ++ [x])) : headerSize (s ++ [x]) = (s ++ [x]).length := by
  obtain ⟨h2, hsz⟩ := hc
  by_cases hl : 2 ≤ s.length
  · have hsame := headerSize_append [x] hl
    have hmore : ¬ headerSize s ≤ s.length := fun h => hs ⟨hl, h⟩
    rw [List.length_append, List.length_singleton] at hsz ⊢
    omega
  · have htwo := two_le_headerSize (s ++ [x])
    rw [List.length_append, List.length_singleton] at hsz ⊢
    omega

theorem bytes_header_incomplete {fs : List Frame} {seen xs : List UInt8}
    (h : ¬ Complete (seen ++ xs)) :
    Decoder.bytes ⟨fs, .header seen⟩ xs = ⟨fs, .header (seen ++ xs)⟩ := by
  induction xs generalizing seen with
  | nil => rw [bytes_nil, List.append_nil]
  | cons x xs ih =>
      have hsplit : seen ++ x :: xs = (seen ++ [x]) ++ xs := by simp
      rw [hsplit] at h ⊢
      have hx : ¬ Complete (seen ++ [x]) := fun hc => h (hc.append xs)
      rw [bytes_cons, Decoder.byte]
      simp only [if_neg hx]
      exact ih h

theorem bytes_header_complete {fs : List Frame} {seen xs : List UInt8} (hs : ¬ Complete seen)
    (hc : Complete (seen ++ xs)) :
    Decoder.bytes ⟨fs, .header seen⟩ xs =
      (settle fs (headerOf (seen ++ xs)) []).bytes ((seen ++ xs).drop (headerSize (seen ++ xs))) := by
  induction xs generalizing seen with
  | nil => rw [List.append_nil] at hc; exact absurd hc hs
  | cons x xs ih =>
      have hsplit : seen ++ x :: xs = (seen ++ [x]) ++ xs := by simp
      rw [hsplit] at hc ⊢
      rw [bytes_cons, Decoder.byte]
      by_cases hx : Complete (seen ++ [x])
      · simp only [if_pos hx]
        rw [headerOf_append hx, headerSize_append xs hx.1, headerSize_eq_length hs hx,
          List.drop_left]
      · simp only [if_neg hx]
        exact ih hx hc

theorem bytes_fresh_incomplete {fs : List Frame} {xs : List UInt8} (h : ¬ Complete xs) :
    Decoder.bytes ⟨fs, .header []⟩ xs = ⟨fs, .header xs⟩ :=
  bytes_header_incomplete h

theorem bytes_fresh_complete {fs : List Frame} {xs : List UInt8} (hc : Complete xs) :
    Decoder.bytes ⟨fs, .header []⟩ xs =
      (settle fs (headerOf xs) []).bytes (xs.drop (headerSize xs)) :=
  bytes_header_complete not_complete_nil hc

theorem settle_bytes {fs : List Frame} {h : Header} {got xs : List UInt8}
    (hfit : got.length + xs.length ≤ h.length) :
    (settle fs h got).bytes xs = settle fs h (got ++ unmask h.key got.length xs) := by
  induction xs generalizing got with
  | nil =>
      have hnil : unmask h.key got.length [] = [] := List.eq_nil_of_length_eq_zero (by simp)
      rw [bytes_nil, hnil, List.append_nil]
  | cons x xs ih =>
      rw [List.length_cons] at hfit
      have hopen : settle fs h got = ⟨fs, .payload h got⟩ := by
        rw [settle, if_neg (by omega)]
      have hlen : (got ++ unmask h.key got.length [x]).length = got.length + 1 := by simp
      rw [bytes_cons, hopen, Decoder.byte, ih (by omega), List.append_assoc, hlen,
        ← List.length_singleton (a := x), ← unmask_append]
      rfl

theorem settle_full {fs : List Frame} {h : Header} {got : List UInt8} (hl : h.length = got.length) :
    settle fs h got = ⟨fs ++ [⟨h, got⟩], .header []⟩ := by
  rw [settle, if_pos (by omega)]

theorem settle_part {fs : List Frame} {h : Header} {got : List UInt8} (hl : got.length < h.length) :
    settle fs h got = ⟨fs, .payload h got⟩ := by
  rw [settle, if_neg (by omega)]

theorem settle_seen (fs : List Frame) (h : Header) (got : List UInt8) :
    (settle fs h got).seen = fs ++ [⟨h, got⟩] := by
  rw [settle]
  split <;> rfl

theorem headers_byte (d : Decoder) (x : UInt8) :
    d.seen.map Frame.header <+: (d.byte x).seen.map Frame.header := by
  obtain ⟨fs, mode⟩ := d
  cases mode with
  | header seen =>
      simp only [Decoder.byte]
      split
      next => rw [settle_seen, List.map_append]; exact List.prefix_append _ _
      next => exact List.prefix_refl _
  | payload h got =>
      have hseen : Decoder.seen ⟨fs, .payload h got⟩ = fs ++ [⟨h, got⟩] := rfl
      simp only [Decoder.byte, settle_seen, hseen, List.map_append, List.map_cons, List.map_nil]
      exact List.prefix_refl _

theorem headers_bytes (d : Decoder) (xs : List UInt8) :
    d.seen.map Frame.header <+: (d.bytes xs).seen.map Frame.header := by
  induction xs generalizing d with
  | nil => exact List.prefix_refl _
  | cons x xs ih => exact (headers_byte d x).trans (ih _)

theorem bytes_decodeFrame {fs : List Frame} {s rest : List UInt8} {f : Frame}
    (h : decodeFrame s = some (f, rest)) :
    Decoder.bytes ⟨fs, .header []⟩ s = Decoder.bytes ⟨fs ++ [f], .header []⟩ rest := by
  rw [decodeFrame] at h
  split at h
  next hc =>
    simp only [Option.ite_none_right_eq_some, Option.some.injEq, Prod.mk.injEq] at h
    obtain ⟨hl, rfl, rfl⟩ := h
    have hbody := List.take_append_drop (headerOf s).length (s.drop (headerSize s))
    have htake := List.length_take_of_le hl
    rw [bytes_fresh_complete hc]
    conv => lhs; rw [← hbody]
    rw [bytes_append, settle_bytes (by simp [htake]), settle_full (by simp [htake])]
    rfl
  next => simp at h

theorem bytes_decodeUpTo {n : Nat} {fs gs : List Frame} {s : List UInt8}
    (h : decodeUpTo n s = some gs) :
    Decoder.bytes ⟨fs, .header []⟩ s = ⟨fs ++ gs, .header []⟩ := by
  induction n generalizing fs gs s with
  | zero =>
      cases s with
      | nil => simp_all [decodeUpTo]
      | cons b s => simp [decodeUpTo] at h
  | succ n ih =>
      cases s with
      | nil => simp_all [decodeUpTo]
      | cons b s =>
          simp only [decodeUpTo, Option.bind_eq_bind, Option.bind_eq_some_iff, Option.pure_def,
            Option.some.injEq] at h
          obtain ⟨⟨f, rest⟩, hf, hs, hrest, rfl⟩ := h
          rw [bytes_decodeFrame hf, ih hrest, List.append_assoc]
          rfl

theorem bytes_decode {s : List UInt8} {fs : List Frame} (h : decode s = some fs) :
    Decoder.init.bytes s = ⟨fs, .header []⟩ := bytes_decodeUpTo h

end WirelessEsp.Rfc6455
