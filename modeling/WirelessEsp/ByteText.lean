import Mathlib.Data.List.TakeWhile

namespace WirelessEsp.ByteText

def cString (field : List UInt8) : List UInt8 := field.takeWhile (· != 0)

/-- What `strncpy(field, source, n)` leaves in a field of `n` bytes. -/
def strncpy (source : List UInt8) (n : Nat) : List UInt8 :=
  (cString source).take n ++ List.replicate (n - (cString source).length) 0

/-- All bytes from the first zero on are zero. -/
def Intact (field : List UInt8) : Prop := ∀ b ∈ field.dropWhile (· != 0), b = 0

variable {source field : List UInt8} {n : Nat}

theorem ne_of_mem_cString {b : UInt8} (h : b ∈ cString field) : (b != 0) = true :=
  @List.mem_takeWhile_imp UInt8 (· != 0) field b h

theorem cString_append_zeros (k : Nat) (h : ∀ b ∈ source, (b != 0) = true) :
    cString (source ++ List.replicate k 0) = source := by
  rw [cString, List.takeWhile_append_of_pos h]
  cases k with
  | zero => rw [List.replicate_zero, List.takeWhile_nil, List.append_nil]
  | succ k => rw [List.replicate_succ, List.takeWhile_cons_of_neg (by decide), List.append_nil]

theorem cString_strncpy : cString (strncpy source n) = (cString source).take n :=
  cString_append_zeros _ fun _ hb => ne_of_mem_cString (List.mem_of_mem_take hb)

theorem strncpy_length : (strncpy source n).length = n := by
  rw [strncpy, List.length_append, List.length_take, List.length_replicate]
  omega

theorem cString_length_lt (h : 0 ∈ field) : (cString field).length < field.length := by
  refine Nat.lt_of_le_of_ne (List.takeWhile_prefix _).length_le fun hlength => ?_
  have hall := (List.takeWhile_prefix _).eq_of_length hlength
  rw [← hall] at h
  exact absurd (ne_of_mem_cString h) (by decide)

theorem strncpy_eq_iff (h : field.length = n) : strncpy field n = field ↔ Intact field := by
  have hsplit : cString field ++ field.dropWhile (· != 0) = field :=
    List.takeWhile_append_dropWhile
  have hlength := congrArg List.length hsplit
  rw [List.length_append] at hlength
  have htake : (cString field).take n = cString field := List.take_of_length_le (by omega)
  have hrest : n - (cString field).length = (field.dropWhile (· != 0)).length := by omega
  rw [strncpy, htake, hrest]
  constructor
  · intro heq b hb
    have hzeros := List.append_cancel_left (heq.trans hsplit.symm)
    rw [← hzeros] at hb
    exact List.eq_of_mem_replicate hb
  · intro hintact
    rw [← List.eq_replicate_of_mem hintact]
    exact hsplit

theorem strncpy_intact (source : List UInt8) (n : Nat) : Intact (strncpy source n) := by
  intro b hb
  rw [strncpy, List.dropWhile_append_of_pos
    fun c hc => ne_of_mem_cString (List.mem_of_mem_take hc)] at hb
  exact List.eq_of_mem_replicate ((List.dropWhile_sublist _).subset hb)

def hexDigit (d : UInt8) : UInt8 := if d < 10 then 48 + d else 55 + d

def hexByte (b : UInt8) : List UInt8 := [hexDigit (b / 16), hexDigit (b % 16)]

def hexValue (c : UInt8) : Option UInt8 :=
  if 48 ≤ c ∧ c ≤ 57 then some (c - 48)
  else if 65 ≤ c ∧ c ≤ 70 then some (c - 55)
  else none

def parseByte (high low : UInt8) : Option UInt8 :=
  match hexValue high, hexValue low with
  | some h, some l => some (h * 16 + l)
  | _, _ => none

def hexBytes : List UInt8 → List UInt8
  | [] => []
  | [b] => hexByte b
  | b :: c :: bs => hexByte b ++ 58 :: hexBytes (c :: bs)

def parseBytes : List UInt8 → Option (List UInt8)
  | [] => some []
  | [high, low] => (parseByte high low).map fun b => [b]
  | high :: low :: colon :: rest =>
      if colon = 58 then
        match parseByte high low, parseBytes rest with
        | some b, some bs => some (b :: bs)
        | _, _ => none
      else none
  | _ => none

theorem hexValue_hexDigit :
    ∀ d < 16, hexValue (hexDigit (UInt8.ofNat d)) = some (UInt8.ofNat d) := by
  decide

theorem parseByte_hexByte (b : UInt8) :
    parseByte (hexDigit (b / 16)) (hexDigit (b % 16)) = some b := by
  have hlt := b.toNat_lt
  have hhigh : b / 16 = UInt8.ofNat (b.toNat / 16) := by
    apply UInt8.toNat_inj.mp
    rw [UInt8.toNat_div, UInt8.toNat_ofNat_of_lt' (Nat.lt_of_le_of_lt (Nat.div_le_self _ _) hlt)]
    rfl
  have hlow : b % 16 = UInt8.ofNat (b.toNat % 16) := by
    apply UInt8.toNat_inj.mp
    rw [UInt8.toNat_mod, UInt8.toNat_ofNat_of_lt' (Nat.lt_of_le_of_lt (Nat.mod_le _ _) hlt)]
    rfl
  have hb : b / 16 * 16 + b % 16 = b := by
    apply UInt8.toNat_inj.mp
    rw [UInt8.toNat_add, UInt8.toNat_mul, UInt8.toNat_div, UInt8.toNat_mod]
    change (b.toNat / 16 * 16 % 256 + b.toNat % 16) % 256 = b.toNat
    omega
  simp only [parseByte]
  rw [hhigh, hlow, hexValue_hexDigit _ (by omega), hexValue_hexDigit _ (by omega), ← hhigh, ← hlow]
  exact congrArg some hb

theorem parseBytes_hexBytes (bs : List UInt8) : parseBytes (hexBytes bs) = some bs := by
  induction bs with
  | nil => rfl
  | cons b bs ih =>
      cases bs with
      | nil => simp only [hexBytes, hexByte, parseBytes, parseByte_hexByte, Option.map_some]
      | cons c cs =>
          rw [hexBytes, hexByte, List.cons_append, List.cons_append, List.nil_append, parseBytes,
            if_pos rfl, parseByte_hexByte, ih]

end WirelessEsp.ByteText
