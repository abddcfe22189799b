import WirelessEsp.StringSearch
import WirelessEsp.WebsocketResponse

namespace WirelessEsp.WebsocketHandshake

open WebsocketServer WebsocketResponse StringSearch

def tolower (c : UInt8) : UInt8 := if 65 ≤ c ∧ c ≤ 90 then c + 32 else c

def isalnum (c : UInt8) : Bool :=
  (48 ≤ c && c ≤ 57) || (65 ≤ c && c ≤ 90) || (97 ≤ c && c ≤ 122)

def CR : UInt8 := 13
def LF : UInt8 := 10
def BLANK : UInt8 := 32
def COLON : UInt8 := 58

/-- Memory is the list of the bytes from the start of the receive buffer to a NUL at or behind its
end, which is not listed, and a pointer is a position in it. -/
def cString (mem : List UInt8) (i : Nat) : List UInt8 := (mem.drop i).takeWhile (· != 0)

def strcasestr (mem : List UInt8) (i : Nat) (needle : List UInt8) : Option Nat :=
  (firstMatch tolower (needle.map tolower) (cString mem i)).map (i + ·)

def IsField (mem : List UInt8) (headerEnd : Nat) (fieldName : List UInt8) (fieldStart : Nat) :
    Prop :=
  let fieldEnd := fieldStart + fieldName.length - 1
  2 ≤ fieldStart ∧ mem.getD (fieldStart - 2) 0 = CR ∧ mem.getD (fieldStart - 1) 0 = LF ∧
    fieldEnd + 1 ≤ headerEnd ∧ mem.getD (fieldEnd + 1) 0 = COLON

instance (mem : List UInt8) (headerEnd : Nat) (fieldName : List UInt8) (fieldStart : Nat) :
    Decidable (IsField mem headerEnd fieldName fieldStart) :=
  inferInstanceAs (Decidable (_ ∧ _))

/-- The loop over the places where the name occurs; it goes on behind `fieldStart`. -/
def findField (mem : List UInt8) (headerEnd : Nat) (fieldName : List UInt8) :
    Nat → Nat → Option Nat
  | 0, _ => none
  | fuel + 1, fieldStart =>
      match strcasestr mem (fieldStart + 1) fieldName with
      | none => none
      | some fieldStart =>
          if IsField mem headerEnd fieldName fieldStart then some fieldStart
          else findField mem headerEnd fieldName fuel fieldStart

def coHttpHeaderFindFieldValue (mem : List UInt8) (headerEnd : Nat) (fieldName : List UInt8)
    (value : Option (List UInt8)) : Option Nat :=
  match findField mem headerEnd fieldName (mem.length + 1) 0 with
  | none => none
  | some fieldStart =>
      match strcasestr mem fieldStart [CR, LF] with
      | none => none
      | some nextCrlf =>
          match value with
          | none => some (fieldStart + fieldName.length - 1 + 2)
          | some value =>
              match strcasestr mem fieldStart value with
              | none => none
              | some valueStart =>
                  if valueStart > nextCrlf then none
                  else if isalnum (mem.getD (valueStart - 1) 0) ||
                      isalnum (mem.getD (valueStart + value.length) 0) then none
                  else some valueStart

def skipBlanks (mem : List UInt8) (i : Nat) : Nat :=
  i + ((mem.drop i).takeWhile (· == BLANK)).length

def keyEnd (mem : List UInt8) (i : Nat) : Nat :=
  i + ((mem.drop i).takeWhile fun c => c != CR && c != BLANK).length

/-- The start of the key, where the header asks for a websocket and its key has 24 bytes. -/
def wsKeyStart (mem : List UInt8) (remainingLen : Nat) : Option Nat :=
  let headerEnd := remainingLen - 1
  if coHttpHeaderFindFieldValue mem headerEnd (text "Upgrade") (some (text "websocket")) = none ∨
      coHttpHeaderFindFieldValue mem headerEnd (text "Connection") (some (text "Upgrade")) = none
  then none
  else
    match coHttpHeaderFindFieldValue mem headerEnd (text "Sec-WebSocket-Key") none with
    | none => none
    | some start =>
        let start := skipBlanks mem start
        if keyEnd mem start - start ≠ 24 then none else some start

/-- What a handshake does: the response to a bad request, the key that is passed on with the
number of bytes received by then, and the response to a good one. -/
inductive Event
  | error400
  | sendKey (received start : Nat) (key : List UInt8)
  | switchingProtocols (acceptKey : List UInt8)
deriving DecidableEq, Repr

structure Handshake where
  mem : List UInt8
  remainingLen : Nat
  status : CoSocketStatus
  log : List Event
deriving DecidableEq, Repr

def Handshake.emit (s : Handshake) (e : Event) : Handshake := { s with log := s.log ++ [e] }

def clearBuf (mem : List UInt8) : List UInt8 :=
  overwrite mem 0 (List.replicate CONFIG_CO_SOCKET_BUFFER_SIZE 0)

/-- The part behind the end of the header. `createAcceptKey` hashes and encodes the key. -/
def processRequest (createAcceptKey : List UInt8 → Option (List UInt8)) (s : Handshake) :
    Bool × Handshake :=
  match wsKeyStart s.mem s.remainingLen with
  | none => (false, s.emit .error400)
  | some start =>
      let key := (s.mem.drop start).take 24
      let s := s.emit (.sendKey s.remainingLen start key)
      match createAcceptKey key with
      | none => (false, s.emit .error400)
      | some acceptKey =>
          (true, { s.emit (.switchingProtocols acceptKey) with
            status := .websocketHeader, remainingLen := 0, mem := clearBuf s.mem })

/-- One call, with the bytes `recv` returns; no bytes stand for an error or the end of the
connection. -/
def coWebsocketHandshakeProcess (createAcceptKey : List UInt8 → Option (List UInt8))
    (s : Handshake) (bytes : List UInt8) : Bool × Handshake :=
  let s := if s.remainingLen = 0 then { s with mem := clearBuf s.mem } else s
  if bytes = [] then (false, s.emit .error400)
  else
    let s := { s with
      mem := overwrite s.mem s.remainingLen bytes
      remainingLen := s.remainingLen + bytes.length }
    if s.remainingLen < 4 ∨ (s.mem.drop (s.remainingLen - 4)).take 4 ≠ [CR, LF, CR, LF] then
      (true, s)
    else processRequest createAcceptKey s

/-- The handshake loop of `websocket_worker`. -/
def handshake (createAcceptKey : List UInt8 → Option (List UInt8)) :
    Handshake → List (List UInt8) → Bool × Handshake
  | s, [] => (true, s)
  | s, bytes :: rest =>
      match coWebsocketHandshakeProcess createAcceptKey s bytes with
      | (true, s) => if s.status = .handshake then handshake createAcceptKey s rest else (true, s)
      | (false, s) => (false, s)

/-- The state in which `websocket_worker` begins: four bytes have been received, and the memory
behind them is as earlier sessions left it. -/
def Handshake.start (stale : List UInt8) : Handshake where
  mem := text "GET " ++ stale
  remainingLen := 4
  status := .handshake
  log := []

variable {r t : List UInt8} {i p : Nat} {needle : List UInt8}

theorem cString_append (hi : i ≤ r.length) :
    ∃ u, cString (r ++ t) i = cString r i ++ u ∧ (cString r i = r.drop i ∨ u = []) := by
  rw [cString, cString, List.drop_append_of_le_length hi, List.takeWhile_append]
  split
  next h =>
    have hall := (List.takeWhile_prefix (l := r.drop i) (· != 0)).eq_of_length h
    exact ⟨_, by rw [hall], .inl hall⟩
  next => exact ⟨[], (List.append_nil _).symm, .inr rfl⟩

theorem cString_length_le (r : List UInt8) (i : Nat) : (cString r i).length ≤ r.length - i := by
  have hle := (List.takeWhile_prefix (l := r.drop i) (· != 0)).length_le
  rwa [List.length_drop] at hle

theorem strcasestr_eq_some :
    strcasestr r i needle = some p ↔
      ∃ k, firstMatch tolower (needle.map tolower) (cString r i) = some k ∧ i + k = p := by
  rw [strcasestr, Option.map_eq_some_iff]

theorem strcasestr_le (hne : needle ≠ []) (h : strcasestr r i needle = some p) :
    i ≤ p ∧ p + needle.length ≤ r.length := by
  obtain ⟨k, hk, rfl⟩ := strcasestr_eq_some.mp h
  have hlen := firstMatch_length_le hk
  have hpos := List.length_pos_iff.mpr hne
  have hle := cString_length_le r i
  rw [List.length_map] at hlen
  omega

theorem strcasestr_append (hi : i ≤ r.length) (h : strcasestr r i needle = some p)
    (t : List UInt8) : strcasestr (r ++ t) i needle = some p := by
  obtain ⟨k, hk, rfl⟩ := strcasestr_eq_some.mp h
  obtain ⟨u, hu, -⟩ := @cString_append r t i hi
  refine strcasestr_eq_some.mpr ⟨k, ?_, rfl⟩
  rw [hu]
  exact firstMatch_append hk u

theorem strcasestr_of_append (hi : i ≤ r.length) (h : strcasestr (r ++ t) i needle = some p)
    (hp : p + needle.length ≤ r.length) : strcasestr r i needle = some p := by
  obtain ⟨k, hk, rfl⟩ := strcasestr_eq_some.mp h
  obtain ⟨u, hu, hall | rfl⟩ := @cString_append r t i hi
  · refine strcasestr_eq_some.mpr ⟨k, ?_, rfl⟩
    rw [hu] at hk
    refine firstMatch_of_append hk ?_
    rw [List.length_map, hall, List.length_drop]
    omega
  · rw [List.append_nil] at hu
    rw [strcasestr, ← hu]
    exact h

def NoCR (needle : List UInt8) : Prop := ∀ c ∈ needle, tolower c ≠ CR

instance (needle : List UInt8) : Decidable (NoCR needle) :=
  inferInstanceAs (Decidable (∀ c ∈ needle, _))

theorem cString_getElem? {j : Nat} {c : UInt8} (h : (cString r i)[j]? = some c) :
    r.getD (i + j) 0 = c := by
  obtain ⟨u, hu⟩ := List.takeWhile_prefix (l := r.drop i) (· != 0)
  have hget : (r.drop i)[j]? = some c := by
    rw [← hu]
    exact (List.getElem?_append_left (List.getElem?_eq_some_iff.mp h).1).trans h
  rw [List.getElem?_drop] at hget
  rw [List.getD_eq_getElem?_getD, hget]
  rfl

theorem strcasestr_noCR (hcr : NoCR needle) (h : strcasestr r i needle = some p) {j : Nat}
    (hj : j < needle.length) : r.getD (p + j) 0 ≠ CR := by
  obtain ⟨k, hk, rfl⟩ := strcasestr_eq_some.mp h
  obtain ⟨-, hm, -⟩ := firstMatch_eq_some.mp hk
  have hget := hm.getElem? (i := j) (by rwa [List.length_map])
  rw [List.getElem?_map, List.getElem?_eq_getElem hj, Option.map_some, Option.map_eq_some_iff]
    at hget
  obtain ⟨c, hc, hlower⟩ := hget
  rw [Nat.add_assoc, cString_getElem? hc]
  rintro rfl
  exact hcr _ (List.getElem_mem hj) hlower.symm

theorem getD_append_received {j : Nat} (hj : j < r.length) : (r ++ t).getD j 0 = r.getD j 0 :=
  List.getD_append _ _ _ _ hj

theorem isField_append :
    IsField (r ++ t) (r.length - 1) needle p ↔ IsField r (r.length - 1) needle p := by
  have hget := fun j => @getD_append_received r t j
  constructor
  · rintro ⟨htwo, hcr, hlf, hend, hcolon⟩
    rw [hget _ (by omega)] at hcr hlf hcolon
    exact ⟨htwo, hcr, hlf, hend, hcolon⟩
  · rintro ⟨htwo, hcr, hlf, hend, hcolon⟩
    refine ⟨htwo, ?_, ?_, hend, ?_⟩
    · rw [hget _ (by omega)]; exact hcr
    · rw [hget _ (by omega)]; exact hlf
    · rw [hget _ (by omega)]; exact hcolon

theorem findField_late (hne : needle ≠ []) {fuel start : Nat}
    (hlate : r.length < start + 1 + needle.length) :
    findField (r ++ t) (r.length - 1) needle fuel start = none := by
  have hpos := List.length_pos_iff.mpr hne
  induction fuel generalizing start with
  | zero => rfl
  | succ fuel ih =>
      rw [findField]
      split
      next => rfl
      next p hp =>
        have hle := strcasestr_le hne hp
        have hnot : ¬ IsField (r ++ t) (r.length - 1) needle p := by
          rintro ⟨-, -, -, hend, -⟩
          omega
        rw [if_neg hnot]
        exact ih (by omega)

theorem findField_append (hne : needle ≠ []) (fuel : Nat) {start : Nat}
    (hstart : start + 1 ≤ r.length) :
    findField (r ++ t) (r.length - 1) needle fuel start =
      findField r (r.length - 1) needle fuel start := by
  have hpos := List.length_pos_iff.mpr hne
  induction fuel generalizing start with
  | zero => rfl
  | succ fuel ih =>
      rw [findField, findField]
      cases hr : strcasestr r (start + 1) needle with
      | some p =>
          have hle := strcasestr_le hne hr
          simp only [strcasestr_append hstart hr t, isField_append, ih (by omega : p + 1 ≤ r.length)]
      | none =>
          cases hrt : strcasestr (r ++ t) (start + 1) needle with
          | none => rfl
          | some p =>
              have hlate : r.length < p + needle.length := by
                by_contra hin
                rw [strcasestr_of_append hstart hrt (by omega)] at hr
                cases hr
              have hnot : ¬ IsField (r ++ t) (r.length - 1) needle p := by
                rintro ⟨-, -, -, hend, -⟩
                omega
              simp only [if_neg hnot]
              exact findField_late hne (by omega)

theorem findField_fuel (hne : needle ≠ []) {headerEnd fuel fuel' start : Nat}
    (h : r.length ≤ start + fuel) (h' : r.length ≤ start + fuel') :
    findField r headerEnd needle fuel start = findField r headerEnd needle fuel' start := by
  have hpos := List.length_pos_iff.mpr hne
  have hdone {start : Nat} (hstart : r.length ≤ start) :
      strcasestr r (start + 1) needle = none := by
    by_contra hsome
    obtain ⟨p, hp⟩ := Option.ne_none_iff_exists'.mp hsome
    have hle := strcasestr_le hne hp
    omega
  induction fuel generalizing fuel' start with
  | zero =>
      cases fuel' with
      | zero => rfl
      | succ fuel' => rw [findField, findField, hdone h]
  | succ fuel ih =>
      cases fuel' with
      | zero => rw [findField, findField, hdone h']
      | succ fuel' =>
          rw [findField, findField]
          split
          next => rfl
          next p hp =>
            have hle := strcasestr_le hne hp
            rw [@ih fuel' p (by omega) (by omega)]

theorem findField_some {headerEnd fuel start : Nat}
    (h : findField r headerEnd needle fuel start = some p) :
    ∃ i, strcasestr r i needle = some p ∧ IsField r headerEnd needle p := by
  induction fuel generalizing start with
  | zero => cases h
  | succ fuel ih =>
      rw [findField] at h
      split at h
      next => cases h
      next q hq =>
        split at h
        next hfield =>
          cases h
          exact ⟨_, hq, hfield⟩
        next => exact ih h

def Whole (r : List UInt8) : Prop := ∃ lines, r = lines ++ [CR, LF, CR, LF]

theorem strcasestr_crlf (hw : Whole r) (hi : i + 2 ≤ r.length) :
    strcasestr (r ++ t) i [CR, LF] = strcasestr r i [CR, LF] := by
  obtain ⟨u, hu, hall | rfl⟩ := @cString_append r t i (by omega)
  · cases hr : strcasestr r i [CR, LF] with
    | some p => exact strcasestr_append (by omega) hr t
    | none =>
        rw [strcasestr, Option.map_eq_none_iff, firstMatch_eq_none (by decide), hall] at hr
        refine absurd ?_ (hr (r.length - 2 - i))
        obtain ⟨lines, rfl⟩ := hw
        have hlast : (lines ++ [CR, LF, CR, LF]).length - 2 = (lines ++ [CR, LF]).length := by
          simp only [List.length_append, List.length_cons, List.length_nil]
          omega
        have hsplit : lines ++ [CR, LF, CR, LF] = (lines ++ [CR, LF]) ++ [CR, LF] := by simp
        have hend : (lines ++ [CR, LF, CR, LF]).drop ((lines ++ [CR, LF, CR, LF]).length - 2) =
            [CR, LF] := by rw [hlast, hsplit, List.drop_left]
        have hstart : i + ((lines ++ [CR, LF, CR, LF]).length - 2 - i) =
            (lines ++ [CR, LF, CR, LF]).length - 2 := by omega
        simp only [MatchAt, List.drop_drop, hstart, hend, List.prefix_refl]
  · rw [List.append_nil] at hu
    rw [strcasestr, strcasestr, hu]

theorem IsField.lt {headerEnd : Nat} (hne : needle ≠ []) (h : IsField r headerEnd needle p) :
    p + needle.length ≤ headerEnd ∧ r.getD (p + needle.length) 0 = COLON := by
  have hpos := List.length_pos_iff.mpr hne
  obtain ⟨-, -, -, hend, hcolon⟩ := h
  have heq : p + needle.length - 1 + 1 = p + needle.length := by omega
  rw [heq] at hend hcolon
  exact ⟨hend, hcolon⟩

theorem value_append {value : List UInt8} {nextCrlf : Nat} (hne : value ≠ []) (hcr : NoCR value)
    (hi : i ≤ r.length) (hline : nextCrlf + 2 ≤ r.length) (hat : r.getD nextCrlf 0 = CR) :
    (match strcasestr (r ++ t) i value with
      | none => none
      | some valueStart =>
          if valueStart > nextCrlf then none
          else if isalnum ((r ++ t).getD (valueStart - 1) 0) ||
              isalnum ((r ++ t).getD (valueStart + value.length) 0) then none
          else some valueStart) =
    (match strcasestr r i value with
      | none => none
      | some valueStart =>
          if valueStart > nextCrlf then none
          else if isalnum (r.getD (valueStart - 1) 0) ||
              isalnum (r.getD (valueStart + value.length) 0) then none
          else some valueStart) := by
  have hpos := List.length_pos_iff.mpr hne
  -- a value that begins in the line ends in it, as it has no end of a line
  have hin {p : Nat} (hp : strcasestr (r ++ t) i value = some p) (hle : p ≤ nextCrlf) :
      p + value.length ≤ nextCrlf := by
    by_contra hover
    refine strcasestr_noCR hcr hp (j := nextCrlf - p) (by omega) ?_
    rw [Nat.add_sub_cancel' hle, getD_append_received (by omega)]
    exact hat
  cases hr : strcasestr r i value with
  | some p =>
      have hrt := strcasestr_append hi hr t
      simp only [hrt]
      by_cases hle : p > nextCrlf
      · rw [if_pos hle, if_pos hle]
      · have hend := hin hrt (by omega)
        rw [getD_append_received (by omega), getD_append_received (by omega)]
  | none =>
      cases hrt : strcasestr (r ++ t) i value with
      | none => rfl
      | some p =>
          have hlate : p > nextCrlf := by
            by_contra hle
            have hend := hin hrt (by omega)
            rw [strcasestr_of_append hi hrt (by omega)] at hr
            cases hr
          simp only [if_pos hlate]

theorem eq_CR_of_tolower {c : UInt8} (h : tolower c = CR) : c = CR := by
  rw [tolower] at h
  split at h
  next hupper =>
    have hle := UInt8.le_iff_toNat_le.mp hupper.2
    have hge := UInt8.le_iff_toNat_le.mp hupper.1
    have hsum := congrArg UInt8.toNat h
    rw [UInt8.toNat_add] at hsum
    simp only [UInt8.reduceToNat, CR] at hle hge hsum
    omega
  next => exact h

theorem strcasestr_at (h : strcasestr r i [CR, LF] = some p) : r.getD p 0 = CR := by
  obtain ⟨k, hk, rfl⟩ := strcasestr_eq_some.mp h
  obtain ⟨-, hm, -⟩ := firstMatch_eq_some.mp hk
  have hget := hm.getElem? (i := 0) (by decide)
  rw [List.map_cons, List.getElem?_cons_zero, Option.map_eq_some_iff] at hget
  obtain ⟨c, hc, hlower⟩ := hget
  rw [cString_getElem? (j := k) hc]
  exact eq_CR_of_tolower (hlower.trans (by decide))

theorem findFieldValue_append (hw : Whole r) (hne : needle ≠ []) {value : Option (List UInt8)}
    (hvalue : ∀ v, value = some v → v ≠ [] ∧ NoCR v) :
    coHttpHeaderFindFieldValue (r ++ t) (r.length - 1) needle value =
      coHttpHeaderFindFieldValue r (r.length - 1) needle value := by
  have hpos := List.length_pos_iff.mpr hne
  have hlen : 4 ≤ r.length := by
    obtain ⟨lines, rfl⟩ := hw
    simp
  have hfield : findField (r ++ t) (r.length - 1) needle ((r ++ t).length + 1) 0 =
      findField r (r.length - 1) needle (r.length + 1) 0 := by
    rw [findField_append hne _ (by omega)]
    refine findField_fuel hne ?_ (by omega)
    rw [List.length_append]
    omega
  rw [coHttpHeaderFindFieldValue, coHttpHeaderFindFieldValue, hfield]
  cases hfound : findField r (r.length - 1) needle (r.length + 1) 0 with
  | none => rfl
  | some fieldStart =>
      obtain ⟨_, -, his⟩ := findField_some hfound
      have hlt := (his.lt hne).1
      simp only [strcasestr_crlf hw (show fieldStart + 2 ≤ r.length by omega)]
      cases hcrlf : strcasestr r fieldStart [CR, LF] with
      | none => rfl
      | some nextCrlf =>
          cases value with
          | none => rfl
          | some v =>
              obtain ⟨hv, hcr⟩ := hvalue v rfl
              have hle := strcasestr_le (by simp) hcrlf
              exact value_append hv hcr (by omega) hle.2 (strcasestr_at hcrlf)

/-- The key begins in a line of the header, whose end is at `q`. -/
structure KeyLine (r : List UInt8) (k q : Nat) : Prop where
  le : k ≤ q
  lt : q < r.length
  cr : r.getD q 0 = CR

theorem keyLine_of_value (hne : needle ≠ []) (hcr : NoCR needle) {k : Nat}
    (h : coHttpHeaderFindFieldValue r (r.length - 1) needle none = some k) :
    ∃ q, KeyLine r k q := by
  have hpos := List.length_pos_iff.mpr hne
  rw [coHttpHeaderFindFieldValue] at h
  split at h
  next => cases h
  next fieldStart hfound =>
    split at h
    next => cases h
    next q hcrlf =>
      cases h
      obtain ⟨i, hat, his⟩ := findField_some hfound
      obtain ⟨hend, hcolon⟩ := his.lt hne
      have hle := strcasestr_le (by simp) hcrlf
      have hq := strcasestr_at hcrlf
      refine ⟨q, ?_, by simp only [List.length_cons] at hle; omega, hq⟩
      -- neither the name nor the colon is the end of a line
      by_contra hlt
      rcases Nat.lt_or_ge q (fieldStart + needle.length) with hname | hge
      · refine strcasestr_noCR hcr hat (j := q - fieldStart) (by omega) ?_
        rw [Nat.add_sub_cancel' hle.1]
        exact hq
      · have heq : q = fieldStart + needle.length := by omega
        rw [heq, hcolon] at hq
        exact absurd hq (by decide)

theorem takeWhile_length_le {f : UInt8 → Bool} {l : List UInt8} {j : Nat} (hj : j < l.length)
    (hf : f (l.getD j 0) = false) : (l.takeWhile f).length ≤ j := by
  induction l generalizing j with
  | nil => exact Nat.zero_le _
  | cons x l ih =>
      cases hx : f x with
      | false =>
          rw [List.takeWhile_cons_of_neg (by simp [hx])]
          exact Nat.zero_le _
      | true =>
          cases j with
          | zero =>
              rw [List.getD_cons_zero, hx] at hf
              cases hf
          | succ j =>
              rw [List.takeWhile_cons_of_pos hx]
              exact Nat.succ_le_succ (ih (Nat.lt_of_succ_lt_succ hj) hf)

theorem KeyLine.drop {k q : Nat} (h : KeyLine r k q) :
    q - k < (r.drop k).length ∧ (r.drop k).getD (q - k) 0 = CR := by
  have hle := h.le
  have hlt := h.lt
  refine ⟨by rw [List.length_drop]; omega, ?_⟩
  rw [List.getD_eq_getElem?_getD, List.getElem?_drop, Nat.add_sub_cancel' hle,
    ← List.getD_eq_getElem?_getD]
  exact h.cr

theorem KeyLine.scan {k q : Nat} (h : KeyLine r k q) {f : UInt8 → Bool} (hf : f CR = false) :
    k + ((r.drop k).takeWhile f).length ≤ q ∧
      ((r ++ t).drop k).takeWhile f = (r.drop k).takeWhile f := by
  obtain ⟨hlt, hat⟩ := h.drop
  have hle := h.le
  have hstop := takeWhile_length_le hlt (by rw [hat]; exact hf)
  refine ⟨by omega, ?_⟩
  rw [List.drop_append_of_le_length (by have := h.lt; omega), List.takeWhile_append,
    if_neg (by omega)]

theorem KeyLine.skipBlanks {k q : Nat} (h : KeyLine r k q) :
    skipBlanks (r ++ t) k = skipBlanks r k ∧ KeyLine r (skipBlanks r k) q := by
  obtain ⟨hle, heq⟩ := h.scan (t := t) (f := (· == BLANK)) (by decide)
  refine ⟨?_, hle, h.lt, h.cr⟩
  rw [WebsocketHandshake.skipBlanks, heq]
  rfl

theorem KeyLine.keyEnd {k q : Nat} (h : KeyLine r k q) :
    keyEnd (r ++ t) k = keyEnd r k ∧ keyEnd r k ≤ q := by
  obtain ⟨hle, heq⟩ := h.scan (t := t) (f := fun c => c != CR && c != BLANK) (by decide)
  refine ⟨?_, hle⟩
  rw [WebsocketHandshake.keyEnd, heq]
  rfl

theorem wsKeyStart_append (hw : Whole r) :
    wsKeyStart (r ++ t) r.length = wsKeyStart r r.length := by
  have hnone : ∀ v, (none : Option (List UInt8)) = some v → v ≠ [] ∧ NoCR v := by
    intro v hv
    cases hv
  have hwebsocket : ∀ v, some (text "websocket") = some v → v ≠ [] ∧ NoCR v := by
    rintro v ⟨⟩
    decide +kernel
  have hupgrade : ∀ v, some (text "Upgrade") = some v → v ≠ [] ∧ NoCR v := by
    rintro v ⟨⟩
    decide +kernel
  rw [wsKeyStart, wsKeyStart]
  simp only [findFieldValue_append hw (show text "Upgrade" ≠ [] by decide) hwebsocket,
    findFieldValue_append hw (show text "Connection" ≠ [] by decide) hupgrade,
    findFieldValue_append hw (show text "Sec-WebSocket-Key" ≠ [] by decide) hnone]
  split
  next => rfl
  next =>
    cases hkey : coHttpHeaderFindFieldValue r (r.length - 1) (text "Sec-WebSocket-Key") none with
    | none => rfl
    | some k =>
        obtain ⟨q, hline⟩ := keyLine_of_value (by decide) (by decide +kernel) hkey
        obtain ⟨hblanks, hline'⟩ := hline.skipBlanks (t := t)
        simp only [hblanks, (hline'.keyEnd (t := t)).1]

theorem wsKeyStart_le {start : Nat} (h : wsKeyStart r r.length = some start) :
    start + 24 ≤ r.length := by
  rw [wsKeyStart] at h
  split at h
  next => cases h
  next =>
    split at h
    next => cases h
    next k hkey =>
      simp only at h
      split at h
      next => cases h
      next hlen =>
        cases h
        obtain ⟨q, hline⟩ := keyLine_of_value (by decide) (by decide +kernel) hkey
        obtain ⟨-, hline'⟩ := hline.skipBlanks (t := [])
        have hend := (hline'.keyEnd (t := [])).2
        have hlt := hline'.lt
        rw [not_not] at hlen
        omega

/-- The received bytes, with stale ones behind them. -/
def received (r t : List UInt8) (status : CoSocketStatus) (log : List Event) : Handshake :=
  ⟨r ++ t, r.length, status, log⟩

/-- What can be seen of a handshake. -/
def outcome (x : Bool × Handshake) : Bool × CoSocketStatus × List Event :=
  (x.1, x.2.status, x.2.log)

/-- The keys passed on are 24 of the bytes that had been received by then. -/
def KeysFrom (r : List UInt8) (log : List Event) : Prop :=
  ∀ n start key, .sendKey n start key ∈ log →
    n ≤ r.length ∧ start + 24 ≤ n ∧ key = ((r.take n).drop start).take 24

variable {status : CoSocketStatus} {log : List Event} {bytes : List UInt8}
  (createAcceptKey : List UInt8 → Option (List UInt8))

theorem whole_of_end (hlen : 4 ≤ r.length) (h : (r.drop (r.length - 4)).take 4 = [CR, LF, CR, LF]) :
    Whole r := by
  refine ⟨r.take (r.length - 4), ?_⟩
  rw [List.take_of_length_le (by rw [List.length_drop]; omega)] at h
  rw [← h, List.take_append_drop]

theorem overwrite_received (r t bytes : List UInt8) :
    overwrite (r ++ t) r.length bytes = (r ++ bytes) ++ t.drop bytes.length := by
  rw [overwrite, List.take_left, ← List.drop_drop, List.drop_left]

theorem take_drop_received {n : Nat} (hn : i + n ≤ r.length) :
    ((r ++ t).drop i).take n = (r.drop i).take n := by
  rw [List.drop_append_of_le_length (by omega), List.take_append_of_le_length]
  rw [List.length_drop]
  omega

theorem processRequest_received (hw : Whole r) :
    outcome (processRequest createAcceptKey (received r t status log)) =
      outcome (processRequest createAcceptKey (received r [] status log)) := by
  have hkey : wsKeyStart (r ++ t) r.length = wsKeyStart (r ++ []) r.length := by
    rw [wsKeyStart_append hw, wsKeyStart_append hw]
  simp only [processRequest, received, hkey]
  cases hstart : wsKeyStart (r ++ []) r.length with
  | none => rfl
  | some start =>
      have hle := wsKeyStart_le ((wsKeyStart_append (t := []) hw).symm.trans hstart)
      simp only [take_drop_received hle]
      cases createAcceptKey ((r.drop start).take 24) with
      | none => simp only [outcome, Handshake.emit]
      | some acceptKey => simp only [outcome, Handshake.emit]

theorem processRequest_ends (s : Handshake) :
    (processRequest createAcceptKey s).1 = false ∨
      (processRequest createAcceptKey s).2.status ≠ .handshake := by
  rw [processRequest]
  split
  next => exact .inl rfl
  next =>
    simp only
    split
    next => exact .inl rfl
    next => exact .inr (by simp)

theorem processRequest_keys (hw : Whole r) (hlog : KeysFrom r log) :
    KeysFrom r (processRequest createAcceptKey (received r [] status log)).2.log := by
  have hkeys (start : Nat) (hstart : start + 24 ≤ r.length) :
      KeysFrom r (log ++ [.sendKey r.length start ((r.drop start).take 24)]) := by
    intro n start' key hmem
    rcases List.mem_append.mp hmem with hold | hnew
    · exact hlog n start' key hold
    · cases List.mem_singleton.mp hnew
      exact ⟨Nat.le_refl _, hstart, by rw [List.take_length]⟩
  have hother {log' : List Event} (e : Event) (he : ∀ n start key, e ≠ .sendKey n start key)
      (h : KeysFrom r log') : KeysFrom r (log' ++ [e]) := by
    intro n start key hmem
    rcases List.mem_append.mp hmem with hold | hnew
    · exact h n start key hold
    · exact absurd (List.mem_singleton.mp hnew).symm (he n start key)
  rw [processRequest]
  cases hstart : wsKeyStart (received r [] status log).mem (received r [] status log).remainingLen with
  | none => exact hother _ (by simp) hlog
  | some start =>
      have hle := wsKeyStart_le ((wsKeyStart_append (t := []) hw).symm.trans hstart)
      have hsend := hkeys start hle
      simp only [received, List.append_nil]
      cases createAcceptKey ((r.drop start).take 24) with
      | none => exact hother _ (by simp) hsend
      | some acceptKey => exact hother _ (by simp) hsend

/-- Two calls that end a handshake in the same way, with keys from the bytes `r`. -/
structure EndAlike (r : List UInt8) (log : List Event) (x y : Bool × Handshake) : Prop where
  alike : outcome x = outcome y
  ends : y.1 = false ∨ y.2.status ≠ .handshake
  keys : KeysFrom r log → KeysFrom r y.2.log

theorem KeysFrom.append (h : KeysFrom r log) (bytes : List UInt8) : KeysFrom (r ++ bytes) log := by
  intro n start key hmem
  obtain ⟨hn, hstart, hkey⟩ := h n start key hmem
  refine ⟨?_, hstart, ?_⟩
  · rw [List.length_append]
    omega
  · rw [List.take_append_of_le_length hn]
    exact hkey

theorem KeysFrom.emit_error (h : KeysFrom r log) : KeysFrom r (log ++ [.error400]) := by
  intro n start key hmem
  rcases List.mem_append.mp hmem with hold | hnew
  · exact h n start key hold
  · cases List.mem_singleton.mp hnew

theorem process_received (hr : r ≠ []) (t bytes : List UInt8) :
    (∃ t', coWebsocketHandshakeProcess createAcceptKey (received r t status log) bytes =
        (true, received (r ++ bytes) t' status log) ∧
      coWebsocketHandshakeProcess createAcceptKey (received r [] status log) bytes =
        (true, received (r ++ bytes) [] status log)) ∨
    EndAlike (r ++ bytes) log
      (coWebsocketHandshakeProcess createAcceptKey (received r t status log) bytes)
      (coWebsocketHandshakeProcess createAcceptKey (received r [] status log) bytes) := by
  have hlen : ¬ r.length = 0 := by rwa [List.length_eq_zero_iff]
  have hproc (t : List UInt8) :
      coWebsocketHandshakeProcess createAcceptKey (received r t status log) bytes =
        if bytes = [] then (false, (received r t status log).emit .error400)
        else if (r ++ bytes).length < 4 ∨
            (((r ++ bytes) ++ t.drop bytes.length).drop ((r ++ bytes).length - 4)).take 4 ≠
              [CR, LF, CR, LF] then
          (true, received (r ++ bytes) (t.drop bytes.length) status log)
        else processRequest createAcceptKey
          (received (r ++ bytes) (t.drop bytes.length) status log) := by
    have hkept : (if (received r t status log).remainingLen = 0 then
        { received r t status log with mem := clearBuf (received r t status log).mem }
      else received r t status log) = received r t status log := if_neg hlen
    rw [coWebsocketHandshakeProcess, hkept]
    simp only [received, overwrite_received, List.length_append]
  rw [hproc t, hproc []]
  by_cases hbytes : bytes = []
  · rw [if_pos hbytes, if_pos hbytes]
    exact .inr ⟨rfl, .inl rfl, fun h => h.emit_error⟩
  · rw [if_neg hbytes, if_neg hbytes, List.drop_nil]
    by_cases hshort : (r ++ bytes).length < 4
    · rw [if_pos (.inl hshort), if_pos (.inl hshort)]
      exact .inl ⟨_, rfl, rfl⟩
    · rw [@take_drop_received (r ++ bytes) (t.drop bytes.length) _ 4 (by omega),
        @take_drop_received (r ++ bytes) [] _ 4 (by omega)]
      by_cases hend : ((r ++ bytes).drop ((r ++ bytes).length - 4)).take 4 = [CR, LF, CR, LF]
      · have hw := whole_of_end (by omega) hend
        have hnot : ¬ ((r ++ bytes).length < 4 ∨
            ((r ++ bytes).drop ((r ++ bytes).length - 4)).take 4 ≠ [CR, LF, CR, LF]) := by
          rw [not_or, not_not]
          exact ⟨hshort, hend⟩
        rw [if_neg hnot, if_neg hnot]
        exact .inr ⟨processRequest_received createAcceptKey hw,
          processRequest_ends createAcceptKey _,
          fun h => processRequest_keys createAcceptKey hw h⟩
      · rw [if_pos (.inr hend), if_pos (.inr hend)]
        exact .inl ⟨_, rfl, rfl⟩

theorem handshake_received (hr : r ≠ []) (t : List UInt8) (chunks : List (List UInt8))
    (hlog : KeysFrom r log) :
    outcome (handshake createAcceptKey (received r t .handshake log) chunks) =
      outcome (handshake createAcceptKey (received r [] .handshake log) chunks) ∧
    KeysFrom (r ++ chunks.flatten)
      (handshake createAcceptKey (received r [] .handshake log) chunks).2.log := by
  induction chunks generalizing r t with
  | nil =>
      refine ⟨rfl, ?_⟩
      rw [List.flatten_nil, List.append_nil]
      exact hlog
  | cons bytes rest ih =>
      rw [List.flatten_cons, ← List.append_assoc, handshake, handshake]
      rcases process_received createAcceptKey hr t bytes with ⟨t', hstale, hclean⟩ | hend
      · rw [hstale, hclean]
        exact ih (List.append_ne_nil_of_left_ne_nil hr bytes) t' (hlog.append bytes)
      · obtain ⟨halike, hends, hkeys⟩ := hend
        generalize coWebsocketHandshakeProcess createAcceptKey (received r t .handshake log) bytes =
          x at halike ⊢
        generalize coWebsocketHandshakeProcess createAcceptKey (received r [] .handshake log) bytes =
          y at halike hends hkeys ⊢
        obtain ⟨b, s⟩ := x
        obtain ⟨b', s'⟩ := y
        simp only [outcome, Prod.mk.injEq] at halike
        obtain ⟨rfl, hstatus, hlogs⟩ := halike
        have hkept := (hkeys (hlog.append bytes)).append rest.flatten
        cases b with
        | false => exact ⟨by simp only [outcome, hstatus, hlogs], hkept⟩
        | true =>
            have hdone : s'.status ≠ .handshake := hends.resolve_left (by simp)
            simp only [hstatus, if_neg hdone]
            exact ⟨by simp only [outcome, hstatus, hlogs], hkept⟩

/-- What earlier sessions left in the buffer changes nothing of a handshake. -/
theorem handshake_isolated (stale stale' : List UInt8) (chunks : List (List UInt8)) :
    outcome (handshake createAcceptKey (.start stale) chunks) =
      outcome (handshake createAcceptKey (.start stale') chunks) ∧
    KeysFrom (text "GET " ++ chunks.flatten)
      (handshake createAcceptKey (.start stale) chunks).2.log := by
  have hnone : KeysFrom (text "GET ") [] := fun n start key hmem => (by cases hmem)
  have hrun (t : List UInt8) := handshake_received createAcceptKey (by decide) t chunks hnone
  have hstart (t : List UInt8) : Handshake.start t = received (text "GET ") t .handshake [] := rfl
  rw [hstart, hstart]
  have hlogs : (handshake createAcceptKey (received (text "GET ") stale .handshake []) chunks).2.log =
      (handshake createAcceptKey (received (text "GET ") [] .handshake []) chunks).2.log :=
    congrArg (fun x => x.2.2) (hrun stale).1
  refine ⟨(hrun stale).1.trans (hrun stale').1.symm, ?_⟩
  rw [hlogs]
  exact (hrun stale).2

end WirelessEsp.WebsocketHandshake
