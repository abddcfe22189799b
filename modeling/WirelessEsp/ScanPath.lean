import WirelessEsp.TapController

namespace WirelessEsp.ScanPath

open TapController

/-- What the instructions other than BYPASS do in a device: the data register that an instruction
captures, and what its update does. The bits of a register are listed from its end at TDO. -/
structure Registers (δ : Type) where
  capture : List Bool → δ → List Bool
  update : List Bool → List Bool → δ → δ

structure Device (δ : Type) where
  irLength : Nat
  resetInstruction : List Bool
  instruction : List Bool
  unit : δ

variable {δ : Type} (U : Registers δ)

def Device.bypassed (t : Device δ) : Bool := t.instruction.all id

def Device.captureDr (t : Device δ) : List Bool :=
  if t.bypassed then [false] else U.capture t.instruction t.unit

def Device.updateDr (bits : List Bool) (t : Device δ) : Device δ :=
  if t.bypassed then t else { t with unit := U.update t.instruction bits t.unit }

def Device.captureIr (t : Device δ) : List Bool := (List.range t.irLength).map (· == 0)

def Device.updateIr (bits : List Bool) (t : Device δ) : Device δ := { t with instruction := bits }

def Device.reset (t : Device δ) : Device δ := { t with instruction := t.resetInstruction }

def total {α : Type} (width : α → Nat) (ts : List α) : Nat := ts.foldr (fun t n => width t + n) 0

def deal (width : Device δ → Nat) (f : List Bool → Device δ → Device δ) :
    List Bool → List (Device δ) → List (Device δ)
  | _, [] => []
  | bits, t :: ts => f (bits.take (width t)) t :: deal width f (bits.drop (width t)) ts

structure Chain (δ : Type) where
  state : TapState
  path : List Bool
  devices : List (Device δ)

def Chain.captured (c : Chain δ) : List Bool := c.devices.flatMap (Device.captureDr U)

def Chain.updated (bits : List Bool) (c : Chain δ) : List (Device δ) :=
  deal (fun t => (t.captureDr U).length) (Device.updateDr U) bits c.devices

def Chain.instructed (bits : List Bool) (c : Chain δ) : List (Device δ) :=
  deal Device.irLength Device.updateIr bits c.devices

def Chain.act (c : Chain δ) (tdi : Bool) : Chain δ :=
  match c.state with
  | .testLogicReset => { c with devices := c.devices.map Device.reset }
  | .captureDr => { c with path := c.captured U }
  | .captureIr => { c with path := c.devices.flatMap Device.captureIr }
  | .shiftDr | .shiftIr => { c with path := (c.path ++ [tdi]).tail }
  | .updateDr => { c with devices := c.updated U c.path }
  | .updateIr => { c with devices := c.instructed c.path }
  | _ => c

def Chain.clock (c : Chain δ) (x : Cycle) : Chain δ :=
  { c.act U x.tdi with state := c.state.next x.tms }

def Chain.run (c : Chain δ) (cycles : List Cycle) : Chain δ := cycles.foldl (Chain.clock U) c

def Chain.tdo (c : Chain δ) : Bool :=
  match c.state with
  | .shiftDr | .shiftIr => c.path.headD true
  | _ => true

variable {U} {c : Chain δ}

theorem run_append (xs ys : List Cycle) : c.run U (xs ++ ys) = (c.run U xs).run U ys :=
  List.foldl_append

theorem run_cons (x : Cycle) (xs : List Cycle) : c.run U (x :: xs) = (c.clock U x).run U xs := rfl

theorem total_cons {α : Type} (width : α → Nat) (t : α) (ts : List α) :
    total width (t :: ts) = width t + total width ts := rfl

theorem total_append {α : Type} (width : α → Nat) (ts us : List α) :
    total width (ts ++ us) = total width ts + total width us := by
  induction ts with
  | nil => exact (Nat.zero_add _).symm
  | cons t ts ih => rw [List.cons_append, total_cons, total_cons, ih, Nat.add_assoc]

theorem flatMap_total {α : Type} {f : α → List Bool} {width : α → Nat}
    (h : ∀ t, (f t).length = width t) (ts : List α) :
    (ts.flatMap f).length = total width ts := by
  induction ts with
  | nil => rfl
  | cons t ts ih => rw [List.flatMap_cons, List.length_append, total_cons, h, ih]

section Deal

variable {width : Device δ → Nat} {f : List Bool → Device δ → Device δ}

theorem deal_append {bs cs : List Bool} {ts us : List (Device δ)}
    (h : bs.length = total width ts) :
    deal width f (bs ++ cs) (ts ++ us) = deal width f bs ts ++ deal width f cs us := by
  induction ts generalizing bs with
  | nil =>
      obtain rfl : bs = [] := List.length_eq_zero_iff.mp h
      rfl
  | cons t ts ih =>
      rw [total_cons] at h
      have hle : width t ≤ bs.length := by omega
      have hrest : (bs.drop (width t)).length = total width ts := by
        rw [List.length_drop]
        omega
      rw [List.cons_append, deal, deal, List.take_append_of_le_length hle,
        List.drop_append_of_le_length hle, ih hrest, List.cons_append]

theorem deal_fixed {ts : List (Device δ)} (h : ∀ t ∈ ts, ∀ bits, f bits t = t) (bits : List Bool) :
    deal width f bits ts = ts := by
  induction ts generalizing bits with
  | nil => rfl
  | cons t ts ih =>
      rw [deal, h t List.mem_cons_self, ih fun u hu => h u (List.mem_cons_of_mem t hu)]

theorem deal_one {bs cs es : List Bool} {ts us : List (Device δ)} {t : Device δ}
    (hb : bs.length = total width ts) (hc : cs.length = width t) :
    deal width f (bs ++ cs ++ es) (ts ++ t :: us) =
      deal width f bs ts ++ f cs t :: deal width f es us := by
  rw [List.append_assoc, deal_append hb, deal, ← hc, List.take_left, List.drop_left]

end Deal

theorem updateDr_bypassed {t : Device δ} (h : t.bypassed = true) (bits : List Bool) :
    t.updateDr U bits = t := if_pos h

theorem captureDr_bypassed {t : Device δ} (h : t.bypassed = true) : t.captureDr U = [false] :=
  if_pos h

theorem captured_bypassed {ts : List (Device δ)} (h : ∀ t ∈ ts, t.bypassed = true) :
    ts.flatMap (Device.captureDr U) = List.replicate ts.length false := by
  induction ts with
  | nil => rfl
  | cons t ts ih =>
      rw [List.flatMap_cons, captureDr_bypassed (h t List.mem_cons_self),
        ih fun u hu => h u (List.mem_cons_of_mem t hu)]
      rfl

theorem width_bypassed {ts : List (Device δ)} (h : ∀ t ∈ ts, t.bypassed = true) :
    total (fun t => (t.captureDr U).length) ts = ts.length := by
  rw [← flatMap_total (fun _ => rfl), captured_bypassed h, List.length_replicate]

def shifts (bits : List Bool) : List Cycle := bits.map fun bit => ⟨false, bit⟩

def toShiftDr (tdi : Bool) : List Cycle := [⟨true, tdi⟩, ⟨false, tdi⟩, ⟨false, tdi⟩]

def toShiftIr (tdi : Bool) : List Cycle := ⟨true, tdi⟩ :: toShiftDr tdi

def toIdle (last : Bool) : List Cycle := [⟨true, last⟩, ⟨true, last⟩, ⟨false, last⟩]

def drScan (tdi : Bool) (bits : List Bool) (last : Bool) : List Cycle :=
  toShiftDr tdi ++ shifts bits ++ toIdle last

def irScan (tdi : Bool) (bits : List Bool) (last : Bool) : List Cycle :=
  toShiftIr tdi ++ shifts bits ++ toIdle last

theorem tail_append_drop (xs bits : List Bool) (bit : Bool) :
    ((xs ++ bits).drop bits.length ++ [bit]).tail = (xs ++ (bits ++ [bit])).drop (bits.length + 1) := by
  have hle : bits.length ≤ (xs ++ bits).length := by simp
  rw [← List.append_assoc, ← List.drop_append_of_le_length hle, List.tail_drop]

theorem run_shifts (hshift : c.state = .shiftDr ∨ c.state = .shiftIr) (bits : List Bool) :
    c.run U (shifts bits) = { c with path := (c.path ++ bits).drop bits.length } := by
  induction bits generalizing c with
  | nil =>
      rw [List.append_nil]
      rfl
  | cons bit bits ih =>
      have hclock : c.clock U ⟨false, bit⟩ = { c with path := (c.path ++ [bit]).tail } := by
        obtain ⟨state, path, devices⟩ := c
        rcases hshift with h | h <;> cases h <;> rfl
      have hle : 1 ≤ (c.path ++ [bit]).length := by simp
      rw [shifts, List.map_cons, run_cons, hclock]
      refine (@ih { c with path := (c.path ++ [bit]).tail } hshift).trans ?_
      have hdrop : ((c.path ++ [bit]).tail ++ bits).drop bits.length =
          (c.path ++ bit :: bits).drop (bit :: bits).length := by
        rw [← List.drop_one, ← List.drop_append_of_le_length hle, List.drop_drop, List.append_assoc,
          List.singleton_append, List.length_cons, Nat.add_comm]
      rw [hdrop]

theorem run_toShiftDr (hidle : c.state = .runTestIdle) (tdi : Bool) :
    c.run U (toShiftDr tdi) = ⟨.shiftDr, c.captured U, c.devices⟩ := by
  obtain ⟨state, path, devices⟩ := c
  cases hidle
  rfl

theorem run_toShiftIr (hidle : c.state = .runTestIdle) (tdi : Bool) :
    c.run U (toShiftIr tdi) = ⟨.shiftIr, c.devices.flatMap Device.captureIr, c.devices⟩ := by
  obtain ⟨state, path, devices⟩ := c
  cases hidle
  rfl

theorem run_drScan (hidle : c.state = .runTestIdle) (tdi : Bool) (bits : List Bool) (last : Bool) :
    c.run U (drScan tdi bits last) =
      ⟨.runTestIdle, (c.captured U ++ (bits ++ [last])).drop (bits.length + 1),
        c.updated U ((c.captured U ++ (bits ++ [last])).drop (bits.length + 1))⟩ := by
  rw [drScan, run_append, run_append, run_toShiftDr hidle, run_shifts (.inl rfl),
    ← tail_append_drop]
  rfl

theorem run_irScan (hidle : c.state = .runTestIdle) (tdi : Bool) {bits : List Bool} {last : Bool}
    (hlen : (bits ++ [last]).length = total Device.irLength c.devices) :
    c.run U (irScan tdi bits last) = ⟨.runTestIdle, bits ++ [last], c.instructed (bits ++ [last])⟩ := by
  have hpath : (c.devices.flatMap Device.captureIr).length = bits.length + 1 := by
    have hwidth : ∀ t : Device δ, t.captureIr.length = t.irLength := fun t => by
      rw [Device.captureIr, List.length_map, List.length_range]
    rw [flatMap_total hwidth, ← hlen, List.length_append]
    rfl
  have hlast := tail_append_drop (c.devices.flatMap Device.captureIr) bits last
  rw [← hpath, List.drop_left] at hlast
  rw [irScan, run_append, run_append, run_toShiftIr hidle, run_shifts (.inr rfl), ← hlast]
  rfl

theorem tdo_shifts (hidle : c.state = .runTestIdle) (tdi : Bool) {bits : List Bool}
    (hlt : bits.length < (c.captured U).length) :
    (c.run U (toShiftDr tdi ++ shifts bits)).tdo = (c.captured U).getD bits.length true := by
  rw [run_append, run_toShiftDr hidle, run_shifts (.inl rfl)]
  have hdrop : ((c.captured U ++ bits).drop bits.length).headD true =
      (c.captured U).getD bits.length true := by
    rw [List.headD_eq_head?_getD, List.head?_drop, List.getElem?_append_left hlt,
      List.getD_eq_getElem?_getD]
  exact hdrop

theorem run_idle (hidle : c.state = .runTestIdle) (tdi : Bool) (n : Nat) :
    c.run U (List.replicate n ⟨false, tdi⟩) = c := by
  induction n with
  | zero => rfl
  | succ n ih =>
      obtain ⟨state, path, devices⟩ := c
      cases hidle
      exact ih

end WirelessEsp.ScanPath
