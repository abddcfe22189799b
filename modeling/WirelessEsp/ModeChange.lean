import WirelessEsp.WifiTasks

namespace WirelessEsp.WifiManager

open TaskKernel

section Returns

variable {σ ρ : Type} {step : σ → ρ → σ × Nat} {next : ρ → Nat → Flow ρ}

inductive Returns (step : σ → ρ → σ × Nat) (next : ρ → Nat → Flow ρ) : σ → ρ → σ → Nat → Prop
  | ret {s : σ} {p : ρ} {value : Nat} (h : next p (step s p).2 = .ret value) :
      Returns step next s p (step s p).1 value
  | goto {s t : σ} {p q : ρ} {value : Nat} (h : next p (step s p).2 = .goto q)
      (hrest : Returns step next (step s p).1 q t value) : Returns step next s p t value

def HandsOn (step : σ → ρ → σ × Nat) (next : ρ → Nat → Flow ρ) (I : σ → ρ → Prop)
    (post : σ → Nat → Prop) (s : σ) (p : ρ) : Prop :=
  match next p (step s p).2 with
  | .goto q => I (step s p).1 q
  | .ret value => post (step s p).1 value

theorem Returns.of_handsOn {I : σ → ρ → Prop} {post : σ → Nat → Prop}
    (hstep : ∀ s p, I s p → HandsOn step next I post s p) {s t : σ} {p : ρ} {value : Nat}
    (h : Returns step next s p t value) (hs : I s p) : post t value := by
  induction h with
  | ret hnext =>
      have hon := hstep _ _ hs
      rw [HandsOn, hnext] at hon
      exact hon
  | goto hnext _ ih =>
      have hon := hstep _ _ hs
      rw [HandsOn, hnext] at hon
      exact ih hon

end Returns

/-- What `esp_wifi_set_mode` and `wifi_data_save_wifi_mode` answer. -/
structure Outcome where
  setMode : Nat
  save : Nat

def Outcome.answer (o : Outcome) : ChangeMode → Nat
  | .setMode (.setMode _) => o.setMode
  | .save => o.save
  | _ => 0

/-- The system with the mode that `esp_wifi_set_mode` has accepted last, and whether it has rejected
one in this call. -/
structure Radio where
  system : System
  radio : UInt32
  rejected : Bool

def Radio.ctx (x : Radio) : WifiCtx := x.system.memory.ctx

def Radio.hear (x : Radio) (o : Outcome) : ChangeMode → UInt32 × Bool
  | .setMode (.setMode new) => if o.setMode = 0 then (new, x.rejected) else (x.radio, true)
  | _ => (x.radio, x.rejected)

variable (t : TaskId) (mode : ApstaMode) (o : Outcome)

def changeStep (x : Radio) (p : ChangeMode) : Radio × Nat :=
  let r := exec manager x.system t (o.answer p) (changeMode mode p).op
  (⟨r.1, (x.hear o p).1, (x.hear o p).2⟩, r.2)

def changeNext (p : ChangeMode) : Nat → Flow ChangeMode := (changeMode mode p).next

/-- A call of `wifi_manager_change_mode` and its return. -/
def Changes (x y : Radio) (value : Nat) : Prop :=
  Returns (changeStep t mode o) (changeNext mode) x .check y value

def ApstaMode.permanent : ApstaMode → Bool
  | .apAutoStaOn | .apStaOff | .apOffStaOn | .apOnStaOff | .apStaOn => true
  | .apStop | .apStart | .staStop | .staStart | .other _ _ => false

def prescribed (c : WifiCtx) : ApstaMode → UInt32
  | .apAutoStaOn => if c.isStaConnected then wifiModeSta else wifiModeApsta
  | .apStaOff => 0
  | .apOffStaOn => wifiModeSta
  | .apOnStaOff => wifiModeAp
  | .apStaOn => wifiModeApsta
  | .apStop | .apStart | .staStop | .staStart | .other _ _ => c.mode

structure Owed (c : WifiCtx) (y : Radio) (value : Nat) : Prop where
  rejected : value ≠ 0 → y.rejected = true →
    y.ctx.permanentMode = c.permanentMode ∧ y.ctx.mode = c.mode
  done : value = 0 → mode.permanent = true →
    y.ctx.mode = prescribed c mode ∧ y.ctx.mode = y.radio

/-- The call owes that to its caller from the state before it. -/
def Atomic (s : System) (radio : UInt32) : Prop :=
  ∀ y value, Changes t mode o ⟨s, radio, false⟩ y value → Owed mode s.memory.ctx y value

/-- For a permanent mode: if it is the one stored already, the radio is in the mode it stands for;
otherwise, when the lock is free, either no change of the radio is needed, and the radio is in
that mode (or the mode cannot be saved), or the radio accepts the change. -/
def Honest (s : System) (radio : UInt32) : Prop :=
  let c := s.memory.ctx
  mode.permanent = true →
    if c.permanentMode = mode then c.mode = prescribed c mode ∧ c.mode = radio
    else s.free = true →
      if prescribed c mode = c.mode then o.save = 0 → c.mode = radio else o.setMode = 0

section Points

variable (s : System) (radio : UInt32)

structure Untouched (x : Radio) : Prop where
  ctx : x.ctx = s.memory.ctx
  radio : x.radio = radio
  rejected : x.rejected = false

/-- The mode `new` is what the call is about, and the permanent mode is stored already. -/
structure Intends (new : UInt32) (x : Radio) : Prop where
  stored : x.ctx.permanentMode = if mode.permanent then mode else s.memory.ctx.permanentMode
  unchanged : x.ctx.mode = s.memory.ctx.mode
  intended : mode.permanent = true → new = prescribed s.memory.ctx mode
  radio : x.radio = radio
  rejected : x.rejected = false

/-- The radio has accepted the mode `new`. -/
structure Accepted (new : UInt32) (x : Radio) : Prop where
  intended : mode.permanent = true → new = prescribed s.memory.ctx mode
  radio : x.radio = new
  rejected : x.rejected = false

/-- What is left to do is to give the lock back and to save a permanent mode. -/
structure Settled (err : Nat) (x : Radio) : Prop where
  rejected : err ≠ 0 → x.rejected = true →
    x.ctx.permanentMode = s.memory.ctx.permanentMode ∧ x.ctx.mode = s.memory.ctx.mode
  heard : err = 0 → x.rejected = false
  done : err = 0 → mode.permanent = true →
    x.ctx.mode = prescribed s.memory.ctx mode ∧ (o.save = 0 → x.ctx.mode = x.radio)

def AtPoint (x : Radio) : ChangeMode → Prop
  | .check => Untouched s radio x ∧ x.system.free = s.free
  | .take => Untouched s radio x ∧ s.memory.ctx.permanentMode ≠ mode ∧ x.system.free = s.free
  | .notifyStop | .notifyStart | .setMode .start =>
      Untouched s radio x ∧ s.memory.ctx.permanentMode ≠ mode ∧ s.free = true
  | .setMode (.flag _) =>
      Untouched s radio x ∧ s.memory.ctx.permanentMode ≠ mode ∧ s.free = true ∧ mode = .apAutoStaOn
  | .setMode (.permanent new) =>
      Untouched s radio x ∧ s.memory.ctx.permanentMode ≠ mode ∧ s.free = true ∧
        mode.permanent = true ∧ new = prescribed s.memory.ctx mode
  | .setMode (.compare new) =>
      Intends mode s radio new x ∧ s.memory.ctx.permanentMode ≠ mode ∧ s.free = true
  | .setMode (.setMode new) =>
      Intends mode s radio new x ∧ s.memory.ctx.permanentMode ≠ mode ∧ s.free = true ∧
        new ≠ s.memory.ctx.mode
  | .setMode (.checkSta new) | .setMode (.give new) | .setMode (.handler new _)
  | .setMode (.store new) => Accepted mode s new x
  | .give err => Settled mode o s err x
  | .save => Settled mode o s 0 x

end Points

section Steps

variable {mode o} {s : System} {radio : UInt32} {x : Radio}

abbrev Hands (t : TaskId) (mode : ApstaMode) (o : Outcome) (s : System) (radio : UInt32)
    (x : Radio) (p : ChangeMode) : Prop :=
  HandsOn (changeStep t mode o) (changeNext mode) (AtPoint mode o s radio)
    (Owed mode s.memory.ctx) x p

theorem Hands.goto {t : TaskId} {p q : ChangeMode}
    (hnext : changeNext mode p (changeStep t mode o x p).2 = .goto q)
    (h : AtPoint mode o s radio (changeStep t mode o x p).1 q) : Hands t mode o s radio x p := by
  rw [Hands, HandsOn, hnext]
  exact h

theorem Hands.ret {t : TaskId} {p : ChangeMode} {value : Nat}
    (hnext : changeNext mode p (changeStep t mode o x p).2 = .ret value)
    (h : Owed mode s.memory.ctx (changeStep t mode o x p).1 value) :
    Hands t mode o s radio x p := by
  rw [Hands, HandsOn, hnext]
  exact h

variable {t : TaskId}

theorem check_hands (hhonest : Honest mode o s radio) (h : AtPoint mode o s radio x .check) :
    Hands t mode o s radio x .check := by
  obtain ⟨hsame, hfree⟩ := h
  have hnext : changeNext mode .check (changeStep t mode o x .check).2 =
      if (decide (x.ctx.permanentMode = mode)).toNat ≠ 0 then .ret 0 else .goto .take := rfl
  rw [hsame.ctx] at hnext
  by_cases hstored : s.memory.ctx.permanentMode = mode
  · rw [decide_eq_true hstored] at hnext
    apply Hands.ret hnext
    refine ⟨fun hne => absurd rfl hne, fun _ hpermanent => ?_⟩
    have hhonest := hhonest hpermanent
    rw [if_pos hstored] at hhonest
    show x.ctx.mode = _ ∧ x.ctx.mode = x.radio
    rw [hsame.ctx, hsame.radio]
    exact hhonest
  · rw [decide_eq_false hstored] at hnext
    exact Hands.goto hnext ⟨⟨hsame.ctx, hsame.radio, hsame.rejected⟩, hstored, hfree⟩

theorem take_hands (h : AtPoint mode o s radio x .take) : Hands t mode o s radio x .take := by
  obtain ⟨hsame, hstored, hfree⟩ := h
  have hnext : changeNext mode .take (changeStep t mode o x .take).2 =
      if (if x.system.free then 1 else 0) ≠ 1 then .ret 1 else .goto .notifyStop := rfl
  rw [hfree] at hnext
  cases hlock : s.free with
  | false =>
      rw [hlock] at hnext
      apply Hands.ret hnext
      refine ⟨fun _ hrejected => ?_, fun hzero => absurd hzero Nat.one_ne_zero⟩
      have hnone : x.rejected = true := hrejected
      rw [hsame.rejected] at hnone
      cases hnone
  | true =>
      rw [hlock] at hnext
      exact Hands.goto hnext ⟨⟨hsame.ctx, hsame.radio, hsame.rejected⟩, hstored, hlock⟩

theorem Untouched.of_memory (h : Untouched s radio x) {p : ChangeMode}
    (hmemory : (exec manager x.system t (o.answer p) (changeMode mode p).op).1.memory =
      x.system.memory)
    (hhear : x.hear o p = (x.radio, x.rejected)) :
    Untouched s radio (changeStep t mode o x p).1 := by
  refine ⟨(congrArg Memory.ctx hmemory).trans h.ctx, ?_, ?_⟩
  · exact (congrArg Prod.fst hhear).trans h.radio
  · exact (congrArg Prod.snd hhear).trans h.rejected

theorem start_hands (h : AtPoint mode o s radio x (.setMode .start)) :
    Hands t mode o s radio x (.setMode .start) := by
  obtain ⟨hsame, hstored, hfree⟩ := h
  have htouched : Untouched s radio (changeStep t mode o x (.setMode .start)).1 :=
    ⟨hsame.ctx, hsame.radio, hsame.rejected⟩
  have hkept : ∀ new, mode.permanent = false →
      AtPoint mode o s radio (changeStep t mode o x (.setMode .start)).1 (.setMode (.compare new)) := by
    intro new htemporary
    refine ⟨⟨?_, congrArg WifiCtx.mode htouched.ctx, ?_, htouched.radio, htouched.rejected⟩,
      hstored, hfree⟩
    · rw [htemporary, htouched.ctx]
      rfl
    · rw [htemporary]
      intro hfalse
      cases hfalse
  cases mode with
  | apAutoStaOn => exact Hands.goto rfl ⟨htouched, hstored, hfree, rfl⟩
  | apStaOff | apOnStaOff | apOffStaOn | apStaOn =>
      exact Hands.goto rfl ⟨htouched, hstored, hfree, rfl, rfl⟩
  | apStop | apStart | staStop | staStart => exact Hands.goto rfl (hkept _ rfl)
  | other value unnamed =>
      apply Hands.goto rfl
      refine ⟨fun _ hrejected => ?_, fun hzero => absurd hzero Nat.one_ne_zero,
        fun hzero => absurd hzero Nat.one_ne_zero⟩
      rw [htouched.rejected] at hrejected
      cases hrejected

theorem flag_hands {old : UInt32} (h : AtPoint mode o s radio x (.setMode (.flag old))) :
    Hands t mode o s radio x (.setMode (.flag old)) := by
  obtain ⟨hsame, hstored, hfree, hauto⟩ := h
  have htouched : Untouched s radio (changeStep t mode o x (.setMode (.flag old))).1 :=
    ⟨hsame.ctx, hsame.radio, hsame.rejected⟩
  have hnext : changeNext mode (.setMode (.flag old))
      (changeStep t mode o x (.setMode (.flag old))).2 =
      Flow.within (if x.ctx.isStaConnected.toNat ≠ 0 then .goto (.permanent wifiModeSta)
        else .goto (.permanent wifiModeApsta)) .setMode fun err => .goto (.give err) := rfl
  rw [hsame.ctx] at hnext
  subst hauto
  cases hconnected : s.memory.ctx.isStaConnected with
  | false =>
      rw [hconnected] at hnext
      refine Hands.goto hnext ⟨htouched, hstored, hfree, rfl, ?_⟩
      rw [prescribed, hconnected]
      rfl
  | true =>
      rw [hconnected] at hnext
      refine Hands.goto hnext ⟨htouched, hstored, hfree, rfl, ?_⟩
      rw [prescribed, hconnected]
      rfl

theorem permanent_hands {new : UInt32} (h : AtPoint mode o s radio x (.setMode (.permanent new))) :
    Hands t mode o s radio x (.setMode (.permanent new)) := by
  obtain ⟨hsame, hstored, hfree, hpermanent, hnew⟩ := h
  have hmode : x.ctx.mode = s.memory.ctx.mode := congrArg WifiCtx.mode hsame.ctx
  refine Hands.goto rfl ⟨⟨?_, hmode, fun _ => hnew, hsame.radio, hsame.rejected⟩, hstored, hfree⟩
  rw [if_pos hpermanent]
  rfl

theorem compare_hands {new : UInt32} (hhonest : Honest mode o s radio)
    (h : AtPoint mode o s radio x (.setMode (.compare new))) :
    Hands t mode o s radio x (.setMode (.compare new)) := by
  obtain ⟨hintends, hstored, hfree⟩ := h
  have hnext : changeNext mode (.setMode (.compare new))
      (changeStep t mode o x (.setMode (.compare new))).2 =
      Flow.within (if (decide (new = x.ctx.mode)).toNat ≠ 0 then .ret 0 else .goto (.setMode new))
        .setMode fun err => .goto (.give err) := rfl
  rw [hintends.unchanged] at hnext
  by_cases hsame : new = s.memory.ctx.mode
  · rw [decide_eq_true hsame] at hnext
    apply Hands.goto hnext
    refine ⟨fun hne => absurd rfl hne, fun _ => hintends.rejected, fun _ hpermanent => ?_⟩
    have hprescribed := (hintends.intended hpermanent).symm.trans hsame
    have hhonest := hhonest hpermanent
    rw [if_neg hstored] at hhonest
    have hhonest := hhonest hfree
    rw [if_pos hprescribed] at hhonest
    refine ⟨hintends.unchanged.trans hprescribed.symm, fun hsave => ?_⟩
    exact (hintends.unchanged.trans (hhonest hsave)).trans hintends.radio.symm
  · rw [decide_eq_false hsame] at hnext
    refine Hands.goto hnext ⟨⟨hintends.stored, hintends.unchanged, hintends.intended,
      hintends.radio, hintends.rejected⟩, hstored, hfree, hsame⟩

theorem setMode_hands {new : UInt32} (hhonest : Honest mode o s radio)
    (h : AtPoint mode o s radio x (.setMode (.setMode new))) :
    Hands t mode o s radio x (.setMode (.setMode new)) := by
  obtain ⟨hintends, hstored, hfree, hdiffers⟩ := h
  have hnext : changeNext mode (.setMode (.setMode new))
      (changeStep t mode o x (.setMode (.setMode new))).2 =
      Flow.within (if o.setMode ≠ 0 then .ret o.setMode else .goto (.checkSta new))
        .setMode fun err => .goto (.give err) := rfl
  by_cases haccepts : o.setMode = 0
  · rw [if_neg (not_not.mpr haccepts)] at hnext
    apply Hands.goto hnext
    have hhear : x.hear o (.setMode (.setMode new)) = (new, x.rejected) := if_pos haccepts
    exact ⟨hintends.intended, congrArg Prod.fst hhear,
      (congrArg Prod.snd hhear).trans hintends.rejected⟩
  · rw [if_pos haccepts] at hnext
    apply Hands.goto hnext
    refine ⟨fun _ _ => ⟨?_, hintends.unchanged⟩, fun hzero => absurd hzero haccepts,
      fun hzero => absurd hzero haccepts⟩
    refine hintends.stored.trans (if_neg fun hpermanent => ?_)
    -- a permanent mode that the radio has to be asked for must be accepted
    have hhonest := hhonest hpermanent
    rw [if_neg hstored] at hhonest
    have hhonest := hhonest hfree
    rw [if_neg fun heq => hdiffers ((hintends.intended hpermanent).trans heq)] at hhonest
    exact haccepts hhonest

theorem accepted_hands {p : ChangeMode} {new : UInt32} (h : Accepted mode s new x)
    (hp : p = .setMode (.checkSta new) ∨ p = .setMode (.give new) ∨
      ∃ q, p = .setMode (.handler new q)) : Hands t mode o s radio x p := by
  have haccepted : ∀ system, Accepted mode s new ⟨system, x.radio, x.rejected⟩ :=
    fun _ => ⟨h.intended, h.radio, h.rejected⟩
  rcases hp with rfl | rfl | ⟨q, rfl⟩
  · have hnext : changeNext mode (.setMode (.checkSta new))
        (changeStep t mode o x (.setMode (.checkSta new))).2 =
        Flow.within (if (x.ctx.mode &&& wifiModeSta).toNat = 0 ∧ new &&& wifiModeSta ≠ 0
          then .goto (.give new) else .goto (.store new)) .setMode fun err => .goto (.give err) := rfl
    split at hnext
    · exact Hands.goto hnext (haccepted _)
    · exact Hands.goto hnext (haccepted _)
  · exact Hands.goto rfl (haccepted _)
  · have hnext : changeNext mode (.setMode (.handler new q))
        (changeStep t mode o x (.setMode (.handler new q))).2 =
        (((disconnHandler q).next (changeStep t mode o x (.setMode (.handler new q))).2).within
          (.handler new) fun _ => .goto (.store new)).within .setMode
            fun err => .goto (.give err) := rfl
    cases hflow : (disconnHandler q).next (changeStep t mode o x (.setMode (.handler new q))).2 with
    | goto q' =>
        rw [hflow] at hnext
        exact Hands.goto hnext (haccepted _)
    | ret value =>
        rw [hflow] at hnext
        exact Hands.goto hnext (haccepted _)

theorem store_hands {new : UInt32} (h : Accepted mode s new x) :
    Hands t mode o s radio x (.setMode (.store new)) := by
  apply Hands.goto rfl
  refine ⟨fun hne => absurd rfl hne, fun _ => h.rejected, fun _ hpermanent => ?_⟩
  exact ⟨h.intended hpermanent, fun _ => h.radio.symm⟩

theorem give_hands {err : Nat} (h : Settled mode o s err x) :
    Hands t mode o s radio x (.give err) := by
  have hnext : changeNext mode (.give err) (changeStep t mode o x (.give err)).2 =
      if err ≠ 0 then .ret err
      else if mode.value ≥ ApstaMode.apStop.value then .ret 0 else .goto .save := rfl
  by_cases herr : err = 0
  · rw [if_neg (not_not.mpr herr)] at hnext
    split at hnext
    next htemporary =>
      apply Hands.ret hnext
      refine ⟨fun hne => absurd rfl hne, fun _ hpermanent => ?_⟩
      cases mode with
      | apAutoStaOn | apStaOff | apOnStaOff | apOffStaOn | apStaOn =>
          exact absurd htemporary (by decide)
      | apStop | apStart | staStop | staStart | other value unnamed => cases hpermanent
    next =>
      exact Hands.goto hnext
        ⟨fun hne => absurd rfl hne, fun _ => h.heard herr, fun _ => h.done herr⟩
  · rw [if_pos herr] at hnext
    exact Hands.ret hnext ⟨h.rejected, fun hzero => absurd hzero herr⟩

theorem save_hands (h : Settled mode o s 0 x) : Hands t mode o s radio x .save := by
  apply Hands.ret rfl
  refine ⟨fun _ hrejected => ?_, fun hsave hpermanent => ?_⟩
  · have hnone : x.rejected = true := hrejected
    rw [h.heard rfl] at hnone
    cases hnone
  · obtain ⟨hmode, hradio⟩ := h.done rfl hpermanent
    exact ⟨hmode, hradio hsave⟩

theorem atPoint_hands (hhonest : Honest mode o s radio) (p : ChangeMode)
    (h : AtPoint mode o s radio x p) : Hands t mode o s radio x p := by
  cases p with
  | check => exact check_hands hhonest h
  | take => exact take_hands h
  | notifyStop | notifyStart =>
      obtain ⟨hsame, hrest⟩ := h
      exact Hands.goto rfl ⟨hsame.of_memory (notify_memory _) rfl, hrest⟩
  | give err => exact give_hands h
  | save => exact save_hands h
  | setMode q => cases q with
    | start => exact start_hands h
    | flag old => exact flag_hands h
    | permanent new => exact permanent_hands h
    | compare new => exact compare_hands hhonest h
    | setMode new => exact setMode_hands hhonest h
    | checkSta new => exact accepted_hands h (.inl rfl)
    | give new => exact accepted_hands h (.inr (.inl rfl))
    | handler new q => exact accepted_hands h (.inr (.inr ⟨q, rfl⟩))
    | store new => exact store_hands h

end Steps

theorem atomic_of_honest {s : System} {radio : UInt32} (h : Honest mode o s radio) :
    Atomic t mode o s radio := by
  intro y value hchanges
  refine hchanges.of_handsOn (I := AtPoint mode o s radio) (fun x p hp => atPoint_hands h p hp) ?_
  exact ⟨⟨rfl, rfl, rfl⟩, rfl⟩

section Wrong

variable {mode o} {s : System} {radio : UInt32} {t : TaskId}

def Comes (t : TaskId) (mode : ApstaMode) (o : Outcome) (s : System) (radio : UInt32) (x : Radio)
    (p : ChangeMode) : Prop :=
  ∀ y value, Returns (changeStep t mode o) (changeNext mode) x p y value →
    Changes t mode o ⟨s, radio, false⟩ y value

theorem Comes.goto {x : Radio} {p q : ChangeMode} (h : Comes t mode o s radio x p)
    (hnext : changeNext mode p (changeStep t mode o x p).2 = .goto q) :
    Comes t mode o s radio (changeStep t mode o x p).1 q :=
  fun y value hreturns => h y value (.goto hnext hreturns)

theorem Comes.ret {x : Radio} {p : ChangeMode} {value : Nat} (h : Comes t mode o s radio x p)
    (hnext : changeNext mode p (changeStep t mode o x p).2 = .ret value) :
    Changes t mode o ⟨s, radio, false⟩ (changeStep t mode o x p).1 value :=
  h _ value (.ret hnext)

theorem comes_start (t : TaskId) (o : Outcome) (radio : UInt32)
    (hstored : s.memory.ctx.permanentMode ≠ mode) (hfree : s.free = true) :
    ∃ x, Comes t mode o s radio x (.setMode .start) ∧ Untouched s radio x := by
  have hcheck : changeNext mode .check (changeStep t mode o ⟨s, radio, false⟩ .check).2 =
      .goto .take := by
    have hsame : (decide (s.memory.ctx.permanentMode = mode)).toNat = 0 := by
      rw [decide_eq_false hstored]
      rfl
    exact if_neg (not_not.mpr hsame)
  have htaken := Comes.goto (p := .check) (fun y value h => h) hcheck
  have htake : changeNext mode .take (changeStep t mode o
      (changeStep t mode o ⟨s, radio, false⟩ .check).1 .take).2 = .goto .notifyStop := by
    have hlock : (if s.free then 1 else 0) = 1 := if_pos hfree
    exact if_neg (not_not.mpr hlock)
  have hstop := (htaken.goto htake).goto rfl
  have hstart := hstop.goto rfl
  refine ⟨_, hstart, ?_⟩
  have hbefore : Untouched s radio (changeStep t mode o
      (changeStep t mode o ⟨s, radio, false⟩ .check).1 .take).1 := ⟨rfl, rfl, rfl⟩
  have hstopped : Untouched s radio (changeStep t mode o _ .notifyStop).1 :=
    hbefore.of_memory (notify_memory _) rfl
  exact hstopped.of_memory (p := .notifyStart) (notify_memory _) rfl

theorem comes_compare (t : TaskId) (o : Outcome) (radio : UInt32)
    (hstored : s.memory.ctx.permanentMode ≠ mode) (hfree : s.free = true)
    (hpermanent : mode.permanent = true) : ∃ x,
      Comes t mode o s radio x (.setMode (.compare (prescribed s.memory.ctx mode))) ∧
        Intends mode s radio (prescribed s.memory.ctx mode) x := by
  obtain ⟨x, hcomes, hsame⟩ := comes_start t o radio hstored hfree
  have hpoint : ∃ x, Comes t mode o s radio x
      (.setMode (.permanent (prescribed s.memory.ctx mode))) ∧ Untouched s radio x := by
    cases mode with
    | apAutoStaOn =>
        have hflag := hcomes.goto (q := .setMode (.flag (UInt32.ofNat x.ctx.mode.toNat))) rfl
        have hsame' : Untouched s radio
            (changeStep t .apAutoStaOn o x (.setMode .start)).1 :=
          ⟨hsame.ctx, hsame.radio, hsame.rejected⟩
        refine ⟨_, hflag.goto ?_, ⟨hsame'.ctx, hsame'.radio, hsame'.rejected⟩⟩
        have hnext : changeNext .apAutoStaOn (.setMode (.flag (UInt32.ofNat x.ctx.mode.toNat)))
            x.ctx.isStaConnected.toNat = Flow.within (if x.ctx.isStaConnected.toNat ≠ 0
              then .goto (.permanent wifiModeSta) else .goto (.permanent wifiModeApsta))
                .setMode fun err => .goto (.give err) := rfl
        refine Eq.trans hnext ?_
        rw [hsame.ctx, prescribed]
        cases s.memory.ctx.isStaConnected <;> rfl
    | apStaOff | apOnStaOff | apOffStaOn | apStaOn =>
        exact ⟨_, hcomes.goto rfl, ⟨hsame.ctx, hsame.radio, hsame.rejected⟩⟩
    | apStop | apStart | staStop | staStart | other value unnamed => cases hpermanent
  obtain ⟨x', hcomes', hsame'⟩ := hpoint
  refine ⟨_, hcomes'.goto rfl, ?_⟩
  have hmode : x'.ctx.mode = s.memory.ctx.mode := congrArg WifiCtx.mode hsame'.ctx
  refine ⟨?_, hmode, fun _ => rfl, hsame'.radio, hsame'.rejected⟩
  rw [if_pos hpermanent]
  rfl

theorem stored_of_atomic (hatomic : Atomic t mode o s radio) (hpermanent : mode.permanent = true)
    (hstored : s.memory.ctx.permanentMode = mode) :
    s.memory.ctx.mode = prescribed s.memory.ctx mode ∧ s.memory.ctx.mode = radio := by
  have hnext : changeNext mode .check (changeStep t mode o ⟨s, radio, false⟩ .check).2 =
      .ret 0 := by
    have hsame : (decide (s.memory.ctx.permanentMode = mode)).toNat ≠ 0 := by
      rw [decide_eq_true hstored]
      exact Nat.one_ne_zero
    exact if_pos hsame
  exact (hatomic _ 0 (.ret hnext)).done rfl hpermanent

theorem unchanged_of_atomic (hatomic : Atomic t mode o s radio) (hpermanent : mode.permanent = true)
    (hstored : s.memory.ctx.permanentMode ≠ mode) (hfree : s.free = true)
    (hsame : prescribed s.memory.ctx mode = s.memory.ctx.mode) (hsave : o.save = 0) :
    s.memory.ctx.mode = radio := by
  obtain ⟨x, hcomes, hintends⟩ := comes_compare t o radio hstored hfree hpermanent
  have hcompare : changeNext mode (.setMode (.compare (prescribed s.memory.ctx mode)))
      (changeStep t mode o x (.setMode (.compare (prescribed s.memory.ctx mode)))).2 =
      .goto (.give 0) := by
    have hequal : (decide (prescribed s.memory.ctx mode = x.ctx.mode)).toNat ≠ 0 := by
      rw [decide_eq_true (hsame.trans hintends.unchanged.symm)]
      exact Nat.one_ne_zero
    exact congrArg (Flow.within · ChangeMode.setMode fun err => .goto (.give err)) (if_pos hequal)
  have hgive : changeNext mode (.give 0) 0 = .goto .save := by
    cases mode with
    | apAutoStaOn | apStaOff | apOnStaOff | apOffStaOn | apStaOn => rfl
    | apStop | apStart | staStop | staStart | other value unnamed => cases hpermanent
  have hreturns := ((hcomes.goto hcompare).goto hgive).ret (rfl : _ = Flow.ret o.save)
  have hradio := ((hatomic _ _ hreturns).done hsave hpermanent).2
  exact (hintends.unchanged.symm.trans hradio).trans hintends.radio

theorem accepted_of_atomic (hatomic : Atomic t mode o s radio) (hpermanent : mode.permanent = true)
    (hstored : s.memory.ctx.permanentMode ≠ mode) (hfree : s.free = true)
    (hdiffers : prescribed s.memory.ctx mode ≠ s.memory.ctx.mode) : o.setMode = 0 := by
  by_contra herr
  obtain ⟨x, hcomes, hintends⟩ := comes_compare t o radio hstored hfree hpermanent
  generalize hnew : prescribed s.memory.ctx mode = new at hcomes hintends hdiffers
  have hcompare : changeNext mode (.setMode (.compare new))
      (changeStep t mode o x (.setMode (.compare new))).2 = .goto (.setMode (.setMode new)) := by
    have hequal : (decide (new = x.ctx.mode)).toNat = 0 := by
      rw [decide_eq_false fun heq => hdiffers (heq.trans hintends.unchanged)]
      rfl
    exact congrArg (Flow.within · ChangeMode.setMode fun err => .goto (.give err))
      (if_neg (not_not.mpr hequal))
  have hset : changeNext mode (.setMode (.setMode new)) o.setMode = .goto (.give o.setMode) :=
    congrArg (Flow.within · ChangeMode.setMode fun err => .goto (.give err)) (if_pos herr)
  have hgive : changeNext mode (.give o.setMode) 0 = .ret o.setMode := if_pos herr
  have hreturns := ((hcomes.goto hcompare).goto hset).ret hgive
  have hhear : x.hear o (.setMode (.setMode new)) = (x.radio, true) := if_neg herr
  have hkept := ((hatomic _ _ hreturns).rejected herr (congrArg Prod.snd hhear)).1
  have hmode : x.ctx.permanentMode = mode := by
    rw [hintends.stored, if_pos hpermanent]
  exact hstored (hkept.symm.trans hmode)

end Wrong

theorem honest_of_atomic {s : System} {radio : UInt32} (h : Atomic t mode o s radio) :
    Honest mode o s radio := by
  intro hpermanent
  split
  next hstored => exact stored_of_atomic h hpermanent hstored
  next hstored =>
    intro hfree
    split
    next hsame => exact fun hsave => unchanged_of_atomic h hpermanent hstored hfree hsame hsave
    next hdiffers => exact accepted_of_atomic h hpermanent hstored hfree hdiffers

/-- A call is atomic exactly when the radio accepts the change, or no change is needed. -/
theorem changeMode_atomic_iff (s : System) (radio : UInt32) :
    Atomic t mode o s radio ↔ Honest mode o s radio :=
  ⟨honest_of_atomic t mode o, atomic_of_honest t mode o⟩

def freshBoot : Boot := ⟨none, false, 1⟩

/-- From the boot, the radio rejects to switch the access point off. -/
theorem not_atomic_rejected :
    ¬ Atomic 2 .apOffStaOn ⟨1, 0⟩ freshBoot.system freshBoot.mode := by
  intro h
  have hhonest := honest_of_atomic 2 .apOffStaOn ⟨1, 0⟩ h rfl
  rw [if_neg (by decide)] at hhonest
  have haccepted := hhonest rfl
  rw [if_neg (by decide)] at haccepted
  cases haccepted

end WirelessEsp.WifiManager
