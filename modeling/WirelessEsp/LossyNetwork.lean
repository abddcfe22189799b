import WirelessEsp.Transition

namespace WirelessEsp.LossyNetwork

open Transition

variable {σ α μ : Type}

/-- Parties that take steps of their own, which may send messages, and receive messages. -/
structure Parties (σ α μ : Type) where
  act : σ → α → Option (σ × List μ)
  deliver : σ → μ → σ

/-- The parties with every message sent so far, the oldest first. -/
structure Net (σ μ : Type) where
  parties : σ
  sent : List μ

inductive Event (α : Type)
  | act (a : α)
  | deliver (k : Nat)
deriving DecidableEq

/-- A step of the system. The network delivers any message sent so far: it may lose messages, keep
them back, deliver them more than once and in any order. -/
def step (P : Parties σ α μ) (s : Net σ μ) : Event α → Option (Net σ μ)
  | .act a => (P.act s.parties a).map (fun t => ⟨t.1, s.sent ++ t.2⟩)
  | .deliver k => s.sent[k]?.map (fun m => ⟨P.deliver s.parties m, s.sent⟩)

/-- Every message states a fact that holds when it is sent and goes on to hold, as long as the
parties stay within the bounds of `Q`. -/
structure Stable (P : Parties σ α μ) (Q I : σ → Prop) (F : σ → μ → Prop) : Prop where
  before_act ⦃s a t⦄ : P.act s a = some t → Q t.1 → Q s
  before_deliver ⦃s m⦄ : Q (P.deliver s m) → Q s
  act ⦃s a t⦄ : P.act s a = some t → Q t.1 → I s →
    I t.1 ∧ (∀ m ∈ t.2, F t.1 m) ∧ ∀ m, F s m → F t.1 m
  deliver ⦃s m⦄ : Q (P.deliver s m) → I s → F s m →
    I (P.deliver s m) ∧ ∀ n, F s n → F (P.deliver s m) n

/-- The invariant of the parties, and the truth of all that is on the network. -/
def Sound (Q I : σ → Prop) (F : σ → μ → Prop) (s : Net σ μ) : Prop :=
  Q s.parties → I s.parties ∧ ∀ m ∈ s.sent, F s.parties m

variable {P : Parties σ α μ} {Q I : σ → Prop} {F : σ → μ → Prop}

theorem Stable.step (hP : Stable P Q I F) {s t : Net σ μ} {e : Event α} (hs : Sound Q I F s)
    (h : step P s e = some t) : Sound Q I F t := by
  intro hQ
  cases e with
  | act a =>
      obtain ⟨u, hu, rfl⟩ := Option.map_eq_some_iff.mp h
      obtain ⟨hI, hF⟩ := hs (hP.before_act hu hQ)
      obtain ⟨hI', hnew, hold⟩ := hP.act hu hQ hI
      refine ⟨hI', ?_⟩
      intro m hm
      rcases List.mem_append.mp hm with hm | hm
      · exact hold m (hF m hm)
      · exact hnew m hm
  | deliver k =>
      obtain ⟨m, hm, rfl⟩ := Option.map_eq_some_iff.mp h
      obtain ⟨hI, hF⟩ := hs (hP.before_deliver hQ)
      obtain ⟨hI', hold⟩ := hP.deliver hQ hI (hF m (List.mem_of_getElem? hm))
      exact ⟨hI', fun n hn => hold n (hF n hn)⟩

theorem Stable.always (hP : Stable P Q I F) {s : Net σ μ} (hs : Sound Q I F s)
    (events : List (Event α)) : Always (LossyNetwork.step P) (Sound Q I F) s events := by
  apply always_of_invariant ?_ hs
  intro s e t hs h
  exact hP.step hs h

end WirelessEsp.LossyNetwork
