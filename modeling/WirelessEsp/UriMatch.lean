import Mathlib.Data.List.Basic
import Mathlib.Data.List.Infix
import WirelessEsp.LeWords

namespace WirelessEsp.UriMatch

open LeWords

def SLASH : UInt8 := 47

def URI_WS_STR : UInt32 := ofBytes SLASH 119 115 0

def strlen (mem : List UInt8) : Nat := (mem.takeWhile (· != 0)).length

def word (mem : List UInt8) : UInt32 :=
  ofBytes (mem.getD 0 0) (mem.getD 1 0) (mem.getD 2 0) (mem.getD 3 0)

def memEqual (mem mem' : List UInt8) (n : Nat) : Bool := mem.take n == mem'.take n

def matchByLength (referenceUri uriToMatch : List UInt8) (matchUpto : Nat) : Bool :=
  let refLength := strlen referenceUri
  if refLength > matchUpto then false
  else if refLength = matchUpto ∧ memEqual referenceUri uriToMatch refLength then true
  else if referenceUri.getD (refLength - 1) 0 = SLASH ∧ refLength > 1 then
    memEqual referenceUri uriToMatch refLength
  else referenceUri.getD (refLength - 1) 0 == SLASH

def uriMatch (referenceUri uriToMatch : List UInt8) (matchUpto : Nat) : Bool :=
  if matchUpto = 3 ∧ word referenceUri = URI_WS_STR then word uriToMatch == word referenceUri
  else matchByLength referenceUri uriToMatch matchUpto

inductive Matches : List UInt8 → List UInt8 → Prop
  | root (path : List UInt8) : Matches [SLASH] path
  | entry {path : List UInt8} (entry : path.getLast? ≠ some SLASH) : Matches path path
  | dir {name : List UInt8} (more : name ≠ []) (path : List UInt8) :
      Matches (name ++ [SLASH]) (name ++ [SLASH] ++ path)

/-- A string that begins with a slash. -/
structure Rooted (s : List UInt8) : Prop where
  head : s.head? = some SLASH
  noNul : 0 ∉ s

/-- A path and what comes behind it in a request. -/
structure Request (path query : List UInt8) : Prop where
  path : Rooted path
  query : query.head? ∈ [none, some 63]

/-- The reference is compared with the path alone, and the quick access changes nothing. -/
structure MatchesRight (reference path query behindRef behindUri : List UInt8) : Prop where
  answer : uriMatch (reference ++ 0 :: behindRef) (path ++ query ++ 0 :: behindUri) path.length ↔
    Matches reference path
  quick : uriMatch (reference ++ 0 :: behindRef) (path ++ query ++ 0 :: behindUri) path.length =
    matchByLength (reference ++ 0 :: behindRef) (path ++ query ++ 0 :: behindUri) path.length

def WS : List UInt8 := [SLASH, 119, 115]

variable {reference path query behindRef behindUri : List UInt8}

theorem strlen_append (h : 0 ∉ reference) : strlen (reference ++ 0 :: behindRef) = reference.length := by
  have hall : ∀ c ∈ reference, (c != 0) = true := by
    intro c hc
    rw [bne_iff_ne]
    exact fun heq => h (heq ▸ hc)
  rw [strlen, List.takeWhile_append_of_pos hall, List.takeWhile_cons_of_neg (by simp),
    List.append_nil]

theorem memEqual_append (u v : List UInt8) (hlen : reference.length ≤ path.length) :
    memEqual (reference ++ u) (path ++ v) reference.length ↔ reference <+: path := by
  rw [memEqual, List.take_left, List.take_append_of_le_length hlen, beq_iff_eq]
  exact List.prefix_iff_eq_take.symm

theorem matches_iff :
    Matches reference path ↔
      reference = path ∧ reference.getLast? ≠ some SLASH ∨
        reference.getLast? = some SLASH ∧ (reference.length = 1 ∨ reference <+: path) := by
  constructor
  · intro h
    cases h with
    | root => exact .inr ⟨rfl, .inl rfl⟩
    | entry hentry => exact .inl ⟨rfl, hentry⟩
    | dir hmore path => exact .inr ⟨List.getLast?_concat .., .inr (List.prefix_append _ _)⟩
  · rintro (⟨rfl, hentry⟩ | ⟨hlast, hrest⟩)
    · exact .entry hentry
    · obtain ⟨name, rfl⟩ := List.getLast?_eq_some_iff.mp hlast
      by_cases hname : name = []
      · rw [hname]
        exact .root path
      · rcases hrest with hone | ⟨t, rfl⟩
        · rw [List.length_append, List.length_singleton] at hone
          exact absurd (List.eq_nil_of_length_eq_zero (by omega)) hname
        · exact .dir hname t

theorem Rooted.length_pos (h : Rooted reference) : 0 < reference.length := by
  cases reference with
  | nil => cases h.head
  | cons c s => exact Nat.succ_pos _

theorem getD_last (h : Rooted reference) (u : List UInt8) :
    (reference ++ u).getD (reference.length - 1) 0 = SLASH ↔
      reference.getLast? = some SLASH := by
  have hpos := h.length_pos
  rw [List.getD_eq_getElem?_getD, List.getElem?_append_left (by omega), List.getLast?_eq_getElem?,
    List.getElem?_eq_getElem (by omega)]
  simp

theorem matchByLength_iff (href : Rooted reference) (hpath : Rooted path) :
    matchByLength (reference ++ 0 :: behindRef) (path ++ query ++ 0 :: behindUri) path.length ↔
      Matches reference path := by
  have hone := href.length_pos
  have hpos := hpath.length_pos
  have hequal (hle : reference.length ≤ path.length) :
      memEqual (reference ++ 0 :: behindRef) (path ++ query ++ 0 :: behindUri) reference.length ↔
        reference <+: path := by
    rw [List.append_assoc]
    exact memEqual_append _ _ hle
  rw [matchByLength, strlen_append href.noNul, matches_iff]
  simp only [getD_last href]
  split
  next hlong =>
    -- a longer reference than the path is neither the path nor a prefix of it
    have hne : reference ≠ path := fun heq => by rw [heq] at hlong; exact Nat.lt_irrefl _ hlong
    have hno : ¬ reference <+: path := fun hp => Nat.not_le.mpr hlong hp.length_le
    simp only [Bool.false_eq_true, hne, false_and, hno, or_false, false_or, false_iff, not_and]
    omega
  next hle =>
    have hequal := hequal (Nat.not_lt.mp hle)
    split
    next hsame =>
      have hp := hequal.mp hsame.2
      have heq := hp.eq_of_length hsame.1
      simp only [true_iff]
      by_cases hlast : reference.getLast? = some SLASH
      · exact .inr ⟨hlast, .inr hp⟩
      · exact .inl ⟨heq, hlast⟩
    next hdiffer =>
      have hne : reference ≠ path := by
        intro heq
        exact hdiffer ⟨congrArg List.length heq, hequal.mpr (heq ▸ List.prefix_refl _)⟩
      simp only [hne, false_and, false_or]
      split
      next hdir => rw [hequal, and_iff_right hdir.1, or_iff_right (by omega)]
      next hother =>
        simp only [beq_iff_eq, getD_last href]
        constructor
        · intro hlast
          have hshort : ¬ reference.length > 1 := fun hlong => hother ⟨hlast, hlong⟩
          exact ⟨hlast, .inl (by omega)⟩
        · exact And.left

theorem ofBytes_inj {a b c d a' b' c' d' : UInt8} :
    ofBytes a b c d = ofBytes a' b' c' d' ↔ a = a' ∧ b = b' ∧ c = c' ∧ d = d' := by
  constructor
  · intro h
    have hbyte (i : Nat) (hi : i < 4) : [a, b, c, d][i] = [a', b', c', d'][i] := by
      rw [← byteOf_ofBytes a b c d i hi, ← byteOf_ofBytes a' b' c' d' i hi, h]
    exact ⟨hbyte 0 (by decide), hbyte 1 (by decide), hbyte 2 (by decide), hbyte 3 (by decide)⟩
  · rintro ⟨rfl, rfl, rfl, rfl⟩
    rfl

theorem word_append {s u : List UInt8} (hlen : s.length = 3) :
    word (s ++ u) = URI_WS_STR ↔ s = WS ∧ u.getD 0 0 = 0 := by
  obtain ⟨a, b, c, rfl⟩ := List.length_eq_three.mp hlen
  rw [word, URI_WS_STR, ofBytes_inj]
  simp only [WS, List.cons_append, List.nil_append, List.getD_cons_zero, List.getD_cons_succ,
    List.cons.injEq, and_true, and_assoc]

theorem word_reference (href : Rooted reference) :
    word (reference ++ 0 :: behindRef) = URI_WS_STR ↔ reference = WS := by
  constructor
  · intro h
    have hno := href.noNul
    rw [word, URI_WS_STR, ofBytes_inj] at h
    rcases reference with _ | ⟨a, _ | ⟨b, _ | ⟨c, _ | ⟨d, s⟩⟩⟩⟩ <;>
      simp only [List.nil_append, List.cons_append, List.getD_cons_zero, List.getD_cons_succ,
        List.mem_cons, not_or] at h hno
    · exact absurd h.1 (by decide)
    · exact absurd h.2.1 (by decide)
    · exact absurd h.2.2.1 (by decide)
    · rw [h.1, h.2.1, h.2.2.1]
      rfl
    · exact absurd h.2.2.2.symm hno.2.2.2.1
  · rintro rfl
    exact (word_append rfl).mpr ⟨rfl, rfl⟩

theorem quick_iff (hreq : Request path query) (hlen : path.length = 3) :
    word (path ++ query ++ 0 :: behindUri) = URI_WS_STR ↔ path = WS ∧ query = [] := by
  rw [List.append_assoc, word_append hlen]
  apply and_congr_right
  intro _
  cases query with
  | nil => simp
  | cons q query =>
      have hq : q = 63 := by simpa using hreq.query
      simp [hq]

theorem rooted_ws : Rooted WS := ⟨rfl, by decide⟩

theorem matches_ws : Matches WS path ↔ path = WS := by
  rw [matches_iff]
  constructor
  · rintro (⟨rfl, -⟩ | ⟨hlast, -⟩)
    · rfl
    · exact absurd hlast (by decide)
  · rintro rfl
    exact .inl ⟨rfl, by decide⟩

/-- A reference is compared right except for a request of `"/ws"` with a query. -/
theorem matchesRight_iff (href : Rooted reference) (hreq : Request path query) :
    MatchesRight reference path query behindRef behindUri ↔
      ¬ (reference = WS ∧ path = WS ∧ query ≠ []) := by
  have hslow : matchByLength (reference ++ 0 :: behindRef) (path ++ query ++ 0 :: behindUri)
      path.length ↔ Matches reference path := matchByLength_iff href hreq.path
  by_cases htaken : path.length = 3 ∧ word (reference ++ 0 :: behindRef) = URI_WS_STR
  · have hws := (word_reference href).mp htaken.2
    have hanswer : uriMatch (reference ++ 0 :: behindRef) (path ++ query ++ 0 :: behindUri)
        path.length ↔ path = WS ∧ query = [] := by
      rw [uriMatch, if_pos htaken, htaken.2, beq_iff_eq]
      exact quick_iff hreq htaken.1
    constructor
    · intro h hbad
      have hboth := hanswer.mp (h.answer.mpr (by rw [hws]; exact matches_ws.mpr hbad.2.1))
      exact hbad.2.2 hboth.2
    · intro hgood
      have hright : uriMatch (reference ++ 0 :: behindRef) (path ++ query ++ 0 :: behindUri)
          path.length ↔ Matches reference path := by
        rw [hanswer, hws, matches_ws, and_iff_left_iff_imp]
        exact fun hpath => not_not.mp fun hquery => hgood ⟨hws, hpath, hquery⟩
      exact ⟨hright, Bool.eq_iff_iff.mpr (hright.trans hslow.symm)⟩
  · have hsame : uriMatch (reference ++ 0 :: behindRef) (path ++ query ++ 0 :: behindUri)
        path.length =
      matchByLength (reference ++ 0 :: behindRef) (path ++ query ++ 0 :: behindUri) path.length :=
      if_neg htaken
    refine iff_of_true ⟨by rw [hsame]; exact hslow, hsame⟩ fun hbad => htaken ?_
    exact ⟨by rw [hbad.2.1]; rfl, (word_reference href).mpr hbad.1⟩

/-- A directory and a page in it, with a query. -/
theorem matchesRight_dir :
    MatchesRight [SLASH, 97, SLASH] [SLASH, 97, SLASH, 98] [63, 99] [] [] :=
  (matchesRight_iff ⟨rfl, by decide⟩ ⟨⟨rfl, by decide⟩, by decide⟩).mpr (by decide)

/-- The request of `"/ws"` with a query is not answered. -/
theorem not_matchesRight_always :
    ¬ ∀ reference path query behindRef behindUri : List UInt8, Rooted reference →
      Request path query → MatchesRight reference path query behindRef behindUri := by
  intro hall
  have hright := hall WS WS [63, 120] [] [] rooted_ws ⟨rooted_ws, by decide⟩
  have hfalse : uriMatch (WS ++ [0]) (WS ++ [63, 120] ++ [0]) WS.length = false := by decide
  have htrue := hright.answer.mpr (matches_ws.mpr rfl)
  rw [hfalse] at htrue
  cases htrue

end WirelessEsp.UriMatch
