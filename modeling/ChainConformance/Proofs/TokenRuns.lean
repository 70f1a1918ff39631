import ChainConformance.Json.Parser
import Mathlib.Algebra.GroupWithZero.Nat
import Mathlib.Tactic.Common

/-!
# Texts as runs of tokens

To read a text is to run the machine through its tokens. What one token can do to the machine is
said once, and how deep in arrays and objects it is after a run follows from that: as much deeper
than before as the tokens open more of them than they close.
-/

namespace ChainConformance.Json

def scan : Mode → List Char → List Token × Mode
  | mode, [] => ([], mode)
  | mode, c :: rest =>
    ((step mode c).1 ++ (scan (step mode c).2 rest).1, (scan (step mode c).2 rest).2)

def tokens (mode : Mode) (cs : List Char) : List Token := (scan mode cs).1 ++ (scan mode cs).2.atEnd

lemma tokens_nil (mode : Mode) : tokens mode [] = mode.atEnd := rfl

lemma tokens_cons (mode : Mode) (c : Char) (rest : List Char) :
    tokens mode (c :: rest) = (step mode c).1 ++ tokens (step mode c).2 rest :=
  List.append_assoc _ _ _

lemma tokens_append (mode : Mode) (front rest : List Char) :
    tokens mode (front ++ rest) = (scan mode front).1 ++ tokens (scan mode front).2 rest := by
  induction front generalizing mode with
  | nil => rfl
  | cons c front ih => rw [List.cons_append, tokens_cons, ih, scan, List.append_assoc]

/-- The machine after some tokens, if it has a use for all of them. -/
def Machine.run (m : Machine) (ts : List Token) : Option Machine := ts.foldlM Machine.next? m

namespace Machine

variable {m m' : Machine} {t : Token} {ts us : List Token}

lemma run_cons (m : Machine) (t : Token) (ts : List Token) :
    m.run (t :: ts) = (m.next? t).bind fun after => after.run ts := List.foldlM_cons

lemma run_append (m : Machine) (ts us : List Token) :
    m.run (ts ++ us) = (m.run ts).bind fun after => after.run us := List.foldlM_append

lemma run_of_fault (h : .fault ∈ ts) (m : Machine) : m.run ts = none := by
  induction ts generalizing m with
  | nil => cases h
  | cons t ts ih =>
    rw [run_cons]
    rcases List.mem_cons.mp h with rfl | hrest
    · rfl
    · exact Option.bind_eq_none_iff.mpr fun after _ => ih hrest after

end Machine

namespace Progress

lemma foldl_take_of_broken {p : Progress} (h : p.broken = true) (ts : List Token) :
    ts.foldl take p = p := by
  induction ts with
  | nil => rfl
  | cons t ts ih =>
    have htake : p.take t = p := if_pos h
    rw [List.foldl_cons, htake, ih]

lemma broken_foldl_feed {p : Progress} (h : p.broken = true) (cs : List Char) :
    (cs.foldl feed p).broken = true := by
  induction cs generalizing p with
  | nil => exact h
  | cons c cs ih =>
    have hfeed : p.feed c = { p with mode := (step p.mode c).2 } :=
      foldl_take_of_broken (p := { p with mode := (step p.mode c).2 }) h _
    rw [List.foldl_cons, hfeed]
    exact ih h

lemma finish_of_broken {p : Progress} (h : p.broken = true) (j : Json) : p.finish ≠ .ok j := by
  rw [finish, foldl_take_of_broken h]
  simp [h]

lemma foldl_take_eq (mode : Mode) (m : Machine) (ts : List Token) :
    (∀ after, m.run ts = some after → ts.foldl take ⟨mode, m, false⟩ = ⟨mode, after, false⟩) ∧
      (m.run ts = none → (ts.foldl take ⟨mode, m, false⟩).broken = true) := by
  induction ts generalizing m with
  | nil =>
    refine ⟨fun after h => ?_, fun h => ?_⟩
    · cases h
      rfl
    · cases h
  | cons t ts ih =>
    rw [Machine.run_cons, List.foldl_cons]
    cases hnext : m.next? t with
    | none =>
      have htake : take ⟨mode, m, false⟩ t = ⟨mode, m, true⟩ := by simp [take, hnext]
      rw [htake, foldl_take_of_broken rfl]
      refine ⟨fun after h => ?_, fun _ => rfl⟩
      cases h
    | some next =>
      have htake : take ⟨mode, m, false⟩ t = ⟨mode, next, false⟩ := by simp [take, hnext]
      rw [htake, Option.bind_some]
      exact ih next

/-- What is left to read makes a value if and only if the machine can take all its tokens and is
then done. -/
lemma finish_eq_ok_iff (mode : Mode) (m : Machine) (cs : List Char) (j : Json) :
    (cs.foldl feed ⟨mode, m, false⟩).finish = .ok j ↔
      ∃ after, m.run (tokens mode cs) = some after ∧ after.result = some j := by
  induction cs generalizing mode m with
  | nil =>
    obtain ⟨htaken, hbroken⟩ := foldl_take_eq mode m mode.atEnd
    rw [List.foldl_nil, tokens_nil, finish]
    dsimp only
    cases hrun : m.run mode.atEnd with
    | none => simp [hbroken hrun]
    | some after =>
      rw [htaken after hrun]
      cases hresult : after.result <;> simp [hresult]
  | cons c cs ih =>
    obtain ⟨htaken, hbroken⟩ := foldl_take_eq (step mode c).2 m (step mode c).1
    have hfeed : feed ⟨mode, m, false⟩ c =
      (step mode c).1.foldl take ⟨(step mode c).2, m, false⟩ := rfl
    rw [List.foldl_cons, tokens_cons, Machine.run_append, hfeed]
    cases hrun : m.run (step mode c).1 with
    | none =>
      have hfinish := finish_of_broken (broken_foldl_feed (hbroken hrun) cs) j
      simp [hfinish]
    | some after =>
      rw [htaken after hrun, Option.bind_some]
      exact ih _ after

end Progress

lemma parse_eq_ok_iff (cs : List Char) (j : Json) : parse (String.ofList cs) = .ok j ↔
    ∃ m, Machine.initial.run (tokens .between cs) = some m ∧ m.result = some j := by
  rw [parse, String.toList_ofList]
  exact Progress.finish_eq_ok_iff .between .initial cs j

def Token.opens : Token → Nat
  | openArray => 1
  | openObject => 1
  | _ => 0

def Token.closes : Token → Nat
  | closeArray => 1
  | closeObject => 1
  | _ => 0

namespace Machine

variable {m m' : Machine} {t : Token} {ts : List Token}

/-- What a token does to the machine: it is a value, it opens or closes an array or object, it
changes the innermost one that is open, or it stands between a name and its value. -/
inductive Moves (m : Machine) (t : Token) : Machine → Prop
  | value (j : Json) (allowed : m.expect.allowsValue = true)
      (level : t.opens = 0 ∧ t.closes = 0) : Moves m t (m.emit j)
  | into (f : Frame) (e : Expect) (allowed : m.expect.allowsValue = true)
      (level : t.opens = 1 ∧ t.closes = 0) : Moves m t (m.descend f e)
  | outOf {f : Frame} {rest : List Frame} (j : Json) (inside : m.frames = f :: rest)
      (level : t.opens = 0 ∧ t.closes = 1) : Moves m t (emit ⟨rest, .value, none⟩ j)
  | along {f : Frame} {rest : List Frame} (f' : Frame) (e : Expect) {result : Option Json}
      (inside : m.frames = f :: rest) (kept : result = none ∨ result = m.result)
      (level : t.opens = 0 ∧ t.closes = 0) : Moves m t ⟨f' :: rest, e, result⟩
  | past (named : m.expect = .colon) (level : t.opens = 0 ∧ t.closes = 0) :
      Moves m t { m with expect := .value }

lemma moves_of_next? (h : m.next? t = some m') : m.Moves t m' := by
  cases t with
  | literal j =>
    simp only [next?, Option.ite_none_right_eq_some, Option.some.injEq] at h
    obtain ⟨hallowed, rfl⟩ := h
    exact .value j hallowed ⟨rfl, rfl⟩
  | text | damagedText =>
    -- A text is a value where one may come next, and otherwise the name of a field.
    rw [next?] at h
    split at h
    next hallowed =>
      cases h
      exact .value _ hallowed ⟨rfl, rfl⟩
    next =>
      split at h
      · split at h
        next hframes =>
          cases h
          exact .along _ _ hframes (.inl rfl) ⟨rfl, rfl⟩
        next hframes =>
          cases h
          exact .along _ _ hframes (.inl rfl) ⟨rfl, rfl⟩
        next => cases h
      · cases h
  | openArray =>
    simp only [next?, Option.ite_none_right_eq_some, Option.some.injEq] at h
    obtain ⟨hallowed, rfl⟩ := h
    exact .into _ _ hallowed ⟨rfl, rfl⟩
  | openObject =>
    simp only [next?, Option.ite_none_right_eq_some, Option.some.injEq] at h
    obtain ⟨hallowed, rfl⟩ := h
    exact .into _ _ hallowed ⟨rfl, rfl⟩
  | closeArray =>
    rw [next?] at h
    split at h
    next hframes =>
      simp only [Option.ite_none_right_eq_some, Option.some.injEq] at h
      obtain ⟨-, rfl⟩ := h
      exact .outOf _ hframes ⟨rfl, rfl⟩
    next => cases h
  | closeObject =>
    rw [next?] at h
    split at h
    next hframes =>
      simp only [Option.ite_none_right_eq_some, Option.some.injEq] at h
      obtain ⟨-, rfl⟩ := h
      exact .outOf _ hframes ⟨rfl, rfl⟩
    next hframes =>
      simp only [Option.ite_none_right_eq_some, Option.some.injEq] at h
      obtain ⟨-, rfl⟩ := h
      exact .outOf _ hframes ⟨rfl, rfl⟩
    next => cases h
  | comma =>
    rw [next?] at h
    split at h
    next hframes =>
      simp only [Option.ite_none_right_eq_some, Option.some.injEq] at h
      obtain ⟨-, rfl⟩ := h
      rw [hframes]
      exact .along _ _ hframes (.inr rfl) ⟨rfl, rfl⟩
    next hframes =>
      simp only [Option.ite_none_right_eq_some, Option.some.injEq] at h
      obtain ⟨-, rfl⟩ := h
      rw [hframes]
      exact .along _ _ hframes (.inr rfl) ⟨rfl, rfl⟩
    next hframes =>
      simp only [Option.ite_none_right_eq_some, Option.some.injEq] at h
      obtain ⟨-, rfl⟩ := h
      rw [hframes]
      exact .along _ _ hframes (.inr rfl) ⟨rfl, rfl⟩
    next => cases h
  | colon =>
    simp only [next?, Option.ite_none_right_eq_some, Option.some.injEq] at h
    obtain ⟨hnamed, rfl⟩ := h
    exact .past hnamed ⟨rfl, rfl⟩
  | fault => cases h

lemma length_frames_emit (m : Machine) (j : Json) :
    (m.emit j).frames.length = m.frames.length := by
  unfold emit
  split <;> simp_all

lemma Moves.length_frames (h : m.Moves t m') :
    m'.frames.length + t.closes = m.frames.length + t.opens := by
  cases h with
  | value j _ level => rw [length_frames_emit, level.1, level.2]
  | into f e _ level => rw [level.1, level.2, descend, List.length_cons, Nat.add_zero]
  | outOf j inside level => rw [length_frames_emit, inside, level.1, level.2, List.length_cons]
  | along f' e inside _ level => rw [inside, level.1, level.2]; rfl
  | past _ level => rw [level.1, level.2]

/-- A value has been begun: it is either whole, so that nothing may follow, or there is none. -/
structure Begun (m : Machine) : Prop where
  whole (h : m.frames = []) : m.expect = .nothing
  unfinished (h : m.frames ≠ []) : m.result = none

lemma begun_emit (m : Machine) (j : Json) : (m.emit j).Begun := by
  unfold emit
  split
  · exact ⟨fun _ => rfl, fun h => absurd rfl h⟩
  all_goals exact ⟨nofun, fun _ => rfl⟩

lemma Begun.moves (hm : m.Begun) (h : m.Moves t m') : m'.Begun := by
  cases h with
  | value j => exact begun_emit m j
  | into => exact ⟨nofun, fun _ => rfl⟩
  | outOf j => exact begun_emit _ j
  | along f' e inside kept =>
    refine ⟨nofun, fun _ => ?_⟩
    have hnone : m.result = none := hm.unfinished (by simp [inside])
    rcases kept with rfl | rfl
    · rfl
    · exact hnone
  | past named =>
    refine ⟨fun hframes => ?_, hm.unfinished⟩
    rw [hm.whole hframes] at named
    cases named

lemma Begun.next?_eq_none (hm : m.Begun) (hframes : m.frames = []) (t : Token) :
    m.next? t = none := by
  have hnothing := hm.whole hframes
  by_contra hsome
  obtain ⟨after, hafter⟩ := Option.ne_none_iff_exists'.mp hsome
  cases moves_of_next? hafter with
  | value _ allowed => rw [hnothing] at allowed; cases allowed
  | into _ _ allowed => rw [hnothing] at allowed; cases allowed
  | outOf _ inside => rw [hframes] at inside; cases inside
  | along _ _ inside => rw [hframes] at inside; cases inside
  | past named => rw [hnothing] at named; cases named

lemma Begun.run (hm : m.Begun) (h : m.run ts = some m') : m'.Begun := by
  induction ts generalizing m with
  | nil =>
    cases h
    exact hm
  | cons t ts ih =>
    rw [run_cons] at h
    obtain ⟨next, hnext, h⟩ := Option.bind_eq_some_iff.mp h
    exact ih (hm.moves (moves_of_next? hnext)) h

/-- How deep the machine is after some tokens depends on these and on how deep it was before. -/
lemma length_frames_run (h : m.run ts = some m') :
    m'.frames.length + (ts.map Token.closes).sum =
      m.frames.length + (ts.map Token.opens).sum := by
  induction ts generalizing m with
  | nil =>
    cases h
    rfl
  | cons t ts ih =>
    rw [run_cons] at h
    obtain ⟨next, hnext, h⟩ := Option.bind_eq_some_iff.mp h
    have hfirst := (moves_of_next? hnext).length_frames
    have hrest := ih h
    rw [List.map_cons, List.map_cons, List.sum_cons, List.sum_cons]
    omega

end Machine

end ChainConformance.Json
