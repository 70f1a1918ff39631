import ChainConformance.Proofs.PayloadSimulation

/-!
# Recorded runs

A client can be made to keep a record of the calls that offer payloads and choose heads. A
run does not see the record: it comes to the same verdict, at the same time, and leaves the
client as it would be without one.
-/

namespace ChainConformance

/-- A call that offers a payload or chooses a head, with the answer to it, none if it was cut
short. -/
inductive EngineCall where
  | newPayload (version : UInt8) (e : PayloadEntry)
      (answer : Option (FaultOr PayloadStatus))
  | chooseHead (version : UInt8) (choice : Forkchoice)
      (answer : Option (FaultOr PayloadStatus))

section Recording

variable {σ τ α β : Type}

def Call.noted (note : Option α → τ) (c : Call σ α) : Call (σ × List τ) α := fun limit s =>
  let a := c limit s.1
  ⟨a.answer, a.elapsed, (a.state, s.2 ++ [note a.answer])⟩

def Call.unnoted (c : Call σ α) : Call (σ × τ) α := c.inside (·.1) fun s p => (s, p.2)

lemma Call.noted_matches (note : Option α → τ) (c : Call σ α) :
    (c.noted note).Matches c fun p s => p.1 = s := by
  rintro limit p _ rfl
  exact ⟨rfl, rfl, rfl⟩

lemma Call.unnoted_matches (c : Call σ α) :
    (c.unnoted : Call (σ × τ) α).Matches c fun p s => p.1 = s := by
  rintro limit p _ rfl
  exact ⟨rfl, rfl, rfl⟩

lemma Call.unnoted_bind (c : Call σ α) (next : α → Call σ β) :
    (c >>= next).unnoted = (c.unnoted >>= fun a => (next a).unnoted : Call (σ × τ) β) := by
  funext limit s
  cases h : (c limit s.1).answer with
  | none =>
    have hunnoted : ((c.unnoted : Call (σ × τ) α) limit s).answer = none := h
    rw [Call.bind_cut hunnoted]
    unfold Call.unnoted Call.inside
    rw [Call.bind_cut h]
  | some a =>
    have hunnoted : ((c.unnoted : Call (σ × τ) α) limit s).answer = some a := h
    rw [Call.bind_answered hunnoted]
    unfold Call.unnoted Call.inside
    rw [Call.bind_answered h]

namespace EngineTarget

/-- The client with a record of the calls that offer payloads and choose heads. -/
def recorded (t : EngineTarget σ) : EngineTarget (σ × List EngineCall) where
  newPayload version e := (t.newPayload version e).noted (.newPayload version e)
  chooseHead version choice := (t.chooseHead version choice).noted (.chooseHead version choice)
  block choice := (t.block choice).unnoted
  account address keys := (t.account address keys).unnoted

variable (t : EngineTarget σ)

lemma recorded_blockHash (n : UInt64) :
    t.recorded.blockHash n = (t.blockHash n).unnoted := by
  unfold blockHash
  rw [Call.unnoted_bind]
  rfl

lemma recorded_head : t.recorded.head = t.head.unnoted := by
  unfold head
  rw [Call.unnoted_bind]
  congr 1
  funext answer
  rcases answer with e | _ | b <;> rfl

lemma recorded_readAccounts (entries : List (Address × Account)) (read : Alloc) :
    t.recorded.readAccounts entries read = (t.readAccounts entries read).unnoted := by
  induction entries generalizing read with
  | nil => rfl
  | cons entry rest ih =>
    unfold readAccounts
    rw [Call.unnoted_bind]
    congr 1
    funext answer
    rcases answer with e | _ | a
    · rfl
    · exact ih read
    · exact ih (read.insert entry.1 a)

lemma recorded_readState (hint : Alloc) :
    t.recorded.readState hint = (t.readState hint).unnoted :=
  t.recorded_readAccounts hint.entries .empty

lemma recorded_matches : t.recorded.Matches t fun p s => p.1 = s where
  newPayload version e := Call.noted_matches _ (t.newPayload version e)
  chooseHead version choice := Call.noted_matches _ (t.chooseHead version choice)
  block choice := (t.block choice).unnoted_matches
  account address keys := (t.account address keys).unnoted_matches

end EngineTarget

end Recording

/-- The moment with a part of its state. -/
def Moment.map {σ τ : Type} (part : τ → σ) (m : Moment τ) : Moment σ := ⟨m.now, part m.state⟩

theorem PayloadRun.run_recorded {σ : Type} {terms : Terms} {f : Fixture} {pre : Alloc}
    (target : EngineTarget σ) (hc : terms.cancelAt = none) (m : Moment σ)
    (record : List EngineCall) :
    let noted := run terms f pre target.recorded ⟨m.now, (m.state, record)⟩
    run terms f pre target m = (noted.1, noted.2.map Prod.fst) := by
  obtain ⟨verdict, m', ⟨now, s⟩, hnoted, hrun, hnow, rfl⟩ :=
    run_abreast f pre hc target.recorded_matches (m := ⟨m.now, (m.state, record)⟩) (n := m) rfl
  have hsame : m'.now = now := Nat.add_right_cancel hnow
  rw [hrun, hnoted, ← hsame]
  rfl

end ChainConformance
