/-!
# Calls

A call to something outside takes time, may be cut short, and changes the state of what it
is made on. Time is counted in milliseconds. A guarded call is one that is cut short by a
deadline of its own, or by the time at which the whole run is cancelled.
-/

namespace ChainConformance

/-- What comes of a call: the answer, unless it was cut short before there was one, the time
that went by, and the state that is left. -/
structure Attempt (σ α : Type) where
  answer : Option α
  elapsed : Nat
  state : σ

/-- A call, which is told how long it may take if there is a limit to it. A call that takes
exactly that long is in time. -/
def Call (σ α : Type) : Type := Option Nat → σ → Attempt σ α

namespace Call

variable {σ τ α β : Type}

def instantly (f : σ → α × σ) : Call σ α := fun _ s => ⟨some (f s).1, 0, (f s).2⟩

protected def pure (a : α) : Call σ α := instantly (a, ·)

protected def bind (c : Call σ α) (next : α → Call σ β) : Call σ β := fun limit s =>
  let first := c limit s
  match first.answer with
  | none => ⟨none, first.elapsed, first.state⟩
  | some a =>
    let second := next a (limit.map (· - first.elapsed)) first.state
    ⟨second.answer, first.elapsed + second.elapsed, second.state⟩

instance : Monad (Call σ) where
  pure := Call.pure
  bind := Call.bind

def wait (time : Nat) : Call σ Unit := fun limit s =>
  match limit with
  | none => ⟨some (), time, s⟩
  | some most => if time ≤ most then ⟨some (), time, s⟩ else ⟨none, most, s⟩

def never : Call σ α := fun limit s => ⟨none, limit.getD 0, s⟩

def look : Call σ σ := instantly fun s => (s, s)

def change (f : σ → σ) : Call σ Unit := instantly fun s => ((), f s)

def inside (part : τ → σ) (put : σ → τ → τ) (c : Call σ α) : Call τ α := fun limit t =>
  let a := c limit (part t)
  ⟨a.answer, a.elapsed, put a.state t⟩

/-- A call that is the same whenever it begins. -/
instance : Coe (Call σ α) (Nat → Call σ α) := ⟨fun c _ => c⟩

def onSecond (c : Call σ α) : Call (τ × σ) α := c.inside (·.2) fun s p => (p.1, s)

end Call

/-- A moment of a run: the time on its clock, and the state of what it calls. -/
structure Moment (σ : Type) where
  now : Nat
  state : σ

inductive Guarded (α : Type) where
  | done (answer : α)
  | timedOut
  | cancelled
  deriving Repr, DecidableEq

def isCancelled (cancelAt : Option Nat) (now : Nat) : Bool := cancelAt.any (· ≤ now)

namespace Moment

variable {σ α : Type}

def after (m : Moment σ) (a : Attempt σ α) : Moment σ := ⟨m.now + a.elapsed, a.state⟩

def unguarded (c : Call σ α) (m : Moment σ) : Option α × Moment σ :=
  let a := c none m.state
  (a.answer, m.after a)

/-- Makes a call that is cut short when it has lasted `timeout`. -/
def within (timeout : Nat) (c : Call σ α) (m : Moment σ) : Guarded α × Moment σ :=
  let a := c (some timeout) m.state
  match a.answer with
  | some x => (.done x, m.after a)
  | none => (.timedOut, ⟨m.now + timeout, a.state⟩)

/-- Makes a call that is cut short when it has lasted `timeout` or when the run is
cancelled, whichever is first. Where both happen at once the run is cancelled, and so it is
where the call would end at that very time. -/
def guarded (cancelAt : Option Nat) (timeout : Nat) (c : Call σ α) (m : Moment σ) :
    Guarded α × Moment σ :=
  match cancelAt with
  | none => m.within timeout c
  | some stop =>
    if stop ≤ m.now then (.cancelled, m)
    else if timeout < stop - m.now then m.within timeout c
    else
      let a := c (some (stop - m.now - 1)) m.state
      match a.answer with
      | some x => (.done x, m.after a)
      | none => (.cancelled, ⟨stop, a.state⟩)

def pause (time : Nat) (m : Moment σ) : Moment σ := { m with now := m.now + time }

end Moment

end ChainConformance
