import LoginGate.Proofs.Flow.Likeness
import LoginGate.Proofs.Flow.Turn
import Mathlib.Data.Fintype.Card

/-!
# Crowds of attempts

A controller serves many attempts, which share the state that its executor and
its registry act on. Each attempt has a course of its own, and the calls for the
attempts come in any order: one call is over when the next one comes, but as any
step may be suspended, the attempts are underway together.

The state is all that attempts share. A call takes on the course of one attempt,
in the state that the calls before it have left, and no other course
(`course_serve`, `members_serve_of_ne`).
-/

namespace LoginGate

/-- The state of the execution is that of an attempt that was started and has not
    ended. -/
def Execution.IsUnderway (e : Execution) : Prop := ∃ step, e.state = .suspended step

instance (e : Execution) : Decidable e.IsUnderway :=
  match h : e.state with
  | .suspended step => .isTrue ⟨step, h⟩
  | .notStarted | .complete _ | .failed => .isFalse (by simp [Execution.IsUnderway, h])

instance (e : Execution) (call : Call) : Decidable (e.Admits call) :=
  match call with
  | .start => inferInstanceAs (Decidable (e.state = .notStarted))
  | .resume _ => inferInstanceAs (Decidable e.IsUnderway)

/-- An attempt that is ready for a call is at one stage only. -/
theorem Stage.Agrees.eq_of_admits {stage stage' : Stage} {e : Execution} {call : Call}
    (h : stage.Agrees e) (h' : stage'.Agrees e) (ha : e.Admits call) : stage = stage' := by
  cases call with
  | start => rw [h.ready ha, h'.ready ha]
  | resume outcome =>
    obtain ⟨step, hs⟩ := ha
    obtain ⟨⟨waiting, origin⟩, rfl, hw, ho⟩ := h.waiting hs
    obtain ⟨⟨waiting', origin'⟩, rfl, hw', ho'⟩ := h'.waiting hs
    obtain rfl : waiting = waiting' := hw.trans hw'.symm
    obtain rfl : origin = origin' := Option.some.inj (ho.symm.trans ho')
    rfl

/-- Attempts that share a state. -/
structure Crowd (ι σ : Type) where
  /-- The course of each attempt, without the state. -/
  members : ι → Course Unit
  /-- The state. -/
  state : σ

/-- What is done while attempts share a state. -/
inductive Act (ι : Type) where
  /-- A call is made for an attempt. -/
  | call (i : ι) (call : Call)
  /-- Whoever may do so closes a session. -/
  | terminate (id : String)

variable {ι σ : Type}

namespace Crowd

/-- Attempts before the first call. -/
def gather (attempts : ι → Attempt) (state : σ) : Crowd ι σ :=
  ⟨fun i => ⟨⟨attempts i, (), []⟩, []⟩, state⟩

/-- The course of an attempt, with the state as it is now. -/
def course (w : Crowd ι σ) (i : ι) : Course σ := (w.members i).map fun _ => w.state

/-- The attempts that were started and have not ended. -/
def underway [Fintype ι] (w : Crowd ι σ) : Finset ι :=
  Finset.univ.filter fun i => (w.members i).execution.IsUnderway

/-- The attempts that are underway while something is done. An attempt that is
    called counts, unless the call is refused. -/
def engaged [Fintype ι] [DecidableEq ι] (w : Crowd ι σ) : Act ι → Finset ι
  | .call i call =>
    if (w.members i).execution.Admits call then insert i w.underway else w.underway
  | .terminate _ => w.underway

end Crowd

/-- The calls for one of the attempts. -/
def callsOf [DecidableEq ι] (i : ι) (calls : List (ι × Call)) : List Call :=
  calls.filterMap fun x => if x.1 = i then some x.2 else none

namespace Controller

variable [DecidableEq ι] (c : Controller σ)

/-- The crowd after a call for one of the attempts. -/
def serve (w : Crowd ι σ) (i : ι) (call : Call) : Crowd ι σ :=
  let k := c.extend (w.course i) call
  ⟨Function.update w.members i (k.map fun _ => ()), k.situation.state⟩

/-- The crowd after something was done. -/
def act (t : Terminator σ) (w : Crowd ι σ) : Act ι → Crowd ι σ
  | .call i call => c.serve w i call
  | .terminate id => { w with state := (t.terminate id w.state).2 }

/-- While one thing is done after another, at most `K` attempts are underway at
    any time. -/
def AtMost [Fintype ι] (t : Terminator σ) (K : Nat) : Crowd ι σ → List (Act ι) → Prop
  | _, [] => True
  | w, a :: later => (w.engaged a).card ≤ K ∧ AtMost t K (c.act t w a) later

/-- The states that something leads through: those between the turns of a call, and
    the one afterwards. -/
inductive Visits (t : Terminator σ) (w : Crowd ι σ) : Act ι → σ → Prop
  | during {i : ι} {call : Call} {stage : Stage} {told : List Outcome} {m : Moment σ} :
    (w.members i).execution.Admits call → stage.Agrees (w.members i).execution →
    told <+: call.outcome?.toList → c.Turns told ⟨stage, (w.course i).situation⟩ m →
    Visits t w (.call i call) m.situation.state
  | after {a : Act ι} : Visits t w a (c.act t w a).state

variable {c} {t : Terminator σ} {w : Crowd ι σ} {i j : ι} {call : Call}

theorem AtMost.of_append [Fintype ι] {K : Nat} {acts later : List (Act ι)}
    (h : c.AtMost t K w (acts ++ later)) :
    c.AtMost t K w acts ∧ c.AtMost t K (acts.foldl (c.act t) w) later := by
  induction acts generalizing w with
  | nil => exact ⟨trivial, h⟩
  | cons a acts ih =>
    obtain ⟨hlater, hrest⟩ := ih h.2
    exact ⟨⟨h.1, hlater⟩, hrest⟩

theorem members_serve :
    (c.serve w i call).members i = (c.extend (w.course i) call).map fun _ => () :=
  Function.update_self ..

theorem course_serve : (c.serve w i call).course i = c.extend (w.course i) call := by
  rw [Crowd.course, members_serve]
  rfl

theorem members_serve_of_ne (h : j ≠ i) : (c.serve w i call).members j = w.members j :=
  Function.update_of_ne h ..

/-- What holds of all courses holds of them after a call, if it holds of the one
    that was called for. -/
theorem forall_members_serve {P : ι → Course Unit → Prop} (h : ∀ j, P j (w.members j))
    (hi : P i ((c.extend (w.course i) call).map fun _ => ())) :
    ∀ j, P j ((c.serve w i call).members j) :=
  (Function.forall_update_iff w.members P).2 ⟨hi, fun j _ => h j⟩

end Controller

end LoginGate
