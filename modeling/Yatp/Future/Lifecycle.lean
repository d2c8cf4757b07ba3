import Yatp.Future.State

/-!
# Future Tasks: the Lifecycle of One Task

An abstract machine for one future task as its owners see it. It keeps the status byte,
whether the task was dropped, and two counts of owners:

- `waiting`: owners for which the status must be `NOTIFIED`: the spawner's `TaskCell`, the
  queue copies, the `wake_impl` calls that won `IDLE → NOTIFIED` and have not called
  `wake_task` yet, and the `handle` calls about to store `POLLING` or to call `wake_task`;
- `running`: the `handle` calls between their store of `POLLING` and their
  compare-exchange.

A move of the machine is one of the status changes the comment above the status constants
of `src/task/future.rs` describes ("marked as POLLING", "marked as COMPLETED", "it checks
whether it has becomes NOTIFIED", "Otherwise it is marked as IDLE", "waken up by a waker"),
or a drop. Handing the task from one owner to another (a push, a pop) is no move at all.

## Key results

- `OwnStep.ok`: every move keeps the ownership law `OwnView.Ok`: at most one owner, none
  once the task is `IDLE`, `COMPLETED` or dropped, and exactly one while it is `NOTIFIED`
  or `POLLING`.
- `OwnStep.status_next`: the status only moves along the edges of that comment.
- `OwnStep.eq_of_completed`, `OwnStep.dropped`: nothing moves a completed task, and a
  dropped task stays dropped.

`Ownership.lean` shows that every step of the threads moves each task by one `OwnStep`.
-/

namespace Yatp.Future

/-! ## §1 The view and its law -/

/-- One task as its owners see it. -/
structure OwnView where
  status : Status
  dropped : Bool
  /-- Owners for which the status must be `NOTIFIED`. -/
  waiting : Nat
  /-- `handle` calls inside the window from the store of `POLLING` to the compare-exchange. -/
  running : Nat
  deriving DecidableEq, Repr

namespace OwnView

/-- The task can still be polled: not dropped, and `NOTIFIED` or `POLLING`. -/
def active (v : OwnView) : Bool :=
  !v.dropped && (v.status == .notified || v.status == .polling)

/-- The ownership law of one task. -/
structure Ok (v : OwnView) : Prop where
  /-- One owner while the task is active, none otherwise. -/
  count : v.waiting + v.running = if v.active then 1 else 0
  /-- A task is dropped only where nobody polls it and no waker can make it `IDLE`. -/
  dropped : v.dropped = true → v.status = .notified ∨ v.status = .polling
  /-- A waiting owner sees `NOTIFIED`. -/
  waiting : 0 < v.waiting → v.status = .notified

theorem Ok.owners_le_one {v : OwnView} (h : v.Ok) : v.waiting + v.running ≤ 1 := by
  have := h.count; split at this <;> omega

theorem Ok.owners_eq_zero {v : OwnView} (h : v.Ok) (ha : v.active = false) :
    v.waiting + v.running = 0 := by
  simpa [ha] using h.count

end OwnView

/-! ## §2 The moves -/

/-- The moves of one task. -/
inductive OwnStep : OwnView → OwnView → Prop where
  /-- Nothing the owners see changes, or an owner hands the task to another. -/
  | stutter (v : OwnView) : OwnStep v v
  /-- `status.store(POLLING)`: a waiting `handle` call starts a poll. -/
  | startPoll (v : OwnView) : 0 < v.waiting →
      OwnStep v { v with status := .polling, waiting := v.waiting - 1, running := v.running + 1 }
  /-- `status.store(COMPLETED)`, then `handle` returns. -/
  | complete (v : OwnView) : 0 < v.running →
      OwnStep v { v with status := .completed, running := v.running - 1 }
  /-- `compare_exchange(POLLING, IDLE)` succeeds and `handle` returns. -/
  | park (v : OwnView) : v.status = .polling → 0 < v.running →
      OwnStep v { v with status := .idle, running := v.running - 1 }
  /-- `compare_exchange(POLLING, IDLE)` fails with `NOTIFIED`: a repoll or `wake_task`
  follows. -/
  | renotified (v : OwnView) : v.status = .notified → 0 < v.running →
      OwnStep v { v with waiting := v.waiting + 1, running := v.running - 1 }
  /-- `wake_impl` wins `IDLE → NOTIFIED`. -/
  | wakeIdle (v : OwnView) : v.status = .idle →
      OwnStep v { v with status := .notified, waiting := v.waiting + 1 }
  /-- `wake_impl` wins `POLLING → NOTIFIED`. -/
  | wakePolling (v : OwnView) : v.status = .polling → OwnStep v { v with status := .notified }
  /-- The poll panics and unwinding drops the task. -/
  | panic (v : OwnView) : 0 < v.running →
      OwnStep v { v with dropped := true, running := v.running - 1 }
  /-- A waiting owner's `TaskCell` is dropped: a push to a closed pool, a failed upgrade of
  the `WeakRemote`, a destroyed queue. -/
  | drop (v : OwnView) : 0 < v.waiting →
      OwnStep v { v with dropped := true, waiting := v.waiting - 1 }

/-- The edges of the status diagram in the comment above `NOTIFIED`: a notified task is
polled, a polled one completes, is notified again or goes idle, and an idle one is
notified. A task woken during its last poll goes from `NOTIFIED` to `COMPLETED`. -/
def Status.next : Status → Status → Bool
  | .notified, .polling | .polling, .completed | .notified, .completed | .polling, .notified
  | .polling, .idle | .idle, .notified => true
  | _, _ => false

namespace OwnStep

variable {v v' : OwnView}

/-- Every move keeps the ownership law. -/
theorem ok (h : OwnStep v v') (hv : v.Ok) : v'.Ok := by
  obtain ⟨hc, hd, hw⟩ := hv
  cases h <;> rcases v with ⟨st, d, w, r⟩ <;> cases st <;> cases d <;>
    constructor <;> simp_all [OwnView.active] <;> omega

/-- A dropped task stays dropped. -/
theorem dropped (h : OwnStep v v') (hd : v.dropped = true) : v'.dropped = true := by
  cases h <;> simp [hd]

/-- Nothing moves a completed task. -/
theorem eq_of_completed (h : OwnStep v v') (hv : v.Ok) (hc : v.status = .completed) :
    v' = v := by
  have h0 := hv.owners_eq_zero (by simp [OwnView.active, hc])
  cases h <;> simp_all

/-- A move keeps the status or takes one edge of the diagram. -/
theorem status_next (h : OwnStep v v') (hv : v.Ok) :
    v'.status = v.status ∨ v.status.next v'.status := by
  obtain ⟨hc, -, hw⟩ := hv
  cases h <;> rcases v with ⟨st, d, w, r⟩ <;> cases st <;> cases d <;>
    simp_all [OwnView.active, Status.next]

end OwnStep

end Yatp.Future
