import Yatp.Future.Remote

/-!
# Future Tasks: Dropped Tasks

The code drops a future task without polling it to completion in three places: `wake_task`
out of polling, when `task_remote.upgrade()` fails because the pool is gone; a push to a
queue that takes no more pushes ("Queue push after close → drop task"); and a poll that
panics, which unwinds through `handle` and drops its `Arc<Task>`. The first two leave the
task's pool no longer running, and the log records the third as an `Event.panicked`.

Along a run a pool runs, is closed, and is gone, in this order, and the log only grows; so
the cause of a drop stays on record, and a task whose pool still runs is lost only by a
panicking poll.

## Key results

- `step_dropped`: one step drops a task only by a panicking poll of it, or by a push to, or
  in a queue of, a pool that no longer runs.
- `step_pool`, `step_log`: a pool moves from running to closed to gone, and the log only
  grows.
- `droppedCause_reachable`: in every reachable state a dropped task has its cause on record.
- `owners_law`: a task has at most one owner: none while it is `IDLE` or `COMPLETED`, one
  while it is `NOTIFIED` or `POLLING`, and none once it was dropped, which then has its
  cause on record and stays dropped.
- `no_task_lost`: along a run in which no poll panics, a task whose pool still runs is not
  dropped.
-/

namespace Yatp.Future

open State

variable {s s' : State} {i : ThreadId}

/-! ## §1 What one step drops -/

@[simp] theorem State.push_pool (u : TaskId) (q : QueueRef) (b : Bool) :
    (s.push u q b).pool = s.pool := by
  unfold push; split <;> rfl

@[simp] theorem State.push_home (u t : TaskId) (q : QueueRef) (b : Bool) :
    ((s.push u q b).task t).home = (s.task t).home := by
  unfold push; split
  · rfl
  · by_cases ht : t = u <;> simp [ht]

/-- A push drops only the pushed task, and only where the queue takes no push. -/
theorem State.push_dropped {u t : TaskId} {q : QueueRef} {b : Bool}
    (hd : ((s.push u q b).task t).dropped = true) :
    (s.task t).dropped = true ∨ t = u ∧ s.accepts q = false := by
  unfold push at hd
  split at hd
  · exact .inl hd
  · rename_i h
    by_cases ht : t = u
    · exact .inr ⟨ht, by simpa using h⟩
    · exact .inl (by simpa [ht] using hd)

/-- `wake_task` drops its task only where the pool of the remote no longer runs. -/
theorem wakeTask_dropped {th : Thread} {t : TaskId} {owned r spill : Bool} {s₁ : State}
    (hw : wakeTask s i th t owned r spill = some s₁) (hd : (s₁.task t).dropped = true) :
    (s.task t).dropped = true ∨ ∃ p, (s.task t).remote = some p ∧ s.pool p ≠ .running := by
  cases hr : (s.task t).remote with
  | none => rw [wakeTask_eq_none.2 hr] at hw; cases hw
  | some p =>
    by_cases hp : s.pool p = .running
    · left
      have hg : s.pool p ≠ .gone := by rw [hp]; decide
      unfold wakeTask at hw
      simp only [hr, hg, if_false] at hw
      -- every push goes to the injector of the running pool `p` or to a local queue
      split at hw
      · cases owned <;> simp [push, accepts, hp] at hw <;> subst hw <;> simpa using hd
      · cases owned <;> cases r <;> cases spill <;> simp [push, accepts, hp] at hw <;> subst hw <;>
          simpa using hd
    · exact .inr ⟨p, rfl, hp⟩

theorem State.returnWaker_pool (o : OpFrame) : (s.returnWaker o).pool = s.pool := by
  simp only [returnWaker]; split <;> rfl

theorem State.returnWaker_dropped (o : OpFrame) (t : TaskId) :
    ((s.returnWaker o).task t).dropped = (s.task t).dropped := by
  simp only [returnWaker]; split
  · by_cases ht : t = o.task <;> simp [ht]
  · rfl

theorem State.endWake_dropped (th : Thread) (o : OpFrame) (t : TaskId) :
    ((s.endWake i th o).task t).dropped = (s.task t).dropped := by
  simp only [endWake, setThread_task]; split
  · by_cases ht : t = o.task <;> simp [ht]
  · exact returnWaker_dropped o t

/-- `wake_task` drops a task only where its pool no longer runs; the pool and the task's
pool are those of the state after the call. -/
theorem WakeTaskEffect.dropped {s₁ : State} {th : Thread} {u t : TaskId} {owned r spill : Bool}
    {q : QueueRef} {e : Event} (hsR : Reachable s) (hw : wakeTask s i th u owned r spill = some s₁)
    (he : WakeTaskEffect s s₁ u owned q e) (hd : (s₁.task t).dropped = true) :
    (s.task t).dropped = true ∨ ∃ p, (s₁.task t).home = some p ∧ s₁.pool p ≠ .running := by
  by_cases ht : t = u
  · subst ht
    rcases wakeTask_dropped hw hd with hd | ⟨p, hr, hp⟩
    · exact .inl hd
    · refine .inr ⟨p, ?_, he.pool ▸ hp⟩
      rw [show (s₁.task t).home = (s.task t).home from congrArg PoolView.home (he.poolView_eq t)]
      rcases (remoteInv_reachable hsR t).task.remote with h | h <;> rw [hr] at h
      · cases h
      · exact h.symm
  · exact .inl (he.other t ht ▸ hd)

/-- One step drops a task only by a poll of it that panics, which the log records, or by a
push to, or in a queue of, a pool that no longer runs. -/
theorem step_dropped {a : Action} {t : TaskId} (hsR : Reachable s) (hs : step s a = some s')
    (hd : (s'.task t).dropped = true) :
    (s.task t).dropped = true ∨ (∃ p, (s'.task t).home = some p ∧ s'.pool p ≠ .running) ∨
      ∃ i, a = .pollPanic i ∧ s'.log = .panicked i t :: s.log := by
  unfold step at hs
  split_ifs at hs
  cases a with
  | spawn u p =>
    obtain ⟨_, rfl⟩ := spawn_some hs
    rcases push_dropped hd with hd | ⟨rfl, hacc⟩
    · exact .inl (by by_cases ht : t = u <;> simpa [ht] using hd)
    · refine .inr (.inl ⟨p, by rw [push_home]; simp, ?_⟩)
      rw [push_pool]; simpa [accepts] using hacc
  | pop i q u => obtain ⟨_, _, -, -, -, -, -, -, -, rfl⟩ := pop_some hs; exact .inl hd
  | storePolling i =>
    obtain ⟨_, h, -, -, -, rfl⟩ := storePolling_some hs
    exact .inl (by by_cases ht : t = h.task <;> simpa [ht] using hd)
  | reschedule i => obtain ⟨_, _, -, -, -, -, rfl⟩ := reschedule_some hs; exact .inl hd
  | pollReady i =>
    obtain ⟨_, h, -, -, -, -, -, rfl⟩ := pollReady_some hs
    exact .inl (by by_cases ht : t = h.task <;> simpa [ht] using hd)
  | pollPending i =>
    obtain ⟨_, _, -, -, -, -, -, rfl⟩ := pollPending_some hs; exact .inl hd
  | pollPanic i =>
    obtain ⟨_, h, -, -, -, -, -, rfl⟩ := pollPanic_some hs
    by_cases ht : t = h.task
    · exact .inr (.inr ⟨i, rfl, by rw [ht]; rfl⟩)
    · exact .inl (by simpa [ht] using hd)
  | ensureRemote i =>
    obtain ⟨_, h, -, -, -, ⟨-, rfl⟩ | ⟨w, -, -, rfl⟩ | ⟨-, -, rfl⟩⟩ := ensureRemote_some hs
    · exact .inl hd
    · exact .inl (by by_cases ht : t = h.task <;> simpa [ht] using hd)
    · exact .inl hd
  | casIdle i b =>
    obtain ⟨_, h, -, -, -, ⟨-, rfl⟩ | ⟨-, rfl⟩ | ⟨-, -, rfl⟩⟩ := casIdle_some hs
    · exact .inl (by by_cases ht : t = h.task <;> simpa [ht] using hd)
    all_goals exact .inl hd
  | preempt i b =>
    obtain ⟨th, h, r, -, -, -, ⟨s₁, hw, rfl⟩ | ⟨-, rfl⟩⟩ := preempt_some hs
    · obtain ⟨q, e, -, he, -⟩ := wakeTask_some_effect hw
      exact (he.dropped hsR hw hd).imp_right .inl
    · exact .inl hd
  | cloneRaw i u src | wakeRaw i u | wakeRefRaw i u src =>
    obtain ⟨_, -, -, -, -, rfl⟩ := startCall_some hs
    refine .inl ?_
    split at hd
    · by_cases ht : t = u <;> simpa [ht] using hd
    · exact hd
  | dropRaw u =>
    obtain ⟨_, rfl⟩ := dropRaw_some hs
    exact .inl (by by_cases ht : t = u <;> simpa [ht] using hd)
  | cloneTaskCheck i =>
    obtain ⟨_, o, -, -, -, ⟨-, rfl⟩ | ⟨-, rfl⟩⟩ := cloneTaskCheck_some hs
    · exact .inl (by by_cases ht : t = o.task <;> simpa [ht] using hd)
    · exact .inl hd
  | cloneTaskSet i =>
    obtain ⟨_, o, -, -, -, ⟨w, -, rfl⟩ | ⟨-, rfl⟩⟩ := cloneTaskSet_some hs
    · exact .inl (by by_cases ht : t = o.task <;> simpa [ht] using hd)
    · exact .inl hd
  | wakeImplLoad i => obtain ⟨_, _, -, -, -, rfl⟩ := wakeImplLoad_some hs; exact .inl hd
  | wakeImplCas i b =>
    obtain ⟨_, o, -, -, -, -, ⟨-, -, rfl⟩ | ⟨-, -, rfl⟩ | ⟨-, -, rfl⟩ | rfl⟩ := wakeImplCas_some hs
    · exact .inl (by by_cases ht : t = o.task <;> simpa [ht] using hd)
    · rw [endWake_dropped] at hd
      exact .inl (by by_cases ht : t = o.task <;> simpa [ht] using hd)
    · exact .inl (by rwa [endWake_dropped] at hd)
    · exact .inl hd
  | wakeImplWakeTask i b =>
    obtain ⟨th, o, -, -, -, ⟨s₁, hw, rfl⟩ | ⟨-, rfl⟩⟩ := wakeImplWakeTask_some hs
    · obtain ⟨q, e, -, he, -⟩ := wakeTask_some_effect hw
      rw [setThread_task, returnWaker_dropped] at hd
      rcases he.dropped hsR hw hd with hd | ⟨p, hh, hp⟩
      · exact .inl hd
      · refine .inr (.inl ⟨p, ?_, ?_⟩)
        · rwa [setThread_task, show ((s₁.returnWaker o).task t).home = (s₁.task t).home from
            congrArg PoolView.home (returnWaker_poolView o t)]
        · rwa [setThread_pool, returnWaker_pool]
    · exact .inl hd
  | close p => obtain ⟨_, rfl⟩ := close_some hs; exact .inl hd
  | destroy p => obtain ⟨_, -, rfl⟩ := destroy_some hs; exact .inl hd
  | dropQueued q u =>
    obtain ⟨hq, hg, rfl⟩ := dropQueued_some hs
    by_cases ht : t = u
    · subst ht
      refine .inr (.inl ⟨q.pool, by simpa using (remoteInv_reachable hsR t).queue q hq, ?_⟩)
      simp [hg]
    · exact .inl (by simpa [ht] using hd)

/-! ## §2 The pools and the log only move forward -/

theorem State.endWake_pool (th : Thread) (o : OpFrame) : (s.endWake i th o).pool = s.pool := by
  simp only [endWake, setThread_pool]; split
  · rfl
  · exact returnWaker_pool o

/-- A pool runs, then is closed by `shutdown`, then is gone once its core is freed; a step
moves it along one edge at most. -/
theorem step_pool {a : Action} (hs : step s a = some s') (p : PoolId) :
    s'.pool p = s.pool p ∨ (s.pool p = .running ∧ s'.pool p = .closed) ∨
      (s.pool p = .closed ∧ s'.pool p = .gone) := by
  unfold step at hs
  split_ifs at hs
  cases a with
  | spawn u p => obtain ⟨-, rfl⟩ := spawn_some hs; exact .inl (by rw [push_pool]; rfl)
  | pop i q u => obtain ⟨-, -, -, -, -, -, -, -, -, rfl⟩ := pop_some hs; exact .inl rfl
  | storePolling i => obtain ⟨-, -, -, -, -, rfl⟩ := storePolling_some hs; exact .inl rfl
  | reschedule i => obtain ⟨-, -, -, -, -, -, rfl⟩ := reschedule_some hs; exact .inl rfl
  | pollReady i => obtain ⟨-, -, -, -, -, -, -, rfl⟩ := pollReady_some hs; exact .inl rfl
  | pollPending i => obtain ⟨-, -, -, -, -, -, -, rfl⟩ := pollPending_some hs; exact .inl rfl
  | pollPanic i => obtain ⟨-, -, -, -, -, -, -, rfl⟩ := pollPanic_some hs; exact .inl rfl
  | ensureRemote i =>
    obtain ⟨-, -, -, -, -, ⟨-, rfl⟩ | ⟨-, -, -, rfl⟩ | ⟨-, -, rfl⟩⟩ := ensureRemote_some hs <;>
      exact .inl rfl
  | casIdle i b =>
    obtain ⟨-, -, -, -, -, ⟨-, rfl⟩ | ⟨-, rfl⟩ | ⟨-, -, rfl⟩⟩ := casIdle_some hs <;> exact .inl rfl
  | preempt i b =>
    obtain ⟨th, h, r, -, -, -, ⟨s₁, hw, rfl⟩ | ⟨-, rfl⟩⟩ := preempt_some hs
    · obtain ⟨q, e, -, he, -⟩ := wakeTask_some_effect hw
      exact .inl (congrFun he.pool p)
    · exact .inl rfl
  | cloneRaw i u src | wakeRaw i u | wakeRefRaw i u src =>
    obtain ⟨-, -, -, -, -, rfl⟩ := startCall_some hs
    exact .inl (by split <;> rfl)
  | dropRaw u => obtain ⟨-, rfl⟩ := dropRaw_some hs; exact .inl rfl
  | cloneTaskCheck i =>
    obtain ⟨-, -, -, -, -, ⟨-, rfl⟩ | ⟨-, rfl⟩⟩ := cloneTaskCheck_some hs <;> exact .inl rfl
  | cloneTaskSet i =>
    obtain ⟨-, -, -, -, -, ⟨-, -, rfl⟩ | ⟨-, rfl⟩⟩ := cloneTaskSet_some hs <;> exact .inl rfl
  | wakeImplLoad i => obtain ⟨-, -, -, -, -, rfl⟩ := wakeImplLoad_some hs; exact .inl rfl
  | wakeImplCas i b =>
    obtain ⟨th, o, -, -, -, -, ⟨-, -, rfl⟩ | ⟨-, -, rfl⟩ | ⟨-, -, rfl⟩ | rfl⟩ := wakeImplCas_some hs
    · exact .inl rfl
    · exact .inl (by rw [endWake_pool]; rfl)
    · exact .inl (by rw [endWake_pool])
    · exact .inl rfl
  | wakeImplWakeTask i b =>
    obtain ⟨th, o, -, -, -, ⟨s₁, hw, rfl⟩ | ⟨-, rfl⟩⟩ := wakeImplWakeTask_some hs
    · obtain ⟨q, e, -, he, -⟩ := wakeTask_some_effect hw
      exact .inl (by rw [setThread_pool, returnWaker_pool, he.pool])
    · exact .inl rfl
  | close p' =>
    obtain ⟨hr, rfl⟩ := close_some hs
    by_cases hp : p = p'
    · subst hp; exact .inr (.inl ⟨hr, by simp⟩)
    · exact .inl (by simp [hp])
  | destroy p' =>
    obtain ⟨hc, -, rfl⟩ := destroy_some hs
    by_cases hp : p = p'
    · subst hp; exact .inr (.inr ⟨hc, by simp⟩)
    · exact .inl (by simp [hp])
  | dropQueued q u => obtain ⟨-, -, rfl⟩ := dropQueued_some hs; exact .inl rfl

/-- A pool that runs after a step ran before it. -/
theorem step_pool_running {a : Action} (hs : step s a = some s') {p : PoolId}
    (h : s'.pool p = .running) : s.pool p = .running := by
  rcases step_pool hs p with e | ⟨hr, -⟩ | ⟨-, hg⟩
  · exact e ▸ h
  · exact hr
  · rw [h] at hg; cases hg

/-- A pool that runs at the end of a run ran all along. -/
theorem run_pool_running {as : List Action} (hrun : run s as = some s') {p : PoolId}
    (h : s'.pool p = .running) : s.pool p = .running := by
  induction as generalizing s with
  | nil => simp only [run, Option.some.injEq] at hrun; subst hrun; exact h
  | cons a as ih =>
    obtain ⟨s₁, h₁, h₂⟩ := Option.bind_eq_some.1 hrun
    exact step_pool_running h₁ (ih h₂)

@[simp] theorem State.returnWaker_log (o : OpFrame) : (s.returnWaker o).log = s.log := by
  simp only [returnWaker]; split <;> rfl

@[simp] theorem State.endWake_log (th : Thread) (o : OpFrame) : (s.endWake i th o).log = s.log := by
  simp only [endWake, setThread_log]; split
  · rfl
  · exact returnWaker_log o

theorem State.push_log (u : TaskId) (q : QueueRef) (b : Bool) : s.log <:+ (s.push u q b).log := by
  unfold push; split
  · exact List.suffix_cons _ _
  · exact List.suffix_refl _

theorem WakeTaskEffect.log_suffix {s₁ : State} {u : TaskId} {owned : Bool} {q : QueueRef}
    {e : Event} (he : WakeTaskEffect s s₁ u owned q e) : s.log <:+ s₁.log := by
  rcases he.result with ⟨-, -, -, h⟩ | ⟨-, -, h⟩ <;> rw [h]
  · exact (List.suffix_cons _ _).trans (List.suffix_cons _ _)
  · exact List.suffix_cons _ _

/-- The log only grows: a step adds events in front of it. -/
theorem step_log {a : Action} (hs : step s a = some s') : s.log <:+ s'.log := by
  have hrefl := List.suffix_refl s.log
  have hcons := fun e => List.suffix_cons e s.log
  unfold step at hs
  split_ifs at hs
  cases a with
  | spawn u p => obtain ⟨-, rfl⟩ := spawn_some hs; exact push_log (s := s.setTask u _) ..
  | pop i q u => obtain ⟨-, -, -, -, -, -, -, -, -, rfl⟩ := pop_some hs; exact hrefl
  | storePolling i => obtain ⟨-, -, -, -, -, rfl⟩ := storePolling_some hs; exact hrefl
  | reschedule i => obtain ⟨-, -, -, -, -, -, rfl⟩ := reschedule_some hs; exact hrefl
  | pollReady i => obtain ⟨-, -, -, -, -, -, -, rfl⟩ := pollReady_some hs; exact hcons _
  | pollPending i => obtain ⟨-, -, -, -, -, -, -, rfl⟩ := pollPending_some hs; exact hrefl
  | pollPanic i => obtain ⟨-, -, -, -, -, -, -, rfl⟩ := pollPanic_some hs; exact hcons _
  | ensureRemote i =>
    obtain ⟨-, -, -, -, -, ⟨-, rfl⟩ | ⟨-, -, -, rfl⟩ | ⟨-, -, rfl⟩⟩ := ensureRemote_some hs <;>
      exact hrefl
  | casIdle i b =>
    obtain ⟨-, -, -, -, -, ⟨-, rfl⟩ | ⟨-, rfl⟩ | ⟨-, -, rfl⟩⟩ := casIdle_some hs
    · exact hcons _
    all_goals exact hrefl
  | preempt i b =>
    obtain ⟨th, h, r, -, -, -, ⟨s₁, hw, rfl⟩ | ⟨-, rfl⟩⟩ := preempt_some hs
    · obtain ⟨q, e, -, he, -⟩ := wakeTask_some_effect hw
      exact he.log_suffix.trans (List.suffix_cons _ _)
    · exact hrefl
  | cloneRaw i u src | wakeRaw i u | wakeRefRaw i u src =>
    obtain ⟨-, -, -, -, -, rfl⟩ := startCall_some hs
    split <;> exact hrefl
  | dropRaw u => obtain ⟨-, rfl⟩ := dropRaw_some hs; exact hrefl
  | cloneTaskCheck i =>
    obtain ⟨-, -, -, -, -, ⟨-, rfl⟩ | ⟨-, rfl⟩⟩ := cloneTaskCheck_some hs <;> exact hrefl
  | cloneTaskSet i =>
    obtain ⟨-, -, -, -, -, ⟨-, -, rfl⟩ | ⟨-, rfl⟩⟩ := cloneTaskSet_some hs <;> exact hrefl
  | wakeImplLoad i => obtain ⟨-, -, -, -, -, rfl⟩ := wakeImplLoad_some hs; exact hrefl
  | wakeImplCas i b =>
    obtain ⟨th, o, -, -, -, -, ⟨-, -, rfl⟩ | ⟨-, -, rfl⟩ | ⟨-, -, rfl⟩ | rfl⟩ := wakeImplCas_some hs
    · exact hrefl
    · rw [endWake_log]; exact hrefl
    · rw [endWake_log]
    · exact hrefl
  | wakeImplWakeTask i b =>
    obtain ⟨th, o, -, -, -, ⟨s₁, hw, rfl⟩ | ⟨-, rfl⟩⟩ := wakeImplWakeTask_some hs
    · obtain ⟨q, e, -, he, -⟩ := wakeTask_some_effect hw
      rw [setThread_log, returnWaker_log]; exact he.log_suffix
    · exact hrefl
  | close p => obtain ⟨-, rfl⟩ := close_some hs; exact hrefl
  | destroy p => obtain ⟨-, -, rfl⟩ := destroy_some hs; exact hrefl
  | dropQueued q u => obtain ⟨-, -, rfl⟩ := dropQueued_some hs; exact hrefl

/-! ## §3 Why a task is dropped -/

/-- The cause of a drop of `t` is on record: the log holds the unwinding of a `handle` call
on `t` from a panicking poll, or the pool `t` was spawned into no longer runs, so that a
`WeakRemote` of it fails to upgrade or its injector takes no push. -/
def DroppedCause (s : State) (t : TaskId) : Prop :=
  (s.task t).dropped = true →
    (∃ i, Event.panicked i t ∈ s.log) ∨ ∃ p, (s.task t).home = some p ∧ s.pool p ≠ .running

theorem step_droppedCause {a : Action} {t : TaskId} (hsR : Reachable s)
    (hs : step s a = some s') (h : DroppedCause s t) : DroppedCause s' t := by
  intro hd
  rcases step_dropped hsR hs hd with hd | hp | ⟨i, -, hl⟩
  · rcases h hd with ⟨i, hi⟩ | ⟨p, hh, hp⟩
    · exact .inl ⟨i, (step_log hs).subset hi⟩
    · have hh' := (step_poolView_le hsR hs t).1
      simp only [poolView, hh, reduceCtorEq, false_or] at hh'
      exact .inr ⟨p, hh', fun hr => hp (step_pool_running hs hr)⟩
  · exact .inr hp
  · exact .inl ⟨i, hl ▸ List.mem_cons_self _ _⟩

theorem droppedCause_reachable {s : State} (hs : Reachable s) (t : TaskId) : DroppedCause s t := by
  induction hs with
  | init ths => intro hd; simp [State.init, TaskState.new] at hd
  | step a hsR hstep ih => exact step_droppedCause hsR hstep ih

/-! ## §4 The owners of a task -/

/-- In every reachable state a task has at most one owner: none while it is `IDLE` or
`COMPLETED`, exactly one while it is `NOTIFIED` or `POLLING`, and none once it was
dropped. A dropped task has its cause on record (a panicking poll of it, or its pool no
longer running), and stays dropped. -/
theorem owners_law {s : State} (hs : Reachable s) (t : TaskId) :
    s.owners t ≤ 1 ∧
    ((s.task t).status = .idle ∨ (s.task t).status = .completed → s.owners t = 0) ∧
    ((s.task t).dropped = false →
      (s.task t).status = .notified ∨ (s.task t).status = .polling → s.owners t = 1) ∧
    ((s.task t).dropped = true →
      s.owners t = 0 ∧
      ((∃ i, Event.panicked i t ∈ s.log) ∨
        ∃ p, (s.task t).home = some p ∧ s.pool p ≠ .running) ∧
      ∀ a s', step s a = some s' → (s'.task t).dropped = true) := by
  obtain ⟨hc, -, -⟩ := ownView_ok hs t
  rw [← owners_eq_ownView] at hc
  simp only [OwnView.active, ownView_eq] at hc
  refine ⟨by split at hc <;> omega, fun h => ?_, fun hd h => ?_,
    fun hd => ⟨?_, droppedCause_reachable hs t hd, ?_⟩⟩
  · rcases h with h | h <;> simpa [h] using hc
  · rcases h with h | h <;> simpa [h, hd] using hc
  · simpa [hd] using hc
  · exact fun a s' hstep => (step_ownStep hstep t).dropped hd

/-- Task `0` is parked `IDLE` after its first poll; a thread outside every pool then wins
`IDLE → NOTIFIED` through a raw waker and has not called `wake_task` yet: that wake is the
one owner of the `NOTIFIED` task. -/
theorem owners_law_raced :
    ∃ s, run (State.init [(.worker ⟨0, 0⟩, 5), (.external, 5)])
        [.spawn 0 0, .pop 0 (.injector 0) 0, .storePolling 0, .cloneRaw 0 0 (.context 0),
          .cloneTaskCheck 0, .cloneTaskSet 0, .pollPending 0, .ensureRemote 0, .casIdle 0 true,
          .wakeRefRaw 1 0 .raw, .wakeImplLoad 1, .wakeImplCas 1 false] = some s ∧
      (s.task 0).status = .notified ∧ s.owners 0 = 1 ∧
      (s.owners 0 ≤ 1 ∧
        ((s.task 0).status = .idle ∨ (s.task 0).status = .completed → s.owners 0 = 0) ∧
        ((s.task 0).dropped = false →
          (s.task 0).status = .notified ∨ (s.task 0).status = .polling → s.owners 0 = 1) ∧
        ((s.task 0).dropped = true →
          s.owners 0 = 0 ∧
          ((∃ i, Event.panicked i 0 ∈ s.log) ∨
            ∃ p, (s.task 0).home = some p ∧ s.pool p ≠ .running) ∧
          ∀ a s', step s a = some s' → (s'.task 0).dropped = true)) := by
  obtain ⟨s, hrun, hst, ho⟩ : ∃ s, run (State.init [(.worker ⟨0, 0⟩, 5), (.external, 5)])
      [.spawn 0 0, .pop 0 (.injector 0) 0, .storePolling 0, .cloneRaw 0 0 (.context 0),
        .cloneTaskCheck 0, .cloneTaskSet 0, .pollPending 0, .ensureRemote 0, .casIdle 0 true,
        .wakeRefRaw 1 0 .raw, .wakeImplLoad 1, .wakeImplCas 1 false] = some s ∧
      (s.task 0).status = .notified ∧ s.owners 0 = 1 := ⟨_, rfl, rfl, rfl⟩
  exact ⟨s, hrun, hst, ho, owners_law ((Reachable.init _).run hrun) 0⟩

/-! ## §5 No task is lost -/

/-- No task is lost: along a run in which no poll panics, a task whose pool still runs at
the end was not dropped. -/
theorem no_task_lost {as : List Action} {t : TaskId} {p : PoolId} (hsR : Reachable s)
    (hrun : run s as = some s') (hpanic : ∀ i, Action.pollPanic i ∉ as)
    (hd : (s.task t).dropped = false) (hh : (s'.task t).home = some p)
    (hp : s'.pool p = .running) : (s'.task t).dropped = false := by
  induction as generalizing s with
  | nil => simp only [run, Option.some.injEq] at hrun; subst hrun; exact hd
  | cons a as ih =>
    obtain ⟨s₁, h₁, h₂⟩ := Option.bind_eq_some.1 hrun
    refine ih (.step a hsR h₁) h₂ (fun i hi => hpanic i (.tail a hi)) ?_
    cases hd₁ : (s₁.task t).dropped
    · rfl
    rcases step_dropped hsR h₁ hd₁ with hd' | ⟨p', hh', hp'⟩ | ⟨i, rfl, -⟩
    · rw [hd] at hd'; cases hd'
    · have hle := (run_poolView_le (.step a hsR h₁) h₂ t).1
      simp only [poolView, hh'] at hle
      rcases hle with hle | hle
      · cases hle
      · rw [hh, Option.some.injEq] at hle
        exact absurd (run_pool_running h₂ (hle ▸ hp)) hp'
    · exact absurd (.head _) (hpanic i)

/-- A task parked `IDLE` after its first poll, in a pool that runs. -/
theorem no_task_lost_parked :
    ∃ s, run (State.init [(.worker ⟨0, 0⟩, 5)])
        [.spawn 0 0, .pop 0 (.injector 0) 0, .storePolling 0, .pollPending 0, .ensureRemote 0,
          .casIdle 0 true] = some s ∧
      (s.task 0).home = some 0 ∧ s.pool 0 = .running ∧ (s.task 0).dropped = false := by
  obtain ⟨s, hrun, hh, hp⟩ : ∃ s, run (State.init [(.worker ⟨0, 0⟩, 5)])
      [.spawn 0 0, .pop 0 (.injector 0) 0, .storePolling 0, .pollPending 0, .ensureRemote 0,
        .casIdle 0 true] = some s ∧ (s.task 0).home = some 0 ∧ s.pool 0 = .running :=
    ⟨_, rfl, rfl, rfl⟩
  exact ⟨s, hrun, hh, hp, no_task_lost (.init _) hrun (by simp) rfl hh hp⟩


end Yatp.Future
