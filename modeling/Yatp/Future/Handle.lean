import Yatp.Future.Remote

/-!
# Future Tasks: One Call of `Runner::handle`

The loop of `Runner::handle` polls its task until the poll returns `Ready`, the
compare-exchange `POLLING → IDLE` succeeds, or, after a poll during which the task was woken,
`need_preempt()` tells it to give the task back through `wake_task`. A thread's
`NEED_RESCHEDULE` flag (set by `reschedule()`) makes the loop ask `need_preempt()` before
the repoll limit is reached.

## Key results

- `handle_law`: a call polls at most `repoll_limit + 1 + f` times, `f` the `need_preempt()`
  calls that returned `false`; it completes the task and returns `true` after a `Ready` poll
  and returns `false` after it parks the task; on `NOTIFIED` it takes the flag, and the
  preemption path calls `wake_task` once, through `spawn_remote` to the injector exactly when
  the flag it took was set and through `spawn` to the worker's local queue otherwise.
- `ready_after_wake`: a poll that returns `Ready` after waking its own task ends the call
  with `true` and no call of `wake_task`.
- `need_reschedule_stale`: a poll that polls `Reschedule` and then returns `Ready` leaves
  the flag set on the worker outside every poll; the next task that wakes itself there is
  sent to the injector.
-/

namespace Yatp.Future

open State

variable {s s' : State} {i : ThreadId} {th : Thread} {h : HandleFrame}

/-! ## §1 The call -/

/-- What one `handle` call of thread `i` (in state `th`, at frame `h`) does next. -/
structure HandleLaw (s : State) (i : ThreadId) (th : Thread) (h : HandleFrame) : Prop where
  /-- The call polls at most `L + 1 + f` times. -/
  polls : h.polls ≤ th.repollLimit + 1 + h.preemptFalse
  /-- A poll that returns `Ready` leaves the task `COMPLETED` and ends the call with `true`. -/
  ready : ∀ s', pollReady s i = some s' →
    (s'.task h.task).status = .completed ∧ s'.log = .returned i h.task true :: s.log
  /-- A compare-exchange that finds `POLLING` parks the task and ends the call with
  `false`. -/
  idle : ∀ b s', casIdle s i b = some s' → (s.task h.task).status = .polling →
    s'.log = .returned i h.task false :: s.log
  /-- On `NOTIFIED` the call takes `NEED_RESCHEDULE` and repolls or preempts with it. -/
  notified : ∀ b s', casIdle s i b = some s' → (s.task h.task).status = .notified →
    ∃ th', s'.threads[i]? = some th' ∧ th'.needReschedule = false ∧
      th'.handle = some (h.onNotified th.repollLimit th.needReschedule b)
  /-- The preemption path calls `wake_task` once, then ends the call with `false`. The
  task's remote is the pool of the worker `w` that runs the call; `wake_task` routes through
  `spawn_remote`, to that pool's injector, exactly when the flag it took was set, and through
  `spawn`, to `w`'s local queue (the injector when that overflows), otherwise. The push
  drops the task only where the queue takes no push. -/
  preempt : ∀ r spill s', h.pc = .wakeTask r → preempt s i spill = some s' →
    ∃ w q, th.role = .worker w ∧ (s.task h.task).remote = some w.pool ∧
      q = (if r || spill then .injector w.pool else .localQueue w) ∧
      (s.accepts q = true → s'.queue = (q, h.task) :: s.queue ∧
        s'.log = .returned i h.task false ::
          .wakeTask i h.task r (if r then .spawnRemote else .spawnLocal) ::
          .push h.task q false :: s.log) ∧
      (s.accepts q = false → s'.queue = s.queue ∧ (s'.task h.task).dropped = true ∧
        s'.log = .returned i h.task false ::
          .wakeTask i h.task r (if r then .spawnRemote else .spawnLocal) :: s.log)

/-- The preemption path of a reachable state: the task's remote is the pool of the worker,
so `wake_task` finds `LOCAL` in that pool and routes by the flag alone. -/
theorem preempt_route (hs : Reachable s) (hi : s.threads[i]? = some th) (hh : th.handle = some h)
    {r spill : Bool} (hpc : h.pc = .wakeTask r) (hs' : preempt s i spill = some s') :
    ∃ w, th.role = .worker w ∧ (s.task h.task).remote = some w.pool ∧
      s' = ((s.push h.task (if r || spill then .injector w.pool else .localQueue w) false).record
        (.wakeTask i h.task r (if r then .spawnRemote else .spawnLocal))).endHandle
          i th h.task false := by
  have hp := (remoteInv_reachable hs h.task).threads i th hi
  have hrem := (hp.handle h hh rfl).2 (.inr ⟨r, hpc⟩)
  obtain ⟨w, hrole, hhome⟩ := (hp.handle h hh rfl).1
  have hr : (s.task h.task).remote = some w.pool := by
    rcases (remoteInv_reachable hs h.task).task.remote with e | e
    · exact absurd e hrem
    · rw [e, hhome]
  obtain ⟨w', hrole', hl⟩ := (threadsWF_reachable hs i th hi).localPtr_of_handle hh
  rw [hrole] at hrole'; cases hrole'
  obtain ⟨th', hd, r', hi', hh', hpc', ⟨s₁, hw, rfl⟩ | ⟨hw, -⟩⟩ := preempt_some hs'
  all_goals rw [hi] at hi'; cases hi'; rw [hh] at hh'; cases hh'; rw [hpc] at hpc'; cases hpc'
  · exact ⟨w, hrole, hr, by rw [wakeTask_local hr (by simp [Thread.localIn, hl]) hw]⟩
  · exact absurd (wakeTask_eq_none.1 hw) hrem

/-- Every `handle` call of every reachable state keeps to `HandleLaw`. -/
theorem handle_law (hs : Reachable s) (hi : s.threads[i]? = some th) (hh : th.handle = some h) :
    HandleLaw s i th h := by
  refine ⟨((threadsWF_reachable hs i th hi).bounded h hh).polls_le, fun s' hs' => ?_,
    fun b s' hs' hst => ?_, fun b s' hs' hst => ?_, fun r spill s' hpc hs' => ?preempt⟩
  · obtain ⟨th', hd, hi', hh', -, -, -, rfl⟩ := pollReady_some hs'
    rw [hi] at hi'; cases hi'; rw [hh] at hh'; cases hh'
    simp
  case preempt =>
    obtain ⟨w, hrole, hr, rfl⟩ := preempt_route hs hi hh hpc hs'
    exact ⟨w, _, hrole, hr, rfl, fun hq => by rw [push, if_pos hq]; simp,
      fun hq => by rw [push, if_neg (by rw [hq]; decide)]; simp⟩
  all_goals
    obtain ⟨th', hd, hi', hh', -, ⟨hst', rfl⟩ | ⟨hst', rfl⟩ | ⟨hst', hst'', rfl⟩⟩ := casIdle_some hs'
    all_goals rw [hi] at hi'; cases hi'; rw [hh] at hh'; cases hh'
  · rfl
  · rw [hst] at hst'; cases hst'
  · exact absurd hst hst'
  · rw [hst] at hst'; cases hst'
  · refine ⟨{ th with handle := some (h.onNotified th.repollLimit th.needReschedule b)
                      needReschedule := false }, ?_, rfl, rfl⟩
    simp [List.getElem?_set_self', hi]
  · exact absurd hst hst''

/-- Task `0` calls `reschedule()`, which wakes it by reference, and its poll returns
`Pending`; `handle` finds `NOTIFIED`, takes the flag, and `need_preempt()` says yes: the call
is about to give the task back through `wake_task` with `reschedule`. -/
theorem handle_law_run :
    ∃ s th h, run (State.init [(.worker ⟨0, 0⟩, 5), (.external, 5)])
        [.spawn 0 0, .pop 0 (.injector 0) 0, .storePolling 0, .reschedule 0,
          .wakeRefRaw 0 0 (.context 0), .wakeImplLoad 0, .wakeImplCas 0 false, .pollPending 0,
          .ensureRemote 0, .casIdle 0 true] = some s ∧
      s.threads[0]? = some th ∧ th.handle = some h ∧ h.pc = .wakeTask true ∧
      HandleLaw s 0 th h := by
  obtain ⟨s, th, h, hrun, hi, hh, hpc⟩ : ∃ s th h,
      run (State.init [(.worker ⟨0, 0⟩, 5), (.external, 5)])
        [.spawn 0 0, .pop 0 (.injector 0) 0, .storePolling 0, .reschedule 0,
          .wakeRefRaw 0 0 (.context 0), .wakeImplLoad 0, .wakeImplCas 0 false, .pollPending 0,
          .ensureRemote 0, .casIdle 0 true] = some s ∧
      s.threads[0]? = some th ∧ th.handle = some h ∧ h.pc = .wakeTask true :=
    ⟨_, _, _, rfl, rfl, rfl, rfl⟩
  exact ⟨s, th, h, hrun, hi, hh, hpc, handle_law ((Reachable.init _).run hrun) hi hh⟩

/-- The task wakes itself through the context waker, and its poll then returns `Ready`:
`handle` returns `true`, and nothing calls `wake_task`. -/
theorem ready_after_wake :
    ∃ s s', run (State.init [(.worker ⟨0, 0⟩, 5), (.external, 5)])
        [.spawn 0 0, .pop 0 (.injector 0) 0, .storePolling 0, .wakeRefRaw 0 0 (.context 0),
          .wakeImplLoad 0, .wakeImplCas 0 false] = some s ∧
      (s.task 0).status = .notified ∧ step s (.pollReady 0) = some s' ∧
      s'.log = [.returned 0 0 true, .push 0 (.injector 0) true] :=
  ⟨_, _, rfl, rfl, rfl, rfl⟩

/-! ## §2 `NEED_RESCHEDULE` -/

/-- Task `0` polls `Reschedule`, which sets `NEED_RESCHEDULE` and wakes task `0` by
reference, and its poll then returns `Ready`: worker `0` is outside every `handle` call
with `NEED_RESCHEDULE` set. Task `1` then wakes itself during its first poll;
`need_preempt()` is asked only because of the stale flag, and task `1` goes to the injector
through `spawn_remote` instead of being polled again. -/
theorem need_reschedule_stale :
    ∃ s th, run (State.init [(.worker ⟨0, 0⟩, 5), (.external, 5)])
        [.spawn 0 0, .pop 0 (.injector 0) 0, .storePolling 0, .reschedule 0,
          .wakeRefRaw 0 0 (.context 0), .wakeImplLoad 0, .wakeImplCas 0 false, .pollReady 0] =
        some s ∧
      s.threads[0]? = some th ∧ th.handle = none ∧ th.needReschedule = true ∧
      ∃ s', run s [.spawn 1 0, .pop 0 (.injector 0) 1, .storePolling 0,
          .wakeRefRaw 0 1 (.context 0), .wakeImplLoad 0, .wakeImplCas 0 false, .pollPending 0,
          .ensureRemote 0, .casIdle 0 true, .preempt 0 false] = some s' ∧
        s'.log.take 3 = [.returned 0 1 false, .wakeTask 0 1 true .spawnRemote,
          .push 1 (.injector 0) false] :=
  ⟨_, _, rfl, rfl, rfl, rfl, _, rfl, rfl⟩

end Yatp.Future
