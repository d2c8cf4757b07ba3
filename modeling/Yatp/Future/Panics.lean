import Yatp.Future.Remote

/-!
# Future Tasks: What Can Panic

Three places of `src/task/future.rs` rely on the protocol instead of checking it:
`wake_task` calls `expect("core should exist!!!")` on `extras.remote`, `handle` ends its
match on the result of the compare-exchange with `unreachable!()`, and `clone_task`
dereferences `LOCAL` when it finds no remote. The model records each as a fault
(`Fault.noRemote`, `Fault.unreachableStatus`, `Fault.nullLocal`), after which nothing runs.

## Key results

- `step_fault`, `fault_reachable`, `panic_only_in_clone`: the `expect` and the
  `unreachable!()` never fire; the only panic a run can reach is the null `LOCAL` of
  `clone_task`, on a thread outside every pool.
- `remote_set_once`: `extras.remote` is assigned at most once, and it is set wherever
  `wake_task` reads it.
- `clone_null_local`: a thread outside every pool that clones the context waker while the
  task's first poll runs makes `clone_task` read a null `LOCAL`.
-/

namespace Yatp.Future

open State

variable {s s' : State}

/-! ## §1 Faults -/

theorem returnWaker_fault (o : OpFrame) : (s.returnWaker o).fault = s.fault := by
  simp only [State.returnWaker]; split <;> rfl

theorem endWake_fault (i : ThreadId) (th : Thread) (o : OpFrame) :
    (s.endWake i th o).fault = s.fault := by
  simp only [State.endWake]; split
  · rfl
  · exact returnWaker_fault o

theorem push_fault (t : TaskId) (q : QueueRef) (b : Bool) :
    (s.push t q b).fault = s.fault := by
  simp only [State.push]; split <;> rfl

theorem startCall_fault {i : ThreadId} {u : TaskId} {src : WakerSrc} {owned : Bool} {pc : OpPc}
    (hs : startCall s i u src owned pc = some s') : s'.fault = s.fault := by
  obtain ⟨-, -, -, -, -, rfl⟩ := startCall_some hs
  split <;> rfl

/-- A `handle` call at its compare-exchange is the task's running owner, so the task is
`POLLING` or `NOTIFIED`. -/
theorem casIdle_status (hs : Reachable s) {i : ThreadId} {th : Thread} {h : HandleFrame}
    (hi : s.threads[i]? = some th) (hh : th.handle = some h) (hpc : h.pc = .casIdle) :
    (s.task h.task).status = .polling ∨ (s.task h.task).status = .notified := by
  have hc := (ownView_ok hs h.task).count
  have hr : 1 ≤ (s.ownView h.task).running := by
    simpa [ownView_eq, hh, hpc] using (counts_le hi h.task).2
  have hact : (s.ownView h.task).active = true := by
    by_contra hn
    rw [if_neg hn] at hc; omega
  simp only [OwnView.active, ownView, Bool.and_eq_true, Bool.or_eq_true, beq_iff_eq] at hact
  exact hact.2.symm

/-- From a reachable state a step panics only in `clone_task`, on a thread outside every
pool, where `LOCAL` is null. -/
theorem step_fault {a : Action} (hsR : Reachable s) (hs : step s a = some s') :
    s'.fault = s.fault ∨ ∃ i th, a = .cloneTaskSet i ∧ s.threads[i]? = some th ∧
      th.role = .external ∧ th.localPtr = none ∧ s'.fault = some .nullLocal := by
  unfold step at hs
  split_ifs at hs
  cases a with
  | spawn u p => obtain ⟨-, rfl⟩ := spawn_some hs; exact .inl (push_fault _ _ _)
  | pop i q u => obtain ⟨-, -, -, -, -, -, -, -, -, rfl⟩ := pop_some hs; exact .inl rfl
  | storePolling i => obtain ⟨-, -, -, -, -, rfl⟩ := storePolling_some hs; exact .inl rfl
  | reschedule i => obtain ⟨-, -, -, -, -, -, rfl⟩ := reschedule_some hs; exact .inl rfl
  | pollReady i => obtain ⟨-, -, -, -, -, -, -, rfl⟩ := pollReady_some hs; exact .inl rfl
  | pollPending i => obtain ⟨-, -, -, -, -, -, -, rfl⟩ := pollPending_some hs; exact .inl rfl
  | pollPanic i => obtain ⟨-, -, -, -, -, -, -, rfl⟩ := pollPanic_some hs; exact .inl rfl
  | ensureRemote i =>
    obtain ⟨th, h, hi, hh, -, ⟨-, rfl⟩ | ⟨-, -, -, rfl⟩ | ⟨-, hl, rfl⟩⟩ := ensureRemote_some hs
    · exact .inl rfl
    · exact .inl rfl
    · obtain ⟨w, -, hl'⟩ := (threadsWF_reachable hsR i th hi).localPtr_of_handle hh
      rw [hl] at hl'; cases hl'
  | casIdle i b =>
    obtain ⟨th, hd, hi, hh, hpc, ⟨-, rfl⟩ | ⟨-, rfl⟩ | ⟨h₁, h₂, rfl⟩⟩ := casIdle_some hs
    · exact .inl rfl
    · exact .inl rfl
    · rcases casIdle_status hsR hi hh hpc with e | e
      · exact absurd e h₁
      · exact absurd e h₂
  | preempt i b =>
    obtain ⟨th, hd, r, hi, hh, hpc, ⟨s₁, hw, rfl⟩ | ⟨hw, -⟩⟩ := preempt_some hs
    · obtain ⟨q, e, -, he, -⟩ := wakeTask_some_effect hw
      exact .inl he.fault
    · exact absurd (wakeTask_eq_none.1 hw)
        ((((remoteInv_reachable hsR hd.task).threads i th hi).handle hd hh rfl).2 (.inr ⟨r, hpc⟩))
  | cloneRaw i u src => exact .inl (startCall_fault hs)
  | wakeRaw i u => exact .inl (startCall_fault hs)
  | wakeRefRaw i u src => exact .inl (startCall_fault hs)
  | dropRaw u => obtain ⟨-, rfl⟩ := dropRaw_some hs; exact .inl rfl
  | cloneTaskCheck i =>
    obtain ⟨-, -, -, -, -, ⟨-, rfl⟩ | ⟨-, rfl⟩⟩ := cloneTaskCheck_some hs
    · exact .inl rfl
    · exact .inl rfl
  | cloneTaskSet i =>
    obtain ⟨th, o, hi, ho, -, ⟨-, -, rfl⟩ | ⟨hl, rfl⟩⟩ := cloneTaskSet_some hs
    · exact .inl rfl
    · have hw := threadsWF_reachable hsR i th hi
      rcases hw.op o ho with hr | ⟨h, hh, -⟩
      · exact .inr ⟨i, th, rfl, hi, hr, hl, rfl⟩
      · obtain ⟨w, -, hl'⟩ := hw.localPtr_of_handle hh
        rw [hl] at hl'; cases hl'
  | wakeImplLoad i => obtain ⟨-, -, -, -, -, rfl⟩ := wakeImplLoad_some hs; exact .inl rfl
  | wakeImplCas i b =>
    obtain ⟨th, o, -, -, -, -, ⟨-, -, rfl⟩ | ⟨-, -, rfl⟩ | ⟨-, -, rfl⟩ | rfl⟩ := wakeImplCas_some hs
    · exact .inl rfl
    · exact .inl (endWake_fault i th o)
    · exact .inl (endWake_fault i th o)
    · exact .inl rfl
  | wakeImplWakeTask i b =>
    obtain ⟨th, o, hi, ho, hpc, ⟨s₁, hw, rfl⟩ | ⟨hw, -⟩⟩ := wakeImplWakeTask_some hs
    · obtain ⟨q, e, -, he, -⟩ := wakeTask_some_effect hw
      exact .inl ((returnWaker_fault o).trans he.fault)
    · exact absurd (wakeTask_eq_none.1 hw)
        ((((remoteInv_reachable hsR o.task).threads i th hi).op o ho rfl).1 (.inr hpc))
  | close p => obtain ⟨-, rfl⟩ := close_some hs; exact .inl rfl
  | destroy p => obtain ⟨-, -, rfl⟩ := destroy_some hs; exact .inl rfl
  | dropQueued q u => obtain ⟨-, -, rfl⟩ := dropQueued_some hs; exact .inl rfl

/-- No reachable state has panicked in `wake_task` or in `handle`'s `unreachable!()`. -/
theorem fault_reachable (hs : Reachable s) : s.fault = none ∨ s.fault = some .nullLocal := by
  induction hs with
  | init ths => exact .inl rfl
  | step a hs' hstep ih =>
    rcases step_fault hs' hstep with e | ⟨-, -, -, -, -, -, e⟩
    · exact e ▸ ih
    · exact .inr e

/-- A state that has not panicked panics in its next step only in `clone_task`, on a thread
outside every pool, where `LOCAL` is null. -/
theorem panic_only_in_clone {a : Action} (hsR : Reachable s) (hf : s.fault = none)
    (hs : step s a = some s') (hf' : s'.fault ≠ none) :
    ∃ i th, a = .cloneTaskSet i ∧ s.threads[i]? = some th ∧ th.role = .external ∧
      th.localPtr = none ∧ s'.fault = some .nullLocal :=
  (step_fault hsR hs).resolve_left fun e => hf' (e.trans hf)

/-- The thread outside the pool clones the context waker of task `0` during its first
poll, and `clone_task` panics. -/
theorem panic_only_in_clone_run :
    ∃ s s', run (State.init [(.worker ⟨0, 0⟩, 5), (.external, 5)])
        [.spawn 0 0, .pop 0 (.injector 0) 0, .storePolling 0, .cloneRaw 1 0 (.context 0),
          .cloneTaskCheck 1] = some s ∧ step s (.cloneTaskSet 1) = some s' ∧
      s.fault = none ∧ s'.fault ≠ none ∧
      ∃ i th, Action.cloneTaskSet 1 = .cloneTaskSet i ∧ s.threads[i]? = some th ∧
        th.role = .external ∧ th.localPtr = none ∧ s'.fault = some .nullLocal := by
  obtain ⟨s, s', hrun, hs', hf, hf'⟩ : ∃ s s', run (State.init [(.worker ⟨0, 0⟩, 5), (.external, 5)])
      [.spawn 0 0, .pop 0 (.injector 0) 0, .storePolling 0, .cloneRaw 1 0 (.context 0),
        .cloneTaskCheck 1] = some s ∧ step s (.cloneTaskSet 1) = some s' ∧
      s.fault = none ∧ s'.fault ≠ none := ⟨_, _, rfl, rfl, rfl, by decide⟩
  exact ⟨s, s', hrun, hs', hf, hf', panic_only_in_clone ((Reachable.init _).run hrun) hf hs' hf'⟩

/-! ## §2 The remote -/

/-- What the code of `future.rs` needs of `extras.remote` of task `t`. -/
structure RemoteLaw (s : State) (t : TaskId) : Prop where
  /-- Once set, the remote never changes, whatever runs next. -/
  setOnce : ∀ as s', run s as = some s' → (s.task t).remote ≠ none →
    (s'.task t).remote = (s.task t).remote
  /-- An `IDLE` task has its remote. -/
  idle : (s.task t).status = .idle → (s.task t).remote ≠ none
  /-- The preemption path of `handle` finds the remote in `wake_task`. -/
  preempt : ∀ (i : ThreadId) (th : Thread) (h : HandleFrame) (r spill : Bool),
    s.threads[i]? = some th → th.handle = some h → h.task = t → h.pc = .wakeTask r →
    wakeTask s i th t true r spill ≠ none
  /-- `wake_impl` finds the remote in `wake_task` after winning `IDLE → NOTIFIED`. -/
  wakeImpl : ∀ (i : ThreadId) (th : Thread) (o : OpFrame) (spill : Bool),
    s.threads[i]? = some th → th.op = some o → o.task = t → o.pc = .wakeTask →
    wakeTask s i th t o.owned false spill ≠ none

/-- In every reachable state the remote of a task is assigned at most once, and it is set
wherever `wake_task` reads it: so the `expect` in `wake_task` never panics. -/
theorem remote_set_once (hs : Reachable s) (t : TaskId) :
    RemoteLaw s t ∧ s.fault ≠ some .noRemote := by
  have h := remoteInv_reachable hs t
  refine ⟨⟨fun as s' hrun hr => (run_poolView_le hs hrun t).2.1.resolve_left hr, h.task.idle,
    fun i th hd r spill hi hh ht hpc e => ?_, fun i th o spill hi ho ht hpc e => ?_⟩, fun hf => ?_⟩
  · exact ((h.threads i th hi).handle hd hh ht).2 (.inr ⟨r, hpc⟩) (wakeTask_eq_none.1 e)
  · exact ((h.threads i th hi).op o ho ht).1 (.inr hpc) (wakeTask_eq_none.1 e)
  · rcases fault_reachable hs with e | e <;> rw [e] at hf <;> cases hf

/-- A first poll that returns `Pending` leaves the task `IDLE` with its remote. -/
theorem remote_set_once_run :
    ∃ s, run (State.init [(.worker ⟨0, 0⟩, 5), (.external, 5)])
        [.spawn 0 0, .pop 0 (.injector 0) 0, .storePolling 0, .pollPending 0, .ensureRemote 0,
          .casIdle 0 true] = some s ∧
      (s.task 0).status = .idle ∧ RemoteLaw s 0 ∧ s.fault ≠ some .noRemote := by
  obtain ⟨s, hrun, hst⟩ : ∃ s, run (State.init [(.worker ⟨0, 0⟩, 5), (.external, 5)])
      [.spawn 0 0, .pop 0 (.injector 0) 0, .storePolling 0, .pollPending 0, .ensureRemote 0,
        .casIdle 0 true] = some s ∧ (s.task 0).status = .idle := ⟨_, rfl, rfl⟩
  exact ⟨s, hrun, hst, remote_set_once ((Reachable.init _).run hrun) 0⟩

/-! ## §3 The null `LOCAL` of `clone_task` -/

/-- A thread outside every pool clones the context waker of task `0` while worker `0` runs
the task's first poll (a `&Waker` is `Sync`): `clone_task` finds no remote, `LOCAL` is null
on that thread, and the next step dereferences it. -/
theorem clone_null_local :
    ∃ s th o, run (State.init [(.worker ⟨0, 0⟩, 5), (.external, 5)])
        [.spawn 0 0, .pop 0 (.injector 0) 0, .storePolling 0, .cloneRaw 1 0 (.context 0),
          .cloneTaskCheck 1] = some s ∧
      s.threads[1]? = some th ∧ th.role = .external ∧ th.localPtr = none ∧ th.op = some o ∧
      o.task = 0 ∧ o.pc = .cloneSet ∧ (s.task 0).remote = none ∧
      (step s (.cloneTaskSet 1)).map State.fault = some (some .nullLocal) :=
  ⟨_, _, _, rfl, rfl, rfl, rfl, rfl, rfl, rfl, rfl, rfl⟩

end Yatp.Future
