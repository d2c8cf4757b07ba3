import Yatp.Future.Threads

/-!
# Future Tasks: the Strong Count

The `Arc<Task>` of a future task is shared by whoever holds a `TaskCell` or a raw waker of
it. The model keeps the strong count in `TaskState.strong` and changes it where the code
does: `Arc::clone` and `Cow::Borrowed::into_owned` add one, dropping an `Arc` subtracts one,
and `into_raw`, `from_raw`, `mem::forget`, `ManuallyDrop` and `Cow::Owned::into_owned`
leave it alone.

Every step keeps the count equal to `State.holders`: the spawner's `TaskCell`, the queue
copies, the `handle` calls, the raw wakers, and the vtable calls that hold a count. A
`wake_raw` call owns the count of the waker it consumed from its `Arc::from_raw` until it
enqueues the task or drops its `Arc`; a `wake_ref_raw` call owns none, even after winning
`IDLE → NOTIFIED`: it borrows a raw waker, or the context waker of a `handle` call.

## Key results

- `step_strong`: every step keeps the count equal to the holders; `strong_eq_holders`.
- `strong_eq_specHolders_fails`: the count of holders that also lists the `wake_impl` calls
  that won `IDLE → NOTIFIED` is wrong for a `wake_by_ref` on a raw waker.
-/

namespace Yatp.Future

open State

variable {s s' : State} {i : ThreadId} {u t : TaskId}

/-! ## §1 The holders, written out -/

theorem holders_eq (s : State) (t : TaskId) : s.holders t =
    (if (s.task t).spawner then 1 else 0) + s.queue.countP (·.2 == t) +
      (s.threads.map (Thread.handling t)).sum + (s.task t).wakers +
      (s.threads.map (Thread.callHolds t)).sum := rfl

/-- What one thread holds is part of the sums. -/
theorem holds_le {th : Thread} (hi : s.threads[i]? = some th) (t : TaskId) :
    th.handling t ≤ (s.threads.map (Thread.handling t)).sum ∧
      th.callHolds t ≤ (s.threads.map (Thread.callHolds t)).sum :=
  ⟨le_tsum hi _, le_tsum hi _⟩

/-- A thread in a `handle` call, or in a vtable call that holds a count, is a holder. -/
theorem holders_pos {th : Thread} (hi : s.threads[i]? = some th) (t : TaskId)
    (h : 0 < th.handling t + th.callHolds t) : 0 < s.holders t := by
  have := holds_le hi t; rw [holders_eq]; omega

/-! ## §2 Every step keeps the count -/

/-- The count equals the holders. -/
def Counted (s : State) (t : TaskId) : Prop := (s.task t).strong = s.holders t

/-- Replacing a thread by one that holds as much of `t`. -/
theorem setThread_strong {th th' : Thread} (hi : s.threads[i]? = some th)
    (hh : th'.handling t = th.handling t) (hc : th'.callHolds t = th.callHolds t)
    (h : Counted s t) : Counted (s.setThread i th') t := by
  obtain ⟨hh₁, hc₁⟩ := holds_le hi t
  simp only [Counted, holders_eq, setThread_task, setThread_queue, setThread_threads,
    List.map_set, sum_set_map hi, hh, hc] at h ⊢
  omega

/-- Changing fields of a task that do not count. -/
theorem setTask_strong {ts : TaskState} (hst : ts.strong = (s.task u).strong)
    (hsp : ts.spawner = (s.task u).spawner) (hw : ts.wakers = (s.task u).wakers)
    (h : Counted s t) : Counted (s.setTask u ts) t := by
  by_cases ht : t = u
  · subst ht; simpa [Counted, holders_eq, hst, hsp, hw] using h
  · simpa [Counted, holders_eq, ht] using h

/-- The `handle` loop moves on a thread. -/
theorem setHandle_strong {th : Thread} {hd : HandleFrame} (hi : s.threads[i]? = some th)
    (hh : th.handle = some hd) (hd' : HandleFrame) (htask : hd'.task = hd.task) (n : Bool)
    (h : Counted s t) :
    Counted (s.setThread i { th with handle := some hd', needReschedule := n }) t :=
  setThread_strong hi (by simp [hh, htask]) rfl h

/-- A vtable call moves on a thread. -/
theorem setOp_strong {th : Thread} {o : OpFrame} (hi : s.threads[i]? = some th)
    (ho : th.op = some o) (o' : OpFrame) (htask : o'.task = o.task) (hsrc : o'.src = o.src)
    (hown : o'.owned = o.owned) (h : Counted s t) :
    Counted (s.setThread i { th with op := some o' }) t :=
  setThread_strong hi rfl (by simp [ho, htask, hsrc, hown]) h

theorem record_strong (h : Counted s t) (e : Event) : Counted (s.record e) t := h

theorem pop_strong {q : QueueRef} (hs : pop s i q u = some s') (h : Counted s t) :
    Counted s' t := by
  obtain ⟨th, w, hi, -, hh, ho, -, hq, -, rfl⟩ := pop_some hs
  obtain ⟨hh₁, hc₁⟩ := holds_le hi t
  have hc := countP_erase_add hq fun e => e.2 == t
  by_cases ht : u = t
  · subst ht; simp [Counted, holders_eq, sum_set_map hi, hh, ho] at h hh₁ hc₁ hc ⊢; omega
  · simp [Counted, holders_eq, sum_set_map hi, hh, ho, ht] at h hh₁ hc₁ hc ⊢; omega

theorem storePolling_strong (hs : storePolling s i = some s') (h : Counted s t) :
    Counted s' t := by
  obtain ⟨th, hd, hi, hh, -, rfl⟩ := storePolling_some hs
  rw [setThread_setTask_comm]
  refine setTask_strong ?_ ?_ ?_
    (setHandle_strong hi hh { hd with pc := .polling, polls := hd.polls + 1 } rfl _ h) <;> rfl

theorem reschedule_strong (hs : reschedule s i = some s') (h : Counted s t) : Counted s' t := by
  obtain ⟨th, -, hi, -, -, -, rfl⟩ := reschedule_some hs
  exact setThread_strong hi rfl rfl h

/-- `handle` returns and drops its `Arc`, or its `TaskCell` with the task. -/
theorem endPoll_strong {th : Thread} {hd : HandleFrame} (hi : s.threads[i]? = some th)
    (hh : th.handle = some hd) (ts : TaskState) (hts : ts.strong = (s.task hd.task).strong - 1)
    (hsp : ts.spawner = (s.task hd.task).spawner) (hw : ts.wakers = (s.task hd.task).wakers)
    (h : Counted s t) :
    Counted ((s.setTask hd.task ts).setThread i { th with handle := none, localPtr := none }) t := by
  obtain ⟨hh₁, hc₁⟩ := holds_le hi t
  by_cases ht : t = hd.task
  · subst ht; simp [Counted, holders_eq, sum_set_map hi, hh, hts, hsp, hw] at h hh₁ hc₁ ⊢; omega
  · simp [Counted, holders_eq, sum_set_map hi, hh, ht, Ne.symm ht] at h hh₁ hc₁ ⊢; omega

theorem pollReady_strong (hs : pollReady s i = some s') (h : Counted s t) : Counted s' t := by
  obtain ⟨th, hd, hi, hh, -, -, -, rfl⟩ := pollReady_some hs
  simp only [endHandle, decStrong, setTask_setTask]
  exact record_strong (endPoll_strong hi hh _ (by simp) (by simp) (by simp) h) _

theorem pollPending_strong (hs : pollPending s i = some s') (h : Counted s t) :
    Counted s' t := by
  obtain ⟨th, hd, hi, hh, -, -, -, rfl⟩ := pollPending_some hs
  exact setHandle_strong hi hh { hd with pc := .setRemote } rfl th.needReschedule h

theorem pollPanic_strong (hs : pollPanic s i = some s') (h : Counted s t) : Counted s' t := by
  obtain ⟨th, hd, hi, hh, -, -, -, rfl⟩ := pollPanic_some hs
  exact endPoll_strong hi hh _ rfl rfl rfl h

theorem ensureRemote_strong (hs : ensureRemote s i = some s') (h : Counted s t) :
    Counted s' t := by
  obtain ⟨th, hd, hi, hh, -, ⟨-, rfl⟩ | ⟨w, -, -, rfl⟩ | ⟨-, -, rfl⟩⟩ := ensureRemote_some hs
  · exact setHandle_strong hi hh { hd with pc := .casIdle } rfl th.needReschedule h
  · refine setTask_strong ?_ ?_ ?_
      (setHandle_strong hi hh { hd with pc := .casIdle } rfl th.needReschedule h) <;> rfl
  · exact h

theorem casIdle_strong {b : Bool} (hs : casIdle s i b = some s') (h : Counted s t) :
    Counted s' t := by
  obtain ⟨th, hd, hi, hh, -, ⟨-, rfl⟩ | ⟨-, rfl⟩ | ⟨-, -, rfl⟩⟩ := casIdle_some hs
  · simp only [endHandle, decStrong, setTask_setTask]
    exact record_strong (endPoll_strong hi hh _ (by simp) (by simp) (by simp) h) _
  · exact setHandle_strong hi hh (hd.onNotified th.repollLimit th.needReschedule b) (by simp) false h
  · exact h

/-- `wake_task` on a borrowed `Cow` takes a count for the cell it queues, or none when it
drops the task. -/
theorem WakeTaskEffect.counted_borrowed {s₁ : State} {q : QueueRef} {e : Event}
    (he : WakeTaskEffect s s₁ u false q e) (h : Counted s t) : Counted s₁ t := by
  by_cases ht : t = u
  · subst ht
    rcases he.result with ⟨-, hq, htask, -⟩ | ⟨hq, htask, -⟩ <;>
      simp [Counted, holders_eq, he.threads, hq, htask] at h ⊢ <;> omega
  · rcases he.result with ⟨-, hq, -, -⟩ | ⟨hq, -, -⟩ <;>
      simp [Counted, holders_eq, he.threads, he.other t ht, hq, ht, Ne.symm ht] at h ⊢ <;> omega

/-- `wake_task` on an owned `Cow` hands its count to the cell it queues, or drops it with the
task: the caller, still listed among the holders, has given its count away. -/
theorem WakeTaskEffect.counted_owned {s₁ : State} {q : QueueRef} {e : Event}
    (he : WakeTaskEffect s s₁ u true q e) (h : Counted s t) (hpos : 0 < s.holders u) :
    (s₁.task t).strong + (if t = u then 1 else 0) = s₁.holders t := by
  by_cases ht : t = u
  · subst ht
    have hp : 0 < (s.task t).strong := (show (s.task t).strong = s.holders t from h) ▸ hpos
    rcases he.result with ⟨-, hq, htask, -⟩ | ⟨hq, htask, -⟩ <;>
      simp [Counted, holders_eq, he.threads, hq, htask] at h ⊢ <;> omega
  · rcases he.result with ⟨-, hq, -, -⟩ | ⟨hq, -, -⟩ <;>
      simp [Counted, holders_eq, he.threads, he.other t ht, hq, ht, Ne.symm ht] at h ⊢ <;> omega

/-- The preemption path hands the `handle` call's `Arc` to `wake_task`. -/
theorem preempt_strong {b : Bool} (hs : preempt s i b = some s') (h : Counted s t) :
    Counted s' t := by
  obtain ⟨th, hd, r, hi, hh, -, ⟨s₁, hw, rfl⟩ | ⟨-, rfl⟩⟩ := preempt_some hs
  · obtain ⟨q, e, -, he, -⟩ := wakeTask_some_effect hw
    have h₁ := he.counted_owned h (holders_pos hi hd.task (by simp [hh]))
    have hi₁ : s₁.threads[i]? = some th := by rw [he.threads]; exact hi
    obtain ⟨hh₁, hc₁⟩ := holds_le hi₁ t
    by_cases ht : t = hd.task
    · subst ht; simp [Counted, holders_eq, sum_set_map hi₁, hh] at h₁ hh₁ hc₁ ⊢; omega
    · simp [Counted, holders_eq, sum_set_map hi₁, hh, ht, Ne.symm ht] at h₁ hh₁ hc₁ ⊢; omega
  · exact h

/-- `clone_raw`, `wake_raw` and `wake_ref_raw` take a raw waker from its holder, or borrow
the context waker. -/
theorem startCall_strong {src : WakerSrc} {owned : Bool} {pc : OpPc}
    (hs : startCall s i u src owned pc = some s') (hown : owned = true → src = .raw)
    (h : Counted s t) : Counted s' t := by
  obtain ⟨th, hi, ho, -, hready, rfl⟩ := startCall_some hs
  obtain ⟨hh₁, hc₁⟩ := holds_le hi t
  by_cases hsrc : src = .raw
  · have hw : 0 < (s.task u).wakers := by simpa [hsrc, wakerReady] using hready
    by_cases ht : t = u
    · subst ht; simp [Counted, holders_eq, sum_set_map hi, ho, hsrc] at h hh₁ hc₁ ⊢; omega
    · simp [Counted, holders_eq, sum_set_map hi, ho, hsrc, ht, Ne.symm ht] at h hh₁ hc₁ ⊢; omega
  · have hf : owned = false := Bool.eq_false_iff.2 fun e => hsrc (hown e)
    simp [Counted, holders_eq, sum_set_map hi, ho, hsrc, hf] at h hh₁ hc₁ ⊢; omega

theorem dropRaw_strong (hs : dropRaw s u = some s') (h : Counted s t) : Counted s' t := by
  obtain ⟨hw, rfl⟩ := dropRaw_some hs
  by_cases ht : t = u
  · subst ht; simp [Counted, holders_eq] at h ⊢; omega
  · simpa [Counted, holders_eq, ht] using h

/-- `clone_task` returns: one count for the new raw waker, and a borrowed waker goes back. -/
theorem finishClone_strong {th : Thread} {o : OpFrame} (hi : s.threads[i]? = some th)
    (ho : th.op = some o) (hown : o.owned = true → o.src = .raw) (h : Counted s t) :
    Counted (finishClone s i th o) t := by
  obtain ⟨hh₁, hc₁⟩ := holds_le hi t
  by_cases hsrc : o.src = .raw
  · by_cases ht : t = o.task
    · subst ht; simp [Counted, holders_eq, sum_set_map hi, ho, hsrc] at h hh₁ hc₁ ⊢; omega
    · simp [Counted, holders_eq, sum_set_map hi, ho, hsrc, ht, Ne.symm ht] at h hh₁ hc₁ ⊢; omega
  · have hf : o.owned = false := Bool.eq_false_iff.2 fun e => hsrc (hown e)
    by_cases ht : t = o.task
    · subst ht; simp [Counted, holders_eq, sum_set_map hi, ho, hsrc, hf] at h hh₁ hc₁ ⊢; omega
    · simp [Counted, holders_eq, sum_set_map hi, ho, hsrc, hf, ht, Ne.symm ht] at h hh₁ hc₁ ⊢
      omega

theorem cloneTaskCheck_strong (hs : cloneTaskCheck s i = some s') (hwf : ThreadsWF s)
    (h : Counted s t) : Counted s' t := by
  obtain ⟨th, o, hi, ho, -, ⟨-, rfl⟩ | ⟨-, rfl⟩⟩ := cloneTaskCheck_some hs
  · exact finishClone_strong hi ho ((hwf i th hi).owned o ho) h
  · exact setOp_strong hi ho { o with pc := .cloneSet } rfl rfl rfl h

theorem cloneTaskSet_strong (hs : cloneTaskSet s i = some s') (hwf : ThreadsWF s)
    (h : Counted s t) : Counted s' t := by
  obtain ⟨th, o, hi, ho, -, ⟨w, -, rfl⟩ | ⟨-, rfl⟩⟩ := cloneTaskSet_some hs
  · refine finishClone_strong ?_ ho ((hwf i th hi).owned o ho)
      (setTask_strong ?_ ?_ ?_ h) <;> first | exact hi | rfl
  · exact h

theorem wakeImplLoad_strong (hs : wakeImplLoad s i = some s') (h : Counted s t) :
    Counted s' t := by
  obtain ⟨th, o, hi, ho, -, rfl⟩ := wakeImplLoad_some hs
  exact setOp_strong hi ho _ rfl rfl rfl h

/-- A vtable call returns and gives a borrowed raw waker back. -/
theorem returnWaker_strong {th : Thread} {o : OpFrame} (hi : s.threads[i]? = some th)
    (ho : th.op = some o) (hf : o.owned = false) (h : Counted s t) :
    Counted ((s.returnWaker o).setThread i { th with op := none }) t := by
  obtain ⟨hh₁, hc₁⟩ := holds_le hi t
  simp only [State.returnWaker]
  by_cases hsrc : o.src = .raw
  · rw [if_pos ⟨hsrc, hf⟩]
    by_cases ht : t = o.task
    · subst ht; simp [Counted, holders_eq, sum_set_map hi, ho, hsrc, hf] at h hh₁ hc₁ ⊢; omega
    · simp [Counted, holders_eq, sum_set_map hi, ho, hsrc, hf, ht, Ne.symm ht] at h hh₁ hc₁ ⊢
      omega
  · rw [if_neg fun e => hsrc e.1]
    simp [Counted, holders_eq, sum_set_map hi, ho, hsrc, hf] at h hh₁ hc₁ ⊢; omega

/-- `wake_impl` returns without calling `wake_task`: an owned `Cow` drops its `Arc`. -/
theorem endWake_strong {th : Thread} {o : OpFrame} (hi : s.threads[i]? = some th)
    (ho : th.op = some o) (h : Counted s t) : Counted (s.endWake i th o) t := by
  simp only [State.endWake]
  cases hw : o.owned
  · exact returnWaker_strong hi ho hw h
  · obtain ⟨hh₁, hc₁⟩ := holds_le hi t
    by_cases ht : t = o.task
    · subst ht; simp [Counted, holders_eq, sum_set_map hi, ho, hw] at h hh₁ hc₁ ⊢; omega
    · simp [Counted, holders_eq, sum_set_map hi, ho, hw, ht, Ne.symm ht] at h hh₁ hc₁ ⊢; omega

theorem wakeImplCas_strong {b : Bool} (hs : wakeImplCas s i b = some s') (h : Counted s t) :
    Counted s' t := by
  obtain ⟨th, o, obs, hi, ho, -, ⟨-, -, rfl⟩ | ⟨-, -, rfl⟩ | ⟨-, -, rfl⟩ | rfl⟩ :=
    wakeImplCas_some hs
  · refine setOp_strong ?_ ho { o with pc := .wakeTask } rfl rfl rfl (setTask_strong ?_ ?_ ?_ h) <;>
      first | exact hi | rfl
  · refine endWake_strong ?_ ho (setTask_strong ?_ ?_ ?_ h) <;> first | exact hi | rfl
  · exact endWake_strong hi ho h
  · exact setOp_strong hi ho _ rfl rfl rfl h

/-- `wake_impl` calls `wake_task` after winning `IDLE → NOTIFIED`. -/
theorem wakeImplWakeTask_strong {b : Bool} (hs : wakeImplWakeTask s i b = some s')
    (h : Counted s t) : Counted s' t := by
  obtain ⟨th, o, hi, ho, -, ⟨s₁, hw, rfl⟩ | ⟨-, rfl⟩⟩ := wakeImplWakeTask_some hs
  · obtain ⟨q, e, -, he, -⟩ := wakeTask_some_effect hw
    have hi₁ : s₁.threads[i]? = some th := by rw [he.threads]; exact hi
    cases hwn : o.owned <;> rw [hwn] at he
    · exact returnWaker_strong hi₁ ho hwn (he.counted_borrowed h)
    · have h₁ := he.counted_owned h (holders_pos hi o.task (by simp [ho, hwn]))
      obtain ⟨hh₁, hc₁⟩ := holds_le hi₁ t
      simp only [returnWaker, hwn, Bool.true_eq_false, and_false, ite_false]
      by_cases ht : t = o.task
      · subst ht; simp [Counted, holders_eq, sum_set_map hi₁, ho, hwn] at h₁ hh₁ hc₁ ⊢; omega
      · simp [Counted, holders_eq, sum_set_map hi₁, ho, hwn, ht, Ne.symm ht] at h₁ hh₁ hc₁ ⊢
        omega
  · exact h

theorem spawn_strong {p : PoolId} (hs : spawn s u p = some s') (h : Counted s t) :
    Counted s' t := by
  obtain ⟨hsp, rfl⟩ := spawn_some hs
  simp only [State.push]
  by_cases ht : t = u
  · subst ht
    by_cases hq : s.accepts (.injector p) = true <;> simp [Counted, holders_eq, hq, hsp] at h ⊢ <;>
      omega
  · by_cases hq : s.accepts (.injector p) = true <;>
      simp [Counted, holders_eq, hq, ht, Ne.symm ht] at h ⊢ <;> omega

theorem dropQueued_strong {q : QueueRef} (hs : dropQueued s q u = some s') (h : Counted s t) :
    Counted s' t := by
  obtain ⟨hq, -, rfl⟩ := dropQueued_some hs
  have hc := countP_erase_add hq fun e => e.2 == t
  by_cases ht : t = u
  · subst ht; simp [Counted, holders_eq] at h hc ⊢; omega
  · simp [Counted, holders_eq, ht, Ne.symm ht] at h hc ⊢; omega

/-! ## §3 Every run -/

theorem step_strong {a : Action} (hs : step s a = some s') (hwf : ThreadsWF s) (h : Counted s t) :
    Counted s' t := by
  unfold step at hs
  split_ifs at hs
  cases a with
  | spawn u p => exact spawn_strong hs h
  | pop i q u => exact pop_strong hs h
  | storePolling i => exact storePolling_strong hs h
  | reschedule i => exact reschedule_strong hs h
  | pollReady i => exact pollReady_strong hs h
  | pollPending i => exact pollPending_strong hs h
  | pollPanic i => exact pollPanic_strong hs h
  | ensureRemote i => exact ensureRemote_strong hs h
  | casIdle i b => exact casIdle_strong hs h
  | preempt i b => exact preempt_strong hs h
  | cloneRaw i u src => exact startCall_strong hs nofun h
  | wakeRaw i u => exact startCall_strong hs (fun _ => rfl) h
  | wakeRefRaw i u src => exact startCall_strong hs nofun h
  | dropRaw u => exact dropRaw_strong hs h
  | cloneTaskCheck i => exact cloneTaskCheck_strong hs hwf h
  | cloneTaskSet i => exact cloneTaskSet_strong hs hwf h
  | wakeImplLoad i => exact wakeImplLoad_strong hs h
  | wakeImplCas i b => exact wakeImplCas_strong hs h
  | wakeImplWakeTask i b => exact wakeImplWakeTask_strong hs h
  | close p => obtain ⟨-, rfl⟩ := close_some hs; exact h
  | destroy p => obtain ⟨-, -, rfl⟩ := destroy_some hs; exact h
  | dropQueued q u => exact dropQueued_strong hs h

/-- In every reachable state the strong count of a task is the number of its holders: the
spawner's `TaskCell`, the queue copies, the `handle` calls, the raw wakers (also one a
`clone_raw` or `wake_ref_raw` call borrows), and the `wake_raw` calls that still own the
count of the waker they consumed. So the count is zero exactly when no holder is left. -/
theorem strong_eq_holders {s : State} (hs : Reachable s) (t : TaskId) :
    (s.task t).strong = s.holders t := by
  induction hs with
  | init ths => simp [holders_eq, State.init, TaskState.new, Thread.new, Function.comp_def]
  | step a hs' hstep ih => exact step_strong hstep (threadsWF_reachable hs') ih

/-- A `wake_by_ref` on the raw waker of an `IDLE` task has won `IDLE → NOTIFIED`. -/
theorem strong_eq_holders_run :
    ∃ s, run (State.init [(.worker ⟨0, 0⟩, 5), (.external, 5)])
        [.spawn 0 0, .pop 0 (.injector 0) 0, .storePolling 0, .cloneRaw 0 0 (.context 0),
          .cloneTaskCheck 0, .cloneTaskSet 0, .pollPending 0, .ensureRemote 0, .casIdle 0 true,
          .wakeRefRaw 1 0 .raw, .wakeImplLoad 1, .wakeImplCas 1 false] = some s ∧
      (s.task 0).strong = s.holders 0 := by
  obtain ⟨s, hrun⟩ : ∃ s, run (State.init [(.worker ⟨0, 0⟩, 5), (.external, 5)])
      [.spawn 0 0, .pop 0 (.injector 0) 0, .storePolling 0, .cloneRaw 0 0 (.context 0),
        .cloneTaskCheck 0, .cloneTaskSet 0, .pollPending 0, .ensureRemote 0, .casIdle 0 true,
        .wakeRefRaw 1 0 .raw, .wakeImplLoad 1, .wakeImplCas 1 false] = some s := ⟨_, rfl⟩
  exact ⟨s, hrun, strong_eq_holders ((Reachable.init _).run hrun) 0⟩

/-! ## §4 The holders of the spec -/

/-- Modelled from the spec: the holders a strong count would match if every `wake_impl` call
that won `IDLE → NOTIFIED` owned a count: the spawner's `TaskCell`, the queue copies, the
`handle` calls, those `wake_impl` calls, and the raw wakers not yet consumed by `wake_raw`
or `drop_raw` (those nobody uses and those a `clone_raw` or `wake_ref_raw` call borrows). -/
def State.specHolders (s : State) (t : TaskId) : Nat :=
  (if (s.task t).spawner then 1 else 0) + s.queued t + s.tsum (Thread.handling t) +
    s.tsum (Thread.notifying t) + (s.task t).wakers +
    s.tsum (Thread.opOn t fun o => o.src == .raw && !o.owned)

/-- A `wake_by_ref` on a raw waker of an `IDLE` task wins `IDLE → NOTIFIED`: the raw waker
and the `wake_impl` call are two holders of the spec, but the call borrows the waker's
count and the strong count is one. -/
theorem strong_ne_specHolders :
    ∃ s, run (State.init [(.worker ⟨0, 0⟩, 5), (.external, 5)])
        [.spawn 0 0, .pop 0 (.injector 0) 0, .storePolling 0, .cloneRaw 0 0 (.context 0),
          .cloneTaskCheck 0, .cloneTaskSet 0, .pollPending 0, .ensureRemote 0, .casIdle 0 true,
          .wakeRefRaw 1 0 .raw, .wakeImplLoad 1, .wakeImplCas 1 false] = some s ∧
      (s.task 0).strong = 1 ∧ s.specHolders 0 = 2 :=
  ⟨_, rfl, rfl, rfl⟩

end Yatp.Future
