import Yatp.Future.Holders
import Yatp.Future.Lifecycle

/-!
# Future Tasks: Ownership

The concrete side of `Lifecycle.lean`. `State.ownView s t` reads the abstract view of task
`t` off the whole state: its status byte, whether it was dropped, and its owners split
into those that keep it `NOTIFIED` and the `handle` calls inside their poll window.

## Key results

- `step_ownStep`: every step of every thread moves each task by one `OwnStep` (or leaves
  its view unchanged). One lemma per step function, each from that step's inversion lemma.
- `ownView_ok`: the ownership law holds for every task of every reachable state.
- `owners_eq_ownView`: the owners of a task are the two counts of the view; `Drops.lean`
  reads the law off the view as `owners_law`, with the cause of a drop.
- `step_status`, `completed_final`, `handled_not_queued`: what the abstract machine says of
  the code: every step keeps a task's status or moves it along one edge of the diagram, no
  run changes a `COMPLETED` task, and a task in a `handle` call is in no queue.

The updates of `State` each get a small lemma saying how they move the view, so that no
step lemma unfolds a count.
-/

namespace Yatp.Future

open State

/-! ## §1 The view of a task -/

namespace Thread

/-- What the thread counts among the owners of `t` that keep it `NOTIFIED`. -/
@[simp] def waiting (t : TaskId) (th : Thread) : Nat :=
  th.notifying t + th.handleOn t HandlePc.outsidePoll

/-- What the thread counts among the `handle` calls on `t` inside their poll window. -/
@[simp] def running (t : TaskId) (th : Thread) : Nat := th.handleOn t fun pc => !pc.outsidePoll

end Thread

namespace State

/-- The owners of `t` that keep it `NOTIFIED`. -/
def waiting (s : State) (t : TaskId) : Nat :=
  (if (s.task t).spawner then 1 else 0) + s.queued t + s.tsum (Thread.waiting t)

/-- The `handle` calls on `t` inside their poll window. -/
def running (s : State) (t : TaskId) : Nat := s.tsum (Thread.running t)

/-- Task `t` as its owners see it. -/
def ownView (s : State) (t : TaskId) : OwnView :=
  ⟨(s.task t).status, (s.task t).dropped, s.waiting t, s.running t⟩

/-- The owners of `t` are the waiting and the running owners. -/
theorem owners_eq_ownView (s : State) (t : TaskId) :
    s.owners t = (s.ownView t).waiting + (s.ownView t).running := by
  have h1 : s.tsum (Thread.notifying t) + s.tsum (Thread.handleOn t HandlePc.outsidePoll) =
      s.tsum (Thread.waiting t) := s.tsum_add _ _
  have h2 : s.tsum (Thread.handleOn t HandlePc.outsidePoll) + s.tsum (Thread.running t) =
      s.tsum (Thread.handling t) := by
    rw [tsum_add]; congr; funext th; exact th.handleOn_outside_add_inside t
  simp only [owners, ownView, waiting, running]
  omega

/-- The view, written out over the lists of the state. -/
theorem ownView_eq (s : State) (t : TaskId) : s.ownView t =
    ⟨(s.task t).status, (s.task t).dropped,
      (if (s.task t).spawner then 1 else 0) + s.queue.countP (·.2 == t) +
        (s.threads.map (Thread.waiting t)).sum, (s.threads.map (Thread.running t)).sum⟩ := rfl

/-- What one thread counts is part of the sums. -/
theorem counts_le {s : State} {i : ThreadId} {th : Thread} (hi : s.threads[i]? = some th)
    (t : TaskId) : th.waiting t ≤ (s.threads.map (Thread.waiting t)).sum ∧
      th.running t ≤ (s.threads.map (Thread.running t)).sum :=
  ⟨le_tsum hi _, le_tsum hi _⟩

/-- A queued copy of `t` is a waiting owner. -/
theorem waiting_pos_of_mem {s : State} {q : QueueRef} {t : TaskId} (he : (q, t) ∈ s.queue) :
    0 < (s.ownView t).waiting := by
  have := countP_erase_add he fun e => e.2 == t
  simp only [beq_self_eq_true, ite_true] at this
  simp only [ownView_eq]; omega

end State

theorem OwnStep.of_eq {v w w' : OwnView} (h : OwnStep v w) (e : w = w') : OwnStep v w' := e ▸ h

/-- A change of a task that keeps its status, its dropped flag and its spawner moves no
view. -/
theorem State.ownView_setTask {s : State} {u : TaskId} {ts : TaskState}
    (hst : ts.status = (s.task u).status) (hd : ts.dropped = (s.task u).dropped)
    (hsp : ts.spawner = (s.task u).spawner) (t : TaskId) : (s.setTask u ts).ownView t = s.ownView t := by
  by_cases ht : t = u
  · subst ht; simp [ownView_eq, hst, hd, hsp]
  · simp [ownView_eq, ht]

/-- Giving back a borrowed raw waker moves no view. -/
theorem State.returnWaker_ownView (s : State) (o : OpFrame) (t : TaskId) :
    (s.returnWaker o).ownView t = s.ownView t := by
  simp only [returnWaker]
  split
  · refine ownView_setTask ?_ ?_ ?_ t <;> rfl
  · rfl

theorem State.returnWaker_setThread (s : State) (o : OpFrame) (i : ThreadId) (th : Thread) :
    (s.returnWaker o).setThread i th = (s.setThread i th).returnWaker o := by
  simp only [returnWaker]; split <;> rfl

/-! ## §2 One move per step

Each lemma takes the step's inversion lemma apart and checks the view of `t`, first for the
task the step is about and then for any other task (a stutter). -/

variable {s s₁ s' : State} {i : ThreadId} {u : TaskId}

theorem pop_ownStep {q : QueueRef} (hs : pop s i q u = some s') (t : TaskId) :
    OwnStep (s.ownView t) (s'.ownView t) := by
  obtain ⟨th, w, hi, -, hh, -, -, hq, -, rfl⟩ := pop_some hs
  obtain ⟨hw, hr⟩ := counts_le hi t
  have hc := countP_erase_add hq fun e => e.2 == t
  refine (OwnStep.stutter _).of_eq ?_
  by_cases ht : u = t
  · subst ht; simp [ownView_eq, sum_set_map hi, hh] at hw hr hc ⊢; omega
  · simp [ownView_eq, sum_set_map hi, hh, ht] at hw hr hc ⊢; omega

theorem storePolling_ownStep (hs : storePolling s i = some s') (t : TaskId) :
    OwnStep (s.ownView t) (s'.ownView t) := by
  obtain ⟨th, h, hi, hh, hpc, rfl⟩ := storePolling_some hs
  obtain ⟨hw, hr⟩ := counts_le hi t
  by_cases ht : t = h.task
  · subst ht
    refine (OwnStep.startPoll _ ?_).of_eq ?_ <;>
      simp [ownView_eq, sum_set_map hi, hh, hpc] at hw hr ⊢ <;> omega
  · refine (OwnStep.stutter _).of_eq ?_
    simp [ownView_eq, sum_set_map hi, hh, ht, Ne.symm ht] at hw hr ⊢; omega

theorem reschedule_ownStep (hs : reschedule s i = some s') (t : TaskId) :
    OwnStep (s.ownView t) (s'.ownView t) := by
  obtain ⟨th, -, hi, -, -, -, rfl⟩ := reschedule_some hs
  obtain ⟨hw, hr⟩ := counts_le hi t
  refine (OwnStep.stutter _).of_eq ?_
  simp [ownView_eq, sum_set_map hi] at hw hr ⊢; omega

theorem pollReady_ownStep (hs : pollReady s i = some s') (t : TaskId) :
    OwnStep (s.ownView t) (s'.ownView t) := by
  obtain ⟨th, h, hi, hh, hpc, -, -, rfl⟩ := pollReady_some hs
  obtain ⟨hw, hr⟩ := counts_le hi t
  by_cases ht : t = h.task
  · subst ht
    refine (OwnStep.complete _ ?_).of_eq ?_ <;>
      simp [ownView_eq, sum_set_map hi, hh, hpc] at hw hr ⊢ <;> omega
  · refine (OwnStep.stutter _).of_eq ?_
    simp [ownView_eq, sum_set_map hi, hh, ht, Ne.symm ht] at hw hr ⊢; omega

theorem pollPending_ownStep (hs : pollPending s i = some s') (t : TaskId) :
    OwnStep (s.ownView t) (s'.ownView t) := by
  obtain ⟨th, h, hi, hh, hpc, -, -, rfl⟩ := pollPending_some hs
  obtain ⟨hw, hr⟩ := counts_le hi t
  refine (OwnStep.stutter _).of_eq ?_
  simp [ownView_eq, sum_set_map hi, hh, hpc] at hw hr ⊢; omega

theorem pollPanic_ownStep (hs : pollPanic s i = some s') (t : TaskId) :
    OwnStep (s.ownView t) (s'.ownView t) := by
  obtain ⟨th, h, hi, hh, hpc, -, -, rfl⟩ := pollPanic_some hs
  obtain ⟨hw, hr⟩ := counts_le hi t
  by_cases ht : t = h.task
  · subst ht
    refine (OwnStep.panic _ ?_).of_eq ?_ <;>
      simp [ownView_eq, sum_set_map hi, hh, hpc] at hw hr ⊢ <;> omega
  · refine (OwnStep.stutter _).of_eq ?_
    simp [ownView_eq, sum_set_map hi, hh, ht, Ne.symm ht] at hw hr ⊢; omega

theorem ensureRemote_ownStep (hs : ensureRemote s i = some s') (t : TaskId) :
    OwnStep (s.ownView t) (s'.ownView t) := by
  obtain ⟨th, h, hi, hh, hpc, hcase⟩ := ensureRemote_some hs
  obtain ⟨hw, hr⟩ := counts_le hi t
  refine (OwnStep.stutter _).of_eq ?_
  rcases hcase with ⟨-, rfl⟩ | ⟨w, -, -, rfl⟩ | ⟨-, -, rfl⟩
  · simp [ownView_eq, sum_set_map hi, hh, hpc] at hw hr ⊢; omega
  · by_cases ht : t = h.task
    · subst ht; simp [ownView_eq, sum_set_map hi, hh, hpc] at hw hr ⊢; omega
    · simp [ownView_eq, sum_set_map hi, hh, hpc, ht] at hw hr ⊢; omega
  · rfl

theorem casIdle_ownStep {b : Bool} (hs : casIdle s i b = some s') (t : TaskId) :
    OwnStep (s.ownView t) (s'.ownView t) := by
  obtain ⟨th, h, hi, hh, hpc, hcase⟩ := casIdle_some hs
  obtain ⟨hw, hr⟩ := counts_le hi t
  rcases hcase with ⟨hst, rfl⟩ | ⟨hst, rfl⟩ | ⟨-, -, rfl⟩
  · by_cases ht : t = h.task
    · subst ht
      refine (OwnStep.park _ hst ?_).of_eq ?_ <;>
        simp [ownView_eq, sum_set_map hi, hh, hpc] at hw hr ⊢ <;> omega
    · refine (OwnStep.stutter _).of_eq ?_
      simp [ownView_eq, sum_set_map hi, hh, ht, Ne.symm ht] at hw hr ⊢; omega
  · by_cases ht : t = h.task
    · subst ht
      refine (OwnStep.renotified _ hst ?_).of_eq ?_ <;>
        simp [ownView_eq, sum_set_map hi, hh, hpc] at hw hr ⊢ <;> omega
    · refine (OwnStep.stutter _).of_eq ?_
      simp [ownView_eq, sum_set_map hi, hh, ht, Ne.symm ht] at hw hr ⊢; omega
  · exact .stutter _

theorem preempt_ownStep {b : Bool} (hs : preempt s i b = some s') (t : TaskId) :
    OwnStep (s.ownView t) (s'.ownView t) := by
  obtain ⟨th, h, r, hi, hh, hpc, ⟨s₁, hwt, rfl⟩ | ⟨-, rfl⟩⟩ := preempt_some hs
  · obtain ⟨q, e, -, he, -⟩ := wakeTask_some_effect hwt
    obtain ⟨hw, hr⟩ := counts_le hi t
    by_cases ht : t = h.task
    · subst ht
      rcases he.result with ⟨-, hq, htask, -⟩ | ⟨hq, htask, -⟩
      · refine (OwnStep.stutter _).of_eq ?_
        simp [ownView_eq, he.threads, hq, htask, sum_set_map hi, hh, hpc] at hw hr ⊢; omega
      · refine (OwnStep.drop _ ?_).of_eq ?_ <;>
          simp [ownView_eq, he.threads, hq, htask, sum_set_map hi, hh, hpc] at hw hr ⊢ <;> omega
    · refine (OwnStep.stutter _).of_eq ?_
      rcases he.result with ⟨-, hq, -, -⟩ | ⟨hq, -, -⟩ <;>
        simp [ownView_eq, he.threads, he.other t ht, hq, sum_set_map hi, hh, ht, Ne.symm ht] at hw hr ⊢ <;>
        omega
  · exact .stutter _

/-- A vtable call that starts moves no view: it does not start at `wake_task`. -/
theorem startCall_ownStep {src : WakerSrc} {owned : Bool} {pc : OpPc}
    (hs : startCall s i u src owned pc = some s') (hpc : pc ≠ .wakeTask) (t : TaskId) :
    OwnStep (s.ownView t) (s'.ownView t) := by
  obtain ⟨th, hi, ho, -, -, rfl⟩ := startCall_some hs
  obtain ⟨hw, hr⟩ := counts_le hi t
  refine (OwnStep.stutter _).of_eq ?_
  by_cases ht : t = u <;> by_cases hsrc : src = .raw <;>
    simp [ownView_eq, sum_set_map hi, ho, hsrc, hpc, ht] at hw hr ⊢ <;> omega

theorem dropRaw_ownStep (hs : dropRaw s u = some s') (t : TaskId) :
    OwnStep (s.ownView t) (s'.ownView t) := by
  obtain ⟨-, rfl⟩ := dropRaw_some hs
  exact (OwnStep.stutter _).of_eq (by by_cases ht : t = u <;> simp [ownView_eq, ht])

/-- The end of `clone_raw` moves no view: the call held no owner. -/
theorem finishClone_ownView {th : Thread} {o : OpFrame} (hi : s.threads[i]? = some th)
    (ho : th.op = some o) (hpc : o.pc ≠ .wakeTask) (t : TaskId) :
    (finishClone s i th o).ownView t = s.ownView t := by
  obtain ⟨hw, hr⟩ := counts_le hi t
  by_cases ht : t = o.task <;> simp [ownView_eq, sum_set_map hi, ho, hpc, ht] at hw hr ⊢ <;> omega

theorem cloneTaskCheck_ownStep (hs : cloneTaskCheck s i = some s') (t : TaskId) :
    OwnStep (s.ownView t) (s'.ownView t) := by
  obtain ⟨th, o, hi, ho, hpc, ⟨-, rfl⟩ | ⟨-, rfl⟩⟩ := cloneTaskCheck_some hs
  · exact (OwnStep.stutter _).of_eq (finishClone_ownView hi ho (by simp [hpc]) t).symm
  · obtain ⟨hw, hr⟩ := counts_le hi t
    refine (OwnStep.stutter _).of_eq ?_
    simp [ownView_eq, sum_set_map hi, ho, hpc] at hw hr ⊢; omega

theorem cloneTaskSet_ownStep (hs : cloneTaskSet s i = some s') (t : TaskId) :
    OwnStep (s.ownView t) (s'.ownView t) := by
  obtain ⟨th, o, hi, ho, hpc, ⟨w, -, rfl⟩ | ⟨-, rfl⟩⟩ := cloneTaskSet_some hs
  · refine (OwnStep.stutter _).of_eq ?_
    rw [finishClone_ownView (by simpa using hi) ho (by simp [hpc]) t]
    by_cases ht : t = o.task <;> simp [ownView_eq, ht]
  · exact .stutter _

theorem wakeImplLoad_ownStep (hs : wakeImplLoad s i = some s') (t : TaskId) :
    OwnStep (s.ownView t) (s'.ownView t) := by
  obtain ⟨th, o, hi, ho, hpc, rfl⟩ := wakeImplLoad_some hs
  obtain ⟨hw, hr⟩ := counts_le hi t
  refine (OwnStep.stutter _).of_eq ?_
  simp [ownView_eq, sum_set_map hi, ho, hpc] at hw hr ⊢; omega

/-- The end of `wake_impl` without `wake_task` moves no view but the status it wrote. -/
theorem endWake_ownView {th : Thread} {o : OpFrame} (hi : s.threads[i]? = some th)
    (ho : th.op = some o) (hpc : o.pc ≠ .wakeTask) (t : TaskId) :
    (endWake s i th o).ownView t = s.ownView t := by
  obtain ⟨hw, hr⟩ := counts_le hi t
  have hv : (s.setThread i { th with op := none }).ownView t = s.ownView t := by
    by_cases ht : t = o.task <;> simp [ownView_eq, sum_set_map hi, ho, hpc, ht] at hw hr ⊢ <;> omega
  simp only [endWake]
  split
  · rw [decStrong, setThread_setTask_comm]
    refine (ownView_setTask ?_ ?_ ?_ t).trans hv <;> rfl
  · rw [returnWaker_setThread, returnWaker_ownView, hv]

theorem wakeImplCas_ownStep {b : Bool} (hs : wakeImplCas s i b = some s') (t : TaskId) :
    OwnStep (s.ownView t) (s'.ownView t) := by
  obtain ⟨th, o, obs, hi, ho, hpc, hcase⟩ := wakeImplCas_some hs
  obtain ⟨hw, hr⟩ := counts_le hi t
  rcases hcase with ⟨-, hst, rfl⟩ | ⟨-, hst, rfl⟩ | ⟨-, -, rfl⟩ | rfl
  · by_cases ht : t = o.task
    · subst ht
      refine (OwnStep.wakeIdle _ hst).of_eq ?_
      simp [ownView_eq, sum_set_map hi, ho, hpc] at hw hr ⊢; omega
    · refine (OwnStep.stutter _).of_eq ?_
      simp [ownView_eq, sum_set_map hi, ho, hpc, ht, Ne.symm ht] at hw hr ⊢; omega
  · rw [endWake_ownView (by simpa using hi) ho (by simp [hpc]) t]
    by_cases ht : t = o.task
    · subst ht
      exact (OwnStep.wakePolling _ hst).of_eq (by simp [ownView_eq])
    · exact (OwnStep.stutter _).of_eq (by simp [ownView_eq, ht])
  · exact (OwnStep.stutter _).of_eq (endWake_ownView hi ho (by simp [hpc]) t).symm
  · refine (OwnStep.stutter _).of_eq ?_
    simp [ownView_eq, sum_set_map hi, ho, hpc] at hw hr ⊢; omega

theorem wakeImplWakeTask_ownStep {b : Bool} (hs : wakeImplWakeTask s i b = some s')
    (t : TaskId) : OwnStep (s.ownView t) (s'.ownView t) := by
  obtain ⟨th, o, hi, ho, hpc, ⟨s₁, hwt, rfl⟩ | ⟨-, rfl⟩⟩ := wakeImplWakeTask_some hs
  · obtain ⟨q, e, -, he, -⟩ := wakeTask_some_effect hwt
    obtain ⟨hw, hr⟩ := counts_le hi t
    rw [returnWaker_setThread, returnWaker_ownView]
    by_cases ht : t = o.task
    · subst ht
      rcases he.result with ⟨-, hq, htask, -⟩ | ⟨hq, htask, -⟩
      · refine (OwnStep.stutter _).of_eq ?_
        simp [ownView_eq, he.threads, hq, htask, sum_set_map hi, ho, hpc] at hw hr ⊢; omega
      · refine (OwnStep.drop _ ?_).of_eq ?_ <;>
          simp [ownView_eq, he.threads, hq, htask, sum_set_map hi, ho, hpc] at hw hr ⊢ <;> omega
    · refine (OwnStep.stutter _).of_eq ?_
      rcases he.result with ⟨-, hq, -, -⟩ | ⟨hq, -, -⟩ <;>
        simp [ownView_eq, he.threads, he.other t ht, hq, sum_set_map hi, ho, hpc, ht, Ne.symm ht]
          at hw hr ⊢ <;> omega
  · exact .stutter _

theorem spawn_ownStep {p : PoolId} (hs : spawn s u p = some s') (t : TaskId) :
    OwnStep (s.ownView t) (s'.ownView t) := by
  obtain ⟨hsp, rfl⟩ := spawn_some hs
  by_cases ht : t = u
  · subst ht
    by_cases hq : s.accepts (.injector p) = true
    · exact (OwnStep.stutter _).of_eq (by simp [ownView_eq, hq, hsp]; omega)
    · refine (OwnStep.drop _ ?_).of_eq ?_ <;> simp [ownView_eq, hq, hsp]
      omega
  · refine (OwnStep.stutter _).of_eq ?_
    by_cases hq : s.accepts (.injector p) = true <;> simp [ownView_eq, hq, ht, Ne.symm ht]

theorem dropQueued_ownStep {q : QueueRef} (hs : dropQueued s q u = some s') (t : TaskId) :
    OwnStep (s.ownView t) (s'.ownView t) := by
  obtain ⟨hq, -, rfl⟩ := dropQueued_some hs
  have hc := countP_erase_add hq fun e => e.2 == t
  by_cases ht : t = u
  · subst ht
    refine (OwnStep.drop _ (waiting_pos_of_mem hq)).of_eq ?_
    simp [ownView_eq] at hc ⊢; omega
  · refine (OwnStep.stutter _).of_eq ?_
    simp [ownView_eq, ht, Ne.symm ht] at hc ⊢; omega

/-! ## §3 Every step, every run -/

/-- Every step moves each task by one move of the lifecycle machine. -/
theorem step_ownStep {a : Action} (hs : step s a = some s') (t : TaskId) :
    OwnStep (s.ownView t) (s'.ownView t) := by
  unfold step at hs
  split_ifs at hs
  cases a with
  | spawn u p => exact spawn_ownStep hs t
  | pop i q u => exact pop_ownStep hs t
  | storePolling i => exact storePolling_ownStep hs t
  | reschedule i => exact reschedule_ownStep hs t
  | pollReady i => exact pollReady_ownStep hs t
  | pollPending i => exact pollPending_ownStep hs t
  | pollPanic i => exact pollPanic_ownStep hs t
  | ensureRemote i => exact ensureRemote_ownStep hs t
  | casIdle i b => exact casIdle_ownStep hs t
  | preempt i b => exact preempt_ownStep hs t
  | cloneRaw i u src => exact startCall_ownStep hs (by decide) t
  | wakeRaw i u => exact startCall_ownStep hs (by decide) t
  | wakeRefRaw i u src => exact startCall_ownStep hs (by decide) t
  | dropRaw u => exact dropRaw_ownStep hs t
  | cloneTaskCheck i => exact cloneTaskCheck_ownStep hs t
  | cloneTaskSet i => exact cloneTaskSet_ownStep hs t
  | wakeImplLoad i => exact wakeImplLoad_ownStep hs t
  | wakeImplCas i b => exact wakeImplCas_ownStep hs t
  | wakeImplWakeTask i b => exact wakeImplWakeTask_ownStep hs t
  | close p =>
    obtain ⟨-, rfl⟩ := close_some hs
    exact .stutter _
  | destroy p =>
    obtain ⟨-, -, rfl⟩ := destroy_some hs
    exact .stutter _
  | dropQueued q u => exact dropQueued_ownStep hs t

/-- A fresh task has one owner, its spawner. -/
theorem ownView_init (ths : List (Role × Nat)) (t : TaskId) :
    (State.init ths).ownView t = ⟨.notified, false, 1, 0⟩ := by
  simp [ownView_eq, State.init, TaskState.new, Thread.new, Function.comp_def]

/-- The ownership law holds for every task of every reachable state. -/
theorem ownView_ok {s : State} (hs : Reachable s) (t : TaskId) : (s.ownView t).Ok := by
  induction hs with
  | init ths => rw [ownView_init]; exact ⟨rfl, by simp, fun _ => rfl⟩
  | step a _ hstep ih => exact (step_ownStep hstep t).ok ih

/-! ## §4 What follows for the code -/

/-- Every step of a reachable state keeps a task's status or moves it along one edge of the
diagram above the status constants. -/
theorem step_status {s s' : State} {a : Action} (hs : Reachable s) (h : step s a = some s')
    (t : TaskId) :
    (s'.task t).status = (s.task t).status ∨ (s.task t).status.next (s'.task t).status :=
  (step_ownStep h t).status_next (ownView_ok hs t)

/-- Task `0` is popped by worker `0` and its poll starts: `NOTIFIED` becomes `POLLING`. -/
theorem step_status_storePolling :
    ∃ s s', run (State.init [(.worker ⟨0, 0⟩, 5), (.external, 5)])
        [.spawn 0 0, .pop 0 (.injector 0) 0] = some s ∧ step s (.storePolling 0) = some s' ∧
      (s.task 0).status = .notified ∧ (s'.task 0).status = .polling ∧
      ((s'.task 0).status = (s.task 0).status ∨ (s.task 0).status.next (s'.task 0).status) := by
  obtain ⟨s, s', hrun, hs', h₁, h₂⟩ : ∃ s s', run (State.init [(.worker ⟨0, 0⟩, 5), (.external, 5)])
      [.spawn 0 0, .pop 0 (.injector 0) 0] = some s ∧ step s (.storePolling 0) = some s' ∧
      (s.task 0).status = .notified ∧ (s'.task 0).status = .polling := ⟨_, _, rfl, rfl, rfl, rfl⟩
  exact ⟨s, s', hrun, hs', h₁, h₂, step_status ((Reachable.init _).run hrun) hs' 0⟩

/-- Nothing any run does changes a `COMPLETED` task as its owners see it: it stays
`COMPLETED`, dropped or not as it was, and without an owner. -/
theorem completed_final {s s' : State} {as : List Action} (hs : Reachable s)
    (hrun : run s as = some s') {t : TaskId} (hc : (s.task t).status = .completed) :
    s'.ownView t = s.ownView t ∧ s'.owners t = 0 := by
  induction as generalizing s with
  | nil =>
    simp only [run, Option.some.injEq] at hrun
    subst hrun
    refine ⟨rfl, ?_⟩
    rw [owners_eq_ownView]
    exact (ownView_ok hs t).owners_eq_zero (by simp [OwnView.active, ownView, hc])
  | cons a as ih =>
    obtain ⟨s₁, h₁, h₂⟩ := Option.bind_eq_some.1 hrun
    have e := (step_ownStep h₁ t).eq_of_completed (ownView_ok hs t) hc
    have hc₁ : (s₁.task t).status = .completed := (congrArg OwnView.status e).trans hc
    obtain ⟨ih₁, ih₂⟩ := ih (.step a hs h₁) h₂ hc₁
    exact ⟨ih₁.trans e, ih₂⟩

/-- Task `0` completes in its first poll; task `1` is then spawned and popped. -/
theorem completed_final_run :
    ∃ s s', run (State.init [(.worker ⟨0, 0⟩, 5), (.external, 5)])
        [.spawn 0 0, .pop 0 (.injector 0) 0, .storePolling 0, .pollReady 0] = some s ∧
      run s [.spawn 1 0, .pop 0 (.injector 0) 1] = some s' ∧ (s.task 0).status = .completed ∧
      s'.ownView 0 = s.ownView 0 ∧ s'.owners 0 = 0 := by
  obtain ⟨s, s', hrun, hrun', hc⟩ : ∃ s s', run (State.init [(.worker ⟨0, 0⟩, 5), (.external, 5)])
      [.spawn 0 0, .pop 0 (.injector 0) 0, .storePolling 0, .pollReady 0] = some s ∧
      run s [.spawn 1 0, .pop 0 (.injector 0) 1] = some s' ∧ (s.task 0).status = .completed :=
    ⟨_, _, rfl, rfl, rfl⟩
  exact ⟨s, s', hrun, hrun', hc, completed_final ((Reachable.init _).run hrun) hrun' hc⟩

/-- A task in a `handle` call is in no queue, so no other worker can pop it and poll it at
the same time. -/
theorem handled_not_queued {s : State} (hs : Reachable s) {i : ThreadId} {th : Thread}
    {h : HandleFrame} (hi : s.threads[i]? = some th) (hh : th.handle = some h) (q : QueueRef) :
    (q, h.task) ∉ s.queue := by
  intro hq
  have h₁ := (ownView_ok hs h.task).owners_le_one
  rw [← owners_eq_ownView] at h₁
  have h₂ : 1 ≤ s.tsum (Thread.handling h.task) := by
    simpa [hh] using le_tsum hi (Thread.handling h.task)
  have h₃ : 0 < s.queued h.task := List.countP_pos_iff.2 ⟨_, hq, by simp⟩
  unfold owners at h₁
  omega

/-- Worker `0` has popped task `0` and is in its `handle` call. -/
theorem handled_not_queued_pop :
    ∃ s th h, run (State.init [(.worker ⟨0, 0⟩, 5), (.external, 5)])
        [.spawn 0 0, .pop 0 (.injector 0) 0] = some s ∧ s.threads[0]? = some th ∧
      th.handle = some h ∧ ∀ q, (q, h.task) ∉ s.queue := by
  obtain ⟨s, th, h, hrun, hi, hh⟩ : ∃ s th h, run (State.init [(.worker ⟨0, 0⟩, 5), (.external, 5)])
      [.spawn 0 0, .pop 0 (.injector 0) 0] = some s ∧ s.threads[0]? = some th ∧
      th.handle = some h := ⟨_, _, _, rfl, rfl, rfl⟩
  exact ⟨s, th, h, hrun, hi, hh, handled_not_queued ((Reachable.init _).run hrun) hi hh⟩

end Yatp.Future
