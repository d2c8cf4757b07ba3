import Yatp.Future.Panics
import Yatp.Future.RefCount

/-!
# Future Tasks: What the Unsafe Code Relies On

`src/task/future.rs` shares one `Task` between threads through raw pointers and two
`UnsafeCell`s, and relies on the protocol where Rust cannot check it:

- `handle` takes `&mut *task.future.get()` to poll: no other thread may poll at once;
- the vtable functions rebuild an `Arc<Task>` from a raw pointer: the allocation must still
  be alive, so the strong count reaches zero only once nothing refers to the task;
- `handle` writes `extras.remote` through `&mut *task.extras.get()` with no lock: no other
  thread may touch the task then.

The second needs one more fact about the wakers: a vtable call on the `&Waker` that
`Context` lends a poll runs inside that poll (`ContextLent`), since `poll` returns only once
nothing borrows its context.

## Key results

- `contextLent_reachable`: a call on the context waker of a poll runs inside that poll.
- `poll_exclusive`: a thread inside the poll of a task is the only thread in a `handle`
  call on it, and the task is `POLLING` (or `NOTIFIED`) and was not dropped.
- `strong_zero_unreferenced`: once the strong count is zero, no `TaskCell`, raw waker,
  `handle` call or vtable call refers to the task.
- `ensureRemote_exclusive`: when `handle` assigns `extras.remote`, no other thread is in a
  `handle` call on the task or in a call on one of its wakers.
- `cloneSet_exclusive`: when a worker's `clone_task` assigns `extras.remote`, the only other
  calls on the task are on threads outside every pool, through the context waker of the
  worker's poll.
-/

namespace Yatp.Future

open State

variable {s s' : State} {i : ThreadId}

/-! ## §1 The lent context waker -/

/-- Thread `k` is inside a poll of task `t`. -/
def State.pollsAt (s : State) (k : ThreadId) (t : TaskId) : Prop :=
  ∃ th h, s.threads[k]? = some th ∧ th.handle = some h ∧ h.pc = .polling ∧ h.task = t

/-- Every vtable call on the context waker of thread `k` runs inside a poll of its task on
thread `k`. -/
abbrev ContextLent (s : State) : Prop :=
  ∀ (j : ThreadId) (th : Thread) (o : OpFrame) (k : ThreadId), s.threads[j]? = some th →
    th.op = some o → o.src = .context k → s.pollsAt k o.task

theorem State.pollsAt_of_threads {k : ThreadId} {t : TaskId} (e : s'.threads = s.threads)
    (h : s.pollsAt k t) : s'.pollsAt k t := by
  rw [pollsAt, e]; exact h

/-- The `handle` call of a thread that polls is the poll. -/
theorem State.pollsAt.frame {k : ThreadId} {t : TaskId} {th : Thread} {h : HandleFrame}
    (hp : s.pollsAt k t) (hk : s.threads[k]? = some th) (hh : th.handle = some h) :
    h.pc = .polling ∧ h.task = t := by
  obtain ⟨th₁, h₁, hk₁, hh₁, hpc, ht⟩ := hp
  rw [hk, Option.some.injEq] at hk₁; subst hk₁
  rw [hh, Option.some.injEq] at hh₁; subst hh₁
  exact ⟨hpc, ht⟩

theorem ContextLent.of_threads (h : ContextLent s) (e : s'.threads = s.threads) :
    ContextLent s' := fun j th o k hj ho hk =>
  pollsAt_of_threads e (h j th o k (e ▸ hj) ho hk)

/-- No call on the context waker of thread `i` is running. -/
theorem State.contextFree_op (hf : s.contextFree i = true) {j : ThreadId} {th : Thread}
    {o : OpFrame} (hj : s.threads[j]? = some th) (ho : th.op = some o) : o.src ≠ .context i := by
  simpa [ho] using List.all_eq_true.1 hf th (List.getElem?_mem hj)

theorem State.returnWaker_threads (o : OpFrame) : (s.returnWaker o).threads = s.threads := by
  simp only [returnWaker]; split <;> rfl

theorem State.endWake_threads (th : Thread) (o : OpFrame) :
    (s.endWake i th o).threads = s.threads.set i { th with op := none } := by
  simp only [endWake, setThread_threads]
  split
  · rfl
  · rw [returnWaker_threads]

theorem State.setThread_threads_of {s₁ : State} {th : Thread} (e : s₁.threads = s.threads) :
    (s₁.setThread i th).threads = s.threads.set i th := by
  rw [setThread_threads, e]

/-- A poll on another thread, or one that goes on, is still there after thread `i`
changes. -/
theorem State.pollsAt_setThread {th th' : Thread} {k : ThreadId} {t : TaskId}
    (e : s'.threads = s.threads.set i th') (hi : s.threads[i]? = some th) (hk : s.pollsAt k t)
    (hpoll : k = i → ∀ hd, th.handle = some hd → hd.pc = .polling → th'.handle = some hd) :
    s'.pollsAt k t := by
  obtain ⟨thk, hd, hk, hh, hpc, ht⟩ := hk
  rw [pollsAt, e]
  by_cases hki : k = i
  · subst hki
    rw [hi, Option.some.injEq] at hk; subst hk
    exact ⟨th', hd, List.getElem?_set_self (List.getElem?_eq_some_iff.1 hi).1,
      hpoll rfl hd hh hpc, hpc, ht⟩
  · exact ⟨thk, hd, by rw [List.getElem?_set_ne (Ne.symm hki)]; exact hk, hh, hpc, ht⟩

/-- Thread `i` changes: its vtable call, if any, may use the context waker it names, and its
poll goes on, or no call uses the context waker of `i` and thread `i` runs none. -/
theorem ContextLent.setThread (h : ContextLent s) {th th' : Thread}
    (e : s'.threads = s.threads.set i th') (hi : s.threads[i]? = some th)
    (hop : ∀ o k, th'.op = some o → o.src = .context k → s.pollsAt k o.task)
    (hh : (∀ hd, th.handle = some hd → hd.pc = .polling → th'.handle = some hd) ∨
      (s.contextFree i = true ∧ th'.op = none)) :
    ContextLent s' := by
  intro j th₂ o k hj ho hk
  have hlt := (List.getElem?_eq_some_iff.1 hi).1
  refine pollsAt_setThread e hi ?_ fun hki => ?_
  · by_cases hji : i = j
    · subst hji
      rw [e, List.getElem?_set_self hlt, Option.some.injEq] at hj
      subst hj
      exact hop o k ho hk
    · rw [e, List.getElem?_set_ne hji] at hj
      exact h j th₂ o k hj ho hk
  · rcases hh with hh | ⟨hf, hnone⟩
    · exact hh
    · subst hki
      by_cases hji : k = j
      · subst hji
        rw [e, List.getElem?_set_self hlt, Option.some.injEq] at hj
        subst hj; rw [hnone] at ho; cases ho
      · rw [e, List.getElem?_set_ne hji] at hj
        exact absurd hk (contextFree_op hf hj ho)

/-- Thread `i` changes its vtable call (or ends it) but keeps its source and task, and its
`handle` call does not leave a poll. -/
theorem ContextLent.setThread_op (h : ContextLent s) {th th' : Thread}
    (e : s'.threads = s.threads.set i th') (hi : s.threads[i]? = some th)
    (hop : ∀ o', th'.op = some o' → ∃ o, th.op = some o ∧ o.src = o'.src ∧ o.task = o'.task)
    (hh : ∀ hd, th.handle = some hd → hd.pc = .polling → th'.handle = some hd) :
    ContextLent s' :=
  h.setThread e hi (fun o' k ho' hk => by
    obtain ⟨o, ho, hsrc, ht⟩ := hop o' ho'
    exact ht ▸ h i th o k hi ho (hsrc.trans hk)) (.inl hh)

/-- Thread `i` changes only its `handle` call, and does not leave a poll. -/
theorem ContextLent.setThread_handle (h : ContextLent s) {th th' : Thread}
    (e : s'.threads = s.threads.set i th') (hi : s.threads[i]? = some th) (hop : th'.op = th.op)
    (hh : ∀ hd, th.handle = some hd → hd.pc = .polling → th'.handle = some hd) :
    ContextLent s' :=
  h.setThread_op e hi (fun o' ho' => ⟨o', hop.symm.trans ho', rfl, rfl⟩) hh

/-- Thread `i` moves its vtable call on to program point `pc`. -/
theorem ContextLent.setThread_pc (h : ContextLent s) {th : Thread} {o : OpFrame} {pc : OpPc}
    (e : s'.threads = s.threads.set i { th with op := some { o with pc := pc } })
    (hi : s.threads[i]? = some th) (ho : th.op = some o) : ContextLent s' :=
  h.setThread_op e hi (fun o' ho' => ⟨o, ho, by cases ho'; rfl, by cases ho'; rfl⟩)
    fun _ hd _ => hd

/-- Thread `i` returns from its vtable call. -/
theorem ContextLent.endOp (h : ContextLent s) {th : Thread}
    (e : s'.threads = s.threads.set i { th with op := none }) (hi : s.threads[i]? = some th) :
    ContextLent s' :=
  h.setThread_op e hi nofun fun _ hd _ => hd

/-- A thread may call the context waker of thread `k` only inside a poll on thread `k`. -/
theorem State.pollsAt_of_wakerReady {th : Thread} {t : TaskId} {k : ThreadId}
    (hr : s.wakerReady i th t (.context k) = true) : s.pollsAt k t := by
  simp only [wakerReady, Bool.and_eq_true] at hr
  cases hat : s.handleAt k with
  | none => simp [hat] at hr
  | some p =>
    obtain ⟨hk, hh⟩ := handleAt_eq_some.1 hat
    simp only [hat, Option.any_some, Bool.and_eq_true, beq_iff_eq] at hr
    exact ⟨p.1, p.2, hk, hh, hr.2.2, hr.2.1⟩

/-- A `handle` call outside its poll has no poll to keep. -/
theorem keepsPoll_of_not_polling {th : Thread} {h : HandleFrame} (hh : th.handle = some h)
    (hpc : h.pc ≠ .polling) (th' : Thread) :
    ∀ hd, th.handle = some hd → hd.pc = .polling → th'.handle = some hd :=
  fun _ hd' hpc' => absurd (Option.some.inj (hh.symm.trans hd') ▸ hpc') hpc

theorem step_contextLent {a : Action} (hs : step s a = some s') (h : ContextLent s) :
    ContextLent s' := by
  unfold step at hs
  split_ifs at hs
  cases a with
  | spawn t p =>
    obtain ⟨-, rfl⟩ := spawn_some hs
    exact h.of_threads (by unfold push; split <;> rfl)
  | pop i q t =>
    obtain ⟨th, w, hi, -, hh, -, -, -, -, rfl⟩ := pop_some hs
    exact h.setThread_handle rfl hi rfl fun _ hd' => by rw [hh] at hd'; cases hd'
  | storePolling i =>
    obtain ⟨th, hd, hi, hh, hpc, rfl⟩ := storePolling_some hs
    exact h.setThread_handle rfl hi rfl (keepsPoll_of_not_polling hh (by simp [hpc]) _)
  | reschedule i =>
    obtain ⟨th, -, hi, -, -, -, rfl⟩ := reschedule_some hs
    exact h.setThread_handle rfl hi rfl fun _ hd _ => hd
  | pollReady i =>
    obtain ⟨th, -, hi, -, -, ho, hf, rfl⟩ := pollReady_some hs
    exact h.setThread rfl hi (fun o k ho' => by simp [ho] at ho') (.inr ⟨hf, ho⟩)
  | pollPending i =>
    obtain ⟨th, -, hi, -, -, ho, hf, rfl⟩ := pollPending_some hs
    exact h.setThread rfl hi (fun o k ho' => by simp [ho] at ho') (.inr ⟨hf, ho⟩)
  | pollPanic i =>
    obtain ⟨th, -, hi, -, -, ho, hf, rfl⟩ := pollPanic_some hs
    exact h.setThread rfl hi (fun o k ho' => by simp [ho] at ho') (.inr ⟨hf, ho⟩)
  | ensureRemote i =>
    obtain ⟨th, hd, hi, hh, hpc, hcase⟩ := ensureRemote_some hs
    have hkeep := keepsPoll_of_not_polling hh (by simp [hpc])
    rcases hcase with ⟨-, rfl⟩ | ⟨w, -, -, rfl⟩ | ⟨-, -, rfl⟩
    · exact h.setThread_handle rfl hi rfl (hkeep _)
    · exact h.setThread_handle rfl hi rfl (hkeep _)
    · exact h.of_threads rfl
  | casIdle i b =>
    obtain ⟨th, hd, hi, hh, hpc, hcase⟩ := casIdle_some hs
    have hkeep := keepsPoll_of_not_polling hh (by simp [hpc])
    rcases hcase with ⟨-, rfl⟩ | ⟨-, rfl⟩ | ⟨-, -, rfl⟩
    · exact h.setThread_handle rfl hi rfl (hkeep _)
    · exact h.setThread_handle rfl hi rfl (hkeep _)
    · exact h.of_threads rfl
  | preempt i b =>
    obtain ⟨th, hd, r, hi, hh, hpc, ⟨s₁, hwt, rfl⟩ | ⟨-, rfl⟩⟩ := preempt_some hs
    · obtain ⟨q, e, -, he, -⟩ := wakeTask_some_effect hwt
      exact h.setThread_handle (setThread_threads_of he.threads) hi rfl
        (keepsPoll_of_not_polling hh (by simp [hpc]) _)
    · exact h.of_threads rfl
  | cloneRaw i t src | wakeRaw i t | wakeRefRaw i t src =>
    obtain ⟨th, hi, -, -, hr, rfl⟩ := startCall_some hs
    split <;> refine h.setThread rfl hi (fun o k ho hk => ?_) (.inl fun _ hd _ => hd) <;>
      cases ho <;> cases hk <;> exact pollsAt_of_wakerReady hr
  | dropRaw t =>
    obtain ⟨-, rfl⟩ := dropRaw_some hs
    exact h.of_threads rfl
  | cloneTaskCheck i =>
    obtain ⟨th, o, hi, ho, -, ⟨-, rfl⟩ | ⟨-, rfl⟩⟩ := cloneTaskCheck_some hs
    · exact h.endOp rfl hi
    · exact h.setThread_pc rfl hi ho
  | cloneTaskSet i =>
    obtain ⟨th, o, hi, ho, -, ⟨w, -, rfl⟩ | ⟨-, rfl⟩⟩ := cloneTaskSet_some hs
    · exact h.endOp rfl hi
    · exact h.of_threads rfl
  | wakeImplLoad i =>
    obtain ⟨th, o, hi, ho, -, rfl⟩ := wakeImplLoad_some hs
    exact h.setThread_pc rfl hi ho
  | wakeImplCas i b =>
    obtain ⟨th, o, obs, hi, ho, -, ⟨-, -, rfl⟩ | ⟨-, -, rfl⟩ | ⟨-, -, rfl⟩ | rfl⟩ :=
      wakeImplCas_some hs
    · exact h.setThread_pc rfl hi ho
    · exact h.endOp (endWake_threads th o) hi
    · exact h.endOp (endWake_threads th o) hi
    · exact h.setThread_pc rfl hi ho
  | wakeImplWakeTask i b =>
    obtain ⟨th, o, hi, ho, -, ⟨s₁, hwt, rfl⟩ | ⟨-, rfl⟩⟩ := wakeImplWakeTask_some hs
    · obtain ⟨q, e, -, he, -⟩ := wakeTask_some_effect hwt
      exact h.endOp (setThread_threads_of ((returnWaker_threads o).trans he.threads)) hi
    · exact h.of_threads rfl
  | close p =>
    obtain ⟨-, rfl⟩ := close_some hs
    exact h.of_threads rfl
  | destroy p =>
    obtain ⟨-, -, rfl⟩ := destroy_some hs
    exact h.of_threads rfl
  | dropQueued q t =>
    obtain ⟨-, -, rfl⟩ := dropQueued_some hs
    exact h.of_threads rfl

/-- In every reachable state a call on the context waker of a poll runs inside that poll. -/
theorem contextLent_reachable (hs : Reachable s) : ContextLent s := by
  induction hs with
  | init ths =>
    intro j th o k hj ho
    simp only [State.init, List.getElem?_map, Option.map_eq_some'] at hj
    obtain ⟨r, -, rfl⟩ := hj
    cases ho
  | step a _ hstep ih => exact step_contextLent hstep ih

/-! ## §2 One poll at a time -/

/-- A `handle` call inside its poll window is the running owner of its task, so the task is
active. -/
theorem running_active (hs : Reachable s) {th : Thread} {h : HandleFrame}
    (hi : s.threads[i]? = some th) (hh : th.handle = some h) (hpc : h.pc.outsidePoll = false) :
    (s.ownView h.task).active = true := by
  have hc := (ownView_ok hs h.task).count
  have hr : 1 ≤ (s.ownView h.task).running := by
    simpa [ownView_eq, hh, hpc] using (counts_le hi h.task).2
  by_contra hn
  rw [if_neg hn] at hc; omega

/-- While a thread polls a future, no other thread is in a `handle` call on its task, and the
task is `POLLING` (or `NOTIFIED` by a wake during the poll) and was not dropped: the
`&mut *task.future.get()` of `handle` is the only reference to the future. -/
theorem poll_exclusive (hs : Reachable s) {th : Thread} {h : HandleFrame}
    (hi : s.threads[i]? = some th) (hh : th.handle = some h) (hpc : h.pc = .polling) :
    ((s.task h.task).status = .polling ∨ (s.task h.task).status = .notified) ∧
      (s.task h.task).dropped = false ∧
      ∀ (j : ThreadId) (th' : Thread) (h' : HandleFrame), s.threads[j]? = some th' →
        th'.handle = some h' → h'.task = h.task → j = i := by
  have hact := running_active hs hi hh (by rw [hpc]; rfl)
  simp only [OwnView.active, ownView, Bool.and_eq_true, Bool.not_eq_true', Bool.or_eq_true,
    beq_iff_eq] at hact
  exact ⟨hact.2.symm, hact.1, fun j th' h' hj hh' ht => handle_unique hs hj hi hh' hh ht⟩

/-- The first poll of a spawned task. -/
theorem poll_exclusive_first :
    ∃ s th h, run (State.init [(.worker ⟨0, 0⟩, 5), (.external, 5)])
        [.spawn 0 0, .pop 0 (.injector 0) 0, .storePolling 0] = some s ∧
      s.threads[0]? = some th ∧ th.handle = some h ∧ h.pc = .polling ∧
      ((s.task h.task).status = .polling ∨ (s.task h.task).status = .notified) ∧
      (s.task h.task).dropped = false ∧
      ∀ (j : ThreadId) (th' : Thread) (h' : HandleFrame), s.threads[j]? = some th' →
        th'.handle = some h' → h'.task = h.task → j = 0 := by
  obtain ⟨s, th, h, hrun, hi, hh, hpc⟩ : ∃ s th h,
      run (State.init [(.worker ⟨0, 0⟩, 5), (.external, 5)])
        [.spawn 0 0, .pop 0 (.injector 0) 0, .storePolling 0] = some s ∧
      s.threads[0]? = some th ∧ th.handle = some h ∧ h.pc = .polling :=
    ⟨_, _, _, rfl, rfl, rfl, rfl⟩
  exact ⟨s, th, h, hrun, hi, hh, hpc, poll_exclusive ((Reachable.init _).run hrun) hi hh hpc⟩

/-! ## §3 No reference outlives the count -/

theorem counted_reachable (hs : Reachable s) (t : TaskId) : Counted s t := by
  induction hs with
  | init ths => simp [Counted, holders_eq, State.init, TaskState.new, Thread.new, Function.comp_def]
  | step a hs' hstep ih => exact step_strong hstep (threadsWF_reachable hs') ih

/-- Once the strong count of a task is zero, nothing refers to it any more: not the spawner,
a queue, a raw waker, a `handle` call or a vtable call, one on a borrowed context waker
included. The vtable functions never rebuild an `Arc<Task>` of a freed task. -/
theorem strong_zero_unreferenced (hs : Reachable s) {t : TaskId} (h0 : (s.task t).strong = 0) :
    (s.task t).spawner = false ∧ (s.task t).wakers = 0 ∧ (∀ q, (q, t) ∉ s.queue) ∧
      ∀ (j : ThreadId) (th : Thread), s.threads[j]? = some th →
        (∀ h, th.handle = some h → h.task ≠ t) ∧ ∀ o, th.op = some o → o.task ≠ t := by
  have hc := counted_reachable hs t
  rw [Counted, h0, holders_eq] at hc
  have hnone : ∀ (j : ThreadId) (th : Thread), s.threads[j]? = some th →
      ∀ h, th.handle = some h → h.task ≠ t :=
    fun j th hj h hh ht => by
      have := (holds_le hj t).1
      simp [hh, ht] at this; omega
  refine ⟨?spawner, by omega, fun q hq => ?queue,
    fun j th hj => ⟨hnone j th hj, fun o ho hot => ?op⟩⟩
  case spawner => cases hsp : (s.task t).spawner <;> simp [hsp] at hc ⊢; omega
  case queue =>
    have := countP_erase_add hq fun e => e.2 == t
    simp only [beq_self_eq_true, ite_true] at this; omega
  case op =>
    by_cases hown : (o.owned || o.src == .raw) = true
    · have := (holds_le hj t).2
      simp [ho, hot, hown] at this; omega
    · cases hsrc : o.src with
      | raw => simp [hsrc] at hown
      | context k =>
        obtain ⟨thk, hd, hk, hh, -, ht⟩ := contextLent_reachable hs j th o k hj ho hsrc
        exact hnone k thk hk hd hh (ht.trans hot)

/-- A task polled to completion on its first poll has dropped every count. -/
theorem strong_zero_unreferenced_ready :
    ∃ s, run (State.init [(.worker ⟨0, 0⟩, 5)])
        [.spawn 0 0, .pop 0 (.injector 0) 0, .storePolling 0, .pollReady 0] = some s ∧
      (s.task 0).strong = 0 ∧ (s.task 0).spawner = false ∧ (s.task 0).wakers = 0 ∧
      (∀ q, (q, 0) ∉ s.queue) ∧ ∀ (j : ThreadId) (th : Thread), s.threads[j]? = some th →
        (∀ h, th.handle = some h → h.task ≠ 0) ∧ ∀ o, th.op = some o → o.task ≠ 0 := by
  obtain ⟨s, hrun, h0⟩ : ∃ s, run (State.init [(.worker ⟨0, 0⟩, 5)])
      [.spawn 0 0, .pop 0 (.injector 0) 0, .storePolling 0, .pollReady 0] = some s ∧
      (s.task 0).strong = 0 := ⟨_, rfl, rfl⟩
  exact ⟨s, hrun, h0, strong_zero_unreferenced ((Reachable.init _).run hrun) h0⟩

/-! ## §4 The assignment of `extras.remote` -/

/-- When `handle` assigns `extras.remote` through `&mut *task.extras.get()`, its own thread
is in no vtable call and no other thread is in a `handle` call on the task or in a vtable
call on one of its wakers: the write races with nothing. -/
theorem ensureRemote_exclusive (hs : Reachable s) {th : Thread} {h : HandleFrame}
    (hi : s.threads[i]? = some th) (hh : th.handle = some h) (hpc : h.pc = .setRemote)
    (hr : (s.task h.task).remote = none) :
    th.op = none ∧ ∀ (j : ThreadId) (th' : Thread), j ≠ i → s.threads[j]? = some th' →
      (∀ h', th'.handle = some h' → h'.task ≠ h.task) ∧ ∀ o, th'.op = some o → o.task ≠ h.task := by
  refine ⟨(threadsWF_reachable hs i th hi).op_none hh (by simp [hpc]), fun j th' hji hj =>
    ⟨fun h' hh' ht => hji (handle_unique hs hj hi hh' hh ht), fun o ho ht => ?_⟩⟩
  cases hsrc : o.src with
  | raw => exact ((remoteInv_reachable hs h.task).threads j th' hj).op o ho ht |>.1 (.inl hsrc) hr
  | context k =>
    have hp := contextLent_reachable hs j th' o k hj ho hsrc
    obtain ⟨thk, hd, hk, hhk, -, htk⟩ := id hp
    obtain rfl := handle_unique hs hk hi hhk hh (htk.trans ht)
    exact absurd (hp.frame hi hh).1 (by rw [hpc]; decide)

/-- The first poll of a spawned task returned `Pending`, and the task has no remote yet. -/
theorem ensureRemote_exclusive_pending :
    ∃ s th h, run (State.init [(.worker ⟨0, 0⟩, 5), (.external, 5)])
        [.spawn 0 0, .pop 0 (.injector 0) 0, .storePolling 0, .pollPending 0] = some s ∧
      s.threads[0]? = some th ∧ th.handle = some h ∧ h.pc = .setRemote ∧
      (s.task h.task).remote = none ∧ th.op = none ∧
      ∀ (j : ThreadId) (th' : Thread), j ≠ 0 → s.threads[j]? = some th' →
        (∀ h', th'.handle = some h' → h'.task ≠ h.task) ∧
          ∀ o, th'.op = some o → o.task ≠ h.task := by
  obtain ⟨s, th, h, hrun, hi, hh, hpc, ht, hr⟩ : ∃ s th h,
      run (State.init [(.worker ⟨0, 0⟩, 5), (.external, 5)])
        [.spawn 0 0, .pop 0 (.injector 0) 0, .storePolling 0, .pollPending 0] = some s ∧
      s.threads[0]? = some th ∧ th.handle = some h ∧ h.pc = .setRemote ∧ h.task = 0 ∧
      (s.task 0).remote = none :=
    ⟨_, _, _, rfl, rfl, rfl, rfl, rfl, rfl⟩
  rw [← ht] at hr
  exact ⟨s, th, h, hrun, hi, hh, hpc, hr,
    ensureRemote_exclusive ((Reachable.init _).run hrun) hi hh hpc hr⟩

/-- A vtable call of a worker on a task with no remote yet, as `clone_task` is when it
assigns `extras.remote`, runs inside the worker's own poll of the task; no other thread is in
a `handle` call on the task, and every other vtable call on it runs on a thread outside every
pool, on the context waker lent to that poll. -/
theorem cloneSet_exclusive (hs : Reachable s) {th : Thread} {o : OpFrame}
    (hi : s.threads[i]? = some th) (ho : th.op = some o) (hw : th.role ≠ .external)
    (hr : (s.task o.task).remote = none) :
    s.pollsAt i o.task ∧ ∀ (j : ThreadId) (th' : Thread), j ≠ i → s.threads[j]? = some th' →
      (∀ h', th'.handle = some h' → h'.task ≠ o.task) ∧
      ∀ o', th'.op = some o' → o'.task = o.task → th'.role = .external ∧ o'.src = .context i := by
  have hwf := threadsWF_reachable hs
  have hinv := remoteInv_reachable hs o.task
  obtain ⟨h, hh, ht, hpc⟩ := op_polling hwf hinv hr hi ho rfl hw
  have honly : ∀ (j : ThreadId) (th' : Thread) (h' : HandleFrame), s.threads[j]? = some th' →
      th'.handle = some h' → h'.task = o.task → j = i :=
    fun j th' h' hj hh' ht' => handle_unique hs hj hi hh' hh (ht'.trans ht.symm)
  refine ⟨⟨th, h, hi, hh, hpc, ht⟩, fun j th' hji hj =>
    ⟨fun h' hh' ht' => hji (honly j th' h' hj hh' ht'), fun o' ho' ht' => ⟨?role, ?src⟩⟩⟩
  case role =>
    by_contra hx
    obtain ⟨h', hh', ht'', -⟩ := op_polling hwf hinv hr hj ho' ht' hx
    exact hji (honly j th' h' hj hh' ht'')
  case src =>
    cases hsrc : o'.src with
    | raw => exact absurd hr ((hinv.threads j th' hj).op o' ho' ht' |>.1 (.inl hsrc))
    | context k =>
      obtain ⟨thk, hk, hik, hhk, -, htk⟩ := contextLent_reachable hs j th' o' k hj ho' hsrc
      rw [honly k thk hk hik hhk (htk.trans ht')]

/-- A poll clones its context waker before the task has a remote. -/
theorem cloneSet_exclusive_first :
    ∃ s th o, run (State.init [(.worker ⟨0, 0⟩, 5), (.external, 5)])
        [.spawn 0 0, .pop 0 (.injector 0) 0, .storePolling 0, .cloneRaw 0 0 (.context 0),
          .cloneTaskCheck 0] = some s ∧
      s.threads[0]? = some th ∧ th.op = some o ∧ o.pc = .cloneSet ∧ th.role ≠ .external ∧
      (s.task o.task).remote = none ∧ s.pollsAt 0 o.task ∧
      ∀ (j : ThreadId) (th' : Thread), j ≠ 0 → s.threads[j]? = some th' →
        (∀ h', th'.handle = some h' → h'.task ≠ o.task) ∧
        ∀ o', th'.op = some o' → o'.task = o.task → th'.role = .external ∧ o'.src = .context 0 := by
  obtain ⟨s, th, o, hrun, hi, ho, hpc, hw, ht, hr⟩ : ∃ s th o,
      run (State.init [(.worker ⟨0, 0⟩, 5), (.external, 5)])
        [.spawn 0 0, .pop 0 (.injector 0) 0, .storePolling 0, .cloneRaw 0 0 (.context 0),
          .cloneTaskCheck 0] = some s ∧
      s.threads[0]? = some th ∧ th.op = some o ∧ o.pc = .cloneSet ∧ th.role ≠ .external ∧
      o.task = 0 ∧ (s.task 0).remote = none :=
    ⟨_, _, _, rfl, rfl, rfl, rfl, by decide, rfl, rfl⟩
  rw [← ht] at hr
  exact ⟨s, th, o, hrun, hi, ho, hpc, hw, hr,
    cloneSet_exclusive ((Reachable.init _).run hrun) hi ho hw hr⟩

end Yatp.Future
