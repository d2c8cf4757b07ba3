import Yatp.Future.Ownership
import Yatp.Future.Threads

/-!
# Future Tasks: the Pool of a Task

Every future task belongs to one pool: the pool its spawner pushed it to (`home`). This
module proves that everything that routes the task agrees on that pool:

- every copy of the task in a queue is in a queue of that pool, and so is every push;
- every `handle` call on the task runs on a worker of that pool;
- `extras.remote`, once assigned, is that pool's `WeakRemote`, and so is the pool of the
  worker that first polled the task;
- `extras.remote` is assigned before the task can go `IDLE`, before a raw waker of it
  exists, before the loop of `handle` reaches its compare-exchange, and before any call of
  `wake_task` on it; so the `expect` in `wake_task` never panics;
- `extras.remote` is assigned at most once.

The thread part of the invariant (`Thread.PoolOk`) reads the task only through its pool
and its remote, so that the many steps that change neither move no thread's part.

## Key results

- `step_remoteInv`: every step keeps `RemoteInv`; `remoteInv_reachable`.
- `step_poolView_le`, `run_poolView_le`: a step sets the pool, the remote and the first
  poller's pool only where they were unset, so once set no run changes them.
- `routes_to_first_pool`: everything that routes a task agrees on the pool of the worker
  that first polled it.
-/

namespace Yatp.Future

open State

/-! ## §1 The invariant -/

/-- What a task's own fields keep true about its pool and its remote. -/
structure TaskState.PoolOk (ts : TaskState) : Prop where
  /-- Before the spawner's push the task has no pool. -/
  spawner : ts.spawner = true → ts.home = none
  /-- The remote, once set, is the pool's. -/
  remote : ts.remote = none ∨ ts.remote = ts.home
  /-- The pool of the worker that first polled the task is the task's pool. -/
  firstPoll : ts.firstPoll = none ∨ ts.firstPoll = ts.home
  /-- An `IDLE` task has its remote. -/
  idle : ts.status = .idle → ts.remote ≠ none
  /-- A raw waker exists only once the remote is set. -/
  wakers : 0 < ts.wakers → ts.remote ≠ none

/-- A task update keeps the task's part when it keeps the spawner, the pool and the remote,
and makes the task `IDLE`, gives it a raw waker or records its first poll only where the
part allows it. -/
theorem TaskState.PoolOk.keep {ts ts' : TaskState} (h : ts.PoolOk)
    (hsp : ts'.spawner = ts.spawner) (hh : ts'.home = ts.home) (hr : ts'.remote = ts.remote)
    (hf : ts'.firstPoll = ts.firstPoll ∨ ts'.firstPoll = ts.home)
    (hst : ts'.status = ts.status ∨ ts'.status ≠ .idle ∨ ts.remote ≠ none)
    (hw : ts'.wakers ≤ ts.wakers ∨ ts.remote ≠ none) : ts'.PoolOk := by
  refine ⟨fun hs => hh ▸ h.spawner (hsp ▸ hs), by rw [hr, hh]; exact h.remote, ?_, fun hs => ?_,
    fun hw' => ?_⟩
  · rw [hh]; rcases hf with hf | hf
    · rw [hf]; exact h.firstPoll
    · exact .inr hf
  · rw [hr]; rcases hst with e | e | e
    · exact h.idle (e ▸ hs)
    · exact absurd hs e
    · exact e
  · rw [hr]; rcases hw with e | e
    · exact h.wakers (by omega)
    · exact e

/-- What thread `th` may hold of task `t`, given the task's pool `home` and its `remote`. -/
structure Thread.PoolOk (t : TaskId) (home remote : Option PoolId) (th : Thread) : Prop where
  /-- A `handle` call on `t` runs on a worker of `t`'s pool; past its assignment of
  `extras.remote` it sees the remote set. -/
  handle : ∀ h, th.handle = some h → h.task = t →
    (∃ w, th.role = .worker w ∧ home = some w.pool) ∧
    (h.pc = .casIdle ∨ (∃ r, h.pc = .wakeTask r) → remote ≠ none)
  /-- A vtable call on a raw waker of `t`, or one about to call `wake_task`, sees the remote
  set; a worker about to assign the remote in `clone_task` sees it unset. -/
  op : ∀ o, th.op = some o → o.task = t →
    (o.src = .raw ∨ o.pc = .wakeTask → remote ≠ none) ∧
    (o.pc = .cloneSet → th.role ≠ .external → remote = none)

/-- The pool invariant of task `t`. -/
structure RemoteInv (s : State) (t : TaskId) : Prop where
  task : (s.task t).PoolOk
  threads : ∀ (j : ThreadId) (th : Thread), s.threads[j]? = some th →
    th.PoolOk t (s.task t).home (s.task t).remote
  queue : ∀ q, (q, t) ∈ s.queue → (s.task t).home = some q.pool
  log : ∀ q b, Event.push t q b ∈ s.log → (s.task t).home = some q.pool

/-- At most one thread is in a `handle` call on a task: both would be owners. -/
theorem handle_unique {s : State} (hs : Reachable s) {i j : ThreadId} {th th' : Thread}
    {h h' : HandleFrame} (hi : s.threads[i]? = some th) (hj : s.threads[j]? = some th')
    (hh : th.handle = some h) (hh' : th'.handle = some h') (ht : h.task = h'.task) : i = j := by
  by_contra hij
  have h2 := add_le_tsum hij hi hj (Thread.handling h.task)
  have h1 := (ownView_ok hs h.task).owners_le_one
  rw [← owners_eq_ownView] at h1
  simp [hh, hh', ← ht] at h2
  unfold owners at h1; omega

/-! ## §2 What one thread may hold -/

namespace Thread.PoolOk

variable {t : TaskId} {home remote : Option PoolId} {th : Thread}

/-- A thread whose frames and role stay the same keeps its part. -/
theorem keep (hp : th.PoolOk t home remote) {th' : Thread} (hh : th'.handle = th.handle)
    (ho : th'.op = th.op) (hr : th'.role = th.role) : th'.PoolOk t home remote :=
  ⟨fun h hh' => by rw [hr]; exact hp.handle h (hh ▸ hh'),
    fun o ho' => by rw [hr]; exact hp.op o (ho ▸ ho')⟩

/-- `handle` returns. -/
theorem endHandle (hp : th.PoolOk t home remote) :
    ({ th with handle := none, localPtr := none } : Thread).PoolOk t home remote :=
  ⟨by simp, hp.op⟩

/-- A vtable call returns. -/
theorem endOp (hp : th.PoolOk t home remote) : ({ th with op := none } : Thread).PoolOk t home remote :=
  ⟨hp.handle, by simp⟩

/-- The loop of `handle` moves to a point that needs no remote, or sees it set. -/
theorem setHandle (hp : th.PoolOk t home remote) {h : HandleFrame} (hh : th.handle = some h)
    (h' : HandleFrame) (htask : h'.task = h.task)
    (hpc : h'.pc = .casIdle ∨ (∃ r, h'.pc = .wakeTask r) → h.task = t → remote ≠ none) (n : Bool) :
    ({ th with handle := some h', needReschedule := n } : Thread).PoolOk t home remote := by
  refine ⟨fun h'' hh'' ht => ?_, hp.op⟩
  obtain rfl : h' = h'' := by simpa using hh''
  rw [htask] at ht
  exact ⟨(hp.handle h hh ht).1, fun hc => hpc hc ht⟩

/-- A vtable call moves to a point that needs no remote, or sees it set. -/
theorem setOp (hp : th.PoolOk t home remote) {o : OpFrame} (ho : th.op = some o) (o' : OpFrame)
    (htask : o'.task = o.task) (hsrc : o'.src = o.src)
    (hpc : o'.pc = .wakeTask → o.task = t → remote ≠ none)
    (hset : o'.pc = .cloneSet → o.task = t → th.role ≠ .external → remote = none) :
    ({ th with op := some o' } : Thread).PoolOk t home remote := by
  refine ⟨hp.handle, fun o'' ho'' ht => ?_⟩
  obtain rfl : o' = o'' := by simpa using ho''
  rw [htask] at ht
  refine ⟨fun hc => ?_, fun hc hr => hset hc ht hr⟩
  rcases hc with hc | hc
  · exact (hp.op o ho ht).1 (.inl (hsrc ▸ hc))
  · exact hpc hc ht

/-- A thread with no frame on `t` holds nothing of `t`. -/
theorem of_ne (hh : ∀ h, th.handle = some h → h.task ≠ t) (ho : ∀ o, th.op = some o → o.task ≠ t) :
    th.PoolOk t home remote :=
  ⟨fun h hh' ht => absurd ht (hh h hh'), fun o ho' ht => absurd ht (ho o ho')⟩

/-- Setting the remote keeps a thread's part unless it is a worker about to assign it. -/
theorem setRemote (hp : th.PoolOk t home none) (p : PoolId)
    (hset : ∀ o, th.op = some o → o.task = t → o.pc = .cloneSet → th.role = .external) :
    th.PoolOk t home (some p) := by
  refine ⟨fun h hh ht => ⟨(hp.handle h hh ht).1, fun _ => by simp⟩, fun o ho ht => ⟨by simp, ?_⟩⟩
  intro hc hr; exact absurd (hset o ho ht hc) hr

/-- Before the spawner's push no thread holds a `handle` call on the task. -/
theorem setHome (hp : th.PoolOk t none remote) (home' : Option PoolId) :
    th.PoolOk t home' remote :=
  ⟨fun h hh ht => by simpa using (hp.handle h hh ht).1, hp.op⟩

end Thread.PoolOk

/-! ## §3 Frame lemmas -/

namespace RemoteInv

variable {s s' : State} {t : TaskId}

/-- A step that leaves the task, the threads, the task's queue copies and its pushes alone
keeps the invariant. -/
theorem frame (h : RemoteInv s t) (hts : (s'.task t).PoolOk)
    (hh : (s'.task t).home = (s.task t).home) (hr : (s'.task t).remote = (s.task t).remote)
    (hth : s'.threads = s.threads) (hq : ∀ q, (q, t) ∈ s'.queue → (q, t) ∈ s.queue)
    (hl : ∀ q b, Event.push t q b ∈ s'.log → Event.push t q b ∈ s.log) : RemoteInv s' t :=
  ⟨hts, fun j th hj => hh ▸ hr ▸ h.threads j th (hth ▸ hj),
    fun q hq' => hh ▸ h.queue q (hq q hq'), fun q b hl' => hh ▸ h.log q b (hl q b hl')⟩

theorem setThread (h : RemoteInv s t) {th : Thread}
    (hth : th.PoolOk t (s.task t).home (s.task t).remote) (i : ThreadId) :
    RemoteInv (s.setThread i th) t :=
  ⟨h.task, forall_getElem?_set h.threads hth, h.queue, h.log⟩

/-- A change of the task that keeps its pool and its remote. -/
theorem setTask (h : RemoteInv s t) {ts : TaskState} (hts : ts.PoolOk) (hh : ts.home = (s.task t).home)
    (hr : ts.remote = (s.task t).remote) : RemoteInv (s.setTask t ts) t := by
  refine ⟨by simpa using hts, fun j th hj => ?_, fun q hq => ?_, fun q b hl => ?_⟩
  · simpa [hh, hr] using h.threads j th hj
  · simpa [hh] using h.queue q hq
  · simpa [hh] using h.log q b hl

/-- A change of any task that keeps that task's pool and remote. -/
theorem setTask_keep (h : RemoteInv s t) {u : TaskId} {ts : TaskState}
    (hh : ts.home = (s.task u).home) (hr : ts.remote = (s.task u).remote)
    (hts : u = t → ts.PoolOk) : RemoteInv (s.setTask u ts) t := by
  by_cases hu : u = t
  · subst hu; exact h.setTask (hts rfl) hh hr
  · exact h.frame (by simpa [Ne.symm hu] using h.task) (by simp [Ne.symm hu])
      (by simp [Ne.symm hu]) rfl (fun _ => id) fun _ _ => id

theorem setTask_ne (h : RemoteInv s t) {u : TaskId} (hu : u ≠ t) (ts : TaskState) :
    RemoteInv (s.setTask u ts) t :=
  h.frame (by simpa [Ne.symm hu] using h.task) (by simp [Ne.symm hu]) (by simp [Ne.symm hu]) rfl
    (fun _ => id) (fun _ _ => id)

theorem record (h : RemoteInv s t) {e : Event} (he : ∀ q b, e = .push t q b → (s.task t).home = some q.pool) :
    RemoteInv (s.record e) t := by
  refine ⟨h.task, h.threads, h.queue, fun q b hl => ?_⟩
  rcases List.mem_cons.1 hl with hl | hl
  · exact he q b hl.symm
  · exact h.log q b hl

theorem fault (h : RemoteInv s t) (f : Option Fault) : RemoteInv { s with fault := f } t :=
  ⟨h.task, h.threads, h.queue, h.log⟩

/-- A push of another task's cell, or of `t`'s to a queue of its pool. -/
theorem push (h : RemoteInv s t) {u : TaskId} {q : QueueRef} (b : Bool)
    (hq : u = t → (s.task t).home = some q.pool) (hts : u = t → (s.task t).PoolOk →
      ({ s.task t with strong := (s.task t).strong - 1, dropped := true } : TaskState).PoolOk) :
    RemoteInv (s.push u q b) t := by
  unfold State.push
  split
  · have h₀ : RemoteInv { s with queue := (q, u) :: s.queue } t := by
      refine ⟨h.task, h.threads, fun q' hq' => ?_, h.log⟩
      rcases List.mem_cons.1 hq' with hq' | hq'
      · cases hq'; exact hq rfl
      · exact h.queue q' hq'
    exact h₀.record fun q' b' he => by cases he; exact hq rfl
  · by_cases hu : u = t
    · subst hu
      exact h.setTask (hts rfl h.task) rfl rfl
    · exact h.setTask_ne hu _

/-- Assigning the remote of `t` to its pool, when no worker other than the caller is about
to assign it. -/
theorem setRemote (h : RemoteInv s t) {p : PoolId} (hp : (s.task t).home = some p)
    (hr : (s.task t).remote = none)
    (hset : ∀ (j : ThreadId) (th : Thread), s.threads[j]? = some th →
      ∀ o : OpFrame, th.op = some o → o.task = t → o.pc = .cloneSet → th.role = .external) :
    RemoteInv (s.setTask t { s.task t with remote := some p }) t := by
  refine ⟨?_, fun j th hj => ?_, fun q hq => by simpa using h.queue q hq,
    fun q b hl => by simpa using h.log q b hl⟩
  · simp only [setTask_task, ite_true]
    exact ⟨h.task.spawner, .inr hp.symm, h.task.firstPoll, by simp, by simp⟩
  · simpa using (hr ▸ h.threads j th hj).setRemote p (hset j th hj)

/-- A call of `wake_task` on any task keeps the invariant of `t`: it pushes to a queue of the
pool of the task's remote, or drops the task. -/
theorem wakeTask (h : RemoteInv s t) {s₁ : State} {u : TaskId} {owned : Bool} {q : QueueRef}
    {e : Event} (he : WakeTaskEffect s s₁ u owned q e) (hq : (s.task u).remote = some q.pool)
    (hev : ∀ q b, e ≠ .push t q b) : RemoteInv s₁ t := by
  have hpool : u = t → (s.task t).home = some q.pool := by
    rintro rfl; rcases h.task.remote with hr' | hr' <;> simp_all
  have hkeep : (s₁.task t).home = (s.task t).home ∧ (s₁.task t).remote = (s.task t).remote ∧
      (s₁.task t).PoolOk := by
    by_cases hu : u = t
    · subst hu
      rcases he.result with ⟨-, -, htask, -⟩ | ⟨-, htask, -⟩ <;> rw [htask] <;>
        exact ⟨rfl, rfl, h.task.keep rfl rfl rfl (.inl rfl) (by simp) (by simp)⟩
    · rw [he.other t (Ne.symm hu)]; exact ⟨rfl, rfl, h.task⟩
  obtain ⟨hh, hr, hts⟩ := hkeep
  refine ⟨hts, fun j th hj => hh ▸ hr ▸ h.threads j th (he.threads ▸ hj), fun q' hq' => ?_,
    fun q' b hl => ?_⟩ <;> rw [hh]
  · rcases he.result with ⟨-, hqu, -, -⟩ | ⟨hqu, -, -⟩ <;> rw [hqu] at hq'
    · rcases List.mem_cons.1 hq' with e' | hq'
      · cases e'; exact hpool rfl
      · exact h.queue q' hq'
    · exact h.queue q' hq'
  · rcases he.result with ⟨-, -, -, hlog⟩ | ⟨-, -, hlog⟩ <;> rw [hlog] at hl
    · rcases List.mem_cons.1 hl with e' | hl
      · exact absurd e'.symm (hev q' b)
      rcases List.mem_cons.1 hl with e' | hl
      · cases e'; exact hpool rfl
      · exact h.log q' b hl
    · rcases List.mem_cons.1 hl with e' | hl
      · exact absurd e'.symm (hev q' b)
      · exact h.log q' b hl

/-- A vtable call returns and gives a borrowed raw waker back. -/
theorem returnWaker (h : RemoteInv s t) {i : ThreadId} {th : Thread} {o : OpFrame}
    (hi : s.threads[i]? = some th) (ho : th.op = some o) :
    RemoteInv ((s.returnWaker o).setThread i { th with op := none }) t := by
  have hth := h.threads i th hi
  simp only [State.returnWaker]
  split_ifs with hraw
  · rw [setThread_setTask_comm]
    exact (h.setThread hth.endOp i).setTask_keep (by simp) (by simp) fun ht => by
      subst ht; exact h.task.keep rfl rfl rfl (.inl rfl) (.inl rfl) (.inr ((hth.op o ho rfl).1 (.inl hraw.1)))
  · exact h.setThread hth.endOp i

/-- `wake_impl` returns without calling `wake_task`. -/
theorem endWake (h : RemoteInv s t) {i : ThreadId} {th : Thread} {o : OpFrame}
    (hi : s.threads[i]? = some th) (ho : th.op = some o) : RemoteInv (s.endWake i th o) t := by
  simp only [State.endWake]
  split
  · simp only [decStrong, setThread_setTask_comm]
    exact (h.setThread (h.threads i th hi).endOp i).setTask_keep (by simp) (by simp) fun ht => by
      subst ht; exact h.task.keep rfl rfl rfl (.inl rfl) (.inl rfl) (.inl le_rfl)
  · exact h.returnWaker hi ho

end RemoteInv

/-! ## §4 Every step keeps the invariant -/

variable {s s' : State} {i : ThreadId} {t u : TaskId}

/-- While `t`'s remote is unset, a worker in a vtable call on `t` is polling `t` itself:
a raw waker of `t` does not exist yet. -/
theorem op_polling (hwf : ThreadsWF s) (h : RemoteInv s t) (hr : (s.task t).remote = none)
    {j : ThreadId} {th : Thread} {o : OpFrame} (hj : s.threads[j]? = some th) (ho : th.op = some o)
    (hot : o.task = t) (hext : th.role ≠ .external) :
    ∃ hd, th.handle = some hd ∧ hd.task = t ∧ hd.pc = .polling := by
  rcases (hwf j th hj).op o ho with hx | ⟨hd, hh, hpc, hsrc⟩
  · exact absurd hx hext
  · rcases hsrc with hsrc | ⟨-, hsrc⟩
    · exact absurd hr ((h.threads j th hj).op o ho hot |>.1 (.inl hsrc))
    · exact ⟨hd, hh, hsrc ▸ hot, hpc⟩

/-- While `t`'s remote is unset and thread `i` is in a `handle` call on `t` outside its
poll, no worker is about to assign the remote. -/
theorem no_cloneSet (hs : Reachable s) (h : RemoteInv s t) (hr : (s.task t).remote = none)
    {th : Thread} {hd : HandleFrame} (hi : s.threads[i]? = some th) (hh : th.handle = some hd)
    (ht : hd.task = t) (hpc : hd.pc ≠ .polling) {j : ThreadId} {th' : Thread}
    (hj : s.threads[j]? = some th') :
    ∀ o, th'.op = some o → o.task = t → o.pc = .cloneSet → th'.role = .external := by
  intro o ho hot _
  by_contra hext
  obtain ⟨hd', hh', ht', hpc'⟩ := op_polling (threadsWF_reachable hs) h hr hj ho hot hext
  obtain rfl := handle_unique hs hi hj hh hh' (ht.trans ht'.symm)
  rw [hi] at hj; cases hj; rw [hh] at hh'; cases hh'
  exact hpc hpc'

theorem spawn_remoteInv {p : PoolId} (hs : spawn s u p = some s') (h : RemoteInv s t) :
    RemoteInv s' t := by
  obtain ⟨hsp, rfl⟩ := spawn_some hs
  by_cases hu : u = t
  · subst hu
    have hhome := h.task.spawner hsp
    have hrem : (s.task u).remote = none := by
      rcases h.task.remote with hr | hr <;> simp_all
    have h₁ : RemoteInv (s.setTask u { s.task u with spawner := false, home := some p }) u := by
      refine ⟨⟨by simp, by simp [hrem], ?_, by simpa using h.task.idle, by simpa using h.task.wakers⟩,
        fun j th hj => ?_,
        fun q hq => by simpa [hhome] using h.queue q hq, fun q b hl => by simpa [hhome] using h.log q b hl⟩
      · rcases h.task.firstPoll with hf | hf <;> simp_all
      · have hp := h.threads j th hj
        rw [hhome, hrem] at hp
        simpa [hrem] using hp.setHome (some p)
    exact h₁.push _ (fun _ => by simp) fun _ hts =>
      ⟨by simp, by simpa using hts.remote, by simpa using hts.firstPoll,
        by simpa using hts.idle, by simpa using hts.wakers⟩
  · exact (h.setTask_ne hu _).push _ (fun e => absurd e hu) fun e => absurd e hu

theorem pop_remoteInv {q : QueueRef} (hs : pop s i q u = some s') (h : RemoteInv s t) :
    RemoteInv s' t := by
  obtain ⟨th, w, hi, hr, -, ho, hq, hmem, -, rfl⟩ := pop_some hs
  have hpool : q.pool = w.pool := by rcases hq with rfl | rfl <;> rfl
  have h₀ : RemoteInv { s with queue := s.queue.erase (q, u) } t :=
    h.frame h.task rfl rfl rfl (fun _ hq' => List.mem_of_mem_erase hq') fun _ _ => id
  refine h₀.setThread ⟨fun hd hh ht => ?_, by simp [ho]⟩ i
  simp only [Option.some.injEq] at hh
  subst hh; subst ht
  exact ⟨⟨w, hr, hpool ▸ h.queue q hmem⟩, by simp⟩

theorem storePolling_remoteInv (hs : storePolling s i = some s') (hwf : ThreadsWF s)
    (h : RemoteInv s t) : RemoteInv s' t := by
  obtain ⟨th, hd, hi, hh, hpc, rfl⟩ := storePolling_some hs
  rw [setThread_setTask_comm]
  refine (h.setThread ((h.threads i th hi).setHandle hh
    { hd with pc := .polling, polls := hd.polls + 1 } rfl (by simp) _) i).setTask_keep
    (by simp) (by simp) fun ht => ?_
  subst ht
  obtain ⟨w, hr, hhome⟩ := ((h.threads i th hi).handle hd hh rfl).1
  obtain ⟨w', hr', hl⟩ := (hwf i th hi).localPtr_of_handle hh
  rw [hr] at hr'; cases hr'
  refine h.task.keep rfl rfl rfl ?_ (by simp) (by simp)
  cases hf : (s.task hd.task).firstPoll <;> simp [Thread.localPool, hl, hhome]

theorem reschedule_remoteInv (hs : reschedule s i = some s') (h : RemoteInv s t) :
    RemoteInv s' t := by
  obtain ⟨th, -, hi, -, -, -, rfl⟩ := reschedule_some hs
  refine h.setThread ?_ i
  exact (h.threads i th hi).keep rfl rfl rfl

theorem pollReady_remoteInv (hs : pollReady s i = some s') (h : RemoteInv s t) :
    RemoteInv s' t := by
  obtain ⟨th, hd, hi, -, -, -, -, rfl⟩ := pollReady_some hs
  simp only [endHandle, decStrong, setThread_setTask_comm]
  refine (((h.setThread (h.threads i th hi).endHandle i).setTask_keep (by simp) (by simp)
    fun ht => by subst ht; exact h.task.keep rfl rfl rfl (.inl rfl) (by simp) (by simp)).setTask_keep
    (by simp) (by simp) fun ht => ?_).record fun _ _ he => by cases he
  subst ht; exact h.task.keep (by simp) (by simp) (by simp) (by simp) (by simp) (by simp)

theorem pollPending_remoteInv (hs : pollPending s i = some s') (h : RemoteInv s t) :
    RemoteInv s' t := by
  obtain ⟨th, hd, hi, hh, -, -, -, rfl⟩ := pollPending_some hs
  exact h.setThread ((h.threads i th hi).setHandle hh { hd with pc := .setRemote } rfl (by simp)
    th.needReschedule) i

theorem pollPanic_remoteInv (hs : pollPanic s i = some s') (h : RemoteInv s t) :
    RemoteInv s' t := by
  obtain ⟨th, hd, hi, -, -, -, -, rfl⟩ := pollPanic_some hs
  simp only [dropCell, setThread_setTask_comm]
  refine RemoteInv.record ?_ fun _ _ he => nomatch he
  exact (h.setThread (h.threads i th hi).endHandle i).setTask_keep (by simp) (by simp)
    fun ht => by subst ht; exact h.task.keep rfl rfl rfl (.inl rfl) (by simp) (by simp)

theorem ensureRemote_remoteInv (hsR : Reachable s) (hs : ensureRemote s i = some s')
    (h : RemoteInv s t) : RemoteInv s' t := by
  obtain ⟨th, hd, hi, hh, hpc, ⟨hr, rfl⟩ | ⟨w, hr, hl, rfl⟩ | ⟨-, -, rfl⟩⟩ := ensureRemote_some hs
  · exact h.setThread ((h.threads i th hi).setHandle hh { hd with pc := .casIdle } rfl
      (fun _ ht => ht ▸ hr) th.needReschedule) i
  · by_cases ht : hd.task = t
    · subst ht
      obtain ⟨w', hw', hhome⟩ := ((h.threads i th hi).handle hd hh rfl).1
      obtain ⟨w'', hw'', hl'⟩ := (threadsWF_reachable hsR i th hi).localPtr_of_handle hh
      rw [hl] at hl'; cases hl'; rw [hw'] at hw''; cases hw''
      have hset : ∀ (j : ThreadId) (th' : Thread), s.threads[j]? = some th' → ∀ o : OpFrame,
          th'.op = some o → o.task = hd.task → o.pc = .cloneSet → th'.role = .external :=
        fun _ _ hj => no_cloneSet hsR h hr hi hh rfl (by simp [hpc]) hj
      have hp := h.threads i th hi
      rw [hr] at hp
      rw [← setThread_setTask_comm]
      refine (h.setRemote hhome hr hset).setThread ?_ i
      simp only [setTask_task, ite_true]
      exact (hp.setRemote w.pool (hset i th hi)).setHandle hh
        { hd with pc := .casIdle } rfl (fun _ _ => by simp) th.needReschedule
    · exact (h.setThread ((h.threads i th hi).setHandle hh { hd with pc := .casIdle } rfl
        (fun _ ht' => absurd ht' ht) th.needReschedule) i).setTask_ne ht _
  · exact h.fault _

theorem casIdle_remoteInv {b : Bool} (hs : casIdle s i b = some s') (h : RemoteInv s t) :
    RemoteInv s' t := by
  obtain ⟨th, hd, hi, hh, hpc, ⟨hst, rfl⟩ | ⟨-, rfl⟩ | ⟨-, -, rfl⟩⟩ := casIdle_some hs
  · have hr : hd.task = t → (s.task t).remote ≠ none := fun ht =>
      ((h.threads i th hi).handle hd hh ht).2 (.inl hpc)
    simp only [endHandle, decStrong, setThread_setTask_comm]
    refine (((h.setThread (h.threads i th hi).endHandle i).setTask_keep (by simp) (by simp)
      fun ht => ?_).setTask_keep (by simp) (by simp) fun ht => ?_).record fun _ _ he => by cases he
    · subst ht; exact h.task.keep rfl rfl rfl (.inl rfl) (.inr (.inr (hr rfl))) (.inl le_rfl)
    · subst ht; exact h.task.keep (by simp) (by simp) (by simp) (by simp) (by simp [hr rfl]) (by simp)
  · exact h.setThread ((h.threads i th hi).setHandle hh _ (by simp)
      (fun _ ht => ((h.threads i th hi).handle hd hh ht).2 (.inl hpc)) false) i
  · exact h.fault _

theorem preempt_remoteInv {b : Bool} (hs : preempt s i b = some s') (h : RemoteInv s t) :
    RemoteInv s' t := by
  obtain ⟨th, hd, r, hi, -, -, ⟨s₁, hw, rfl⟩ | ⟨-, rfl⟩⟩ := preempt_some hs
  · obtain ⟨q, e, hq, he, route, rfl⟩ := wakeTask_some_effect hw
    have h₁ := h.wakeTask he hq fun _ _ => by simp
    exact (h₁.setThread (h₁.threads i th (he.threads ▸ hi)).endHandle i).record
      fun _ _ he => by cases he
  · exact h.fault _

/-- `clone_raw`, `wake_raw` and `wake_ref_raw` enter their vtable call. -/
theorem startCall_remoteInv {src : WakerSrc} {owned : Bool} {pc : OpPc}
    (hs : startCall s i u src owned pc = some s') (hpc : pc = .cloneCheck ∨ pc = .wakeLoad)
    (h : RemoteInv s t) : RemoteInv s' t := by
  obtain ⟨th, hi, -, -, hready, rfl⟩ := startCall_some hs
  have hth : ({ th with op := some ⟨u, src, owned, pc⟩ } : Thread).PoolOk t (s.task t).home
      (s.task t).remote := by
    refine ⟨(h.threads i th hi).handle, fun o ho ht => ?_⟩
    obtain rfl : ⟨u, src, owned, pc⟩ = o := by simpa using ho
    simp only at ht; subst ht
    refine ⟨fun hc => h.task.wakers ?_, fun hc => by rcases hpc with rfl | rfl <;> cases hc⟩
    rcases hc with rfl | hc
    · simpa [wakerReady] using hready
    · rcases hpc with rfl | rfl <;> cases hc
  split
  · rw [setThread_setTask_comm]
    exact (h.setThread hth i).setTask_keep (by simp) (by simp) fun ht => by
      subst ht; exact h.task.keep rfl rfl rfl (.inl rfl) (.inl rfl) (.inl (by simp))
  · exact h.setThread hth i

theorem dropRaw_remoteInv (hs : dropRaw s u = some s') (h : RemoteInv s t) : RemoteInv s' t := by
  obtain ⟨-, rfl⟩ := dropRaw_some hs
  exact h.setTask_keep rfl rfl fun ht => by
    subst ht; exact h.task.keep rfl rfl rfl (.inl rfl) (.inl rfl) (.inl (by simp))

/-- `clone_task` with the remote set: a count for the new raw waker. -/
theorem finishClone_remoteInv {th : Thread} {o : OpFrame} (hi : s.threads[i]? = some th)
    (hr : (s.task o.task).remote ≠ none) (h : RemoteInv s t) :
    RemoteInv (finishClone s i th o) t := by
  simp only [finishClone, setThread_setTask_comm]
  exact (h.setThread (h.threads i th hi).endOp i).setTask_keep (by simp) (by simp) fun ht => by
    subst ht; exact h.task.keep rfl rfl rfl (.inl rfl) (.inl rfl) (.inr hr)

theorem cloneTaskCheck_remoteInv (hs : cloneTaskCheck s i = some s') (h : RemoteInv s t) :
    RemoteInv s' t := by
  obtain ⟨th, o, hi, ho, -, ⟨hr, rfl⟩ | ⟨hr, rfl⟩⟩ := cloneTaskCheck_some hs
  · exact finishClone_remoteInv hi hr h
  · exact h.setThread ((h.threads i th hi).setOp ho { o with pc := .cloneSet } rfl rfl
      (by simp) fun _ ht _ => ht ▸ hr) i

theorem cloneTaskSet_remoteInv (hsR : Reachable s) (hs : cloneTaskSet s i = some s')
    (h : RemoteInv s t) : RemoteInv s' t := by
  obtain ⟨th, o, hi, ho, hpc, ⟨w, hl, rfl⟩ | ⟨-, rfl⟩⟩ := cloneTaskSet_some hs
  · have hwf := threadsWF_reachable hsR
    have h₀ := h.setThread (h.threads i th hi).endOp i
    by_cases ht : o.task = t
    · subst ht
      have hext : th.role ≠ .external := fun he => by simp [(hwf i th hi).localPtr, he] at hl
      have hr := ((h.threads i th hi).op o ho rfl).2 hpc hext
      obtain ⟨hd, hh, hdt, -⟩ := op_polling hwf h hr hi ho rfl hext
      obtain ⟨w', hw', hhome⟩ := ((h.threads i th hi).handle hd hh hdt).1
      obtain ⟨w'', hw'', hl'⟩ := (hwf i th hi).localPtr_of_handle hh
      rw [hl] at hl'; cases hl'; rw [hw'] at hw''; cases hw''
      have hset : ∀ (j : ThreadId) (th' : Thread), (s.setThread i { th with op := none }).threads[j]? = some th' →
          ∀ o' : OpFrame, th'.op = some o' → o'.task = o.task → o'.pc = .cloneSet →
            th'.role = .external := by
        intro j th' hj o' ho' hot _
        by_contra hext'
        by_cases hij : j = i
        · subst hij; simp [List.getElem?_set_self', hi] at hj; simp [← hj] at ho'
        · simp only [setThread_threads, List.getElem?_set_ne (Ne.symm hij)] at hj
          obtain ⟨hd', hh', hdt', -⟩ := op_polling hwf h hr hj ho' hot hext'
          exact hij (handle_unique hsR hj hi hh' hh (hdt'.trans hdt.symm))
      simp only [finishClone, setThread_setTask_comm]
      have h₁ : RemoteInv ((s.setThread i { th with op := none }).setTask o.task
          { s.task o.task with remote := some w.pool }) o.task := h₀.setRemote hhome hr hset
      exact h₁.setTask_keep (by simp) (by simp) fun _ =>
        h₁.task.keep (by simp) (by simp) (by simp) (by simp) (by simp) (by simp)
    · simp only [finishClone, setThread_setTask_comm]
      exact (h₀.setTask_ne ht _).setTask_ne ht _
  · exact h.fault _

theorem wakeImplLoad_remoteInv (hs : wakeImplLoad s i = some s') (h : RemoteInv s t) :
    RemoteInv s' t := by
  obtain ⟨th, o, hi, ho, -, rfl⟩ := wakeImplLoad_some hs
  exact h.setThread ((h.threads i th hi).setOp ho { o with pc := .wakeCas (s.task o.task).status }
    rfl rfl (by simp) (by simp)) i

theorem wakeImplCas_remoteInv {b : Bool} (hs : wakeImplCas s i b = some s') (h : RemoteInv s t) :
    RemoteInv s' t := by
  obtain ⟨th, o, obs, hi, ho, -, ⟨-, hst, rfl⟩ | ⟨-, -, rfl⟩ | ⟨-, -, rfl⟩ | rfl⟩ :=
    wakeImplCas_some hs
  · rw [setThread_setTask_comm]
    refine (h.setThread ((h.threads i th hi).setOp ho { o with pc := .wakeTask } rfl rfl
      (fun _ ht => ht ▸ h.task.idle (ht ▸ hst)) (by simp)) i).setTask_keep (by simp) (by simp)
      fun ht => ?_
    subst ht; exact h.task.keep rfl rfl rfl (.inl rfl) (by simp) (.inl le_rfl)
  · refine (h.setTask_keep (by simp) (by simp) fun ht => ?_).endWake hi ho
    subst ht; exact h.task.keep rfl rfl rfl (.inl rfl) (by simp) (.inl le_rfl)
  · exact h.endWake hi ho
  · exact h.setThread ((h.threads i th hi).setOp ho
      { o with pc := .wakeCas (s.task o.task).status } rfl rfl (by simp) (by simp)) i

theorem wakeImplWakeTask_remoteInv {b : Bool} (hs : wakeImplWakeTask s i b = some s')
    (h : RemoteInv s t) : RemoteInv s' t := by
  obtain ⟨th, o, hi, ho, -, ⟨s₁, hw, rfl⟩ | ⟨-, rfl⟩⟩ := wakeImplWakeTask_some hs
  · obtain ⟨q, e, hq, he, route, rfl⟩ := wakeTask_some_effect hw
    exact (h.wakeTask he hq fun _ _ => by simp).returnWaker (he.threads ▸ hi) ho
  · exact h.fault _

theorem dropQueued_remoteInv {q : QueueRef} (hs : dropQueued s q u = some s') (h : RemoteInv s t) :
    RemoteInv s' t := by
  obtain ⟨-, -, rfl⟩ := dropQueued_some hs
  have h₀ : RemoteInv { s with queue := s.queue.erase (q, u) } t :=
    h.frame h.task rfl rfl rfl (fun _ => List.mem_of_mem_erase) fun _ _ => id
  refine h₀.setTask_keep rfl rfl fun ht => ?_
  subst ht; exact h.task.keep rfl rfl rfl (.inl rfl) (.inl rfl) (.inl (by simp))

theorem step_remoteInv {a : Action} (hsR : Reachable s) (hs : step s a = some s')
    (h : RemoteInv s t) : RemoteInv s' t := by
  unfold step at hs
  split_ifs at hs
  cases a with
  | spawn u p => exact spawn_remoteInv hs h
  | pop i q u => exact pop_remoteInv hs h
  | storePolling i => exact storePolling_remoteInv hs (threadsWF_reachable hsR) h
  | reschedule i => exact reschedule_remoteInv hs h
  | pollReady i => exact pollReady_remoteInv hs h
  | pollPending i => exact pollPending_remoteInv hs h
  | pollPanic i => exact pollPanic_remoteInv hs h
  | ensureRemote i => exact ensureRemote_remoteInv hsR hs h
  | casIdle i b => exact casIdle_remoteInv hs h
  | preempt i b => exact preempt_remoteInv hs h
  | cloneRaw i u src => exact startCall_remoteInv hs (.inl rfl) h
  | wakeRaw i u => exact startCall_remoteInv hs (.inr rfl) h
  | wakeRefRaw i u src => exact startCall_remoteInv hs (.inr rfl) h
  | dropRaw u => exact dropRaw_remoteInv hs h
  | cloneTaskCheck i => exact cloneTaskCheck_remoteInv hs h
  | cloneTaskSet i => exact cloneTaskSet_remoteInv hsR hs h
  | wakeImplLoad i => exact wakeImplLoad_remoteInv hs h
  | wakeImplCas i b => exact wakeImplCas_remoteInv hs h
  | wakeImplWakeTask i b => exact wakeImplWakeTask_remoteInv hs h
  | close p =>
    obtain ⟨-, rfl⟩ := close_some hs
    exact h.frame h.task rfl rfl rfl (fun _ => id) fun _ _ => id
  | destroy p =>
    obtain ⟨-, -, rfl⟩ := destroy_some hs
    exact h.frame h.task rfl rfl rfl (fun _ => id) fun _ _ => id
  | dropQueued q u => exact dropQueued_remoteInv hs h

/-- Before any spawn no task has a pool, a remote or a thread working on it. -/
theorem remoteInv_init (ths : List (Role × Nat)) (t : TaskId) : RemoteInv (State.init ths) t := by
  refine ⟨by constructor <;> simp [State.init, TaskState.new], fun j th hj => ?_,
    fun _ hq => absurd hq (List.not_mem_nil _), fun _ _ hl => absurd hl (List.not_mem_nil _)⟩
  simp only [State.init, List.getElem?_map, Option.map_eq_some'] at hj
  obtain ⟨r, -, rfl⟩ := hj
  exact .of_ne (by simp [Thread.new]) (by simp [Thread.new])

/-- The pool invariant holds for every task of every reachable state. -/
theorem remoteInv_reachable {s : State} (hs : Reachable s) (t : TaskId) : RemoteInv s t := by
  induction hs with
  | init ths => exact remoteInv_init ths t
  | step a hs' hstep ih => exact step_remoteInv hs' hstep ih

/-! ## §5 The pool fields are written once -/

/-- The fields of a task that name its pool: the pool it was pushed to, `extras.remote`, and
the pool of the worker that first polled it. -/
structure PoolView where
  home : Option PoolId
  remote : Option PoolId
  firstPoll : Option PoolId
  deriving DecidableEq, Repr

/-- Each field of `v'` is the one of `v`, unless that one was unset. -/
def PoolView.le (v v' : PoolView) : Prop :=
  (v.home = none ∨ v'.home = v.home) ∧ (v.remote = none ∨ v'.remote = v.remote) ∧
    (v.firstPoll = none ∨ v'.firstPoll = v.firstPoll)

theorem PoolView.le_refl (v : PoolView) : v.le v := ⟨.inr rfl, .inr rfl, .inr rfl⟩

/-- One field written at most once, over two changes. -/
theorem PoolView.field_le_trans {x y z : Option PoolId} (h₁ : x = none ∨ y = x)
    (h₂ : y = none ∨ z = y) : x = none ∨ z = x := by
  rcases h₁ with h₁ | rfl
  · exact .inl h₁
  · exact h₂

theorem PoolView.le_trans {u v w : PoolView} (h₁ : u.le v) (h₂ : v.le w) : u.le w :=
  ⟨field_le_trans h₁.1 h₂.1, field_le_trans h₁.2.1 h₂.2.1, field_le_trans h₁.2.2 h₂.2.2⟩

/-- The pool fields of task `t`. -/
def State.poolView (s : State) (t : TaskId) : PoolView :=
  ⟨(s.task t).home, (s.task t).remote, (s.task t).firstPoll⟩

/-- `wake_task` writes no pool field. -/
theorem WakeTaskEffect.poolView_eq {s₁ : State} {u : TaskId} {owned : Bool} {q : QueueRef}
    {e : Event} (he : WakeTaskEffect s s₁ u owned q e) (t : TaskId) :
    s₁.poolView t = s.poolView t := by
  by_cases ht : t = u
  · subst ht; rcases he.result with ⟨-, -, h, -⟩ | ⟨-, h, -⟩ <;> simp [poolView, h]
  · simp [poolView, he.other t ht]

theorem startCall_poolView_le {u : TaskId} {src : WakerSrc} {owned : Bool} {pc : OpPc}
    (hs : startCall s i u src owned pc = some s') (t : TaskId) : (s.poolView t).le (s'.poolView t) := by
  obtain ⟨-, -, -, -, -, rfl⟩ := startCall_some hs
  split <;> by_cases ht : t = u <;> simp [PoolView.le, poolView, ht]

/-- A vtable call that returns writes no pool field. -/
theorem returnWaker_poolView (o : OpFrame) (t : TaskId) : (s.returnWaker o).poolView t = s.poolView t := by
  simp only [State.returnWaker]
  split <;> by_cases ht : t = o.task <;> simp [poolView, ht]

theorem endWake_poolView {th : Thread} {o : OpFrame} (t : TaskId) :
    (s.endWake i th o).poolView t = s.poolView t := by
  simp only [State.endWake]
  split
  · by_cases ht : t = o.task <;> simp [poolView, ht]
  · exact returnWaker_poolView o t

/-- A step sets a pool field only where it was unset: the spawner's push sets the pool, the
first `status.store(POLLING)` the first poller's pool, and `handle` or `clone_task` the
remote. -/
theorem step_poolView_le {a : Action} (hsR : Reachable s) (hs : step s a = some s') (t : TaskId) :
    (s.poolView t).le (s'.poolView t) := by
  have hrefl := (s.poolView t).le_refl
  unfold step at hs
  split_ifs at hs
  cases a with
  | spawn u p =>
    obtain ⟨hsp, rfl⟩ := spawn_some hs
    have hh := (remoteInv_reachable hsR u).task.spawner hsp
    unfold push; split <;> by_cases ht : t = u <;> simp [PoolView.le, poolView, ht, hh]
  | pop i q u => obtain ⟨-, -, -, -, -, -, -, -, -, rfl⟩ := pop_some hs; exact hrefl
  | storePolling i =>
    obtain ⟨-, hd, -, -, -, rfl⟩ := storePolling_some hs
    by_cases ht : t = hd.task
    · subst ht; cases hf : (s.task hd.task).firstPoll <;> simp [PoolView.le, poolView, hf]
    · simpa [poolView, ht] using hrefl
  | reschedule i => obtain ⟨-, -, -, -, -, -, rfl⟩ := reschedule_some hs; exact hrefl
  | pollReady i =>
    obtain ⟨-, hd, -, -, -, -, -, rfl⟩ := pollReady_some hs
    by_cases ht : t = hd.task <;> simp [PoolView.le, poolView, ht]
  | pollPending i => obtain ⟨-, -, -, -, -, -, -, rfl⟩ := pollPending_some hs; exact hrefl
  | pollPanic i =>
    obtain ⟨-, hd, -, -, -, -, -, rfl⟩ := pollPanic_some hs
    by_cases ht : t = hd.task <;> simp [PoolView.le, poolView, ht]
  | ensureRemote i =>
    obtain ⟨-, hd, -, -, -, ⟨-, rfl⟩ | ⟨w, hr, -, rfl⟩ | ⟨-, -, rfl⟩⟩ := ensureRemote_some hs
    · exact hrefl
    · by_cases ht : t = hd.task <;> simp [PoolView.le, poolView, ht, hr]
    · exact hrefl
  | casIdle i b =>
    obtain ⟨-, hd, -, -, -, ⟨-, rfl⟩ | ⟨-, rfl⟩ | ⟨-, -, rfl⟩⟩ := casIdle_some hs
    · by_cases ht : t = hd.task <;> simp [PoolView.le, poolView, ht]
    all_goals exact hrefl
  | preempt i b =>
    obtain ⟨th, hd, r, -, -, -, ⟨s₁, hw, rfl⟩ | ⟨-, rfl⟩⟩ := preempt_some hs
    · obtain ⟨q, e, -, he, -⟩ := wakeTask_some_effect hw
      show (s.poolView t).le (s₁.poolView t)
      rw [he.poolView_eq]; exact hrefl
    · exact hrefl
  | cloneRaw i u src => exact startCall_poolView_le hs t
  | wakeRaw i u => exact startCall_poolView_le hs t
  | wakeRefRaw i u src => exact startCall_poolView_le hs t
  | dropRaw u =>
    obtain ⟨-, rfl⟩ := dropRaw_some hs
    by_cases ht : t = u <;> simp [PoolView.le, poolView, ht]
  | cloneTaskCheck i =>
    obtain ⟨-, o, -, -, -, ⟨-, rfl⟩ | ⟨-, rfl⟩⟩ := cloneTaskCheck_some hs
    · by_cases ht : t = o.task <;> simp [PoolView.le, poolView, ht]
    · exact hrefl
  | cloneTaskSet i =>
    obtain ⟨th, o, hi, ho, hpc, ⟨w, hl, rfl⟩ | ⟨-, rfl⟩⟩ := cloneTaskSet_some hs
    · have hext : th.role ≠ .external := fun he => by
        simp [(threadsWF_reachable hsR i th hi).localPtr, he] at hl
      have hr := (((remoteInv_reachable hsR o.task).threads i th hi).op o ho rfl).2 hpc hext
      by_cases ht : t = o.task <;> simp [PoolView.le, poolView, ht, hr]
    · exact hrefl
  | wakeImplLoad i => obtain ⟨-, -, -, -, -, rfl⟩ := wakeImplLoad_some hs; exact hrefl
  | wakeImplCas i b =>
    obtain ⟨-, o, -, -, -, -, ⟨-, -, rfl⟩ | ⟨-, -, rfl⟩ | ⟨-, -, rfl⟩ | rfl⟩ := wakeImplCas_some hs
    · by_cases ht : t = o.task <;> simp [PoolView.le, poolView, ht]
    · rw [endWake_poolView]; by_cases ht : t = o.task <;> simp [PoolView.le, poolView, ht]
    · rw [endWake_poolView]; exact hrefl
    · exact hrefl
  | wakeImplWakeTask i b =>
    obtain ⟨th, o, -, -, -, ⟨s₁, hw, rfl⟩ | ⟨-, rfl⟩⟩ := wakeImplWakeTask_some hs
    · obtain ⟨q, e, -, he, -⟩ := wakeTask_some_effect hw
      show (s.poolView t).le ((s₁.returnWaker o).poolView t)
      rw [returnWaker_poolView, he.poolView_eq]; exact hrefl
    · exact hrefl
  | close p => obtain ⟨-, rfl⟩ := close_some hs; exact hrefl
  | destroy p => obtain ⟨-, -, rfl⟩ := destroy_some hs; exact hrefl
  | dropQueued q u =>
    obtain ⟨-, -, rfl⟩ := dropQueued_some hs
    by_cases ht : t = u <;> simp [PoolView.le, poolView, ht]

/-- A run from a reachable state sets a pool field only where it was unset. -/
theorem run_poolView_le {as : List Action} (hsR : Reachable s) (hrun : run s as = some s')
    (t : TaskId) : (s.poolView t).le (s'.poolView t) := by
  induction as generalizing s with
  | nil => simp only [run, Option.some.injEq] at hrun; subst hrun; exact PoolView.le_refl _
  | cons a as ih =>
    obtain ⟨s₁, h₁, h₂⟩ := Option.bind_eq_some.1 hrun
    exact PoolView.le_trans (step_poolView_le hsR h₁ t) (ih (.step a hsR h₁) h₂)

/-! ## §6 Routing -/

/-- Everything that routes task `t` agrees on pool `p`. -/
structure PoolRouting (s : State) (t : TaskId) (p : PoolId) : Prop where
  /-- `extras.remote`, once set, is `p`'s `WeakRemote`. -/
  remote : (s.task t).remote = none ∨ (s.task t).remote = some p
  /-- Every push of `t` so far went to a queue of `p`. -/
  pushes : ∀ q b, Event.push t q b ∈ s.log → q.pool = p
  /-- Every queued copy of `t` sits in a queue of `p`. -/
  queued : ∀ q, (q, t) ∈ s.queue → q.pool = p
  /-- Only workers of `p` run `handle` on `t`. -/
  handled : ∀ (j : ThreadId) (th : Thread) (h : HandleFrame), s.threads[j]? = some th →
    th.handle = some h → h.task = t → ∃ w, th.role = .worker w ∧ w.pool = p
  /-- `wake_task` on a thread outside every `handle` call of `p` goes out of polling, to
  `p`'s injector through the upgraded `WeakRemote`, and never to the thread's local queue:
  while `p` runs it pushes `t` there, and it drops `t` only once `p` no longer runs. -/
  outOfPolling : ∀ (i : ThreadId) (th : Thread) (owned r spill : Bool) (s₁ : State),
    s.threads[i]? = some th → (∀ h w, th.handle = some h → th.role = .worker w → w.pool ≠ p) →
    wakeTask s i th t owned r spill = some s₁ →
    WakeTaskEffect s s₁ t owned (.injector p) (.wakeTask i t r .remote) ∧
      (s.pool p = .running → s₁.queue = (.injector p, t) :: s.queue) ∧
      (s.pool p ≠ .running → s₁.queue = s.queue ∧ (s₁.task t).dropped = true)

/-- Once a worker of pool `p` has polled task `t`, everything that routes `t` agrees on `p`. -/
theorem routes_to_first_pool {s : State} (hs : Reachable s) {t : TaskId} {p : PoolId}
    (hp : (s.task t).firstPoll = some p) : PoolRouting s t p := by
  have h := remoteInv_reachable hs t
  have hhome : (s.task t).home = some p := by
    rcases h.task.firstPoll with hf | hf <;> simp_all
  have hremote : (s.task t).remote = none ∨ (s.task t).remote = some p := hhome ▸ h.task.remote
  refine ⟨hremote, fun q b hl => ?_, fun q hq => ?_, fun j th hd hj hh ht => ?_,
    fun i th owned r spill s₁ hi hout hw => ?_⟩
  · simpa [hhome, eq_comm] using h.log q b hl
  · simpa [hhome, eq_comm] using h.queue q hq
  · obtain ⟨w, hr, hw⟩ := ((h.threads j th hj).handle hd hh ht).1
    exact ⟨w, hr, by simpa [hhome, eq_comm] using hw⟩
  · have hr : (s.task t).remote = some p :=
      hremote.resolve_left fun e => by rw [wakeTask_eq_none.2 e] at hw; cases hw
    have hl := (threadsWF_reachable hs i th hi).localIn_eq_none hout
    obtain ⟨s₂, q, e, hs₂, -, he, hn, -⟩ := @wakeTask_effect s i th t p owned r spill hr
    rw [hw, Option.some.injEq] at hs₂; subst hs₂
    obtain ⟨rfl, rfl⟩ := hn hl
    exact ⟨he, wakeTask_outOfPolling hr hl hw⟩

/-- Worker `0` of pool `0` polls task `0` first, and the task parks `IDLE`. A thread outside
every pool then wins `IDLE → NOTIFIED` through a raw waker; its call of `wake_task` goes out
of polling, to the injector of pool `0`. -/
theorem routes_to_first_pool_run :
    ∃ s, run (State.init [(.worker ⟨0, 0⟩, 5), (.external, 5)])
        [.spawn 0 0, .pop 0 (.injector 0) 0, .storePolling 0, .cloneRaw 0 0 (.context 0),
          .cloneTaskCheck 0, .cloneTaskSet 0, .pollPending 0, .ensureRemote 0, .casIdle 0 true,
          .wakeRefRaw 1 0 .raw, .wakeImplLoad 1, .wakeImplCas 1 false] = some s ∧
      (s.task 0).remote = some 0 ∧ s.pool 0 = .running ∧
      (∃ s', step s (.wakeImplWakeTask 1 false) = some s' ∧ s'.queue = [(.injector 0, 0)]) ∧
      (s.task 0).firstPoll = some 0 ∧ PoolRouting s 0 0 := by
  obtain ⟨s, hrun, hr, hpool, hwake, hp⟩ : ∃ s,
      run (State.init [(.worker ⟨0, 0⟩, 5), (.external, 5)])
        [.spawn 0 0, .pop 0 (.injector 0) 0, .storePolling 0, .cloneRaw 0 0 (.context 0),
          .cloneTaskCheck 0, .cloneTaskSet 0, .pollPending 0, .ensureRemote 0, .casIdle 0 true,
          .wakeRefRaw 1 0 .raw, .wakeImplLoad 1, .wakeImplCas 1 false] = some s ∧
      (s.task 0).remote = some 0 ∧ s.pool 0 = .running ∧
      (∃ s', step s (.wakeImplWakeTask 1 false) = some s' ∧ s'.queue = [(.injector 0, 0)]) ∧
      (s.task 0).firstPoll = some 0 := ⟨_, rfl, rfl, rfl, ⟨_, rfl, rfl⟩, rfl⟩
  exact ⟨s, hrun, hr, hpool, hwake, hp, routes_to_first_pool ((Reachable.init _).run hrun) hp⟩

end Yatp.Future
