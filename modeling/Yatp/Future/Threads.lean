import Yatp.Future.Holders

/-!
# Future Tasks: what each thread keeps true

The facts about one thread that every step keeps, whatever the other threads do:

- `LOCAL` is non-null exactly while the thread is in a `handle` call, and then points at
  the worker's own `Local` (`Scope::new` sets it, `Scope::drop` clears it);
- only a worker calls `handle`;
- a waker vtable call runs in user code: on a thread outside every pool, or inside a poll
  of the thread's own `handle` call. A worker's call on a context waker is on the waker of
  its own poll;
- the counters of a `handle` call: it has polled `repoll_times` times, or once more inside
  an iteration, and `repoll_times` passes the repoll limit only by the `need_preempt()` calls
  that returned `false` (`HandleFrame.Bounded`).

## Key results

- `step_threadsWF`: every step keeps `ThreadsWF`, one lemma per kind of step.
- `threadsWF_reachable`: every thread of every reachable state is well formed.
- `local_scope`: `LOCAL` is set exactly during a `handle` call, to the worker's own
  `Local`.
-/

namespace Yatp.Future

open State

/-! ## §1 A well-formed thread -/

/-- The `Local` a role owns: a worker's own, none outside the pools. -/
def Role.ownLocal : Role → Option WorkerRef
  | .worker w => some w
  | .external => none

@[simp] theorem Role.ownLocal_worker (w : WorkerRef) : (Role.worker w).ownLocal = some w := rfl

@[simp] theorem Role.ownLocal_external : Role.external.ownLocal = none := rfl

/-- The counters of a `handle` call of a thread with repoll limit `L`: the polls so far are
`repoll_times`, plus the one of the current iteration once `POLLING` is stored; and
`repoll_times` passes `L` only by the `need_preempt()` calls that returned `false`. -/
structure HandleFrame.Bounded (L : Nat) (h : HandleFrame) : Prop where
  polls : h.polls = h.repollTimes + if h.pc = .storePolling then 0 else 1
  repolls : h.repollTimes ≤ L + h.preemptFalse

namespace HandleFrame.Bounded

variable {L : Nat} {h : HandleFrame}

/-- A call polls at most `L + 1 + f` times, `f` the `need_preempt()` calls that returned
`false`. -/
theorem polls_le (hb : h.Bounded L) : h.polls ≤ L + 1 + h.preemptFalse := by
  have := hb.polls; have := hb.repolls; split at * <;> omega

/-- A fresh call, before its first poll. -/
theorem start (L : Nat) (t : TaskId) : (⟨t, .storePolling, 0, 0, 0⟩ : HandleFrame).Bounded L :=
  ⟨rfl, Nat.zero_le _⟩

/-- `task.status.store(POLLING)` starts a poll. -/
theorem startPoll (hb : h.Bounded L) (hpc : h.pc = .storePolling) :
    ({ h with pc := .polling, polls := h.polls + 1 } : HandleFrame).Bounded L :=
  ⟨by have := hb.polls; simp [hpc] at this ⊢; omega, hb.repolls⟩

/-- The loop moves within an iteration. -/
theorem setPc (hb : h.Bounded L) (hpc : h.pc ≠ .storePolling) (pc : HandlePc)
    (hpc' : pc ≠ .storePolling) : ({ h with pc := pc } : HandleFrame).Bounded L :=
  ⟨by simpa [hpc, hpc'] using hb.polls, hb.repolls⟩

/-- After `Err(NOTIFIED)` the loop repolls, counting one more repoll, or preempts. -/
theorem onNotified (hb : h.Bounded L) (hpc : h.pc = .casIdle) (need pre : Bool) :
    (h.onNotified L need pre).Bounded L := by
  obtain ⟨hp, hr⟩ := hb
  simp only [hpc] at hp
  unfold HandleFrame.onNotified
  dsimp only
  split
  · exact ⟨by simpa using hp, hr⟩
  · refine ⟨by simp at hp ⊢; omega, ?_⟩
    by_cases ha : (decide (L ≤ h.repollTimes) || need) = true <;> simp_all <;> omega

end HandleFrame.Bounded

namespace Thread

/-- What thread `i` keeps true of its own thread-locals and calls. -/
structure WF (i : ThreadId) (th : Thread) : Prop where
  /-- `LOCAL` is non-null exactly during a `handle` call, and points at the worker's
  `Local`. -/
  localPtr : th.localPtr = if th.handle.isSome then th.role.ownLocal else none
  /-- Only a worker calls `handle`. -/
  handleWorker : th.handle.isSome → th.role ≠ .external
  /-- A vtable call runs outside every pool, or inside a poll of the thread's own `handle`
  call, on a raw waker or on the context waker of that poll. -/
  op : ∀ o, th.op = some o → th.role = .external ∨
    ∃ h, th.handle = some h ∧ h.pc = .polling ∧ (o.src = .raw ∨ (o.src = .context i ∧ o.task = h.task))
  /-- A call that owns a count is a `wake_raw` call: it runs on a raw waker. -/
  owned : ∀ o, th.op = some o → o.owned = true → o.src = .raw
  /-- The counters of the `handle` call. -/
  bounded : ∀ h, th.handle = some h → h.Bounded th.repollLimit

theorem WF.new (i : ThreadId) (r : Role) (n : Nat) : (Thread.new r n).WF i :=
  ⟨by simp [Thread.new], by simp [Thread.new], by simp [Thread.new], by simp [Thread.new],
    by simp [Thread.new]⟩

/-- A worker in a `handle` call has `LOCAL` pointing at its own `Local`. -/
theorem WF.localPtr_of_handle {i : ThreadId} {th : Thread} {h : HandleFrame} (hw : th.WF i)
    (hh : th.handle = some h) : ∃ w, th.role = .worker w ∧ th.localPtr = some w := by
  have hr := hw.handleWorker (by simp [hh])
  cases hrole : th.role with
  | worker w => exact ⟨w, rfl, by simp [hw.localPtr, hh, hrole]⟩
  | external => exact absurd hrole hr

/-- `out_of_polling` holds on a thread outside every `handle` call of pool `p`: `LOCAL` is
null there, or points at the `Local` of another pool. -/
theorem WF.localIn_eq_none {i : ThreadId} {th : Thread} {p : PoolId} (hw : th.WF i)
    (hout : ∀ h w, th.handle = some h → th.role = .worker w → w.pool ≠ p) :
    th.localIn p = none := by
  cases hh : th.handle with
  | none => simp [localIn, hw.localPtr, hh]
  | some h =>
    obtain ⟨w, hr, hl⟩ := hw.localPtr_of_handle hh
    simp [localIn, hl, hout h w hh hr]

/-- A thread outside a poll runs no vtable call. -/
theorem WF.op_none {i : ThreadId} {th : Thread} {h : HandleFrame} (hw : th.WF i)
    (hh : th.handle = some h) (hpc : h.pc ≠ .polling) : th.op = none := by
  cases ho : th.op with
  | none => rfl
  | some o =>
    rcases hw.op o ho with hr | ⟨h', hh', hpc', -⟩
    · exact absurd hr (hw.handleWorker (by simp [hh]))
    · rw [hh] at hh'; cases hh'; exact absurd hpc' hpc

/-- Changing the `handle` call without leaving a poll keeps a thread well formed. -/
theorem WF.setHandle {i : ThreadId} {th : Thread} {h : HandleFrame} (hw : th.WF i)
    (hh : th.handle = some h) (h' : HandleFrame) (hpc : h.pc ≠ .polling)
    (hb : h'.Bounded th.repollLimit) (n : Bool) :
    ({ th with handle := some h', needReschedule := n } : Thread).WF i := by
  have ho := hw.op_none hh hpc
  refine ⟨by simpa [hh] using hw.localPtr, fun _ => hw.handleWorker (by simp [hh]), by simp [ho],
    by simp [ho], fun _ hh' => Option.some.inj hh' ▸ hb⟩

/-- Ending the `handle` call (`Scope::drop` nulls `LOCAL`) with no vtable call running. -/
theorem WF.endHandle {i : ThreadId} {th : Thread} (ho : th.op = none) :
    ({ th with handle := none, localPtr := none } : Thread).WF i :=
  ⟨by simp, by simp, by simp [ho], by simp [ho], by simp⟩

/-- A vtable call moving on keeps a thread well formed. -/
theorem WF.setOp {i : ThreadId} {th : Thread} {o : OpFrame} (hw : th.WF i) (ho : th.op = some o)
    (o' : OpFrame) (hsrc : o'.src = o.src) (htask : o'.task = o.task) (hown : o'.owned = o.owned) :
    ({ th with op := some o' } : Thread).WF i := by
  refine ⟨hw.localPtr, hw.handleWorker, fun o'' ho'' => ?_, fun o'' ho'' => ?_, hw.bounded⟩ <;>
    obtain rfl : o' = o'' := by simpa using ho''
  · rw [hsrc, htask]; exact hw.op o ho
  · rw [hsrc, hown]; exact hw.owned o ho

/-- Ending a vtable call keeps a thread well formed. -/
theorem WF.endOp {i : ThreadId} {th : Thread} (hw : th.WF i) : ({ th with op := none } : Thread).WF i :=
  ⟨hw.localPtr, hw.handleWorker, by simp, by simp, hw.bounded⟩

end Thread

/-- Every thread is well formed. -/
abbrev ThreadsWF (s : State) : Prop :=
  ∀ (i : ThreadId) (th : Thread), s.threads[i]? = some th → th.WF i

theorem ThreadsWF.setThread {s : State} {i : ThreadId} {th : Thread} (h : ThreadsWF s)
    (hth : th.WF i) : ThreadsWF (s.setThread i th) :=
  forall_getElem?_set h hth

theorem ThreadsWF.of_threads {s s' : State} (h : ThreadsWF s) (e : s'.threads = s.threads) :
    ThreadsWF s' := fun i th hi => h i th (e ▸ hi)

/-- `handle` returns with no vtable call running. -/
theorem ThreadsWF.endHandle {s : State} {i : ThreadId} {th : Thread} (h : ThreadsWF s)
    (ho : th.op = none) (t : TaskId) (d : Bool) : ThreadsWF (s.endHandle i th t d) :=
  (h.setThread (Thread.WF.endHandle ho)).of_threads rfl

/-! ## §2 Every step keeps every thread well formed -/

variable {s s' : State} {i : ThreadId}

theorem pop_threadsWF {q : QueueRef} {t : TaskId} (hs : pop s i q t = some s') (h : ThreadsWF s) :
    ThreadsWF s' := by
  obtain ⟨th, w, hi, hr, hh, ho, -, -, -, rfl⟩ := pop_some hs
  exact ThreadsWF.setThread (h.of_threads rfl) ⟨by simp [hr], by simp [hr], by simp [ho], by simp [ho],
    by simpa using HandleFrame.Bounded.start th.repollLimit t⟩

/-- The steps of `handle` that keep the thread in its loop outside a poll. -/
theorem loop_threadsWF {th : Thread} {h : HandleFrame} (hi : s.threads[i]? = some th)
    (hh : th.handle = some h) (hpc : h.pc ≠ .polling) (h' : HandleFrame)
    (hb : h'.Bounded th.repollLimit) (n : Bool) (hwf : ThreadsWF s) (s₀ : State)
    (e : s₀.threads = s.threads) :
    ThreadsWF (s₀.setThread i { th with handle := some h', needReschedule := n }) :=
  ThreadsWF.setThread (hwf.of_threads e) ((hwf i th hi).setHandle hh h' hpc hb n)

/-- A vtable call starts in user code, on a raw waker or on a context waker the thread may
use. -/
theorem startCall_threadsWF {t : TaskId} {src : WakerSrc} {owned : Bool} {pc : OpPc}
    (hs : startCall s i t src owned pc = some s') (hown : owned = true → src = .raw)
    (h : ThreadsWF s) : ThreadsWF s' := by
  obtain ⟨th, hi, ho, hu, hr, rfl⟩ := startCall_some hs
  refine ThreadsWF.setThread (h.of_threads (by split <;> rfl)) ⟨(h i th hi).localPtr,
    (h i th hi).handleWorker, fun o' ho' => ?_, fun o' ho' => ?_, (h i th hi).bounded⟩ <;>
    obtain rfl : _ = o' := by simpa using ho'
  swap
  · exact hown
  by_cases hext : th.role = .external
  · exact .inl hext
  obtain ⟨h', hh, hpc⟩ : ∃ h', th.handle = some h' ∧ h'.pc = .polling := by
    cases hh : th.handle <;> simp_all [Thread.runsUserCode]
  refine .inr ⟨h', hh, hpc, ?_⟩
  cases src with
  | raw => exact .inl rfl
  | context j =>
    simp [wakerReady, hext] at hr
    obtain ⟨rfl, hr⟩ := hr
    simp [handleAt, hi, hh] at hr
    exact .inr ⟨rfl, hr.1.symm⟩

theorem step_threadsWF {a : Action} (hs : step s a = some s') (h : ThreadsWF s) :
    ThreadsWF s' := by
  unfold step at hs
  split_ifs at hs
  cases a with
  | spawn t p =>
    obtain ⟨-, rfl⟩ := spawn_some hs
    exact h.of_threads (by unfold push; split <;> rfl)
  | pop i q t => exact pop_threadsWF hs h
  | storePolling i =>
    obtain ⟨th, hd, hi, hh, hpc, rfl⟩ := storePolling_some hs
    have ho := (h i th hi).op_none hh (by simp [hpc])
    refine ThreadsWF.setThread (h.of_threads rfl) ⟨?_, ?_, by simp [ho], by simp [ho], ?_⟩
    · simpa [hh] using (h i th hi).localPtr
    · exact fun _ => (h i th hi).handleWorker (by simp [hh])
    · simpa using ((h i th hi).bounded hd hh).startPoll hpc
  | reschedule i =>
    obtain ⟨th, hd, hi, hh, -, ho, rfl⟩ := reschedule_some hs
    exact h.setThread ⟨(h i th hi).localPtr, (h i th hi).handleWorker, by simp [ho], by simp [ho],
      (h i th hi).bounded⟩
  | pollReady i =>
    obtain ⟨th, hd, hi, -, -, ho, -, rfl⟩ := pollReady_some hs
    exact ThreadsWF.endHandle (h.of_threads rfl) ho hd.task true
  | pollPending i =>
    obtain ⟨th, hd, hi, hh, hpc, ho, -, rfl⟩ := pollPending_some hs
    exact h.setThread ⟨by simpa [hh] using (h i th hi).localPtr,
      fun _ => (h i th hi).handleWorker (by simp [hh]), by simp [ho], by simp [ho],
      by simpa using ((h i th hi).bounded hd hh).setPc (by simp [hpc]) .setRemote (by simp)⟩
  | pollPanic i =>
    obtain ⟨th, -, hi, -, -, ho, -, rfl⟩ := pollPanic_some hs
    exact ThreadsWF.setThread (h.of_threads rfl) (Thread.WF.endHandle ho)
  | ensureRemote i =>
    obtain ⟨th, hd, hi, hh, hpc, ⟨-, rfl⟩ | ⟨w, -, -, rfl⟩ | ⟨-, -, rfl⟩⟩ := ensureRemote_some hs
    all_goals have hb := (h i th hi).bounded hd hh
    · exact loop_threadsWF hi hh (by simp [hpc]) _ (hb.setPc (by simp [hpc]) .casIdle (by simp))
        th.needReschedule h s rfl
    · exact h.setThread ((h i th hi).setHandle hh _ (by simp [hpc])
        (hb.setPc (by simp [hpc]) .casIdle (by simp)) th.needReschedule)
    · exact h
  | casIdle i b =>
    obtain ⟨th, hd, hi, hh, hpc, ⟨-, rfl⟩ | ⟨-, rfl⟩ | ⟨-, -, rfl⟩⟩ := casIdle_some hs
    · exact ThreadsWF.endHandle (h.of_threads rfl) ((h i th hi).op_none hh (by simp [hpc]))
        hd.task false
    · exact loop_threadsWF hi hh (by simp [hpc]) _
        (((h i th hi).bounded hd hh).onNotified hpc _ _) false h s rfl
    · exact h
  | preempt i b =>
    obtain ⟨th, hd, r, hi, hh, hpc, ⟨s₁, hwt, rfl⟩ | ⟨-, rfl⟩⟩ := preempt_some hs
    · obtain ⟨q, e, -, he, -⟩ := wakeTask_some_effect hwt
      exact ThreadsWF.endHandle (h.of_threads he.threads) ((h i th hi).op_none hh (by simp [hpc]))
        hd.task false
    · exact h
  | cloneRaw i t src => exact startCall_threadsWF hs nofun h
  | wakeRaw i t => exact startCall_threadsWF hs (fun _ => rfl) h
  | wakeRefRaw i t src => exact startCall_threadsWF hs nofun h
  | dropRaw t =>
    obtain ⟨-, rfl⟩ := dropRaw_some hs
    exact h.of_threads rfl
  | cloneTaskCheck i =>
    obtain ⟨th, o, hi, ho, -, ⟨-, rfl⟩ | ⟨-, rfl⟩⟩ := cloneTaskCheck_some hs
    · exact ThreadsWF.setThread (h.of_threads rfl) (h i th hi).endOp
    · exact h.setThread ((h i th hi).setOp ho _ rfl rfl rfl)
  | cloneTaskSet i =>
    obtain ⟨th, o, hi, ho, -, ⟨w, -, rfl⟩ | ⟨-, rfl⟩⟩ := cloneTaskSet_some hs
    · exact ThreadsWF.setThread (h.of_threads rfl) (h i th hi).endOp
    · exact h
  | wakeImplLoad i =>
    obtain ⟨th, o, hi, ho, -, rfl⟩ := wakeImplLoad_some hs
    exact h.setThread ((h i th hi).setOp ho _ rfl rfl rfl)
  | wakeImplCas i b =>
    obtain ⟨th, o, obs, hi, ho, -, ⟨-, -, rfl⟩ | ⟨-, -, rfl⟩ | ⟨-, -, rfl⟩ | rfl⟩ :=
      wakeImplCas_some hs
    · exact ThreadsWF.setThread (h.of_threads rfl) ((h i th hi).setOp ho _ rfl rfl rfl)
    · exact ThreadsWF.setThread (h.of_threads (by simp only [endWake, returnWaker]; split_ifs <;> rfl))
        (h i th hi).endOp
    · exact ThreadsWF.setThread (h.of_threads (by simp only [returnWaker]; split_ifs <;> rfl))
        (h i th hi).endOp
    · exact h.setThread ((h i th hi).setOp ho _ rfl rfl rfl)
  | wakeImplWakeTask i b =>
    obtain ⟨th, o, hi, ho, -, ⟨s₁, hwt, rfl⟩ | ⟨-, rfl⟩⟩ := wakeImplWakeTask_some hs
    · obtain ⟨q, e, -, he, -⟩ := wakeTask_some_effect hwt
      exact ThreadsWF.setThread (h.of_threads (by simp only [returnWaker]; split_ifs <;> simp [he.threads]))
        (h i th hi).endOp
    · exact h
  | close p =>
    obtain ⟨-, rfl⟩ := close_some hs
    exact h
  | destroy p =>
    obtain ⟨-, -, rfl⟩ := destroy_some hs
    exact h
  | dropQueued q t =>
    obtain ⟨-, -, rfl⟩ := dropQueued_some hs
    exact h.of_threads rfl

theorem threadsWF_reachable {s : State} (hs : Reachable s) : ThreadsWF s := by
  induction hs with
  | init ths =>
    intro i th hi
    simp only [State.init, List.getElem?_map, Option.map_eq_some'] at hi
    obtain ⟨r, -, rfl⟩ := hi
    exact Thread.WF.new i r.1 r.2
  | step a _ hstep ih => exact step_threadsWF hstep ih

/-- `LOCAL` is null on every thread outside a `handle` call, and during one it points at the
`Local` of the worker that runs it: `Scope::new` sets it, `Scope::drop` clears it. -/
theorem local_scope {s : State} (hs : Reachable s) {i : ThreadId} {th : Thread}
    (hi : s.threads[i]? = some th) :
    (th.handle = none → th.localPtr = none) ∧
    (∀ h, th.handle = some h → ∃ w, th.role = .worker w ∧ th.localPtr = some w) := by
  have hw := threadsWF_reachable hs i th hi
  exact ⟨fun hh => by simp [hw.localPtr, hh], fun h hh => hw.localPtr_of_handle hh⟩

/-- Worker `0` in its `handle` call on task `0`. -/
theorem local_scope_pop :
    ∃ s th, run (State.init [(.worker ⟨0, 0⟩, 5), (.external, 5)])
        [.spawn 0 0, .pop 0 (.injector 0) 0] = some s ∧ s.threads[0]? = some th ∧
      th.handle.isSome ∧ (th.handle = none → th.localPtr = none) ∧
      (∀ h, th.handle = some h → ∃ w, th.role = .worker w ∧ th.localPtr = some w) := by
  obtain ⟨s, th, hrun, hi, hh⟩ : ∃ s th, run (State.init [(.worker ⟨0, 0⟩, 5), (.external, 5)])
      [.spawn 0 0, .pop 0 (.injector 0) 0] = some s ∧ s.threads[0]? = some th ∧
      th.handle.isSome := ⟨_, _, rfl, rfl, rfl⟩
  exact ⟨s, th, hrun, hi, hh, local_scope ((Reachable.init _).run hrun) hi⟩

end Yatp.Future
