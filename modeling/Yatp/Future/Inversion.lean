import Yatp.Future.Step

/-!
# Future Tasks: what each step does

One inversion lemma per step function: when the step is enabled, the guard it checked and
the state it produces, written with the updates of `State`. The invariants of the later
modules are proved from these lemmas and never unfold a step.
-/

namespace Yatp.Future

open State

variable {s s' : State} {i : ThreadId}

/-! ## Looking threads up -/

theorem handleAt_eq_some {th : Thread} {h : HandleFrame} :
    s.handleAt i = some (th, h) ↔ s.threads[i]? = some th ∧ th.handle = some h := by
  constructor
  · intro hat
    unfold State.handleAt at hat
    cases hi : s.threads[i]? with
    | none => simp [hi] at hat
    | some th' =>
      cases hh : th'.handle <;> simp [hi, hh] at hat
      obtain ⟨rfl, rfl⟩ := hat
      exact ⟨rfl, hh⟩
  · rintro ⟨hi, hh⟩
    simp [State.handleAt, hi, hh]

theorem opAt_eq_some {th : Thread} {o : OpFrame} :
    s.opAt i = some (th, o) ↔ s.threads[i]? = some th ∧ th.op = some o := by
  constructor
  · intro hat
    unfold State.opAt at hat
    cases hi : s.threads[i]? with
    | none => simp [hi] at hat
    | some th' =>
      cases hh : th'.op <;> simp [hi, hh] at hat
      obtain ⟨rfl, rfl⟩ := hat
      exact ⟨rfl, hh⟩
  · rintro ⟨hi, hh⟩
    simp [State.opAt, hi, hh]

/-! ## `wake_task` -/

/-- What a call of `wake_task` on `t` did: it pushed a cell of `t` to `q` (taking a count
only for a borrowed `Cow`), or it dropped `t` (releasing an owned `Cow`); it logged `e`,
and changed nothing else. -/
structure WakeTaskEffect (s s' : State) (t : TaskId) (owned : Bool) (q : QueueRef)
    (e : Event) : Prop where
  threads : s'.threads = s.threads
  pool : s'.pool = s.pool
  fault : s'.fault = s.fault
  other : ∀ u, u ≠ t → s'.task u = s.task u
  result :
    (s.accepts q = true ∧ s'.queue = (q, t) :: s.queue ∧
      s'.task t = { s.task t with strong := (s.task t).strong + if owned then 0 else 1 } ∧
      s'.log = e :: .push t q false :: s.log) ∨
    (s'.queue = s.queue ∧
      s'.task t = { s.task t with
        strong := (s.task t).strong - (if owned then 1 else 0), dropped := true } ∧
      s'.log = e :: s.log)

/-- `into_owned` on the `Cow`, then a push to `q`. -/
theorem WakeTaskEffect.intoOwned {t : TaskId} {owned : Bool} {q : QueueRef} {e : Event} :
    WakeTaskEffect s (((if owned then s else s.incStrong t).push t q false).record e) t owned
      q e := by
  by_cases hq : s.accepts q = true <;> constructor <;> cases owned <;> simp_all [State.accepts]

/-- Out of polling: `task.clone().into_owned()` pushed to `q`, then the `Cow` dropped. -/
theorem WakeTaskEffect.cloned {t : TaskId} {owned : Bool} {q : QueueRef} {e : Event} :
    WakeTaskEffect s ((if owned then ((s.incStrong t).push t q false).decStrong t
      else (s.incStrong t).push t q false).record e) t owned q e := by
  by_cases hq : s.accepts q = true <;> constructor <;> cases owned <;> simp_all [State.accepts]

/-- Out of polling, and the pool is gone: `upgrade()` fails and `t` is dropped. -/
theorem WakeTaskEffect.gone {t : TaskId} {owned : Bool} {p : PoolId} {e : Event} :
    WakeTaskEffect s ((if owned then (s.setTask t { s.task t with dropped := true }).decStrong t
      else s.setTask t { s.task t with dropped := true }).record e) t owned (.injector p) e := by
  constructor <;> cases owned <;> simp_all

/-- `wake_task` on a task whose remote is pool `p`: out of polling it goes to `p`'s
injector, on the preemption path with `reschedule` to the injector, and otherwise to the
current worker's local queue (or the injector, on overflow). -/
theorem wakeTask_effect {th : Thread} {t : TaskId} {p : PoolId} {owned r spill : Bool}
    (hr : (s.task t).remote = some p) :
    ∃ s₁ q e, wakeTask s i th t owned r spill = some s₁ ∧ q.pool = p ∧
      WakeTaskEffect s s₁ t owned q e ∧
      (th.localIn p = none → q = .injector p ∧ e = .wakeTask i t r .remote) ∧
      (∀ w, th.localIn p = some w →
        (r = true → q = .injector p ∧ e = .wakeTask i t true .spawnRemote) ∧
        (r = false → q = (if spill then .injector p else .localQueue w) ∧
          e = .wakeTask i t false .spawnLocal)) := by
  unfold wakeTask
  split
  · simp_all
  · rename_i p' hp'
    obtain rfl : p' = p := by simp_all
    cases hl : th.localIn p' with
    | none =>
      simp only [hl]
      refine ⟨_, .injector p', .wakeTask i t r .remote, rfl, rfl, ?_, fun _ => ⟨rfl, rfl⟩, by simp⟩
      by_cases hg : s.pool p' = .gone
      · rw [if_pos hg]; exact WakeTaskEffect.gone
      · rw [if_neg hg]; exact WakeTaskEffect.cloned
    | some w =>
      have hw : w.pool = p' := by
        unfold Thread.localIn at hl
        split at hl <;> [split_ifs at hl with h; cases hl]
        cases hl; exact h
      simp only [hl]
      cases r
      · refine ⟨_, if spill then .injector p' else .localQueue w, .wakeTask i t false .spawnLocal,
          rfl, by split <;> simp [hw], WakeTaskEffect.intoOwned, by simp, fun w' hw' => ?_⟩
        cases hw'; exact ⟨by simp, fun _ => ⟨rfl, rfl⟩⟩
      · exact ⟨_, .injector p', .wakeTask i t true .spawnRemote, rfl, rfl,
          WakeTaskEffect.intoOwned, by simp, fun _ _ => ⟨fun _ => ⟨rfl, rfl⟩, by simp⟩⟩

/-- `wake_task` panics exactly when the remote is `None`. -/
theorem wakeTask_eq_none {th : Thread} {t : TaskId} {owned r spill : Bool} :
    wakeTask s i th t owned r spill = none ↔ (s.task t).remote = none := by
  unfold wakeTask
  split
  · simp_all
  · rename_i p hp
    simp only [hp, reduceCtorEq, iff_false]
    split
    · simp
    · split <;> simp

/-- A call of `wake_task` that returns did what `WakeTaskEffect` says, with a queue of the
pool of the task's remote, and logged its route. -/
theorem wakeTask_some_effect {th : Thread} {t : TaskId} {owned r spill : Bool} {s₁ : State}
    (hw : wakeTask s i th t owned r spill = some s₁) :
    ∃ q e, (s.task t).remote = some q.pool ∧ WakeTaskEffect s s₁ t owned q e ∧
      ∃ route, e = .wakeTask i t r route := by
  cases hr : (s.task t).remote with
  | none => rw [wakeTask_eq_none.2 hr] at hw; cases hw
  | some p =>
    obtain ⟨s₂, q, e, hs₂, hq, he, hn, hs⟩ := @wakeTask_effect s i th t p owned r spill hr
    rw [hs₂, Option.some.injEq] at hw
    refine ⟨q, e, hq ▸ rfl, hw ▸ he, ?_⟩
    cases hl : th.localIn p with
    | none => exact ⟨_, (hn hl).2⟩
    | some w => cases r <;> simp_all

/-- Out of polling, `wake_task` pushes the task to the injector of its remote's pool while
that pool runs, and drops it once the pool no longer runs: `upgrade()` fails on a pool that
is gone, and a closed injector takes no push. -/
theorem wakeTask_outOfPolling {th : Thread} {t : TaskId} {p : PoolId} {owned r spill : Bool}
    {s₁ : State} (hr : (s.task t).remote = some p) (hl : th.localIn p = none)
    (hw : wakeTask s i th t owned r spill = some s₁) :
    (s.pool p = .running → s₁.queue = (.injector p, t) :: s.queue) ∧
      (s.pool p ≠ .running → s₁.queue = s.queue ∧ (s₁.task t).dropped = true) := by
  unfold wakeTask at hw
  simp only [hr, hl, Option.some.injEq] at hw
  subst hw
  refine ⟨fun hp => ?_, fun hp => ?_⟩
  · have hg : s.pool p ≠ .gone := by rw [hp]; decide
    cases owned <;> simp [hg, accepts, hp]
  · by_cases hg : s.pool p = .gone <;> cases owned <;> simp [hg, accepts, hp]

/-- Inside a `handle` call of the task's pool, on worker `w`, `wake_task` on an owned `Cow`
pushes through `spawn_remote` to the injector with `reschedule`, and through `spawn` to
`w`'s local queue (the injector when it overflows) otherwise. -/
theorem wakeTask_local {th : Thread} {t : TaskId} {w : WorkerRef} {r spill : Bool} {s₁ : State}
    (hr : (s.task t).remote = some w.pool) (hl : th.localIn w.pool = some w)
    (hw : wakeTask s i th t true r spill = some s₁) :
    s₁ = (s.push t (if r || spill then .injector w.pool else .localQueue w) false).record
      (.wakeTask i t r (if r then .spawnRemote else .spawnLocal)) := by
  unfold wakeTask at hw
  simp only [hr, hl] at hw
  cases r <;> cases spill <;> exact (Option.some.inj hw).symm

/-! ## `Runner::handle` -/

theorem pop_some {q : QueueRef} {t : TaskId} (hs : pop s i q t = some s') :
    ∃ th w, s.threads[i]? = some th ∧ th.role = .worker w ∧ th.handle = none ∧ th.op = none ∧
      (q = .injector w.pool ∨ q = .localQueue w) ∧ (q, t) ∈ s.queue ∧ s.pool w.pool ≠ .gone ∧
      s' = { s with queue := s.queue.erase (q, t) }.setThread i
        { th with handle := some ⟨t, .storePolling, 0, 0, 0⟩, localPtr := some w } := by
  unfold pop at hs
  split at hs
  · rename_i th hth
    split at hs
    · rename_i w hw
      split_ifs at hs with hg
      exact ⟨th, w, hth, hw, hg.1, hg.2.1, hg.2.2.1, hg.2.2.2.1, hg.2.2.2.2,
        (Option.some.inj hs).symm⟩
    · cases hs
  · cases hs

theorem storePolling_some (hs : storePolling s i = some s') :
    ∃ th h, s.threads[i]? = some th ∧ th.handle = some h ∧ h.pc = .storePolling ∧
      s' = (s.setTask h.task { s.task h.task with
        status := .polling, firstPoll := (s.task h.task).firstPoll.or th.localPool }).setThread i
        { th with handle := some { h with pc := .polling, polls := h.polls + 1 } } := by
  unfold storePolling at hs
  split at hs
  · rename_i th h hat
    split_ifs at hs with hpc
    exact ⟨th, h, (handleAt_eq_some.1 hat).1, (handleAt_eq_some.1 hat).2, hpc,
      (Option.some.inj hs).symm⟩
  · cases hs

theorem reschedule_some (hs : reschedule s i = some s') :
    ∃ th h, s.threads[i]? = some th ∧ th.handle = some h ∧ h.pc = .polling ∧ th.op = none ∧
      s' = s.setThread i { th with needReschedule := true } := by
  unfold reschedule at hs
  split at hs
  · rename_i th h hat
    split_ifs at hs with hg
    exact ⟨th, h, (handleAt_eq_some.1 hat).1, (handleAt_eq_some.1 hat).2, hg.1, hg.2,
      (Option.some.inj hs).symm⟩
  · cases hs

/-- The guard shared by the three ends of a poll. -/
theorem pollEnd_guard {f : State → Thread → HandleFrame → State}
    (hs : (match s.handleAt i with
      | some (th, h) => if h.pc = .polling ∧ th.op = none ∧ s.contextFree i = true
          then some (f s th h) else none
      | none => none) = some s') :
    ∃ th h, s.threads[i]? = some th ∧ th.handle = some h ∧ h.pc = .polling ∧ th.op = none ∧
      s.contextFree i = true ∧ s' = f s th h := by
  split at hs
  · rename_i th h hat
    split_ifs at hs with hg
    exact ⟨th, h, (handleAt_eq_some.1 hat).1, (handleAt_eq_some.1 hat).2, hg.1, hg.2.1, hg.2.2,
      (Option.some.inj hs).symm⟩
  · cases hs

theorem pollReady_some (hs : pollReady s i = some s') :
    ∃ th h, s.threads[i]? = some th ∧ th.handle = some h ∧ h.pc = .polling ∧ th.op = none ∧
      s.contextFree i = true ∧
      s' = ((s.setTask h.task { s.task h.task with status := .completed }).decStrong
        h.task).endHandle i th h.task true :=
  pollEnd_guard (f := fun s th h => ((s.setTask h.task { s.task h.task with
    status := .completed }).decStrong h.task).endHandle i th h.task true) hs

theorem pollPending_some (hs : pollPending s i = some s') :
    ∃ th h, s.threads[i]? = some th ∧ th.handle = some h ∧ h.pc = .polling ∧ th.op = none ∧
      s.contextFree i = true ∧
      s' = s.setThread i { th with handle := some { h with pc := .setRemote } } :=
  pollEnd_guard (f := fun s th h => s.setThread i { th with handle := some { h with
    pc := .setRemote } }) hs

theorem pollPanic_some (hs : pollPanic s i = some s') :
    ∃ th h, s.threads[i]? = some th ∧ th.handle = some h ∧ h.pc = .polling ∧ th.op = none ∧
      s.contextFree i = true ∧
      s' = ((s.dropCell h.task).setThread i { th with handle := none, localPtr := none }).record
        (.panicked i h.task) :=
  pollEnd_guard (f := fun s th h => ((s.dropCell h.task).setThread i { th with
    handle := none, localPtr := none }).record (.panicked i h.task)) hs

theorem ensureRemote_some (hs : ensureRemote s i = some s') :
    ∃ th h, s.threads[i]? = some th ∧ th.handle = some h ∧ h.pc = .setRemote ∧
      (((s.task h.task).remote ≠ none ∧
          s' = s.setThread i { th with handle := some { h with pc := .casIdle } }) ∨
       (∃ w, (s.task h.task).remote = none ∧ th.localPtr = some w ∧
          s' = (s.setThread i { th with handle := some { h with pc := .casIdle } }).setTask
            h.task { s.task h.task with remote := some w.pool }) ∨
       ((s.task h.task).remote = none ∧ th.localPtr = none ∧
          s' = { s with fault := some .nullLocal })) := by
  unfold ensureRemote at hs
  split at hs
  · rename_i th h hat
    split_ifs at hs with hpc
    refine ⟨th, h, (handleAt_eq_some.1 hat).1, (handleAt_eq_some.1 hat).2, hpc, ?_⟩
    cases hr : (s.task h.task).remote with
    | some p =>
      simp only [hr, Option.some.injEq] at hs
      exact .inl ⟨by simp, hs.symm⟩
    | none =>
      cases hl : th.localPtr with
      | some w =>
        simp only [hr, hl, Option.some.injEq] at hs
        exact .inr (.inl ⟨w, rfl, rfl, hs.symm⟩)
      | none =>
        simp only [hr, hl, Option.some.injEq] at hs
        exact .inr (.inr ⟨rfl, rfl, hs.symm⟩)
  · cases hs

theorem casIdle_some {b : Bool} (hs : casIdle s i b = some s') :
    ∃ th h, s.threads[i]? = some th ∧ th.handle = some h ∧ h.pc = .casIdle ∧
      (((s.task h.task).status = .polling ∧
          s' = ((s.setTask h.task { s.task h.task with status := .idle }).decStrong
            h.task).endHandle i th h.task false) ∨
       ((s.task h.task).status = .notified ∧
          s' = s.setThread i { th with
            needReschedule := false, handle := some (h.onNotified th.repollLimit th.needReschedule b) }) ∨
       ((s.task h.task).status ≠ .polling ∧ (s.task h.task).status ≠ .notified ∧
          s' = { s with fault := some .unreachableStatus })) := by
  unfold casIdle at hs
  split at hs
  · rename_i th h hat
    split_ifs at hs with hpc
    refine ⟨th, h, (handleAt_eq_some.1 hat).1, (handleAt_eq_some.1 hat).2, hpc, ?_⟩
    split at hs <;> rename_i hst
    · exact .inl ⟨hst, (Option.some.inj hs).symm⟩
    · exact .inr (.inl ⟨hst, (Option.some.inj hs).symm⟩)
    · exact .inr (.inr ⟨by simp_all, by simp_all, (Option.some.inj hs).symm⟩)
  · cases hs

theorem preempt_some {b : Bool} (hs : preempt s i b = some s') :
    ∃ th h r, s.threads[i]? = some th ∧ th.handle = some h ∧ h.pc = .wakeTask r ∧
      ((∃ s₁, wakeTask s i th h.task true r b = some s₁ ∧
          s' = s₁.endHandle i th h.task false) ∨
       (wakeTask s i th h.task true r b = none ∧ s' = { s with fault := some .noRemote })) := by
  unfold preempt at hs
  split at hs
  · rename_i th h hat
    split at hs
    · rename_i r hpc
      refine ⟨th, h, r, (handleAt_eq_some.1 hat).1, (handleAt_eq_some.1 hat).2, hpc, ?_⟩
      split at hs <;> rename_i hw
      · exact .inl ⟨_, hw, (Option.some.inj hs).symm⟩
      · exact .inr ⟨hw, (Option.some.inj hs).symm⟩
    · cases hs
  · cases hs

/-! ## The waker vtable -/

theorem startCall_some {t : TaskId} {src : WakerSrc} {owned : Bool} {pc : OpPc}
    (hs : startCall s i t src owned pc = some s') :
    ∃ th, s.threads[i]? = some th ∧ th.op = none ∧ th.runsUserCode = true ∧
      s.wakerReady i th t src = true ∧
      s' = (if src = .raw then s.setTask t { s.task t with wakers := (s.task t).wakers - 1 }
        else s).setThread i { th with op := some ⟨t, src, owned, pc⟩ } := by
  unfold startCall at hs
  split at hs
  · rename_i th hth
    by_cases hg : th.op = none ∧ th.runsUserCode = true ∧ s.wakerReady i th t src = true
    · rw [if_pos hg] at hs
      exact ⟨th, hth, hg.1, hg.2.1, hg.2.2, (Option.some.inj hs).symm⟩
    · rw [if_neg hg] at hs
      cases hs
  · cases hs

theorem dropRaw_some {t : TaskId} (hs : dropRaw s t = some s') :
    0 < (s.task t).wakers ∧ s' = s.setTask t { s.task t with
      wakers := (s.task t).wakers - 1, strong := (s.task t).strong - 1 } := by
  unfold dropRaw at hs
  split_ifs at hs with hw
  exact ⟨hw, (Option.some.inj hs).symm⟩

theorem cloneTaskCheck_some (hs : cloneTaskCheck s i = some s') :
    ∃ th o, s.threads[i]? = some th ∧ th.op = some o ∧ o.pc = .cloneCheck ∧
      (((s.task o.task).remote ≠ none ∧ s' = finishClone s i th o) ∨
       ((s.task o.task).remote = none ∧
          s' = s.setThread i { th with op := some { o with pc := .cloneSet } })) := by
  unfold cloneTaskCheck at hs
  split at hs
  · rename_i th o hat
    split_ifs at hs with hpc
    refine ⟨th, o, (opAt_eq_some.1 hat).1, (opAt_eq_some.1 hat).2, hpc, ?_⟩
    split at hs <;> rename_i hr
    · exact .inl ⟨by simp [hr], (Option.some.inj hs).symm⟩
    · exact .inr ⟨hr, (Option.some.inj hs).symm⟩
  · cases hs

theorem cloneTaskSet_some (hs : cloneTaskSet s i = some s') :
    ∃ th o, s.threads[i]? = some th ∧ th.op = some o ∧ o.pc = .cloneSet ∧
      ((∃ w, th.localPtr = some w ∧
          s' = finishClone (s.setTask o.task { s.task o.task with remote := some w.pool }) i th o) ∨
       (th.localPtr = none ∧ s' = { s with fault := some .nullLocal })) := by
  unfold cloneTaskSet at hs
  split at hs
  · rename_i th o hat
    split_ifs at hs with hpc
    refine ⟨th, o, (opAt_eq_some.1 hat).1, (opAt_eq_some.1 hat).2, hpc, ?_⟩
    split at hs <;> rename_i hl
    · exact .inl ⟨_, hl, (Option.some.inj hs).symm⟩
    · exact .inr ⟨hl, (Option.some.inj hs).symm⟩
  · cases hs

theorem wakeImplLoad_some (hs : wakeImplLoad s i = some s') :
    ∃ th o, s.threads[i]? = some th ∧ th.op = some o ∧ o.pc = .wakeLoad ∧
      s' = s.setThread i { th with op := some { o with pc := .wakeCas (s.task o.task).status } } := by
  unfold wakeImplLoad at hs
  split at hs
  · rename_i th o hat
    split_ifs at hs with hpc
    exact ⟨th, o, (opAt_eq_some.1 hat).1, (opAt_eq_some.1 hat).2, hpc, (Option.some.inj hs).symm⟩
  · cases hs

/-- The three outcomes of one turn of `wake_impl`'s loop: it wins `IDLE → NOTIFIED`, it
returns (after winning `POLLING → NOTIFIED`, or on `NOTIFIED` or `COMPLETED`), or it
retries with the current value. -/
theorem wakeImplCas_some {b : Bool} (hs : wakeImplCas s i b = some s') :
    ∃ th o obs, s.threads[i]? = some th ∧ th.op = some o ∧ o.pc = .wakeCas obs ∧
      ((obs = .idle ∧ (s.task o.task).status = .idle ∧
          s' = (s.setTask o.task { s.task o.task with status := .notified }).setThread i
            { th with op := some { o with pc := .wakeTask } }) ∨
       (obs = .polling ∧ (s.task o.task).status = .polling ∧
          s' = endWake (s.setTask o.task { s.task o.task with status := .notified }) i th o) ∨
       (obs ≠ .idle ∧ obs ≠ .polling ∧ s' = endWake s i th o) ∨
       s' = s.setThread i { th with op := some { o with
          pc := .wakeCas (s.task o.task).status } }) := by
  unfold wakeImplCas at hs
  split at hs
  · rename_i th o hat
    obtain ⟨hth, ho⟩ := opAt_eq_some.1 hat
    split at hs
    · rename_i obs hpc
      refine ⟨th, o, obs, hth, ho, hpc, ?_⟩
      simp only at hs
      split at hs
      · split_ifs at hs with hc
        · exact .inl ⟨rfl, hc.1, (Option.some.inj hs).symm⟩
        · exact .inr (.inr (.inr (Option.some.inj hs).symm))
      · split_ifs at hs with hc
        · exact .inr (.inl ⟨rfl, hc.1, (Option.some.inj hs).symm⟩)
        · exact .inr (.inr (.inr (Option.some.inj hs).symm))
      · rename_i hobs1 hobs2
        exact .inr (.inr (.inl ⟨hobs1, hobs2, (Option.some.inj hs).symm⟩))
    · cases hs
  · cases hs

theorem wakeImplWakeTask_some {b : Bool} (hs : wakeImplWakeTask s i b = some s') :
    ∃ th o, s.threads[i]? = some th ∧ th.op = some o ∧ o.pc = .wakeTask ∧
      ((∃ s₁, wakeTask s i th o.task o.owned false b = some s₁ ∧
          s' = (s₁.returnWaker o).setThread i { th with op := none }) ∨
       (wakeTask s i th o.task o.owned false b = none ∧ s' = { s with fault := some .noRemote })) := by
  unfold wakeImplWakeTask at hs
  split at hs
  · rename_i th o hat
    split_ifs at hs with hpc
    refine ⟨th, o, (opAt_eq_some.1 hat).1, (opAt_eq_some.1 hat).2, hpc, ?_⟩
    split at hs <;> rename_i hw
    · exact .inl ⟨_, hw, (Option.some.inj hs).symm⟩
    · exact .inr ⟨hw, (Option.some.inj hs).symm⟩
  · cases hs

/-! ## Spawning and the pools -/

theorem spawn_some {t : TaskId} {p : PoolId} (hs : spawn s t p = some s') :
    (s.task t).spawner = true ∧
      s' = (s.setTask t { s.task t with spawner := false, home := some p }).push t
        (.injector p) true := by
  unfold spawn at hs
  split_ifs at hs with h
  exact ⟨h, (Option.some.inj hs).symm⟩

theorem close_some {p : PoolId} (hs : close s p = some s') :
    s.pool p = .running ∧ s' = { s with pool := Function.update s.pool p .closed } := by
  unfold close at hs
  split_ifs at hs with h
  exact ⟨h, (Option.some.inj hs).symm⟩

theorem destroy_some {p : PoolId} (hs : destroy s p = some s') :
    s.pool p = .closed ∧ (∀ th ∈ s.threads, th.role.isWorkerOf p = true → th.handle = none) ∧
      s' = { s with pool := Function.update s.pool p .gone } := by
  unfold destroy at hs
  split_ifs at hs with h
  refine ⟨h.1, fun th hth hw => ?_, (Option.some.inj hs).symm⟩
  have := List.all_eq_true.1 h.2 th hth
  simpa [hw] using this

theorem dropQueued_some {q : QueueRef} {t : TaskId} (hs : dropQueued s q t = some s') :
    (q, t) ∈ s.queue ∧ s.pool q.pool = .gone ∧
      s' = { s with queue := s.queue.erase (q, t) }.dropCell t := by
  unfold dropQueued at hs
  split_ifs at hs with h
  exact ⟨h.1, h.2, (Option.some.inj hs).symm⟩

end Yatp.Future
