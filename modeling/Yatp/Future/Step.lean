import Yatp.Future.State

/-!
# Future Tasks: the Steps

Every step one thread takes in `src/task/future.rs`, at the grain of its shared-memory
accesses: one step per load, store or compare-exchange of the status byte, per read or
write of `extras.remote`, and per queue operation. Work a thread does on its own
thread-locals or stack is folded into the neighbouring shared access.

## Layers

- `wakeTask`: the routing of `wake_task` (out of polling, `spawn_remote`, `spawn`).
- `Runner::handle` as the steps `storePolling`, `pollReady`/`pollPending`/`pollPanic`,
  `ensureRemote`, `casIdle` and `preempt`. The future's own code runs between
  `storePolling` and the end of the poll: `reschedule` and any waker vtable call.
- The waker vtable: `cloneRaw`, `wakeRaw`, `wakeRefRaw` start a call, `dropRaw` is one
  step; `cloneTaskCheck`/`cloneTaskSet` are `clone_task`, `wakeImplLoad`/`wakeImplCas`
  the loop of `wake_impl`, and `wakeImplWakeTask` its call of `wake_task`.
- The environment: spawning a `TaskCell`, popping it on a worker, and closing and
  destroying a pool.

The queue core (`crate::queue`, `pool/spawn.rs`) is not part of the source: its pushes,
pops, `need_preempt` and `WeakRemote::upgrade` follow the spec, and `need_preempt` and the
overflow of a local queue are choices of the step.
-/

namespace Yatp.Future

namespace State

/-- Thread `i` with the `handle` call it is in. -/
def handleAt (s : State) (i : ThreadId) : Option (Thread × HandleFrame) :=
  s.threads[i]?.bind fun th => th.handle.map fun h => (th, h)

/-- Thread `i` with the waker vtable call it is in. -/
def opAt (s : State) (i : ThreadId) : Option (Thread × OpFrame) :=
  s.threads[i]?.bind fun th => th.op.map fun o => (th, o)

/-- Modelled from the spec: whether a push to `q` keeps the cell. A pool's injector takes
pushes only while the pool runs ("Queue push after close → drop task"); a worker's local
queue takes every push. -/
def accepts (s : State) : QueueRef → Bool
  | .injector p => s.pool p == .running
  | .localQueue _ => true

/-- Modelled from the spec: a `TaskCell` of `t` is pushed to `q` (`Remote::spawn`,
`Local::spawn_remote`, `Local::spawn`), or dropped when `q` does not take it. -/
@[simp] def push (s : State) (t : TaskId) (q : QueueRef) (bySpawner : Bool) : State :=
  if s.accepts q then ({ s with queue := (q, t) :: s.queue }).record (.push t q bySpawner)
  else s.dropCell t

/-- `handle` returns `done` on thread `th` (number `i`): `Scope::drop` nulls `LOCAL`. -/
@[simp] def endHandle (s : State) (i : ThreadId) (th : Thread) (t : TaskId) (done : Bool) : State :=
  (s.setThread i { th with handle := none, localPtr := none }).record (.returned i t done)

/-- No vtable call runs on the context waker of thread `i`'s poll, so the poll can return
(the `&Waker` it lent is no longer borrowed). -/
def contextFree (s : State) (i : ThreadId) : Bool :=
  s.threads.all fun th => th.op.all fun o => o.src != .context i

/-- The waker `src` of task `t` is one thread `th` (number `i`) can call: a raw waker of `t`
that no other call uses, or the context waker of a poll of `t` on `i` itself or, from a
thread outside every pool, on any thread (a `&Waker` is `Sync`). -/
def wakerReady (s : State) (i : ThreadId) (th : Thread) (t : TaskId) : WakerSrc → Bool
  | .raw => 0 < (s.task t).wakers
  | .context j => (j == i || th.role == .external) &&
      (s.handleAt j).any fun p => p.2.task == t && p.2.pc == .polling

/-- A borrowed raw waker goes back to its holder when the call on it returns. -/
@[simp] def returnWaker (s : State) (o : OpFrame) : State :=
  if o.src = .raw ∧ o.owned = false then
    s.setTask o.task { s.task o.task with wakers := (s.task o.task).wakers + 1 }
  else s

/-- The end of `wake_impl` without a call of `wake_task`: an owned `Cow` is dropped, a
borrowed raw waker goes back. -/
@[simp] def endWake (s : State) (i : ThreadId) (th : Thread) (o : OpFrame) : State :=
  let s := if o.owned then s.decStrong o.task else s.returnWaker o
  s.setThread i { th with op := none }

end State

/-- Thread `th` runs code of a future or of a user: it is outside every pool, or inside a
poll. -/
def Thread.runsUserCode (th : Thread) : Bool :=
  th.role == .external || th.handle.any (·.pc == .polling)

/-- The pool of the `Local` that `LOCAL` points at. -/
def Thread.localPool (th : Thread) : Option PoolId := th.localPtr.map (·.pool)

/-- The `Local` that `LOCAL` points at when it belongs to pool `p`; `none` is
`out_of_polling` in `wake_task`. -/
def Thread.localIn (th : Thread) (p : PoolId) : Option WorkerRef :=
  match th.localPtr with
  | some w => if w.pool = p then some w else none
  | none => none

open State

/-! ## §1 `wake_task` -/

/-- `wake_task(task, reschedule)` run by thread `th` (number `i`) on task `t`. `owned` is
`Cow::Owned`; `spill` is the overflow of the local queue into the injector. `none` is the
panic of `expect("core should exist!!!")`. -/
def wakeTask (s : State) (i : ThreadId) (th : Thread) (t : TaskId)
    (owned reschedule spill : Bool) : Option State :=
  match (s.task t).remote with
  | none => none
  | some p =>
    match th.localIn p with
    | none =>
      -- out of polling: `task_remote.upgrade()`, then `remote.spawn(task.clone().into_owned())`
      let s := if s.pool p = .gone then s.setTask t { s.task t with dropped := true }
        else (s.incStrong t).push t (.injector p) false
      some ((if owned then s.decStrong t else s).record (.wakeTask i t reschedule .remote))
    | some w =>
      -- `task.into_owned()` takes a count only from a borrowed `Cow`
      let s := if owned then s else s.incStrong t
      if reschedule then some ((s.push t (.injector p) false).record (.wakeTask i t true .spawnRemote))
      else some ((s.push t (if spill then .injector p else .localQueue w) false).record
        (.wakeTask i t false .spawnLocal))

/-! ## §2 `Runner::handle` -/

/-- The worker thread `i` pops the `TaskCell` of `t` from `q` and calls `handle` with it:
`Scope::new` points `LOCAL` at the worker's `Local`. -/
def pop (s : State) (i : ThreadId) (q : QueueRef) (t : TaskId) : Option State :=
  match s.threads[i]? with
  | some th =>
    match th.role with
    | .worker w =>
      if th.handle = none ∧ th.op = none ∧ (q = .injector w.pool ∨ q = .localQueue w) ∧
          (q, t) ∈ s.queue ∧ s.pool w.pool ≠ .gone then
        some ({ s with queue := s.queue.erase (q, t) }.setThread i
          { th with handle := some ⟨t, .storePolling, 0, 0, 0⟩, localPtr := some w })
      else none
    | .external => none
  | none => none

/-- `task.status.store(POLLING)` at the head of the loop; the poll starts. -/
def storePolling (s : State) (i : ThreadId) : Option State :=
  match s.handleAt i with
  | some (th, h) =>
    if h.pc = .storePolling then
      let ts := s.task h.task
      some ((s.setTask h.task { ts with status := .polling, firstPoll := ts.firstPoll.or th.localPool })
        |>.setThread i { th with handle := some { h with pc := .polling, polls := h.polls + 1 } })
    else none
  | none => none

/-- `Reschedule::poll` on its first poll sets `NEED_RESCHEDULE` on the polling thread. -/
def reschedule (s : State) (i : ThreadId) : Option State :=
  match s.handleAt i with
  | some (th, h) =>
    if h.pc = .polling ∧ th.op = none then some (s.setThread i { th with needReschedule := true })
    else none
  | none => none

/-- The poll returns `Ready`: `status.store(COMPLETED)`, and `handle` returns `true`. -/
def pollReady (s : State) (i : ThreadId) : Option State :=
  match s.handleAt i with
  | some (th, h) =>
    if h.pc = .polling ∧ th.op = none ∧ s.contextFree i then
      some (((s.setTask h.task { s.task h.task with status := .completed }).decStrong h.task).endHandle
        i th h.task true)
    else none
  | none => none

/-- The poll returns `Pending`. -/
def pollPending (s : State) (i : ThreadId) : Option State :=
  match s.handleAt i with
  | some (th, h) =>
    if h.pc = .polling ∧ th.op = none ∧ s.contextFree i then
      some (s.setThread i { th with handle := some { h with pc := .setRemote } })
    else none
  | none => none

/-- The poll panics: unwinding drops the `Arc<Task>` and the `Scope`; the status stays. -/
def pollPanic (s : State) (i : ThreadId) : Option State :=
  match s.handleAt i with
  | some (th, h) =>
    if h.pc = .polling ∧ th.op = none ∧ s.contextFree i then
      some (((s.dropCell h.task).setThread i { th with handle := none, localPtr := none }).record
        (.panicked i h.task))
    else none
  | none => none

/-- `if extras.remote.is_none() { extras.remote = Some((&*LOCAL).weak_remote()) }`. -/
def ensureRemote (s : State) (i : ThreadId) : Option State :=
  match s.handleAt i with
  | some (th, h) =>
    if h.pc = .setRemote then
      let s' := s.setThread i { th with handle := some { h with pc := .casIdle } }
      match (s.task h.task).remote, th.localPtr with
      | some _, _ => some s'
      | none, some w =>
        some (s'.setTask h.task { s.task h.task with remote := some w.pool })
      | none, none => some { s with fault := some .nullLocal }
    else none
  | none => none

/-- The loop of `handle` after `Err(NOTIFIED)`, with the thread's `repoll_limit`, the
`NEED_RESCHEDULE` it took and the answer `need_preempt()` gives if asked: `need_preempt()`
is asked only when `repoll_times >= repoll_limit || need_reschedule`. -/
def HandleFrame.onNotified (h : HandleFrame) (limit : Nat) (need preempt : Bool) : HandleFrame :=
  let asked := decide (limit ≤ h.repollTimes) || need
  if asked && preempt then { h with pc := .wakeTask need }
  else { h with
    pc := .storePolling, repollTimes := h.repollTimes + 1,
    preemptFalse := h.preemptFalse + if asked then 1 else 0 }

/-- `compare_exchange(POLLING, IDLE)`. On `Ok` `handle` returns `false`. On
`Err(NOTIFIED)` it takes `NEED_RESCHEDULE`; `preempt` is the answer `need_preempt()` gives
if it is asked; the call either moves to `wake_task` or repolls. -/
def casIdle (s : State) (i : ThreadId) (preempt : Bool) : Option State :=
  match s.handleAt i with
  | some (th, h) =>
    if h.pc = .casIdle then
      match (s.task h.task).status with
      | .polling =>
        some (((s.setTask h.task { s.task h.task with status := .idle }).decStrong h.task).endHandle
          i th h.task false)
      | .notified =>
        let h' := h.onNotified th.repollLimit th.needReschedule preempt
        some (s.setThread i { th with needReschedule := false, handle := some h' })
      | _ => some { s with fault := some .unreachableStatus }
    else none
  | none => none

/-- The preemption path: `wake_task(Cow::Owned(task), need_reschedule)`, then `handle`
returns `false`. -/
def preempt (s : State) (i : ThreadId) (spill : Bool) : Option State :=
  match s.handleAt i with
  | some (th, h) =>
    match h.pc with
    | .wakeTask r =>
      match wakeTask s i th h.task true r spill with
      | some s' => some (s'.endHandle i th h.task false)
      | none => some { s with fault := some .noRemote }
    | _ => none
  | none => none

/-! ## §3 The waker vtable -/

/-- Thread `i` starts a vtable call on the waker `src` of task `t`. A call on a raw waker
takes it from the holders' pool: `wake_raw` consumes it, the others borrow it. -/
def startCall (s : State) (i : ThreadId) (t : TaskId) (src : WakerSrc) (owned : Bool)
    (pc : OpPc) : Option State :=
  match s.threads[i]? with
  | some th =>
    if th.op = none ∧ th.runsUserCode ∧ s.wakerReady i th t src then
      let s' := if src = .raw then s.setTask t { s.task t with wakers := (s.task t).wakers - 1 }
        else s
      some (s'.setThread i { th with op := some ⟨t, src, owned, pc⟩ })
    else none
  | none => none

/-- `clone_raw`: enters `clone_task`. -/
def cloneRaw (s : State) (i : ThreadId) (t : TaskId) (src : WakerSrc) : Option State :=
  startCall s i t src false .cloneCheck

/-- `wake_raw`: `Arc::from_raw` takes over the waker's count; `wake_impl(Cow::Owned)`. -/
def wakeRaw (s : State) (i : ThreadId) (t : TaskId) : Option State :=
  startCall s i t .raw true .wakeLoad

/-- `wake_ref_raw`: `wake_impl(Cow::Borrowed)` on a `ManuallyDrop` cell. -/
def wakeRefRaw (s : State) (i : ThreadId) (t : TaskId) (src : WakerSrc) : Option State :=
  startCall s i t src false .wakeLoad

/-- `drop_raw`: `Arc::from_raw` and drop. -/
def dropRaw (s : State) (t : TaskId) : Option State :=
  if 0 < (s.task t).wakers then
    some (s.setTask t { s.task t with
      wakers := (s.task t).wakers - 1, strong := (s.task t).strong - 1 })
  else none

/-- The end of `clone_task` and `clone_raw`: `mem::forget(task_cell.0.clone())` adds the
new waker's count; the new raw waker joins the holders, and a borrowed one goes back. -/
@[simp] def finishClone (s : State) (i : ThreadId) (th : Thread) (o : OpFrame) : State :=
  let ts := s.task o.task
  (s.setTask o.task { ts with
    strong := ts.strong + 1, wakers := ts.wakers + 1 + if o.src = .raw then 1 else 0 }).setThread
    i { th with op := none }

/-- `clone_task` reads `extras.remote.is_none()`. -/
def cloneTaskCheck (s : State) (i : ThreadId) : Option State :=
  match s.opAt i with
  | some (th, o) =>
    if o.pc = .cloneCheck then
      match (s.task o.task).remote with
      | some _ => some (finishClone s i th o)
      | none => some (s.setThread i { th with op := some { o with pc := .cloneSet } })
    else none
  | none => none

/-- `clone_task` assigns `extras.remote = Some((&*l.get()).weak_remote())`. -/
def cloneTaskSet (s : State) (i : ThreadId) : Option State :=
  match s.opAt i with
  | some (th, o) =>
    if o.pc = .cloneSet then
      match th.localPtr with
      | some w =>
        some (finishClone (s.setTask o.task { s.task o.task with remote := some w.pool }) i th o)
      | none => some { s with fault := some .nullLocal }
    else none
  | none => none

/-- `wake_impl`: `let mut status = task.status.load(SeqCst)`. -/
def wakeImplLoad (s : State) (i : ThreadId) : Option State :=
  match s.opAt i with
  | some (th, o) =>
    if o.pc = .wakeLoad then
      some (s.setThread i { th with op := some { o with pc := .wakeCas (s.task o.task).status } })
    else none
  | none => none

/-- One turn of the loop of `wake_impl`. `spurious` is a spurious failure of
`compare_exchange_weak`, which reports the current value like a real failure. -/
def wakeImplCas (s : State) (i : ThreadId) (spurious : Bool) : Option State :=
  match s.opAt i with
  | some (th, o) =>
    match o.pc with
    | .wakeCas observed =>
      let cur := (s.task o.task).status
      let retry := s.setThread i { th with op := some { o with pc := .wakeCas cur } }
      match observed with
      | .idle =>
        if cur = .idle ∧ spurious = false then
          some ((s.setTask o.task { s.task o.task with status := .notified }).setThread i
            { th with op := some { o with pc := .wakeTask } })
        else some retry
      | .polling =>
        if cur = .polling ∧ spurious = false then
          some (endWake (s.setTask o.task { s.task o.task with status := .notified }) i th o)
        else some retry
      | _ => some (endWake s i th o)
    | _ => none
  | none => none

/-- `wake_impl` after winning `IDLE → NOTIFIED`: `wake_task(task, false)`, then return. -/
def wakeImplWakeTask (s : State) (i : ThreadId) (spill : Bool) : Option State :=
  match s.opAt i with
  | some (th, o) =>
    if o.pc = .wakeTask then
      match wakeTask s i th o.task o.owned false spill with
      | some s' => some ((s'.returnWaker o).setThread i { th with op := none })
      | none => some { s with fault := some .noRemote }
    else none
  | none => none

/-! ## §4 Spawning and the pools -/

/-- The spawner pushes the `TaskCell` of `t` to pool `p` with `Remote::spawn`. -/
def spawn (s : State) (t : TaskId) (p : PoolId) : Option State :=
  if (s.task t).spawner then
    some ((s.setTask t { s.task t with spawner := false, home := some p }).push t (.injector p) true)
  else none

/-- `ThreadPool::shutdown` closes the pool's queue. -/
def close (s : State) (p : PoolId) : Option State :=
  if s.pool p = .running then some { s with pool := Function.update s.pool p .closed } else none

/-- A worker of pool `p`. -/
def Role.isWorkerOf (p : PoolId) : Role → Bool
  | .worker w => w.pool == p
  | .external => false

/-- Modelled from the spec: the last owner of a closed pool's core lets it go, after every
worker left its loop; `WeakRemote::upgrade` fails from then on. -/
def destroy (s : State) (p : PoolId) : Option State :=
  if s.pool p = .closed ∧ s.threads.all (fun th => !th.role.isWorkerOf p || th.handle.isNone) then
    some { s with pool := Function.update s.pool p .gone }
  else none

/-- Modelled from the spec: a destroyed queue drops the cells still in it. -/
def dropQueued (s : State) (q : QueueRef) (t : TaskId) : Option State :=
  if (q, t) ∈ s.queue ∧ s.pool q.pool = .gone then
    some ({ s with queue := s.queue.erase (q, t) }.dropCell t)
  else none

/-! ## §5 The system -/

/-- One step of one thread, or of the environment. -/
inductive Action where
  | spawn (t : TaskId) (p : PoolId)
  | pop (i : ThreadId) (q : QueueRef) (t : TaskId)
  | storePolling (i : ThreadId)
  | reschedule (i : ThreadId)
  | pollReady (i : ThreadId)
  | pollPending (i : ThreadId)
  | pollPanic (i : ThreadId)
  | ensureRemote (i : ThreadId)
  | casIdle (i : ThreadId) (preempt : Bool)
  | preempt (i : ThreadId) (spill : Bool)
  | cloneRaw (i : ThreadId) (t : TaskId) (src : WakerSrc)
  | wakeRaw (i : ThreadId) (t : TaskId)
  | wakeRefRaw (i : ThreadId) (t : TaskId) (src : WakerSrc)
  | dropRaw (t : TaskId)
  | cloneTaskCheck (i : ThreadId)
  | cloneTaskSet (i : ThreadId)
  | wakeImplLoad (i : ThreadId)
  | wakeImplCas (i : ThreadId) (spurious : Bool)
  | wakeImplWakeTask (i : ThreadId) (spill : Bool)
  | close (p : PoolId)
  | destroy (p : PoolId)
  | dropQueued (q : QueueRef) (t : TaskId)
  deriving DecidableEq, Repr

/-- The steps enabled in a state without a fault. -/
def stepOk (s : State) : Action → Option State
  | .spawn t p => spawn s t p
  | .pop i q t => pop s i q t
  | .storePolling i => storePolling s i
  | .reschedule i => reschedule s i
  | .pollReady i => pollReady s i
  | .pollPending i => pollPending s i
  | .pollPanic i => pollPanic s i
  | .ensureRemote i => ensureRemote s i
  | .casIdle i b => casIdle s i b
  | .preempt i b => preempt s i b
  | .cloneRaw i t src => cloneRaw s i t src
  | .wakeRaw i t => wakeRaw s i t
  | .wakeRefRaw i t src => wakeRefRaw s i t src
  | .dropRaw t => dropRaw s t
  | .cloneTaskCheck i => cloneTaskCheck s i
  | .cloneTaskSet i => cloneTaskSet s i
  | .wakeImplLoad i => wakeImplLoad s i
  | .wakeImplCas i b => wakeImplCas s i b
  | .wakeImplWakeTask i b => wakeImplWakeTask s i b
  | .close p => close s p
  | .destroy p => destroy s p
  | .dropQueued q t => dropQueued s q t

/-- One step; nothing runs after a fault. -/
def step (s : State) (a : Action) : Option State :=
  if s.fault = none then stepOk s a else none

/-- The states some run reaches, from any set of threads. -/
inductive Reachable : State → Prop where
  | init (ths : List (Role × Nat)) : Reachable (State.init ths)
  | step {s s' : State} (a : Action) : Reachable s → step s a = some s' → Reachable s'

/-- Run a list of steps in order. -/
def run (s : State) : List Action → Option State
  | [] => some s
  | a :: as => (step s a).bind (run · as)

theorem Reachable.run {s s' : State} (hs : Reachable s) :
    ∀ {as : List Action}, Future.run s as = some s' → Reachable s'
  | [], h => by simp only [Future.run, Option.some.injEq] at h; exact h ▸ hs
  | a :: as, h => by
    simp only [Future.run, Option.bind_eq_some] at h
    obtain ⟨s₁, h₁, h₂⟩ := h
    exact (Reachable.step a hs h₁).run h₂

end Yatp.Future
