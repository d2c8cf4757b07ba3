import Mathlib.Logic.Function.Basic
import Mathlib.Data.List.Basic

/-!
# Future Tasks: the Shared State

The data model of `src/task/future.rs` and of the threads that run it. One `State` holds
every future task of the process, every thread, every pool's queues and the lifecycle of
each pool's queue core.

## What is modelled

- **Task** (`TaskState`): the status byte, `extras.remote` (as the pool of the recorded
  `WeakRemote`), the strong count of the `Arc<Task>`, whether the spawner still holds the
  `TaskCell` made by `TaskCell::new`, and the raw wakers made by `clone_raw` that no call
  is using. Tasks are numbered by `TaskId`; every id starts as a fresh `TaskCell::new`
  held by its spawner, so creation needs no step of its own.
- **Thread** (`Thread`): its role (a worker owning one `Local`, or a thread outside every
  pool), the thread-locals `LOCAL` and `NEED_RESCHEDULE`, the `Runner::handle` call it is
  in (if any) and the waker vtable call it is in (if any). A vtable call can run inside a
  poll: the poll is then suspended until the call returns.
- **Queues**: one bag of `(queue, task)` entries. The order inside a queue plays no part
  in the properties proved here, so a pop may take any entry of a queue it may read.

Ghost fields (`dropped`, `home`, `firstPoll`, the `log`) record history; no step reads them.
-/

namespace Yatp.Future

/-! ## §1 Identities and the status byte -/

/-- A future task: one `Arc<Task>` allocation. -/
abbrev TaskId := Nat

/-- A pool: one `QueueCore` with its injector. -/
abbrev PoolId := Nat

/-- A thread: its index in `State.threads`. -/
abbrev ThreadId := Nat

/-- The status byte of a `Task` (`NOTIFIED = 1`, `IDLE = 2`, `POLLING = 3`,
`COMPLETED = 4`). -/
inductive Status where
  | notified
  | idle
  | polling
  | completed
  deriving DecidableEq, Repr

/-- A worker's `Local`: the pool whose core it shares and its index among the pool's
local queues. -/
structure WorkerRef where
  pool : PoolId
  index : Nat
  deriving DecidableEq, Repr

/-- A queue a `TaskCell` can sit in. -/
inductive QueueRef where
  /-- The injector of a pool, fed by `Remote::spawn` and `Local::spawn_remote`. -/
  | injector (p : PoolId)
  /-- The local queue of one worker, fed by `Local::spawn`. -/
  | localQueue (w : WorkerRef)
  deriving DecidableEq, Repr

/-- The pool a queue belongs to. -/
def QueueRef.pool : QueueRef → PoolId
  | .injector p => p
  | .localQueue w => w.pool

@[simp] theorem QueueRef.pool_injector (p : PoolId) : (QueueRef.injector p).pool = p := rfl

@[simp] theorem QueueRef.pool_localQueue (w : WorkerRef) :
    (QueueRef.localQueue w).pool = w.pool := rfl

/-- Lifecycle of a pool's queue core. -/
inductive PoolStatus where
  /-- Accepting tasks. -/
  | running
  /-- Shut down: pushes to the injector drop the task; a `WeakRemote` still upgrades while
  some `Remote` is alive. -/
  | closed
  /-- Destroyed: every `WeakRemote` fails to upgrade and the queued cells are dropped. -/
  | gone
  deriving DecidableEq, Repr

/-! ## §2 Tasks -/

/-- One `Task` with its `TaskExtras` and the strong count of its `Arc`. -/
structure TaskState where
  /-- The `AtomicU8` status. -/
  status : Status
  /-- `extras.remote`: the pool of the recorded `WeakRemote`. -/
  remote : Option PoolId
  /-- The strong count of the `Arc<Task>`. -/
  strong : Nat
  /-- The `TaskCell` made by `TaskCell::new` is still held by whoever will spawn it. -/
  spawner : Bool
  /-- Raw wakers made by `clone_raw` that no vtable call is using. -/
  wakers : Nat
  /-- Ghost: the task was released before completing (a failed push, a failed upgrade,
  a queue destroyed with it, or a panicking poll). -/
  dropped : Bool
  /-- Ghost: the pool the spawner pushed the task to. -/
  home : Option PoolId
  /-- Ghost: the pool of the worker that first stored `POLLING`. -/
  firstPoll : Option PoolId
  deriving DecidableEq, Repr

/-- `TaskCell::new`: `NOTIFIED`, no remote, one strong reference, held by the spawner. -/
def TaskState.new : TaskState :=
  { status := .notified, remote := none, strong := 1, spawner := true, wakers := 0,
    dropped := false, home := none, firstPoll := none }

/-! ## §3 Threads -/

/-- What a thread is. -/
inductive Role where
  /-- A `WorkerThread` owning the `Local` `w`. -/
  | worker (w : WorkerRef)
  /-- A thread outside every pool: `LOCAL` stays null on it. -/
  | external
  deriving DecidableEq, Repr

/-- Where a `Runner::handle` call is in its loop. -/
inductive HandlePc where
  /-- At the loop head: `task.status.store(POLLING)` is next. -/
  | storePolling
  /-- Inside `poll(&mut cx)`: the future's own code runs. -/
  | polling
  /-- The poll returned `Pending`: `extras.remote` is ensured next. -/
  | setRemote
  /-- `compare_exchange(POLLING, IDLE)` is next. -/
  | casIdle
  /-- The preemption path: `wake_task(Cow::Owned(task), reschedule)` is next. -/
  | wakeTask (reschedule : Bool)
  deriving DecidableEq, Repr

/-- A `Runner::handle` call in progress. -/
structure HandleFrame where
  /-- The task whose `TaskCell` the call received. -/
  task : TaskId
  pc : HandlePc
  /-- `repoll_times`. -/
  repollTimes : Nat
  /-- Ghost: the polls this call has started. -/
  polls : Nat
  /-- Ghost: the `need_preempt()` calls of this call that returned false. -/
  preemptFalse : Nat
  deriving DecidableEq, Repr

/-- The waker a vtable call runs on. -/
inductive WakerSrc where
  /-- A raw waker made by `clone_raw`; it owns one strong count. -/
  | raw
  /-- The `ManuallyDrop` waker that `handle` built on thread `j` for the poll in progress
  there; it owns no count. -/
  | context (j : ThreadId)
  deriving DecidableEq, Repr

/-- Where a waker vtable call is. -/
inductive OpPc where
  /-- `clone_task`: `extras.remote.is_none()` is read next. -/
  | cloneCheck
  /-- `clone_task`: `extras.remote = Some((&*LOCAL).weak_remote())` is next. -/
  | cloneSet
  /-- `wake_impl`: the first `status.load` is next. -/
  | wakeLoad
  /-- `wake_impl`: the loop, holding the value `observed` of `status`. -/
  | wakeCas (observed : Status)
  /-- `wake_impl` won `IDLE → NOTIFIED`: `wake_task(task, false)` is next. -/
  | wakeTask
  deriving DecidableEq, Repr

/-- A waker vtable call in progress (`clone_raw`, `wake_raw` or `wake_ref_raw`). -/
structure OpFrame where
  task : TaskId
  src : WakerSrc
  /-- The `Cow` is `Owned`: a `wake_raw` call that took over its waker's count. -/
  owned : Bool
  pc : OpPc
  deriving DecidableEq, Repr

/-- A thread with its thread-locals and the calls it is in. -/
structure Thread where
  role : Role
  /-- `repoll_limit` of the thread's `Runner`. -/
  repollLimit : Nat
  /-- The thread-local `LOCAL`: the `Local` it points at, `none` when null. -/
  localPtr : Option WorkerRef
  /-- The thread-local `NEED_RESCHEDULE`. -/
  needReschedule : Bool
  handle : Option HandleFrame
  op : Option OpFrame
  deriving DecidableEq, Repr

/-- A thread that has not run anything yet: both thread-locals at their initial values. -/
def Thread.new (role : Role) (repollLimit : Nat) : Thread :=
  { role := role, repollLimit := repollLimit, localPtr := none, needReschedule := false,
    handle := none, op := none }

/-! ## §4 History, faults and the whole state -/

/-- How `wake_task` routed a task. -/
inductive Route where
  /-- `out_of_polling`: through `task_remote.upgrade()` to that pool's injector. -/
  | remote
  /-- `(*ptr).spawn_remote`: the current worker's injector. -/
  | spawnRemote
  /-- `(*ptr).spawn`: the current worker's local queue. -/
  | spawnLocal
  deriving DecidableEq, Repr

/-- Ghost history of the steps the properties talk about. -/
inductive Event where
  /-- A `TaskCell` of `t` entered queue `q`; `bySpawner` for the spawner's own push. -/
  | push (t : TaskId) (q : QueueRef) (bySpawner : Bool)
  /-- Thread `i` called `wake_task` on `t` with `reschedule`; it routed by `route`. -/
  | wakeTask (i : ThreadId) (t : TaskId) (reschedule : Bool) (route : Route)
  /-- `handle` on thread `i`, called with `t`, returned `done`. -/
  | returned (i : ThreadId) (t : TaskId) (done : Bool)
  /-- `handle` on thread `i`, called with `t`, unwound from a panicking poll. -/
  | panicked (i : ThreadId) (t : TaskId)
  deriving DecidableEq, Repr

/-- Where the code stops with a panic or undefined behaviour. -/
inductive Fault where
  /-- `&*l.get()` on a null `LOCAL`. -/
  | nullLocal
  /-- `expect("core should exist!!!")` on a `None` remote. -/
  | noRemote
  /-- The `_ => unreachable!()` arm of `handle`. -/
  | unreachableStatus
  deriving DecidableEq, Repr

/-- The whole system. -/
structure State where
  task : TaskId → TaskState
  threads : List Thread
  pool : PoolId → PoolStatus
  /-- Every `TaskCell` in a queue, with the queue it is in. -/
  queue : List (QueueRef × TaskId)
  log : List Event
  /-- Set when a step panics or dereferences null; no step runs after it. -/
  fault : Option Fault

/-- Threads with the given roles and repoll limits, all pools running, no task spawned. -/
def State.init (ths : List (Role × Nat)) : State :=
  { task := fun _ => TaskState.new, threads := ths.map fun r => Thread.new r.1 r.2,
    pool := fun _ => .running, queue := [], log := [], fault := none }

/-! ## §5 Updates -/

namespace State

/-- Replace the state of task `t`. -/
def setTask (s : State) (t : TaskId) (ts : TaskState) : State :=
  { s with task := Function.update s.task t ts }

/-- Replace thread `i`. -/
def setThread (s : State) (i : ThreadId) (th : Thread) : State :=
  { s with threads := s.threads.set i th }

/-- Change the strong count of `t` by `+1` (`Arc::clone`). -/
@[simp] def incStrong (s : State) (t : TaskId) : State :=
  s.setTask t { s.task t with strong := (s.task t).strong + 1 }

/-- Change the strong count of `t` by `-1` (dropping an `Arc`). -/
@[simp] def decStrong (s : State) (t : TaskId) : State :=
  s.setTask t { s.task t with strong := (s.task t).strong - 1 }

/-- A `TaskCell` of `t` is dropped instead of being queued. -/
@[simp] def dropCell (s : State) (t : TaskId) : State :=
  s.setTask t { s.task t with strong := (s.task t).strong - 1, dropped := true }

/-- Record an event. -/
def record (s : State) (e : Event) : State := { s with log := e :: s.log }

@[simp] theorem setTask_task (s : State) (t : TaskId) (ts : TaskState) (u : TaskId) :
    (s.setTask t ts).task u = if u = t then ts else s.task u := by
  simp [setTask, Function.update_apply]

@[simp] theorem setTask_threads (s : State) (t : TaskId) (ts : TaskState) :
    (s.setTask t ts).threads = s.threads := rfl

@[simp] theorem setTask_pool (s : State) (t : TaskId) (ts : TaskState) :
    (s.setTask t ts).pool = s.pool := rfl

@[simp] theorem setTask_queue (s : State) (t : TaskId) (ts : TaskState) :
    (s.setTask t ts).queue = s.queue := rfl

@[simp] theorem setTask_log (s : State) (t : TaskId) (ts : TaskState) :
    (s.setTask t ts).log = s.log := rfl

@[simp] theorem setTask_fault (s : State) (t : TaskId) (ts : TaskState) :
    (s.setTask t ts).fault = s.fault := rfl

@[simp] theorem setThread_task (s : State) (i : ThreadId) (th : Thread) :
    (s.setThread i th).task = s.task := rfl

@[simp] theorem setThread_threads (s : State) (i : ThreadId) (th : Thread) :
    (s.setThread i th).threads = s.threads.set i th := rfl

@[simp] theorem setThread_pool (s : State) (i : ThreadId) (th : Thread) :
    (s.setThread i th).pool = s.pool := rfl

@[simp] theorem setThread_queue (s : State) (i : ThreadId) (th : Thread) :
    (s.setThread i th).queue = s.queue := rfl

@[simp] theorem setThread_log (s : State) (i : ThreadId) (th : Thread) :
    (s.setThread i th).log = s.log := rfl

@[simp] theorem setThread_fault (s : State) (i : ThreadId) (th : Thread) :
    (s.setThread i th).fault = s.fault := rfl

/-- A thread update and a task update commute. -/
theorem setThread_setTask_comm (s : State) (u : TaskId) (ts : TaskState) (i : ThreadId) (th : Thread) :
    (s.setTask u ts).setThread i th = (s.setThread i th).setTask u ts := rfl

/-- A thread update and a recorded event commute. -/
theorem setThread_record_comm (s : State) (e : Event) (i : ThreadId) (th : Thread) :
    (s.record e).setThread i th = (s.setThread i th).record e := rfl

/-- A second change of a task overwrites the first. -/
theorem setTask_setTask (s : State) (t : TaskId) (a b : TaskState) :
    (s.setTask t a).setTask t b = s.setTask t b := by
  simp [setTask, Function.update_idem]

@[simp] theorem record_task (s : State) (e : Event) : (s.record e).task = s.task := rfl

@[simp] theorem record_threads (s : State) (e : Event) : (s.record e).threads = s.threads := rfl

@[simp] theorem record_pool (s : State) (e : Event) : (s.record e).pool = s.pool := rfl

@[simp] theorem record_queue (s : State) (e : Event) : (s.record e).queue = s.queue := rfl

@[simp] theorem record_log (s : State) (e : Event) : (s.record e).log = e :: s.log := rfl

@[simp] theorem record_fault (s : State) (e : Event) : (s.record e).fault = s.fault := rfl

end State

end Yatp.Future
