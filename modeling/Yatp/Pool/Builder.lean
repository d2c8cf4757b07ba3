import Mathlib

/-!
# Pool Construction and Shutdown

`Builder` (`src/pool/builder.rs`) holds a thread name prefix, an optional stack size and a
`SchedConfig`. Its setters take `&mut self`: `max_thread_count`, `min_thread_count` and
`stack_size` ignore a zero, the others store any value. `freeze` asserts
`min_thread_count <= max_thread_count`, asks the queue builder for `max_thread_count` local
queues, and returns a `Remote` on the injector with a `LazyBuilder`, whose `build` reserves a
vector for `max_thread_count` join handles and spawns one thread per local queue, named
`prefix-index`. The body of that thread drops its queue and reaches `unimplemented!()`.
`ThreadPool::shutdown` (`src/pool.rs`) swaps the join handles out of their mutex for an empty
vector and joins each with `unwrap`; `Drop` calls it.

A setter gets the builder and returns the new one; a run of the builder is any list of setter
calls (`Setting`). `num_cpus::get()` is the parameter `cpus`, and the queue builder a function
from the number of local queues to an injector and the queues. The global allocator is a
parameter (`Alloc`): `Vec::with_capacity` and a `Vec::push` that grows fail with the panic
`capacity overflow` above `isize::MAX` bytes, or abort when the allocator refuses. A spawned
thread is its name, its stack size and whether its body panicked; `thread::Builder::spawn` is
taken to succeed.

## Key results

- `settings_wf`: after any sequence of setter calls both thread counts are positive, and so
  is the stack size if one is set.
- `freeze_settings`: each thread count is the last positive value a setter was given, or its
  default, so `freeze` panics exactly when the last `min_thread_count` exceeds the last
  `max_thread_count` (or the CPU count).
- `build_threads`: `Builder::build` spawns one thread per local queue the queue builder
  returned, the `i`-th named `prefix-i`, all with the stack size, once the allocator grants
  the vector; `build_eq_none`: when it does not, `build` fails before any thread is spawned.
- `shutdown_law`: `shutdown` panics exactly when the pool still has a thread, which for a
  built pool means at least one local queue; a second `shutdown`, as `Drop` makes, panics
  never and changes nothing.
-/

namespace Yatp.Pool

/-! ## §1 The configuration -/

/-- `std::time::Duration`, in nanoseconds. -/
structure Duration where
  nanos : Nat
  deriving DecidableEq, Repr

/-- `Duration::from_millis`. -/
def Duration.fromMillis (ms : Nat) : Duration := ⟨ms * 1000000⟩

/-- `SchedConfig`. -/
structure SchedConfig where
  maxThreadCount : Nat
  minThreadCount : Nat
  maxInplaceSpin : Nat
  maxIdleTime : Duration
  maxWaitTime : Duration
  wakeBackoff : Duration
  allocSlotBackoff : Duration
  deriving DecidableEq, Repr

/-- `SchedConfig::default`, with `num_cpus::get()` as `cpus`. -/
def SchedConfig.default (cpus : Nat) : SchedConfig :=
  ⟨cpus, 1, 4, .fromMillis 1, .fromMillis 1, .fromMillis 1, .fromMillis 2⟩

/-- `Builder`. -/
structure Builder where
  namePrefix : String
  stackSize? : Option Nat
  schedConfig : SchedConfig
  deriving DecidableEq, Repr

namespace Builder

/-- `Builder::new`. -/
def new (namePrefix : String) (cpus : Nat) : Builder := ⟨namePrefix, none, .default cpus⟩

/-- The setters that ignore a zero (`if count > 0`): `set` stores a positive value. -/
def setPositive (set : Builder → Nat → Builder) (b : Builder) (count : Nat) : Builder :=
  if count > 0 then set b count else b

/-- The setters that store any value in the `SchedConfig`. -/
def updateSched (b : Builder) (f : SchedConfig → SchedConfig) : Builder :=
  { b with schedConfig := f b.schedConfig }

/-- `Builder::max_thread_count`. -/
def maxThreadCount (b : Builder) (count : Nat) : Builder :=
  b.setPositive (fun b n => b.updateSched ({ · with maxThreadCount := n })) count

/-- `Builder::min_thread_count`. -/
def minThreadCount (b : Builder) (count : Nat) : Builder :=
  b.setPositive (fun b n => b.updateSched ({ · with minThreadCount := n })) count

/-- `Builder::stack_size`. -/
def stackSize (b : Builder) (size : Nat) : Builder :=
  b.setPositive (fun b n => { b with stackSize? := some n }) size

/-- `Builder::max_inplace_spin`. -/
def maxInplaceSpin (b : Builder) (count : Nat) : Builder :=
  b.updateSched ({ · with maxInplaceSpin := count })

/-- `Builder::max_idle_time`. -/
def maxIdleTime (b : Builder) (time : Duration) : Builder :=
  b.updateSched ({ · with maxIdleTime := time })

/-- `Builder::max_wait_time`. -/
def maxWaitTime (b : Builder) (time : Duration) : Builder :=
  b.updateSched ({ · with maxWaitTime := time })

/-- `Builder::wake_backoff`. -/
def wakeBackoff (b : Builder) (time : Duration) : Builder :=
  b.updateSched ({ · with wakeBackoff := time })

/-- `Builder::alloc_slot_backoff`. -/
def allocSlotBackoff (b : Builder) (time : Duration) : Builder :=
  b.updateSched ({ · with allocSlotBackoff := time })

end Builder

/-- A call of one of `Builder`'s setters. -/
inductive Setting where
  | maxThreadCount (count : Nat)
  | minThreadCount (count : Nat)
  | maxInplaceSpin (count : Nat)
  | maxIdleTime (time : Duration)
  | maxWaitTime (time : Duration)
  | wakeBackoff (time : Duration)
  | allocSlotBackoff (time : Duration)
  | stackSize (size : Nat)
  deriving DecidableEq, Repr

namespace Builder

/-- One setter call. -/
def apply (b : Builder) : Setting → Builder
  | .maxThreadCount n => b.maxThreadCount n
  | .minThreadCount n => b.minThreadCount n
  | .maxInplaceSpin n => b.maxInplaceSpin n
  | .maxIdleTime d => b.maxIdleTime d
  | .maxWaitTime d => b.maxWaitTime d
  | .wakeBackoff d => b.wakeBackoff d
  | .allocSlotBackoff d => b.allocSlotBackoff d
  | .stackSize n => b.stackSize n

/-- Setter calls in order. -/
def applyAll (b : Builder) : List Setting → Builder
  | [] => b
  | s :: ss => (b.apply s).applyAll ss

/-! ## §2 What the setters keep -/

/-- Both thread counts are positive, and so is the stack size if one is set. -/
structure WF (b : Builder) : Prop where
  maxThreadCount : 0 < b.schedConfig.maxThreadCount
  minThreadCount : 0 < b.schedConfig.minThreadCount
  stackSize : ∀ n, b.stackSize? = some n → 0 < n

theorem new_wf {cpus : Nat} (hc : 0 < cpus) (namePrefix : String) : (new namePrefix cpus).WF :=
  ⟨hc, Nat.one_pos, nofun⟩

/-- A guarded setter keeps the invariant when its store does for a positive value. -/
theorem setPositive_wf {set : Builder → Nat → Builder} {b : Builder} (hb : b.WF)
    (hset : ∀ n, 0 < n → (set b n).WF) (count : Nat) : (b.setPositive set count).WF := by
  unfold setPositive; split
  · exact hset count ‹_›
  · exact hb

/-- An unguarded setter keeps the invariant when it keeps the thread counts. -/
theorem updateSched_wf {b : Builder} (hb : b.WF) {f : SchedConfig → SchedConfig}
    (hmax : (f b.schedConfig).maxThreadCount = b.schedConfig.maxThreadCount)
    (hmin : (f b.schedConfig).minThreadCount = b.schedConfig.minThreadCount) :
    (b.updateSched f).WF :=
  ⟨hmax ▸ hb.maxThreadCount, hmin ▸ hb.minThreadCount, hb.stackSize⟩

theorem apply_wf {b : Builder} (hb : b.WF) (s : Setting) : (b.apply s).WF := by
  cases s <;> unfold apply
  case maxThreadCount n =>
    refine setPositive_wf hb (fun m hm => ?_) n
    exact ⟨hm, hb.minThreadCount, hb.stackSize⟩
  case minThreadCount n =>
    refine setPositive_wf hb (fun m hm => ?_) n
    exact ⟨hb.maxThreadCount, hm, hb.stackSize⟩
  case stackSize n =>
    refine setPositive_wf hb (fun m hm => ?_) n
    exact ⟨hb.maxThreadCount, hb.minThreadCount, fun k hk => Option.some.inj hk ▸ hm⟩
  all_goals refine updateSched_wf hb ?_ ?_ <;> rfl

theorem applyAll_wf {b : Builder} (hb : b.WF) (ss : List Setting) : (b.applyAll ss).WF := by
  induction ss generalizing b with
  | nil => exact hb
  | cons s ss ih => exact ih (apply_wf hb s)

/-- After any sequence of setter calls on `Builder::new`, both thread counts are positive and
so is the stack size if one is set. -/
theorem settings_wf {cpus : Nat} (hc : 0 < cpus) (namePrefix : String) (ss : List Setting) :
    ((new namePrefix cpus).applyAll ss).WF :=
  applyAll_wf (new_wf hc namePrefix) ss

/-- On a machine with four CPUs, after a zero and then a positive `max_thread_count`. -/
theorem settings_wf_four :
    0 < 4 ∧ ((new "pool" 4).applyAll [.maxThreadCount 0, .stackSize 0, .minThreadCount 2]).WF :=
  ⟨by decide, settings_wf (by decide) "pool" _⟩

/-! ## §3 Each thread count is the last positive value set -/

/-- Modelled from the spec ("all fields optional with listed defaults"): the value of a field
whose setter ignores a zero is the last positive value given, or the default `d`. -/
def lastPositive (d : Nat) : List Nat → Nat
  | [] => d
  | n :: ns => lastPositive (if n > 0 then n else d) ns

/-- A field of the builder that one guarded setter writes: `get` reads it, and `select`
picks the value a setter call passes, if the call is one of that setter. -/
theorem applyAll_lastPositive (get : Builder → Nat) (select : Setting → Option Nat)
    (hstep : ∀ b s, get (b.apply s) = (select s).elim (get b) fun n => if n > 0 then n else get b)
    (b : Builder) (ss : List Setting) :
    get (b.applyAll ss) = lastPositive (get b) (ss.filterMap select) := by
  induction ss generalizing b with
  | nil => rfl
  | cons s ss ih =>
    rw [applyAll, ih, hstep]
    cases h : select s <;> simp only [List.filterMap_cons, h, Option.elim, lastPositive]

end Builder

/-- The count a call of `max_thread_count` passes. -/
def Setting.maxThreadCount? : Setting → Option Nat
  | .maxThreadCount n => some n
  | _ => none

/-- The count a call of `min_thread_count` passes. -/
def Setting.minThreadCount? : Setting → Option Nat
  | .minThreadCount n => some n
  | _ => none

namespace Builder

theorem apply_maxThreadCount (b : Builder) (s : Setting) :
    (b.apply s).schedConfig.maxThreadCount = s.maxThreadCount?.elim b.schedConfig.maxThreadCount
      fun n => if n > 0 then n else b.schedConfig.maxThreadCount := by
  cases s <;> simp only [apply, Setting.maxThreadCount?, Option.elim, maxThreadCount,
    minThreadCount, stackSize, setPositive] <;> first | rfl | split <;> rfl

theorem apply_minThreadCount (b : Builder) (s : Setting) :
    (b.apply s).schedConfig.minThreadCount = s.minThreadCount?.elim b.schedConfig.minThreadCount
      fun n => if n > 0 then n else b.schedConfig.minThreadCount := by
  cases s <;> simp only [apply, Setting.minThreadCount?, Option.elim, maxThreadCount,
    minThreadCount, stackSize, setPositive] <;> first | rfl | split <;> rfl

end Builder

/-! ## §4 Freezing and building -/

/-- `Remote::new`: a handle on the injector. -/
structure Remote (I : Type) where
  injector : I
  deriving DecidableEq, Repr

/-- `LazyBuilder`. -/
structure LazyBuilder (I Q : Type) where
  builder : Builder
  injector : I
  localQueues : List Q

/-- `LazyBuilder::name`. -/
def LazyBuilder.name {I Q : Type} (lb : LazyBuilder I Q) (namePrefix : String) :
    LazyBuilder I Q :=
  { lb with builder := { lb.builder with namePrefix := namePrefix } }

/-- `Builder::freeze`; `none` is the panic of its `assert!`. The queue builder is asked for
`max_thread_count` local queues, and the `Remote` and the `LazyBuilder` share its injector. -/
def Builder.freeze {I Q : Type} (b : Builder) (queueBuilder : Nat → I × List Q) :
    Option (Remote I × LazyBuilder I Q) :=
  if b.schedConfig.minThreadCount ≤ b.schedConfig.maxThreadCount then
    let q := queueBuilder b.schedConfig.maxThreadCount
    some (⟨q.1⟩, ⟨b, q.1, q.2⟩)
  else none

/-- A spawned thread as its `JoinHandle` reports it: its name, its stack size, and whether
its body panicked. -/
structure JoinHandle where
  name : String
  stackSize? : Option Nat
  panicked : Bool
  deriving DecidableEq, Repr

/-- The thread `LazyBuilder::build` spawns for its `i`-th local queue: named `prefix-i`, with
the builder's stack size. Its body drops the queue and reaches `unimplemented!()`. -/
def spawnWorker (b : Builder) (i : Nat) : JoinHandle :=
  ⟨b.namePrefix ++ "-" ++ toString i, b.stackSize?, true⟩

/-- `ThreadPool`: its `Remote` and the join handles in its mutex. -/
structure ThreadPool (I : Type) where
  remote : Remote I
  threads : List JoinHandle

/-- `isize::MAX` on a 64-bit target: `Layout::array` refuses a larger buffer. -/
def isizeMax : Nat := 2 ^ 63 - 1

/-- The global allocator as a `Vec` meets it: the size of the element type, which is not
zero-sized, and whether a request for that many bytes succeeds. -/
structure Alloc where
  size : Nat
  size_pos : 0 < size
  grants : Nat → Bool

/-- A buffer of `n` elements can be allocated: `Layout::array` takes it (at most
`isize::MAX` bytes, else the panic `capacity overflow`) and the allocator grants it (else
`handle_alloc_error` aborts). -/
def Alloc.allocates (A : Alloc) (n : Nat) : Bool :=
  decide (n * A.size ≤ isizeMax) && A.grants (n * A.size)

/-- `RawVec::MIN_NON_ZERO_CAP` for the element size. -/
def Alloc.minNonZeroCap (A : Alloc) : Nat :=
  if A.size = 1 then 8 else if A.size ≤ 1024 then 4 else 1

/-- A `Vec`: its capacity and its elements. -/
structure Vec (α : Type) where
  capacity : Nat
  elems : List α

namespace Vec

variable {α : Type}

/-- `Vec::with_capacity(n)`: nothing is allocated for `n = 0`; `none` is the panic or the
abort of a failed allocation. -/
def withCapacity (A : Alloc) (n : Nat) : Option (Vec α) :=
  if n = 0 ∨ A.allocates n = true then some ⟨n, []⟩ else none

/-- `Vec::push`: a full vector first grows (`RawVec::grow_amortized`) to twice its capacity,
and to at least `MIN_NON_ZERO_CAP`. -/
def push (A : Alloc) (v : Vec α) (a : α) : Option (Vec α) :=
  if v.elems.length < v.capacity then some ⟨v.capacity, v.elems ++ [a]⟩
  else
    let cap := max A.minNonZeroCap (max (2 * v.capacity) (v.elems.length + 1))
    if A.allocates cap then some ⟨cap, v.elems ++ [a]⟩ else none

/-- Pushes into spare capacity allocate nothing. -/
theorem foldlM_push_of_le (A : Alloc) (f : Nat → α) :
    ∀ (l : List Nat) (v : Vec α), v.elems.length + l.length ≤ v.capacity →
      l.foldlM (fun v i => v.push A (f i)) v = some ⟨v.capacity, v.elems ++ l.map f⟩
  | [], v, _ => by simp
  | i :: l, v, h => by
    have hlt : v.elems.length < v.capacity := by simp at h; omega
    rw [List.foldlM_cons, push, if_pos hlt, Option.bind_eq_bind, Option.some_bind,
      foldlM_push_of_le A f l ⟨v.capacity, v.elems ++ [f i]⟩ (by simp at h ⊢; omega)]
    simp

/-- A push that succeeds appends its element. -/
theorem push_elems {A : Alloc} {v v' : Vec α} {a : α} (h : v.push A a = some v') :
    v'.elems = v.elems ++ [a] := by
  unfold push at h
  split at h
  · cases h; rfl
  · dsimp only at h
    split at h <;> cases h
    rfl

/-- Pushes that succeed append their elements, in order. -/
theorem foldlM_push_elems (A : Alloc) (f : Nat → α) :
    ∀ (l : List Nat) (v v' : Vec α), l.foldlM (fun v i => v.push A (f i)) v = some v' →
      v'.elems = v.elems ++ l.map f
  | [], v, v', h => by cases h; simp
  | i :: l, v, v', h => by
    rw [List.foldlM_cons] at h
    obtain ⟨w, hw, h⟩ := Option.bind_eq_some.1 h
    rw [foldlM_push_elems A f l w v' h, push_elems hw, List.map_cons, List.append_assoc]
    rfl

end Vec

/-- `LazyBuilder::build`: `Vec::with_capacity(max_thread_count)`, then one thread per local
queue, in order, each pushed to the vector. `none` is a failed allocation. -/
def LazyBuilder.build {I Q : Type} (A : Alloc) (lb : LazyBuilder I Q) : Option (ThreadPool I) := do
  let threads ← Vec.withCapacity A lb.builder.schedConfig.maxThreadCount
  let threads ← (List.range lb.localQueues.length).foldlM
    (fun v i => v.push A (spawnWorker lb.builder i)) threads
  pure ⟨⟨lb.injector⟩, threads.elems⟩

/-- A pool that `LazyBuilder::build` returns has the `Remote` on the injector and one thread
per local queue, in order, whatever the allocations did on the way. -/
theorem LazyBuilder.build_some {I Q : Type} {A : Alloc} {lb : LazyBuilder I Q} {p : ThreadPool I}
    (h : lb.build A = some p) :
    p.remote = ⟨lb.injector⟩ ∧
      p.threads = (List.range lb.localQueues.length).map (spawnWorker lb.builder) := by
  simp only [LazyBuilder.build, Option.bind_eq_bind, Option.bind_eq_some, Option.pure_def,
    Option.some.injEq] at h
  obtain ⟨v, hv, v', hv', rfl⟩ := h
  have hv0 : v.elems = [] := by
    unfold Vec.withCapacity at hv
    split at hv
    · cases hv; rfl
    · cases hv
  exact ⟨rfl, by rw [Vec.foldlM_push_elems A _ _ v v' hv', hv0, List.nil_append]⟩

/-- `Builder::build`: `freeze`, then `LazyBuilder::build`. -/
def Builder.build {I Q : Type} (A : Alloc) (b : Builder) (queueBuilder : Nat → I × List Q) :
    Option (ThreadPool I) :=
  (b.freeze queueBuilder).bind fun r => r.2.build A

namespace Builder

/-- After setter calls on `Builder::new`, each thread count is the last positive value given
to its setter, or its default; `freeze` panics exactly when that `min_thread_count` exceeds
that `max_thread_count`. -/
theorem freeze_settings {I Q : Type} (namePrefix : String) (cpus : Nat) (ss : List Setting)
    (queueBuilder : Nat → I × List Q) :
    ((new namePrefix cpus).applyAll ss).schedConfig.maxThreadCount =
        lastPositive cpus (ss.filterMap Setting.maxThreadCount?) ∧
      ((new namePrefix cpus).applyAll ss).schedConfig.minThreadCount =
        lastPositive 1 (ss.filterMap Setting.minThreadCount?) ∧
      ((((new namePrefix cpus).applyAll ss).freeze queueBuilder).isNone ↔
        lastPositive cpus (ss.filterMap Setting.maxThreadCount?) <
          lastPositive 1 (ss.filterMap Setting.minThreadCount?)) := by
  have hmax : ((new namePrefix cpus).applyAll ss).schedConfig.maxThreadCount =
      lastPositive cpus (ss.filterMap Setting.maxThreadCount?) :=
    applyAll_lastPositive (fun b => b.schedConfig.maxThreadCount) Setting.maxThreadCount?
      apply_maxThreadCount (new namePrefix cpus) ss
  have hmin : ((new namePrefix cpus).applyAll ss).schedConfig.minThreadCount =
      lastPositive 1 (ss.filterMap Setting.minThreadCount?) :=
    applyAll_lastPositive (fun b => b.schedConfig.minThreadCount) Setting.minThreadCount?
      apply_minThreadCount (new namePrefix cpus) ss
  refine ⟨hmax, hmin, ?_⟩
  unfold freeze
  rw [hmax, hmin]
  split <;> simp_all

/-- `max_thread_count(1)` then `min_thread_count(2)`: the assert of `freeze` fails. -/
example : ((new "pool" 8).applyAll [.maxThreadCount 1, .minThreadCount 2]).freeze
    (fun n => ((), List.replicate n ())) = none := rfl

/-- What `freeze` returns when its assert holds. -/
theorem freeze_some {I Q : Type} {b : Builder} {queueBuilder : Nat → I × List Q}
    {r : Remote I} {lb : LazyBuilder I Q} (hf : b.freeze queueBuilder = some (r, lb)) :
    r = ⟨(queueBuilder b.schedConfig.maxThreadCount).1⟩ ∧
      lb = ⟨b, (queueBuilder b.schedConfig.maxThreadCount).1,
        (queueBuilder b.schedConfig.maxThreadCount).2⟩ := by
  unfold freeze at hf
  split at hf
  · cases hf; exact ⟨rfl, rfl⟩
  · cases hf

/-- A frozen builder builds the pool its `LazyBuilder` builds. When the allocator grants
the vector of `max_thread_count` join handles and the queue builder returned at most that
many local queues, the pool has one thread per local queue, the `i`-th named `prefix-i`,
all with the stack size, and a `Remote` on the injector of the `Remote` that `freeze`
returned. -/
theorem build_threads {I Q : Type} {A : Alloc} {b : Builder} {queueBuilder : Nat → I × List Q}
    {r : Remote I} {lb : LazyBuilder I Q} (hf : b.freeze queueBuilder = some (r, lb))
    (hA : A.allocates b.schedConfig.maxThreadCount = true)
    (hq : (queueBuilder b.schedConfig.maxThreadCount).2.length ≤ b.schedConfig.maxThreadCount) :
    b.build A queueBuilder = lb.build A ∧
      lb.build A = some ⟨r, (List.range (queueBuilder b.schedConfig.maxThreadCount).2.length).map
        fun i => ⟨b.namePrefix ++ "-" ++ toString i, b.stackSize?, true⟩⟩ := by
  obtain ⟨rfl, rfl⟩ := freeze_some hf
  refine ⟨by simp only [build, hf, Option.some_bind], ?_⟩
  simp only [LazyBuilder.build, Vec.withCapacity, hA, or_true, if_true, Option.bind_eq_bind,
    Option.some_bind]
  rw [Vec.foldlM_push_of_le A _ _ _ (by simpa using hq)]
  rfl

/-- `Vec::with_capacity(max_thread_count)` comes before any thread is spawned: when the
allocator refuses it, `build` panics or aborts whatever the queues. -/
theorem build_eq_none {I Q : Type} {A : Alloc} {b : Builder} (hb : b.WF)
    (hA : A.allocates b.schedConfig.maxThreadCount = false) (queueBuilder : Nat → I × List Q) :
    b.build A queueBuilder = none := by
  cases hf : b.freeze queueBuilder with
  | none => simp only [build, hf, Option.none_bind]
  | some rl =>
    obtain ⟨r, lb⟩ := rl
    obtain ⟨-, rfl⟩ := freeze_some hf
    have h0 : b.schedConfig.maxThreadCount ≠ 0 := Nat.pos_iff_ne_zero.1 hb.maxThreadCount
    simp [build, hf, LazyBuilder.build, Vec.withCapacity, h0, hA]

/-- `max_thread_count(2^62)` with join handles of 24 bytes: the vector would take more than
`isize::MAX` bytes, so `build` panics with `capacity overflow` before any thread is spawned,
however much the allocator would grant. -/
example : ((new "pool" 4).applyAll [.maxThreadCount (2 ^ 62)]).build ⟨24, by decide, fun _ => true⟩
    (fun n => ((), List.replicate n ())) = none := rfl

end Builder

/-! ## §5 Shutdown -/

namespace ThreadPool

variable {I : Type}

/-- `ThreadPool::shutdown`: `mem::replace` leaves an empty vector in the mutex, then every
handle is joined with `unwrap`, which panics on a thread that panicked. The pool after the
call, and whether the call panicked. -/
def shutdown (p : ThreadPool I) : ThreadPool I × Bool :=
  ({ p with threads := [] }, p.threads.any JoinHandle.panicked)

/-- Joining the threads of a built pool panics as soon as there is one. -/
theorem any_spawnWorker (b : Builder) (n : Nat) :
    ((List.range n).map (spawnWorker b)).any JoinHandle.panicked = decide (0 < n) := by
  cases n with
  | zero => rfl
  | succ n => simp [List.range_succ, spawnWorker]

/-- `Drop for ThreadPool` calls `shutdown`; whether dropping the pool panics. -/
def drop (p : ThreadPool I) : Bool := p.shutdown.2

/-- A pool that a frozen builder built panics in `shutdown`, and so in `Drop`, exactly when
the queue builder returned a local queue; after one `shutdown` the mutex holds no thread,
and a second `shutdown`, or dropping the pool, panics never and changes nothing. -/
theorem shutdown_law {Q : Type} {A : Alloc} {b : Builder} {queueBuilder : Nat → I × List Q}
    {p : ThreadPool I} (hb : b.build A queueBuilder = some p) :
    p.shutdown.2 = decide (0 < (queueBuilder b.schedConfig.maxThreadCount).2.length) ∧
      p.drop = p.shutdown.2 ∧ p.shutdown.1.threads = [] ∧
      p.shutdown.1.shutdown = (p.shutdown.1, false) ∧ p.shutdown.1.drop = false := by
  refine ⟨?_, rfl, rfl, rfl, rfl⟩
  obtain ⟨⟨r, lb⟩, hf, hb⟩ := Option.bind_eq_some.1 hb
  obtain ⟨-, rfl⟩ := Builder.freeze_some hf
  rw [shutdown, (LazyBuilder.build_some hb).2]
  exact any_spawnWorker b _

end ThreadPool

end Yatp.Pool
