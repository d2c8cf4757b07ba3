import Yatp.Future.Inversion
import Mathlib

/-!
# Future Tasks: who holds a task

Two ways of counting the holders of a task `t`, each a sum over the threads and the queue
entries:

- `owners`: who may poll `t` or put it in a queue next: the spawner's `TaskCell`, the
  copies of `t` in queues, the `wake_impl` calls that won `IDLE → NOTIFIED` and have not
  enqueued `t` yet, and the `handle` calls on `t`.
- `holders`: who owns one strong count of the `Arc<Task>`: the spawner's `TaskCell`, the
  queue copies, the `handle` calls, the raw wakers nobody uses, and the vtable calls that
  hold a count (a `wake_raw` call owns the count of the waker it consumed, a `clone_raw` or
  `wake_ref_raw` call on a raw waker borrows one that still owns its count).

The list lemmas at the top are what every step of a count needs: one thread replaced, one
entry erased.
-/

namespace Yatp.Future

/-! ## §1 Lists -/

/-- Replacing the element at `i` changes a sum by the difference of the two elements. -/
theorem sum_set {l : List Nat} {i a : Nat} (hi : l[i]? = some a) (x : Nat) :
    (l.set i x).sum + a = l.sum + x := by
  induction l generalizing i with
  | nil => simp at hi
  | cons y l ih =>
    cases i with
    | zero =>
      simp only [List.getElem?_cons_zero, Option.some.injEq] at hi
      subst hi
      simp only [List.set_cons_zero, List.sum_cons]
      omega
    | succ i =>
      have := ih (by simpa using hi)
      simp only [List.set_cons_succ, List.sum_cons]
      omega

/-- One position of a list counts in its sum. -/
theorem le_sum {l : List Nat} {i a : Nat} (hi : l[i]? = some a) : a ≤ l.sum := by
  have := sum_set hi 0; omega

/-- Two different positions of a list both count in its sum. -/
theorem add_le_sum {l : List Nat} {i j a b : Nat} (hij : i ≠ j) (hi : l[i]? = some a)
    (hj : l[j]? = some b) : a + b ≤ l.sum := by
  have h1 := sum_set hi 0
  have h2 := le_sum (i := j) (l := l.set i 0) (by rw [List.getElem?_set_ne hij]; exact hj)
  omega

/-- `sum_set` for a list of counts, in the form `simp` leaves a replaced count. -/
theorem sum_set_map {α : Type} {l : List α} {i : Nat} {a : α} (hi : l[i]? = some a)
    (f : α → Nat) (x : Nat) : ((l.map f).set i x).sum = (l.map f).sum - f a + x := by
  have hi' : (l.map f)[i]? = some (f a) := by simp [hi]
  have := sum_set hi' x; have := le_sum hi'; omega

/-- Erasing a present entry takes it out of a count. -/
theorem countP_erase_add {α : Type} [BEq α] [LawfulBEq α] {l : List α} {e : α} (he : e ∈ l)
    (p : α → Bool) : (l.erase e).countP p + (if p e then 1 else 0) = l.countP p := by
  induction l with
  | nil => cases he
  | cons x l ih =>
    by_cases h : x = e
    · subst h; simp [List.countP_cons]
    · have he' : e ∈ l := (List.mem_cons.1 he).resolve_left (Ne.symm h)
      rw [List.erase_cons_tail (by simpa using h), List.countP_cons, List.countP_cons, ← ih he']
      omega

/-- A property of every element survives replacing one element by one that has it. -/
theorem forall_getElem?_set {α : Type} {l : List α} {i : Nat} {b : α} {P : Nat → α → Prop}
    (hl : ∀ j x, l[j]? = some x → P j x) (hb : P i b) :
    ∀ j x, (l.set i b)[j]? = some x → P j x := by
  intro j x hx
  by_cases h : i = j
  · subst h
    rw [List.getElem?_set_self'] at hx
    cases hl' : l[i]? <;> simp [hl'] at hx
    subst hx; exact hb
  · rw [List.getElem?_set_ne h] at hx
    exact hl j x hx

/-! ## §2 What one thread holds -/

/-- The loop of `handle` is outside the window from its store of `POLLING` to its
compare-exchange: about to store `POLLING`, or about to call `wake_task`. -/
def HandlePc.outsidePoll : HandlePc → Bool
  | .storePolling | .wakeTask _ => true
  | .polling | .setRemote | .casIdle => false

@[simp] theorem HandlePc.outsidePoll_storePolling : HandlePc.storePolling.outsidePoll = true := rfl

@[simp] theorem HandlePc.outsidePoll_polling : HandlePc.polling.outsidePoll = false := rfl

@[simp] theorem HandlePc.outsidePoll_setRemote : HandlePc.setRemote.outsidePoll = false := rfl

@[simp] theorem HandlePc.outsidePoll_casIdle : HandlePc.casIdle.outsidePoll = false := rfl

@[simp] theorem HandlePc.outsidePoll_wakeTask (r : Bool) : (HandlePc.wakeTask r).outsidePoll = true :=
  rfl

@[simp] theorem HandleFrame.onNotified_task (h : HandleFrame) (l : Nat) (n b : Bool) :
    (h.onNotified l n b).task = h.task := by
  unfold HandleFrame.onNotified; dsimp only; split <;> rfl

/-- After `Err(NOTIFIED)` the loop is outside its poll window: it repolls or preempts. -/
@[simp] theorem HandleFrame.onNotified_outsidePoll (h : HandleFrame) (l : Nat) (n b : Bool) :
    (h.onNotified l n b).pc.outsidePoll = true := by
  unfold HandleFrame.onNotified; dsimp only; split <;> rfl

/-- `1` for a `handle` call on `t` whose loop is at a point `p` picks. -/
def HandleFrame.countOn (t : TaskId) (p : HandlePc → Bool) : Option HandleFrame → Nat
  | some h => if h.task = t ∧ p h.pc = true then 1 else 0
  | none => 0

@[simp] theorem HandleFrame.countOn_some (t : TaskId) (p : HandlePc → Bool) (h : HandleFrame) :
    countOn t p (some h) = if h.task = t ∧ p h.pc = true then 1 else 0 := rfl

@[simp] theorem HandleFrame.countOn_none (t : TaskId) (p : HandlePc → Bool) :
    countOn t p none = 0 := rfl

/-- `1` for a vtable call on `t` that `p` picks. -/
def OpFrame.countOn (t : TaskId) (p : OpFrame → Bool) : Option OpFrame → Nat
  | some o => if o.task = t ∧ p o = true then 1 else 0
  | none => 0

@[simp] theorem OpFrame.countOn_some (t : TaskId) (p : OpFrame → Bool) (o : OpFrame) :
    countOn t p (some o) = if o.task = t ∧ p o = true then 1 else 0 := rfl

@[simp] theorem OpFrame.countOn_none (t : TaskId) (p : OpFrame → Bool) : countOn t p none = 0 :=
  rfl

namespace Thread

/-- The thread is in a `handle` call on `t` whose loop is at a point `p` picks. -/
@[simp] def handleOn (t : TaskId) (p : HandlePc → Bool) (th : Thread) : Nat :=
  HandleFrame.countOn t p th.handle

/-- The thread is in a vtable call on `t` that `p` picks. -/
@[simp] def opOn (t : TaskId) (p : OpFrame → Bool) (th : Thread) : Nat :=
  OpFrame.countOn t p th.op

/-- The thread is in a `handle` call on `t`. -/
@[simp] def handling (t : TaskId) (th : Thread) : Nat := th.handleOn t fun _ => true

/-- The thread won `IDLE → NOTIFIED` for `t` in `wake_impl` and has not called
`wake_task` yet. -/
@[simp] def notifying (t : TaskId) (th : Thread) : Nat := th.opOn t (·.pc == .wakeTask)

/-- The thread is in a vtable call on `t` that holds a strong count: a `wake_raw` call owns the
count of the waker it consumed, and a call on a raw waker borrows one that still owns its
count. -/
@[simp] def callHolds (t : TaskId) (th : Thread) : Nat := th.opOn t fun o => o.owned || o.src == .raw

/-- A `handle` call is outside or inside its poll window. -/
theorem handleOn_outside_add_inside (t : TaskId) (th : Thread) :
    th.handleOn t HandlePc.outsidePoll + th.handleOn t (fun pc => !pc.outsidePoll) =
      th.handling t := by
  cases hh : th.handle with
  | none => simp [hh]
  | some h => cases hp : h.pc.outsidePoll <;> simp [hh, hp]

end Thread

/-! ## §3 The two counts -/

namespace State

/-- The sum of `f` over the threads. -/
def tsum (s : State) (f : Thread → Nat) : Nat := (s.threads.map f).sum

/-- The copies of `t` in the queues. -/
def queued (s : State) (t : TaskId) : Nat := s.queue.countP fun e => e.2 == t

/-- Who may poll `t` or enqueue it next. -/
def owners (s : State) (t : TaskId) : Nat :=
  (if (s.task t).spawner then 1 else 0) + s.queued t + s.tsum (Thread.notifying t) +
    s.tsum (Thread.handling t)

/-- Who owns one strong count of the `Arc<Task>` of `t`. -/
def holders (s : State) (t : TaskId) : Nat :=
  (if (s.task t).spawner then 1 else 0) + s.queued t + s.tsum (Thread.handling t) +
    (s.task t).wakers + s.tsum (Thread.callHolds t)

@[simp] theorem tsum_setTask (s : State) (u : TaskId) (ts : TaskState) (f : Thread → Nat) :
    (s.setTask u ts).tsum f = s.tsum f := rfl

@[simp] theorem accepts_setTask (s : State) (u : TaskId) (ts : TaskState) :
    (s.setTask u ts).accepts = s.accepts := rfl

@[simp] theorem queued_setTask (s : State) (u : TaskId) (ts : TaskState) (t : TaskId) :
    (s.setTask u ts).queued t = s.queued t := rfl

@[simp] theorem queued_setThread (s : State) (i : ThreadId) (th : Thread) (t : TaskId) :
    (s.setThread i th).queued t = s.queued t := rfl

/-- Two different threads both count in a thread sum. -/
theorem add_le_tsum {s : State} {i j : ThreadId} {th th' : Thread} (hij : i ≠ j)
    (hi : s.threads[i]? = some th) (hj : s.threads[j]? = some th') (f : Thread → Nat) :
    f th + f th' ≤ s.tsum f :=
  add_le_sum hij (by simp [hi]) (by simp [hj])

theorem tsum_add (s : State) (f g : Thread → Nat) :
    s.tsum f + s.tsum g = s.tsum fun th => f th + g th :=
  List.sum_map_add.symm

theorem le_tsum {s : State} {i : ThreadId} {th : Thread} (hi : s.threads[i]? = some th)
    (f : Thread → Nat) : f th ≤ s.tsum f :=
  le_sum (i := i) (by simp [tsum, hi])

end State

end Yatp.Future
