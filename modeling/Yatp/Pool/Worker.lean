import Mathlib

/-!
# Pool Workers: the Calls of `WorkerThread::run`

`WorkerThread::run` (`src/pool/worker.rs`) calls `runner.start`; then, until
`local.core().is_shutdown()`, it pops a task and calls `runner.handle` on it; at last it
calls `runner.end`. `WorkerThread::pop` spins on `local.pop()` with a `SpinWait` and, once
the `SpinWait` stops the spinning, calls `runner.pause`, `local.pop_or_sleep()` and
`runner.resume`.

The model is a step function over the worker's program counter. What the pool answers
(`is_shutdown`, `local.pop()`, `pop_or_sleep()`) is the argument of a step, so a run is any
sequence of answers. The `SpinWait` is `parking_lot_core`'s, with its spin limit as a
parameter: `spin()` returns `true` the first `limit` times and `false` after. A ghost log
keeps every call the worker made.

`Phase` is the automaton of the call sequences the spec allows: `start` first; each turn of
the loop an `is_shutdown` check, at most `limit + 1` calls of `local.pop()`, and when none
of them returned a task `pause`, `pop_or_sleep` and `resume` in a row; every task a pop
returned handed to `handle` before anything else; `end` last.

## Key results

- `step_call`: every step makes one call, and the automaton allows it (`Pc.phase` maps the
  program counter to the automaton).
- `run_phase`: the calls of every run, in order, are a path of the automaton.
- `worker_law`: in every run no pop calls `local.pop()` more than `limit + 1` times in a row
  without a task, and every `handle` gets the task the call before it returned; once `run`
  has returned, every returned task was handled, every `pause` was followed by
  `pop_or_sleep` and `resume`, and the runner hooks are
  `start (handle | pause resume handle?)* end`.
-/

namespace Yatp.Pool

/-! ## §1 The worker -/

/-- A call `WorkerThread::run` makes on its runner or on its `Local`. -/
inductive Call where
  | start
  | isShutdown (shutdown : Bool)
  | localPop (task : Option Nat)
  | pause
  | popOrSleep (task : Option Nat)
  | resume
  | handle (task : Nat)
  | «end»
  deriving DecidableEq, Repr

/-- `parking_lot_core::SpinWait`: the spins so far. -/
structure SpinWait where
  counter : Nat
  deriving DecidableEq, Repr

/-- `SpinWait::new`. -/
def SpinWait.new : SpinWait := ⟨0⟩

/-- `SpinWait::spin` with spin limit `limit`: `false` once the counter has reached the limit,
otherwise one more spin and `true`. -/
def SpinWait.spin (limit : Nat) (w : SpinWait) : Bool × SpinWait :=
  if limit ≤ w.counter then (false, w) else (true, ⟨w.counter + 1⟩)

/-- Where `WorkerThread::run` is. -/
inductive Pc where
  /-- `runner.start` is next. -/
  | init
  /-- `while !self.local.core().is_shutdown()` is next. -/
  | loop
  /-- In `pop`: `self.local.pop()` is next, with the `SpinWait` `w`. -/
  | spin (w : SpinWait)
  /-- In `pop`: the `SpinWait` stopped the spinning; `runner.pause` is next. -/
  | pause
  /-- In `pop`: `self.local.pop_or_sleep()` is next. -/
  | sleep
  /-- In `pop`: `runner.resume` is next, then `pop` returns `t`. -/
  | resume (t : Option Nat)
  /-- `runner.handle` with the task `t` is next. -/
  | handle (t : Nat)
  /-- The loop saw the shutdown: `runner.end` is next. -/
  | stop
  /-- `run` has returned. -/
  | done
  deriving DecidableEq, Repr

/-- A worker thread, with the calls it made so far, the latest first. -/
structure Worker where
  pc : Pc
  calls : List Call
  deriving DecidableEq, Repr

/-- What the pool answers to the worker's next call; `go` for a call with no answer. -/
inductive Answer where
  | go
  | shutdown (b : Bool)
  | localPop (t : Option Nat)
  | popOrSleep (t : Option Nat)
  deriving DecidableEq, Repr

/-- One step of `WorkerThread::run` with a `SpinWait` of spin limit `limit`: the next call,
with the pool's answer `a`. -/
def step (limit : Nat) (w : Worker) (a : Answer) : Option Worker :=
  match w.pc, a with
  | .init, .go => some ⟨.loop, .start :: w.calls⟩
  | .loop, .shutdown b => some ⟨if b then .stop else .spin SpinWait.new, .isShutdown b :: w.calls⟩
  | .spin _, .localPop (some t) => some ⟨.handle t, .localPop (some t) :: w.calls⟩
  | .spin sw, .localPop none =>
    let (more, sw') := sw.spin limit
    some ⟨if more then .spin sw' else .pause, .localPop none :: w.calls⟩
  | .pause, .go => some ⟨.sleep, .pause :: w.calls⟩
  | .sleep, .popOrSleep t => some ⟨.resume t, .popOrSleep t :: w.calls⟩
  | .resume t, .go => some ⟨(t.map Pc.handle).getD .loop, .resume :: w.calls⟩
  | .handle t, .go => some ⟨.loop, .handle t :: w.calls⟩
  | .stop, .go => some ⟨.done, .«end» :: w.calls⟩
  | _, _ => none

/-- `WorkerThread::new`, before `run`. -/
def Worker.new : Worker := ⟨.init, []⟩

/-- The states some run reaches. -/
inductive Reachable (limit : Nat) : Worker → Prop where
  | init : Reachable limit Worker.new
  | step {w w' : Worker} (a : Answer) : Reachable limit w → step limit w a = some w' →
      Reachable limit w'

/-- Run a list of answers in order. -/
def run (limit : Nat) (w : Worker) : List Answer → Option Worker
  | [] => some w
  | a :: as => (step limit w a).bind fun w' => run limit w' as

theorem Reachable.run {limit : Nat} {w w' : Worker} (hw : Reachable limit w) :
    ∀ {as : List Answer}, Pool.run limit w as = some w' → Reachable limit w'
  | [], h => by simp only [Pool.run, Option.some.injEq] at h; exact h ▸ hw
  | a :: as, h => by
    simp only [Pool.run, Option.bind_eq_some] at h
    obtain ⟨w₁, h₁, h₂⟩ := h
    exact (Reachable.step a hw h₁).run h₂

/-! ## §2 The call sequences of the spec -/

/-- Modelled from the spec: how far a run is, as far as the calls allowed next depend on
it. -/
inductive Phase where
  /-- `start` first. -/
  | fresh
  /-- Between two turns of the loop: an `is_shutdown` check. -/
  | ready
  /-- In a pop, after `k` calls of `local.pop()` that returned nothing. -/
  | popping (k : Nat)
  /-- The spinning is over: `pause`. -/
  | spent
  /-- Paused: `pop_or_sleep`, and nothing else. -/
  | paused
  /-- Woken with the answer `t` of `pop_or_sleep`: `resume`. -/
  | woken (t : Option Nat)
  /-- A task was returned: `handle` with it. -/
  | popped (t : Nat)
  /-- Shutdown seen: `end`. -/
  | stopping
  /-- After `end`: nothing. -/
  | ended
  deriving DecidableEq, Repr

/-- Modelled from the spec: the phase after call `c`, if `c` is allowed. -/
def Phase.next (limit : Nat) : Phase → Call → Option Phase
  | .fresh, .start => some .ready
  | .ready, .isShutdown b => some (if b then .stopping else .popping 0)
  | .popping _, .localPop (some t) => some (.popped t)
  | .popping k, .localPop none => some (if k < limit then .popping (k + 1) else .spent)
  | .spent, .pause => some .paused
  | .paused, .popOrSleep t => some (.woken t)
  | .woken t, .resume => some ((t.map Phase.popped).getD .ready)
  | .popped t, .handle u => if u = t then some .ready else none
  | .stopping, .«end» => some .ended
  | _, _ => none

/-- Modelled from the spec: the phase after the calls `cs`, in order. -/
def Phase.run (limit : Nat) : Phase → List Call → Option Phase
  | p, [] => some p
  | p, c :: cs => (p.next limit c).bind fun p' => p'.run limit cs

theorem Phase.run_cons {limit : Nat} {p r : Phase} {c : Call} {cs : List Call} :
    p.run limit (c :: cs) = some r ↔ ∃ p', p.next limit c = some p' ∧ p'.run limit cs = some r :=
  Option.bind_eq_some

theorem Phase.run_append (limit : Nat) (p : Phase) (xs ys : List Call) :
    p.run limit (xs ++ ys) = (p.run limit xs).bind fun q => q.run limit ys := by
  induction xs generalizing p with
  | nil => rfl
  | cons c xs ih => cases h : p.next limit c <;> simp [Phase.run, h, ih]

theorem Phase.run_snoc {limit : Nat} {p r : Phase} {xs : List Call} {c : Call} :
    p.run limit (xs ++ [c]) = some r ↔ ∃ q, p.run limit xs = some q ∧ q.next limit c = some r := by
  simp only [Phase.run_append, Option.bind_eq_some, Phase.run, Option.some.injEq, exists_eq_right]

/-- The calls after a prefix `xs` are a path from the phase `xs` leads to. -/
theorem Phase.run_after {limit : Nat} {p r : Phase} {xs ys : List Call} {c : Call}
    (h : p.run limit (xs ++ c :: ys) = some r) :
    ∃ q q', p.run limit xs = some q ∧ q.next limit c = some q' ∧ q'.run limit ys = some r := by
  rw [Phase.run_append, Option.bind_eq_some] at h
  obtain ⟨q, hq, h⟩ := h
  obtain ⟨q', hn, hr⟩ := Phase.run_cons.1 h
  exact ⟨q, q', hq, hn, hr⟩

/-- A path to `ended` from another phase starts with a call that phase allows. -/
theorem Phase.run_ended {limit : Nat} {p : Phase} {ys : List Call}
    (h : p.run limit ys = some .ended) (hp : p ≠ .ended) :
    ∃ c zs p', ys = c :: zs ∧ p.next limit c = some p' ∧ p'.run limit zs = some .ended := by
  cases ys with
  | nil => simp only [Phase.run, Option.some.injEq] at h; exact absurd h hp
  | cons c zs => obtain ⟨p', hn, hr⟩ := Phase.run_cons.1 h; exact ⟨c, zs, p', rfl, hn, hr⟩

/-- A path from `fresh` to another phase ends with a call that leads there. -/
theorem Phase.run_last {limit : Nat} {r : Phase} {xs : List Call}
    (h : Phase.fresh.run limit xs = some r) (hr : r ≠ .fresh) :
    ∃ ys c q, xs = ys ++ [c] ∧ Phase.fresh.run limit ys = some q ∧ q.next limit c = some r := by
  rcases List.eq_nil_or_concat xs with rfl | ⟨ys, c, rfl⟩
  · simp only [Phase.run, Option.some.injEq] at h; exact absurd h.symm hr
  · rw [List.concat_eq_append] at h ⊢
    obtain ⟨q, hq, hn⟩ := Phase.run_snoc.1 h
    exact ⟨ys, c, q, rfl, hq, hn⟩

/-! ### What the automaton allows around a call -/

theorem Phase.next_localPop_none {limit : Nat} {p q : Phase}
    (h : p.next limit (.localPop none) = some q) :
    ∃ k, p = .popping k ∧ q = if k < limit then .popping (k + 1) else .spent := by
  cases p <;> simp only [Phase.next, reduceCtorEq, Option.some.injEq] at h
  exact ⟨_, rfl, h.symm⟩

/-- Only a successful `local.pop()`, or `resume` after a `pop_or_sleep` that returned the
task, leads to `handle`. -/
theorem Phase.next_eq_popped {limit : Nat} {p : Phase} {c : Call} {t : Nat}
    (h : p.next limit c = some (.popped t)) :
    c = .localPop (some t) ∨ c = .resume ∧ p = .woken (some t) := by
  rcases p with _ | _ | k | _ | _ | (_ | v) | v | _ | _ <;>
    rcases c with _ | b | (_ | u) | _ | (_ | u) | _ | u | _ <;> simp only [Phase.next] at h <;>
    (try split_ifs at h) <;> cases h <;> simp

/-- Only `pop_or_sleep`, right after `pause`, leads to `woken`. -/
theorem Phase.next_eq_woken {limit : Nat} {p : Phase} {c : Call} {t : Option Nat}
    (h : p.next limit c = some (.woken t)) : c = .popOrSleep t ∧ p = .paused := by
  rcases p with _ | _ | k | _ | _ | (_ | v) | v | _ | _ <;>
    rcases c with _ | b | (_ | u) | _ | (_ | u) | _ | u | _ <;> simp only [Phase.next] at h <;>
    (try split_ifs at h) <;> cases h <;> simp

/-- From `popping k`, `n + 2` calls of `local.pop()` in a row that return nothing need
`k + n < limit`. -/
theorem Phase.run_localPop_none {limit : Nat} :
    ∀ (n : Nat) {p r : Phase} {ys : List Call},
      p.run limit (List.replicate (n + 2) (.localPop none) ++ ys) = some r →
      ∃ k, p = .popping k ∧ k + n < limit
  | 0, p, r, ys, h => by
    obtain ⟨p₁, h₁, h⟩ := Phase.run_cons.1 h
    obtain ⟨p₂, h₂, -⟩ := Phase.run_cons.1 h
    obtain ⟨k, rfl, rfl⟩ := Phase.next_localPop_none h₁
    obtain ⟨k', hk', -⟩ := Phase.next_localPop_none h₂
    split_ifs at hk' with hk
    · exact ⟨k, rfl, hk⟩
  | n + 1, p, r, ys, h => by
    obtain ⟨p₁, h₁, h⟩ := Phase.run_cons.1 h
    obtain ⟨k, rfl, rfl⟩ := Phase.next_localPop_none h₁
    obtain ⟨k', hk', hlt⟩ := Phase.run_localPop_none n h
    split_ifs at hk' with hk
    cases hk'
    exact ⟨k, rfl, by omega⟩

/-- A path to `ended` from `popped t` calls `handle` with `t` first. -/
theorem Phase.run_popped {limit t : Nat} {ys : List Call}
    (h : (Phase.popped t).run limit ys = some .ended) : ∃ zs, ys = .handle t :: zs := by
  obtain ⟨c, zs, p', rfl, hn, -⟩ := Phase.run_ended h nofun
  cases c <;> simp only [Phase.next, reduceCtorEq] at hn
  split_ifs at hn with hu
  exact ⟨zs, hu ▸ rfl⟩

/-- A path to `ended` from `woken (some t)` calls `resume` and then `handle` with `t`. -/
theorem Phase.run_woken {limit t : Nat} {ys : List Call}
    (h : (Phase.woken (some t)).run limit ys = some .ended) :
    ∃ zs, ys = .resume :: .handle t :: zs := by
  obtain ⟨c, ys', p', rfl, hn, hr⟩ := Phase.run_ended h nofun
  cases c <;> simp only [Phase.next, reduceCtorEq, Option.some.injEq, Option.map_some',
    Option.getD_some] at hn
  subst hn
  obtain ⟨zs, rfl⟩ := Phase.run_popped hr
  exact ⟨zs, rfl⟩

/-- A path to `ended` from `paused` calls `pop_or_sleep` and then `resume`. -/
theorem Phase.run_paused {limit : Nat} {ys : List Call}
    (h : Phase.paused.run limit ys = some .ended) :
    ∃ t zs, ys = .popOrSleep t :: .resume :: zs := by
  obtain ⟨c, ys', p', rfl, hn, hr⟩ := Phase.run_ended h nofun
  cases c <;> simp only [Phase.next, reduceCtorEq, Option.some.injEq] at hn
  subst hn
  obtain ⟨c', zs, p'', rfl, hn', -⟩ := Phase.run_ended hr nofun
  cases c' <;> simp only [Phase.next, reduceCtorEq] at hn'
  exact ⟨_, zs, rfl⟩

/-! ## §3 The worker follows the spec -/

/-- The phase of a program counter. -/
def Pc.phase : Pc → Phase
  | .init => .fresh
  | .loop => .ready
  | .spin w => .popping w.counter
  | .pause => .spent
  | .sleep => .paused
  | .resume t => .woken t
  | .handle t => .popped t
  | .stop => .stopping
  | .done => .ended

/-- Every step makes one call, and the spec allows it. -/
theorem step_call {limit : Nat} {w w' : Worker} {a : Answer} (hs : step limit w a = some w') :
    ∃ c, w'.calls = c :: w.calls ∧ w.pc.phase.next limit c = some w'.pc.phase := by
  obtain ⟨pc, calls⟩ := w
  cases pc <;> rcases a with _ | b | (_ | t) | t <;>
    simp only [step, Option.some.injEq, reduceCtorEq] at hs <;> subst hs <;> refine ⟨_, rfl, ?_⟩
  case loop.shutdown => cases b <;> rfl
  case spin.localPop.none sw =>
    simp only [SpinWait.spin, Pc.phase, Phase.next]
    by_cases h : limit ≤ sw.counter
    · simp [h, Pc.phase, Nat.not_lt.2 h]
    · simp [h, Pc.phase, Nat.lt_of_not_le h]
  case resume.go t => cases t <;> rfl
  case handle.go => simp [Pc.phase, Phase.next]
  all_goals rfl

/-- The calls of every run, in the order made, are a path of the spec's automaton from its
start to the phase of the worker's program counter. -/
theorem run_phase {limit : Nat} {w : Worker} (hw : Reachable limit w) :
    Phase.run limit .fresh w.calls.reverse = some w.pc.phase := by
  induction hw with
  | init => rfl
  | step a _ hs ih =>
    obtain ⟨c, hc, hn⟩ := step_call hs
    rw [hc, List.reverse_cons]
    exact Phase.run_snoc.2 ⟨_, ih, hn⟩

/-! ## §4 The runner hooks -/

/-- The calls on the runner: `start`, `handle`, `pause`, `resume` and `end`. -/
def Call.isHook : Call → Bool
  | .start | .handle _ | .pause | .resume | .«end» => true
  | .isShutdown _ | .localPop _ | .popOrSleep _ => false

/-- The runner hooks among the calls `cs`, in order. -/
def hooks (cs : List Call) : List Call := cs.filter Call.isHook

/-- Modelled from the spec: the hook sequences `(handle | pause . resume . handle?)*`. -/
inductive HookBody : List Call → Prop
  | nil : HookBody []
  | handle (t : Nat) {l : List Call} : HookBody l → HookBody (.handle t :: l)
  | sleep {l : List Call} : HookBody l → HookBody (.pause :: .resume :: l)
  | sleepHandle (t : Nat) {l : List Call} : HookBody l →
      HookBody (.pause :: .resume :: .handle t :: l)

/-- The hooks a run from phase `p` still makes until `end`. -/
def Phase.hookTail : Phase → List Call → Prop
  | .fresh, l => ∃ b, HookBody b ∧ l = .start :: (b ++ [.«end»])
  | .ready, l | .popping _, l | .spent, l => ∃ b, HookBody b ∧ l = b ++ [.«end»]
  | .paused, l | .woken _, l => ∃ b, HookBody b ∧ l = .resume :: (b ++ [.«end»])
  | .popped t, l => ∃ b, HookBody b ∧ l = .handle t :: (b ++ [.«end»])
  | .stopping, l => l = [.«end»]
  | .ended, l => l = []

/-- One call of the automaton: the hooks owed before it are the call, if it is a hook, then
the hooks owed after it. -/
theorem Phase.hookTail_next {limit : Nat} {p p' : Phase} {c : Call} {l : List Call}
    (hn : p.next limit c = some p') (ht : p'.hookTail l) :
    p.hookTail (if c.isHook then c :: l else l) := by
  cases p <;> cases c <;> simp only [Phase.next, reduceCtorEq] at hn <;>
    simp only [Call.isHook, Bool.false_eq_true, ↓reduceIte]
  case fresh.start => cases hn; obtain ⟨b, hb, rfl⟩ := ht; exact ⟨b, hb, rfl⟩
  case ready.isShutdown b =>
    cases b <;> cases hn
    · exact ht
    · exact ⟨[], .nil, ht⟩
  case popping.localPop k t =>
    cases t with
    | none => simp only [Phase.next] at hn; split_ifs at hn <;> cases hn <;> exact ht
    | some t => cases hn; obtain ⟨b, hb, rfl⟩ := ht; exact ⟨_, hb.handle t, rfl⟩
  case spent.pause => cases hn; obtain ⟨b, hb, rfl⟩ := ht; exact ⟨_, hb.sleep, rfl⟩
  case paused.popOrSleep t => cases hn; exact ht
  case woken.resume t =>
    cases t <;> cases hn <;> obtain ⟨b, hb, rfl⟩ := ht
    · exact ⟨b, hb, rfl⟩
    · exact ⟨_, hb.handle _, rfl⟩
  case popped.handle t u =>
    split_ifs at hn with h
    subst h; cases hn; obtain ⟨b, hb, rfl⟩ := ht; exact ⟨b, hb, rfl⟩
  case stopping.«end» => cases hn; exact congrArg _ ht

/-- A path of the automaton that ends in `ended` makes the hooks its phase still owes. -/
theorem Phase.hookTail_of_run {limit : Nat} :
    ∀ {p : Phase} {cs : List Call}, p.run limit cs = some .ended → p.hookTail (hooks cs)
  | _, [], h => by
    simp only [Phase.run, Option.some.injEq] at h; subst h; rfl
  | _, c :: cs, h => by
    simp only [Phase.run, Option.bind_eq_some] at h
    obtain ⟨p', hn, hr⟩ := h
    simpa only [hooks, List.filter_cons] using Phase.hookTail_next hn (Phase.hookTail_of_run hr)

/-! ## §5 The law of the calls -/

/-- A path from `fresh` to `popped t` ends with the call that returned `t`: a `local.pop()`,
or a `pop_or_sleep` and its `resume`. -/
theorem Phase.run_eq_popped {limit t : Nat} {xs : List Call}
    (h : Phase.fresh.run limit xs = some (.popped t)) :
    ∃ zs, xs = zs ++ [.localPop (some t)] ∨ xs = zs ++ [.popOrSleep (some t), .resume] := by
  obtain ⟨ys, c, q, rfl, hq, hn⟩ := Phase.run_last h nofun
  rcases Phase.next_eq_popped hn with rfl | ⟨rfl, rfl⟩
  · exact ⟨ys, .inl rfl⟩
  · obtain ⟨zs, c', q', rfl, -, hn'⟩ := Phase.run_last hq nofun
    obtain ⟨rfl, -⟩ := Phase.next_eq_woken hn'
    exact ⟨zs, .inr (by simp)⟩

/-- What the spec asks of the calls of `WorkerThread::run` that reached `w`, with spin limit
`limit`. -/
structure WorkerLaw (limit : Nat) (w : Worker) : Prop where
  /-- The calls so far, in order, are a path of the automaton. -/
  path : Phase.run limit .fresh w.calls.reverse = some w.pc.phase
  /-- No pop calls `local.pop()` more than `limit + 1` times in a row without a task. -/
  spins : ¬ (List.replicate (limit + 2) (Call.localPop none)).IsInfix w.calls.reverse
  /-- `handle` gets the task that the call before it returned: a `local.pop()`, or a
  `pop_or_sleep` before `resume`. -/
  handled : ∀ xs ys t, w.calls.reverse = xs ++ .handle t :: ys →
    ∃ zs, xs = zs ++ [.localPop (some t)] ∨ xs = zs ++ [.popOrSleep (some t), .resume]
  /-- Once `run` has returned, each task `local.pop()` returned was handled next. -/
  popHandled : w.pc = .done → ∀ xs ys t, w.calls.reverse = xs ++ .localPop (some t) :: ys →
    ∃ zs, ys = .handle t :: zs
  /-- Once `run` has returned, each task `pop_or_sleep` returned was handled after
  `resume`. -/
  sleepHandled : w.pc = .done → ∀ xs ys t,
    w.calls.reverse = xs ++ .popOrSleep (some t) :: ys → ∃ zs, ys = .resume :: .handle t :: zs
  /-- Once `run` has returned, each `pause` was followed by `pop_or_sleep` and `resume`. -/
  pauseResumed : w.pc = .done → ∀ xs ys, w.calls.reverse = xs ++ .pause :: ys →
    ∃ t zs, ys = .popOrSleep t :: .resume :: zs
  /-- Once `run` has returned, its runner hooks are `start (handle | pause resume handle?)*
  end`. -/
  hookOrder : w.pc = .done → ∃ b, HookBody b ∧ hooks w.calls.reverse = .start :: (b ++ [.«end»])

/-- Every run of `WorkerThread::run`, whatever the pool answers, keeps to `WorkerLaw`. -/
theorem worker_law {limit : Nat} {w : Worker} (hw : Reachable limit w) : WorkerLaw limit w := by
  have hp := run_phase hw
  refine ⟨hp, ?spins, fun xs ys t he => ?handled, fun hd xs ys t he => ?popHandled,
    fun hd xs ys t he => ?sleepHandled, fun hd xs ys he => ?pauseResumed, fun hd => ?hookOrder⟩
  case spins =>
    rintro ⟨xs, ys, he⟩
    rw [← he, List.append_assoc, Phase.run_append, Option.bind_eq_some] at hp
    obtain ⟨q, -, hq⟩ := hp
    obtain ⟨k, -, hk⟩ := Phase.run_localPop_none limit hq
    omega
  case handled =>
    rw [he] at hp
    obtain ⟨q, q', hq, hn, -⟩ := Phase.run_after hp
    cases q <;> simp only [Phase.next, reduceCtorEq] at hn
    split_ifs at hn with ht
    exact ht ▸ Phase.run_eq_popped hq
  all_goals rw [hd] at hp
  case hookOrder => exact Phase.hookTail_of_run hp
  all_goals
    rw [he] at hp
    obtain ⟨q, q', -, hn, hr⟩ := Phase.run_after hp
    cases q <;> simp only [Phase.next, reduceCtorEq, Option.some.injEq] at hn
    subst hn
  case popHandled => exact Phase.run_popped hr
  case sleepHandled => exact Phase.run_woken hr
  case pauseResumed => exact Phase.run_paused hr

/-- With spin limit `1`: two empty pops, a sleep that returns task `7`, a pop of task `3`,
and the shutdown. -/
theorem worker_law_run :
    ∃ w, run 1 Worker.new [.go, .shutdown false, .localPop none, .localPop none, .go,
        .popOrSleep (some 7), .go, .go, .shutdown false, .localPop (some 3), .go, .shutdown true,
        .go] = some w ∧ w.pc = .done ∧ WorkerLaw 1 w := by
  obtain ⟨w, hrun, hd⟩ : ∃ w, run 1 Worker.new [.go, .shutdown false, .localPop none,
      .localPop none, .go, .popOrSleep (some 7), .go, .go, .shutdown false, .localPop (some 3),
      .go, .shutdown true, .go] = some w ∧ w.pc = .done := ⟨_, rfl, rfl⟩
  exact ⟨w, hrun, hd, worker_law (Reachable.init.run hrun)⟩

end Yatp.Pool
