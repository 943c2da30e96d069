import HardwareInterfaces.Power.BackgroundWorker

/-!
# The loop of a pool thread

A thread of the pool waits until the earliest deadline of the queue.  The wait
ends when its predicate holds after a wake-up, or when the deadline that the
thread waits for has come.  In the second case the predicate is evaluated once
more, but the loop does not look at the result: it takes the top of the queue,
whatever its deadline.

A step is one critical section of `mMutex`: from its start, or from the return
of the inner wait, to the next wait or to the release of the lock.  Threads can
be woken at any time.
-/

namespace HardwareInterfaces.BackgroundWorker

open AdpfTypes Transition

/-- Where a thread stands.  A thread that waits with an empty queue has no
deadline. -/
inductive LoopPoint where
  | top
  | waiting (deadline : Option TimePoint)
  | returned
  deriving DecidableEq

/-- The pool with its clock and its threads. -/
structure WorkerLoop (Caller Thread WorkerId Package : Type*) where
  pool : PriorityQueueWorkerPool Caller Thread WorkerId Package
  mRunning : Bool
  clock : TimePoint
  points : Thread → LoopPoint
  /-- The entries taken from the queue and when, newest first. -/
  taken : List (QueueEntry WorkerId × TimePoint)

/-- The `index` says which of several entries with the same deadline is on
top. -/
inductive LoopAction (Caller Thread WorkerId Package : Type*) where
  | store (caller : Caller) (worker : WorkerId) (package : Package)
      (deadline : TimePoint)
  | enqueue (caller : Caller)
  | process (thread : Thread)
  | tick (now : TimePoint)
  | enter (thread : Thread) (index : Nat)
  | wakeUp (thread : Thread) (index : Nat)
  | timeout (thread : Thread) (index : Nat)
  | shutdown

variable {Caller Thread WorkerId Package : Type*}

namespace WorkerLoop

def init (clock : TimePoint) : WorkerLoop Caller Thread WorkerId Package where
  pool := .init
  mRunning := true
  clock := clock
  points := fun _ => .top
  taken := []

section Actions

variable [DecidableEq Caller] [DecidableEq Thread] [DecidableEq WorkerId]
variable (loop : WorkerLoop Caller Thread WorkerId Package)

def withPool (pool : PriorityQueueWorkerPool Caller Thread WorkerId Package) :
    WorkerLoop Caller Thread WorkerId Package :=
  { loop with pool := pool }

def topDeadline : Option TimePoint :=
  (loop.pool.mPackageQueue.map QueueEntry.deadline).min?

/-- The predicate of the wait. -/
def ready : Bool :=
  !loop.mRunning || loop.topDeadline.any fun deadline =>
    decide (deadline ≤ loop.clock)

def moveTo (thread : Thread) (point : LoopPoint) :
    WorkerLoop Caller Thread WorkerId Package :=
  { loop with points := Function.update loop.points thread point }

/-- What follows the wait. -/
def afterWait (thread : Thread) (index : Nat) :
    Option (WorkerLoop Caller Thread WorkerId Package) :=
  if !loop.mRunning then some (loop.moveTo thread .returned)
  else if loop.pool.mPackageQueue.isEmpty then some (loop.moveTo thread .top)
  else
    match loop.pool.mPackageQueue[index]?,
      loop.pool.step (.take thread index) with
    | some entry, some pool => some
        { loop.moveTo thread .top with
          pool := pool
          taken := (entry, loop.clock) :: loop.taken }
    | _, _ => none

/-- The predicate is evaluated before each wait, and sets the deadline. -/
def wait (thread : Thread) (index : Nat) :
    Option (WorkerLoop Caller Thread WorkerId Package) :=
  if loop.ready then loop.afterWait thread index
  else some (loop.moveTo thread (.waiting loop.topDeadline))

def step : LoopAction Caller Thread WorkerId Package →
    Option (WorkerLoop Caller Thread WorkerId Package)
  | .store caller worker package deadline =>
    (loop.pool.step (.store caller worker package deadline)).map
      loop.withPool
  | .enqueue caller => (loop.pool.step (.enqueue caller)).map loop.withPool
  | .process thread => (loop.pool.step (.process thread)).map loop.withPool
  | .tick now =>
    if loop.clock ≤ now then some { loop with clock := now } else none
  | .enter thread index =>
    if loop.points thread = .top ∧ loop.pool.threads thread = none then
      loop.wait thread index
    else none
  | .wakeUp thread index =>
    match loop.points thread with
    | .waiting _ => loop.wait thread index
    | _ => none
  | .timeout thread index =>
    match loop.points thread with
    | .waiting (some deadline) =>
      if deadline ≤ loop.clock then loop.afterWait thread index else none
    | _ => none
  | .shutdown => some { loop with mRunning := false }

/-- No entry has been taken before its deadline. -/
def NeverEarly : Prop :=
  ∀ done ∈ loop.taken, done.1.deadline ≤ done.2

instance : DecidablePred (@NeverEarly Caller Thread WorkerId Package) :=
  fun loop => inferInstanceAs
    (Decidable (∀ done ∈ loop.taken, done.1.deadline ≤ done.2))

end Actions

/-! ## The threads that wait -/

section Waiting

variable {loop : WorkerLoop Caller Thread WorkerId Package}

theorem exists_of_topDeadline {deadline : TimePoint}
    (htop : loop.topDeadline = some deadline) :
    ∃ entry ∈ loop.pool.mPackageQueue, entry.deadline = deadline :=
  List.mem_map.mp (List.min?_mem htop)

theorem topDeadline_of_two {later sooner : QueueEntry WorkerId}
    {deadline : TimePoint}
    (hqueue : loop.pool.mPackageQueue = [later, sooner])
    (hdeadline : sooner.deadline = deadline) (hle : deadline ≤ later.deadline) :
    loop.topDeadline = some deadline := by
  subst hdeadline
  rw [topDeadline, hqueue]
  exact congrArg some (Int.min_eq_right hle)

/-- When the predicate holds, an entry is due unless the pool shuts down. -/
theorem exists_due_of_ready (hready : loop.ready = true)
    (hrunning : loop.mRunning = true) :
    ∃ entry ∈ loop.pool.mPackageQueue, entry.deadline ≤ loop.clock := by
  rw [ready, hrunning, Bool.not_true, Bool.false_or, Option.any_eq_true]
    at hready
  obtain ⟨deadline, htop, hdue⟩ := hready
  obtain ⟨entry, hentry, rfl⟩ := exists_of_topDeadline htop
  exact ⟨entry, hentry, of_decide_eq_true hdue⟩

/-- Nothing has been taken early, and where a thread waits for a deadline the
queue has an entry that is due by then. -/
structure Punctual (loop : WorkerLoop Caller Thread WorkerId Package) :
    Prop where
  never_early : loop.NeverEarly
  covered : ∀ thread deadline,
    loop.points thread = .waiting (some deadline) →
      ∃ entry ∈ loop.pool.mPackageQueue, entry.deadline ≤ deadline

theorem Punctual.moveTo [DecidableEq Thread] {thread : Thread}
    (hpunctual : loop.Punctual) {point : LoopPoint}
    (hcovered : ∀ deadline, point = .waiting (some deadline) →
      ∃ entry ∈ loop.pool.mPackageQueue, entry.deadline ≤ deadline) :
    (loop.moveTo thread point).Punctual := by
  refine ⟨hpunctual.never_early, ?_⟩
  intro other deadline hwaiting
  have hpoint : Function.update loop.points thread point other =
      .waiting (some deadline) := hwaiting
  rw [Function.update_apply] at hpoint
  split_ifs at hpoint
  · exact hcovered deadline hpoint
  · exact hpunctual.covered other deadline hpoint

/-- More entries do no harm. -/
theorem Punctual.withPool
    {pool : PriorityQueueWorkerPool Caller Thread WorkerId Package}
    (hpunctual : loop.Punctual)
    (hkept : ∀ entry ∈ loop.pool.mPackageQueue,
      entry ∈ pool.mPackageQueue) : (loop.withPool pool).Punctual := by
  refine ⟨hpunctual.never_early, ?_⟩
  intro thread deadline hwaiting
  obtain ⟨entry, hentry, hdue⟩ := hpunctual.covered thread deadline hwaiting
  exact ⟨entry, hkept entry hentry, hdue⟩

theorem punctual_init (clock : TimePoint) :
    (init clock : WorkerLoop Caller Thread WorkerId Package).Punctual :=
  ⟨nofun, nofun⟩

end Waiting

variable [DecidableEq Caller] [DecidableEq Thread] [DecidableEq WorkerId]

/-! ## Steps of the pool -/

section Steps

variable {loop next : WorkerLoop Caller Thread WorkerId Package}
variable {thread : Thread} {index : Nat}

/-- After the wait a thread leaves the queue alone, or it takes an entry with
the earliest deadline. -/
theorem afterWait_cases (hafter : loop.afterWait thread index = some next) :
    (∃ point, (∀ deadline, point ≠ .waiting deadline) ∧
        next = loop.moveTo thread point) ∨
      ∃ entry pool, loop.mRunning = true ∧
        (∀ other ∈ loop.pool.mPackageQueue,
          entry.deadline ≤ other.deadline) ∧
        loop.pool.step (.take thread index) = some pool ∧
        next = { loop.moveTo thread .top with
          pool := pool
          taken := (entry, loop.clock) :: loop.taken } := by
  rw [afterWait] at hafter
  split_ifs at hafter with hrunning
  · cases hafter
    exact .inl ⟨.returned, nofun, rfl⟩
  · cases hafter
    exact .inl ⟨.top, nofun, rfl⟩
  · split at hafter
    next entry pool hentry hpool =>
      cases hafter
      obtain ⟨first, -, hfirst, hearliest, -⟩ :=
        PriorityQueueWorkerPool.step_take_eq_some hpool
      cases hentry.symm.trans hfirst
      exact .inr ⟨entry, pool, by simpa using hrunning, hearliest, hpool, rfl⟩
    next => cases hafter

/-- What a step can be. -/
inductive StepEffect (loop : WorkerLoop Caller Thread WorkerId Package) :
    WorkerLoop Caller Thread WorkerId Package → Prop
  | pool {action : Action Caller Thread WorkerId Package}
      {pool : PriorityQueueWorkerPool Caller Thread WorkerId Package}
      (hpool : loop.pool.step action = some pool)
      (hother : ∀ thread index, action ≠ .take thread index) :
      StepEffect loop (loop.withPool pool)
  | tick {now : TimePoint} (hle : loop.clock ≤ now) :
      StepEffect loop { loop with clock := now }
  | wait {thread : Thread} {index : Nat}
      {next : WorkerLoop Caller Thread WorkerId Package}
      (hwait : loop.wait thread index = some next) : StepEffect loop next
  | timeout {thread : Thread} {index : Nat} {deadline : TimePoint}
      {next : WorkerLoop Caller Thread WorkerId Package}
      (hwaiting : loop.points thread = .waiting (some deadline))
      (hreached : deadline ≤ loop.clock)
      (hafter : loop.afterWait thread index = some next) :
      StepEffect loop next
  | shutdown : StepEffect loop { loop with mRunning := false }

theorem stepEffect_of_step
    {action : LoopAction Caller Thread WorkerId Package}
    (hstep : loop.step action = some next) : loop.StepEffect next := by
  cases action with
  | store | enqueue | process =>
    obtain ⟨pool, hpool, rfl⟩ := Option.map_eq_some_iff.mp hstep
    exact .pool hpool nofun
  | tick now =>
    obtain ⟨hle, hnext⟩ := Option.ite_none_right_eq_some.mp hstep
    cases hnext
    exact .tick hle
  | enter =>
    obtain ⟨-, hwait⟩ := Option.ite_none_right_eq_some.mp hstep
    exact .wait hwait
  | wakeUp =>
    rw [step] at hstep
    split at hstep
    next => exact .wait hstep
    next => cases hstep
  | timeout =>
    rw [step] at hstep
    split at hstep
    next deadline hwaiting =>
      obtain ⟨hreached, hafter⟩ := Option.ite_none_right_eq_some.mp hstep
      exact .timeout hwaiting hreached hafter
    next => cases hstep
  | shutdown =>
    cases hstep
    exact .shutdown

theorem pool_of_afterWait (hafter : loop.afterWait thread index = some next) :
    next.pool = loop.pool ∨
      ∃ action, loop.pool.step action = some next.pool := by
  rcases afterWait_cases hafter with
    ⟨point, -, rfl⟩ | ⟨entry, pool, -, -, hpool, rfl⟩
  · exact .inl rfl
  · exact .inr ⟨_, hpool⟩

theorem pool_of_wait (hwait : loop.wait thread index = some next) :
    next.pool = loop.pool ∨
      ∃ action, loop.pool.step action = some next.pool := by
  rw [wait] at hwait
  split_ifs at hwait
  · exact pool_of_afterWait hwait
  · cases hwait
    exact .inl rfl

/-- The loop does nothing to the pool that the pool does not do by itself. -/
theorem pool_of_step {action : LoopAction Caller Thread WorkerId Package}
    (hstep : loop.step action = some next) :
    next.pool = loop.pool ∨
      ∃ action, loop.pool.step action = some next.pool := by
  cases stepEffect_of_step hstep with
  | pool hpool _ => exact .inr ⟨_, hpool⟩
  | tick _ => exact .inl rfl
  | wait hwait => exact pool_of_wait hwait
  | timeout _ _ hafter => exact pool_of_afterWait hafter
  | shutdown => exact .inl rfl

/-- With any number of threads, early or not, no package is run twice. -/
theorem no_package_runs_twice (clock : TimePoint)
    (actions : List (LoopAction Caller Thread WorkerId Package)) :
    RunHolds step
      (fun loop => (loop.pool.ran.map fun done => (done.1, done.2.1)).Nodup)
      (init clock) actions := by
  refine @runHolds_of_invariant _ _ step _ _ (fun loop => loop.pool.IdsFresh)
    (fun _ hfresh => hfresh.ran_once) ?_ PriorityQueueWorkerPool.idsFresh_init
    actions
  intro loop action next hfresh hstep
  rcases pool_of_step hstep with hsame | ⟨poolAction, hpool⟩
  · rwa [hsame]
  · exact hfresh.step hpool

end Steps

/-! ## One thread is never early -/

section Steps

variable {loop next : WorkerLoop Caller Thread WorkerId Package}
variable {thread : Thread} {index : Nat}

/-- A thread that takes an entry when one is due takes a due one.  No other
thread is left waiting for it. -/
theorem Punctual.afterWait [Subsingleton Thread]
    (hpunctual : loop.Punctual)
    (hdue : loop.mRunning = true →
      ∃ entry ∈ loop.pool.mPackageQueue, entry.deadline ≤ loop.clock)
    (hafter : loop.afterWait thread index = some next) : next.Punctual := by
  rcases afterWait_cases hafter with
    ⟨point, hpoint, rfl⟩ | ⟨entry, pool, hrunning, hearliest, -, rfl⟩
  · exact hpunctual.moveTo fun deadline hwaiting =>
      absurd hwaiting (hpoint _)
  · obtain ⟨due, hmem, hle⟩ := hdue hrunning
    constructor
    · exact List.forall_mem_cons.mpr
        ⟨Int.le_trans (hearliest due hmem) hle, hpunctual.never_early⟩
    · intro other deadline hwaiting
      rw [Subsingleton.elim other thread] at hwaiting
      simp [WorkerLoop.moveTo] at hwaiting

theorem Punctual.wait [Subsingleton Thread] (hpunctual : loop.Punctual)
    (hwait : loop.wait thread index = some next) : next.Punctual := by
  rw [WorkerLoop.wait] at hwait
  split_ifs at hwait with hready
  · exact hpunctual.afterWait (exists_due_of_ready hready) hwait
  · cases hwait
    apply hpunctual.moveTo
    intro deadline hwaiting
    obtain ⟨entry, hentry, rfl⟩ :=
      exists_of_topDeadline (LoopPoint.waiting.inj hwaiting)
    exact ⟨entry, hentry, Int.le_refl _⟩

theorem Punctual.step [Subsingleton Thread]
    {action : LoopAction Caller Thread WorkerId Package}
    (hpunctual : loop.Punctual) (hstep : loop.step action = some next) :
    next.Punctual := by
  cases stepEffect_of_step hstep with
  | pool hpool hother =>
    exact hpunctual.withPool fun entry =>
      PriorityQueueWorkerPool.mem_mPackageQueue_of_step hother hpool
  | tick _ => exact ⟨hpunctual.never_early, hpunctual.covered⟩
  | wait hwait => exact hpunctual.wait hwait
  | @timeout thread _ deadline _ hwaiting hreached hafter =>
    obtain ⟨entry, hentry, hle⟩ := hpunctual.covered thread deadline hwaiting
    exact hpunctual.afterWait
      (fun _ => ⟨entry, hentry, Int.le_trans hle hreached⟩) hafter
  | shutdown => exact ⟨hpunctual.never_early, hpunctual.covered⟩

end Steps

/-! ## Two threads can be -/

section Early

variable {loop : WorkerLoop Caller Thread WorkerId Package}
variable {thread : Thread} {index : Nat} {deadline : TimePoint}

theorem step_store {caller : Caller} (hidle : loop.pool.calls caller = none)
    (worker : WorkerId) (package : Package) :
    loop.step (.store caller worker package deadline) =
      some (loop.withPool
        (loop.pool.store caller worker package deadline)) := by
  rw [step, PriorityQueueWorkerPool.step, hidle]
  rfl

theorem step_enqueue {caller : Caller} {call : ScheduleCall WorkerId}
    (hcall : loop.pool.calls caller = some call) :
    loop.step (.enqueue caller) =
      some (loop.withPool (loop.pool.enqueue caller call)) := by
  rw [step, PriorityQueueWorkerPool.step, hcall]
  rfl

/-- A thread waits for the deadline of the top. -/
theorem step_enter_of_future (hrunning : loop.mRunning = true)
    (hpoint : loop.points thread = .top)
    (hidle : loop.pool.threads thread = none)
    (htop : loop.topDeadline = some deadline)
    (hfuture : loop.clock < deadline) :
    loop.step (.enter thread index) =
      some (loop.moveTo thread (.waiting (some deadline))) := by
  have hready : loop.ready = false := by
    rw [ready, hrunning, htop]
    simpa using hfuture
  rw [step, if_pos ⟨hpoint, hidle⟩, wait, hready, htop]
  rfl

/-- When the deadline that a thread waits for has come, it takes the top,
whatever the deadline of that. -/
theorem step_timeout (hrunning : loop.mRunning = true)
    (hpoint : loop.points thread = .waiting (some deadline))
    (hreached : deadline ≤ loop.clock)
    (hidle : loop.pool.threads thread = none) {entry : QueueEntry WorkerId}
    (hentry : loop.pool.mPackageQueue[index]? = some entry)
    (hearliest : ∀ other ∈ loop.pool.mPackageQueue,
      entry.deadline ≤ other.deadline) :
    loop.step (.timeout thread index) = some
      { loop.moveTo thread .top with
        pool := loop.pool.take thread index entry
        taken := (entry, loop.clock) :: loop.taken } := by
  have hqueue : loop.pool.mPackageQueue.isEmpty = false := by
    rw [List.isEmpty_eq_false_iff_exists_mem]
    exact ⟨entry, List.mem_of_getElem? hentry⟩
  have htake : loop.pool.step (.take thread index) =
      some (loop.pool.take thread index entry) := by
    rw [PriorityQueueWorkerPool.step, hidle, hentry]
    exact if_pos hearliest
  rw [step, hpoint]
  dsimp only
  rw [if_pos hreached, afterWait, hrunning, hqueue, hentry, htake]
  rfl

variable [Inhabited Caller] [Inhabited WorkerId] [Inhabited Package]

/-- Both threads wait for the first entry.  When its deadline has come, one
takes it, and the other takes the one that follows. -/
def earlyRun (clock : TimePoint) (first second : Thread) :
    List (LoopAction Caller Thread WorkerId Package) :=
  [.store default default default (clock + 1), .enqueue default,
    .store default default default (clock + 2), .enqueue default,
    .enter first 0, .enter second 0, .tick (clock + 1), .timeout first 1,
    .timeout second 0]

theorem not_runHolds_earlyRun (clock : Int) {first second : Thread}
    (hdistinct : first ≠ second) :
    ¬ RunHolds step NeverEarly
      (init clock : WorkerLoop Caller Thread WorkerId Package)
      (earlyRun clock first second) := by
  intro hholds
  have hsooner : clock + 1 ≤ clock + 2 := by omega
  have hstored := hholds.2 _ (step_store rfl _ _)
  have hqueued := hstored.2 _ (step_enqueue (Function.update_self _ _ _))
  have hstored := hqueued.2 _ (step_store (Function.update_self _ _ _) _ _)
  have hqueued := hstored.2 _ (step_enqueue (Function.update_self _ _ _))
  have hwaiting := hqueued.2 _ (@step_enter_of_future _ _ _ _ _ _ _ _ first 0
    (clock + 1) rfl rfl rfl (topDeadline_of_two rfl rfl hsooner)
    (Int.lt_add_one_of_le (Int.le_refl clock)))
  have hwaiting := hwaiting.2 _ (@step_enter_of_future _ _ _ _ _ _ _ _ second 0
    (clock + 1) rfl (Function.update_of_ne hdistinct.symm _ _) rfl
    (topDeadline_of_two rfl rfl hsooner)
    (Int.lt_add_one_of_le (Int.le_refl clock)))
  have hticked := hwaiting.2 _ (if_pos (Int.le_add_one (Int.le_refl clock)))
  have htaken := hticked.2 _ (step_timeout rfl
    ((Function.update_of_ne hdistinct _ _).trans (Function.update_self _ _ _))
    (Int.le_refl _) rfl rfl (List.forall_mem_cons.mpr
      ⟨hsooner, List.forall_mem_singleton.mpr (Int.le_refl _)⟩))
  have hearly := htaken.2 _ (step_timeout rfl
    ((Function.update_of_ne hdistinct.symm _ _).trans
      (Function.update_self _ _ _))
    (Int.le_refl _) (Function.update_of_ne hdistinct.symm _ _) rfl
    (List.forall_mem_singleton.mpr (Int.le_refl _)))
  have hdue : clock + 2 ≤ clock + 1 := hearly.first _ List.mem_cons_self
  omega

end Early

/-- The pool is never early, whatever the interleaving, exactly if it has one
thread at most. -/
theorem neverEarly_iff_subsingleton [Inhabited Caller] [Inhabited WorkerId]
    [Inhabited Package] (clock : TimePoint) :
    (∀ actions, RunHolds step NeverEarly
        (init clock : WorkerLoop Caller Thread WorkerId Package) actions) ↔
      Subsingleton Thread := by
  constructor
  · intro hholds
    refine ⟨fun first second => ?_⟩
    by_contra hdistinct
    exact not_runHolds_earlyRun clock hdistinct (hholds _)
  · intro hsingle actions
    exact runHolds_of_invariant (fun _ hpunctual => hpunctual.never_early)
      (fun _ _ _ hpunctual hstep => hpunctual.step hstep)
      (punctual_init clock) actions

/-- At time 1 the second thread takes the entry that is due at 2. -/
theorem early_with_two_threads :
    ¬ RunHolds step NeverEarly (init 0 : WorkerLoop Unit Bool Unit Unit)
      (earlyRun 0 false true) := by
  decide +kernel

end WorkerLoop

end HardwareInterfaces.BackgroundWorker
