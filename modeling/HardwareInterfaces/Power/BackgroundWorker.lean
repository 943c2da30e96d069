import HardwareInterfaces.Core.Transition
import HardwareInterfaces.Power.AdpfTypes

/-!
# The background worker pool

Callers hand packages to a worker, and the threads of a pool run them in the
order of their deadlines.  `schedule` takes two locks one after the other: the
lock of the worker, under which the package is stored with a new id, and the
lock of the pool, under which an entry for the package is queued.  The second
step reads the id counter again.  A pool thread takes an entry under the lock
of the pool and processes it under the lock of the worker.

The state is the memory of the pool and of its workers together with the
calls and threads that are between two of these steps; a step is one critical
section.
-/

namespace HardwareInterfaces.BackgroundWorker

open AdpfTypes Transition

/-- An entry of the queue of the pool. -/
structure QueueEntry (WorkerId : Type*) where
  deadline : TimePoint
  templateQueueWorkerId : WorkerId
  packageId : Int
  deriving DecidableEq

structure TemplatePriorityQueueWorker (Package : Type*) where
  mPackageIdCounter : Int
  mPackages : AList fun _ : Int => Package

/-- A `schedule` call that has stored its package and not yet queued its
entry.  The id under which it stored the package is not kept by the source. -/
structure ScheduleCall (WorkerId : Type*) where
  worker : WorkerId
  deadline : TimePoint
  storedId : Int

structure PriorityQueueWorkerPool (Caller Thread WorkerId Package : Type*) where
  mPackageQueue : List (QueueEntry WorkerId)
  workers : WorkerId → TemplatePriorityQueueWorker Package
  calls : Caller → Option (ScheduleCall WorkerId)
  threads : Thread → Option (QueueEntry WorkerId)
  /-- The packages whose callback has run, newest first. -/
  ran : List (WorkerId × Int × Package)

inductive Action (Caller Thread WorkerId Package : Type*) where
  | store (caller : Caller) (worker : WorkerId) (package : Package)
      (deadline : TimePoint)
  | enqueue (caller : Caller)
  | take (thread : Thread) (index : Nat)
  | process (thread : Thread)

variable {Caller Thread WorkerId Package : Type*}

namespace PriorityQueueWorkerPool

def init : PriorityQueueWorkerPool Caller Thread WorkerId Package where
  mPackageQueue := []
  workers := fun _ => ⟨0, ∅⟩
  calls := fun _ => none
  threads := fun _ => none
  ran := []

section Actions

variable [DecidableEq Caller] [DecidableEq Thread] [DecidableEq WorkerId]
variable (pool : PriorityQueueWorkerPool Caller Thread WorkerId Package)

/-- The locked part of `schedule`. -/
def store (caller : Caller) (worker : WorkerId) (package : Package)
    (deadline : TimePoint) :
    PriorityQueueWorkerPool Caller Thread WorkerId Package :=
  let packageId := (pool.workers worker).mPackageIdCounter + 1
  { pool with
    workers := Function.update pool.workers worker
      ⟨packageId, (pool.workers worker).mPackages.insert packageId package⟩
    calls := Function.update pool.calls caller
      (some ⟨worker, deadline, packageId⟩) }

/-- The rest of `schedule`, which queues an entry under the id that the counter
holds by then. -/
def enqueue (caller : Caller) (call : ScheduleCall WorkerId) :
    PriorityQueueWorkerPool Caller Thread WorkerId Package :=
  { pool with
    mPackageQueue :=
      ⟨call.deadline, call.worker,
        (pool.workers call.worker).mPackageIdCounter⟩ :: pool.mPackageQueue
    calls := Function.update pool.calls caller none }

/-- The locked part of `loop`. -/
def take (thread : Thread) (index : Nat) (entry : QueueEntry WorkerId) :
    PriorityQueueWorkerPool Caller Thread WorkerId Package :=
  { pool with
    mPackageQueue := pool.mPackageQueue.eraseIdx index
    threads := Function.update pool.threads thread (some entry) }

/-- An entry whose id has no package is dropped. -/
def process (thread : Thread) (entry : QueueEntry WorkerId) :
    PriorityQueueWorkerPool Caller Thread WorkerId Package :=
  let idle :=
    { pool with threads := Function.update pool.threads thread none }
  let worker := pool.workers entry.templateQueueWorkerId
  match worker.mPackages.lookup entry.packageId with
  | none => idle
  | some package =>
    { idle with
      workers := Function.update pool.workers entry.templateQueueWorkerId
        { worker with
          mPackages := worker.mPackages.erase entry.packageId }
      ran := (entry.templateQueueWorkerId, entry.packageId, package) ::
        pool.ran }

/-- A caller has one `schedule` in progress at a time, and a thread one entry.
The entry taken is one with the earliest deadline; it may not have come yet. -/
def step : Action Caller Thread WorkerId Package →
    Option (PriorityQueueWorkerPool Caller Thread WorkerId Package)
  | .store caller worker package deadline =>
    match pool.calls caller with
    | some _ => none
    | none => some (pool.store caller worker package deadline)
  | .enqueue caller => (pool.calls caller).map (pool.enqueue caller)
  | .take thread index =>
    match pool.threads thread, pool.mPackageQueue[index]? with
    | none, some entry =>
      if ∀ other ∈ pool.mPackageQueue, entry.deadline ≤ other.deadline then
        some (pool.take thread index entry)
      else none
    | _, _ => none
  | .process thread => (pool.threads thread).map (pool.process thread)

end Actions

variable (pool : PriorityQueueWorkerPool Caller Thread WorkerId Package)

/-! ## No package is lost or run twice -/

/-- The entry is in the queue or in the hands of a thread. -/
def Waiting (entry : QueueEntry WorkerId) : Prop :=
  entry ∈ pool.mPackageQueue ∨ ∃ thread, pool.threads thread = some entry

def HasEntry (worker : WorkerId) (packageId : Int) : Prop :=
  ∃ entry, pool.Waiting entry ∧ entry.templateQueueWorkerId = worker ∧
    entry.packageId = packageId

/-- A call has stored the package and, as things stand, will queue its id. -/
def WillBeQueued (worker : WorkerId) (packageId : Int) : Prop :=
  (pool.workers worker).mPackageIdCounter = packageId ∧
    ∃ caller call, pool.calls caller = some call ∧ call.worker = worker ∧
      call.storedId = packageId

/-- No package is left behind without an entry, and none has run twice. -/
structure PackagesSafe : Prop where
  not_lost : ∀ worker packageId,
    packageId ∈ (pool.workers worker).mPackages →
      pool.HasEntry worker packageId ∨ pool.WillBeQueued worker packageId
  ran_once : (pool.ran.map fun done => (done.1, done.2.1)).Nodup

/-- A package is stored only while no call on the same worker is between its
two steps. -/
def StoresAlone : Action Caller Thread WorkerId Package → Prop
  | .store _ worker _ _ =>
    ∀ caller call, pool.calls caller = some call → call.worker ≠ worker
  | _ => True

/-! ## Invariants -/

/-- What holds of the ids in every run. -/
structure IdsFresh : Prop where
  package_le : ∀ worker packageId,
    packageId ∈ (pool.workers worker).mPackages →
      packageId ≤ (pool.workers worker).mPackageIdCounter
  ran_done : ∀ done ∈ pool.ran,
    done.2.1 ∉ (pool.workers done.1).mPackages ∧
      done.2.1 ≤ (pool.workers done.1).mPackageIdCounter
  ran_once : (pool.ran.map fun done => (done.1, done.2.1)).Nodup

/-- What holds of the calls and entries as long as calls on one worker do not
overlap. -/
structure Serial : Prop where
  call_unique : ∀ caller call other otherCall,
    pool.calls caller = some call → pool.calls other = some otherCall →
      call.worker = otherCall.worker → caller = other
  call_counter : ∀ caller call, pool.calls caller = some call →
    (pool.workers call.worker).mPackageIdCounter = call.storedId
  call_stored : ∀ caller call, pool.calls caller = some call →
    call.storedId ∈ (pool.workers call.worker).mPackages
  call_unqueued : ∀ caller call, pool.calls caller = some call →
    ¬ pool.HasEntry call.worker call.storedId
  entry_le : ∀ entry, pool.Waiting entry → entry.packageId ≤
    (pool.workers entry.templateQueueWorkerId).mPackageIdCounter
  not_lost : ∀ worker packageId,
    packageId ∈ (pool.workers worker).mPackages →
      pool.HasEntry worker packageId ∨ pool.WillBeQueued worker packageId

theorem idsFresh_init :
    (init : PriorityQueueWorkerPool Caller Thread WorkerId
      Package).IdsFresh := by
  constructor
  · intro worker packageId hmem
    exact absurd hmem (AList.notMem_empty packageId)
  · intro done hdone
    exact absurd hdone List.not_mem_nil
  · exact List.nodup_nil

theorem serial_init :
    (init : PriorityQueueWorkerPool Caller Thread WorkerId
      Package).Serial := by
  constructor
  · intro caller call other otherCall hcall
    cases hcall
  · intro caller call hcall
    cases hcall
  · intro caller call hcall
    cases hcall
  · intro caller call hcall
    cases hcall
  · rintro entry (hmem | ⟨thread, hthread⟩)
    · exact absurd hmem List.not_mem_nil
    · cases hthread
  · intro worker packageId hmem
    exact absurd hmem (AList.notMem_empty packageId)

section Steps

variable {pool}
  {next : PriorityQueueWorkerPool Caller Thread WorkerId Package}
variable {caller : Caller} {thread : Thread} {entry : QueueEntry WorkerId}

/-- Only the calls, the workers and the set of waiting entries matter. -/
theorem Serial.congr (hserial : pool.Serial)
    (hcalls : next.calls = pool.calls)
    (hworkers : next.workers = pool.workers)
    (hwaiting : ∀ entry, next.Waiting entry ↔ pool.Waiting entry) :
    next.Serial := by
  have hentry : ∀ worker packageId, next.HasEntry worker packageId ↔
      pool.HasEntry worker packageId := by
    intro worker packageId
    simp only [HasEntry, hwaiting]
  obtain ⟨hunique, hcounter, hstored, hunqueued, hle, hlost⟩ := hserial
  constructor
  · rw [hcalls]
    exact hunique
  · rw [hcalls, hworkers]
    exact hcounter
  · rw [hcalls, hworkers]
    exact hstored
  · simp only [hcalls, hentry]
    exact hunqueued
  · simp only [hwaiting, hworkers]
    exact hle
  · simp only [WillBeQueued, hcalls, hworkers, hentry]
    exact hlost

/-! ## Storing a package -/

section Store

variable [DecidableEq Caller] [DecidableEq WorkerId]
variable {worker : WorkerId} {package : Package} {deadline : TimePoint}

theorem workers_store_self :
    (pool.store caller worker package deadline).workers worker =
      ⟨(pool.workers worker).mPackageIdCounter + 1,
        (pool.workers worker).mPackages.insert
          ((pool.workers worker).mPackageIdCounter + 1) package⟩ :=
  Function.update_self _ _ _

theorem workers_store_of_ne {other : WorkerId} (hne : other ≠ worker) :
    (pool.store caller worker package deadline).workers other =
      pool.workers other :=
  Function.update_of_ne hne _ _

theorem calls_store_of_ne {other : Caller} (hne : other ≠ caller) :
    (pool.store caller worker package deadline).calls other =
      pool.calls other :=
  Function.update_of_ne hne _ _

/-- The calls between their two steps are the new one and those before. -/
theorem calls_store_eq_some {other : Caller} {call : ScheduleCall WorkerId}
    (hcall : (pool.store caller worker package deadline).calls other =
      some call) :
    (other = caller ∧ call = ⟨worker, deadline,
        (pool.workers worker).mPackageIdCounter + 1⟩) ∨
      pool.calls other = some call := by
  by_cases hother : other = caller
  · subst hother
    simp only [PriorityQueueWorkerPool.store, Function.update_self,
      Option.some.injEq] at hcall
    exact Or.inl ⟨rfl, hcall.symm⟩
  · rw [calls_store_of_ne hother] at hcall
    exact Or.inr hcall

theorem IdsFresh.store (hfresh : pool.IdsFresh) (caller : Caller)
    (worker : WorkerId) (package : Package) (deadline : TimePoint) :
    (pool.store caller worker package deadline).IdsFresh := by
  constructor
  · intro other packageId hmem
    by_cases hother : other = worker
    · subst hother
      rw [workers_store_self] at hmem ⊢
      rcases (AList.mem_insert _).mp hmem with rfl | hmem
      · exact Int.le_refl _
      · have hle := hfresh.package_le other packageId hmem
        dsimp only
        omega
    · rw [workers_store_of_ne hother] at hmem ⊢
      exact hfresh.package_le other packageId hmem
  · intro done hdone
    obtain ⟨hout, hle⟩ := hfresh.ran_done done hdone
    by_cases hother : done.1 = worker
    · subst hother
      rw [workers_store_self, AList.mem_insert, not_or]
      exact ⟨⟨by omega, hout⟩, by dsimp only; omega⟩
    · rw [workers_store_of_ne hother]
      exact ⟨hout, hle⟩
  · exact hfresh.ran_once

/-- The new package will be queued by its call, and the others are where they
were. -/
theorem Serial.not_lost_store (hserial : pool.Serial)
    {worker other : WorkerId} (hidle : pool.calls caller = none)
    (halone : ∀ other call, pool.calls other = some call →
      call.worker ≠ worker)
    {package : Package} {deadline : TimePoint} {packageId : Int}
    (hmem : packageId ∈ ((pool.store caller worker package
      deadline).workers other).mPackages) :
    (pool.store caller worker package deadline).HasEntry other packageId ∨
      (pool.store caller worker package deadline).WillBeQueued other
        packageId := by
  by_cases hworker : other = worker
  · subst hworker
    rw [workers_store_self] at hmem
    rcases (AList.mem_insert _).mp hmem with rfl | hmem
    · exact Or.inr ⟨by rw [workers_store_self], caller, _,
        Function.update_self _ _ _, rfl, rfl⟩
    · rcases hserial.not_lost other packageId hmem with hentry | hcall
      · exact Or.inl hentry
      · obtain ⟨-, first, call, hfirst, hsame, -⟩ := hcall
        exact absurd hsame (halone first call hfirst)
  · rw [workers_store_of_ne hworker] at hmem
    rcases hserial.not_lost other packageId hmem with hentry | hcall
    · exact Or.inl hentry
    · obtain ⟨hcounter, first, call, hfirst, hsame, hid⟩ := hcall
      have hne : first ≠ caller := by
        rintro rfl
        rw [hidle] at hfirst
        cases hfirst
      exact Or.inr ⟨by rw [workers_store_of_ne hworker, hcounter], first,
        call, by rw [calls_store_of_ne hne, hfirst], hsame, hid⟩

theorem Serial.store (hserial : pool.Serial) {worker : WorkerId}
    (hidle : pool.calls caller = none)
    (halone : ∀ other call, pool.calls other = some call →
      call.worker ≠ worker)
    (package : Package) (deadline : TimePoint) :
    (pool.store caller worker package deadline).Serial := by
  constructor
  · intro first call second otherCall hfirst hsecond hsame
    rcases calls_store_eq_some hfirst with ⟨rfl, rfl⟩ | hfirst
    · rcases calls_store_eq_some hsecond with ⟨rfl, -⟩ | hsecond
      · rfl
      · exact absurd hsame.symm (halone second otherCall hsecond)
    · rcases calls_store_eq_some hsecond with ⟨-, rfl⟩ | hsecond
      · exact absurd hsame (halone first call hfirst)
      · exact hserial.call_unique first call second otherCall hfirst hsecond
          hsame
  · intro other call hcall
    rcases calls_store_eq_some hcall with ⟨-, rfl⟩ | hcall
    · rw [workers_store_self]
    · rw [workers_store_of_ne (halone other call hcall)]
      exact hserial.call_counter other call hcall
  · intro other call hcall
    rcases calls_store_eq_some hcall with ⟨-, rfl⟩ | hcall
    · rw [workers_store_self]
      exact (AList.mem_insert _).mpr (Or.inl rfl)
    · rw [workers_store_of_ne (halone other call hcall)]
      exact hserial.call_stored other call hcall
  · intro other call hcall
    rcases calls_store_eq_some hcall with ⟨-, rfl⟩ | hcall
    · rintro ⟨entry, hwaiting, rfl, hid⟩
      have hle := hserial.entry_le entry hwaiting
      dsimp only at hid
      omega
    · exact hserial.call_unqueued other call hcall
  · intro entry hwaiting
    have hle := hserial.entry_le entry hwaiting
    by_cases hworker : entry.templateQueueWorkerId = worker
    · rw [hworker, workers_store_self]
      rw [hworker] at hle
      dsimp only
      omega
    · rw [workers_store_of_ne hworker]
      exact hle
  · intro other packageId hmem
    exact hserial.not_lost_store hidle halone hmem

/-- A package stored between the two steps of another call on the worker takes
the id away that the other call was going to queue. -/
theorem lost_of_overlap (hserial : pool.Serial) {other : Caller}
    {call : ScheduleCall WorkerId} (hcall : pool.calls other = some call)
    (package : Package) (deadline : TimePoint) :
    ¬ (pool.store caller call.worker package deadline).PackagesSafe := by
  intro hsafe
  have hcounter := hserial.call_counter other call hcall
  have hmem : call.storedId ∈ ((pool.store caller call.worker package
      deadline).workers call.worker).mPackages := by
    simp only [PriorityQueueWorkerPool.store, Function.update_self]
    exact (AList.mem_insert _).mpr
      (Or.inr (hserial.call_stored other call hcall))
  rcases hsafe.not_lost call.worker call.storedId hmem with hentry | hqueued
  · exact hserial.call_unqueued other call hcall hentry
  · have hlater := hqueued.1
    simp only [PriorityQueueWorkerPool.store, Function.update_self] at hlater
    omega

end Store

/-! ## Queueing, taking and processing an entry -/

theorem Serial.enqueue [DecidableEq Caller] (hserial : pool.Serial)
    {call : ScheduleCall WorkerId} (hcall : pool.calls caller = some call) :
    (pool.enqueue caller call).Serial := by
  have hcalls : ∀ other otherCall,
      (pool.enqueue caller call).calls other = some otherCall →
        other ≠ caller ∧ pool.calls other = some otherCall := by
    intro other otherCall hother
    by_cases hne : other = caller
    · subst hne
      simp only [PriorityQueueWorkerPool.enqueue, Function.update_self] at hother
      cases hother
    · simp only [PriorityQueueWorkerPool.enqueue,
        Function.update_of_ne hne] at hother
      exact ⟨hne, hother⟩
  have hwaiting : ∀ entry, (pool.enqueue caller call).Waiting entry ↔
      entry = ⟨call.deadline, call.worker, call.storedId⟩ ∨
        pool.Waiting entry := by
    intro entry
    rw [Waiting, PriorityQueueWorkerPool.enqueue,
      hserial.call_counter caller call hcall, List.mem_cons, or_assoc]
    rfl
  constructor
  · intro first firstCall second secondCall hfirst hsecond
    exact hserial.call_unique first firstCall second secondCall
      (hcalls first firstCall hfirst).2 (hcalls second secondCall hsecond).2
  · intro other otherCall hother
    exact hserial.call_counter other otherCall (hcalls other otherCall hother).2
  · intro other otherCall hother
    exact hserial.call_stored other otherCall (hcalls other otherCall hother).2
  · rintro other otherCall hother ⟨entry, hentry, hworker, hid⟩
    obtain ⟨hne, hother⟩ := hcalls other otherCall hother
    rcases (hwaiting entry).mp hentry with rfl | hentry
    · exact hne (hserial.call_unique other otherCall caller call hother hcall
        hworker.symm)
    · exact hserial.call_unqueued other otherCall hother
        ⟨entry, hentry, hworker, hid⟩
  · intro entry hentry
    rcases (hwaiting entry).mp hentry with rfl | hentry
    · exact Int.le_of_eq (hserial.call_counter caller call hcall).symm
    · exact hserial.entry_le entry hentry
  · intro worker packageId hmem
    rcases hserial.not_lost worker packageId hmem with hentry | hqueued
    · obtain ⟨entry, hentry, hkey⟩ := hentry
      exact Or.inl ⟨entry, (hwaiting entry).mpr (Or.inr hentry), hkey⟩
    · obtain ⟨hcounter, other, otherCall, hother, hworker, hid⟩ := hqueued
      by_cases hne : other = caller
      · subst hne
        rw [hcall, Option.some.injEq] at hother
        subst hother
        exact Or.inl ⟨_, (hwaiting _).mpr (Or.inl rfl), hworker, hid⟩
      · refine Or.inr ⟨hcounter, other, otherCall, ?_, hworker, hid⟩
        simp only [PriorityQueueWorkerPool.enqueue, Function.update_of_ne hne]
        exact hother

theorem waiting_take [DecidableEq Thread] {index : Nat}
    (hidle : pool.threads thread = none)
    (hentry : pool.mPackageQueue[index]? = some entry)
    (other : QueueEntry WorkerId) :
    (pool.take thread index entry).Waiting other ↔ pool.Waiting other := by
  obtain ⟨hindex, hget⟩ := List.getElem?_eq_some_iff.mp hentry
  have hqueue : other ∈ pool.mPackageQueue ↔
      other = entry ∨ other ∈ pool.mPackageQueue.eraseIdx index := by
    rw [← List.mem_cons, ← hget]
    exact (List.getElem_cons_eraseIdx_perm hindex).mem_iff.symm
  have hthreads : (∃ current, (pool.take thread index entry).threads current =
      some other) ↔ other = entry ∨
        ∃ current, pool.threads current = some other := by
    constructor
    · rintro ⟨current, hcurrent⟩
      by_cases hsame : current = thread
      · subst hsame
        simp only [PriorityQueueWorkerPool.take, Function.update_self,
          Option.some.injEq] at hcurrent
        exact Or.inl hcurrent.symm
      · simp only [PriorityQueueWorkerPool.take,
          Function.update_of_ne hsame] at hcurrent
        exact Or.inr ⟨current, hcurrent⟩
    · rintro (rfl | ⟨current, hcurrent⟩)
      · exact ⟨thread, Function.update_self _ _ _⟩
      · refine ⟨current, (Function.update_of_ne ?_ _ _).trans hcurrent⟩
        rintro rfl
        rw [hidle] at hcurrent
        cases hcurrent
  rw [Waiting, Waiting, hthreads, hqueue]
  constructor
  · rintro (hmem | rfl | hcurrent)
    · exact Or.inl (Or.inr hmem)
    · exact Or.inl (Or.inl rfl)
    · exact Or.inr hcurrent
  · rintro ((rfl | hmem) | hcurrent)
    · exact Or.inr (Or.inl rfl)
    · exact Or.inl hmem
    · exact Or.inr (Or.inr hcurrent)

section Process

variable [DecidableEq Thread] [DecidableEq WorkerId]

theorem IdsFresh.process (hfresh : pool.IdsFresh) (thread : Thread)
    (entry : QueueEntry WorkerId) : (pool.process thread entry).IdsFresh := by
  rw [PriorityQueueWorkerPool.process]
  cases hlookup : (pool.workers
      entry.templateQueueWorkerId).mPackages.lookup entry.packageId with
  | none => exact ⟨hfresh.package_le, hfresh.ran_done, hfresh.ran_once⟩
  | some package =>
    have hstored : entry.packageId ∈
        (pool.workers entry.templateQueueWorkerId).mPackages :=
      AList.lookup_isSome.mp (by rw [hlookup]; rfl)
    constructor
    · intro worker packageId hmem
      by_cases hworker : worker = entry.templateQueueWorkerId
      · subst hworker
        simp only [Function.update_self, AList.mem_erase] at hmem ⊢
        exact hfresh.package_le _ packageId hmem.2
      · simp only [Function.update_of_ne hworker] at hmem ⊢
        exact hfresh.package_le worker packageId hmem
    · intro done hdone
      rcases List.mem_cons.mp hdone with rfl | hdone
      · simp only [Function.update_self, AList.mem_erase]
        exact ⟨fun hmem => hmem.1 rfl, hfresh.package_le _ _ hstored⟩
      · obtain ⟨hout, hle⟩ := hfresh.ran_done done hdone
        by_cases hworker : done.1 = entry.templateQueueWorkerId
        · rw [hworker] at hout hle ⊢
          simp only [Function.update_self, AList.mem_erase]
          exact ⟨fun hmem => hout hmem.2, hle⟩
        · simp only [Function.update_of_ne hworker]
          exact ⟨hout, hle⟩
    · refine List.nodup_cons.mpr ⟨?_, hfresh.ran_once⟩
      intro hmem
      obtain ⟨done, hdone, hsame⟩ := List.mem_map.mp hmem
      obtain ⟨hworker, hid⟩ := Prod.ext_iff.mp hsame
      apply (hfresh.ran_done done hdone).1
      rw [show done.1 = _ from hworker, show done.2.1 = _ from hid]
      exact hstored

theorem mPackageQueue_process (thread : Thread) (entry : QueueEntry WorkerId) :
    (pool.process thread entry).mPackageQueue = pool.mPackageQueue := by
  rw [PriorityQueueWorkerPool.process]
  dsimp only
  split <;> rfl

/-- Processing an entry gives up that entry and no other. -/
theorem waiting_process (hentry : pool.threads thread = some entry)
    (other : QueueEntry WorkerId) :
    ((pool.process thread entry).Waiting other → pool.Waiting other) ∧
      (pool.Waiting other →
        other = entry ∨ (pool.process thread entry).Waiting other) := by
  have hqueue := @mPackageQueue_process _ _ _ _ pool _ _ thread entry
  have hthreads : (pool.process thread entry).threads =
      Function.update pool.threads thread none := by
    rw [PriorityQueueWorkerPool.process]
    dsimp only
    split <;> rfl
  rw [Waiting, Waiting, hqueue, hthreads]
  constructor
  · rintro (hmem | ⟨current, hcurrent⟩)
    · exact Or.inl hmem
    · by_cases hsame : current = thread
      · rw [hsame, Function.update_self] at hcurrent
        cases hcurrent
      · rw [Function.update_of_ne hsame] at hcurrent
        exact Or.inr ⟨current, hcurrent⟩
  · rintro (hmem | ⟨current, hcurrent⟩)
    · exact Or.inr (Or.inl hmem)
    · by_cases hsame : current = thread
      · rw [hsame, hentry, Option.some.injEq] at hcurrent
        exact Or.inl hcurrent.symm
      · refine Or.inr (Or.inr ⟨current, ?_⟩)
        rw [Function.update_of_ne hsame]
        exact hcurrent

/-- Processing an entry erases the package with its id and no other. -/
theorem workers_process (thread : Thread) (entry : QueueEntry WorkerId)
    (worker : WorkerId) :
    ((pool.process thread entry).workers worker).mPackageIdCounter =
        (pool.workers worker).mPackageIdCounter ∧
      ∀ packageId,
        packageId ∈ ((pool.process thread entry).workers worker).mPackages ↔
          packageId ∈ (pool.workers worker).mPackages ∧
            ¬ (entry.templateQueueWorkerId = worker ∧
              entry.packageId = packageId) := by
  rw [PriorityQueueWorkerPool.process]
  cases hlookup : (pool.workers
      entry.templateQueueWorkerId).mPackages.lookup entry.packageId with
  | none =>
    refine ⟨rfl, fun packageId => (and_iff_left_of_imp ?_).symm⟩
    rintro hmem ⟨rfl, rfl⟩
    exact AList.lookup_eq_none.mp hlookup hmem
  | some package =>
    dsimp only
    by_cases hworker : worker = entry.templateQueueWorkerId
    · subst hworker
      rw [Function.update_self]
      refine ⟨rfl, fun packageId => ?_⟩
      rw [AList.mem_erase, and_comm]
      simp only [true_and, eq_comm]
    · have hne : ¬ entry.templateQueueWorkerId = worker :=
        fun hsame => hworker hsame.symm
      rw [Function.update_of_ne hworker]
      simp only [hne, false_and, not_false_eq_true, and_true, implies_true,
        and_self]

theorem calls_process (thread : Thread) (entry : QueueEntry WorkerId) :
    (pool.process thread entry).calls = pool.calls := by
  rw [PriorityQueueWorkerPool.process]
  dsimp only
  split <;> rfl

theorem Serial.process (hserial : pool.Serial)
    (hentry : pool.threads thread = some entry) :
    (pool.process thread entry).Serial := by
  have hcounter : ∀ worker,
      ((pool.process thread entry).workers worker).mPackageIdCounter =
        (pool.workers worker).mPackageIdCounter :=
    fun worker => (workers_process thread entry worker).1
  have hpackages : ∀ worker packageId,
      packageId ∈ ((pool.process thread entry).workers worker).mPackages ↔
        packageId ∈ (pool.workers worker).mPackages ∧
          ¬ (entry.templateQueueWorkerId = worker ∧
            entry.packageId = packageId) :=
    fun worker => (workers_process thread entry worker).2
  have hwaiting := waiting_process hentry
  have hsubset : ∀ worker packageId,
      (pool.process thread entry).HasEntry worker packageId →
        pool.HasEntry worker packageId := by
    rintro worker packageId ⟨other, hother, hkey⟩
    exact ⟨other, (hwaiting other).1 hother, hkey⟩
  constructor
  · rw [calls_process]
    exact hserial.call_unique
  · simp only [calls_process, hcounter]
    exact hserial.call_counter
  · simp only [calls_process, hpackages]
    intro caller call hcall
    refine ⟨hserial.call_stored caller call hcall, ?_⟩
    rintro ⟨hworker, hid⟩
    exact hserial.call_unqueued caller call hcall
      ⟨entry, Or.inr ⟨thread, hentry⟩, hworker, hid⟩
  · rw [calls_process]
    intro caller call hcall hhas
    exact hserial.call_unqueued caller call hcall (hsubset _ _ hhas)
  · intro other hother
    rw [hcounter]
    exact hserial.entry_le other ((hwaiting other).1 hother)
  · intro worker packageId hmem
    obtain ⟨hmem, hkey⟩ := (hpackages worker packageId).mp hmem
    rcases hserial.not_lost worker packageId hmem with hhas | hqueued
    · obtain ⟨other, hother, hsame⟩ := hhas
      rcases (hwaiting other).2 hother with rfl | hother
      · exact absurd hsame hkey
      · exact Or.inl ⟨other, hother, hsame⟩
    · rw [WillBeQueued, hcounter, calls_process]
      exact Or.inr hqueued

end Process

end Steps

/-! ## Runs -/

section Runs

variable [DecidableEq Caller] [DecidableEq Thread] [DecidableEq WorkerId]
variable {pool}
  {next : PriorityQueueWorkerPool Caller Thread WorkerId Package}
  {action : Action Caller Thread WorkerId Package}

/-- A thread that has none takes an entry with the earliest deadline. -/
theorem step_take_eq_some {index : Nat}
    (hstep : pool.step (.take thread index) = some next) :
    ∃ entry, pool.threads thread = none ∧
      pool.mPackageQueue[index]? = some entry ∧
      (∀ other ∈ pool.mPackageQueue, entry.deadline ≤ other.deadline) ∧
      next = pool.take thread index entry := by
  rw [PriorityQueueWorkerPool.step] at hstep
  split at hstep
  next entry hidle hentry =>
    split_ifs at hstep with hfirst
    cases hstep
    exact ⟨entry, hidle, hentry, hfirst, rfl⟩
  next => cases hstep

/-- Ids are never handed out twice, whatever the interleaving. -/
theorem IdsFresh.step (hfresh : pool.IdsFresh)
    (hstep : pool.step action = some next) : next.IdsFresh := by
  cases action with
  | store caller worker package deadline =>
    rw [PriorityQueueWorkerPool.step] at hstep
    split at hstep
    · cases hstep
    · cases hstep
      exact hfresh.store caller worker package deadline
  | enqueue =>
    obtain ⟨call, -, rfl⟩ := Option.map_eq_some_iff.mp hstep
    exact ⟨hfresh.package_le, hfresh.ran_done, hfresh.ran_once⟩
  | take =>
    obtain ⟨entry, -, -, -, rfl⟩ := step_take_eq_some hstep
    exact ⟨hfresh.package_le, hfresh.ran_done, hfresh.ran_once⟩
  | process thread =>
    obtain ⟨entry, -, rfl⟩ := Option.map_eq_some_iff.mp hstep
    exact hfresh.process thread entry

/-- Entries leave the queue only when they are taken. -/
theorem mem_mPackageQueue_of_step
    (hother : ∀ thread index, action ≠ .take thread index)
    (hstep : pool.step action = some next)
    (hentry : entry ∈ pool.mPackageQueue) : entry ∈ next.mPackageQueue := by
  cases action with
  | store =>
    rw [PriorityQueueWorkerPool.step] at hstep
    split at hstep
    · cases hstep
    · cases hstep
      exact hentry
  | enqueue =>
    obtain ⟨call, -, rfl⟩ := Option.map_eq_some_iff.mp hstep
    exact List.mem_cons_of_mem _ hentry
  | take thread index => exact absurd rfl (hother thread index)
  | process =>
    obtain ⟨current, -, rfl⟩ := Option.map_eq_some_iff.mp hstep
    rwa [mPackageQueue_process]

/-- Calls that do not overlap keep the entries in step with the packages. -/
theorem Serial.step (hserial : pool.Serial) (halone : pool.StoresAlone action)
    (hstep : pool.step action = some next) : next.Serial := by
  cases action with
  | store caller worker package deadline =>
    rw [PriorityQueueWorkerPool.step] at hstep
    split at hstep
    · cases hstep
    · next hidle =>
        cases hstep
        exact hserial.store hidle halone package deadline
  | enqueue =>
    obtain ⟨call, hcall, rfl⟩ := Option.map_eq_some_iff.mp hstep
    exact hserial.enqueue hcall
  | take =>
    obtain ⟨entry, hidle, hentry, -, rfl⟩ := step_take_eq_some hstep
    exact hserial.congr rfl rfl (waiting_take hidle hentry)
  | process =>
    obtain ⟨entry, hentry, rfl⟩ := Option.map_eq_some_iff.mp hstep
    exact hserial.process hentry

/-- No package is lost or run twice along a run exactly when no package is
stored between the two steps of another `schedule` call on its worker. -/
theorem packages_safe_iff_stores_alone
    (actions : List (Action Caller Thread WorkerId Package)) :
    RunHolds step PackagesSafe
        (init : PriorityQueueWorkerPool Caller Thread WorkerId Package)
        actions ↔
      RunMeets step StoresAlone
        (init : PriorityQueueWorkerPool Caller Thread WorkerId Package)
        actions := by
  have hsound : ∀ pool : PriorityQueueWorkerPool Caller Thread WorkerId
      Package, pool.IdsFresh ∧ pool.Serial → pool.PackagesSafe := by
    rintro pool ⟨hfresh, hserial⟩
    exact ⟨hserial.not_lost, hfresh.ran_once⟩
  apply runHolds_iff_runMeets hsound
  · rintro pool action next ⟨hfresh, hserial⟩ halone hstep
    exact ⟨hfresh.step hstep, hserial.step halone hstep⟩
  · rintro pool action next ⟨-, hserial⟩ halone hstep
    cases action with
    | store caller worker package deadline =>
        simp only [StoresAlone, not_forall, not_not] at halone
        obtain ⟨other, call, hcall, rfl⟩ := halone
        rw [PriorityQueueWorkerPool.step] at hstep
        split at hstep
        · cases hstep
        · cases hstep
          exact lost_of_overlap hserial hcall package deadline
    | enqueue caller => exact absurd trivial halone
    | take thread index => exact absurd trivial halone
    | process thread => exact absurd trivial halone
  · exact ⟨idsFresh_init, serial_init⟩

end Runs

/-- Two callers store a package each before either of them queues its entry:
both entries carry the id of the second package. -/
theorem packages_not_always_safe :
    ¬ ∀ pool : PriorityQueueWorkerPool Bool Unit Unit String,
      Reachable step init pool → pool.PackagesSafe := by
  intro hsafe
  obtain ⟨pool, hrun, hmem, hcounter, hqueue, hthread⟩ :
      ∃ pool : PriorityQueueWorkerPool Bool Unit Unit String,
        run step init [.store false () "first" 10, .store true () "second" 20,
          .enqueue false, .enqueue true] = some pool ∧
        1 ∈ (pool.workers ()).mPackages ∧
        (pool.workers ()).mPackageIdCounter = 2 ∧
        (∀ entry ∈ pool.mPackageQueue, entry.packageId = 2) ∧
        pool.threads () = none :=
    ⟨_, rfl, by decide, rfl, by decide, rfl⟩
  rcases (hsafe pool ⟨_, hrun⟩).not_lost () 1 hmem with hentry | hqueued
  · obtain ⟨entry, hwaiting, -, hid⟩ := hentry
    rcases hwaiting with hwaiting | ⟨thread, hwaiting⟩
    · rw [hqueue entry hwaiting] at hid
      exact absurd hid (by decide)
    · rw [hthread] at hwaiting
      cases hwaiting
  · rw [WillBeQueued, hcounter] at hqueued
    exact absurd hqueued.1 (by decide)

end PriorityQueueWorkerPool

end HardwareInterfaces.BackgroundWorker
