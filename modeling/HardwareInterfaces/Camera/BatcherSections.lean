import HardwareInterfaces.Camera.BatcherSteps

/-!
# The batcher with several threads

The HAL may call from several threads.  A call first looks its batch up under
the batcher's lock, with the position of the batch as the result, and then goes
on without the lock.  A shutter or a result is queued under the lock of its
batch, and for the last frame the first batch is checked under the batcher's
lock again.  An error takes the batcher's lock again and removes as many batches
as the position says.  Each of these sections is one step here.

A batch is a shared object: it is known by the number of its registration, and a
thread may hold it after it has left the queue.  Reading the front of an empty
queue is undefined; the model stops there with `fault`.
-/

namespace HardwareInterfaces.Camera

open Transition
open ResultBatcher (Event)

/-- A call of the HAL. -/
inductive Call where
  | notify (msg : NotifyMsg)
  | processCaptureResult (result : CaptureResult)
  deriving DecidableEq, Repr

namespace Call

def frameNumber : Call → Nat
  | .notify msg => msg.frameNumber
  | .processCaptureResult result => result.frameNumber

def event : Call → Event
  | .notify msg => .notify msg
  | .processCaptureResult result => .processCaptureResult result

/-- What is sent for the call if it is not batched. -/
def direct : Call → Callback
  | .notify msg => .notify [msg]
  | .processCaptureResult result => .processCaptureResult [result]

end Call

/-- What a thread does next. -/
inductive Stop where
  | idle
  | lookup (call : Call)
  | single (call : Call)
  | located (call : Call) (batchIdx ref : Nat)
  | check
  deriving DecidableEq, Repr

structure SharedBatcher where
  /-- The batches by the number of their registration. -/
  heap : Nat → InflightBatch
  registered : Nat
  mInflightBatches : List Nat
  mNumPartialResults : Nat
  mStreamsToBatch : List StreamId
  callbacks : List Callback
  threads : Nat → Stop
  fault : Bool

namespace SharedBatcher

def start (numPartialResults : Nat) (streamsToBatch : List StreamId) :
    SharedBatcher where
  heap _ := .new 0 0 numPartialResults streamsToBatch
  registered := 0
  mInflightBatches := []
  mNumPartialResults := numPartialResults
  mStreamsToBatch := streamsToBatch
  callbacks := []
  threads _ := .idle
  fault := false

variable (shared : SharedBatcher)

/-! ## Sections -/

def send (callbacks : List Callback) : SharedBatcher :=
  { shared with callbacks := shared.callbacks ++ callbacks }

def batches : List InflightBatch :=
  shared.mInflightBatches.map shared.heap

def getBatch (frameNumber : Nat) : Option (Nat × Nat) :=
  (Camera.getBatch shared.batches frameNumber).bind fun batchIdx =>
    shared.mInflightBatches[batchIdx]?.map fun ref => (batchIdx, ref)

/-- The new content of a batch, and the callbacks made for it. -/
def updateBatch (ref : Nat) (update : List Callback × InflightBatch) :
    SharedBatcher :=
  { shared with
    heap := Function.update shared.heap ref update.2
    callbacks := shared.callbacks ++ update.1 }

/-- Send and remove batches from the front of the queue. -/
def flushBatches : Nat → SharedBatcher → SharedBatcher
  | 0, shared => shared
  | count + 1, shared =>
    match shared.mInflightBatches with
    | [] => { shared with fault := true }
    | ref :: rest =>
      flushBatches count
        { shared.updateBatch ref ((shared.heap ref).flush
            shared.mStreamsToBatch shared.mNumPartialResults) with
          mInflightBatches := rest }

/-- The section of an error. -/
def notifyError (batchIdx : Nat) (msg : ErrorMsg) : SharedBatcher :=
  (flushBatches (batchIdx + 1) shared).send [.notify [.error msg]]

/-- The section under the lock of a batch. -/
def queueCall (call : Call) (ref : Nat)
    (update : List Callback × InflightBatch) : SharedBatcher × Stop :=
  if (shared.heap ref).mRemoved then (shared.send [call.direct], .idle)
  else
    (shared.updateBatch ref update,
      if call.frameNumber = (shared.heap ref).mLastFrame then .check
      else .idle)

def checkAndRemoveFirstBatch : SharedBatcher :=
  match shared.mInflightBatches with
  | [] => shared
  | ref :: rest =>
    if (shared.heap ref).allDelivered then
      { shared with
        heap := Function.update shared.heap ref
          { shared.heap ref with mRemoved := true }
        mInflightBatches := rest }
    else shared

/-- One section, and what the thread does after it. -/
def enter : Stop → SharedBatcher × Stop
  | .idle => (shared, .idle)
  | .lookup call =>
    match shared.getBatch call.frameNumber with
    | none => (shared, .single call)
    | some (batchIdx, ref) => (shared, .located call batchIdx ref)
  | .single call => (shared.send [call.direct], .idle)
  | .located (.notify (.error msg)) batchIdx _ =>
    (shared.notifyError batchIdx msg, .idle)
  | .located (.notify (.shutter msg)) _ ref =>
    shared.queueCall (.notify (.shutter msg)) ref
      ((shared.heap ref).queueShutter msg)
  | .located (.processCaptureResult result) _ ref =>
    shared.queueCall (.processCaptureResult result) ref
      ((shared.heap ref).queueResult result)
  | .check => (shared.checkAndRemoveFirstBatch, .idle)

def registerBatch (frameNumber batchSize : Nat) : SharedBatcher :=
  { shared with
    heap := Function.update shared.heap shared.registered
      (.new frameNumber batchSize shared.mNumPartialResults
        shared.mStreamsToBatch)
    registered := shared.registered + 1
    mInflightBatches := shared.mInflightBatches ++ [shared.registered] }

inductive Action where
  | invoke (thread : Nat) (call : Call)
  | enter (thread : Nat)
  | registerBatch (frameNumber batchSize : Nat)
  deriving DecidableEq, Repr

def setThread (thread : Nat) (stop : Stop) : SharedBatcher :=
  { shared with threads := Function.update shared.threads thread stop }

def step (action : Action) : Option SharedBatcher :=
  if shared.fault then none
  else
    match action with
    | .invoke thread call =>
      if shared.threads thread = .idle then
        some (shared.setThread thread (.lookup call))
      else none
    | .enter thread =>
      if shared.threads thread = .idle then none
      else
        let next := shared.enter (shared.threads thread)
        some (next.1.setThread thread next.2)
    | .registerBatch frameNumber batchSize =>
      some (shared.registerBatch frameNumber batchSize)

/-! ## What a section changes -/

/-- Batches leave the queue from the front, and those that stay keep their
frames and stay live. -/
structure Shrinks (shared next : SharedBatcher) : Prop where
  queue : ∃ count,
    next.mInflightBatches = shared.mInflightBatches.drop count
  registered : next.registered = shared.registered
  threads : next.threads = shared.threads
  covers : ∀ ref, (next.heap ref).covers = (shared.heap ref).covers
  live : shared.mInflightBatches.Nodup → ∀ ref ∈ next.mInflightBatches,
    (next.heap ref).mRemoved = (shared.heap ref).mRemoved

theorem Shrinks.refl : Shrinks shared shared :=
  ⟨⟨0, rfl⟩, rfl, rfl, fun _ => rfl, fun _ _ _ => rfl⟩

variable {shared}

theorem Shrinks.trans {next last : SharedBatcher}
    (hfirst : Shrinks shared next) (hsecond : Shrinks next last) :
    Shrinks shared last := by
  obtain ⟨first, hnext⟩ := hfirst.queue
  obtain ⟨second, hlast⟩ := hsecond.queue
  refine ⟨⟨first + second, ?_⟩, ?_, ?_, ?_, ?_⟩
  · rw [hlast, hnext, List.drop_drop]
  · rw [hsecond.registered, hfirst.registered]
  · rw [hsecond.threads, hfirst.threads]
  · intro ref
    rw [hsecond.covers, hfirst.covers]
  · intro hnodup ref href
    have hmem : ref ∈ next.mInflightBatches := by
      rw [hlast] at href
      exact List.mem_of_mem_drop href
    have hrest : next.mInflightBatches.Nodup := by
      rw [hnext]
      exact hnodup.sublist (List.drop_sublist _ _)
    rw [hsecond.live hrest ref href, hfirst.live hnodup ref hmem]

theorem shrinks_send (callbacks : List Callback) :
    Shrinks shared (shared.send callbacks) :=
  ⟨⟨0, rfl⟩, rfl, rfl, fun _ => rfl, fun _ _ _ => rfl⟩

variable {ref : Nat}

theorem shrinks_updateBatch {update : List Callback × InflightBatch}
    (hshape : update.2.shape = (shared.heap ref).shape) :
    Shrinks shared (shared.updateBatch ref update) := by
  simp only [InflightBatch.shape, Prod.mk.injEq] at hshape
  obtain ⟨hfirst, hlast, -, -, hremoved⟩ := hshape
  refine ⟨⟨0, rfl⟩, rfl, rfl, ?_, ?_⟩
  · intro other
    simp only [updateBatch]
    by_cases hother : other = ref
    · subst hother
      rw [Function.update_self]
      funext frameNumber
      rw [InflightBatch.covers, InflightBatch.covers, hfirst, hlast]
    · rw [Function.update_of_ne hother]
  · intro _ other _
    simp only [updateBatch]
    by_cases hother : other = ref
    · subst hother
      rw [Function.update_self, hremoved]
    · rw [Function.update_of_ne hother]

/-- The first batch leaves the queue, whatever becomes of its flag. -/
theorem shrinks_tail {rest : List Nat}
    (hqueue : shared.mInflightBatches = ref :: rest) {removed : InflightBatch}
    {callbacks : List Callback}
    (hcovers : removed.covers = (shared.heap ref).covers) :
    Shrinks shared
      { shared with
        heap := Function.update shared.heap ref removed
        mInflightBatches := rest
        callbacks := callbacks } := by
  refine ⟨⟨1, ?_⟩, rfl, rfl, ?_, ?_⟩
  · rw [hqueue]
    rfl
  · intro other
    by_cases hother : other = ref
    · subst hother
      simp only [Function.update_self, hcovers]
    · simp only [Function.update_of_ne hother]
  · intro hnodup other hmem
    rw [hqueue, List.nodup_cons] at hnodup
    have hother : other ≠ ref := by
      rintro rfl
      exact hnodup.1 hmem
    simp only [Function.update_of_ne hother]

theorem covers_flush (batch : InflightBatch) (streams : List StreamId)
    (numPartialResults : Nat) :
    (batch.flush streams numPartialResults).2.covers = batch.covers := by
  obtain ⟨progress, mds, hframe⟩ :=
    batch.sendBatchMetadata_frame numPartialResults
  rw [batch.flush_eq, hframe]
  rfl

theorem shrinks_flushBatches (count : Nat) :
    Shrinks shared (flushBatches count shared) := by
  induction count generalizing shared with
  | zero => exact Shrinks.refl shared
  | succ count ih =>
    rw [flushBatches]
    split
    · exact ⟨⟨0, rfl⟩, rfl, rfl, fun _ => rfl, fun _ _ _ => rfl⟩
    · rename_i ref rest hqueue
      exact (shrinks_tail hqueue (covers_flush _ _ _)).trans ih

theorem shrinks_queueCall (call : Call)
    {update : List Callback × InflightBatch}
    (hshape : update.2.shape = (shared.heap ref).shape) :
    Shrinks shared (shared.queueCall call ref update).1 := by
  rw [queueCall]
  split_ifs
  · exact shrinks_send _
  · exact shrinks_updateBatch hshape
  · exact shrinks_updateBatch hshape

theorem shrinks_checkAndRemoveFirstBatch :
    Shrinks shared shared.checkAndRemoveFirstBatch := by
  rw [checkAndRemoveFirstBatch]
  cases hqueue : shared.mInflightBatches with
  | nil => exact Shrinks.refl shared
  | cons ref rest =>
    dsimp only
    split_ifs
    · exact shrinks_tail hqueue rfl
    · exact Shrinks.refl shared

theorem shrinks_enter (stop : Stop) :
    Shrinks shared (shared.enter stop).1 := by
  cases stop with
  | idle => exact Shrinks.refl shared
  | lookup call =>
    rw [enter]
    cases shared.getBatch call.frameNumber with
    | none | some => exact Shrinks.refl shared
  | single call => exact shrinks_send _
  | check => exact shrinks_checkAndRemoveFirstBatch
  | located call =>
    cases call with
    | processCaptureResult result =>
      exact shrinks_queueCall _ (InflightBatch.shape_queueResult _ result)
    | notify msg =>
      cases msg with
      | shutter msg =>
        exact shrinks_queueCall _ (InflightBatch.shape_queueShutter _ msg)
      | error msg => exact (shrinks_flushBatches _).trans (shrinks_send _)

/-- The batch that a lookup finds. -/
theorem getBatch_eq_some {frameNumber batchIdx : Nat}
    (hfound : shared.getBatch frameNumber = some (batchIdx, ref)) :
    shared.mInflightBatches[batchIdx]? = some ref ∧
      (shared.heap ref).covers frameNumber = true := by
  rw [getBatch, Option.bind_eq_some_iff] at hfound
  obtain ⟨found, hbatch, href⟩ := hfound
  obtain ⟨other, hother, heq⟩ := Option.map_eq_some_iff.mp href
  cases heq
  obtain ⟨before, batch, after, hsplit, rfl, hcovers⟩ :=
    Camera.getBatch_eq_some hbatch
  refine ⟨hother, ?_⟩
  have hat : shared.batches[before.length]? = some (shared.heap ref) := by
    rw [batches, List.getElem?_map, hother]
    rfl
  rw [hsplit, List.getElem?_append_right le_rfl, Nat.sub_self,
    List.getElem?_cons_zero] at hat
  cases hat
  exact hcovers

/-! ## Well-formed states -/

/-- How many batches have left the queue. -/
def removed (shared : SharedBatcher) : Nat :=
  shared.registered - shared.mInflightBatches.length

/-- What a thread knows of its batch: it was at the position it has found, and
may have moved towards the front since. -/
def Knows (shared : SharedBatcher) : Stop → Prop
  | .located call batchIdx ref =>
    ref < shared.registered ∧ ref ≤ shared.removed + batchIdx ∧
      (shared.heap ref).covers call.frameNumber = true
  | _ => True

/-- The queue holds the batches registered last, in order. -/
structure WellFormed (shared : SharedBatcher) : Prop where
  queue_eq : shared.mInflightBatches =
    List.range' shared.removed shared.mInflightBatches.length
  length_le : shared.mInflightBatches.length ≤ shared.registered
  live : ∀ ref ∈ shared.mInflightBatches, (shared.heap ref).mRemoved = false
  knows : ∀ thread, shared.Knows (shared.threads thread)

namespace WellFormed

theorem nodup (hwf : WellFormed shared) : shared.mInflightBatches.Nodup := by
  rw [hwf.queue_eq]
  exact List.nodup_range'

theorem lt_registered (hwf : WellFormed shared) {ref : Nat}
    (href : ref ∈ shared.mInflightBatches) : ref < shared.registered := by
  have hle := hwf.length_le
  rw [hwf.queue_eq, List.mem_range'_1, removed] at href
  omega

theorem getElem?_eq_some_iff (hwf : WellFormed shared)
    {batchIdx ref : Nat} :
    shared.mInflightBatches[batchIdx]? = some ref ↔
      batchIdx < shared.mInflightBatches.length ∧
        ref = shared.removed + batchIdx := by
  have hqueue := hwf.queue_eq
  generalize shared.mInflightBatches.length = count at hqueue ⊢
  rw [hqueue]
  by_cases hlt : batchIdx < count
  · rw [List.getElem?_range' hlt, Nat.one_mul, Option.some_inj, eq_comm]
    exact (and_iff_right hlt).symm
  · rw [List.getElem?_eq_none (by simpa using Nat.le_of_not_lt hlt)]
    exact iff_of_false nofun fun h => hlt h.1

theorem shrinks {next : SharedBatcher} (hwf : WellFormed shared)
    (hshrinks : Shrinks shared next) : WellFormed next := by
  obtain ⟨count, hqueue⟩ := hshrinks.queue
  have hle := hwf.length_le
  have hlength : next.mInflightBatches.length =
      shared.mInflightBatches.length - count := by
    rw [hqueue, List.length_drop]
  have hremoved : shared.removed ≤ next.removed := by
    rw [removed, removed, hshrinks.registered]
    omega
  constructor
  · have hold := hwf.queue_eq
    have hnext : next.mInflightBatches = List.range' (shared.removed + count)
        (shared.mInflightBatches.length - count) := by
      rw [hqueue]
      nth_rewrite 1 [hold]
      rw [List.drop_range', Nat.mul_one]
    rw [hnext, List.length_range']
    by_cases hcount : count ≤ shared.mInflightBatches.length
    · congr 1
      rw [removed, removed, hlength, hshrinks.registered]
      omega
    · rw [Nat.sub_eq_zero_of_le (Nat.le_of_not_le hcount), List.range'_zero,
        List.range'_zero]
  · rw [hlength, hshrinks.registered]
    omega
  · intro ref href
    rw [hshrinks.live hwf.nodup ref href]
    apply hwf.live
    rw [hqueue] at href
    exact List.mem_of_mem_drop href
  · intro thread
    have hknows := hwf.knows thread
    rw [hshrinks.threads]
    cases hstop : shared.threads thread with
    | located =>
      rw [hstop] at hknows
      obtain ⟨hlt, hposition, hcovers⟩ := hknows
      refine ⟨?_, by omega, ?_⟩
      · rw [hshrinks.registered]
        exact hlt
      · rw [hshrinks.covers]
        exact hcovers
    | idle | lookup | single | check => trivial

theorem start (numPartialResults : Nat) (streamsToBatch : List StreamId) :
    WellFormed (.start numPartialResults streamsToBatch) where
  queue_eq := rfl
  length_le := le_rfl
  live := nofun
  knows _ := trivial

theorem setThread (hwf : WellFormed shared) (thread : Nat) {stop : Stop}
    (hknows : shared.Knows stop) :
    WellFormed (shared.setThread thread stop) := by
  refine ⟨hwf.queue_eq, hwf.length_le, hwf.live, ?_⟩
  have hsame : (shared.setThread thread stop).Knows = shared.Knows := rfl
  intro other
  rw [hsame, SharedBatcher.setThread]
  dsimp only
  by_cases hother : other = thread
  · rw [hother, Function.update_self]
    exact hknows
  · rw [Function.update_of_ne hother]
    exact hwf.knows other

theorem registerBatch (hwf : WellFormed shared)
    (frameNumber batchSize : Nat) :
    WellFormed (shared.registerBatch frameNumber batchSize) := by
  have hle := hwf.length_le
  have hremoved : (shared.registerBatch frameNumber batchSize).removed =
      shared.removed := by
    simp only [removed, SharedBatcher.registerBatch, List.length_append,
      List.length_singleton]
    omega
  constructor
  · rw [hremoved]
    simp only [SharedBatcher.registerBatch, List.length_append,
      List.length_singleton]
    rw [List.range'_concat, ← hwf.queue_eq, Nat.one_mul, removed,
      Nat.sub_add_cancel hle]
  · simp only [SharedBatcher.registerBatch, List.length_append,
      List.length_singleton]
    omega
  · intro ref href
    simp only [SharedBatcher.registerBatch] at href ⊢
    rcases List.mem_append.mp href with hold | hnew
    · rw [Function.update_of_ne (hwf.lt_registered hold).ne]
      exact hwf.live ref hold
    · rw [List.mem_singleton.mp hnew, Function.update_self]
      rfl
  · intro thread
    have hknows := hwf.knows thread
    have hthreads : (shared.registerBatch frameNumber batchSize).threads =
        shared.threads := rfl
    rw [hthreads]
    cases hstop : shared.threads thread with
    | located =>
      rw [hstop] at hknows
      obtain ⟨hlt, hposition, hcovers⟩ := hknows
      refine ⟨hlt.trans (Nat.lt_succ_self _), ?_, ?_⟩
      · rw [hremoved]
        exact hposition
      · simp only [SharedBatcher.registerBatch]
        rw [Function.update_of_ne hlt.ne]
        exact hcovers
    | idle | lookup | single | check => trivial

theorem knows_enter (hwf : WellFormed shared) (stop : Stop) :
    (shared.enter stop).1.Knows (shared.enter stop).2 := by
  cases stop with
  | idle | single | check => trivial
  | lookup call =>
    rw [enter]
    cases hfound : shared.getBatch call.frameNumber with
    | none => trivial
    | some found =>
      obtain ⟨batchIdx, ref⟩ := found
      obtain ⟨hat, hcovers⟩ := getBatch_eq_some hfound
      obtain ⟨-, hposition⟩ := hwf.getElem?_eq_some_iff.mp hat
      exact ⟨hwf.lt_registered (List.mem_of_getElem? hat),
        le_of_eq hposition, hcovers⟩
  | located call batchIdx ref =>
    have hqueue : ∀ update,
        (shared.queueCall call ref update).1.Knows
          (shared.queueCall call ref update).2 := by
      intro update
      rw [queueCall]
      split_ifs
      · trivial
      · trivial
      · trivial
    cases call with
    | processCaptureResult => exact hqueue _
    | notify msg =>
      cases msg with
      | shutter msg => exact hqueue _
      | error msg => trivial

theorem step {next : SharedBatcher} {action : Action}
    (hwf : WellFormed shared) (hstep : shared.step action = some next) :
    WellFormed next := by
  rw [SharedBatcher.step.eq_def] at hstep
  split_ifs at hstep
  cases action with
  | invoke thread call =>
    dsimp only at hstep
    split_ifs at hstep
    cases hstep
    exact hwf.setThread thread trivial
  | enter thread =>
    dsimp only at hstep
    split_ifs at hstep
    cases hstep
    exact (hwf.shrinks (shrinks_enter _)).setThread thread (hwf.knows_enter _)
  | registerBatch frameNumber batchSize =>
    cases hstep
    exact hwf.registerBatch frameNumber batchSize

end WellFormed

end SharedBatcher

end HardwareInterfaces.Camera
