import HardwareInterfaces.Camera.BatchContents

/-!
# The calls of the batcher

Every call does one of seven things to the queue of batches: it leaves the queue
alone, adds a batch, changes one batch, or takes batches off its front.
`Stage` lists them with the callbacks that they make; after a call for the last
frame of a batch the first batch is removed if it is complete.  All the
invariants below are read off this list.  `Revised` says the same of a single
batch: it is new, or a call for one of its frames has changed it, or it is as it
was before.
-/

namespace HardwareInterfaces.Camera

open ResultBatcher (Event)

/-! ## Finding a batch -/

variable {frameNumber : Nat}

theorem getBatch_eq_some {batches : List InflightBatch} {batchIdx : Nat}
    (hfound : getBatch batches frameNumber = some batchIdx) :
    ∃ before batch after, batches = before ++ batch :: after ∧
      before.length = batchIdx ∧ batch.covers frameNumber = true := by
  rw [getBatch] at hfound
  split at hfound
  · split_ifs at hfound
    obtain ⟨hlt, hcovers, -⟩ := List.findIdx?_eq_some_iff_getElem.mp hfound
    refine ⟨batches.take batchIdx, batches[batchIdx],
      batches.drop (batchIdx + 1), ?_, ?_, hcovers⟩
    · rw [← List.drop_eq_getElem_cons hlt, List.take_append_drop]
    · exact List.length_take_of_le hlt.le
  · cases hfound

/-- Frame ranges that follow each other. -/
structure Ascending (batches : List InflightBatch) : Prop where
  spans : ∀ batch ∈ batches, batch.mFirstFrame ≤ batch.mLastFrame
  ordered : batches.Pairwise fun left right =>
    left.mLastFrame < right.mFirstFrame

/-- The check against the first and the last batch misses no frame if the
batches are in order. -/
theorem not_covers_of_getBatch_eq_none {batches : List InflightBatch}
    (hascending : Ascending batches)
    (hnone : getBatch batches frameNumber = none) :
    ∀ batch ∈ batches, batch.covers frameNumber = false := by
  intro batch hbatch
  rw [Bool.eq_false_iff]
  intro hcovers
  simp only [InflightBatch.covers, Bool.and_eq_true, decide_eq_true_eq]
    at hcovers
  have hlow : ∀ first, batches.head? = some first →
      first.mFirstFrame ≤ frameNumber := by
    intro first hfirst
    obtain ⟨rest, rfl⟩ := List.head?_eq_some_iff.mp hfirst
    rcases List.mem_cons.mp hbatch with rfl | hrest
    · exact hcovers.1
    · have hlt := (List.pairwise_cons.mp hascending.ordered).1 batch hrest
      have hspan := hascending.spans first List.mem_cons_self
      exact (hspan.trans hlt.le).trans hcovers.1
  have hhigh : ∀ last, batches.getLast? = some last →
      frameNumber ≤ last.mLastFrame := by
    intro last hlast
    obtain ⟨front, rfl⟩ := List.getLast?_eq_some_iff.mp hlast
    rcases List.mem_append.mp hbatch with hfront | hend
    · have hlt := (List.pairwise_append.mp hascending.ordered).2.2 batch hfront
        last List.mem_cons_self
      have hspan := hascending.spans last
        (List.mem_append_right front List.mem_cons_self)
      exact (hcovers.2.trans hlt.le).trans hspan
    · rw [← List.mem_singleton.mp hend]
      exact hcovers.2
  rw [getBatch] at hnone
  split at hnone
  · rename_i first last hfirst hlast
    rw [if_neg (by
      rw [not_or, not_lt, not_lt]
      exact ⟨hlow first hfirst, hhigh last hlast⟩)] at hnone
    have hall := List.findIdx?_eq_none_iff.mp hnone batch hbatch
    simp [InflightBatch.covers, hcovers] at hall
  · rename_i hempty
    cases batches with
    | nil => cases hbatch
    | cons head tail =>
      have hsome := List.getLast?_isSome.mpr (List.cons_ne_nil head tail)
      obtain ⟨last, hlast⟩ := Option.isSome_iff_exists.mp hsome
      exact hempty head last rfl hlast

variable {before after : List InflightBatch} {batch : InflightBatch}

/-- Only one batch covers a frame. -/
theorem Ascending.not_covers
    (hascending : Ascending (before ++ batch :: after))
    (hcovers : batch.covers frameNumber = true) :
    ∀ other ∈ before ++ after, other.covers frameNumber = false := by
  obtain ⟨-, hcons, hbefore⟩ := List.pairwise_append.mp hascending.ordered
  obtain ⟨hafter, -⟩ := List.pairwise_cons.mp hcons
  simp only [InflightBatch.covers, Bool.and_eq_true, decide_eq_true_eq]
    at hcovers
  intro other hother
  rw [InflightBatch.covers, Bool.and_eq_false_iff]
  rcases List.mem_append.mp hother with hmem | hmem
  · have hlt := hbefore other hmem batch List.mem_cons_self
    exact .inr (decide_eq_false (by omega))
  · have hlt := hafter other hmem
    exact .inl (decide_eq_false (by omega))

/-! ## What a call does to the queue -/

/-- What a call makes of the queue, before a complete first batch is removed,
and the callbacks it makes. -/
inductive Stage (batcher : ResultBatcher) :
    Event → List InflightBatch → List Callback → Prop where
  | registerBatch (frameNumber batchSize : Nat) :
      Stage batcher (.registerBatch frameNumber batchSize)
        (batcher.mInflightBatches ++
          [.new frameNumber batchSize batcher.mNumPartialResults
            batcher.mStreamsToBatch]) []
  | setBatchedStreams (streamsToBatch : List StreamId) :
      Stage batcher (.setBatchedStreams streamsToBatch)
        batcher.mInflightBatches []
  | notifySingle (msg : NotifyMsg)
      (hnone : getBatch batcher.mInflightBatches msg.frameNumber = none) :
      Stage batcher (.notify msg) batcher.mInflightBatches [.notify [msg]]
  | resultSingle (result : CaptureResult)
      (hnone : getBatch batcher.mInflightBatches result.frameNumber = none) :
      Stage batcher (.processCaptureResult result) batcher.mInflightBatches
        [.processCaptureResult [result]]
  | queueShutter (msg : ShutterMsg) (before : List InflightBatch)
      (batch : InflightBatch) (after : List InflightBatch)
      (hqueue : batcher.mInflightBatches = before ++ batch :: after)
      (hcovers : batch.covers msg.frameNumber = true) :
      Stage batcher (.notify (.shutter msg))
        (before ++ (batch.queueShutter msg).2 :: after)
        (batch.queueShutter msg).1
  | queueResult (result : CaptureResult) (before : List InflightBatch)
      (batch : InflightBatch) (after : List InflightBatch)
      (hqueue : batcher.mInflightBatches = before ++ batch :: after)
      (hcovers : batch.covers result.frameNumber = true) :
      Stage batcher (.processCaptureResult result)
        (before ++ (batch.queueResult result).2 :: after)
        (batch.queueResult result).1
  | flush (msg : ErrorMsg) (before : List InflightBatch)
      (batch : InflightBatch) (after : List InflightBatch)
      (hqueue : batcher.mInflightBatches = before ++ batch :: after)
      (hcovers : batch.covers msg.frameNumber = true) :
      Stage batcher (.notify (.error msg)) after
        (((before ++ [batch]).flatMap fun flushed =>
            (flushed.flush batcher.mStreamsToBatch
              batcher.mNumPartialResults).1) ++
          [.notify [.error msg]])

/-- The queue after the removal of a complete first batch, if there is one. -/
def Settles (staged queue : List InflightBatch) : Prop :=
  queue = staged ∨ ∃ first, staged = first :: queue ∧ first.allDelivered = true

theorem settles_checkAndRemoveFirstBatch (batcher : ResultBatcher) :
    Settles batcher.mInflightBatches
      batcher.checkAndRemoveFirstBatch.mInflightBatches := by
  rw [ResultBatcher.checkAndRemoveFirstBatch]
  split
  · exact .inl rfl
  · rename_i batch rest hqueue
    split_ifs with hdelivered
    · exact .inr ⟨batch, hqueue, hdelivered⟩
    · exact .inl rfl

theorem checkAndRemoveFirstBatch_frame (batcher : ResultBatcher) :
    ∃ queue, batcher.checkAndRemoveFirstBatch =
      { batcher with mInflightBatches := queue } := by
  rw [ResultBatcher.checkAndRemoveFirstBatch]
  split
  · exact ⟨_, rfl⟩
  · split_ifs
    · exact ⟨_, rfl⟩
    · exact ⟨_, rfl⟩

theorem flushBatches_eq (flushed : List InflightBatch)
    (batcher : ResultBatcher) (rest : List InflightBatch)
    (hqueue : batcher.mInflightBatches = flushed ++ rest) :
    ResultBatcher.flushBatches flushed.length batcher =
      { batcher with
        mInflightBatches := rest
        callbacks := batcher.callbacks ++ flushed.flatMap fun batch =>
          (batch.flush batcher.mStreamsToBatch
            batcher.mNumPartialResults).1 } := by
  induction flushed generalizing batcher with
  | nil =>
    have hrest : batcher.mInflightBatches = rest := hqueue
    subst hrest
    simp [ResultBatcher.flushBatches]
  | cons batch flushed ih =>
    rw [List.length_cons, ResultBatcher.flushBatches, hqueue, List.cons_append]
    dsimp only
    rw [ih _ rfl]
    simp [ResultBatcher.send]

/-- The streams that are batched after a call. -/
def streamsAfter (batcher : ResultBatcher) : Event → List StreamId
  | .setBatchedStreams streamsToBatch => streamsToBatch
  | _ => batcher.mStreamsToBatch

/-- A call goes through one of the stages. -/
structure Performs (batcher : ResultBatcher) (event : Event)
    (staged : List InflightBatch) (sent : List Callback)
    (next : ResultBatcher) : Prop where
  stage : Stage batcher event staged sent
  settles : Settles staged next.mInflightBatches
  callbacks : next.callbacks = batcher.callbacks ++ sent
  numPartialResults : next.mNumPartialResults = batcher.mNumPartialResults
  streamsToBatch : next.mStreamsToBatch = streamsAfter batcher event

variable {batcher : ResultBatcher} {event : Event}

/-- The change of one batch, with or without the check that follows it. -/
theorem performs_updateBatch {update : List Callback × InflightBatch}
    (hqueue : batcher.mInflightBatches = before ++ batch :: after)
    (hstage : Stage batcher event (before ++ update.2 :: after) update.1)
    (hstreams : streamsAfter batcher event = batcher.mStreamsToBatch)
    (last : Prop) [Decidable last] :
    Performs batcher event (before ++ update.2 :: after) update.1
      (if last then
        (batcher.updateBatch before.length update).checkAndRemoveFirstBatch
      else batcher.updateBatch before.length update) := by
  have hupdate : (batcher.updateBatch before.length update).mInflightBatches =
      before ++ update.2 :: after := by
    simp [ResultBatcher.updateBatch, hqueue]
  split_ifs
  · obtain ⟨queue, hframe⟩ := checkAndRemoveFirstBatch_frame
      (batcher.updateBatch before.length update)
    refine ⟨hstage, ?_, ?_, ?_, ?_⟩
    · rw [← hupdate]
      exact settles_checkAndRemoveFirstBatch _
    · rw [hframe]
      rfl
    · rw [hframe]
      rfl
    · rw [hframe, hstreams]
      rfl
  · exact ⟨hstage, .inl hupdate, rfl, rfl, hstreams.symm⟩

namespace ResultBatcher

variable {batcher : ResultBatcher}

theorem notify_single {msg : NotifyMsg}
    (hnone : getBatch batcher.mInflightBatches msg.frameNumber = none) :
    batcher.notify msg = batcher.send [.notify [msg]] := by
  rw [notify, hnone]

variable {batchIdx : Nat}

theorem notify_error {msg : ErrorMsg}
    (hfound : getBatch batcher.mInflightBatches msg.frameNumber =
      some batchIdx) :
    batcher.notify (.error msg) =
      (flushBatches (batchIdx + 1) batcher).send [.notify [.error msg]] := by
  have hframe : (NotifyMsg.error msg).frameNumber = msg.frameNumber := rfl
  rw [notify, hframe, hfound]

theorem notify_shutter {msg : ShutterMsg} {batch : InflightBatch}
    (hfound : getBatch batcher.mInflightBatches msg.frameNumber =
      some batchIdx)
    (hbatch : batcher.mInflightBatches[batchIdx]? = some batch)
    (hlive : batch.mRemoved = false) :
    batcher.notify (.shutter msg) =
      if msg.frameNumber = batch.mLastFrame then
        (batcher.updateBatch batchIdx
          (batch.queueShutter msg)).checkAndRemoveFirstBatch
      else batcher.updateBatch batchIdx (batch.queueShutter msg) := by
  have hframe : (NotifyMsg.shutter msg).frameNumber = msg.frameNumber := rfl
  rw [notify, hframe, hfound]
  dsimp only
  rw [hbatch]
  dsimp only
  rw [hlive, if_neg Bool.false_ne_true]

theorem processCaptureResult_single {result : CaptureResult}
    (hnone : getBatch batcher.mInflightBatches result.frameNumber = none) :
    batcher.processCaptureResult result =
      batcher.send [.processCaptureResult [result]] := by
  rw [processCaptureResult, hnone]
  rfl

theorem processCaptureResult_batched {result : CaptureResult}
    {batch : InflightBatch}
    (hfound : getBatch batcher.mInflightBatches result.frameNumber =
      some batchIdx)
    (hbatch : batcher.mInflightBatches[batchIdx]? = some batch)
    (hlive : batch.mRemoved = false) :
    batcher.processCaptureResult result =
      if result.frameNumber = batch.mLastFrame then
        (batcher.updateBatch batchIdx
          (batch.queueResult result)).checkAndRemoveFirstBatch
      else batcher.updateBatch batchIdx (batch.queueResult result) := by
  rw [processCaptureResult, hfound]
  dsimp only
  rw [hbatch]
  dsimp only
  rw [hlive, if_neg Bool.false_ne_true]

end ResultBatcher

theorem performs_notify (msg : NotifyMsg)
    (hlive : ∀ batch ∈ batcher.mInflightBatches, batch.mRemoved = false) :
    ∃ staged sent, Performs batcher (.notify msg) staged sent
      (batcher.notify msg) := by
  cases hfound : getBatch batcher.mInflightBatches msg.frameNumber with
  | none =>
    rw [ResultBatcher.notify_single hfound]
    exact ⟨_, _, .notifySingle msg hfound, .inl rfl, rfl, rfl, rfl⟩
  | some batchIdx =>
    obtain ⟨before, batch, after, hqueue, rfl, hcovers⟩ :=
      getBatch_eq_some hfound
    cases msg with
    | error msg =>
      have hflushed := flushBatches_eq (before ++ [batch]) batcher after
        (by simp [hqueue])
      rw [List.length_append, List.length_singleton] at hflushed
      rw [ResultBatcher.notify_error hfound, hflushed]
      refine ⟨_, _, .flush msg before batch after hqueue hcovers,
        .inl rfl, ?_, rfl, rfl⟩
      simp [ResultBatcher.send]
    | shutter msg =>
      rw [ResultBatcher.notify_shutter hfound (by simp [hqueue])
        (hlive batch (by simp [hqueue]))]
      exact ⟨_, _, performs_updateBatch hqueue
        (.queueShutter msg before batch after hqueue hcovers) rfl _⟩

theorem performs_processCaptureResult (result : CaptureResult)
    (hlive : ∀ batch ∈ batcher.mInflightBatches, batch.mRemoved = false) :
    ∃ staged sent, Performs batcher (.processCaptureResult result) staged sent
      (batcher.processCaptureResult result) := by
  cases hfound : getBatch batcher.mInflightBatches result.frameNumber with
  | none =>
    rw [ResultBatcher.processCaptureResult_single hfound]
    exact ⟨_, _, .resultSingle result hfound, .inl rfl, rfl, rfl, rfl⟩
  | some batchIdx =>
    obtain ⟨before, batch, after, hqueue, rfl, hcovers⟩ :=
      getBatch_eq_some hfound
    rw [ResultBatcher.processCaptureResult_batched hfound
      (by simp [hqueue]) (hlive batch (by simp [hqueue]))]
    exact ⟨_, _, performs_updateBatch hqueue
      (.queueResult result before batch after hqueue hcovers) rfl _⟩

theorem exists_performs (event : Event)
    (hlive : ∀ batch ∈ batcher.mInflightBatches, batch.mRemoved = false) :
    ∃ staged sent, Performs batcher event staged sent
      (batcher.apply event) := by
  cases event with
  | registerBatch frameNumber batchSize =>
    exact ⟨_, _, .registerBatch frameNumber batchSize, .inl rfl,
      (List.append_nil _).symm, rfl, rfl⟩
  | setBatchedStreams streamsToBatch =>
    exact ⟨_, _, .setBatchedStreams streamsToBatch, .inl rfl,
      (List.append_nil _).symm, rfl, rfl⟩
  | notify msg => exact performs_notify msg hlive
  | processCaptureResult result =>
    exact performs_processCaptureResult result hlive

/-! ## The frames of the batches -/

namespace InflightBatch

/-- What no call changes about a batch in the queue. -/
def shape (batch : InflightBatch) :
    Nat × Nat × Nat × Nat × Bool :=
  (batch.mFirstFrame, batch.mLastFrame, batch.mBatchSize,
    batch.mNumPartialResults, batch.mRemoved)

theorem shape_queueShutter (batch : InflightBatch) (msg : ShutterMsg) :
    (batch.queueShutter msg).2.shape = batch.shape := by
  obtain ⟨sent, msgs, hframe⟩ := queueShutter_frame batch msg
  rw [hframe]
  rfl

theorem shape_queueResult (batch : InflightBatch) (result : CaptureResult) :
    (batch.queueResult result).2.shape = batch.shape := by
  obtain ⟨progress, mds, bufs, hframe⟩ := queueResult_frame batch result
  rw [hframe]
  rfl

theorem batches_queueShutter (batch : InflightBatch) (msg : ShutterMsg) :
    (batch.queueShutter msg).2.batches = batch.batches := by
  obtain ⟨sent, msgs, hframe⟩ := queueShutter_frame batch msg
  rw [hframe]
  rfl

theorem lookup_new (frameNumber batchSize numPartialResults : Nat)
    (streamsToBatch : List StreamId) (id : StreamId) :
    (new frameNumber batchSize numPartialResults
        streamsToBatch).mBatchBufs.lookup id =
      if id ∈ streamsToBatch then some {} else none := by
  rw [new]
  exact OrderedMap.lookup_foldl_insert .empty streamsToBatch
    (fun _ => ({} : BufferBatch)) id

end InflightBatch

/-- The first frames and sizes of the batches registered so far. -/
def registrations (events : List Event) : List (Nat × Nat) :=
  events.filterMap fun
    | .registerBatch frameNumber batchSize => some (frameNumber, batchSize)
    | _ => none

/-- A batch has frames, its frame numbers do not wrap around, and it comes after
the batches registered before. -/
def RegistersInOrder (observed : Observed) : Event → Prop
  | .registerBatch frameNumber batchSize =>
    0 < batchSize ∧ frameNumber + batchSize ≤ 2 ^ 32 ∧
      ∀ earlier ∈ registrations observed.events,
        earlier.1 + earlier.2 ≤ frameNumber
  | _ => True

/-- The streams are not reconfigured while a batch is in flight. -/
def ReconfiguresIdle (observed : Observed) : Event → Prop
  | .setBatchedStreams _ => observed.batcher.mInflightBatches = []
  | _ => True

/-- The batch is one of the registered ones. -/
structure KeptBatch (events : List Event) (numPartialResults : Nat)
    (streamsToBatch : List StreamId) (batch : InflightBatch) : Prop where
  registered : (batch.mFirstFrame, batch.mBatchSize) ∈ registrations events
  size_pos : 0 < batch.mBatchSize
  no_wrap : batch.mFirstFrame + batch.mBatchSize ≤ 2 ^ 32
  last_eq : batch.mLastFrame + 1 = batch.mFirstFrame + batch.mBatchSize
  numPartialResults_eq : batch.mNumPartialResults = numPartialResults
  live : batch.mRemoved = false
  batches_iff : ∀ id, batch.batches id = true ↔ id ∈ streamsToBatch

structure KeptQueue (events : List Event) (numPartialResults : Nat)
    (streamsToBatch : List StreamId) (queue : List InflightBatch) : Prop where
  kept : ∀ batch ∈ queue,
    KeptBatch events numPartialResults streamsToBatch batch
  ordered : queue.Pairwise fun left right =>
    left.mLastFrame < right.mFirstFrame

/-- The queue holds registered batches in order, all of the current streams. -/
structure Kept (observed : Observed) : Prop where
  queue : KeptQueue observed.events observed.batcher.mNumPartialResults
    observed.batcher.mStreamsToBatch observed.batcher.mInflightBatches

variable {events : List Event} {numPartialResults : Nat}
  {streamsToBatch : List StreamId}

theorem KeptBatch.congr {other : InflightBatch}
    (hkept : KeptBatch events numPartialResults streamsToBatch batch)
    (hshape : other.shape = batch.shape)
    (hbatches : other.batches = batch.batches) :
    KeptBatch events numPartialResults streamsToBatch other := by
  simp only [InflightBatch.shape, Prod.mk.injEq] at hshape
  obtain ⟨hfirst, hlast, hsize, hnum, hremoved⟩ := hshape
  constructor
  · rw [hfirst, hsize]
    exact hkept.registered
  · rw [hsize]
    exact hkept.size_pos
  · rw [hfirst, hsize]
    exact hkept.no_wrap
  · rw [hfirst, hsize, hlast]
    exact hkept.last_eq
  · rw [hnum]
    exact hkept.numPartialResults_eq
  · rw [hremoved]
    exact hkept.live
  · rw [hbatches]
    exact hkept.batches_iff

theorem KeptBatch.covers_iff
    (hkept : KeptBatch events numPartialResults streamsToBatch batch)
    (frameNumber : Nat) :
    batch.covers frameNumber = true ↔ batch.mFirstFrame ≤ frameNumber ∧
      frameNumber < batch.mFirstFrame + batch.mBatchSize := by
  have hlast := hkept.last_eq
  simp only [InflightBatch.covers, Bool.and_eq_true, decide_eq_true_eq]
  omega

theorem registrations_append (left right : List Event) :
    registrations (left ++ right) =
      registrations left ++ registrations right :=
  List.filterMap_append

theorem KeptBatch.mono
    (hkept : KeptBatch events numPartialResults streamsToBatch batch)
    (event : Event) :
    KeptBatch (events ++ [event]) numPartialResults streamsToBatch batch :=
  { hkept with
    registered := by
      rw [registrations_append]
      exact List.mem_append_left _ hkept.registered }

variable {queue : List InflightBatch}

theorem KeptQueue.mono
    (hkept : KeptQueue events numPartialResults streamsToBatch queue)
    (event : Event) :
    KeptQueue (events ++ [event]) numPartialResults streamsToBatch queue :=
  ⟨fun batch hbatch => (hkept.kept batch hbatch).mono event, hkept.ordered⟩

theorem KeptQueue.sublist {rest : List InflightBatch}
    (hkept : KeptQueue events numPartialResults streamsToBatch queue)
    (hrest : rest.Sublist queue) :
    KeptQueue events numPartialResults streamsToBatch rest :=
  ⟨fun batch hbatch => hkept.kept batch (hrest.subset hbatch),
    hkept.ordered.sublist hrest⟩

/-- One batch of the queue may change within its shape. -/
theorem KeptQueue.replace {other : InflightBatch}
    (hkept : KeptQueue events numPartialResults streamsToBatch
      (before ++ batch :: after))
    (hshape : other.shape = batch.shape)
    (hbatches : other.batches = batch.batches) :
    KeptQueue events numPartialResults streamsToBatch
      (before ++ other :: after) := by
  constructor
  · intro found hfound
    rcases List.mem_append.mp hfound with hbefore | hcons
    · exact hkept.kept found (List.mem_append_left _ hbefore)
    · rcases List.mem_cons.mp hcons with rfl | hafter
      · exact (hkept.kept batch (by simp)).congr hshape hbatches
      · exact hkept.kept found (by simp [hafter])
  · have hordered := hkept.ordered
    simp only [InflightBatch.shape, Prod.mk.injEq] at hshape
    simpa [List.pairwise_append, hshape.1, hshape.2.1] using hordered

theorem keptBatch_new {batchSize : Nat}
    (hregistered : (frameNumber, batchSize) ∈ registrations events)
    (hpos : 0 < batchSize) (hwrap : frameNumber + batchSize ≤ 2 ^ 32)
    (numPartialResults : Nat) (streamsToBatch : List StreamId) :
    KeptBatch events numPartialResults streamsToBatch
      (.new frameNumber batchSize numPartialResults streamsToBatch) where
  registered := hregistered
  size_pos := hpos
  no_wrap := hwrap
  last_eq := by
    simp only [InflightBatch.new]
    omega
  numPartialResults_eq := rfl
  live := rfl
  batches_iff id := by
    rw [InflightBatch.batches, InflightBatch.lookup_new]
    split_ifs with hid
    · exact iff_of_true rfl hid
    · exact iff_of_false Bool.false_ne_true hid

theorem Settles.sublist {staged : List InflightBatch}
    (hsettles : Settles staged queue) : queue.Sublist staged := by
  rcases hsettles with rfl | ⟨first, rfl, -⟩
  · exact List.Sublist.refl _
  · exact List.sublist_cons_self first queue

variable {observed : Observed} {sent : List Callback}

/-- The batches that a call leaves before the removal of a complete one. -/
theorem Kept.staged {staged : List InflightBatch} (hkept : Kept observed)
    (horder : RegistersInOrder observed event)
    (hidle : ReconfiguresIdle observed event)
    (hstage : Stage observed.batcher event staged sent) :
    KeptQueue (observed.events ++ [event])
      observed.batcher.mNumPartialResults
      (streamsAfter observed.batcher event) staged := by
  have hqueue := hkept.queue.mono event
  cases hstage with
  | registerBatch frameNumber batchSize =>
    obtain ⟨hpos, hwrap, hlater⟩ := horder
    have hregistered : (frameNumber, batchSize) ∈ registrations
        (observed.events ++ [.registerBatch frameNumber batchSize]) := by
      rw [registrations_append]
      exact List.mem_append_right _ List.mem_cons_self
    constructor
    · intro batch hbatch
      rcases List.mem_append.mp hbatch with hold | hnew
      · exact hqueue.kept batch hold
      · rw [List.mem_singleton.mp hnew]
        exact keptBatch_new hregistered hpos hwrap _ _
    · refine List.pairwise_append.mpr
        ⟨hqueue.ordered, List.pairwise_singleton _ _, ?_⟩
      intro batch hbatch new hnew
      rw [List.mem_singleton.mp hnew]
      have hbefore := hkept.queue.kept batch hbatch
      have hle := hlater _ hbefore.registered
      have hlast := hbefore.last_eq
      simp only [InflightBatch.new]
      omega
  | setBatchedStreams =>
    rw [hidle]
    exact ⟨nofun, .nil⟩
  | notifySingle | resultSingle => exact hqueue
  | queueShutter msg before batch after hbatches =>
    rw [hbatches] at hqueue
    exact hqueue.replace (batch.shape_queueShutter msg)
      (batch.batches_queueShutter msg)
  | queueResult result before batch after hbatches =>
    rw [hbatches] at hqueue
    exact hqueue.replace (batch.shape_queueResult result)
      (batch.batches_queueResult result)
  | flush msg before batch after hbatches =>
    rw [hbatches] at hqueue
    exact hqueue.sublist (by simp)

theorem Kept.step {staged : List InflightBatch} {next : ResultBatcher}
    (hkept : Kept observed) (horder : RegistersInOrder observed event)
    (hidle : ReconfiguresIdle observed event)
    (hperforms : Performs observed.batcher event staged sent next) :
    Kept ⟨next, observed.events ++ [event]⟩ := by
  constructor
  have hqueue := hkept.staged horder hidle hperforms.stage
  dsimp only
  rw [hperforms.numPartialResults, hperforms.streamsToBatch]
  exact hqueue.sublist hperforms.settles.sublist

theorem kept_start (numPartialResults : Nat) :
    Kept (.start numPartialResults) :=
  ⟨⟨nofun, .nil⟩⟩

theorem Kept.ascending (hkept : Kept observed) :
    Ascending observed.batcher.mInflightBatches where
  spans batch hbatch := by
    have hbatch := hkept.queue.kept batch hbatch
    have hpos := hbatch.size_pos
    have hlast := hbatch.last_eq
    omega
  ordered := hkept.queue.ordered

/-! ## One batch after a call -/

/-- The frame that a call of the HAL is for. -/
def frameOf : Event → Option Nat
  | .notify msg => some msg.frameNumber
  | .processCaptureResult result => some result.frameNumber
  | _ => none

/-- What a call makes of a batch that stays in the queue. -/
inductive Revised (batcher : ResultBatcher) : Event → InflightBatch → Prop where
  | registered (frameNumber batchSize : Nat) :
      Revised batcher (.registerBatch frameNumber batchSize)
        (.new frameNumber batchSize batcher.mNumPartialResults
          batcher.mStreamsToBatch)
  | untouched (event : Event) (batch : InflightBatch)
      (hbatch : batch ∈ batcher.mInflightBatches)
      (hframe : ∀ frameNumber ∈ frameOf event,
        batch.covers frameNumber = false) :
      Revised batcher event batch
  | shutter (msg : ShutterMsg) (batch : InflightBatch)
      (hbatch : batch ∈ batcher.mInflightBatches)
      (hcovers : batch.covers msg.frameNumber = true) :
      Revised batcher (.notify (.shutter msg)) (batch.queueShutter msg).2
  | result (result : CaptureResult) (batch : InflightBatch)
      (hbatch : batch ∈ batcher.mInflightBatches)
      (hcovers : batch.covers result.frameNumber = true) :
      Revised batcher (.processCaptureResult result)
        (batch.queueResult result).2

/-- The batches around the one that a call is for. -/
theorem revised_around {revised : InflightBatch}
    (hascending : Ascending batcher.mInflightBatches)
    (hqueue : batcher.mInflightBatches = before ++ batch :: after)
    (hevent : frameOf event = some frameNumber)
    (hcovers : batch.covers frameNumber = true)
    (hrevised : Revised batcher event revised) :
    ∀ other ∈ before ++ revised :: after, Revised batcher event other := by
  rw [hqueue] at hascending
  have hothers := hascending.not_covers hcovers
  intro other hother
  have hcases : other = revised ∨ other ∈ before ++ after := by
    simp only [List.mem_append, List.mem_cons] at hother ⊢
    tauto
  rcases hcases with rfl | haround
  · exact hrevised
  · have hmem : other ∈ batcher.mInflightBatches := by
      simp only [hqueue, List.mem_append, List.mem_cons] at haround ⊢
      tauto
    refine .untouched event other hmem ?_
    intro found hfound
    rw [hevent] at hfound
    cases hfound
    exact hothers other haround

theorem Stage.revised {staged : List InflightBatch}
    (hstage : Stage batcher event staged sent)
    (hascending : Ascending batcher.mInflightBatches) :
    ∀ batch ∈ staged, Revised batcher event batch := by
  cases hstage with
  | registerBatch frameNumber batchSize =>
    intro batch hbatch
    rcases List.mem_append.mp hbatch with hold | hnew
    · exact .untouched _ batch hold nofun
    · rw [List.mem_singleton.mp hnew]
      exact .registered frameNumber batchSize
  | setBatchedStreams =>
    intro batch hbatch
    exact .untouched _ batch hbatch nofun
  | notifySingle msg hnone =>
    intro batch hbatch
    refine .untouched _ batch hbatch ?_
    rintro _ ⟨⟩
    exact not_covers_of_getBatch_eq_none hascending hnone batch hbatch
  | resultSingle result hnone =>
    intro batch hbatch
    refine .untouched _ batch hbatch ?_
    rintro _ ⟨⟩
    exact not_covers_of_getBatch_eq_none hascending hnone batch hbatch
  | queueShutter msg before batch after hqueue hcovers =>
    exact revised_around hascending hqueue rfl hcovers
      (.shutter msg batch (by simp [hqueue]) hcovers)
  | queueResult result before batch after hqueue hcovers =>
    exact revised_around hascending hqueue rfl hcovers
      (.result result batch (by simp [hqueue]) hcovers)
  | flush msg before batch _ hqueue hcovers =>
    rw [hqueue] at hascending
    have hothers := hascending.not_covers hcovers
    intro other hother
    refine .untouched _ other (by simp [hqueue, hother]) ?_
    rintro _ ⟨⟩
    exact hothers other (List.mem_append_right before hother)

/-- Every call goes through a stage. -/
theorem Kept.exists_performs {next : Observed} (hkept : Kept observed)
    (hstep : observed.step event = some next) :
    ∃ staged sent batcher,
      next = ⟨batcher, observed.events ++ [event]⟩ ∧
        Performs observed.batcher event staged sent batcher := by
  cases hstep
  obtain ⟨staged, sent, hperforms⟩ := Camera.exists_performs event
    fun batch hbatch => (hkept.queue.kept batch hbatch).live
  exact ⟨staged, sent, _, rfl, hperforms⟩

end HardwareInterfaces.Camera
