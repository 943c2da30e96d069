import HardwareInterfaces.Camera.BatcherSteps

/-!
# Nothing lost, nothing repeated

A `Kind` says where the items of one kind are: in the callbacks made so far, in
the batches of the queue, in the calls received.  The kind is balanced if the
items delivered and the items held are together the items received, each as
often.  If the functions on one batch keep the balance, so does every call,
except that a batch which is taken off the queue must not hold items any more.
-/

namespace HardwareInterfaces.Camera

open ResultBatcher (Event)

structure Kind (Item : Type*) where
  delivered : List Callback → List Item
  held : InflightBatch → List Item
  passed : Event → List Item

namespace Kind

variable {Item : Type*}

/-- The items that the batches of a queue hold. -/
def heldIn (kind : Kind Item) (queue : List InflightBatch) : List Item :=
  queue.flatMap kind.held

def Balanced (kind : Kind Item) (observed : Observed) : Prop :=
  (kind.delivered observed.batcher.callbacks ++
      kind.heldIn observed.batcher.mInflightBatches).Perm
    (observed.events.flatMap kind.passed)

instance decidableBalanced [DecidableEq Item] (kind : Kind Item) :
    DecidablePred kind.Balanced :=
  fun _ => inferInstanceAs (Decidable (List.Perm _ _))

/-- The functions on one batch keep the balance; for a result the batch may have
to be ready for it, and an error may ask something of the batched streams. -/
structure Lawful (kind : Kind Item)
    (accepts : InflightBatch → CaptureResult → Prop)
    (streamsOk : List StreamId → Prop) : Prop where
  delivered_nil : kind.delivered [] = []
  delivered_append : ∀ left right,
    kind.delivered (left ++ right) =
      kind.delivered left ++ kind.delivered right
  delivered_notify : ∀ msg,
    kind.delivered [.notify [msg]] = kind.passed (.notify msg)
  delivered_result : ∀ result,
    kind.delivered [.processCaptureResult [result]] =
      kind.passed (.processCaptureResult result)
  passed_error : ∀ msg, kind.passed (.notify (.error msg)) = []
  passed_registerBatch : ∀ frameNumber batchSize,
    kind.passed (.registerBatch frameNumber batchSize) = []
  passed_setBatchedStreams : ∀ streamsToBatch,
    kind.passed (.setBatchedStreams streamsToBatch) = []
  held_new : ∀ frameNumber batchSize numPartialResults streamsToBatch,
    kind.held (.new frameNumber batchSize numPartialResults streamsToBatch) =
      []
  queueShutter : ∀ (batch : InflightBatch) (msg : ShutterMsg),
    (kind.delivered (batch.queueShutter msg).1 ++
        kind.held (batch.queueShutter msg).2).Perm
      (kind.held batch ++ kind.passed (.notify (.shutter msg)))
  queueResult : ∀ (batch : InflightBatch) (result : CaptureResult),
    accepts batch result →
      (kind.delivered (batch.queueResult result).1 ++
          kind.held (batch.queueResult result).2).Perm
        (kind.held batch ++ kind.passed (.processCaptureResult result))
  flush : ∀ (batch : InflightBatch) (streams : List StreamId)
      (numPartialResults : Nat), streamsOk streams →
    (kind.delivered (batch.flush streams numPartialResults).1 ++
        kind.held (batch.flush streams numPartialResults).2).Perm
      (kind.held batch)

variable {kind : Kind Item}
variable {accepts : InflightBatch → CaptureResult → Prop}
variable {streamsOk : List StreamId → Prop}

theorem balanced_start (hlaw : kind.Lawful accepts streamsOk)
    (numPartialResults : Nat) :
    kind.Balanced (.start numPartialResults) := by
  simp [Balanced, Observed.start, ResultBatcher.new, heldIn, hlaw.delivered_nil]

/-- A call that changes one batch. -/
theorem perm_replace (before after : List InflightBatch)
    {batch : InflightBatch} {update : List Callback × InflightBatch}
    {items : List Item}
    (hupdate : (kind.delivered update.1 ++ kind.held update.2).Perm
      (kind.held batch ++ items)) :
    (kind.delivered update.1 ++
        kind.heldIn (before ++ update.2 :: after)).Perm
      (kind.heldIn (before ++ batch :: after) ++ items) := by
  simp only [heldIn, List.flatMap_append, List.flatMap_cons]
  calc List.Perm
        (kind.delivered update.1 ++ (before.flatMap kind.held ++
          (kind.held update.2 ++ after.flatMap kind.held)))
        (before.flatMap kind.held ++ ((kind.delivered update.1 ++
          kind.held update.2) ++ after.flatMap kind.held)) := by
        rw [List.append_assoc]
        exact List.perm_append_comm_assoc _ _ _
    List.Perm _ (before.flatMap kind.held ++ ((kind.held batch ++ items) ++
          after.flatMap kind.held)) :=
        (hupdate.append_right _).append_left _
    List.Perm _ (before.flatMap kind.held ++ (kind.held batch ++
          after.flatMap kind.held) ++ items) := by
        rw [List.append_assoc, List.append_assoc, List.append_assoc]
        exact (List.perm_append_comm.append_left _).append_left _

/-- Batches that hold nothing after an error have sent all that they held. -/
theorem perm_flush (hlaw : kind.Lawful accepts streamsOk)
    {streams : List StreamId} (hstreams : streamsOk streams)
    {numPartialResults : Nat} {flushed : List InflightBatch}
    (hempty : ∀ batch ∈ flushed,
      kind.held (batch.flush streams numPartialResults).2 = []) :
    (kind.delivered (flushed.flatMap fun batch =>
        (batch.flush streams numPartialResults).1)).Perm
      (kind.heldIn flushed) := by
  induction flushed with
  | nil => exact .of_eq hlaw.delivered_nil
  | cons batch rest ih =>
    obtain ⟨hfirst, hrest⟩ := List.forall_mem_cons.mp hempty
    have hbatch := hlaw.flush batch streams numPartialResults hstreams
    rw [hfirst, List.append_nil] at hbatch
    rw [List.flatMap_cons, hlaw.delivered_append]
    exact hbatch.append (ih hrest)

/-- What a call requires to keep the balance, before a complete batch is
removed. -/
structure Handled (kind : Kind Item)
    (accepts : InflightBatch → CaptureResult → Prop)
    (streamsOk : List StreamId → Prop)
    (batcher : ResultBatcher) (event : Event) : Prop where
  streams : streamsOk batcher.mStreamsToBatch
  accepts : ∀ result, event = .processCaptureResult result →
    ∀ batch ∈ batcher.mInflightBatches,
      batch.covers result.frameNumber = true → accepts batch result
  flushed : ∀ batch ∈ batcher.mInflightBatches,
    kind.held (batch.flush batcher.mStreamsToBatch
      batcher.mNumPartialResults).2 = []

variable {staged : List InflightBatch}

theorem perm_stage (hlaw : kind.Lawful accepts streamsOk)
    {batcher : ResultBatcher} {event : Event} {sent : List Callback}
    (hstage : Stage batcher event staged sent)
    (hhandled : kind.Handled accepts streamsOk batcher event) :
    (kind.delivered sent ++ kind.heldIn staged).Perm
      (kind.heldIn batcher.mInflightBatches ++ kind.passed event) := by
  cases hstage with
  | registerBatch =>
    rw [hlaw.delivered_nil, hlaw.passed_registerBatch]
    simp [heldIn, hlaw.held_new]
  | setBatchedStreams =>
    rw [hlaw.delivered_nil, hlaw.passed_setBatchedStreams, List.append_nil]
    rfl
  | notifySingle =>
    rw [hlaw.delivered_notify]
    exact List.perm_append_comm
  | resultSingle =>
    rw [hlaw.delivered_result]
    exact List.perm_append_comm
  | queueShutter msg before batch after hqueue =>
    rw [hqueue]
    exact perm_replace before after (hlaw.queueShutter batch msg)
  | queueResult result before batch after hqueue hcovers =>
    have haccepts := hhandled.accepts result rfl batch
      (by simp [hqueue]) hcovers
    rw [hqueue]
    exact perm_replace before after (hlaw.queueResult batch result haccepts)
  | flush msg before batch _ hqueue =>
    have hsplit : batcher.mInflightBatches = (before ++ [batch]) ++ staged := by
      simp [hqueue]
    have hflushed := perm_flush hlaw hhandled.streams
      (fun found hfound => hhandled.flushed found
        (hsplit ▸ List.mem_append_left staged hfound))
    have hheld : kind.heldIn batcher.mInflightBatches =
        kind.heldIn (before ++ [batch]) ++ kind.heldIn staged := by
      rw [hsplit, heldIn, List.flatMap_append]
      rfl
    rw [hlaw.delivered_append, hlaw.delivered_notify, hlaw.passed_error,
      List.append_nil, List.append_nil, hheld]
    exact hflushed.append_right _

/-- The removal of a complete batch that holds nothing. -/
theorem heldIn_of_settles {queue : List InflightBatch}
    (hsettles : Settles staged queue)
    (hcomplete : ∀ batch ∈ staged, batch.allDelivered = true →
      kind.held batch = []) : kind.heldIn staged = kind.heldIn queue := by
  rcases hsettles with rfl | ⟨first, rfl, hdelivered⟩
  · rfl
  · rw [heldIn, heldIn, List.flatMap_cons,
      hcomplete first List.mem_cons_self hdelivered, List.nil_append]

theorem Balanced.step (hlaw : kind.Lawful accepts streamsOk)
    {observed : Observed} {event : Event} {sent : List Callback}
    {next : ResultBatcher} (hbalanced : kind.Balanced observed)
    (hperforms : Performs observed.batcher event staged sent next)
    (hhandled : kind.Handled accepts streamsOk observed.batcher event)
    (hcomplete : ∀ batch ∈ staged, batch.allDelivered = true →
      kind.held batch = []) :
    kind.Balanced ⟨next, observed.events ++ [event]⟩ := by
  have hstage := perm_stage hlaw hperforms.stage hhandled
  have hqueue := heldIn_of_settles hperforms.settles hcomplete
  rw [Balanced]
  dsimp only
  rw [hperforms.callbacks, hlaw.delivered_append, ← hqueue,
    List.append_assoc, List.flatMap_append, List.flatMap_singleton]
  refine (hstage.append_left _).trans ?_
  rw [← List.append_assoc]
  exact hbalanced.append_right _

end Kind

/-! ## The kinds that batches queue -/

def shutterKind : Kind ShutterMsg where
  delivered := deliveredShutters
  held := InflightBatch.mShutterMsgs
  passed
    | .notify (.shutter msg) => [msg]
    | _ => []

/-- Items that results bring. -/
def passedIn {Item : Type*} (view : CaptureResult → List Item) :
    Event → List Item
  | .processCaptureResult result => view result
  | _ => []

def metadataKind : Kind (Nat × Nat × CameraMetadata) where
  delivered := delivered CaptureResult.metadata
  held := InflightBatch.heldMetadata
  passed := passedIn CaptureResult.metadata

def outputKind : Kind (Nat × StreamBuffer) where
  delivered := delivered CaptureResult.outputs
  held := InflightBatch.heldOutputs
  passed := passedIn CaptureResult.outputs

theorem shutterKind_lawful :
    shutterKind.Lawful (fun _ _ => True) (fun _ => True) where
  delivered_nil := rfl
  delivered_append := deliveredShutters_append
  delivered_notify msg := by
    cases msg with
    | shutter msg => exact deliveredShutters_notify_shutters [msg]
    | error msg => rfl
  delivered_result result := deliveredShutters_results [result]
  passed_error _ := rfl
  passed_registerBatch _ _ := rfl
  passed_setBatchedStreams _ := rfl
  held_new _ _ _ _ := rfl
  queueShutter batch msg := .of_eq (batch.shutters_queueShutter msg)
  queueResult batch result _ := by
    obtain ⟨progress, mds, bufs, hframe⟩ := batch.queueResult_frame result
    apply List.Perm.of_eq
    simp only [shutterKind]
    rw [batch.shutters_queueResult, hframe, List.append_nil]
    rfl
  flush batch streams numPartialResults _ :=
    .of_eq (batch.shutters_flush streams numPartialResults)

theorem metadataKind_lawful :
    metadataKind.Lawful (fun _ _ => True) (fun _ => True) where
  delivered_nil := rfl
  delivered_append := delivered_append _
  delivered_notify msg := delivered_notify CaptureResult.metadata [msg]
  delivered_result result := by
    simp only [metadataKind]
    rw [delivered_results, List.flatMap_singleton]
    rfl
  passed_error _ := rfl
  passed_registerBatch _ _ := rfl
  passed_setBatchedStreams _ := rfl
  held_new _ _ _ _ := rfl
  queueShutter batch msg := by
    obtain ⟨sent, msgs, hframe⟩ := batch.queueShutter_frame msg
    apply List.Perm.of_eq
    simp only [metadataKind]
    rw [batch.delivered_queueShutter, hframe]
    exact (List.append_nil _).symm
  queueResult batch result _ := batch.metadata_queueResult result
  flush batch streams numPartialResults _ :=
    batch.metadata_flush streams numPartialResults

theorem heldOutputs_new (frameNumber batchSize numPartialResults : Nat)
    (streamsToBatch : List StreamId) :
    (InflightBatch.new frameNumber batchSize numPartialResults
      streamsToBatch).heldOutputs = [] := by
  rw [InflightBatch.heldOutputs, List.flatMap_eq_nil_iff]
  rintro ⟨id, bufs⟩ hentry
  rw [OrderedMap.mem_entries_iff, InflightBatch.lookup_new] at hentry
  split_ifs at hentry
  cases hentry
  rfl

theorem outputKind_lawful :
    outputKind.Lawful InflightBatch.Accepts List.Nodup where
  delivered_nil := rfl
  delivered_append := delivered_append _
  delivered_notify msg := delivered_notify CaptureResult.outputs [msg]
  delivered_result result := by
    simp only [outputKind]
    rw [delivered_results, List.flatMap_singleton]
    rfl
  passed_error _ := rfl
  passed_registerBatch _ _ := rfl
  passed_setBatchedStreams _ := rfl
  held_new := heldOutputs_new
  queueShutter batch msg := by
    obtain ⟨sent, msgs, hframe⟩ := batch.queueShutter_frame msg
    apply List.Perm.of_eq
    simp only [outputKind]
    rw [batch.delivered_queueShutter, hframe]
    exact (List.append_nil _).symm
  queueResult batch _ := batch.outputs_queueResult
  flush batch _ numPartialResults hnodup :=
    batch.outputs_flush hnodup numPartialResults

end HardwareInterfaces.Camera
