import HardwareInterfaces.Core.OrderedMap
import HardwareInterfaces.Core.Runs
import HardwareInterfaces.Power.PowerHintSession

/-!
# Dispatch of channel messages

One pass of the thread of a channel group over the messages that it has read.
The loop looks up the session of each message and calls it.  A run of work
durations of one session is collected by an inner loop, which moves the index
of the outer one, and is reported in one call.

Sessions are held by weak pointers and can expire while the loop runs; once
they have, they stay so.  The loop makes the calls that the runs of the
messages ask for, in their order.
-/

namespace HardwareInterfaces.ChannelDispatch

open AdpfTypes HintSession Runs

/-- `WorkDurationFixedV1` -/
structure WorkDurationFixed where
  durationNanos : Int
  workPeriodStartTimestampNanos : Int
  cpuDurationNanos : Int
  gpuDurationNanos : Int
  deriving DecidableEq, Repr

/-- The contents of a message.  The tag comes from the client and may be none
of the known ones. -/
inductive ChannelMessageContents where
  | hint (hint : SessionHint)
  | targetDuration (targetDuration : Int)
  | workDuration (workDuration : WorkDurationFixed)
  | mode (modeInt : SessionMode) (enabled : Bool)
  | invalid (tag : Int)

structure ChannelMessage where
  sessionID : SessionId
  timeStampNanos : Int
  data : ChannelMessageContents

structure WorkDuration where
  timeStampNanos : Int
  durationNanos : Int
  cpuDurationNanos : Int
  gpuDurationNanos : Int
  workPeriodStartTimestampNanos : Int
  deriving DecidableEq, Repr

/-- The duration that a message carries. -/
def ChannelMessage.toWorkDuration (message : ChannelMessage) :
    Option WorkDuration :=
  match message.data with
  | .workDuration durationData => some
      { timeStampNanos := message.timeStampNanos
        durationNanos := durationData.durationNanos
        cpuDurationNanos := durationData.cpuDurationNanos
        gpuDurationNanos := durationData.gpuDurationNanos
        workPeriodStartTimestampNanos :=
          durationData.workPeriodStartTimestampNanos }
  | _ => none

/-- A call of a session. -/
inductive SessionCall (Session : Type) where
  | sendHint (session : Session) (hint : SessionHint)
  | updateTargetWorkDuration (session : Session) (targetDuration : Int)
  | reportActualWorkDuration (session : Session)
      (durations : List WorkDuration)
  | setMode (session : Session) (mode : SessionMode) (enabled : Bool)

section Dispatch

variable {Session : Type}

/-- `PowerSessionManager::getSession`, which forgets a session that it finds
expired. -/
def getSession (expired : Session → Bool)
    (mSessionMap : OrderedMap SessionId Session) (sessionId : SessionId) :
    Option Session × OrderedMap SessionId Session :=
  match mSessionMap.lookup sessionId with
  | none => (none, mSessionMap)
  | some session =>
    if expired session then (none, mSessionMap.erase sessionId)
    else (some session, mSessionMap)

/-- The inner loop: the index where it stops and the durations of the run. -/
def collectDurations (messages : List ChannelMessage)
    (sessionID : SessionId) :
    Nat → Nat → List WorkDuration → Option (Nat × List WorkDuration)
  | 0, _, _ => none
  | fuel + 1, messageIndex, durations =>
    match messages[messageIndex]? with
    | none => some (messageIndex, durations)
    | some currentMessage =>
      match currentMessage.toWorkDuration with
      | none => some (messageIndex, durations)
      | some duration =>
        if currentMessage.sessionID = sessionID then
          collectDurations messages sessionID fuel (messageIndex + 1)
            (durations ++ [duration])
        else some (messageIndex, durations)

/-- The body of the loop for a session that was found: the index at its end
and the calls made. -/
def handleMessage (messages : List ChannelMessage) (messageIndex : Nat)
    (message : ChannelMessage) (session : Session) :
    Option (Nat × List (SessionCall Session)) :=
  match message.data with
  | .hint hint => some (messageIndex, [.sendHint session hint])
  | .targetDuration targetDuration => some
      (messageIndex, [.updateTargetWorkDuration session targetDuration])
  | .workDuration _ => do
      let (index, durations) ← collectDurations messages message.sessionID
        (messages.length + 1) messageIndex []
      if durations = [] then some (index, [])
      else some (index - 1, [.reportActualWorkDuration session durations])
  | .mode modeInt enabled => some
      (messageIndex, [.setMode session modeInt enabled])
  | .invalid _ => some (messageIndex, [])

/-- What the loop changes. -/
structure DispatchState (Session : Type) where
  mSessionMap : OrderedMap SessionId Session
  calls : List (SessionCall Session)

/-- The loop over the messages.  `expired` says which sessions have expired
when a message is looked up. -/
def dispatchLoop (expired : Nat → Session → Bool)
    (messages : List ChannelMessage) :
    Nat → Nat → DispatchState Session → Option (DispatchState Session)
  | 0, _, _ => none
  | fuel + 1, messageIndex, state =>
    match messages[messageIndex]? with
    | none => some state
    | some message =>
      let (found, sessionMap) := getSession (expired messageIndex)
        state.mSessionMap message.sessionID
      match found with
      | none => dispatchLoop expired messages fuel (messageIndex + 1)
          ⟨sessionMap, state.calls⟩
      | some session => do
          let (index, calls) ← handleMessage messages messageIndex message
            session
          dispatchLoop expired messages fuel (index + 1)
            ⟨sessionMap, state.calls ++ calls⟩

def dispatch (expired : Nat → Session → Bool)
    (mSessionMap : OrderedMap SessionId Session)
    (messages : List ChannelMessage) : Option (DispatchState Session) :=
  dispatchLoop expired messages (messages.length + 1) 0 ⟨mSessionMap, []⟩

/-! ## What is to be delivered -/

/-- The next message belongs to the same run. -/
def continuesRun (message next : ChannelMessage) : Bool :=
  message.toWorkDuration.isSome && next.toWorkDuration.isSome &&
    decide (next.sessionID = message.sessionID)

/-- The call for a message and the rest of its run. -/
def callFor (session : Session) (message : ChannelMessage)
    (rest : List ChannelMessage) : Option (SessionCall Session) :=
  match message.data with
  | .hint hint => some (.sendHint session hint)
  | .targetDuration targetDuration =>
    some (.updateTargetWorkDuration session targetDuration)
  | .workDuration _ => some (.reportActualWorkDuration session
      ((message :: rest).filterMap ChannelMessage.toWorkDuration))
  | .mode modeInt enabled => some (.setMode session modeInt enabled)
  | .invalid _ => none

/-- The call for a run, if its session is live. -/
def deliver (live : SessionId → Option Session) :
    List ChannelMessage → Option (SessionCall Session)
  | [] => none
  | message :: rest => do
      callFor (← live message.sessionID) message rest

/-- The calls for all runs, where a session counts as live if it is so at the
start of the run. -/
def deliveries (live : Nat → SessionId → Option Session) :
    Nat → List (List ChannelMessage) → List (SessionCall Session)
  | _, [] => []
  | start, run :: rest =>
    (deliver (live start) run).toList ++
      deliveries live (start + run.length) rest

/-- The session with an id, unless it has expired. -/
def liveSession (expired : Session → Bool)
    (mSessionMap : OrderedMap SessionId Session) (sessionId : SessionId) :
    Option Session :=
  (mSessionMap.lookup sessionId).filter fun session => !expired session

/-- What a call delivers for each message. -/
def SessionCall.parts : SessionCall Session → List (SessionCall Session)
  | .reportActualWorkDuration session durations =>
    durations.map fun duration =>
      .reportActualWorkDuration session [duration]
  | call => [call]

end Dispatch

/-! ## Runs of work durations -/

variable {message : ChannelMessage}

theorem continuesRun_iff {next : ChannelMessage} :
    continuesRun message next = true ↔
      message.toWorkDuration.isSome = true ∧
        next.toWorkDuration.isSome = true ∧
        next.sessionID = message.sessionID := by
  simp only [continuesRun, Bool.and_eq_true, decide_eq_true_eq, and_assoc]

theorem uniform_continuesRun : Uniform continuesRun := by
  intro first second hcontinues
  obtain ⟨hfirst, hsecond, hsame⟩ := continuesRun_iff.mp hcontinues
  funext next
  rw [continuesRun, continuesRun, hfirst, hsecond, hsame]

theorem continuesRun_of_none (hnone : message.toWorkDuration = none) :
    continuesRun message = fun _ => false := by
  funext next
  rw [continuesRun, hnone]
  rfl

/-- A message of another kind is alone in its run. -/
theorem takeWhile_continuesRun_of_none (hnone : message.toWorkDuration = none)
    (rest : List ChannelMessage) :
    rest.takeWhile (continuesRun message) = [] := by
  rw [continuesRun_of_none hnone]
  cases rest with
  | nil | cons => rfl

/-- The messages that the inner loop goes over. -/
def inRun (sessionID : SessionId) (message : ChannelMessage) : Bool :=
  message.toWorkDuration.isSome && decide (message.sessionID = sessionID)

theorem continuesRun_eq_inRun (hsome : message.toWorkDuration.isSome = true) :
    continuesRun message = inRun message.sessionID := by
  funext next
  rw [continuesRun, hsome, Bool.true_and, inRun]

theorem callFor_of_some {Session : Type} {session : Session}
    {duration : WorkDuration}
    (hduration : message.toWorkDuration = some duration)
    (rest : List ChannelMessage) :
    callFor session message rest = some (.reportActualWorkDuration session
      ((message :: rest).filterMap ChannelMessage.toWorkDuration)) := by
  rw [callFor]
  cases hdata : message.data with
  | workDuration => rfl
  | hint | targetDuration | mode | invalid =>
    rw [ChannelMessage.toWorkDuration, hdata] at hduration
    cases hduration

section Loop

variable {messages : List ChannelMessage} {messageIndex : Nat}
variable {message : ChannelMessage}

theorem drop_eq_cons (hmessage : messages[messageIndex]? = some message) :
    messages.drop messageIndex =
      message :: messages.drop (messageIndex + 1) := by
  obtain ⟨hlt, rfl⟩ := List.getElem?_eq_some_iff.mp hmessage
  exact List.drop_eq_getElem_cons hlt

theorem collectDurations_eq (sessionID : SessionId) {fuel : Nat}
    (hfuel : messages.length < fuel + messageIndex)
    (hindex : messageIndex ≤ messages.length)
    (durations : List WorkDuration) :
    collectDurations messages sessionID fuel messageIndex durations =
      some (messageIndex +
          ((messages.drop messageIndex).takeWhile (inRun sessionID)).length,
        durations ++ ((messages.drop messageIndex).takeWhile
          (inRun sessionID)).filterMap ChannelMessage.toWorkDuration) := by
  induction fuel generalizing messageIndex durations with
  | zero => omega
  | succ fuel ih =>
    rw [collectDurations]
    cases hmessage : messages[messageIndex]? with
    | none =>
      rw [List.drop_eq_nil_of_le (List.getElem?_eq_none_iff.mp hmessage)]
      simp
    | some message =>
      have hnext : messageIndex + 1 ≤ messages.length :=
        (List.getElem?_eq_some_iff.mp hmessage).1
      rw [drop_eq_cons hmessage, List.takeWhile_cons, inRun]
      cases hduration : message.toWorkDuration with
      | none => simp [hduration]
      | some duration =>
        by_cases hsession : message.sessionID = sessionID
        · simp only [hduration, hsession, if_true, Option.isSome_some,
            decide_true, Bool.and_self, List.length_cons,
            List.filterMap_cons_some hduration]
          rw [ih (by omega) hnext, List.append_assoc,
            List.singleton_append, Nat.add_assoc, Nat.add_comm 1]
        · simp [hduration, hsession]

variable {Session : Type}

theorem handleMessage_of_none (hnone : message.toWorkDuration = none)
    (session : Session) :
    handleMessage messages messageIndex message session =
      some (messageIndex, (callFor session message []).toList) := by
  rw [handleMessage, callFor]
  cases hdata : message.data with
  | workDuration =>
    rw [ChannelMessage.toWorkDuration, hdata] at hnone
    cases hnone
  | hint | targetDuration | mode | invalid => rfl

theorem handleMessage_of_some {duration : WorkDuration}
    (hmessage : messages[messageIndex]? = some message)
    (hduration : message.toWorkDuration = some duration) (session : Session) :
    let rest := (messages.drop (messageIndex + 1)).takeWhile
      (continuesRun message)
    handleMessage messages messageIndex message session =
      some (messageIndex + rest.length, [.reportActualWorkDuration session
        ((message :: rest).filterMap ChannelMessage.toWorkDuration)]) := by
  have hlt : messageIndex < messages.length :=
    (List.getElem?_eq_some_iff.mp hmessage).1
  have hself : inRun message.sessionID message = true := by
    simp [inRun, hduration]
  have hcollect := @collectDurations_eq messages messageIndex
    message.sessionID (messages.length + 1) (by omega) hlt.le []
  rw [drop_eq_cons hmessage, List.takeWhile_cons_of_pos hself] at hcollect
  dsimp only
  rw [handleMessage, continuesRun_eq_inRun (by rw [hduration]; rfl)]
  cases hdata : message.data with
  | workDuration =>
    dsimp only
    rw [hcollect]
    simp [List.filterMap_cons_some hduration]
  | hint | targetDuration | mode | invalid =>
    rw [ChannelMessage.toWorkDuration, hdata] at hduration
    cases hduration

/-- The body of the loop moves the index to the last message of the run. -/
theorem handleMessage_eq (hmessage : messages[messageIndex]? = some message)
    (session : Session) :
    let rest := (messages.drop (messageIndex + 1)).takeWhile
      (continuesRun message)
    handleMessage messages messageIndex message session =
      some (messageIndex + rest.length,
        (callFor session message rest).toList) := by
  dsimp only
  cases hduration : message.toWorkDuration with
  | none =>
    rw [takeWhile_continuesRun_of_none hduration,
      handleMessage_of_none hduration]
    rfl
  | some duration =>
    rw [handleMessage_of_some hmessage hduration, callFor_of_some hduration]
    rfl

/-- After the body the index moves past the run. -/
theorem drop_after_run (messages : List ChannelMessage) (messageIndex : Nat)
    (continues : ChannelMessage → Bool) :
    messages.drop (messageIndex +
        ((messages.drop (messageIndex + 1)).takeWhile continues).length + 1) =
      (messages.drop (messageIndex + 1)).dropWhile continues := by
  rw [← drop_length_takeWhile, List.drop_drop, Nat.add_right_comm]

theorem after_run_le (hindex : messageIndex + 1 ≤ messages.length)
    (continues : ChannelMessage → Bool) :
    messageIndex +
        ((messages.drop (messageIndex + 1)).takeWhile continues).length + 1 ≤
      messages.length := by
  have hrun : ((messages.drop (messageIndex + 1)).takeWhile
      continues).length ≤ (messages.drop (messageIndex + 1)).length :=
    (List.takeWhile_sublist _).length_le
  rw [List.length_drop] at hrun
  omega

end Loop

/-! ## The loop -/

section Dispatch

variable {Session : Type} {expired : Nat → Session → Bool}
variable {mSessionMap : OrderedMap SessionId Session}

/-- A session that has expired stays expired. -/
theorem liveSession_eq_none_of_le
    (hexpired : ∀ session, Monotone fun index => expired index session)
    {sessionId : SessionId} {before after : Nat} (hle : before ≤ after)
    (hdead : liveSession (expired before) mSessionMap sessionId = none) :
    liveSession (expired after) mSessionMap sessionId = none := by
  rw [liveSession, Option.filter_eq_none_iff] at hdead ⊢
  intro session hsession
  have hbefore : expired before session = true := by
    simpa using hdead session hsession
  have hafter : expired after session = true :=
    Bool.eq_true_of_true_le (hbefore ▸ hexpired session hle)
  simpa using hafter

/-- What the loop has forgotten has expired. -/
def Agrees (expired : Nat → Session → Bool)
    (mSessionMap : OrderedMap SessionId Session) (messageIndex : Nat)
    (current : OrderedMap SessionId Session) : Prop :=
  ∀ index, messageIndex ≤ index →
    liveSession (expired index) current =
      liveSession (expired index) mSessionMap

theorem getSession_eq_liveSession (expired : Session → Bool)
    (current : OrderedMap SessionId Session) (sessionId : SessionId) :
    (getSession expired current sessionId).1 =
      liveSession expired current sessionId := by
  rw [getSession, liveSession]
  cases current.lookup sessionId with
  | none => rfl
  | some session =>
    cases hdead : expired session <;> simp [Option.filter, hdead]

theorem Agrees.getSession
    (hexpired : ∀ session, Monotone fun index => expired index session)
    {messageIndex : Nat} {current : OrderedMap SessionId Session}
    (hagrees : Agrees expired mSessionMap messageIndex current)
    (sessionId : SessionId) :
    Agrees expired mSessionMap messageIndex
      (getSession (expired messageIndex) current sessionId).2 := by
  rw [ChannelDispatch.getSession]
  split
  next => exact hagrees
  next session hsession =>
    split_ifs with hdead
    · intro index hle
      rw [← hagrees index hle]
      funext other
      rw [liveSession, OrderedMap.lookup_erase, Function.update_apply]
      split_ifs with hsame
      · -- The session that is forgotten was dead already.
        have hgone : liveSession (expired messageIndex) current sessionId =
            none := by
          rw [liveSession, hsession]
          simp [hdead]
        rw [hsame, liveSession_eq_none_of_le hexpired hle hgone]
        rfl
      · rfl
    · exact hagrees

variable {message : ChannelMessage}

/-- A message whose session is dead does not change what is delivered. -/
theorem deliveries_cons_of_dead {live : Nat → SessionId → Option Session}
    {start : Nat}
    (hdead : ∀ index, start ≤ index → live index message.sessionID = none)
    (rest : List ChannelMessage) :
    deliveries live start ((message :: rest).splitBy continuesRun) =
      deliveries live (start + 1) (rest.splitBy continuesRun) := by
  have hskipped : ∀ index, start ≤ index → ∀ (head : ChannelMessage) run,
      head.sessionID = message.sessionID →
        deliver (live index) (head :: run) = none := by
    intro index hle head run hsame
    rw [deliver, hsame, hdead index hle]
    rfl
  rw [splitBy_cons uniform_continuesRun, deliveries,
    hskipped start le_rfl message _ rfl, Option.toList_none, List.nil_append]
  cases rest with
  | nil => rfl
  | cons next rest =>
    by_cases hcontinues : continuesRun message next = true
    · have hsame : next.sessionID = message.sessionID :=
        (continuesRun_iff.mp hcontinues).2.2
      rw [List.takeWhile_cons_of_pos hcontinues,
        List.dropWhile_cons_of_pos hcontinues,
        splitBy_cons uniform_continuesRun, deliveries,
        uniform_continuesRun message next hcontinues,
        hskipped (start + 1) (Nat.le_succ start) next _ hsame]
      simp only [Option.toList_none, List.nil_append, List.length_cons]
      congr 1
      omega
    · rw [List.takeWhile_cons_of_neg hcontinues,
        List.dropWhile_cons_of_neg hcontinues]
      rfl

theorem dispatchLoop_eq
    (hexpired : ∀ session, Monotone fun index => expired index session)
    {messages : List ChannelMessage} {fuel messageIndex : Nat}
    (hfuel : messages.length < fuel + messageIndex)
    (hindex : messageIndex ≤ messages.length)
    {state : DispatchState Session}
    (hagrees : Agrees expired mSessionMap messageIndex state.mSessionMap) :
    ∃ current, dispatchLoop expired messages fuel messageIndex state =
      some ⟨current, state.calls ++
        deliveries (fun index => liveSession (expired index) mSessionMap)
          messageIndex ((messages.drop messageIndex).splitBy continuesRun)⟩ := by
  induction fuel generalizing messageIndex state with
  | zero => omega
  | succ fuel ih =>
    rw [dispatchLoop]
    cases hmessage : messages[messageIndex]? with
    | none =>
      rw [List.drop_eq_nil_of_le (List.getElem?_eq_none_iff.mp hmessage)]
      exact ⟨state.mSessionMap, by simp [deliveries]⟩
    | some message =>
      have hnext : messageIndex + 1 ≤ messages.length :=
        (List.getElem?_eq_some_iff.mp hmessage).1
      have hkept := hagrees.getSession hexpired message.sessionID
      have hfound := getSession_eq_liveSession (expired messageIndex)
        state.mSessionMap message.sessionID
      rw [hagrees messageIndex le_rfl] at hfound
      rw [drop_eq_cons hmessage]
      dsimp only
      generalize (getSession (expired messageIndex) state.mSessionMap
        message.sessionID).2 = sessionMap at hkept ⊢
      rw [hfound]
      cases hlive : liveSession (expired messageIndex) mSessionMap
          message.sessionID with
      | none =>
        rw [deliveries_cons_of_dead fun index hle =>
          liveSession_eq_none_of_le hexpired hle hlive]
        have hafter : Agrees expired mSessionMap (messageIndex + 1)
            sessionMap := fun index hle => hkept index (by omega)
        exact @ih _ (by omega) hnext ⟨sessionMap, state.calls⟩ hafter
      | some session =>
        -- The index stands on the last message of the run.
        let run := (messages.drop (messageIndex + 1)).takeWhile
          (continuesRun message)
        have hend : messageIndex + run.length + 1 ≤ messages.length :=
          after_run_le hnext _
        have hafter : Agrees expired mSessionMap
            (messageIndex + run.length + 1) sessionMap :=
          fun index hle => hkept index (by omega)
        obtain ⟨current, hloop⟩ := @ih _ (by omega) hend
          ⟨sessionMap, state.calls ++
            (callFor session message run).toList⟩ hafter
        refine ⟨current, ?_⟩
        dsimp only
        rw [handleMessage_eq hmessage, Option.bind_eq_bind,
          Option.bind_some, hloop, drop_after_run,
          splitBy_cons uniform_continuesRun, deliveries, deliver,
          hlive, List.append_assoc]
        rfl

/-- The loop ends, and it makes the calls for the runs of the messages whose
session is live at their start. -/
theorem dispatch_eq_deliveries
    (hexpired : ∀ session, Monotone fun index => expired index session)
    (mSessionMap : OrderedMap SessionId Session)
    (messages : List ChannelMessage) :
    ∃ current, dispatch expired mSessionMap messages =
      some ⟨current,
        deliveries (fun index => liveSession (expired index) mSessionMap) 0
          (messages.splitBy continuesRun)⟩ := by
  obtain ⟨current, hloop⟩ := @dispatchLoop_eq _ expired mSessionMap hexpired
    messages (messages.length + 1) 0 (by omega) (Nat.zero_le _)
    ⟨mSessionMap, []⟩ (fun _ _ => rfl)
  refine ⟨current, ?_⟩
  rw [dispatch, hloop, List.drop_zero, List.nil_append]

theorem deliveries_eq_filterMap (live : SessionId → Option Session)
    (start : Nat) (runs : List (List ChannelMessage)) :
    deliveries (fun _ => live) start runs = runs.filterMap (deliver live) := by
  induction runs generalizing start with
  | nil => rfl
  | cons run rest ih =>
    rw [deliveries, ih, List.filterMap_cons]
    cases deliver live run with
    | none | some => rfl

/-! ## What each message becomes -/

variable (live : SessionId → Option Session)

theorem deliver_singleton_eq_none_iff (message : ChannelMessage) :
    deliver live [message] = none ↔
      live message.sessionID = none ∨ ∃ tag, message.data = .invalid tag := by
  rw [deliver]
  cases live message.sessionID with
  | none => simp
  | some session =>
    rw [Option.bind_eq_bind, Option.bind_some, callFor]
    cases message.data <;> simp

theorem parts_callFor_of_none {session : Session}
    (hnone : message.toWorkDuration = none) :
    (callFor session message []).toList.flatMap SessionCall.parts =
      (callFor session message []).toList := by
  rw [callFor]
  cases hdata : message.data with
  | workDuration =>
    rw [ChannelMessage.toWorkDuration, hdata] at hnone
    cases hnone
  | hint | targetDuration | mode | invalid => rfl

theorem parts_deliver_of_none (hnone : message.toWorkDuration = none) :
    (deliver live [message]).toList.flatMap SessionCall.parts =
      (deliver live [message]).toList := by
  rw [deliver]
  cases live message.sessionID with
  | none => rfl
  | some session => exact parts_callFor_of_none hnone

/-- Alone, a duration is reported to its session. -/
theorem deliver_singleton_of_isSome
    (hsome : message.toWorkDuration.isSome = true) :
    deliver live [message] = (live message.sessionID).bind fun session =>
      message.toWorkDuration.map fun duration =>
        .reportActualWorkDuration session [duration] := by
  obtain ⟨duration, hduration⟩ := Option.isSome_iff_exists.mp hsome
  rw [deliver, hduration, Option.bind_eq_bind]
  congr 1
  funext session
  rw [callFor_of_some hduration, List.filterMap_cons_some hduration]
  rfl

theorem parts_deliver_of_some {duration : WorkDuration}
    {rest : List ChannelMessage}
    (hduration : message.toWorkDuration = some duration)
    (hrun : ∀ other ∈ message :: rest,
      other.toWorkDuration.isSome = true ∧
        other.sessionID = message.sessionID) :
    (deliver live (message :: rest)).toList.flatMap SessionCall.parts =
      (message :: rest).filterMap fun other => deliver live [other] := by
  have hsingle : ∀ other ∈ message :: rest,
      deliver live [other] = (live message.sessionID).bind fun session =>
        other.toWorkDuration.map fun duration =>
          .reportActualWorkDuration session [duration] := by
    intro other hother
    obtain ⟨hsome, hsame⟩ := hrun other hother
    rw [deliver_singleton_of_isSome live hsome, hsame]
  rw [List.filterMap_congr hsingle, deliver]
  cases live message.sessionID with
  | none => simp
  | some session =>
    rw [Option.bind_eq_bind, Option.bind_some, callFor_of_some hduration]
    simp only [Option.bind_some, Option.toList_some,
      List.flatMap_singleton, SessionCall.parts]
    rw [List.map_filterMap]

/-- The call for a run delivers each of its messages. -/
theorem parts_deliver {run : List ChannelMessage}
    (hchain : run.IsChain
      fun left right => continuesRun left right = true) :
    (deliver live run).toList.flatMap SessionCall.parts =
      run.filterMap fun message => deliver live [message] := by
  cases run with
  | nil => rfl
  | cons message rest =>
    have hrest : ∀ other ∈ rest, continuesRun message other = true :=
      continues_of_isChain uniform_continuesRun hchain
    cases hduration : message.toWorkDuration with
    | none =>
      have halone : rest = [] := by
        rw [← takeWhile_continuesRun_of_none hduration rest,
          List.takeWhile_eq_self_iff.mpr hrest]
      rw [halone, parts_deliver_of_none live hduration,
        List.filterMap_eq_flatMap_toList, List.flatMap_singleton]
    | some duration =>
      apply parts_deliver_of_some live hduration
      rintro other (_ | ⟨_, hother⟩)
      · exact ⟨by rw [hduration]; rfl, rfl⟩
      · exact (continuesRun_iff.mp (hrest other hother)).2

theorem parts_filterMap_deliver (messages : List ChannelMessage) :
    ((messages.splitBy continuesRun).filterMap (deliver live)).flatMap
        SessionCall.parts =
      messages.filterMap fun message => deliver live [message] := by
  calc ((messages.splitBy continuesRun).filterMap (deliver live)).flatMap
          SessionCall.parts
      = (messages.splitBy continuesRun).flatMap fun run =>
          (deliver live run).toList.flatMap SessionCall.parts := by
        rw [List.filterMap_eq_flatMap_toList, List.flatMap_assoc]
    _ = (messages.splitBy continuesRun).flatMap fun run =>
          run.filterMap fun message => deliver live [message] := by
        apply List.flatMap_congr
        intro run hrun
        exact parts_deliver live (List.isChain_of_mem_splitBy hrun)
    _ = (messages.splitBy continuesRun).flatten.filterMap
          fun message => deliver live [message] := by
        rw [List.filterMap_flatten, List.flatMap_def]
    _ = messages.filterMap fun message => deliver live [message] := by
        rw [List.flatten_splitBy]

/-- Each message of a live session with a valid tag is delivered exactly once
and in order, in one call for each run. -/
theorem dispatch_delivers (expired : Session → Bool)
    (mSessionMap : OrderedMap SessionId Session)
    (messages : List ChannelMessage) :
    let live := liveSession expired mSessionMap
    let calls := (messages.splitBy continuesRun).filterMap (deliver live)
    (∃ current, dispatch (fun _ => expired) mSessionMap messages =
        some ⟨current, calls⟩) ∧
      calls.flatMap SessionCall.parts =
        messages.filterMap (fun message => deliver live [message]) ∧
      ∀ message, deliver live [message] = none ↔
        live message.sessionID = none ∨
          ∃ tag, message.data = .invalid tag := by
  intro live calls
  refine ⟨?_, parts_filterMap_deliver live messages,
    deliver_singleton_eq_none_iff live⟩
  obtain ⟨current, hdispatch⟩ := @dispatch_eq_deliveries _
    (fun _ => expired) (fun session => monotone_const) mSessionMap messages
  refine ⟨current, ?_⟩
  rw [hdispatch, deliveries_eq_filterMap]

end Dispatch

end HardwareInterfaces.ChannelDispatch
