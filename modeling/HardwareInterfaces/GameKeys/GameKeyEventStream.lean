import Mathlib

/-!
# The stream of game key events

The two trigger keys give a press and a release each, and four more keys open
and close the slots.  The stream maps what it fetches from the device, hands out
the first event and keeps the others; the queue is replaced by a fetch only when
it is empty, so that no fetch loses an event.

A key that is held repeats itself.  The mapping takes every value of a trigger
key but 1 for a release, the values of such repeats included.
-/

namespace HardwareInterfaces.GameKeys

namespace KeyCode

def keyF1 : Nat := 59
def keyF2 : Nat := 60
def keyF3 : Nat := 61
def keyF4 : Nat := 62
def keyF5 : Nat := 63
def keyF6 : Nat := 64

end KeyCode

inductive InputEvent where
  | key (code : Nat) (value : Int)
  | other (type code : Nat) (value : Int)
  deriving DecidableEq, Repr

inductive EventType where
  | «open»
  | close
  | press
  | release
  deriving DecidableEq, Repr

structure Event where
  type : EventType
  slot : Nat
  deriving DecidableEq, Repr

def mapEvent : InputEvent → Option Event
  | .key code value =>
    if code = KeyCode.keyF1 then
      some ⟨if value = 1 then .press else .release, 0⟩
    else if code = KeyCode.keyF2 then
      some ⟨if value = 1 then .press else .release, 1⟩
    else if code = KeyCode.keyF3 then
      if value = 1 then some ⟨.open, 0⟩ else none
    else if code = KeyCode.keyF4 then
      if value = 1 then some ⟨.close, 0⟩ else none
    else if code = KeyCode.keyF5 then
      if value = 1 then some ⟨.open, 1⟩ else none
    else if code = KeyCode.keyF6 then
      if value = 1 then some ⟨.close, 1⟩ else none
    else none
  | .other .. => none

/-- How the next wait for the device, or the fetch after it, ends. -/
inductive Fetch where
  | events (evs : List InputEvent)
  | wouldBlock
  | failed (error : Int)
  /-- The wait itself fails, and nothing is fetched. -/
  | notWatched (error : Int)
  deriving DecidableEq, Repr

def Fetch.evs : Fetch → List InputEvent
  | .events evs => evs
  | _ => []

inductive Poll where
  | pending
  | ready (item : Except Int Event)

def Poll.events : Poll → List Event
  | .ready (.ok event) => [event]
  | _ => []

structure GameKeyEventStream where
  pending : List Event
  deriving DecidableEq, Repr

namespace GameKeyEventStream

/-- The loop of a poll; without a further answer the device is not ready. -/
def fetchLoop (stream : GameKeyEventStream) :
    List Fetch → Poll × GameKeyEventStream × List Fetch
  | [] => (.pending, stream, [])
  | .notWatched error :: fetches => (.ready (.error error), stream, fetches)
  | .events evs :: fetches =>
    match evs.filterMap mapEvent with
    | event :: events => (.ready (.ok event), { pending := events }, fetches)
    | [] => stream.fetchLoop fetches
  | .failed error :: fetches => (.ready (.error error), stream, fetches)
  | .wouldBlock :: fetches => stream.fetchLoop fetches

def pollNext (stream : GameKeyEventStream) (fetches : List Fetch) :
    Poll × GameKeyEventStream × List Fetch :=
  match stream.pending with
  | event :: events => (.ready (.ok event), { pending := events }, fetches)
  | [] => stream.fetchLoop fetches

end GameKeyEventStream

/-! ## Reading a device -/

/-- A stream, what the device will answer, and the events handed out. -/
structure Reader where
  stream : GameKeyEventStream
  device : List Fetch
  yielded : List Event

/-- The device gets something to answer, or the stream is polled. -/
inductive ReadAction where
  | arrives (fetch : Fetch)
  | polled
  deriving DecidableEq, Repr

/-- The events that arrive at the device. -/
def inputOf (actions : List ReadAction) : List InputEvent :=
  actions.flatMap fun
    | .arrives fetch => fetch.evs
    | .polled => []

namespace Reader

def new : Reader where
  stream := ⟨[]⟩
  device := []
  yielded := []

def poll (reader : Reader) : Poll × Reader :=
  let (result, stream, device) := reader.stream.pollNext reader.device
  (result, { stream, device, yielded := reader.yielded ++ result.events })

def step (reader : Reader) : ReadAction → Reader
  | .arrives fetch => { reader with device := reader.device ++ [fetch] }
  | .polled => reader.poll.2

/-- Polls the stream as long as it has something to say. -/
def pollOut : Nat → Reader → Reader
  | 0, reader => reader
  | fuel + 1, reader =>
    match reader.poll with
    | (.pending, reader) => reader
    | (.ready _, reader) => pollOut fuel reader

/-- Events that have been read or can be, but were not handed out. -/
def outstanding (reader : Reader) : List Event :=
  reader.stream.pending ++
    (reader.device.flatMap Fetch.evs).filterMap mapEvent

/-- Each poll that has something to say takes away an event or an answer. -/
def size (reader : Reader) : Nat :=
  reader.device.length + reader.outstanding.length

end Reader

/-! ## What a poll does -/

namespace GameKeyEventStream

/-- A poll moves events on from the device to the stream, and one out of it.  It
gives nothing only when there is nothing left. -/
structure Polled (stream : GameKeyEventStream) (fetches : List Fetch)
    (result : Poll) (next : GameKeyEventStream) (rest : List Fetch) :
    Prop where
  events : result.events ++ (next.pending ++
      (rest.flatMap Fetch.evs).filterMap mapEvent) =
    stream.pending ++ (fetches.flatMap Fetch.evs).filterMap mapEvent
  shorter : rest.length ≤ fetches.length
  idle : result = .pending → rest = [] ∧ next.pending = []
  failure : ∀ error, result = .ready (.error error) →
    rest.length < fetches.length

variable {stream next : GameKeyEventStream} {fetch : Fetch}
  {fetches rest : List Fetch} {result : Poll}

/-- The loop goes on with an answer that maps to no event. -/
theorem Polled.of_tail (hnone : fetch.evs.filterMap mapEvent = [])
    (hpolled : Polled stream fetches result next rest) :
    Polled stream (fetch :: fetches) result next rest where
  events := by
    rw [hpolled.events, List.flatMap_cons, List.filterMap_append, hnone,
      List.nil_append]
  shorter := hpolled.shorter.trans (Nat.le_succ fetches.length)
  idle := hpolled.idle
  failure := fun error herror =>
    (hpolled.failure error herror).trans (Nat.lt_succ_self fetches.length)

theorem polled_of_error (stream : GameKeyEventStream)
    (hfetch : fetch.evs = []) (error : Int) (fetches : List Fetch) :
    Polled stream (fetch :: fetches) (.ready (.error error)) stream fetches where
  events := by
    rw [List.flatMap_cons, hfetch]
    rfl
  shorter := Nat.le_succ fetches.length
  idle := nofun
  failure := fun _ _ => Nat.lt_succ_self fetches.length

/-- The queue is empty when the loop replaces it. -/
theorem polled_fetchLoop (hempty : stream.pending = [])
    (fetches : List Fetch) :
    Polled stream fetches (stream.fetchLoop fetches).1
      (stream.fetchLoop fetches).2.1 (stream.fetchLoop fetches).2.2 := by
  induction fetches with
  | nil => exact ⟨rfl, le_rfl, fun _ => ⟨rfl, hempty⟩, nofun⟩
  | cons fetch fetches ih =>
    cases fetch with
    | notWatched error => exact polled_of_error stream rfl error fetches
    | failed error => exact polled_of_error stream rfl error fetches
    | wouldBlock => exact ih.of_tail rfl
    | events evs =>
      cases hmapped : evs.filterMap mapEvent with
      | nil =>
        rw [fetchLoop, hmapped]
        exact ih.of_tail hmapped
      | cons event events =>
        rw [fetchLoop, hmapped]
        refine ⟨?_, Nat.le_succ fetches.length, nofun, nofun⟩
        rw [List.flatMap_cons, List.filterMap_append, Fetch.evs, hmapped,
          hempty]
        rfl

theorem polled_pollNext (stream : GameKeyEventStream)
    (fetches : List Fetch) :
    Polled stream fetches (stream.pollNext fetches).1
      (stream.pollNext fetches).2.1 (stream.pollNext fetches).2.2 := by
  cases hpending : stream.pending with
  | nil =>
    rw [pollNext, hpending]
    exact polled_fetchLoop hpending fetches
  | cons event events =>
    rw [pollNext, hpending]
    refine ⟨?_, le_rfl, nofun, nofun⟩
    rw [hpending]
    rfl

end GameKeyEventStream

/-! ## Whole readings -/

namespace Reader

variable {reader : Reader}

section

variable (reader : Reader)

theorem polled_poll :
    reader.stream.Polled reader.device reader.poll.1 reader.poll.2.stream
      reader.poll.2.device :=
  GameKeyEventStream.polled_pollNext reader.stream reader.device

theorem yielded_poll :
    reader.poll.2.yielded = reader.yielded ++ reader.poll.1.events :=
  rfl

theorem outstanding_poll :
    reader.poll.1.events ++ reader.poll.2.outstanding = reader.outstanding :=
  reader.polled_poll.events

/-- What is handed out and what is outstanding, together. -/
theorem yielded_outstanding_poll :
    reader.poll.2.yielded ++ reader.poll.2.outstanding =
      reader.yielded ++ reader.outstanding := by
  rw [yielded_poll, List.append_assoc, outstanding_poll]

/-- What is handed out and what is outstanding are the mapped input. -/
theorem yielded_outstanding_foldl (actions : List ReadAction) :
    (actions.foldl step reader).yielded ++
        (actions.foldl step reader).outstanding =
      reader.yielded ++ reader.outstanding ++
        (inputOf actions).filterMap mapEvent := by
  induction actions generalizing reader with
  | nil => rw [inputOf, List.flatMap_nil, List.filterMap_nil,
      List.append_nil, List.foldl_nil]
  | cons action actions ih =>
    rw [List.foldl_cons, ih (reader.step action)]
    cases action with
    | arrives fetch => simp [step, outstanding, inputOf]
    | polled =>
      rw [step, yielded_outstanding_poll]
      rfl

end

theorem size_poll {item : Except Int Event}
    (hready : reader.poll.1 = .ready item) :
    reader.poll.2.size < reader.size := by
  have hpolled := reader.polled_poll
  have hlength := congrArg List.length reader.outstanding_poll
  rw [List.length_append] at hlength
  rw [size, size]
  cases item with
  | error error =>
    have hfewer := hpolled.failure error hready
    omega
  | ok event =>
    rw [hready] at hlength
    have hshorter := hpolled.shorter
    have hone : (Poll.ready (.ok event)).events.length = 1 := rfl
    omega

/-- With enough polls everything outstanding is handed out. -/
theorem yielded_pollOut {fuel : Nat} (hfuel : reader.size < fuel) :
    (pollOut fuel reader).yielded = reader.yielded ++ reader.outstanding := by
  induction fuel generalizing reader with
  | zero => exact absurd hfuel (Nat.not_lt_zero _)
  | succ fuel ih =>
    rw [pollOut, ← yielded_outstanding_poll]
    cases hpoll : reader.poll with
    | mk result next =>
      have hresult : reader.poll.1 = result := congrArg Prod.fst hpoll
      have hnext : reader.poll.2 = next := congrArg Prod.snd hpoll
      cases result with
      | pending =>
        obtain ⟨hdevice, hqueue⟩ := reader.polled_poll.idle hresult
        rw [hnext] at hdevice hqueue
        rw [outstanding, hdevice, hqueue]
        exact (List.append_nil _).symm
      | ready item =>
        have hless := size_poll hresult
        rw [hnext] at hless
        exact ih (by omega)

end Reader

/-! ## Press and release -/

/-- The trigger keys and their slots. -/
def triggerSlot (code : Nat) : Option Nat :=
  if code = KeyCode.keyF1 then some 0
  else if code = KeyCode.keyF2 then some 1
  else none

def EventType.isTrigger : EventType → Bool
  | .press | .release => true
  | .open | .close => false

/-- The events of the trigger keys. -/
def triggersOf (events : List Event) : List Event :=
  events.filter (·.type.isTrigger)

def typesOf (slot : Nat) (events : List Event) : List EventType :=
  (events.filter (·.slot = slot)).map Event.type

/-- The value of a key that goes down or up. -/
def edgeType (value : Int) : Option EventType :=
  if value = 1 then some .press
  else if value = 0 then some .release
  else none

/-- One press for each time a trigger key goes down, one release for each time
it goes up. -/
def edge : InputEvent → Option Event
  | .key code value => do
      let slot ← triggerSlot code
      let type ← edgeType value
      some ⟨type, slot⟩
  | .other .. => none

def edgesOf (input : List InputEvent) : List Event :=
  input.filterMap edge

/-- Press and release by turns; a press is due next unless the key is down. -/
def Alternates : (down : Bool) → List EventType → Prop
  | _, [] => True
  | false, type :: later => type = .press ∧ Alternates true later
  | true, type :: later => type = .release ∧ Alternates false later

def valuesOf (code : Nat) (input : List InputEvent) : List Int :=
  input.filterMap fun
    | .key other value => if other = code then some value else none
    | .other .. => none

/-- A key goes down, repeats any number of times and goes up. -/
def Cycles : (down : Bool) → List Int → Prop
  | _, [] => True
  | false, value :: later => value = 1 ∧ Cycles true later
  | true, value :: later =>
    value = 2 ∧ Cycles true later ∨ value = 0 ∧ Cycles false later

/-- Every key of the input is pressed and released by turns. -/
def WellFormed (input : List InputEvent) : Prop :=
  ∀ code, Cycles false (valuesOf code input)

/-- No trigger key is held so long that it repeats itself. -/
def NoRepeat (input : List InputEvent) : Prop :=
  ∀ code, (triggerSlot code).isSome → .key code 2 ∉ input

/-- The stream hands out a press for each time a trigger key goes down and a
release for each time it goes up, in the order of the input, and each slot has
them by turns. -/
structure Delivers (input : List InputEvent) (reader : Reader) : Prop where
  all : triggersOf (reader.pollOut (reader.size + 1)).yielded = edgesOf input
  soFar : triggersOf reader.yielded <+: edgesOf input
  alternates : ∀ slot,
    Alternates false (typesOf slot (triggersOf reader.yielded))

/-! ## Edges alternate -/

section Edges

variable {code slot : Nat} {down : Bool} {input : List InputEvent}

theorem triggerSlot_injective {other : Nat}
    (hslot : triggerSlot code = some slot)
    (hother : triggerSlot other = some slot) : code = other := by
  grind [triggerSlot]

theorem edge_key_eq_some_iff {value : Int} {event : Event} :
    edge (.key code value) = some event ↔
      triggerSlot code = some event.slot ∧ edgeType value = some event.type := by
  obtain ⟨type, slot⟩ := event
  rw [edge]
  cases triggerSlot code with
  | none => simp
  | some found => cases edgeType value <;> simp [and_comm]

theorem value_of_cycles {values : List Int} (hcycles : Cycles down values) :
    ∀ value ∈ values, value = 0 ∨ value = 1 ∨ value = 2 := by
  induction values generalizing down with
  | nil => exact nofun
  | cons value later ih =>
    rw [List.forall_mem_cons]
    cases down with
    | false => exact ⟨.inr (.inl hcycles.1), ih hcycles.2⟩
    | true =>
      obtain ⟨htwo, hlater⟩ | ⟨hzero, hlater⟩ := hcycles
      · exact ⟨.inr (.inr htwo), ih hlater⟩
      · exact ⟨.inl hzero, ih hlater⟩

/-- The repeats of a key do not count. -/
theorem alternates_of_cycles {values : List Int}
    (hcycles : Cycles down values) :
    Alternates down (values.filterMap edgeType) := by
  induction values generalizing down with
  | nil => cases down <;> exact trivial
  | cons value later ih =>
    cases down with
    | false =>
      obtain ⟨rfl, hlater⟩ := hcycles
      exact ⟨rfl, ih hlater⟩
    | true =>
      obtain ⟨rfl, hlater⟩ | ⟨rfl, hlater⟩ := hcycles
      · exact ih hlater
      · exact ⟨rfl, ih hlater⟩

theorem Alternates.of_prefix {types later : List EventType}
    (hall : Alternates down (types ++ later)) : Alternates down types := by
  induction types generalizing down with
  | nil => cases down <;> exact trivial
  | cons type types ih =>
    cases down with
    | false | true => exact ⟨hall.1, ih hall.2⟩

/-- The edges of a slot come from one key. -/
theorem typesOf_edgesOf (hslot : triggerSlot code = some slot)
    (input : List InputEvent) :
    typesOf slot (edgesOf input) = (valuesOf code input).filterMap edgeType := by
  induction input with
  | nil => rfl
  | cons event later ih =>
    cases event with
    | other => exact ih
    | key other value =>
      by_cases hkey : other = code
      · subst hkey
        cases htype : edgeType value <;>
          simp_all [typesOf, edgesOf, valuesOf, edge]
      · have hskip : valuesOf code (.key other value :: later) =
            valuesOf code later := by
          simp [valuesOf, hkey]
        have hother : ∀ event, edge (.key other value) = some event →
            event.slot ≠ slot := by
          rintro event hedge rfl
          exact hkey (triggerSlot_injective
            (edge_key_eq_some_iff.mp hedge).1 hslot)
        rw [hskip, ← ih, typesOf, typesOf, edgesOf, List.filterMap_cons]
        cases hedge : edge (.key other value) with
        | none => rfl
        | some event => simp [hother event hedge, edgesOf]

theorem triggerSlot_of_mem_edgesOf {event : Event}
    (hevent : event ∈ edgesOf input) :
    ∃ code, triggerSlot code = some event.slot := by
  obtain ⟨source, -, hedge⟩ := List.mem_filterMap.mp hevent
  cases source with
  | other => exact absurd hedge nofun
  | key code value => exact ⟨code, (edge_key_eq_some_iff.mp hedge).1⟩

theorem alternates_edgesOf (hinput : WellFormed input) (slot : Nat) :
    Alternates false (typesOf slot (edgesOf input)) := by
  by_cases hslot : ∃ code, triggerSlot code = some slot
  · obtain ⟨code, hcode⟩ := hslot
    rw [typesOf_edgesOf hcode]
    exact alternates_of_cycles (hinput code)
  · have hnone : typesOf slot (edgesOf input) = [] := by
      rw [typesOf, List.map_eq_nil_iff, List.filter_eq_nil_iff]
      intro event hevent heq
      have hcode := triggerSlot_of_mem_edgesOf hevent
      rw [of_decide_eq_true heq] at hcode
      exact hslot hcode
    rw [hnone]
    exact trivial

end Edges

/-! ## What the mapping makes of the edges -/

/-- What the mapping gives for a trigger key, and nothing for another one. -/
def trigger (event : InputEvent) : Option Event :=
  (mapEvent event).filter (·.type.isTrigger)

theorem trigger_key (code : Nat) (value : Int) :
    trigger (.key code value) = (triggerSlot code).map
      (⟨if value = 1 then .press else .release, ·⟩) := by
  grind [trigger, mapEvent, triggerSlot, EventType.isTrigger]

theorem triggersOf_filterMap (input : List InputEvent) :
    triggersOf (input.filterMap mapEvent) = input.filterMap trigger := by
  rw [triggersOf, List.filter_filterMap]
  rfl

/-- The mapping keeps every edge, and gives more only for the other values. -/
theorem edge_eq_none_or (event : InputEvent) :
    edge event = none ∨ edge event = trigger event := by
  cases event with
  | other => exact .inl rfl
  | key code value =>
    rw [trigger_key, edge]
    cases triggerSlot code <;> grind [edgeType]

theorem length_edgesOf_le (input : List InputEvent) :
    (edgesOf input).length ≤ (input.filterMap trigger).length := by
  induction input with
  | nil => exact le_rfl
  | cons event later ih =>
    rw [edgesOf, List.filterMap_cons, List.filterMap_cons]
    obtain hnone | hsame := edge_eq_none_or event
    · rw [hnone]
      cases trigger event with
      | none => exact ih
      | some _ => exact ih.trans (Nat.le_succ _)
    · rw [hsame]
      cases trigger event with
      | none => exact ih
      | some _ => exact Nat.succ_le_succ ih

/-- An event too many is never made up for by a later one. -/
theorem filterMap_trigger_eq_iff (input : List InputEvent) :
    input.filterMap trigger = edgesOf input ↔
      ∀ event ∈ input, trigger event = edge event := by
  induction input with
  | nil => exact iff_of_true rfl nofun
  | cons event later ih =>
    rw [List.forall_mem_cons, ← ih, edgesOf, edgesOf, List.filterMap_cons,
      List.filterMap_cons]
    obtain hnone | hsame := edge_eq_none_or event
    · cases htrigger : trigger event with
      | none => simp [hnone]
      | some result =>
        rw [hnone]
        refine iff_of_false (fun heq => ?_) nofun
        have hlength : (later.filterMap trigger).length + 1 =
            (edgesOf later).length := congrArg List.length heq
        have hless := length_edgesOf_le later
        omega
    · rw [hsame]
      cases trigger event <;> simp

theorem trigger_eq_edge_iff {code : Nat} {value : Int}
    (hvalue : value = 0 ∨ value = 1 ∨ value = 2) :
    trigger (.key code value) = edge (.key code value) ↔
      ((triggerSlot code).isSome = true → value ≠ 2) := by
  rw [trigger_key, edge]
  cases triggerSlot code with
  | none => exact iff_of_true rfl nofun
  | some slot => obtain rfl | rfl | rfl := hvalue <;> simp [edgeType]

theorem value_of_wellFormed {input : List InputEvent} {code : Nat} {value : Int}
    (hinput : WellFormed input) (hevent : .key code value ∈ input) :
    value = 0 ∨ value = 1 ∨ value = 2 := by
  refine value_of_cycles (hinput code) value ?_
  rw [valuesOf, List.mem_filterMap]
  exact ⟨.key code value, hevent, if_pos rfl⟩

theorem filterMap_trigger_eq_iff_noRepeat {input : List InputEvent}
    (hinput : WellFormed input) :
    input.filterMap trigger = edgesOf input ↔ NoRepeat input := by
  rw [filterMap_trigger_eq_iff]
  constructor
  · intro hsame code hcode hevent
    exact (trigger_eq_edge_iff (.inr (.inr rfl))).mp (hsame _ hevent) hcode rfl
  · intro hrepeat event hevent
    cases event with
    | other => rfl
    | key code value =>
      have hvalue := value_of_wellFormed hinput hevent
      refine (trigger_eq_edge_iff hvalue).mpr fun hcode htwo => ?_
      exact hrepeat code hcode (htwo ▸ hevent)

/-! ## What the stream delivers -/

variable (actions : List ReadAction)

theorem yielded_outstanding_new :
    (actions.foldl Reader.step .new).yielded ++
        (actions.foldl Reader.step .new).outstanding =
      (inputOf actions).filterMap mapEvent :=
  Reader.yielded_outstanding_foldl .new actions

theorem triggersOf_pollOut_new :
    triggersOf ((actions.foldl Reader.step .new).pollOut
        ((actions.foldl Reader.step .new).size + 1)).yielded =
      (inputOf actions).filterMap trigger := by
  rw [Reader.yielded_pollOut (Nat.lt_succ_self _), yielded_outstanding_new,
    triggersOf_filterMap]

theorem triggersOf_prefix_new :
    triggersOf (actions.foldl Reader.step .new).yielded <+:
      (inputOf actions).filterMap trigger := by
  rw [← triggersOf_filterMap, ← yielded_outstanding_new, triggersOf,
    triggersOf, List.filter_append]
  exact List.prefix_append _ _

/-- However an input of keys that are pressed and released by turns is fetched,
its presses and releases are delivered exactly when no trigger key repeats
itself. -/
theorem stream_delivers_iff_noRepeat (actions : List ReadAction)
    (hinput : WellFormed (inputOf actions)) :
    Delivers (inputOf actions) (actions.foldl Reader.step .new) ↔
      NoRepeat (inputOf actions) := by
  rw [← filterMap_trigger_eq_iff_noRepeat hinput]
  constructor
  · intro hdelivers
    rw [← triggersOf_pollOut_new]
    exact hdelivers.all
  · intro hsame
    have hprefix := triggersOf_prefix_new actions
    rw [hsame] at hprefix
    refine ⟨(triggersOf_pollOut_new actions).trans hsame, hprefix, ?_⟩
    intro slot
    obtain ⟨later, hlater⟩ := hprefix
    have hall := alternates_edgesOf hinput slot
    rw [← hlater, typesOf, List.filter_append, List.map_append] at hall
    exact hall.of_prefix

/-- The trigger of the first slot is pressed and released, in two fetches. -/
theorem delivers_press_and_release :
    WellFormed (inputOf [.arrives (.events [.key 59 1]), .polled,
        .arrives (.events [.key 59 0])]) ∧
      Delivers (inputOf [.arrives (.events [.key 59 1]), .polled,
          .arrives (.events [.key 59 0])])
        ([.arrives (.events [.key 59 1]), .polled,
          .arrives (.events [.key 59 0])].foldl Reader.step .new) := by
  have hinput : WellFormed (inputOf [.arrives (.events [.key 59 1]), .polled,
      .arrives (.events [.key 59 0])]) := by
    intro code
    by_cases hcode : 59 = code <;> simp [inputOf, Fetch.evs, valuesOf, hcode,
      Cycles]
  refine ⟨hinput, (stream_delivers_iff_noRepeat _ hinput).mpr ?_⟩
  intro code _ hevent
  simp [inputOf, Fetch.evs] at hevent

/-- A trigger that is held repeats itself, and is released twice. -/
theorem repeat_is_released :
    WellFormed (inputOf [.arrives (.events
        [.key 59 1, .key 59 2, .key 59 0]), .polled, .polled, .polled]) ∧
      ([.arrives (.events [.key 59 1, .key 59 2, .key 59 0]), .polled,
          .polled, .polled].foldl Reader.step .new).yielded =
        [⟨.press, 0⟩, ⟨.release, 0⟩, ⟨.release, 0⟩] ∧
      ¬ Delivers (inputOf [.arrives (.events
          [.key 59 1, .key 59 2, .key 59 0]), .polled, .polled, .polled])
        ([.arrives (.events [.key 59 1, .key 59 2, .key 59 0]), .polled,
          .polled, .polled].foldl Reader.step .new) := by
  refine ⟨fun code => ?_, by decide, fun hdelivers => ?_⟩
  · by_cases hcode : 59 = code <;> simp [inputOf, Fetch.evs, valuesOf, hcode,
      Cycles]
  · exact absurd hdelivers.all (by decide)

end HardwareInterfaces.GameKeys
