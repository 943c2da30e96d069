import HardwareInterfaces.Core.Framing
import HardwareInterfaces.TouchInjector.InputEvents

/-!
# The event stream of the source device

The source device is read in pieces that need not end where a packet ends.
The stream keeps what has been read, and hands out one packet for each poll
that finds a complete one.
-/

namespace HardwareInterfaces.TouchInjector

open Framing

namespace InputEvent

/-- `EV_SYN` and `SYN_REPORT` are both zero; the value does not matter. -/
def isSynReport : InputEvent → Bool
  | .synReport => true
  | .other type code _ => type == 0 && code == 0
  | _ => false

end InputEvent

/-- A packet contains one report, as its last event. -/
def IsPacket (evs : List InputEvent) : Prop :=
  IsFrame InputEvent.isSynReport evs

/-- The packets of an input, and the events after them. -/
def packetsOf (input : List InputEvent) :
    List (List InputEvent) × List InputEvent :=
  cut InputEvent.isSynReport input

/-- How the next wait for the device, or the fetch after it, ends. -/
inductive Fetch where
  | events (evs : List InputEvent)
  | wouldBlock
  | failed (error : Int)
  /-- The wait itself fails, and nothing is fetched. -/
  | notWatched (error : Int)
  deriving DecidableEq, Repr

def Fetch.evs : Fetch → List InputEvent
  | .events evs => evs
  | _ => []

inductive Poll where
  | pending
  | ready (item : Except Int (List InputEvent))

structure GrabbedInputEventStream where
  pending : List InputEvent
  deriving DecidableEq, Repr

namespace GrabbedInputEventStream

def tryPopFront (stream : GrabbedInputEventStream) :
    Option (List InputEvent × GrabbedInputEventStream) :=
  (popFrame InputEvent.isSynReport stream.pending).map fun popped =>
    (popped.1, { pending := popped.2 })

/-- The loop of a poll; without a further answer the device is not ready. -/
def fetchLoop (stream : GrabbedInputEventStream) :
    List Fetch → Poll × GrabbedInputEventStream × List Fetch
  | [] => (.pending, stream, [])
  | .notWatched error :: fetches => (.ready (.error error), stream, fetches)
  | .events evs :: fetches =>
    let stream : GrabbedInputEventStream :=
      { pending := stream.pending ++ evs }
    match stream.tryPopFront with
    | some (completeEv, stream) => (.ready (.ok completeEv), stream, fetches)
    | none => fetchLoop stream fetches
  | .failed error :: fetches => (.ready (.error error), stream, fetches)
  | .wouldBlock :: fetches => fetchLoop stream fetches

def pollNext (stream : GrabbedInputEventStream) (fetches : List Fetch) :
    Poll × GrabbedInputEventStream × List Fetch :=
  match stream.tryPopFront with
  | some (completeEv, stream) => (.ready (.ok completeEv), stream, fetches)
  | none => stream.fetchLoop fetches

end GrabbedInputEventStream

/-! ## Reading a device -/

/-- A stream, what the device will answer, and the packets handed out. -/
structure Reader where
  stream : GrabbedInputEventStream
  device : List Fetch
  packets : List (List InputEvent)

/-- The device gets something to answer, or the stream is polled. -/
inductive ReadAction where
  | arrives (fetch : Fetch)
  | polled
  deriving DecidableEq, Repr

/-- The events that arrive at the device. -/
def inputOf (actions : List ReadAction) : List InputEvent :=
  actions.flatMap fun
    | .arrives fetch => fetch.evs
    | .polled => []

def Poll.packets : Poll → List (List InputEvent)
  | .ready (.ok evs) => [evs]
  | _ => []

namespace Reader

def new : Reader where
  stream := ⟨[]⟩
  device := []
  packets := []

def poll (reader : Reader) : Poll × Reader :=
  let (result, stream, device) := reader.stream.pollNext reader.device
  (result, { stream, device, packets := reader.packets ++ result.packets })

def step (reader : Reader) : ReadAction → Reader
  | .arrives fetch => { reader with device := reader.device ++ [fetch] }
  | .polled => reader.poll.2

/-- Events that have been read or can be, but were not handed out. -/
def outstanding (reader : Reader) : List InputEvent :=
  reader.stream.pending ++ reader.device.flatMap Fetch.evs

end Reader

/-! ## What a poll does -/

namespace GrabbedInputEventStream

variable {stream next : GrabbedInputEventStream} {evs : List InputEvent}

theorem tryPopFront_eq_some
    (hpop : stream.tryPopFront = some (evs, next)) :
    IsPacket evs ∧ evs ++ next.pending = stream.pending := by
  obtain ⟨⟨frame, rest⟩, hframe, heq⟩ := Option.map_eq_some_iff.mp hpop
  cases heq
  exact popFrame_eq_some hframe

theorem tryPopFront_eq_none (hpop : stream.tryPopFront = none) :
    ∀ event ∈ stream.pending, event.isSynReport = false :=
  popFrame_eq_none.mp (Option.map_eq_none_iff.mp hpop)

/-- A poll moves events on from the device to the stream, and a packet out of
it.  It gives nothing only when the device has no answers and the stream no
packet. -/
structure Polled (stream : GrabbedInputEventStream) (fetches : List Fetch)
    (result : Poll) (next : GrabbedInputEventStream) (rest : List Fetch) :
    Prop where
  packet : ∀ evs ∈ result.packets, IsPacket evs
  events : result.packets.flatten ++ next.pending ++ rest.flatMap Fetch.evs =
    stream.pending ++ fetches.flatMap Fetch.evs
  shorter : rest.length ≤ fetches.length
  idle : result = .pending →
    rest = [] ∧ ∀ event ∈ next.pending, event.isSynReport = false
  failure : ∀ error, result = .ready (.error error) →
    rest.length < fetches.length

theorem polled_of_pop (hpop : stream.tryPopFront = some (evs, next))
    (fetches : List Fetch) :
    Polled stream fetches (.ready (.ok evs)) next fetches := by
  obtain ⟨hpacket, hevs⟩ := tryPopFront_eq_some hpop
  refine ⟨List.forall_mem_singleton.mpr hpacket, ?_, le_rfl, nofun, nofun⟩
  rw [← hevs]
  simp [Poll.packets]

/-- The loop goes on with an answer that gives no packet. -/
theorem Polled.of_tail {fetch : Fetch} {fetches rest : List Fetch}
    {result : Poll}
    (hpolled : Polled ⟨stream.pending ++ fetch.evs⟩ fetches result next rest) :
    Polled stream (fetch :: fetches) result next rest where
  packet := hpolled.packet
  events := by
    rw [hpolled.events, List.append_assoc, List.flatMap_cons]
  shorter := hpolled.shorter.trans (Nat.le_succ fetches.length)
  idle := hpolled.idle
  failure := fun error herror =>
    (hpolled.failure error herror).trans (Nat.lt_succ_self fetches.length)

/-- A poll that reports an error leaves the events where they are. -/
theorem polled_of_error (stream : GrabbedInputEventStream) {fetch : Fetch}
    (hfetch : fetch.evs = []) (error : Int) (fetches : List Fetch) :
    Polled stream (fetch :: fetches) (.ready (.error error)) stream fetches where
  packet := nofun
  events := by
    rw [List.flatMap_cons, hfetch]
    rfl
  shorter := Nat.le_succ fetches.length
  idle := nofun
  failure := fun _ _ => Nat.lt_succ_self fetches.length

theorem polled_fetchLoop (hpop : stream.tryPopFront = none)
    (fetches : List Fetch) :
    Polled stream fetches (stream.fetchLoop fetches).1
      (stream.fetchLoop fetches).2.1 (stream.fetchLoop fetches).2.2 := by
  induction fetches generalizing stream with
  | nil =>
    exact ⟨nofun, rfl, le_rfl, fun _ => ⟨rfl, tryPopFront_eq_none hpop⟩, nofun⟩
  | cons fetch fetches ih =>
    cases fetch with
    | notWatched error => exact polled_of_error stream rfl error fetches
    | failed error => exact polled_of_error stream rfl error fetches
    | wouldBlock =>
      apply Polled.of_tail
      have hsame : stream.pending ++ Fetch.wouldBlock.evs =
          stream.pending := List.append_nil stream.pending
      rw [hsame]
      exact ih hpop
    | events evs =>
      apply Polled.of_tail
      rw [fetchLoop, Fetch.evs]
      split
      · next completeEv next hnext => exact polled_of_pop hnext fetches
      · next hnone => exact ih hnone

theorem polled_pollNext (stream : GrabbedInputEventStream)
    (fetches : List Fetch) :
    Polled stream fetches (stream.pollNext fetches).1
      (stream.pollNext fetches).2.1 (stream.pollNext fetches).2.2 := by
  rw [pollNext]
  split
  · next completeEv next hnext => exact polled_of_pop hnext fetches
  · next hnone => exact polled_fetchLoop hnone fetches

end GrabbedInputEventStream

/-! ## Whole readings -/

namespace Reader

/-- The packets handed out and the outstanding events are the input. -/
structure Follows (input : List InputEvent) (reader : Reader) : Prop where
  events : reader.packets.flatten ++ reader.outstanding = input
  packet : ∀ evs ∈ reader.packets, IsPacket evs

variable {input : List InputEvent} {reader : Reader}

theorem polled_poll (reader : Reader) :
    reader.stream.Polled reader.device reader.poll.1 reader.poll.2.stream
      reader.poll.2.device :=
  GrabbedInputEventStream.polled_pollNext reader.stream reader.device

theorem outstanding_poll (reader : Reader) :
    reader.poll.1.packets.flatten ++ reader.poll.2.outstanding =
      reader.outstanding := by
  rw [outstanding, ← List.append_assoc]
  exact reader.polled_poll.events

theorem packets_poll (reader : Reader) :
    reader.poll.2.packets = reader.packets ++ reader.poll.1.packets :=
  rfl

section

variable (hfollows : Follows input reader)
include hfollows

theorem Follows.arrives (fetch : Fetch) :
    Follows (input ++ fetch.evs) (reader.step (.arrives fetch)) where
  events := by
    rw [← hfollows.events]
    simp [step, outstanding]
  packet := hfollows.packet

theorem Follows.polled :
    Follows input reader.poll.2 where
  events := by
    rw [packets_poll, List.flatten_append, List.append_assoc, outstanding_poll,
      hfollows.events]
  packet := by
    rw [packets_poll]
    exact List.forall_mem_append.mpr ⟨hfollows.packet, reader.polled_poll.packet⟩

theorem follows_foldl (actions : List ReadAction) :
    Follows (input ++ inputOf actions) (actions.foldl step reader) := by
  induction actions generalizing input reader with
  | nil =>
    rw [inputOf, List.flatMap_nil, List.append_nil]
    exact hfollows
  | cons action actions ih =>
    cases action with
    | arrives fetch =>
      have hrest := ih (hfollows.arrives fetch)
      rw [List.append_assoc] at hrest
      exact hrest
    | polled => exact ih hfollows.polled

/-- The packets handed out are the first ones of the input. -/
theorem Follows.packetsOf_eq :
    packetsOf input = (reader.packets ++ (packetsOf reader.outstanding).1,
      (packetsOf reader.outstanding).2) := by
  rw [← hfollows.events]
  exact cut_flatten_append hfollows.packet reader.outstanding

/-- A poll that finds no packet has handed out all of them. -/
theorem Follows.of_pending (hpending : reader.poll.1 = .pending) :
    reader.poll.2.packets = (packetsOf input).1 ∧
      reader.poll.2.stream.pending = (packetsOf input).2 ∧
      reader.poll.2.device = [] := by
  obtain ⟨hdevice, hopen⟩ := reader.polled_poll.idle hpending
  have hrest : reader.poll.2.outstanding = reader.poll.2.stream.pending := by
    rw [outstanding, hdevice, List.flatMap_nil, List.append_nil]
  have hall : packetsOf input =
      (reader.poll.2.packets, reader.poll.2.stream.pending) := by
    rw [hfollows.polled.packetsOf_eq, hrest, packetsOf, cut_of_open hopen,
      List.append_nil]
  rw [hall]
  exact ⟨rfl, rfl, hdevice⟩

end

/-- Polls that find something come to an end: each takes an answer of the
device or hands out an event. -/
theorem exists_polls_pending (reader : Reader) :
    ∃ count, ((List.replicate count .polled).foldl step reader).poll.1 =
      .pending := by
  induction hsize : reader.device.length + reader.outstanding.length using
    Nat.strong_induction_on generalizing reader with
  | h size ih =>
    cases hresult : reader.poll.1 with
    | pending => exact ⟨0, hresult⟩
    | ready item =>
      have hpolled := reader.polled_poll
      have houtstanding := congrArg List.length reader.outstanding_poll
      have hless : reader.poll.2.device.length +
          reader.poll.2.outstanding.length < size := by
        rw [hresult] at hpolled houtstanding
        have hdevice := hpolled.shorter
        cases item with
        | error error =>
          have hfewer := hpolled.failure error rfl
          simp only [Poll.packets, List.flatten_nil,
            List.nil_append] at houtstanding
          omega
        | ok evs =>
          obtain ⟨body, last, rfl, -, -⟩ :=
            hpolled.packet evs List.mem_cons_self
          simp [Poll.packets] at houtstanding
          omega
      obtain ⟨count, hcount⟩ := ih _ hless reader.poll.2 rfl
      exact ⟨count + 1, hcount⟩

/-- However the input is fetched and the stream polled, the packets and what
is outstanding are the input in order, every packet contains one report as its
last event, and the packets are those that the input alone determines: the
first ones at any time, and all of them when a poll finds no more, as it will
after enough polls. -/
theorem packets_are_those_of_the_input (actions : List ReadAction) :
    let reader := actions.foldl step new
    let input := inputOf actions
    reader.packets.flatten ++ reader.outstanding = input ∧
      (∀ evs ∈ reader.packets, IsPacket evs) ∧
      reader.packets <+: (packetsOf input).1 ∧
      (reader.poll.1 = .pending →
        reader.poll.2.packets = (packetsOf input).1 ∧
          reader.poll.2.stream.pending = (packetsOf input).2 ∧
          reader.poll.2.device = []) ∧
      ∃ count, ((List.replicate count .polled).foldl step reader).poll.1 =
        .pending := by
  have hfollows : Follows (inputOf actions) (actions.foldl step new) := by
    have hnew : Follows [] new :=
      ⟨rfl, fun evs hevs => absurd hevs List.not_mem_nil⟩
    exact follows_foldl hnew actions
  refine ⟨hfollows.events, hfollows.packet, ?_, hfollows.of_pending,
    exists_polls_pending _⟩
  rw [hfollows.packetsOf_eq]
  exact List.prefix_append _ _

/-- Two packets in three fetches, the first of them cut in two, and the start
of a third. -/
def sampleActions : List ReadAction :=
  [.arrives (.events [.absolute .mtSlot 1]),
    .polled,
    .arrives .wouldBlock,
    .arrives (.events [.absolute .mtTrackingId 7, .synReport,
      .absolute (.mt .positionX) 5, .synReport, .key .btnTouch 1]),
    .arrives (.events []),
    .polled,
    .polled]

theorem packets_are_those_of_the_input_sample :
    (sampleActions.foldl step new).poll.1 = .pending ∧
      (sampleActions.foldl step new).poll.2.packets =
        (packetsOf (inputOf sampleActions)).1 ∧
      (packetsOf (inputOf sampleActions)).1 =
        [[.absolute .mtSlot 1, .absolute .mtTrackingId 7, .synReport],
          [.absolute (.mt .positionX) 5, .synReport]] :=
  ⟨rfl,
    ((packets_are_those_of_the_input sampleActions).2.2.2.1 rfl).1,
    by decide⟩

end Reader

end HardwareInterfaces.TouchInjector
