import HardwareInterfaces.Core.Transition
import HardwareInterfaces.TouchInjector.Service

/-!
# Calls that run at the same time

A handler can be interrupted wherever it waits for a lock.  Each call first
reads the ranges, then waits for the emulator, and does the rest in sections
under the emulator's lock, between which other calls may go on.  A section is
one step here.  The packets of one section are written in one step as well:
the states of the emulator's slots are seen only by the call that holds it.

A missing entry that is unwrapped ends the process, and so does every other
panic; the latter, which come from arithmetic and from indices out of bounds,
are steps that are not taken.
-/

namespace HardwareInterfaces.TouchInjector

open Transition

/-- What a call is about to do when it waits for the emulator. -/
inductive Plan (Client : Type) where
  | register (client : Client) (count : Nat)
  | unregister (client : Client)
  | beginTouch (client : Client) (range : SlotRange) (slot : Nat) (x y : Int)
  | endTouch (client : Client) (range : SlotRange) (slot : Nat)
  deriving DecidableEq, Repr

/-- The next section of the call that holds the emulator. -/
inductive Stage (Client : Type) where
  | readCount (client : Client) (count : Nat)
  | reserve (client : Client) (count : Nat) (range : SlotRange)
  | insertRange (client : Client) (count : Nat) (range : SlotRange)
  | insertPositions (client : Client) (count : Nat)
  | readLen (client : Client)
  | release (client : Client) (count : Nat)
  | removeRange (client : Client)
  | removePositions (client : Client)
  | remapRanges
  | enableAllTouches
  | press (client : Client) (range : SlotRange) (slot : Nat) (x y : Int)
  | lift (client : Client) (range : SlotRange) (slot : Nat)
  deriving DecidableEq, Repr

inductive Task (Client : Type) where
  | fresh (call : Call Client)
  | waiting (plan : Plan Client)
  | locked (stage : Stage Client)
  | done (status : Status)
  deriving DecidableEq, Repr

/-- How a section ends. -/
inductive Outcome (Client : Type) [LinearOrder Client] where
  | goesOn (service : TouchInjectorService Client) (stage : Stage Client)
  | returns (service : TouchInjectorService Client) (status : Status)
  | unwrapsNone

/-- What should not happen. -/
inductive Fault (Client : Type) where
  /-- Slots are reserved for a client that has a range. -/
  | reservedTwice (client : Client)
  /-- A missing entry is unwrapped. -/
  | missingEntry
  /-- A touch of the client changes a slot that is not its own. -/
  | strayTouch (client : Client) (slot : Nat)
  deriving DecidableEq, Repr

variable {Client : Type} [LinearOrder Client]

/-! ## The sections -/

namespace TouchInjectorService

variable (service : TouchInjectorService Client)

/-- The first section of `beginTouch` and `endTouch`. -/
def readRange (client : Client) (slotId : Int)
    (plan : SlotRange → Nat → Plan Client) : Task Client :=
  match service.slotRangeMap.lookup client with
  | none =>
    .done (.invalidArgument "Client is not registered for touch injection")
  | some range =>
    if inRange range slotId then .waiting (plan range (asUsize slotId))
    else .done (.invalidArgument "Slot id is outside the assigned range")

/-- Up to the emulator's lock a call only reads. -/
def firstSection : Call Client → Task Client
  | .registerClient client reply =>
    if service.isRegistered client then .done .ok
    else
      match reply with
      | none => .done .clientError
      | some reply =>
        if asUsize reply = 0 then
          .done (.invalidArgument
            "Requested slot count must be greater than zero")
        else .waiting (.register client (asUsize reply))
  | .unregisterClient client =>
    if service.isRegistered client then .waiting (.unregister client)
    else .done .ok
  | .beginTouch client slotId x y =>
    service.readRange client slotId fun range slot =>
      .beginTouch client range slot x y
  | .endTouch client slotId =>
    service.readRange client slotId (.endTouch client)

/-- The section that begins with the emulator's lock. -/
def acquire (emit : Emit) : Plan Client → Option (TouchInjectorService Client)
  | .register _ _ | .unregister _ => service.disableAllTouches emit
  | .beginTouch .. | .endTouch .. => some service

def ownsSlot (client : Client) (slot : Nat) : Bool :=
  (service.slotRangeMap.lookup client).any fun range =>
    decide (range.start ≤ slot) && decide (slot < range.stop)

/-- The emulator slots that differ and are not the client's. -/
def strays (next : TouchInjectorService Client) (client : Client) : List Nat :=
  (List.range service.touchEmulator.slotStates.length).filter fun slot =>
    decide (service.touchEmulator.slotStates[slot]? ≠
      next.touchEmulator.slotStates[slot]?) && !service.ownsSlot client slot

end TouchInjectorService

/-- The first section after the emulator is acquired. -/
def Plan.stage : Plan Client → Stage Client
  | .register client count => .readCount client count
  | .unregister client => .readLen client
  | .beginTouch client range slot x y => .press client range slot x y
  | .endTouch client range slot => .lift client range slot

namespace Stage

/-- The last section of a touch. -/
def runTouch (service : TouchInjectorService Client) (client : Client)
    (slot : Nat) (body : Option (Status × TouchInjectorService Client)) :
    Option (Outcome Client) :=
  if (service.pressedEntry client slot).isSome then
    body.map fun result => .returns result.2 result.1
  else some .unwrapsNone

def run (emit : Emit) (service : TouchInjectorService Client) :
    Stage Client → Option (Outcome Client)
  | .readCount client count =>
    (service.newRange count).map fun range =>
      .goesOn service (.reserve client count range)
  | .reserve client count range =>
    (service.reserve count).map fun next =>
      .goesOn next (.insertRange client count range)
  | .insertRange client count range =>
    some (.goesOn (service.insertRange client range)
      (.insertPositions client count))
  | .insertPositions client count =>
    (service.insertPositions client count).map fun next =>
      .goesOn next .enableAllTouches
  | .readLen client =>
    match service.rangeLen client with
    | none => some .unwrapsNone
    | some count => some (.goesOn service (.release client count))
  | .release client count =>
    (service.release count).map fun next =>
      .goesOn next (.removeRange client)
  | .removeRange client =>
    some (.goesOn (service.removeRange client) (.removePositions client))
  | .removePositions client =>
    some (.goesOn (service.removePositions client) .remapRanges)
  | .remapRanges => some (.goesOn service.remapRanges .enableAllTouches)
  | .enableAllTouches =>
    (service.enableAllTouches emit).map fun next => .returns next .ok
  | .press client range slot x y =>
    runTouch service client slot
      (service.press emit client range slot x y)
  | .lift client range slot =>
    runTouch service client slot (service.lift emit client range slot)

/-- What goes wrong in a section. -/
def faults (service : TouchInjectorService Client) :
    Stage Client → Outcome Client → List (Fault Client)
  | _, .unwrapsNone => [.missingEntry]
  | .reserve client _ _, .goesOn _ _ =>
    if service.isRegistered client then [.reservedTwice client] else []
  | .press client _ _ _ _, .returns next _
  | .lift client _ _, .returns next _ =>
    (service.strays next client).map (.strayTouch client)
  | _, _ => []

end Stage

/-! ## The server -/

structure Server (Client : Type) [LinearOrder Client] where
  service : TouchInjectorService Client
  /-- The call that holds the emulator's lock. -/
  holder : Option Nat
  tasks : List (Task Client)
  /-- What has gone wrong so far. -/
  faults : List (Fault Client)
  alive : Bool

inductive Label (Client : Type) where
  | call (call : Call Client)
  /-- The call goes on with its next section. -/
  | advance (id : Nat) (emit : Emit)

namespace Server

def idle (service : TouchInjectorService Client) : Server Client where
  service := service
  holder := none
  tasks := []
  faults := []
  alive := true

def new (addSlotCount : Nat) : Server Client :=
  idle (.new addSlotCount)

/-- The lock is released when the call returns, or with the process. -/
def finishSection (server : Server Client) (id : Nat) (stage : Stage Client)
    (outcome : Outcome Client) : Server Client :=
  let faults := server.faults ++ stage.faults server.service outcome
  match outcome with
  | .goesOn service stage =>
    { server with
      service, faults, tasks := server.tasks.set id (.locked stage) }
  | .returns service status =>
    { server with
      service, faults, holder := none
      tasks := server.tasks.set id (.done status) }
  | .unwrapsNone =>
    { server with faults, holder := none, tasks := [], alive := false }

def advance (server : Server Client) (id : Nat) (emit : Emit) :
    Task Client → Option (Server Client)
  | .fresh call =>
    some { server with
      tasks := server.tasks.set id (server.service.firstSection call) }
  | .waiting plan =>
    if server.holder = none then
      (server.service.acquire emit plan).map fun service =>
        { server with
          service, holder := some id
          tasks := server.tasks.set id (.locked plan.stage) }
    else none
  | .locked stage =>
    (stage.run emit server.service).map (server.finishSection id stage)
  | .done _ => none

def step (server : Server Client) : Label Client → Option (Server Client)
  | .call call =>
    if server.alive then
      some { server with tasks := server.tasks ++ [.fresh call] }
    else none
  | .advance id emit => server.tasks[id]?.bind (server.advance id emit)

end Server

end HardwareInterfaces.TouchInjector
