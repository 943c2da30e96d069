import HardwareInterfaces.Core.MachineArithmetic
import HardwareInterfaces.Core.OrderedMap

/-!
# Channels of the power hint sessions

A client process gets one message queue, its channel.  Channels are kept in
groups of sixteen that share an event flag, each channel with its own two bits
of the flag.  The manager finds a channel by the process that owns it.

The contents of the queues, and the thread that reads them, are left out: a
queue is valid or not from the moment it is built, and a descriptor names the
channel or the group it was taken from.
-/

namespace HardwareInterfaces.Channels

open MachineArithmetic

def kMaxChannels : Nat := 16

/-! ## Packed pairs -/

/-- The union of two 32-bit fields and a 64-bit integer. -/
def pack (low high : BitVec 32) : BitVec 64 := high ++ low

def lowField (packed : BitVec 64) : BitVec 32 := packed.extractLsb' 0 32

def highField (packed : BitVec 64) : BitVec 32 := packed.extractLsb' 32 32

def channelMapKey (tgid uid : Int32) : BitVec 64 :=
  pack tgid.toBitVec uid.toBitVec

def channelMapValue (groupId offset : Int) : BitVec 64 :=
  pack (BitVec.ofInt 32 groupId) (BitVec.ofInt 32 offset)

def valueGroupId (value : BitVec 64) : Int := (lowField value).toInt

def valueOffset (value : BitVec 64) : Int := (highField value).toInt

/-! ## Channels and their groups -/

structure SessionChannel where
  mTgid : Int32
  mUid : Int32
  mId : BitVec 64
  mReadMask : BitVec 32
  mWriteMask : BitVec 32
  /-- Whether the queue could be set up. -/
  isValid : Bool
  deriving DecidableEq, Repr

def SessionChannel.new (tgid uid : Int32) (id : BitVec 64) (offset : Nat)
    (isValid : Bool) : SessionChannel where
  mTgid := tgid
  mUid := uid
  mId := id
  mReadMask := 1#32 <<< (offset + 16)
  mWriteMask := 1#32 <<< offset
  isValid := isValid

structure ChannelGroup where
  mLiveChannels : Int
  mGroupId : Int
  mChannels : Fin kMaxChannels → Option SessionChannel

/-- The checks that abort the process. -/
inductive Fatal where
  /-- "Failed to create channel!" -/
  | noFreeSlot
  /-- "Requesting a dead channel!" -/
  | deadChannel
  /-- `std::map::at` finds no group. -/
  | missingGroup
  deriving DecidableEq, Repr

namespace ChannelGroup

def new (id : Int) : ChannelGroup where
  mLiveChannels := 0
  mGroupId := id
  mChannels := fun _ => none

def getChannelCount (group : ChannelGroup) : Int := group.mLiveChannels

/-- The slot that an index denotes; there is none outside the array. -/
def slotOf (index : Int) : Option (Fin kMaxChannels) :=
  if hindex : 0 ≤ index ∧ index.toNat < kMaxChannels then
    some ⟨index.toNat, hindex.2⟩
  else none

def channelAt (group : ChannelGroup) (index : Int) : Option SessionChannel :=
  (slotOf index).bind group.mChannels

def setChannel (group : ChannelGroup) (index : Int)
    (channel : Option SessionChannel) : ChannelGroup :=
  match slotOf index with
  | none => group
  | some slot =>
    { group with mChannels := Function.update group.mChannels slot channel }

def removeChannel (group : ChannelGroup) (slot : Int) : Bool × ChannelGroup :=
  if (group.channelAt slot).isNone then (false, group)
  else
    (true,
      { group.setChannel slot none with
        mLiveChannels := int32 (group.mLiveChannels - 1) })

/-- The first slot that holds no channel. -/
def freeSlot (group : ChannelGroup) : Option (Fin kMaxChannels) :=
  (List.finRange kMaxChannels).find? fun slot => (group.mChannels slot).isNone

def createChannel (group : ChannelGroup) (tgid uid : Int32) (isValid : Bool) :
    Except Fatal (SessionChannel × ChannelGroup) :=
  match group.freeSlot with
  | none => .error .noFreeSlot
  | some slot =>
    let channelId := channelMapValue group.mGroupId slot
    let channel := SessionChannel.new tgid uid channelId slot isValid
    .ok (channel,
      { group with
        mLiveChannels := int32 (group.mLiveChannels + 1)
        mChannels := Function.update group.mChannels slot (some channel) })

def getChannel (group : ChannelGroup) (slot : Int) :
    Except Fatal SessionChannel :=
  match group.channelAt slot with
  | none => .error .deadChannel
  | some channel => .ok channel

end ChannelGroup

/-! ## The manager -/

structure ChannelManager where
  mChannelGroups : OrderedMap Int ChannelGroup
  mChannelMap : BitVec 64 → Option (BitVec 64)

/-- What a client is told about its channel: the group of the event flag, the
channel of the queue, and the bits of the flag. -/
structure ChannelConfig where
  eventFlagDescriptor : Int
  channelDescriptor : BitVec 64
  readFlagBitmask : BitVec 32
  writeFlagBitmask : BitVec 32
  deriving DecidableEq, Repr

namespace ChannelManager

variable (manager : ChannelManager)

def new : ChannelManager where
  mChannelGroups := .empty
  mChannelMap := fun _ => none

/-- `mChannelGroups.at(groupId)` -/
def groupAt (groupId : Int) : Except Fatal ChannelGroup :=
  match manager.mChannelGroups.lookup groupId with
  | none => .error .missingGroup
  | some group => .ok group

/-- The comparison of a count with `kMaxChannels` is one of unsigned 64-bit
numbers. -/
def hasRoom (group : ChannelGroup) : Bool :=
  decide (group.getChannelCount % 2 ^ 64 < kMaxChannels)

/-- The first group with room, or minus one. -/
def groupWithRoom : Int :=
  match manager.mChannelGroups.entries.find? fun entry => hasRoom entry.2 with
  | none => -1
  | some entry => entry.1

/-- The number of a new group. -/
def nextGroupId : Int :=
  match manager.mChannelGroups.entries.getLast? with
  | none => 0
  | some entry => int32 (entry.1 + 1)

/-- `emplace` keeps a group that is there already. -/
def emplaceGroup (groupId : Int) : ChannelManager :=
  match manager.mChannelGroups.lookup groupId with
  | none =>
    { manager with
      mChannelGroups :=
        manager.mChannelGroups.insert groupId (ChannelGroup.new groupId) }
  | some _ => manager

/-- The group for a new channel, made if there is no room in any. -/
def chooseGroup : Int × ChannelManager :=
  if manager.groupWithRoom = -1 then
    (manager.nextGroupId, manager.emplaceGroup manager.nextGroupId)
  else (manager.groupWithRoom, manager)

/-- A channel created in the group, and entered in the map. -/
def createIn (groupId : Int) (tgid uid : Int32) (isValid : Bool) :
    Except Fatal (SessionChannel × ChannelManager) := do
  let group ← manager.groupAt groupId
  let (channel, group') ← group.createChannel tgid uid isValid
  return (channel,
    { manager with
      mChannelGroups := manager.mChannelGroups.insert groupId group'
      mChannelMap :=
        Function.update manager.mChannelMap (channelMapKey tgid uid)
          (some channel.mId) })

/-- `isValid` says whether the queue of a channel built here is valid. -/
def getOrCreateChannel (tgid uid : Int32) (isValid : Bool) :
    Except Fatal (SessionChannel × ChannelManager) :=
  match manager.mChannelMap (channelMapKey tgid uid) with
  | some value => do
      let group ← manager.groupAt (valueGroupId value)
      let channel ← group.getChannel (valueOffset value)
      return (channel, manager)
  | none =>
    manager.chooseGroup.2.createIn manager.chooseGroup.1 tgid uid isValid

def getChannelConfig (tgid uid : Int32) (isValid : Bool) :
    Except Fatal (Option ChannelConfig × ChannelManager) := do
  let (channel, manager') ← manager.getOrCreateChannel tgid uid isValid
  if channel.isValid then
    let group ← manager'.groupAt (valueGroupId channel.mId)
    return (some
      { eventFlagDescriptor := group.mGroupId
        channelDescriptor := channel.mId
        readFlagBitmask := channel.mReadMask
        writeFlagBitmask := channel.mWriteMask }, manager')
  else return (none, manager')

def closeChannel (tgid uid : Int32) : Bool × ChannelManager :=
  match manager.mChannelMap (channelMapKey tgid uid) with
  | none => (false, manager)
  | some value =>
    match manager.mChannelGroups.lookup (valueGroupId value) with
    | none => (false, manager)
    | some group =>
      let (removed, group') := group.removeChannel (valueOffset value)
      if removed then
        (true,
          { mChannelGroups :=
              if group'.getChannelCount = 0 then
                manager.mChannelGroups.erase (valueGroupId value)
              else
                manager.mChannelGroups.insert (valueGroupId value) group'
            mChannelMap :=
              Function.update manager.mChannelMap
                (channelMapKey tgid uid) none })
      else
        (false, manager)

def getGroupCount : Nat := manager.mChannelGroups.entries.length

def getChannelCount : Int :=
  manager.mChannelGroups.entries.foldl
    (fun out entry => int32 (out + entry.2.getChannelCount)) 0

/-- A call of the manager, with the outcome of setting up a new queue. -/
inductive Call where
  | getChannelConfig (tgid uid : Int32) (isValid : Bool)
  | closeChannel (tgid uid : Int32)
  deriving DecidableEq, Repr

/-- A call that does not return leaves no state. -/
def call : ChannelManager → Call → Option ChannelManager
  | manager, .getChannelConfig tgid uid isValid =>
    (manager.getChannelConfig tgid uid isValid).toOption.map Prod.snd
  | manager, .closeChannel tgid uid => some (manager.closeChannel tgid uid).2

/-- Whether a call makes a new group. -/
def createsGroup : ChannelManager → Call → Bool
  | manager, .getChannelConfig tgid uid _ =>
    (manager.mChannelMap (channelMapKey tgid uid)).isNone &&
      decide (manager.groupWithRoom = -1)
  | _, .closeChannel _ _ => false

end ChannelManager

end HardwareInterfaces.Channels
