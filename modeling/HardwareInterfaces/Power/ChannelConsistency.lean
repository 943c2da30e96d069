import HardwareInterfaces.Core.Transition
import HardwareInterfaces.Power.ChannelManager

/-!
# Consistency of the channel tables

The map from processes to packed positions and the groups with their slots are
updated separately.  They are two views of one partial injection: a process is
entered at a position exactly when the channel at that position was created
for the process.
-/

namespace HardwareInterfaces.Channels

open MachineArithmetic

/-! ## Packed pairs -/

@[simp]
theorem lowField_pack (low high : BitVec 32) :
    lowField (pack low high) = low :=
  BitVec.extractLsb'_append_eq_right

@[simp]
theorem highField_pack (low high : BitVec 32) :
    highField (pack low high) = high :=
  BitVec.extractLsb'_append_eq_left

theorem pack_fields (packed : BitVec 64) :
    pack (lowField packed) (highField packed) = packed := by
  have happend : highField packed ++ lowField packed =
      packed.extractLsb' 0 (32 + 32) :=
    BitVec.extractLsb'_append_extractLsb'_eq_extractLsb' rfl
  rw [pack]
  exact happend.trans BitVec.extractLsb'_eq_self

theorem channelMapKey_inj {tgid uid tgid' uid' : Int32} :
    channelMapKey tgid uid = channelMapKey tgid' uid' ↔
      tgid = tgid' ∧ uid = uid' := by
  constructor
  · intro hkey
    have hlow := congrArg lowField hkey
    have hhigh := congrArg highField hkey
    simp only [channelMapKey, lowField_pack, highField_pack] at hlow hhigh
    exact ⟨Int32.toBitVec_inj.mp hlow, Int32.toBitVec_inj.mp hhigh⟩
  · rintro ⟨rfl, rfl⟩
    rfl

theorem valueGroupId_channelMapValue {groupId : Int} (offset : Int)
    (hlower : -2 ^ 31 ≤ groupId) (hupper : groupId < 2 ^ 31) :
    valueGroupId (channelMapValue groupId offset) = groupId := by
  rw [valueGroupId, channelMapValue, lowField_pack, BitVec.toInt_ofInt]
  exact int32_eq_self hlower hupper

theorem valueOffset_channelMapValue (groupId : Int) {offset : Int}
    (hlower : -2 ^ 31 ≤ offset) (hupper : offset < 2 ^ 31) :
    valueOffset (channelMapValue groupId offset) = offset := by
  rw [valueOffset, channelMapValue, highField_pack, BitVec.toInt_ofInt]
  exact int32_eq_self hlower hupper

theorem channelMapValue_fields (value : BitVec 64) :
    channelMapValue (valueGroupId value) (valueOffset value) = value := by
  rw [channelMapValue, valueGroupId, valueOffset, BitVec.ofInt_toInt,
    BitVec.ofInt_toInt, pack_fields]

/-! ## One group -/

/-- The process that a channel was created for. -/
def SessionChannel.owner (channel : SessionChannel) : Int32 × Int32 :=
  (channel.mTgid, channel.mUid)

namespace ChannelGroup

variable {group : ChannelGroup} {groupId : Int}

def liveSlots (group : ChannelGroup) : Finset (Fin kMaxChannels) :=
  Finset.univ.filter fun slot => (group.mChannels slot).isSome

/-- The count of a group is right, and its channels know their place. -/
structure WellFormed (groupId : Int) (group : ChannelGroup) : Prop where
  groupId_eq : group.mGroupId = groupId
  count_eq : group.mLiveChannels = group.liveSlots.card
  channel_eq : ∀ slot channel, group.mChannels slot = some channel →
    channel.mId = channelMapValue groupId slot ∧
      channel.mReadMask = 1#32 <<< (slot.val + 16) ∧
      channel.mWriteMask = 1#32 <<< slot.val

variable {slot : Fin kMaxChannels}

theorem slotOf_eq_some_iff {index : Int} :
    slotOf index = some slot ↔ index = slot := by
  have hslot := slot.isLt
  rw [slotOf]
  split_ifs with hindex
  · rw [Option.some.injEq, Fin.ext_iff, Fin.val_mk]
    omega
  · have houtside : index ≠ slot := by omega
    simpa using houtside

@[simp]
theorem slotOf_val (slot : Fin kMaxChannels) : slotOf slot = some slot :=
  slotOf_eq_some_iff.mpr rfl

theorem mem_liveSlots :
    slot ∈ group.liveSlots ↔ (group.mChannels slot).isSome := by
  rw [liveSlots, Finset.mem_filter]
  exact and_iff_right (Finset.mem_univ slot)

theorem card_liveSlots_le : group.liveSlots.card ≤ kMaxChannels := by
  calc group.liveSlots.card ≤ Fintype.card (Fin kMaxChannels) :=
        Finset.card_le_univ _
    _ = kMaxChannels := Fintype.card_fin kMaxChannels

theorem wellFormed_new (groupId : Int) : WellFormed groupId (new groupId) where
  groupId_eq := rfl
  count_eq := by
    have hempty : (new groupId).liveSlots = ∅ := Finset.filter_false _
    rw [hempty]
    rfl
  channel_eq := by
    intro slot channel hchannel
    exact absurd hchannel (by simp [new])

/-- A group that is not full has a free slot. -/
theorem exists_freeSlot (hroom : group.liveSlots.card < kMaxChannels) :
    ∃ slot, group.freeSlot = some slot ∧ group.mChannels slot = none := by
  cases hfree : group.freeSlot with
  | some slot =>
    have hnone := List.find?_some hfree
    exact ⟨slot, rfl, Option.isNone_iff_eq_none.mp hnone⟩
  | none =>
    have hfull : group.liveSlots = Finset.univ := by
      ext slot
      have hlive := List.find?_eq_none.mp hfree slot (List.mem_finRange slot)
      simpa [mem_liveSlots, Option.isSome_iff_ne_none] using hlive
    rw [hfull, Finset.card_univ, Fintype.card_fin] at hroom
    exact absurd hroom (lt_irrefl _)

theorem liveSlots_update_some {group' : ChannelGroup}
    {channel : SessionChannel} (hchannels : group'.mChannels =
      Function.update group.mChannels slot (some channel)) :
    group'.liveSlots = insert slot group.liveSlots := by
  ext other
  rw [Finset.mem_insert, mem_liveSlots, mem_liveSlots, hchannels,
    Function.update_apply]
  by_cases hother : other = slot <;> simp [hother]

theorem liveSlots_update_none {group' : ChannelGroup}
    (hchannels : group'.mChannels =
      Function.update group.mChannels slot none) :
    group'.liveSlots = group.liveSlots.erase slot := by
  ext other
  rw [Finset.mem_erase, mem_liveSlots, mem_liveSlots, hchannels,
    Function.update_apply]
  by_cases hother : other = slot <;> simp [hother]

theorem int32_count {count : Int} (hlower : 0 ≤ count)
    (hupper : count ≤ kMaxChannels) : int32 count = count := by
  have hmax : (kMaxChannels : Int) = 16 := rfl
  exact int32_eq_self (by omega) (by omega)

/-- What creating a channel does to a group with room. -/
theorem WellFormed.createChannel (hgroup : WellFormed groupId group)
    (hroom : group.liveSlots.card < kMaxChannels) (tgid uid : Int32)
    (isValid : Bool) :
    ∃ slot channel group', group.createChannel tgid uid isValid =
        .ok (channel, group') ∧
      group.mChannels slot = none ∧
      group'.mChannels = Function.update group.mChannels slot (some channel) ∧
      channel.owner = (tgid, uid) ∧ channel.mId = channelMapValue groupId slot ∧
      WellFormed groupId group' := by
  obtain ⟨slot, hfree, hnone⟩ := exists_freeSlot hroom
  let channelId := channelMapValue groupId slot
  let channel := SessionChannel.new tgid uid channelId slot isValid
  let group' : ChannelGroup :=
    { group with
      mLiveChannels := int32 (group.mLiveChannels + 1)
      mChannels := Function.update group.mChannels slot (some channel) }
  have hcreate : group.createChannel tgid uid isValid =
      .ok (channel, group') := by
    simp only [ChannelGroup.createChannel, hfree, hgroup.groupId_eq, group',
      channel, channelId]
  have hcount : group'.mLiveChannels = group'.liveSlots.card := by
    have hnotMem : slot ∉ group.liveSlots := by
      rw [mem_liveSlots, hnone]
      exact Bool.false_ne_true
    have hslots : group'.liveSlots = insert slot group.liveSlots :=
      liveSlots_update_some rfl
    calc group'.mLiveChannels
        = int32 (group.liveSlots.card + 1) := by rw [← hgroup.count_eq]
      _ = (group.liveSlots.card + 1 : Nat) := int32_count (by omega) (by omega)
      _ = group'.liveSlots.card := by
          rw [hslots, Finset.card_insert_of_notMem hnotMem]
  refine ⟨slot, channel, group', hcreate, hnone, rfl, rfl, rfl,
    hgroup.groupId_eq, hcount, ?_⟩
  intro other channel' hchannel
  simp only [group', Function.update_apply] at hchannel
  split_ifs at hchannel with hother
  · cases hchannel
    rw [hother]
    exact ⟨rfl, rfl, rfl⟩
  · exact hgroup.channel_eq other channel' hchannel

/-- What removing a live channel does to a group. -/
theorem WellFormed.removeChannel (hgroup : WellFormed groupId group)
    {channel : SessionChannel}
    (hchannel : group.mChannels slot = some channel) :
    ∃ group', group.removeChannel slot = (true, group') ∧
      group'.mChannels = Function.update group.mChannels slot none ∧
      WellFormed groupId group' := by
  let group' : ChannelGroup :=
    { group with
      mLiveChannels := int32 (group.mLiveChannels - 1)
      mChannels := Function.update group.mChannels slot none }
  have hremove : group.removeChannel slot = (true, group') := by
    simp [ChannelGroup.removeChannel, channelAt, setChannel, hchannel, group']
  have hcount : group'.mLiveChannels = group'.liveSlots.card := by
    have hmem : slot ∈ group.liveSlots := by
      rw [mem_liveSlots, hchannel]
      rfl
    have hpos : 0 < group.liveSlots.card := Finset.card_pos.mpr ⟨slot, hmem⟩
    have hle := group.card_liveSlots_le
    have hslots : group'.liveSlots = group.liveSlots.erase slot :=
      liveSlots_update_none rfl
    calc group'.mLiveChannels
        = int32 (group.liveSlots.card - 1) := by rw [← hgroup.count_eq]
      _ = group.liveSlots.card - 1 := int32_count (by omega) (by omega)
      _ = group'.liveSlots.card := by
          rw [hslots, Finset.card_erase_of_mem hmem]
          omega
  refine ⟨group', hremove, rfl, hgroup.groupId_eq, hcount, ?_⟩
  intro other channel' hchannel'
  simp only [group', Function.update_apply] at hchannel'
  split_ifs at hchannel' with hother
  exact hgroup.channel_eq other channel' hchannel'

end ChannelGroup

/-! ## Two views of one partial injection -/

section Inverse

variable {Owner Place : Type*} [DecidableEq Owner] [DecidableEq Place]

/-- Two partial functions are inverse to each other. -/
def Inverse (place : Owner → Option Place) (owner : Place → Option Owner) :
    Prop :=
  ∀ who position, place who = some position ↔ owner position = some who

variable {place : Owner → Option Place} {owner : Place → Option Owner}
  {who : Owner} {position : Place}

theorem Inverse.assign (hinverse : Inverse place owner)
    (habsent : place who = none) (hfree : owner position = none) :
    Inverse (Function.update place who (some position))
      (Function.update owner position (some who)) := by
  intro other at'
  have hother := hinverse other at'
  rw [Function.update_apply, Function.update_apply]
  grind

theorem Inverse.release (hinverse : Inverse place owner)
    (hplace : place who = some position) :
    Inverse (Function.update place who none)
      (Function.update owner position none) := by
  intro other at'
  have hother := hinverse other at'
  have howner := (hinverse who position).mp hplace
  rw [Function.update_apply, Function.update_apply]
  grind

end Inverse

/-- The owner of the channel in a slot of a group that may be missing. -/
def cellOwner (group : Option ChannelGroup) (index : Int) :
    Option (Int32 × Int32) :=
  group.bind fun group => (group.channelAt index).map SessionChannel.owner

theorem cellOwner_of_update {group group' : ChannelGroup}
    {slot : Fin kMaxChannels} {channel : Option SessionChannel}
    (hchannels : group'.mChannels =
      Function.update group.mChannels slot channel) :
    cellOwner (some group') =
      Function.update (cellOwner (some group)) slot
        (channel.map SessionChannel.owner) := by
  funext index
  rw [Function.update_apply]
  simp only [cellOwner, Option.bind_some, ChannelGroup.channelAt, hchannels]
  split_ifs with hindex
  · rw [hindex, ChannelGroup.slotOf_val, Option.bind_some, Function.update_self]
  · congr 1
    refine Option.bind_congr fun other hother => ?_
    rw [Function.update_of_ne]
    rintro rfl
    exact hindex (ChannelGroup.slotOf_eq_some_iff.mp hother)

theorem cellOwner_of_empty {group : ChannelGroup}
    (hempty : group.liveSlots = ∅) : cellOwner (some group) = cellOwner none := by
  funext index
  have hnone : ∀ slot, group.mChannels slot = none := by
    intro slot
    have hslot : slot ∉ group.liveSlots := by
      rw [hempty]
      exact Finset.notMem_empty slot
    simpa [ChannelGroup.mem_liveSlots] using hslot
  rw [cellOwner, Option.bind_some, ChannelGroup.channelAt, funext hnone,
    Option.bind_fun_none]
  rfl

namespace ChannelManager

variable {manager manager' : ChannelManager} {groupId : Int}

def place (manager : ChannelManager) (pair : Int32 × Int32) :
    Option (BitVec 64) :=
  manager.mChannelMap (channelMapKey pair.1 pair.2)

def owner (manager : ChannelManager) (value : BitVec 64) :
    Option (Int32 × Int32) :=
  cellOwner (manager.mChannelGroups.lookup (valueGroupId value))
    (valueOffset value)

variable {tgid uid : Int32}

theorem place_update {entry : Option (BitVec 64)}
    (hmap : manager'.mChannelMap =
      Function.update manager.mChannelMap (channelMapKey tgid uid) entry) :
    manager'.place = Function.update manager.place (tgid, uid) entry := by
  funext pair
  rw [place, hmap, Function.update_apply, Function.update_apply]
  simp only [channelMapKey_inj, Prod.ext_iff]
  rfl

theorem owner_channelMapValue (manager : ChannelManager)
    (slot : Fin kMaxChannels) (hlower : -2 ^ 31 ≤ groupId)
    (hupper : groupId < 2 ^ 31) :
    manager.owner (channelMapValue groupId slot) =
      cellOwner (manager.mChannelGroups.lookup groupId) slot := by
  have hmax : kMaxChannels = 16 := rfl
  rw [owner, valueGroupId_channelMapValue _ hlower hupper,
    valueOffset_channelMapValue _ (by omega) (by omega)]

/-- A change of one slot of one group is a change of one position. -/
theorem owner_update {slot : Fin kMaxChannels} {group : Option ChannelGroup}
    {entry : Option (Int32 × Int32)}
    (hlower : -2 ^ 31 ≤ groupId) (hupper : groupId < 2 ^ 31)
    (hgroups : manager'.mChannelGroups.lookup =
      Function.update manager.mChannelGroups.lookup groupId group)
    (hcell : cellOwner group =
      Function.update (cellOwner (manager.mChannelGroups.lookup groupId))
        slot entry) :
    manager'.owner =
      Function.update manager.owner (channelMapValue groupId slot) entry := by
  funext value
  have hslot : (slot.val : Int) < 2 ^ 31 := by
    have hmax : kMaxChannels = 16 := rfl
    omega
  have hvalue : value = channelMapValue groupId slot ↔
      valueGroupId value = groupId ∧ valueOffset value = slot := by
    constructor
    · rintro rfl
      exact ⟨valueGroupId_channelMapValue _ hlower hupper,
        valueOffset_channelMapValue _ (by omega) hslot⟩
    · rintro ⟨hgroupId, hoffset⟩
      rw [← channelMapValue_fields value, hgroupId, hoffset]
  rw [owner, hgroups, Function.update_apply, Function.update_apply]
  by_cases hgroupId : valueGroupId value = groupId
  · rw [if_pos hgroupId, hcell, Function.update_apply]
    simp only [hvalue, hgroupId, true_and, owner]
  · rw [if_neg hgroupId, if_neg fun heq => hgroupId (hvalue.mp heq).1, owner]

/-! ## The invariant -/

/-- The invariant of the tables; the groups in use are among the first
`created`. -/
structure Kept (created : Nat) (manager : ChannelManager) : Prop where
  inverse : Inverse manager.place manager.owner
  groups : ∀ groupId group,
    manager.mChannelGroups.lookup groupId = some group →
      0 ≤ groupId ∧ groupId < created ∧
        group.WellFormed groupId ∧ group.liveSlots.Nonempty

variable {created : Nat}

theorem kept_new : Kept 0 new where
  inverse := by
    intro pair value
    constructor
    · intro hplace
      exact nomatch hplace
    · intro howner
      exact nomatch howner
  groups := by
    intro groupId group hgroup
    exact nomatch hgroup

theorem Kept.mono {created' : Nat} (hkept : Kept created manager)
    (hle : created ≤ created') : Kept created' manager where
  inverse := hkept.inverse
  groups := by
    intro groupId group hgroup
    obtain ⟨hlower, hupper, hrest⟩ := hkept.groups groupId group hgroup
    exact ⟨hlower, by omega, hrest⟩

/-- The channel that the map enters a process at. -/
theorem Kept.channel_of_place (hkept : Kept created manager)
    {value : BitVec 64}
    (hplace : manager.mChannelMap (channelMapKey tgid uid) = some value) :
    ∃ group slot channel,
      manager.mChannelGroups.lookup (valueGroupId value) = some group ∧
        valueOffset value = Fin.val slot ∧
        group.mChannels slot = some channel ∧ channel.owner = (tgid, uid) := by
  have howner : manager.owner value = some (tgid, uid) :=
    (hkept.inverse (tgid, uid) value).mp hplace
  simp only [owner, cellOwner, ChannelGroup.channelAt, Option.bind_eq_some_iff,
    Option.map_eq_some_iff] at howner
  obtain ⟨group, hgroup, channel, ⟨slot, hslot, hchannel⟩, hpair⟩ := howner
  exact ⟨group, slot, channel, hgroup, ChannelGroup.slotOf_eq_some_iff.mp hslot,
    hchannel, hpair⟩

/-- The group that a new channel goes to. -/
structure Chosen (created : Nat) (manager manager' : ChannelManager)
    (groupId : Int) (group : ChannelGroup) : Prop where
  map_eq : manager'.mChannelMap = manager.mChannelMap
  lookup_eq : manager'.mChannelGroups.lookup =
    Function.update manager.mChannelGroups.lookup groupId (some group)
  cells_eq : cellOwner (some group) =
    cellOwner (manager.mChannelGroups.lookup groupId)
  lower : 0 ≤ groupId
  upper : groupId < created
  wellFormed : group.WellFormed groupId
  room : group.liveSlots.card < kMaxChannels

variable {group : ChannelGroup}

theorem hasRoom_iff (hgroup : group.WellFormed groupId) :
    hasRoom group ↔ group.liveSlots.card < kMaxChannels := by
  have hle := group.card_liveSlots_le
  have hmax : kMaxChannels = 16 := rfl
  rw [hasRoom, decide_eq_true_eq, ChannelGroup.getChannelCount, hgroup.count_eq]
  omega

/-- The number of a new group is not in use. -/
theorem Kept.nextGroupId (hkept : Kept created manager)
    (hcreated : created < 2 ^ 31) :
    manager.mChannelGroups.lookup manager.nextGroupId = none ∧
      0 ≤ manager.nextGroupId ∧ manager.nextGroupId ≤ created := by
  cases hlast : manager.mChannelGroups.entries.getLast? with
  | none =>
    have hempty := List.getLast?_eq_none_iff.mp hlast
    have hnext : manager.nextGroupId = 0 := by
      rw [ChannelManager.nextGroupId, hlast]
    rw [hnext]
    refine ⟨?_, le_rfl, Int.natCast_nonneg created⟩
    rw [OrderedMap.lookup, hempty]
    rfl
  | some entry =>
    have hentry : manager.mChannelGroups.lookup entry.1 = some entry.2 :=
      OrderedMap.mem_entries_iff.mp (List.mem_of_getLast? hlast)
    obtain ⟨hlower, hupper, -⟩ := hkept.groups _ _ hentry
    have hnext : manager.nextGroupId = entry.1 + 1 := by
      rw [ChannelManager.nextGroupId, hlast]
      exact int32_eq_self (by omega) (by omega)
    rw [hnext]
    refine ⟨Option.eq_none_iff_forall_ne_some.mpr ?_, by omega, by omega⟩
    intro group hgroup
    have hle := OrderedMap.key_le_of_getLast? hlast hgroup
    omega

theorem emplaceGroup_of_absent
    (habsent : manager.mChannelGroups.lookup groupId = none) :
    manager.emplaceGroup groupId =
      { manager with
        mChannelGroups :=
          manager.mChannelGroups.insert groupId (ChannelGroup.new groupId) } := by
  rw [emplaceGroup, habsent]

section

variable (hkept : Kept created manager)
include hkept

theorem Kept.chooseGroup (hcreated : created < 2 ^ 31) :
    ∃ group,
      Chosen (created + if manager.groupWithRoom = -1 then 1 else 0) manager
        manager.chooseGroup.2 manager.chooseGroup.1 group := by
  cases hfind : manager.mChannelGroups.entries.find?
      fun entry => hasRoom entry.2 with
  | none =>
    have hnew : manager.groupWithRoom = -1 := by rw [groupWithRoom, hfind]
    obtain ⟨habsent, hlower, hupper⟩ := hkept.nextGroupId hcreated
    have hempty : (ChannelGroup.new manager.nextGroupId).liveSlots = ∅ :=
      Finset.filter_false _
    rw [ChannelManager.chooseGroup, if_pos hnew, if_pos hnew,
      emplaceGroup_of_absent habsent]
    refine ⟨ChannelGroup.new manager.nextGroupId, rfl,
      OrderedMap.lookup_insert _ _ _, ?_, hlower, by push_cast; omega,
      ChannelGroup.wellFormed_new _, ?_⟩
    · rw [habsent]
      exact cellOwner_of_empty hempty
    · rw [hempty]
      exact Nat.zero_lt_succ 15
  | some entry =>
    have hentry : manager.mChannelGroups.lookup entry.1 = some entry.2 :=
      OrderedMap.mem_entries_iff.mp (List.mem_of_find?_eq_some hfind)
    obtain ⟨hlower, hupper, hformed, -⟩ := hkept.groups _ _ hentry
    have hfound : manager.groupWithRoom = entry.1 := by
      rw [groupWithRoom, hfind]
    have hold : ¬ manager.groupWithRoom = -1 := by omega
    rw [ChannelManager.chooseGroup, if_neg hold, if_neg hold, hfound]
    refine ⟨entry.2, rfl, ?_, by rw [hentry], hlower, hupper, hformed, ?_⟩
    · rw [← hentry, Function.update_eq_self]
    · have hroom : hasRoom entry.2 = true := by
        simpa using List.find?_some hfind
      exact (hasRoom_iff hformed).mp hroom

/-- A change of one group in its place keeps the other groups. -/
theorem Kept.groups_update {entry : Option ChannelGroup}
    (hgroups : manager'.mChannelGroups.lookup =
      Function.update manager.mChannelGroups.lookup groupId entry)
    (hlower : 0 ≤ groupId) (hupper : groupId < created)
    (hentry : ∀ group, entry = some group →
      group.WellFormed groupId ∧ group.liveSlots.Nonempty) :
    ∀ groupId group, manager'.mChannelGroups.lookup groupId = some group →
      0 ≤ groupId ∧ groupId < created ∧
        group.WellFormed groupId ∧ group.liveSlots.Nonempty := by
  intro otherId group hgroup
  rw [hgroups, Function.update_apply] at hgroup
  split_ifs at hgroup with hother
  · rw [hother]
    exact ⟨hlower, hupper, hentry group hgroup⟩
  · exact hkept.groups otherId group hgroup

theorem Kept.createIn (hcreated : created ≤ 2 ^ 31) {chosen : ChannelManager}
    (hchosen : Chosen created manager chosen groupId group)
    (habsent : manager.place (tgid, uid) = none) (isValid : Bool) :
    ∃ channel manager', chosen.createIn groupId tgid uid isValid =
        .ok (channel, manager') ∧
      Kept created manager' ∧
      manager'.mChannelMap (channelMapKey tgid uid) = some channel.mId := by
  obtain ⟨slot, channel, group', hcreate, hnone, hchannels, howner, hid,
    hformed⟩ := hchosen.wellFormed.createChannel hchosen.room tgid uid isValid
  have hlower := hchosen.lower
  have hupper := hchosen.upper
  let manager' : ChannelManager :=
    { mChannelGroups := chosen.mChannelGroups.insert groupId group'
      mChannelMap :=
        Function.update chosen.mChannelMap (channelMapKey tgid uid)
          (some channel.mId) }
  have hlookup : chosen.mChannelGroups.lookup groupId = some group := by
    rw [hchosen.lookup_eq, Function.update_self]
  have hresult : chosen.createIn groupId tgid uid isValid =
      .ok (channel, manager') := by
    simp [ChannelManager.createIn, groupAt, hlookup, hcreate, manager', bind,
      Except.bind, pure, Except.pure]
  have hgroups : manager'.mChannelGroups.lookup =
      Function.update manager.mChannelGroups.lookup groupId (some group') := by
    rw [OrderedMap.lookup_insert, hchosen.lookup_eq, Function.update_idem]
  have hcells : cellOwner (some group') =
      Function.update (cellOwner (manager.mChannelGroups.lookup groupId)) slot
        (some (tgid, uid)) := by
    rw [cellOwner_of_update hchannels, Option.map_some, howner,
      hchosen.cells_eq]
  have hplace' : manager'.place =
      Function.update manager.place (tgid, uid) (some channel.mId) :=
    place_update (by rw [← hchosen.map_eq])
  have howner' : manager'.owner =
      Function.update manager.owner channel.mId (some (tgid, uid)) := by
    rw [hid]
    exact owner_update (by omega) (by omega) hgroups hcells
  have hfree : manager.owner channel.mId = none := by
    rw [hid, owner_channelMapValue _ _ (by omega) (by omega),
      ← hchosen.cells_eq]
    simp [cellOwner, ChannelGroup.channelAt, hnone]
  have hlive : slot ∈ group'.liveSlots := by
    rw [ChannelGroup.liveSlots_update_some hchannels]
    exact Finset.mem_insert_self slot group.liveSlots
  refine ⟨channel, manager', hresult, ⟨?_, ?_⟩, Function.update_self _ _ _⟩
  · rw [hplace', howner']
    exact hkept.inverse.assign habsent hfree
  · refine hkept.groups_update hgroups hlower hupper fun other hother => ?_
    cases hother
    exact ⟨hformed, slot, hlive⟩

/-- The channel of a process is found or made. -/
theorem Kept.getOrCreateChannel (hcreated : created < 2 ^ 31)
    (tgid uid : Int32) (isValid : Bool) :
    ∃ channel manager', manager.getOrCreateChannel tgid uid isValid =
        .ok (channel, manager') ∧
      Kept (created + if manager.createsGroup
        (.getChannelConfig tgid uid isValid) then 1 else 0) manager' ∧
      manager'.mChannelMap (channelMapKey tgid uid) = some channel.mId := by
  cases hplace : manager.mChannelMap (channelMapKey tgid uid) with
  | some value =>
    obtain ⟨group, slot, channel, hgroup, hslot, hchannel, -⟩ :=
      hkept.channel_of_place hplace
    have hid : channel.mId = value := by
      obtain ⟨-, -, hformed, -⟩ := hkept.groups _ _ hgroup
      rw [(hformed.channel_eq slot channel hchannel).1, ← hslot,
        channelMapValue_fields]
    refine ⟨channel, manager, ?_, by simpa [createsGroup, hplace] using hkept,
      by rw [hplace, hid]⟩
    simp [ChannelManager.getOrCreateChannel, hplace, groupAt, hgroup,
      ChannelGroup.getChannel, ChannelGroup.channelAt, hslot, hchannel, bind,
      Except.bind, pure, Except.pure]
  | none =>
    obtain ⟨group, hchosen⟩ := hkept.chooseGroup hcreated
    have hbound : (created + if manager.groupWithRoom = -1 then 1 else 0) ≤
        2 ^ 31 := by
      split_ifs <;> omega
    have hkept' := (hkept.mono (Nat.le_add_right created _)).createIn hbound
      hchosen hplace isValid
    simpa only [ChannelManager.getOrCreateChannel, createsGroup, hplace,
      Option.isNone_none, Bool.true_and, decide_eq_true_eq] using hkept'

theorem Kept.getChannelConfig (hcreated : created < 2 ^ 31) (tgid uid : Int32)
    (isValid : Bool) :
    ∃ config manager', manager.getChannelConfig tgid uid isValid =
        .ok (config, manager') ∧
      Kept (created + if manager.createsGroup
        (.getChannelConfig tgid uid isValid) then 1 else 0) manager' := by
  obtain ⟨channel, manager', hchannel, hkept', hplace⟩ :=
    hkept.getOrCreateChannel hcreated tgid uid isValid
  obtain ⟨group, -, -, hgroup, -⟩ := hkept'.channel_of_place hplace
  cases hvalid : channel.isValid with
  | false =>
    refine ⟨none, manager', ?_, hkept'⟩
    simp [ChannelManager.getChannelConfig, hchannel, hvalid, bind,
      Except.bind, pure, Except.pure]
  | true =>
    refine ⟨some ⟨group.mGroupId, channel.mId, channel.mReadMask,
      channel.mWriteMask⟩, manager', ?_, hkept'⟩
    simp only [ChannelManager.getChannelConfig, hchannel, hvalid, groupAt,
      hgroup, bind, Except.bind, pure, Except.pure, if_true]

/-- A group is dropped with its last channel. -/
theorem Kept.release (hcreated : created ≤ 2 ^ 31) {value : BitVec 64}
    {slot : Fin kMaxChannels} {group' : ChannelGroup}
    (hplace : manager.place (tgid, uid) = some value)
    (hgroup : manager.mChannelGroups.lookup (valueGroupId value) = some group)
    (hslot : valueOffset value = slot.val) (hchannels : group'.mChannels =
      Function.update group.mChannels slot none)
    (hformed : group'.WellFormed (valueGroupId value)) :
    Kept created
      { mChannelGroups :=
          if group'.getChannelCount = 0 then
            manager.mChannelGroups.erase (valueGroupId value)
          else
            manager.mChannelGroups.insert (valueGroupId value) group'
        mChannelMap :=
          Function.update manager.mChannelMap (channelMapKey tgid uid)
            none } := by
  set manager' : ChannelManager := ⟨_, _⟩ with hmanager'
  let entry := if group'.getChannelCount = 0 then none else some group'
  obtain ⟨hlower, hupper, -⟩ := hkept.groups _ _ hgroup
  have hcount : group'.getChannelCount = 0 ↔ group'.liveSlots = ∅ := by
    rw [ChannelGroup.getChannelCount, hformed.count_eq, Nat.cast_eq_zero,
      Finset.card_eq_zero]
  have hgroups : manager'.mChannelGroups.lookup =
      Function.update manager.mChannelGroups.lookup (valueGroupId value)
        entry := by
    simp only [hmanager', entry]
    split_ifs
    · exact OrderedMap.lookup_erase _ _
    · exact OrderedMap.lookup_insert _ _ _
  have hcells : cellOwner entry =
      Function.update
        (cellOwner (manager.mChannelGroups.lookup (valueGroupId value)))
        slot none := by
    have hsame : cellOwner entry = cellOwner (some group') := by
      simp only [entry]
      split_ifs with hzero
      · exact (cellOwner_of_empty (hcount.mp hzero)).symm
      · rfl
    rw [hsame, cellOwner_of_update hchannels, hgroup]
    rfl
  have hvalue : channelMapValue (valueGroupId value) slot = value := by
    rw [← hslot, channelMapValue_fields]
  have howner : manager'.owner = Function.update manager.owner value none := by
    rw [owner_update (by omega) (by omega) hgroups hcells, hvalue]
  refine ⟨?_, hkept.groups_update hgroups hlower hupper fun other hother => ?_⟩
  · rw [howner, place_update rfl]
    exact hkept.inverse.release hplace
  · simp only [entry] at hother
    split_ifs at hother with hzero
    cases hother
    exact ⟨hformed, Finset.nonempty_iff_ne_empty.mpr (mt hcount.mpr hzero)⟩

theorem Kept.closeChannel (hcreated : created ≤ 2 ^ 31) (tgid uid : Int32) :
    Kept created (manager.closeChannel tgid uid).2 := by
  cases hplace : manager.mChannelMap (channelMapKey tgid uid) with
  | none =>
    rw [ChannelManager.closeChannel, hplace]
    exact hkept
  | some value =>
    obtain ⟨group, slot, channel, hgroup, hslot, hchannel, -⟩ :=
      hkept.channel_of_place hplace
    obtain ⟨-, -, hformed, -⟩ := hkept.groups _ _ hgroup
    obtain ⟨group', hremove, hchannels, hformed'⟩ :=
      hformed.removeChannel hchannel
    simp only [ChannelManager.closeChannel, hplace, hgroup, hslot, hremove,
      if_true]
    exact hkept.release hcreated hplace hgroup hslot hchannels hformed'

end

/-! ## Runs -/

/-- The groups that the calls make, up to the first that does not return. -/
def groupsCreated : ChannelManager → List Call → Nat
  | _, [] => 0
  | manager, request :: requests =>
    (if manager.createsGroup request then 1 else 0) +
      match manager.call request with
      | none => 0
      | some next => groupsCreated next requests

/-- The masks of a group are single bits, and no two of them share one. -/
structure MasksDisjoint (group : ChannelGroup) : Prop where
  single : ∀ slot channel, group.mChannels slot = some channel →
    (∃ bit < 32, channel.mReadMask = 1#32 <<< bit) ∧
      ∃ bit < 32, channel.mWriteMask = 1#32 <<< bit
  disjoint : ∀ slot channel slot' channel',
    group.mChannels slot = some channel →
      group.mChannels slot' = some channel' →
        channel.mReadMask &&& channel'.mWriteMask = 0 ∧
          (slot ≠ slot' →
            channel.mReadMask &&& channel'.mReadMask = 0 ∧
              channel.mWriteMask &&& channel'.mWriteMask = 0)

/-- The map, the groups and their slots agree. -/
structure Consistent (manager : ChannelManager) : Prop where
  distinct : ∀ tgid uid tgid' uid' value value',
    manager.mChannelMap (channelMapKey tgid uid) = some value →
      manager.mChannelMap (channelMapKey tgid' uid') = some value' →
        (tgid, uid) ≠ (tgid', uid') →
          (valueGroupId value, valueOffset value) ≠
            (valueGroupId value', valueOffset value')
  held : ∀ tgid uid value,
    manager.mChannelMap (channelMapKey tgid uid) = some value →
      ∃ group channel,
        manager.mChannelGroups.lookup (valueGroupId value) = some group ∧
          group.channelAt (valueOffset value) = some channel ∧
          channel.mTgid = tgid ∧ channel.mUid = uid
  mapped : ∀ groupId group slot channel,
    manager.mChannelGroups.lookup groupId = some group →
      group.mChannels slot = some channel →
        ∃ value, manager.mChannelMap
            (channelMapKey channel.mTgid channel.mUid) = some value ∧
          valueGroupId value = groupId ∧ valueOffset value = slot.val
  counted : ∀ groupId group,
    manager.mChannelGroups.lookup groupId = some group →
      group.mLiveChannels = group.liveSlots.card ∧
        1 ≤ group.mLiveChannels ∧ group.mLiveChannels ≤ 16
  masks : ∀ groupId group,
    manager.mChannelGroups.lookup groupId = some group → MasksDisjoint group

theorem masksDisjoint_of_wellFormed (hgroup : group.WellFormed groupId) :
    MasksDisjoint group where
  single := by
    intro slot channel hchannel
    obtain ⟨-, hread, hwrite⟩ := hgroup.channel_eq slot channel hchannel
    have hmax : kMaxChannels = 16 := rfl
    exact ⟨⟨slot.val + 16, by omega, hread⟩, ⟨slot.val, by omega, hwrite⟩⟩
  disjoint := by
    have hbits : ∀ slot slot' : Fin kMaxChannels,
        (1#32 <<< (slot.val + 16)) &&& (1#32 <<< slot'.val) = 0 ∧
          (slot ≠ slot' →
            (1#32 <<< (slot.val + 16)) &&& (1#32 <<< (slot'.val + 16)) = 0 ∧
              (1#32 <<< slot.val) &&& (1#32 <<< slot'.val) = 0) := by
      decide +kernel
    intro slot channel slot' channel' hchannel hchannel'
    obtain ⟨-, hread, hwrite⟩ := hgroup.channel_eq slot channel hchannel
    obtain ⟨-, hread', hwrite'⟩ := hgroup.channel_eq slot' channel' hchannel'
    rw [hread, hwrite, hread', hwrite']
    exact hbits slot slot'

theorem Kept.consistent (hkept : Kept created manager)
    (hcreated : created ≤ 2 ^ 31) : Consistent manager where
  distinct := by
    intro tgid uid tgid' uid' value value' hplace hplace' hne heq
    obtain ⟨hgroupId, hoffset⟩ := Prod.mk.inj heq
    have hvalue : value = value' := by
      rw [← channelMapValue_fields value, ← channelMapValue_fields value',
        hgroupId, hoffset]
    have howner := (hkept.inverse (tgid, uid) value).mp hplace
    have howner' := (hkept.inverse (tgid', uid') value').mp hplace'
    rw [hvalue, howner'] at howner
    exact hne (Option.some.inj howner).symm
  held := by
    intro tgid uid value hplace
    obtain ⟨group, slot, channel, hgroup, hslot, hchannel, howner⟩ :=
      hkept.channel_of_place hplace
    refine ⟨group, channel, hgroup, ?_, Prod.mk.inj howner⟩
    rw [ChannelGroup.channelAt, hslot, ChannelGroup.slotOf_val,
      Option.bind_some, hchannel]
  mapped := by
    intro groupId group slot channel hgroup hchannel
    obtain ⟨hlower, hupper, -⟩ := hkept.groups groupId group hgroup
    have hmax : kMaxChannels = 16 := rfl
    have howner : manager.owner (channelMapValue groupId slot) =
        some channel.owner := by
      rw [owner_channelMapValue _ _ (by omega) (by omega), hgroup]
      simp [cellOwner, ChannelGroup.channelAt, hchannel]
    refine ⟨channelMapValue groupId slot,
      (hkept.inverse channel.owner _).mpr howner,
      valueGroupId_channelMapValue _ (by omega) (by omega),
      valueOffset_channelMapValue _ (by omega) (by omega)⟩
  counted := by
    intro groupId group hgroup
    obtain ⟨-, -, hformed, hlive⟩ := hkept.groups groupId group hgroup
    have hpos := Finset.card_pos.mpr hlive
    have hle := group.card_liveSlots_le
    have hmax : kMaxChannels = 16 := rfl
    rw [hformed.count_eq]
    omega
  masks := by
    intro groupId group hgroup
    exact masksDisjoint_of_wellFormed (hkept.groups groupId group hgroup).2.2.1

/-- One call returns, and keeps the tables. -/
theorem Kept.call (hkept : Kept created manager) (hcreated : created < 2 ^ 31)
    (request : Call) :
    ∃ next, manager.call request = some next ∧
      Kept (created + if manager.createsGroup request then 1 else 0) next := by
  cases request with
  | getChannelConfig tgid uid isValid =>
    obtain ⟨config, next, hresult, hkept'⟩ :=
      hkept.getChannelConfig hcreated tgid uid isValid
    refine ⟨next, ?_, hkept'⟩
    rw [ChannelManager.call, hresult]
    rfl
  | closeChannel tgid uid =>
    exact ⟨_, rfl, hkept.closeChannel hcreated.le tgid uid⟩

theorem Kept.run (hkept : Kept created manager) {requests : List Call}
    (hcreated : created + manager.groupsCreated requests < 2 ^ 31) :
    (Transition.run ChannelManager.call manager requests).isSome ∧
      Transition.RunHolds ChannelManager.call Consistent manager requests := by
  induction requests generalizing manager created with
  | nil => exact ⟨rfl, hkept.consistent (by omega)⟩
  | cons request requests ih =>
    obtain ⟨next, hnext, hkept'⟩ := hkept.call (by omega) request
    rw [groupsCreated, hnext, ← Nat.add_assoc] at hcreated
    obtain ⟨hrun, hholds⟩ := ih hkept' hcreated
    refine ⟨?_, hkept.consistent (by omega), fun other hother => ?_⟩
    · rw [Transition.run, hnext]
      exact hrun
    · cases hnext.symm.trans hother
      exact hholds

/-- As long as the numbers of the groups do not run out, no call aborts and
the tables agree after every call. -/
theorem channels_consistent (requests : List Call)
    (hfew : new.groupsCreated requests < 2 ^ 31) :
    (Transition.run ChannelManager.call new requests).isSome ∧
      Transition.RunHolds ChannelManager.call Consistent new requests :=
  kept_new.run (by omega)

/-- A second process joins the group of the first, which then leaves. -/
theorem channels_consistent_two_processes :
    new.groupsCreated [.getChannelConfig 100 10001 true,
        .getChannelConfig 200 10002 false, .closeChannel 100 10001] = 1 ∧
      Transition.RunHolds ChannelManager.call Consistent new
        [.getChannelConfig 100 10001 true, .getChannelConfig 200 10002 false,
          .closeChannel 100 10001] := by
  have hone : new.groupsCreated [.getChannelConfig 100 10001 true,
      .getChannelConfig 200 10002 false, .closeChannel 100 10001] = 1 := by
    decide +kernel
  exact ⟨hone, (channels_consistent _ (by omega)).2⟩

/-! ## Requests that fail -/

variable {isValid : Bool} {next : ChannelManager}

/-- A channel that is created is entered in the map, valid or not. -/
theorem mChannelMap_createIn {groupId : Int} {channel : SessionChannel}
    (hcreate : manager.createIn groupId tgid uid isValid = .ok (channel, next))
    : next.mChannelMap (channelMapKey tgid uid) = some channel.mId := by
  obtain ⟨group, -, hcreate⟩ := Transition.bind_eq_ok.mp hcreate
  obtain ⟨⟨channel', group'⟩, -, hcreate⟩ := Transition.bind_eq_ok.mp hcreate
  cases hcreate
  exact Function.update_self _ _ _

/-- A channel that was there is found without a change. -/
theorem getOrCreateChannel_of_isSome {channel : SessionChannel}
    (hentry : (manager.mChannelMap (channelMapKey tgid uid)).isSome)
    (hfound : manager.getOrCreateChannel tgid uid isValid =
      .ok (channel, next)) : next = manager := by
  obtain ⟨value, hvalue⟩ := Option.isSome_iff_exists.mp hentry
  rw [ChannelManager.getOrCreateChannel, hvalue] at hfound
  obtain ⟨group, -, hfound⟩ := Transition.bind_eq_ok.mp hfound
  obtain ⟨channel', -, hfound⟩ := Transition.bind_eq_ok.mp hfound
  cases hfound
  rfl

/-- A request that fails passes on what the search for a channel left. -/
theorem getOrCreateChannel_of_failed
    (hfailed : manager.getChannelConfig tgid uid isValid = .ok (none, next)) :
    ∃ channel, manager.getOrCreateChannel tgid uid isValid =
      .ok (channel, next) := by
  obtain ⟨⟨channel, next'⟩, hchannel, hfailed⟩ :=
    Transition.bind_eq_ok.mp hfailed
  refine ⟨channel, ?_⟩
  simp only at hfailed
  split_ifs at hfailed
  · obtain ⟨group, -, hfailed⟩ := Transition.bind_eq_ok.mp hfailed
    exact nomatch hfailed
  · cases hfailed
    exact hchannel

/-- A request that fails leaves the tables as they were exactly when the
process had a channel before; otherwise the channel made for it stays. -/
theorem failed_request_changes_nothing_iff {tgid uid : Int32} {isValid : Bool}
    {next : ChannelManager}
    (hfailed : manager.getChannelConfig tgid uid isValid = .ok (none, next)) :
    next = manager ↔
      (manager.mChannelMap (channelMapKey tgid uid)).isSome := by
  obtain ⟨channel, hchannel⟩ := getOrCreateChannel_of_failed hfailed
  constructor
  · rintro rfl
    by_contra hentry
    have habsent := Option.not_isSome_iff_eq_none.mp hentry
    have hcreate := hchannel
    rw [ChannelManager.getOrCreateChannel, habsent] at hcreate
    exact nomatch habsent.symm.trans (mChannelMap_createIn hcreate)
  · intro hentry
    exact getOrCreateChannel_of_isSome hentry hchannel

/-- The manager after a first request whose queue could not be set up. -/
def withDeadChannel : ChannelManager :=
  (new.call (.getChannelConfig 100 10001 false)).getD new

theorem second_failed_request_changes_nothing :
    withDeadChannel.getChannelConfig 100 10001 true =
        .ok (none, withDeadChannel) ∧
      (withDeadChannel.mChannelMap (channelMapKey 100 10001)).isSome := by
  have hfailed : withDeadChannel.getChannelConfig 100 10001 true =
      .ok (none, withDeadChannel) := rfl
  exact ⟨hfailed, (failed_request_changes_nothing_iff hfailed).mp rfl⟩

/-- The channel of the failed request takes a slot in a group of its own, and
the next request, whose queue would be valid, is given it again. -/
theorem failed_request_leaves_dead_channel :
    new.getChannelConfig 100 10001 false = .ok (none, withDeadChannel) ∧
      withDeadChannel ≠ new ∧
      withDeadChannel.getGroupCount = 1 ∧
      withDeadChannel.getChannelCount = 1 ∧
      withDeadChannel.getChannelConfig 100 10001 true =
        .ok (none, withDeadChannel) := by
  refine ⟨rfl, fun hsame => ?_, by decide +kernel, by decide +kernel, rfl⟩
  have hcount : withDeadChannel.getGroupCount = new.getGroupCount :=
    congrArg getGroupCount hsame
  exact absurd hcount (by decide +kernel)

end ChannelManager

end HardwareInterfaces.Channels
