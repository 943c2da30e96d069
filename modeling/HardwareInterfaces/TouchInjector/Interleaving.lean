import HardwareInterfaces.TouchInjector.Sections
import HardwareInterfaces.TouchInjector.SlotRanges

/-!
# Calls that rely on what they have read

A call decides what to do before it has the emulator.  Nothing goes wrong as
long as the decision is still right when the call gets the emulator: the
client of a registration is not registered by then, that of an unregistration
still is, and a touch that changes a slot changes one that is still the
client's.  Each call that gets the emulator otherwise goes wrong before it
releases it.
-/

namespace HardwareInterfaces.TouchInjector

open Transition

variable {Client : Type} [LinearOrder Client]

namespace TouchInjectorService

variable {emit : Emit} {service next : TouchInjectorService Client}
  {client : Client}

/-! ## Touches that stray -/

theorem strays_eq_nil_of_same
    (hsame : next.touchEmulator = service.touchEmulator) (client : Client) :
    service.strays next client = [] := by
  rw [strays, hsame]
  simp

/-- A slot that is set strays when its state changes and it is not the
client's. -/
theorem strays_set_eq_nil_iff {target : Nat} {value : Bool}
    (hset : next.touchEmulator.slotStates =
      service.touchEmulator.slotStates.set target value) :
    service.strays next client = [] ↔
      (service.touchEmulator.slotStates[target]? = some (!value) →
        service.ownsSlot client target = true) := by
  rw [strays, List.filter_eq_nil_iff, hset]
  constructor
  · intro hnone htarget
    have hlt := (List.getElem?_eq_some_iff.mp htarget).1
    have hown := hnone target (List.mem_range.mpr hlt)
    rw [List.getElem?_set_self hlt, htarget] at hown
    simpa using hown
  · intro howned slot hslot
    have hlt := List.mem_range.mp hslot
    by_cases heq : slot = target
    · subst heq
      rw [List.getElem?_set_self hlt]
      rw [List.getElem?_eq_getElem hlt] at howned ⊢
      by_cases hvalue : service.touchEmulator.slotStates[slot] = value
      · simp [hvalue]
      · simp [howned (congrArg some (Bool.eq_not.mpr hvalue))]
    · simp [List.getElem?_set_ne (Ne.symm heq)]

/-- A touch that is about to change an emulator slot finds it among the slots
of the client, and none is made on an entry that does not exist. -/
def TouchAllowed (service : TouchInjectorService Client) (client : Client)
    (range : SlotRange) (slot : Nat) (press : Bool) : Prop :=
  ∃ entry, service.pressedEntry client slot = some entry ∧
    (entry.isSome ≠ press →
      service.touchEmulator.slotStates[range.start + slot]? = some (!press) →
        service.ownsSlot client (range.start + slot) = true)

instance (service : TouchInjectorService Client) (client : Client)
    (range : SlotRange) (slot : Nat) (press : Bool) :
    Decidable (service.TouchAllowed client range slot press) :=
  match hentry : service.pressedEntry client slot with
  | none => isFalse (by simp [TouchAllowed, hentry])
  | some entry =>
    decidable_of_iff
      (entry.isSome ≠ press →
        service.touchEmulator.slotStates[range.start + slot]? =
          some (!press) →
        service.ownsSlot client (range.start + slot) = true)
      (by simp [TouchAllowed, hentry])

theorem touchEmulator_touch {slot : Nat} {pos : Option Position}
    (hnext : service.touch emit slot pos = some next) :
    next.touchEmulator.slotStates =
      service.touchEmulator.slotStates.set slot pos.isSome := by
  obtain ⟨emulator, hemulator, rfl⟩ := Option.map_eq_some_iff.mp hnext
  exact TouchEmulator.slotStates_touchState hemulator

theorem Changes.strays_eq_nil_iff {range : SlotRange} {slot : Nat}
    {press : Bool}
    (hchanges : Changes emit service client range slot press next) :
    service.strays next client = [] ↔
      service.TouchAllowed client range slot press := by
  obtain ⟨entry, hentry, hcases⟩ := hchanges
  have hallowed : service.TouchAllowed client range slot press ↔
      (entry.isSome ≠ press →
        service.touchEmulator.slotStates[range.start + slot]? = some (!press) →
          service.ownsSlot client (range.start + slot) = true) := by
    simp only [TouchAllowed, hentry, Option.some.injEq, exists_eq_left']
  rw [hallowed]
  rcases hcases with ⟨hsame, rfl⟩ | ⟨hother, position, rfl, htouch⟩
  · exact iff_of_true (strays_eq_nil_of_same rfl client)
      fun hne => absurd hsame hne
  · have hset : next.touchEmulator.slotStates =
        service.touchEmulator.slotStates.set (range.start + slot)
          position.isSome := by
      rw [touchEmulator_touch htouch]
      rfl
    rw [strays_set_eq_nil_iff hset, imp_iff_right hother]

end TouchInjectorService

/-! ## Decisions that are still right -/

/-- The decision is right in the state of the service. -/
def Plan.UpToDate (service : TouchInjectorService Client) : Plan Client → Prop
  | .register client _ => service.isRegistered client = false
  | .unregister client => service.isRegistered client = true
  | .beginTouch client range slot _ _ =>
    service.TouchAllowed client range slot true
  | .endTouch client range slot => service.TouchAllowed client range slot false

instance (service : TouchInjectorService Client) (plan : Plan Client) :
    Decidable (plan.UpToDate service) :=
  match plan with
  | .register _ _ => inferInstanceAs (Decidable (_ = _))
  | .unregister _ => inferInstanceAs (Decidable (_ = _))
  | .beginTouch client range slot _ _ =>
    inferInstanceAs (Decidable (service.TouchAllowed client range slot true))
  | .endTouch client range slot =>
    inferInstanceAs (Decidable (service.TouchAllowed client range slot false))

/-- The section and those that follow it do nothing wrong. -/
def Stage.Safe (service : TouchInjectorService Client) : Stage Client → Prop
  | .readCount client _ => service.isRegistered client = false
  | .reserve client _ _ => service.isRegistered client = false
  | .readLen client => service.isRegistered client = true
  | .press client range slot _ _ => service.TouchAllowed client range slot true
  | .lift client range slot => service.TouchAllowed client range slot false
  | _ => True

def Outcome.Safe : Outcome Client → Prop
  | .goesOn service stage => stage.Safe service
  | _ => True

section Stages

variable {emit : Emit} {service : TouchInjectorService Client}

theorem safe_stage_iff {plan : Plan Client} {next : TouchInjectorService Client}
    (hacquire : service.acquire emit plan = some next) :
    plan.stage.Safe next ↔ plan.UpToDate service := by
  cases plan with
  | register | unregister =>
    obtain ⟨emulator, -, rfl⟩ := Option.map_eq_some_iff.mp hacquire
    exact Iff.rfl
  | beginTouch | endTouch =>
    cases hacquire
    exact Iff.rfl

/-- The last section of a touch finds no entry, or returns. -/
theorem runTouch_cases {client : Client} {range : SlotRange}
    {slot : Nat} {press : Bool}
    {body : Option (Status × TouchInjectorService Client)}
    {outcome : Outcome Client}
    (hbody : ∀ status next, body = some (status, next) →
      TouchInjectorService.Changes emit service client range slot press next)
    (hrun : Stage.runTouch service client slot body = some outcome) :
    outcome = .unwrapsNone ∧ ¬ service.TouchAllowed client range slot press ∨
      ∃ next status, outcome = .returns next status ∧
        (service.strays next client = [] ↔
          service.TouchAllowed client range slot press) := by
  rw [Stage.runTouch] at hrun
  split_ifs at hrun with hentry
  · obtain ⟨⟨status, next⟩, hnext, rfl⟩ := Option.map_eq_some_iff.mp hrun
    exact Or.inr ⟨next, status, rfl,
      (hbody status next hnext).strays_eq_nil_iff⟩
  · cases hrun
    refine Or.inl ⟨rfl, ?_⟩
    rintro ⟨entry, hsome, -⟩
    rw [hsome] at hentry
    exact hentry rfl

/-- A section is safe when it does nothing wrong and leads to a safe one. -/
theorem safe_iff_of_run {stage : Stage Client} {outcome : Outcome Client}
    (hrun : stage.run emit service = some outcome) :
    stage.Safe service ↔
      stage.faults service outcome = [] ∧ outcome.Safe := by
  cases stage with
  | readCount =>
    obtain ⟨range, -, rfl⟩ := Option.map_eq_some_iff.mp hrun
    exact (and_iff_right rfl).symm
  | reserve =>
    obtain ⟨next, -, rfl⟩ := Option.map_eq_some_iff.mp hrun
    simp [Stage.Safe, Stage.faults, Outcome.Safe]
  | insertRange =>
    cases hrun
    exact iff_of_true trivial ⟨rfl, trivial⟩
  | insertPositions =>
    obtain ⟨next, -, rfl⟩ := Option.map_eq_some_iff.mp hrun
    exact iff_of_true trivial ⟨rfl, trivial⟩
  | readLen client =>
    simp only [Stage.run, TouchInjectorService.rangeLen] at hrun
    cases hrange : service.slotRangeMap.lookup client with
    | none =>
      rw [hrange] at hrun
      cases hrun
      simp [Stage.Safe, Stage.faults, TouchInjectorService.isRegistered, hrange]
    | some range =>
      rw [hrange] at hrun
      cases hrun
      simp [Stage.Safe, Stage.faults, Outcome.Safe,
        TouchInjectorService.isRegistered, hrange]
  | release =>
    obtain ⟨next, -, rfl⟩ := Option.map_eq_some_iff.mp hrun
    exact iff_of_true trivial ⟨rfl, trivial⟩
  | removeRange | removePositions | remapRanges =>
    cases hrun
    exact iff_of_true trivial ⟨rfl, trivial⟩
  | enableAllTouches =>
    obtain ⟨next, -, rfl⟩ := Option.map_eq_some_iff.mp hrun
    exact iff_of_true trivial ⟨rfl, trivial⟩
  | press =>
    rcases runTouch_cases
      (fun _ _ => TouchInjectorService.press_changes) hrun with
      ⟨rfl, hstray⟩ | ⟨next, status, rfl, hstray⟩
    · simp [Stage.Safe, Stage.faults, hstray]
    · simp [Stage.Safe, Stage.faults, Outcome.Safe, hstray]
  | lift =>
    rcases runTouch_cases
      (fun _ _ => TouchInjectorService.lift_changes) hrun with
      ⟨rfl, hstray⟩ | ⟨next, status, rfl, hstray⟩
    · simp [Stage.Safe, Stage.faults, hstray]
    · simp [Stage.Safe, Stage.faults, Outcome.Safe, hstray]

end Stages

/-! ## One call after another -/

namespace Server

section Serving

variable {emit : Emit} {service next : TouchInjectorService Client}
  {before : List (Task Client)}
  {result : Status × TouchInjectorService Client}

/-- A server with one more call after those before. -/
def serving (before : List (Task Client))
    (service : TouchInjectorService Client) (holder : Option Nat)
    (task : Task Client) : Server Client :=
  { idle service with holder, tasks := before ++ [task] }

/-- The call comes to its end with the result, and nothing goes wrong. -/
def Finishes (emit : Emit) (before : List (Task Client))
    (server : Server Client) (result : Status × TouchInjectorService Client) :
    Prop :=
  ∃ count,
    run step server (List.replicate count (.advance before.length emit)) =
      some (serving before result.2 none (.done result.1))

theorem Finishes.head {server server' : Server Client}
    (hstep : step server (.advance before.length emit) = some server')
    (hrest : Finishes emit before server' result) :
    Finishes emit before server result := by
  obtain ⟨count, hrun⟩ := hrest
  refine ⟨count + 1, ?_⟩
  rw [List.replicate_succ]
  exact run_cons_eq_some.mpr ⟨server', hstep, hrun⟩

variable {client : Client}

variable {slotId : Int}

end Serving

end Server

namespace Server

variable {emit : Emit} {server next : Server Client}

/-! ## Steps of the server -/

/-- The call is in a section under the emulator's lock. -/
def Locked (server : Server Client) (id : Nat) (stage : Stage Client) : Prop :=
  server.tasks[id]? = some (.locked stage)

/-- Such a call holds the emulator. -/
def Exclusive (server : Server Client) : Prop :=
  ∀ id stage, Locked server id stage → server.holder = some id

variable {label : Label Client}

theorem step_cases (hstep : step server label = some next) :
    (∃ call, label = .call call ∧
      next = { server with tasks := server.tasks ++ [.fresh call] }) ∨
    (∃ id emit call, label = .advance id emit ∧
      server.tasks[id]? = some (.fresh call) ∧
      next = { server with
        tasks := server.tasks.set id (server.service.firstSection call) }) ∨
    (∃ id emit plan service, label = .advance id emit ∧
      server.tasks[id]? = some (.waiting plan) ∧ server.holder = none ∧
      server.service.acquire emit plan = some service ∧
      next = { server with
        service, holder := some id
        tasks := server.tasks.set id (.locked plan.stage) }) ∨
    (∃ id emit stage outcome, label = .advance id emit ∧
      server.tasks[id]? = some (.locked stage) ∧
      stage.run emit server.service = some outcome ∧
      next = server.finishSection id stage outcome) := by
  cases label with
  | call call =>
    rw [step] at hstep
    split_ifs at hstep
    exact Or.inl ⟨call, rfl, (Option.some.inj hstep).symm⟩
  | advance id emit =>
    obtain ⟨task, htask, hadvance⟩ := Option.bind_eq_some_iff.mp hstep
    cases task with
    | fresh call =>
      exact Or.inr (Or.inl ⟨id, emit, call, rfl, htask,
        (Option.some.inj hadvance).symm⟩)
    | waiting plan =>
      rw [advance] at hadvance
      split_ifs at hadvance with hfree
      obtain ⟨service, hacquire, rfl⟩ := Option.map_eq_some_iff.mp hadvance
      exact Or.inr (Or.inr (Or.inl
        ⟨id, emit, plan, service, rfl, htask, hfree, hacquire, rfl⟩))
    | locked stage =>
      obtain ⟨outcome, hrun, rfl⟩ := Option.map_eq_some_iff.mp hadvance
      exact Or.inr (Or.inr (Or.inr
        ⟨id, emit, stage, outcome, rfl, htask, hrun, rfl⟩))
    | done => exact nomatch hadvance

theorem firstSection_ne_locked (service : TouchInjectorService Client)
    (call : Call Client) (stage : Stage Client) :
    service.firstSection call ≠ .locked stage := by
  cases call with
  | registerClient client reply =>
    cases reply <;> simp only [TouchInjectorService.firstSection] <;>
      split_ifs <;> exact nofun
  | unregisterClient =>
    rw [TouchInjectorService.firstSection]
    split_ifs <;> exact nofun
  | beginTouch client slotId x y | endTouch client slotId =>
    rw [TouchInjectorService.firstSection, TouchInjectorService.readRange]
    cases service.slotRangeMap.lookup client with
    | none => exact nofun
    | some range => simp only; split_ifs <;> exact nofun

variable {id : Nat}

theorem getElem?_tasks_set {task : Task Client}
    (htask : server.tasks[id]? = some task) (task' : Task Client)
    (other : Nat) :
    (server.tasks.set id task')[other]? =
      if other = id then some task' else server.tasks[other]? := by
  by_cases hother : other = id
  · rw [hother, if_pos rfl,
      List.getElem?_set_self (List.getElem?_eq_some_iff.mp htask).1]
  · rw [if_neg hother, List.getElem?_set_ne (Ne.symm hother)]

variable {stage : Stage Client}

theorem Exclusive.eq_of_locked (hexclusive : Exclusive server) {other : Nat}
    {stage' : Stage Client} (hlocked : Locked server id stage)
    (hother : Locked server other stage') : other = id ∧ stage' = stage := by
  have hholder := (hexclusive id stage hlocked).symm.trans
    (hexclusive other stage' hother)
  cases hholder
  cases hlocked.symm.trans hother
  exact ⟨rfl, rfl⟩

theorem Exclusive.not_locked (hexclusive : Exclusive server)
    (hfree : server.holder = none) (id : Nat) (stage : Stage Client) :
    ¬ Locked server id stage := by
  intro hlocked
  have hholder := hexclusive id stage hlocked
  rw [hfree] at hholder
  exact nomatch hholder

/-! ## The calls under the lock -/

theorem locked_call_iff (server : Server Client) (call : Call Client) (id : Nat)
    (stage : Stage Client) :
    Locked { server with tasks := server.tasks ++ [.fresh call] } id stage ↔
      Locked server id stage := by
  rw [Locked, Locked, List.getElem?_append]
  split_ifs with hid
  · exact Iff.rfl
  · rw [List.getElem?_eq_none (not_lt.mp hid)]
    refine iff_of_false (fun hlocked => ?_) nofun
    have hfresh := List.mem_of_getElem? hlocked
    simp at hfresh

theorem locked_firstSection_iff {call : Call Client}
    (htask : server.tasks[id]? = some (.fresh call)) (other : Nat)
    (stage : Stage Client) :
    Locked { server with
        tasks := server.tasks.set id (server.service.firstSection call) }
      other stage ↔ Locked server other stage := by
  rw [Locked, Locked, getElem?_tasks_set htask]
  split_ifs with hother
  · rw [hother, htask, Option.some_inj]
    exact iff_of_false (firstSection_ne_locked _ call stage) nofun
  · exact Iff.rfl

/-- A call that gets the emulator is the only one under its lock. -/
theorem locked_acquire_iff (hexclusive : Exclusive server)
    {plan : Plan Client} (htask : server.tasks[id]? = some (.waiting plan))
    (hfree : server.holder = none) (service : TouchInjectorService Client)
    (other : Nat) (stage : Stage Client) :
    Locked { server with
        service, holder := some id
        tasks := server.tasks.set id (.locked plan.stage) } other stage ↔
      other = id ∧ stage = plan.stage := by
  rw [Locked, getElem?_tasks_set htask]
  split_ifs with hother
  · simp [hother, eq_comm]
  · exact iff_of_false (hexclusive.not_locked hfree other stage)
      fun hsame => hother hsame.1

/-- After a section it is still under the lock, or none is. -/
theorem locked_finishSection_iff (hexclusive : Exclusive server)
    (hlocked : Locked server id stage) (outcome : Outcome Client)
    (other : Nat) (stage' : Stage Client) :
    Locked (server.finishSection id stage outcome) other stage' ↔
      other = id ∧ ∃ service, outcome = .goesOn service stage' := by
  have hothers : other ≠ id → ¬ Locked server other stage' := by
    intro hother hlocked'
    exact hother (hexclusive.eq_of_locked hlocked hlocked').1
  cases outcome with
  | goesOn =>
    simp only [Locked, finishSection, getElem?_tasks_set hlocked]
    split_ifs with hother
    · simp [hother]
    · exact iff_of_false (hothers hother) fun hsame => hother hsame.1
  | returns =>
    simp only [Locked, finishSection, getElem?_tasks_set hlocked]
    split_ifs with hother
    · simp
    · exact iff_of_false (hothers hother) fun hsame => hother hsame.1
  | unwrapsNone => simp [Locked, finishSection]

theorem Exclusive.step (hexclusive : Exclusive server)
    (hstep : step server label = some next) : Exclusive next := by
  rcases step_cases hstep with ⟨call, rfl, rfl⟩ |
    ⟨id, emit, call, rfl, htask, rfl⟩ |
    ⟨id, emit, plan, service, rfl, htask, hfree, hacquire, rfl⟩ |
    ⟨id, emit, stage, outcome, rfl, hlocked, hrun, rfl⟩
  · intro other stage hlocked
    exact hexclusive other stage ((locked_call_iff server call other stage).mp
      hlocked)
  · intro other stage hlocked
    exact hexclusive other stage
      ((locked_firstSection_iff htask other stage).mp hlocked)
  · intro other stage hlocked
    obtain ⟨rfl, -⟩ := (locked_acquire_iff hexclusive htask hfree service other
      stage).mp hlocked
    rfl
  · intro other stage' hlocked'
    obtain ⟨rfl, service, rfl⟩ := (locked_finishSection_iff hexclusive hlocked
      outcome other stage').mp hlocked'
    exact hexclusive other stage hlocked

/-! ## Nothing goes wrong -/

/-- Nothing has gone wrong, and the call under the lock will do nothing
wrong. -/
def Sound (server : Server Client) : Prop :=
  server.faults = [] ∧
    ∀ id stage, Locked server id stage → stage.Safe server.service

/-- A call that gets the emulator has decided right. -/
def UpToDate (server : Server Client) : Label Client → Prop
  | .call _ => True
  | .advance id _ => ∀ plan, server.tasks[id]? = some (.waiting plan) →
      plan.UpToDate server.service

instance (server : Server Client) (label : Label Client) :
    Decidable (UpToDate server label) :=
  match label with
  | .call _ => isTrue trivial
  | .advance id _ =>
    match htask : server.tasks[id]? with
    | some (.waiting plan) =>
      decidable_of_iff (plan.UpToDate server.service)
        (by simp [UpToDate, htask])
    | some (.fresh _) | some (.locked _) | some (.done _) | none =>
      isTrue (by simp [UpToDate, htask])

theorem sound_congr
    (hlocked : ∀ id stage, Locked next id stage ↔ Locked server id stage)
    (hservice : next.service = server.service)
    (hfaults : next.faults = server.faults) :
    Sound next ↔ Sound server := by
  simp only [Sound, hservice, hfaults, hlocked]

theorem sound_acquire_iff (hexclusive : Exclusive server) {plan : Plan Client}
    {service : TouchInjectorService Client}
    (htask : server.tasks[id]? = some (.waiting plan))
    (hfree : server.holder = none)
    (hacquire : server.service.acquire emit plan = some service) :
    Sound { server with
        service, holder := some id
        tasks := server.tasks.set id (.locked plan.stage) } ↔
      Sound server ∧ plan.UpToDate server.service := by
  simp only [Sound, locked_acquire_iff hexclusive htask hfree,
    hexclusive.not_locked hfree, ← safe_stage_iff hacquire]
  simp

theorem sound_finishSection_iff (hexclusive : Exclusive server)
    {outcome : Outcome Client} (hlocked : Locked server id stage)
    (hrun : stage.run emit server.service = some outcome) :
    Sound (server.finishSection id stage outcome) ↔ Sound server := by
  have hbefore : Sound server ↔
      server.faults = [] ∧ stage.Safe server.service := by
    refine and_congr_right fun _ => ⟨fun hsafe => hsafe id stage hlocked, ?_⟩
    intro hsafe other stage' hlocked'
    obtain ⟨-, rfl⟩ := hexclusive.eq_of_locked hlocked hlocked'
    exact hsafe
  have hfaults : (server.finishSection id stage outcome).faults =
      server.faults ++ stage.faults server.service outcome := by
    cases outcome <;> rfl
  rw [hbefore, safe_iff_of_run hrun, Sound, hfaults, List.append_eq_nil_iff,
    and_assoc]
  refine and_congr_right fun _ => and_congr_right fun _ => ?_
  simp only [locked_finishSection_iff hexclusive hlocked]
  cases outcome with
  | goesOn => simp [Outcome.Safe, finishSection]
  | returns | unwrapsNone => simp [Outcome.Safe]

/-- A step keeps the server sound exactly when the call that takes it has
decided right. -/
theorem sound_step_iff (hexclusive : Exclusive server)
    (hstep : step server label = some next) :
    Sound next ↔ Sound server ∧ UpToDate server label := by
  rcases step_cases hstep with ⟨call, rfl, rfl⟩ |
    ⟨id, emit, call, rfl, htask, rfl⟩ |
    ⟨id, emit, plan, service, rfl, htask, hfree, hacquire, rfl⟩ |
    ⟨id, emit, stage, outcome, rfl, hlocked, hrun, rfl⟩
  · rw [sound_congr (locked_call_iff server call) rfl rfl]
    exact (and_iff_left trivial).symm
  · rw [sound_congr (locked_firstSection_iff htask) rfl rfl, UpToDate, htask]
    exact (and_iff_left nofun).symm
  · rw [sound_acquire_iff hexclusive htask hfree hacquire, UpToDate, htask]
    simp
  · rw [sound_finishSection_iff hexclusive hlocked hrun, UpToDate, hlocked]
    exact (and_iff_left nofun).symm

/-! ## Runs -/

theorem exclusive_new (addSlotCount : Nat) :
    Exclusive (new addSlotCount : Server Client) := nofun

theorem sound_new (addSlotCount : Nat) :
    Sound (new addSlotCount : Server Client) := ⟨rfl, nofun⟩

/-- Nothing goes wrong in a run whose calls have decided right whenever they
get the emulator; and when the emulator is free at the end, something has gone
wrong in every other run. -/
theorem no_fault_iff_decided_right (addSlotCount : Nat)
    (labels : List (Label Client)) (last : Server Client)
    (hrun : run step (new addSlotCount) labels = some last) :
    (RunMeets step UpToDate (new addSlotCount) labels → last.faults = []) ∧
      (last.holder = none → last.faults = [] →
        RunMeets step UpToDate (new addSlotCount) labels) := by
  have hsound : Sound last ↔
      RunMeets step UpToDate (new addSlotCount : Server Client) labels := by
    rw [last_iff_runMeets (fun _ _ _ => Exclusive.step)
      (fun _ _ _ => sound_step_iff) (exclusive_new addSlotCount) hrun]
    exact and_iff_right (sound_new addSlotCount)
  constructor
  · intro hmeets
    exact (hsound.mpr hmeets).1
  · intro hfree hfaults
    have hexclusive : Exclusive last :=
      run_invariant (fun _ _ _ => Exclusive.step) (exclusive_new addSlotCount)
        hrun
    apply hsound.mp
    refine ⟨hfaults, fun id stage hlocked => ?_⟩
    exact absurd hlocked (hexclusive.not_locked hfree id stage)

def sections (id count : Nat) : List (Label Nat) :=
  List.replicate count (.advance id fun _ => true)

/-- Two clients register at the same time, and one of them touches. -/
def registeredTogether : List (Label Nat) :=
  [.call (.registerClient 1 (some 2)), .call (.registerClient 2 (some 2))] ++
    sections 0 1 ++ sections 1 1 ++ sections 0 6 ++ sections 1 6 ++
    [.call (.beginTouch 2 1 10 20)] ++ sections 2 3

theorem no_fault_when_registered_together :
    ∃ last, run step (new 8) registeredTogether = some last ∧
      last.faults = [] := by
  obtain ⟨last, hlast⟩ := Option.isSome_iff_exists.mp
    (by decide +kernel : (run step (new 8) registeredTogether).isSome = true)
  exact ⟨last, hlast, (no_fault_iff_decided_right 8 _ last hlast).1
    (by decide +kernel)⟩

/-- One client registers twice at the same time. -/
def registeredTwice : List (Label Nat) :=
  [.call (.registerClient 1 (some 2)), .call (.registerClient 1 (some 2))] ++
    sections 0 1 ++ sections 1 1 ++ sections 0 6 ++ sections 1 6

/-- One client unregisters twice at the same time. -/
def unregisteredTwice : List (Label Nat) :=
  [.call (.registerClient 1 (some 2))] ++ sections 0 7 ++
    [.call (.unregisterClient 1), .call (.unregisterClient 1)] ++
    sections 1 1 ++ sections 2 1 ++ sections 1 7 ++ sections 2 2

/-- Client 2 begins a touch while client 1 leaves; its slots are renumbered
before it gets the emulator. -/
def renumberedMeanwhile : List (Label Nat) :=
  [.call (.registerClient 1 (some 2))] ++ sections 0 7 ++
    [.call (.registerClient 2 (some 2))] ++ sections 1 7 ++
    [.call (.registerClient 3 (some 2))] ++ sections 2 7 ++
    [.call (.unregisterClient 1)] ++ sections 3 1 ++
    [.call (.beginTouch 2 0 10 20)] ++ sections 4 1 ++
    sections 3 7 ++ sections 4 2

/-- Slots are reserved twice; a missing entry is unwrapped; the touch of
client 2 lands on a slot of client 3. -/
theorem concurrent_calls_not_always_safe :
    (run step (new 8) registeredTwice).map Server.faults =
        some [.reservedTwice 1] ∧
      (run step (new 8) unregisteredTwice).map Server.faults =
        some [.missingEntry] ∧
      (run step (new 8) renumberedMeanwhile).map (fun last =>
          (last.faults, last.service.ownsSlot 3 2)) =
        some ([.strayTouch 2 2], true) := by
  decide +kernel

end Server

end HardwareInterfaces.TouchInjector
