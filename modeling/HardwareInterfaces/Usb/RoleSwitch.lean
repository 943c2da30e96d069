import Mathlib

/-!
# Role switches of a dual role port

A role switch writes the name of the role to a node of the port and reads the
node back.  The framework is told of a success at one place and of the final
status at another one.  The second place goes by a flag that nothing sets, and
only the second place asks whether there is a callback at all.

What opening, writing and reading a node leads to is an argument of the model.
-/

namespace HardwareInterfaces.Usb

inductive PortRoleType where
  | dataRole
  | powerRole
  | mode
  /-- Any other value the wire may carry. -/
  | other (value : Nat)
  deriving DecidableEq, Repr

structure PortRole where
  type : PortRoleType
  role : Nat
  deriving DecidableEq, Repr

inductive Status where
  | success
  | error
  | unrecognizedRole
  deriving DecidableEq, Repr

namespace PortPowerRole

def none : Nat := 0
def source : Nat := 1
def sink : Nat := 2

end PortPowerRole

namespace PortDataRole

def none : Nat := 0
def host : Nat := 1
def device : Nat := 2

end PortDataRole

namespace PortMode

def none : Nat := 0
def ufp : Nat := 1
def dfp : Nat := 2

end PortMode

/-- The nodes as a request finds them: which of them open for writing, and what
each holds when it is read back, if it opens. -/
structure Nodes where
  opens : String → Bool
  contents : String → Option String

/-- One call of the callback. -/
structure Notification where
  portName : String
  role : PortRole
  status : Status
  deriving DecidableEq, Repr

/-- A string up to its first null character. -/
def cStr (text : String) : String :=
  String.ofList (text.toList.takeWhile (· ≠ '\x00'))

/-- The first line of the node. -/
def readFile (nodes : Nodes) (filename : String) : Option String :=
  (nodes.contents filename).map fun contents =>
    String.ofList (contents.toList.takeWhile (· ≠ '\n'))

def nodeDirectory (portName : String) : String :=
  "/sys/class/dual_role_usb/" ++ portName

def appendRoleNodeHelper (portName : String) (type : PortRoleType) : String :=
  match type with
  | .dataRole => nodeDirectory portName ++ "/data_role"
  | .powerRole => nodeDirectory portName ++ "/power_role"
  | .mode | .other _ => nodeDirectory portName ++ "/mode"

def convertRoletoString (role : PortRole) : String :=
  match role.type with
  | .powerRole =>
    if role.role = PortPowerRole.source then "source"
    else if role.role = PortPowerRole.sink then "sink"
    else "none"
  | .dataRole =>
    if role.role = PortDataRole.host then "host"
    else if role.role = PortDataRole.device then "device"
    else "none"
  | .mode =>
    if role.role = PortMode.ufp then "ufp"
    else if role.role = PortMode.dfp then "dfp"
    else "none"
  | .other _ => "none"

/-- The calls of the callback at the end of a request.  `roleSwitch` stays as it
was initialised. -/
def notifyFinalStatus (callbackSet : Bool) (portName : String)
    (newRole : PortRole) : List Notification :=
  let roleSwitch := false
  if callbackSet then
    [⟨portName, newRole, if roleSwitch then .success else .error⟩]
  else []

/-- The calls of the callback; `none` if a callback that is not there is
called. -/
def switchRole (nodes : Nodes) (callbackSet : Bool) (portName : String)
    (newRole : PortRole) : Option (List Notification) :=
  let filename := appendRoleNodeHelper (cStr portName) newRole.type
  if filename = "" then some []
  else if nodes.opens filename ∧
      readFile nodes filename = some (convertRoletoString newRole) then
    if callbackSet then
      some (⟨portName, newRole, .success⟩ ::
        notifyFinalStatus callbackSet portName newRole)
    else none
  else some (notifyFinalStatus callbackSet portName newRole)

/-- The role a node names and how reading it went; the role is left as it was
found (`none`) for a type without a node. -/
def getCurrentRoleHelper (nodes : Nodes) (portName : String)
    (type : PortRoleType) : Status × Option Nat :=
  let (filename, unset) : String × Option Nat := match type with
    | .powerRole =>
      (nodeDirectory portName ++ "/power_role", some PortPowerRole.none)
    | .dataRole =>
      (nodeDirectory portName ++ "/data_role", some PortDataRole.none)
    | .mode => (nodeDirectory portName ++ "/mode", some PortMode.none)
    | .other _ => ("", none)
  match readFile nodes filename with
  | none => (.error, unset)
  | some roleName =>
    if roleName = "dfp" then (.success, some PortMode.dfp)
    else if roleName = "ufp" then (.success, some PortMode.ufp)
    else if roleName = "source" then (.success, some PortPowerRole.source)
    else if roleName = "sink" then (.success, some PortPowerRole.sink)
    else if roleName = "host" then (.success, some PortDataRole.host)
    else if roleName = "device" then (.success, some PortDataRole.device)
    else if roleName ≠ "none" then (.unrecognizedRole, unset)
    else (.success, unset)

/-! ## What a request reports -/

/-- The node of the role opens, and what is read back is the role. -/
def ReadsBack (nodes : Nodes) (portName : String) (newRole : PortRole) : Prop :=
  nodes.opens (appendRoleNodeHelper (cStr portName) newRole.type) = true ∧
    readFile nodes (appendRoleNodeHelper (cStr portName) newRole.type) =
      some (convertRoletoString newRole)

instance (nodes : Nodes) (portName : String) (newRole : PortRole) :
    Decidable (ReadsBack nodes portName newRole) :=
  inferInstanceAs (Decidable (_ ∧ _))

/-- A callback is told the outcome once; without one nobody is told. -/
structure ReportsOnce (nodes : Nodes) (callbackSet : Bool) (portName : String)
    (newRole : PortRole) (sent : Option (List Notification)) : Prop where
  once : callbackSet = true → sent = some [⟨portName, newRole,
    if ReadsBack nodes portName newRole then .success else .error⟩]
  silent : callbackSet = false → sent = some []

theorem appendRoleNodeHelper_ne_empty (portName : String)
    (type : PortRoleType) : appendRoleNodeHelper portName type ≠ "" := by
  cases type <;> exact fun hempty =>
    absurd (String.append_eq_empty_iff.mp hempty).2 (by decide)

variable {nodes : Nodes} {portName : String} {newRole : PortRole}

theorem switchRole_of_readsBack (hback : ReadsBack nodes portName newRole)
    (callbackSet : Bool) :
    switchRole nodes callbackSet portName newRole =
      if callbackSet then
        some [⟨portName, newRole, .success⟩, ⟨portName, newRole, .error⟩]
      else none := by
  rw [ReadsBack] at hback
  rw [switchRole, if_neg (appendRoleNodeHelper_ne_empty _ _), if_pos hback]
  cases callbackSet <;> rfl

theorem switchRole_of_not_readsBack
    (hback : ¬ ReadsBack nodes portName newRole) (callbackSet : Bool) :
    switchRole nodes callbackSet portName newRole =
      some (if callbackSet then [⟨portName, newRole, .error⟩] else []) := by
  rw [ReadsBack] at hback
  rw [switchRole, if_neg (appendRoleNodeHelper_ne_empty _ _), if_neg hback]
  cases callbackSet <;> rfl

/-- A request is reported as it should be exactly when it fails. -/
theorem switch_reports_once_iff (nodes : Nodes) (callbackSet : Bool)
    (portName : String) (newRole : PortRole) :
    ReportsOnce nodes callbackSet portName newRole
        (switchRole nodes callbackSet portName newRole) ↔
      ¬ ReadsBack nodes portName newRole := by
  constructor
  · intro hreports hback
    rw [switchRole_of_readsBack hback] at hreports
    cases callbackSet with
    | true =>
        have htwo := congrArg List.length
          (Option.some.inj (hreports.once rfl))
        exact Nat.succ_ne_self 1 htwo
    | false => exact absurd (hreports.silent rfl) nofun
  · intro hback
    rw [switchRole_of_not_readsBack hback]
    refine ⟨fun hset => ?_, fun hset => ?_⟩
    · rw [if_pos hset, if_neg hback]
    · rw [hset]
      rfl

/-- A port that becomes host: the framework hears of a success and then of an
error, and without a callback the service ends. -/
theorem switch_reports_success_and_error :
    switchRole ⟨fun _ => true, fun _ => some "host\n"⟩ true "port0"
          ⟨.dataRole, 1⟩ =
        some [⟨"port0", ⟨.dataRole, 1⟩, .success⟩,
          ⟨"port0", ⟨.dataRole, 1⟩, .error⟩] ∧
      ¬ ReportsOnce ⟨fun _ => true, fun _ => some "host\n"⟩ true "port0"
        ⟨.dataRole, 1⟩ (switchRole ⟨fun _ => true, fun _ => some "host\n"⟩
          true "port0" ⟨.dataRole, 1⟩) ∧
      ¬ ReportsOnce ⟨fun _ => true, fun _ => some "host\n"⟩ false "port0"
        ⟨.dataRole, 1⟩ (switchRole ⟨fun _ => true, fun _ => some "host\n"⟩
          false "port0" ⟨.dataRole, 1⟩) := by
  have hback : ReadsBack ⟨fun _ => true, fun _ => some "host\n"⟩ "port0"
      ⟨.dataRole, 1⟩ := ⟨rfl, by decide +kernel⟩
  have htwo := switchRole_of_readsBack hback true
  have hnone := switchRole_of_readsBack hback false
  refine ⟨htwo, fun hreports => ?_, fun hreports => ?_⟩
  · have hone := htwo.symm.trans (hreports.once rfl)
    exact absurd (congrArg List.length (Option.some.inj hone)) (by decide)
  · exact absurd (hnone.symm.trans (hreports.silent rfl)) nofun

/-! ## What the port status shows afterwards -/

/-- The roles that have a name. -/
inductive Named : PortRole → Prop where
  | source : Named ⟨.powerRole, PortPowerRole.source⟩
  | sink : Named ⟨.powerRole, PortPowerRole.sink⟩
  | host : Named ⟨.dataRole, PortDataRole.host⟩
  | device : Named ⟨.dataRole, PortDataRole.device⟩
  | ufp : Named ⟨.mode, PortMode.ufp⟩
  | dfp : Named ⟨.mode, PortMode.dfp⟩

/-- The name of a role is read as that role, from the node of its type. -/
theorem getCurrentRoleHelper_of_readFile {role : PortRole}
    (hnamed : Named role)
    (hread : readFile nodes (appendRoleNodeHelper portName role.type) =
      some (convertRoletoString role)) :
    getCurrentRoleHelper nodes portName role.type =
      (.success, some role.role) := by
  cases hnamed <;>
    simp only [appendRoleNodeHelper] at hread <;>
    simp only [getCurrentRoleHelper, hread] <;> rfl

/-- A port whose switch was read back shows the role it was switched to, even
though the last report of the switch was an error. -/
theorem getCurrentRoleHelper_of_readsBack (hnamed : Named newRole)
    (hback : ReadsBack nodes portName newRole) :
    getCurrentRoleHelper nodes (cStr portName) newRole.type =
      (.success, some newRole.role) :=
  getCurrentRoleHelper_of_readFile hnamed hback.2

end HardwareInterfaces.Usb
