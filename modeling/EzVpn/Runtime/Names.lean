import EzVpn.Config
import Mathlib.Data.List.Sort
import Mathlib.Data.String.Basic

/-!
# Names in the runtime directory

An instance is a role and a name.  Its lock file and its control socket are named
after both (`runtime_base_name`), and `list_locked_instances` finds the instances
again from the names of the lock files.

    lockName r n = lockName r' n'  →  r = r' ∧ n = n'        (lockName_inj)
    instanceFromLockName f r = some n  ↔  f = lockName r n ∧ n ≠ ""   (instanceFromLockName_eq_some)
-/

namespace EzVpn

/-- `LockRole`. -/
inductive LockRole
  | client
  | server
deriving DecidableEq, Repr

namespace LockRole

def slug : LockRole → String
  | client => "client"
  | server => "server"

def description : LockRole → String
  | client => "VPN client"
  | server => "VPN server"

end LockRole

/-- `MAX_INSTANCE_NAME_LEN`. -/
def maxInstanceNameLen : Nat := 64

/-- The part of a runtime file name before the instance. -/
def roleStem (role : LockRole) : String := "ezvpn-" ++ role.slug ++ "-"

/-- `runtime_base_name`. -/
def runtimeBaseName (role : LockRole) (name : String) : String := roleStem role ++ name

/-- File name of `VpnLock::lock_path`. -/
def lockName (role : LockRole) (name : String) : String := runtimeBaseName role name ++ ".lock"

/-- File name of `socket_path`. -/
def socketName (role : LockRole) (name : String) : String := runtimeBaseName role name ++ ".sock"

/-- `validate_instance_name`. -/
def validateInstanceName (name : String) : Except VpnError Unit :=
  if name.isEmpty then
    .error (.config "Instance name must not be empty")
  else if name.utf8ByteSize > maxInstanceNameLen then
    .error (.config s!"Instance name must be at most {maxInstanceNameLen} characters")
  else if !(name.toList.all fun c => c.isAlphanum || c == '_') then
    .error (.config "Instance name may only contain ASCII letters, digits, and underscores")
  else
    .ok ()

/-- `str::strip_prefix`. -/
def stripStart (start s : String) : Option String :=
  if start.toList <+: s.toList then some (String.ofList (s.toList.drop start.toList.length)) else none

/-- `str::strip_suffix`. -/
def stripEnd (ending s : String) : Option String :=
  if ending.toList <:+ s.toList then
    some (String.ofList (s.toList.take (s.toList.length - ending.toList.length)))
  else none

/-- `instance_from_lock_name`. -/
def instanceFromLockName (fileName : String) (role : LockRole) : Option String := do
  let rest ← stripStart (roleStem role) fileName
  let name ← stripEnd ".lock" rest
  if name.isEmpty then none else some name

/-- `list_locked_instances` over the file names of a readable directory. -/
def listLockedInstances (fileNames : List String) (role : LockRole) : List String :=
  (fileNames.filterMap fun fileName => do
    let name ← instanceFromLockName fileName role
    match validateInstanceName name with
    | .ok () => some name
    | .error _ => none).mergeSort fun a b => decide (a ≤ b)

/-! ## Stripping -/

theorem stripStart_eq_some {start s rest : String} :
    stripStart start s = some rest ↔ s = start ++ rest := by
  unfold stripStart
  constructor
  · intro h
    split at h
    · next hpre =>
      obtain ⟨tail, htail⟩ := hpre
      obtain rfl := Option.some.inj h
      apply String.toList_inj.1
      rw [← htail]
      simp
    · cases h
  · rintro rfl
    simp

theorem stripEnd_eq_some {ending s rest : String} :
    stripEnd ending s = some rest ↔ s = rest ++ ending := by
  unfold stripEnd
  constructor
  · intro h
    split at h
    · next hsuf =>
      obtain ⟨front, hfront⟩ := hsuf
      obtain rfl := Option.some.inj h
      apply String.toList_inj.1
      simp [← hfront]
    · cases h
  · rintro rfl
    simp

theorem instanceFromLockName_eq_some {fileName name : String} {role : LockRole} :
    instanceFromLockName fileName role = some name ↔ fileName = lockName role name ∧ name ≠ "" := by
  have hname : fileName = lockName role name ↔ fileName = roleStem role ++ (name ++ ".lock") := by
    rw [lockName, runtimeBaseName, String.append_assoc]
  rw [hname]
  unfold instanceFromLockName
  simp only [Option.bind_eq_bind, Option.bind_eq_some_iff, stripStart_eq_some, stripEnd_eq_some]
  constructor
  · rintro ⟨rest, rfl, name', rfl, h⟩
    split at h
    · cases h
    · next hne =>
      obtain rfl := Option.some.inj h
      exact ⟨rfl, by simpa using hne⟩
  · rintro ⟨rfl, hne⟩
    exact ⟨_, rfl, name, rfl, by simpa using hne⟩

/-! ## One file per instance -/

theorem runtimeBaseName_inj {r r' : LockRole} {n n' : String}
    (h : runtimeBaseName r n = runtimeBaseName r' n') : r = r' ∧ n = n' := by
  have hl := congrArg String.toList h
  -- the two slugs have six letters each and differ in the first
  cases r <;> cases r' <;>
    simp [runtimeBaseName, roleStem, LockRole.slug, String.toList_append] at hl <;>
    exact ⟨rfl, String.toList_inj.1 hl⟩

theorem lockName_inj {r r' : LockRole} {n n' : String} (h : lockName r n = lockName r' n') :
    r = r' ∧ n = n' := by
  refine runtimeBaseName_inj (String.toList_inj.1 ?_)
  have hl := congrArg String.toList h
  rw [lockName, lockName, String.toList_append, String.toList_append] at hl
  exact List.append_cancel_right hl

theorem socketName_inj {r r' : LockRole} {n n' : String} (h : socketName r n = socketName r' n') :
    r = r' ∧ n = n' := by
  refine runtimeBaseName_inj (String.toList_inj.1 ?_)
  have hl := congrArg String.toList h
  rw [socketName, socketName, String.toList_append, String.toList_append] at hl
  exact List.append_cancel_right hl

theorem lockName_ne_socketName (r r' : LockRole) (n n' : String) : lockName r n ≠ socketName r' n' := by
  intro h
  have hl := congrArg String.toList h
  rw [lockName, socketName, String.toList_append, String.toList_append] at hl
  have hends := List.append_inj_right' hl (by simp)
  simp at hends

/-! ## Discovery -/

/-- The names `validate_instance_name` accepts. -/
def ValidName (name : String) : Prop := validateInstanceName name = .ok ()

instance (name : String) : Decidable (ValidName name) := by
  unfold ValidName; infer_instance

theorem ValidName.ne_empty {name : String} (h : ValidName name) : name ≠ "" := by
  rintro rfl
  exact absurd h (by decide)

theorem mem_listLockedInstances {fileNames : List String} {role : LockRole} {name : String} :
    name ∈ listLockedInstances fileNames role ↔ lockName role name ∈ fileNames ∧ ValidName name := by
  unfold listLockedInstances
  rw [List.mem_mergeSort, List.mem_filterMap]
  constructor
  · rintro ⟨fileName, hmem, h⟩
    simp only [Option.bind_eq_bind, Option.bind_eq_some_iff] at h
    obtain ⟨name', hfrom, h⟩ := h
    split at h
    · next hok =>
      obtain rfl := Option.some.inj h
      exact ⟨(instanceFromLockName_eq_some.1 hfrom).1 ▸ hmem, hok⟩
    · cases h
  · rintro ⟨hmem, hvalid⟩
    have hfrom : instanceFromLockName (lockName role name) role = some name :=
      instanceFromLockName_eq_some.2 ⟨rfl, hvalid.ne_empty⟩
    have hok : validateInstanceName name = .ok () := hvalid
    exact ⟨_, hmem, by simp [hfrom, hok]⟩

end EzVpn
