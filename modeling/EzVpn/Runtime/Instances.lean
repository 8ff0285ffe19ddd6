import EzVpn.Lib.Map
import EzVpn.Lib.Run
import EzVpn.Runtime.Names

/-!
# Instances on one host

The processes of a host, the runtime directory they share and what each of them
does with it: `VpnLock::acquire` opens the instance's lock file, locks it, empties
it and writes its PID; `spawn_status_listener` removes a stale socket and binds a
new one; on the way out the listener's guard removes the socket and the lock is
released.  The steps of different processes interleave freely, and a process may
end between any two of its own.

A directory leads from names to inodes, and a lock belongs to an inode, not to a
name.  Everything rests on two facts about that: a lock file is never removed, so
all processes of an instance lock one inode (`Sound.file`); and whoever touches the
instance's socket holds that lock (`Inv.rivals`).
-/

namespace EzVpn

open Lib (Map update_eq_some)

abbrev Pid := Nat
abbrev Inode := Nat

/-- How far a process is: `acquire` up to `held`, `spawn_status_listener` up to
`serving` or `unserved`, then the drops of the guard and of the lock. -/
inductive ProcStage
  | opened
  | locked
  | truncated
  | held
  | cleared
  | serving (socket : Inode)
  | unserved
  | closing (socket : Inode)
  | ending
deriving DecidableEq, Repr

namespace ProcStage

def holds : ProcStage → Bool
  | opened => false
  | _ => true

/-- The PID has been written to the lock file. -/
def recorded : ProcStage → Bool
  | opened | locked | truncated => false
  | _ => true

/-- The socket whose guard the process has. -/
def socket : ProcStage → Option Inode
  | serving j | closing j => some j
  | _ => none

end ProcStage

structure Proc where
  role : LockRole
  name : String
  inode : Inode
  stage : ProcStage
deriving DecidableEq, Repr

namespace Proc

def lockName (pr : Proc) : String := EzVpn.lockName pr.role pr.name

def socketName (pr : Proc) : String := EzVpn.socketName pr.role pr.name

end Proc

/-- The runtime directory and the processes that use it.  The text of a lock file is
empty or one PID. -/
structure Host where
  next : Inode
  dir : Map String Inode
  holder : Inode → Option Pid
  contents : Inode → Option Pid
  listener : Inode → Option Pid
  procs : Pid → Option Proc
  refused : List (Pid × VpnError)

namespace Host

/-- `/run` after a boot. -/
def boot : Host :=
  { next := 0, dir := ∅, holder := fun _ => none, contents := fun _ => none,
    listener := fun _ => none, procs := fun _ => none, refused := [] }

/-! ## Steps -/

inductive Own
  | tryLock
  | setLen
  | writePid
  | removeStale
  | bind
  | bindFails
  | chmodFails
  | abort
  | removeSocket
  | unlock
deriving DecidableEq, Repr

inductive Action
  | start (p : Pid) (role : LockRole) (name : String)
  | own (p : Pid) (act : Own)
  /-- the accept loop breaks, or the abort of its task takes effect -/
  | listenerEnds (j : Inode)
  | crash (p : Pid)
deriving DecidableEq, Repr

variable (s : Host)

def setStage (p : Pid) (pr : Proc) (stage : ProcStage) : Host :=
  { s with procs := Function.update s.procs p (some { pr with stage := stage }) }

/-- The lock file opened with `create(true)` and `truncate(false)`. -/
def openLock (p : Pid) (role : LockRole) (name : String) : Host :=
  match s.dir.lookup (lockName role name) with
  | some i => { s with procs := Function.update s.procs p (some ⟨role, name, i, .opened⟩) }
  | none =>
    { s with
      next := s.next + 1
      dir := s.dir.insert (lockName role name) s.next
      contents := Function.update s.contents s.next none
      procs := Function.update s.procs p (some ⟨role, name, s.next, .opened⟩) }

def anotherRunning (role : LockRole) : VpnError :=
  .config ("Another " ++ role.description ++ " is already running. Only one instance allowed.")

/-- `try_lock`; a process that is refused gives up. -/
def tryLock (p : Pid) (pr : Proc) : Host :=
  match s.holder pr.inode with
  | none => { s.setStage p pr .locked with holder := Function.update s.holder pr.inode (some p) }
  | some _ =>
    { s with
      procs := Function.update s.procs p none
      refused := s.refused ++ [(p, anotherRunning pr.role)] }

/-- A new socket file at the process's path. -/
def makeSocket (pr : Proc) : Host :=
  { s with next := s.next + 1, dir := s.dir.insert pr.socketName s.next }

/-- `UnixListener::bind`, which fails on a path that is taken. -/
def bind (p : Pid) (pr : Proc) : Host :=
  match s.dir.lookup pr.socketName with
  | some _ => s.setStage p pr .unserved
  | none =>
    { (s.makeSocket pr).setStage p pr (.serving s.next) with
      listener := Function.update s.listener s.next (some p) }

/-- `set_permissions` fails after `bind`: the listener goes, the file stays. -/
def chmodFails (p : Pid) (pr : Proc) : Host :=
  match s.dir.lookup pr.socketName with
  | some _ => s.setStage p pr .unserved
  | none => (s.makeSocket pr).setStage p pr .unserved

def ownStep (p : Pid) (pr : Proc) : Own → ProcStage → Option Host
  | .tryLock, .opened => some (s.tryLock p pr)
  | .setLen, .locked =>
    some { s.setStage p pr .truncated with contents := Function.update s.contents pr.inode none }
  | .writePid, .truncated =>
    some { s.setStage p pr .held with contents := Function.update s.contents pr.inode (some p) }
  | .removeStale, .held => some { s.setStage p pr .cleared with dir := s.dir.erase pr.socketName }
  | .bind, .cleared => some (s.bind p pr)
  | .bindFails, .cleared => some (s.setStage p pr .unserved)
  | .chmodFails, .cleared => some (s.chmodFails p pr)
  -- without a listener there is no guard to drop
  | .abort, .serving j => some (s.setStage p pr (.closing j))
  | .abort, .unserved => some (s.setStage p pr .ending)
  | .removeSocket, .closing _ => some { s.setStage p pr .ending with dir := s.dir.erase pr.socketName }
  -- the lock file itself stays in the directory
  | .unlock, .ending =>
    some { s with
      holder := Function.update s.holder pr.inode none
      procs := Function.update s.procs p none }
  | _, _ => none

/-- The operating system closes what the process had open; the files stay. -/
def crash (p : Pid) : Host :=
  { s with
    holder := fun i => if s.holder i = some p then none else s.holder i
    listener := fun j => if s.listener j = some p then none else s.listener j
    procs := Function.update s.procs p none }

def step? : Action → Option Host
  | .start p role name =>
    if s.procs p = none ∧ ValidName name then some (s.openLock p role name) else none
  | .own p act => (s.procs p).bind fun pr => s.ownStep p pr act pr.stage
  | .listenerEnds j => some { s with listener := Function.update s.listener j none }
  | .crash p => some (s.crash p)

/-- Steps that are not enabled change nothing. -/
def step (a : Action) : Host := (s.step? a).getD s

/-! ## Commands -/

/-- Who answers `query_status`: nobody where the socket is missing or refuses. -/
def queryStatus (role : LockRole) (name : String) : Option Pid :=
  (s.dir.lookup (socketName role name)).bind s.listener

/-- `read_instance_pid` of a valid name. -/
def readInstancePid (role : LockRole) (name : String) : Option Pid :=
  (s.dir.lookup (lockName role name)).bind s.contents

/-- `list_locked_instances`. -/
def lockedInstances (role : LockRole) : List String := listLockedInstances s.dir.keys role

/-! ## What holds of every process -/

/-- What a process can rely on at its stage. -/
structure Sound (p : Pid) (pr : Proc) : Prop where
  valid : ValidName pr.name
  file : s.dir.lookup pr.lockName = some pr.inode
  holds : pr.stage.holds = true → s.holder pr.inode = some p
  recorded : pr.stage.recorded = true → s.contents pr.inode = some p
  cleared : pr.stage = .cleared → s.dir.lookup pr.socketName = none
  socket : ∀ j, pr.stage.socket = some j → s.dir.lookup pr.socketName = some j

structure Inv : Prop where
  old : ∀ path i, s.dir.lookup path = some i → i < s.next
  single : ∀ path path' i, s.dir.lookup path = some i → s.dir.lookup path' = some i → path = path'
  sound : ∀ p pr, s.procs p = some pr → s.Sound p pr
  heldBy : ∀ i p, s.holder i = some p →
    ∃ pr, s.procs p = some pr ∧ pr.inode = i ∧ pr.stage.holds = true
  quiet : ∀ j, s.next ≤ j → s.listener j = none
  answers : ∀ path j p, s.dir.lookup path = some j → s.listener j = some p →
    ∃ pr, s.procs p = some pr ∧ path = pr.socketName ∧ pr.stage.socket = some j

variable {s} {s' : Host} {p q : Pid} {pr qr : Proc} {stage : ProcStage}

theorem inv_boot : boot.Inv where
  old _ _ h := by cases h
  single _ _ _ h := by cases h
  sound _ _ h := by cases h
  heldBy _ _ h := by cases h
  quiet _ _ := rfl
  answers _ _ _ h := by cases h

theorem holds_of_socket {j : Inode} (h : stage.socket = some j) : stage.holds = true := by
  cases stage <;> first | rfl | cases h

theorem holds_of_recorded (h : stage.recorded = true) : stage.holds = true := by
  cases stage <;> first | rfl | cases h

theorem Sound.frame (h : s.Sound q qr) (hfile : s'.dir.lookup qr.lockName = s.dir.lookup qr.lockName)
    (hrest : qr.stage.holds = true → s'.holder qr.inode = s.holder qr.inode ∧
      s'.contents qr.inode = s.contents qr.inode ∧
      s'.dir.lookup qr.socketName = s.dir.lookup qr.socketName) : s'.Sound q qr where
  valid := h.valid
  file := hfile.trans h.file
  holds hh := (hrest hh).1.trans (h.holds hh)
  recorded hr := (hrest (holds_of_recorded hr)).2.1.trans (h.recorded hr)
  cleared hc := (hrest (by rw [hc]; rfl)).2.2.trans (h.cleared hc)
  socket j hj := (hrest (holds_of_socket hj)).2.2.trans (h.socket j hj)

/-- Two processes that hold a lock are of different instances: they share neither the
inode nor the names. -/
theorem Inv.rivals (h : s.Inv) (hp : s.procs p = some pr) (hq : s.procs q = some qr) (hne : q ≠ p)
    (hph : pr.stage.holds = true) (hqh : qr.stage.holds = true) :
    qr.inode ≠ pr.inode ∧ qr.socketName ≠ pr.socketName := by
  have hinode : qr.inode ≠ pr.inode := by
    intro heq
    have hpi := (h.sound p pr hp).holds hph
    rw [← heq, (h.sound q qr hq).holds hqh] at hpi
    exact hne (Option.some.inj hpi)
  refine ⟨hinode, fun heq => hinode ?_⟩
  obtain ⟨hr, hn⟩ := socketName_inj heq
  have hfile : qr.lockName = pr.lockName := by rw [Proc.lockName, Proc.lockName, hr, hn]
  have hpf := (h.sound p pr hp).file
  rw [← hfile, (h.sound q qr hq).file] at hpf
  exact Option.some.inj hpf

theorem lockName_ne (pr qr : Proc) : pr.lockName ≠ qr.socketName := lockName_ne_socketName _ _ _ _

/-! ## A step of the lock's holder -/

/-- What a process that holds its lock may change: its stage, the text of its lock
file, and its own socket's path, which it leaves alone, frees, or leads to a new inode. -/
structure Turn (s s' : Host) (p : Pid) (pr : Proc) (stage : ProcStage) : Prop where
  procs : s'.procs = Function.update s.procs p (some { pr with stage := stage })
  holder : s'.holder = s.holder
  next : s.next ≤ s'.next
  contents : ∀ i, i ≠ pr.inode → s'.contents i = s.contents i
  dir : ∀ path, path ≠ pr.socketName → s'.dir.lookup path = s.dir.lookup path
  path : (s'.dir.lookup pr.socketName = s.dir.lookup pr.socketName ∧
      stage.socket = pr.stage.socket) ∨
    s'.dir.lookup pr.socketName = none ∨
    (s'.dir.lookup pr.socketName = some s.next ∧ s.next < s'.next)
  listener : ∀ j q, s'.listener j = some q → s.listener j = some q ∨
    (j = s.next ∧ q = p ∧ stage.socket = some s.next ∧ s.next < s'.next)
  text : ∀ q, s'.contents pr.inode = some q → s.contents pr.inode = some q ∨ q = p
  holds : stage.holds = true
  keeps : pr.stage.recorded = true → stage.recorded = true
  recorded : stage.recorded = true → s'.contents pr.inode = some p
  cleared : stage = .cleared → s'.dir.lookup pr.socketName = none
  socket : ∀ j, stage.socket = some j → s'.dir.lookup pr.socketName = some j

theorem Turn.lookup_old (t : Turn s s' p pr stage) {path : String} {i : Inode}
    (hi : s'.dir.lookup path = some i) :
    s.dir.lookup path = some i ∨ (path = pr.socketName ∧ i = s.next ∧ s.next < s'.next) := by
  by_cases hpath : path = pr.socketName
  · subst hpath
    rcases t.path with ⟨heq, _⟩ | hnone | ⟨hnew, hlt⟩
    · exact .inl (heq ▸ hi)
    · rw [hnone] at hi; cases hi
    · rw [hnew] at hi
      exact .inr ⟨rfl, (Option.some.inj hi).symm, hlt⟩
  · exact .inl (t.dir path hpath ▸ hi)

theorem Turn.sound (t : Turn s s' p pr stage) (h : s.Inv) (hp : s.procs p = some pr)
    (hph : pr.stage.holds = true) (hq : s'.procs q = some qr) : s'.Sound q qr := by
  rw [t.procs] at hq
  by_cases hqp : q = p
  · subst hqp
    rw [Function.update_self] at hq
    obtain rfl := Option.some.inj hq
    have hs := h.sound q pr hp
    exact {
      valid := hs.valid
      file := (t.dir _ (lockName_ne pr pr)).trans hs.file
      holds := fun _ => (congrFun t.holder _).trans (hs.holds hph)
      recorded := t.recorded
      cleared := t.cleared
      socket := t.socket }
  · rw [Function.update_of_ne hqp] at hq
    refine (h.sound q qr hq).frame (t.dir _ (lockName_ne qr pr)) fun hqh => ?_
    obtain ⟨hinode, hpath⟩ := h.rivals hp hq hqp hph hqh
    exact ⟨congrFun t.holder _, t.contents _ hinode, t.dir _ hpath⟩

theorem Turn.answers (t : Turn s s' p pr stage) (h : s.Inv) (hp : s.procs p = some pr) {path : String} {j : Inode} (hj : s'.dir.lookup path = some j)
    (hl : s'.listener j = some q) :
    ∃ qr, s'.procs q = some qr ∧ path = qr.socketName ∧ qr.stage.socket = some j := by
  rcases t.lookup_old hj with hold | ⟨rfl, rfl, hlt⟩
  · have hlt := h.old path j hold
    have hlold : s.listener j = some q := by
      rcases t.listener j q hl with hlo | ⟨rfl, _⟩
      · exact hlo
      · exact absurd hlt (lt_irrefl _)
    obtain ⟨qr, hq, hpath, hsock⟩ := h.answers path j q hold hlold
    rw [t.procs]
    by_cases hqp : q = p
    · subst hqp
      obtain rfl : pr = qr := Option.some.inj (hp.symm.trans hq)
      subst hpath
      refine ⟨_, Function.update_self .., rfl, ?_⟩
      rcases t.path with ⟨_, heq⟩ | hnone | ⟨hnew, _⟩
      · exact heq.trans hsock
      · rw [hnone] at hj; cases hj
      · rw [hnew] at hj
        exact absurd (Option.some.inj hj ▸ hlt) (lt_irrefl _)
    · exact ⟨qr, by rw [Function.update_of_ne hqp]; exact hq, hpath, hsock⟩
  · rcases t.listener _ q hl with hlo | ⟨_, rfl, hsock, _⟩
    · rw [h.quiet _ (le_refl _)] at hlo; cases hlo
    · exact ⟨{ pr with stage := stage }, by rw [t.procs]; exact Function.update_self .., rfl, hsock⟩

theorem Turn.inv (t : Turn s s' p pr stage) (h : s.Inv) (hp : s.procs p = some pr)
    (hph : pr.stage.holds = true) : s'.Inv where
  old path i hi := by
    rcases t.lookup_old hi with hold | ⟨_, rfl, hlt⟩
    · exact lt_of_lt_of_le (h.old path i hold) t.next
    · exact hlt
  single path path' i hi hi' := by
    rcases t.lookup_old hi with hold | ⟨rfl, rfl, _⟩ <;>
      rcases t.lookup_old hi' with hold' | ⟨rfl, hnew, _⟩
    · exact h.single path path' i hold hold'
    · exact absurd (hnew ▸ h.old path i hold) (lt_irrefl _)
    · exact absurd (h.old path' _ hold') (lt_irrefl _)
    · rfl
  sound q qr hq := t.sound h hp hph hq
  heldBy i q hi := by
    rw [t.holder] at hi
    obtain ⟨qr, hq, hinode, hqh⟩ := h.heldBy i q hi
    rw [t.procs]
    by_cases hqp : q = p
    · subst hqp
      obtain rfl : pr = qr := Option.some.inj (hp.symm.trans hq)
      exact ⟨_, Function.update_self .., hinode, t.holds⟩
    · exact ⟨qr, by rw [Function.update_of_ne hqp]; exact hq, hinode, hqh⟩
  quiet j hj := by
    cases hl : s'.listener j with
    | none => rfl
    | some q =>
      rcases t.listener j q hl with hlo | ⟨rfl, _, _, hlt⟩
      · rw [h.quiet j (le_trans t.next hj)] at hlo; cases hlo
      · exact absurd (lt_of_lt_of_le hlt hj) (lt_irrefl _)
  answers path j q hj hl := t.answers h hp hj hl

/-- A step that touches nothing but the stage. -/
theorem turn_setStage (h : s.Inv) (hp : s.procs p = some pr) (hholds : stage.holds = true)
    (hrec : stage.recorded = pr.stage.recorded) (hcleared : stage ≠ .cleared)
    (hsock : stage.socket = pr.stage.socket) : Turn s (s.setStage p pr stage) p pr stage where
  procs := rfl
  holder := rfl
  next := le_refl _
  contents _ _ := rfl
  dir _ _ := rfl
  path := .inl ⟨rfl, hsock⟩
  listener _ _ hl := .inl hl
  text _ hq := .inl hq
  holds := hholds
  keeps hr := hrec.trans hr
  recorded hr := (h.sound p pr hp).recorded (hrec ▸ hr)
  cleared hc := absurd hc hcleared
  socket j hj := (h.sound p pr hp).socket j (hsock ▸ hj)

/-- A step that rewrites the text of the lock file. -/
theorem turn_write {text : Option Pid} (hholds : stage.holds = true) (hsock : stage.socket = none)
    (hold : pr.stage.socket = none) (hkeeps : pr.stage.recorded = true → stage.recorded = true)
    (hcleared : stage ≠ .cleared) (hown : ∀ q, text = some q → q = p)
    (htext : stage.recorded = true → text = some p) :
    Turn s { s.setStage p pr stage with contents := Function.update s.contents pr.inode text }
      p pr stage where
  procs := rfl
  holder := rfl
  next := le_refl _
  contents i hi := Function.update_of_ne hi ..
  dir _ _ := rfl
  path := .inl ⟨rfl, hsock.trans hold.symm⟩
  listener _ _ hl := .inl hl
  text q hq := by
    rcases update_eq_some.1 hq with ⟨_, hnew⟩ | ⟨hne, _⟩
    · exact .inr (hown q hnew)
    · exact absurd rfl hne
  holds := hholds
  keeps := hkeeps
  recorded hr := (Function.update_self ..).trans (htext hr)
  cleared hc := absurd hc hcleared
  socket j hj := by rw [hsock] at hj; cases hj

/-- A step that removes the file at the socket's path. -/
theorem turn_remove (h : s.Inv) (hp : s.procs p = some pr) (hrec : pr.stage.recorded = true)
    (hnew : stage.recorded = true) (hsock : stage.socket = none) :
    Turn s { s.setStage p pr stage with dir := s.dir.erase pr.socketName } p pr stage where
  procs := rfl
  holder := rfl
  next := le_refl _
  contents _ _ := rfl
  dir path hpath := AList.lookup_erase_ne hpath
  path := .inr (.inl (AList.lookup_erase ..))
  listener _ _ hl := .inl hl
  text _ hq := .inl hq
  holds := holds_of_recorded hnew
  keeps _ := hnew
  recorded _ := (h.sound p pr hp).recorded hrec
  cleared _ := AList.lookup_erase ..
  socket j hj := by rw [hsock] at hj; cases hj

theorem turn_bind (h : s.Inv) (hp : s.procs p = some pr) (hs : pr.stage = .cleared) :
    Turn s (s.bind p pr) p pr (.serving s.next) := by
  have hsound := h.sound p pr hp
  have hbind : s.bind p pr = { (s.makeSocket pr).setStage p pr (.serving s.next) with
      listener := Function.update s.listener s.next (some p) } := by
    unfold bind; rw [hsound.cleared hs]
  rw [hbind]
  exact {
    procs := rfl
    holder := rfl
    next := Nat.le_succ _
    contents := fun _ _ => rfl
    dir := fun path hpath => AList.lookup_insert_ne hpath
    path := .inr (.inr ⟨AList.lookup_insert _, Nat.lt_succ_self _⟩)
    listener := fun j q hl => by
      rcases update_eq_some.1 hl with ⟨rfl, hq⟩ | ⟨_, hold⟩
      · exact .inr ⟨rfl, (Option.some.inj hq).symm, rfl, Nat.lt_succ_self _⟩
      · exact .inl hold
    text := fun _ hq => .inl hq
    holds := rfl
    keeps := fun _ => rfl
    recorded := fun _ => hsound.recorded (by rw [hs]; rfl)
    cleared := fun hc => by cases hc
    socket := fun j hj => by
      obtain rfl := Option.some.inj hj
      exact AList.lookup_insert _ }

theorem turn_chmodFails (h : s.Inv) (hp : s.procs p = some pr) (hs : pr.stage = .cleared) :
    Turn s (s.chmodFails p pr) p pr .unserved := by
  have hsound := h.sound p pr hp
  have hchmod : s.chmodFails p pr = (s.makeSocket pr).setStage p pr .unserved := by
    unfold chmodFails; rw [hsound.cleared hs]
  rw [hchmod]
  exact {
    procs := rfl
    holder := rfl
    next := Nat.le_succ _
    contents := fun _ _ => rfl
    dir := fun path hpath => AList.lookup_insert_ne hpath
    path := .inr (.inr ⟨AList.lookup_insert _, Nat.lt_succ_self _⟩)
    listener := fun _ _ hl => .inl hl
    text := fun _ hq => .inl hq
    holds := rfl
    keeps := fun _ => rfl
    recorded := fun _ => hsound.recorded (by rw [hs]; rfl)
    cleared := fun hc => by cases hc
    socket := fun j hj => by cases hj }

/-- Between taking and releasing its lock a process only takes turns. -/
theorem ownStep_cases (h : s.Inv) (hp : s.procs p = some pr) {act : Own}
    (hstep : s.ownStep p pr act pr.stage = some s') :
    (act = .tryLock ∧ pr.stage = .opened ∧ s' = s.tryLock p pr) ∨
    (act = .unlock ∧ pr.stage = .ending ∧
      s' = { s with
        holder := Function.update s.holder pr.inode none
        procs := Function.update s.procs p none }) ∨
    (pr.stage.holds = true ∧ ∃ stage, Turn s s' p pr stage) := by
  generalize hs : pr.stage = old at hstep
  unfold ownStep at hstep
  split at hstep <;> first | cases hstep; done | obtain rfl := Option.some.inj hstep
  · exact .inl ⟨rfl, rfl, rfl⟩
  · exact .inr (.inr ⟨rfl, _, turn_write rfl rfl (by rw [hs]; rfl) (by rw [hs]; nofun) nofun nofun nofun⟩)
  · exact .inr (.inr ⟨rfl, _, turn_write rfl rfl (by rw [hs]; rfl) (fun _ => rfl) nofun
      (fun _ hq => (Option.some.inj hq).symm) fun _ => rfl⟩)
  · exact .inr (.inr ⟨rfl, _, turn_remove h hp (by rw [hs]; rfl) rfl rfl⟩)
  · exact .inr (.inr ⟨rfl, _, turn_bind h hp hs⟩)
  · exact .inr (.inr ⟨rfl, _, turn_setStage h hp rfl (by rw [hs]; rfl) nofun (by rw [hs]; rfl)⟩)
  · exact .inr (.inr ⟨rfl, _, turn_chmodFails h hp hs⟩)
  · exact .inr (.inr ⟨rfl, _, turn_setStage h hp rfl (by rw [hs]; rfl) nofun (by rw [hs]; rfl)⟩)
  · exact .inr (.inr ⟨rfl, _, turn_setStage h hp rfl (by rw [hs]; rfl) nofun (by rw [hs]; rfl)⟩)
  · exact .inr (.inr ⟨rfl, _, turn_remove h hp (by rw [hs]; rfl) rfl rfl⟩)
  · exact .inr (.inl ⟨rfl, rfl, rfl⟩)

/-! ## Coming and going -/

/-- A process opens its lock file: a file that is there keeps its inode. -/
theorem Inv.openLock (h : s.Inv) (hp : s.procs p = none) {role : LockRole} {name : String}
    (hn : ValidName name) : (s.openLock p role name).Inv := by
  have hother : ∀ q qr, s.procs q = some qr → q ≠ p := by
    rintro q qr hq rfl
    rw [hp] at hq; cases hq
  unfold Host.openLock
  split
  · next i hi =>
    have hsame : ∀ q qr, s.procs q = some qr →
        Function.update s.procs p (some ⟨role, name, i, .opened⟩) q = some qr := fun q qr hq =>
      (Function.update_of_ne (hother q qr hq) ..).trans hq
    exact { h with
      sound := fun q qr hq => by
        rcases update_eq_some.1 hq with ⟨rfl, hnew⟩ | ⟨_, hold⟩
        · obtain rfl := Option.some.inj hnew
          exact ⟨hn, hi, nofun, nofun, nofun, nofun⟩
        · exact (h.sound q qr hold).frame rfl fun _ => ⟨rfl, rfl, rfl⟩
      heldBy := fun i q hi => (h.heldBy i q hi).imp fun qr hq => ⟨hsame q qr hq.1, hq.2⟩
      answers := fun path j q hj hl =>
        (h.answers path j q hj hl).imp fun qr hq => ⟨hsame q qr hq.1, hq.2⟩ }
  · next hnone =>
    have hsame : ∀ q qr, s.procs q = some qr →
        Function.update s.procs p (some ⟨role, name, s.next, .opened⟩) q = some qr := fun q qr hq =>
      (Function.update_of_ne (hother q qr hq) ..).trans hq
    -- the new inode is at the new name only
    have hcases : ∀ path i, (s.dir.insert (lockName role name) s.next).lookup path = some i →
        (path = lockName role name ∧ i = s.next) ∨ s.dir.lookup path = some i := by
      intro path i hi
      rw [Map.lookup_insert_eq] at hi
      split at hi
      · next hpath => exact .inl ⟨hpath, (Option.some.inj hi).symm⟩
      · exact .inr hi
    have hkept : ∀ path i, s.dir.lookup path = some i →
        (s.dir.insert (lockName role name) s.next).lookup path = some i := by
      intro path i hi
      refine (AList.lookup_insert_ne ?_).trans hi
      rintro rfl
      rw [hnone] at hi; cases hi
    exact {
      old := fun path i hi => by
        rcases hcases path i hi with ⟨_, rfl⟩ | hold
        · exact Nat.lt_succ_self _
        · exact Nat.lt_succ_of_lt (h.old path i hold)
      single := fun path path' i hi hi' => by
        rcases hcases path i hi with ⟨rfl, rfl⟩ | hold <;>
          rcases hcases path' _ hi' with ⟨rfl, hnew⟩ | hold'
        · rfl
        · exact absurd (h.old path' _ hold') (lt_irrefl _)
        · exact absurd (hnew ▸ h.old path i hold) (lt_irrefl _)
        · exact h.single path path' i hold hold'
      sound := fun q qr hq => by
        rcases update_eq_some.1 hq with ⟨rfl, hnew⟩ | ⟨_, hold⟩
        · obtain rfl := Option.some.inj hnew
          exact ⟨hn, AList.lookup_insert _, nofun, nofun, nofun, nofun⟩
        · have hqs := h.sound q qr hold
          have hlt := h.old _ _ hqs.file
          refine hqs.frame ((hkept _ _ hqs.file).trans hqs.file.symm) fun _ => ⟨rfl, ?_, ?_⟩
          · exact Function.update_of_ne (ne_of_lt hlt) ..
          · exact AList.lookup_insert_ne (lockName_ne ⟨role, name, 0, .opened⟩ qr).symm
      heldBy := fun i q hi => (h.heldBy i q hi).imp fun qr hq => ⟨hsame q qr hq.1, hq.2⟩
      quiet := fun j hj => h.quiet j (Nat.le_of_succ_le hj)
      answers := fun path j q hj hl => by
        rcases hcases path j hj with ⟨_, rfl⟩ | hold
        · have hquiet : s.listener s.next = none := h.quiet _ (le_refl _)
          cases hquiet.symm.trans hl
        · exact (h.answers path j q hold hl).imp fun qr hq => ⟨hsame q qr hq.1, hq.2⟩ }

theorem Inv.acquire (h : s.Inv) (hp : s.procs p = some pr) (hs : pr.stage = .opened)
    (hfree : s.holder pr.inode = none) :
    Inv { s.setStage p pr .locked with holder := Function.update s.holder pr.inode (some p) } := by
  have hidle : ∀ j, pr.stage.socket ≠ some j := fun j hj => by rw [hs] at hj; cases hj
  exact { h with
    sound := fun q qr hq => by
      rcases update_eq_some.1 hq with ⟨rfl, hnew⟩ | ⟨_, hold⟩
      · obtain rfl := Option.some.inj hnew
        have hsound := h.sound q pr hp
        exact ⟨hsound.valid, hsound.file, fun _ => Function.update_self .., nofun, nofun, nofun⟩
      · refine (h.sound q qr hold).frame rfl fun hqh => ⟨Function.update_of_ne ?_ .., rfl, rfl⟩
        -- a holder of this inode would have been in the way
        intro heq
        rw [← heq, (h.sound q qr hold).holds hqh] at hfree
        cases hfree
    heldBy := fun i q hi => by
      rcases update_eq_some.1 hi with ⟨rfl, hnew⟩ | ⟨hip, hold⟩
      · obtain rfl := Option.some.inj hnew
        exact ⟨_, Function.update_self .., rfl, rfl⟩
      · obtain ⟨qr, hq, hinode, hqh⟩ := h.heldBy i q hold
        refine ⟨qr, (Function.update_of_ne ?_ ..).trans hq, hinode, hqh⟩
        rintro rfl
        obtain rfl : pr = qr := Option.some.inj (hp.symm.trans hq)
        exact hip hinode.symm
    answers := fun path j q hj hl => by
      obtain ⟨qr, hq, hrest⟩ := h.answers path j q hj hl
      refine ⟨qr, (Function.update_of_ne ?_ ..).trans hq, hrest⟩
      rintro rfl
      obtain rfl : pr = qr := Option.some.inj (hp.symm.trans hq)
      exact hidle j hrest.2 }

/-- A process that goes loses its lock, and no path leads to a listener of its own. -/
theorem Inv.leave (h : s.Inv) (hnext : s'.next = s.next) (hdir : s'.dir = s.dir)
    (hcontents : s'.contents = s.contents) (hprocs : s'.procs = Function.update s.procs p none)
    (hholder : ∀ i q, s'.holder i = some q ↔ s.holder i = some q ∧ q ≠ p)
    (hlistener : ∀ j q, s'.listener j = some q → s.listener j = some q)
    (hgone : ∀ path j, s.dir.lookup path = some j → s'.listener j ≠ some p) : s'.Inv where
  old path i hi := by rw [hdir] at hi; rw [hnext]; exact h.old path i hi
  single path path' i hi hi' := by rw [hdir] at hi hi'; exact h.single path path' i hi hi'
  sound q qr hq := by
    rw [hprocs] at hq
    have hqp : q ≠ p := by rintro rfl; rw [Function.update_self] at hq; cases hq
    rw [Function.update_of_ne hqp] at hq
    have hqs := h.sound q qr hq
    refine hqs.frame (by rw [hdir]) fun hqh => ⟨?_, by rw [hcontents], by rw [hdir]⟩
    rw [hqs.holds hqh]
    exact (hholder _ q).2 ⟨hqs.holds hqh, hqp⟩
  heldBy i q hi := by
    obtain ⟨hold, hqp⟩ := (hholder i q).1 hi
    rw [hprocs, Function.update_of_ne hqp]
    exact h.heldBy i q hold
  quiet j hj := by
    cases hl : s'.listener j with
    | none => rfl
    | some q =>
      have hlo := hlistener j q hl
      rw [h.quiet j (hnext ▸ hj)] at hlo; cases hlo
  answers path j q hj hl := by
    rw [hdir] at hj
    have hqp : q ≠ p := by rintro rfl; exact hgone path j hj hl
    rw [hprocs, Function.update_of_ne hqp]
    exact h.answers path j q hj (hlistener j q hl)

/-- A process without a socket has no listener behind any path. -/
theorem Inv.unheard (h : s.Inv) (hp : s.procs p = some pr) (hs : pr.stage.socket = none)
    (path : String) (j : Inode) (hj : s.dir.lookup path = some j) : s.listener j ≠ some p := by
  intro hl
  obtain ⟨qr, hq, _, hsock⟩ := h.answers path j p hj hl
  obtain rfl : pr = qr := Option.some.inj (hp.symm.trans hq)
  rw [hs] at hsock; cases hsock

theorem Inv.refuse (h : s.Inv) (hp : s.procs p = some pr) (hs : pr.stage = .opened) (e : VpnError) :
    Inv { s with procs := Function.update s.procs p none, refused := s.refused ++ [(p, e)] } := by
  refine h.leave rfl rfl rfl rfl (fun i q => ⟨fun hi => ⟨hi, ?_⟩, fun hi => hi.1⟩) (fun _ _ hl => hl)
    (h.unheard hp (by rw [hs]; rfl))
  rintro rfl
  obtain ⟨qr, hq, _, hqh⟩ := h.heldBy i q hi
  obtain rfl : pr = qr := Option.some.inj (hp.symm.trans hq)
  rw [hs] at hqh; cases hqh

theorem Inv.unlock (h : s.Inv) (hp : s.procs p = some pr) (hs : pr.stage = .ending) :
    Inv { s with
      holder := Function.update s.holder pr.inode none
      procs := Function.update s.procs p none } := by
  have hown := (h.sound p pr hp).holds (by rw [hs]; rfl)
  refine h.leave rfl rfl rfl rfl (fun i q => ?_) (fun _ _ hl => hl) (h.unheard hp (by rw [hs]; rfl))
  by_cases hip : i = pr.inode
  · subst hip
    simp only [Function.update_self, hown]
    exact ⟨nofun, fun hi => absurd (Option.some.inj hi.1).symm hi.2⟩
  · simp only [Function.update_of_ne hip]
    refine ⟨fun hi => ⟨hi, ?_⟩, fun hi => hi.1⟩
    rintro rfl
    obtain ⟨qr, hq, hinode, _⟩ := h.heldBy i q hi
    obtain rfl : pr = qr := Option.some.inj (hp.symm.trans hq)
    exact hip hinode.symm

theorem crashed_eq_some {f : Inode → Option Pid} {i : Inode} :
    (if f i = some p then none else f i) = some q ↔ f i = some q ∧ q ≠ p := by
  split
  · next hi =>
    rw [hi]
    exact ⟨nofun, fun h => absurd (Option.some.inj h.1).symm h.2⟩
  · next hi => exact ⟨fun h => ⟨h, fun hqp => hi (hqp ▸ h)⟩, fun h => h.1⟩

theorem Inv.crash (h : s.Inv) (p : Pid) : (s.crash p).Inv :=
  h.leave rfl rfl rfl rfl (fun _ _ => crashed_eq_some) (fun _ _ hl => (crashed_eq_some.1 hl).1)
    fun _ _ _ hl => (crashed_eq_some.1 hl).2 rfl

theorem Inv.listenerEnds (h : s.Inv) (j : Inode) :
    Inv { s with listener := Function.update s.listener j none } := by
  have hsub : ∀ i q, Function.update s.listener j none i = some q → s.listener i = some q := by
    intro i q hi
    rcases update_eq_some.1 hi with ⟨_, hnone⟩ | ⟨_, hold⟩
    · cases hnone
    · exact hold
  exact { h with
    sound := fun q qr hq => (h.sound q qr hq).frame rfl fun _ => ⟨rfl, rfl, rfl⟩
    quiet := fun i hi => by
      by_cases hij : i = j
      · subst hij; exact Function.update_self ..
      · exact (Function.update_of_ne hij ..).trans (h.quiet i hi)
    answers := fun path i q hi hl => h.answers path i q hi (hsub i q hl) }

theorem Inv.step? {a : Action} (h : s.Inv) (hstep : s.step? a = some s') : s'.Inv := by
  cases a with
  | start p role name =>
    simp only [Host.step?] at hstep
    split at hstep
    · next hok => obtain rfl := Option.some.inj hstep; exact h.openLock hok.1 hok.2
    · cases hstep
  | own p act =>
    obtain ⟨pr, hp, hown⟩ := Option.bind_eq_some_iff.1 hstep
    rcases ownStep_cases h hp hown with ⟨_, hs, rfl⟩ | ⟨_, hs, rfl⟩ | ⟨hph, stage, turn⟩
    · unfold Host.tryLock
      split
      · next hfree => exact h.acquire hp hs hfree
      · exact h.refuse hp hs _
    · exact h.unlock hp hs
    · exact turn.inv h hp hph
  | listenerEnds j => obtain rfl := Option.some.inj hstep; exact h.listenerEnds j
  | crash p => obtain rfl := Option.some.inj hstep; exact h.crash p

theorem Inv.step (h : s.Inv) (a : Action) : (s.step a).Inv := by
  unfold Host.step
  cases hstep : s.step? a with
  | none => exact h
  | some s' => exact h.step? hstep

theorem inv_run (actions : List Action) : (Lib.run step boot actions).Inv :=
  Lib.inv_run_all (fun _ a h => h.step a) actions boot inv_boot

end Host

end EzVpn
