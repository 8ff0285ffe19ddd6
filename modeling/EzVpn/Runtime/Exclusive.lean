import EzVpn.Runtime.Instances

/-!
# What the instance lock guarantees

Results over every interleaving of processes that start, run, stop and crash on one host:

* `instances_exclusive`: one holder per role and name, found by `list_locked_instances`
  and named by the lock file; `acquire` fails only because of a live holder;
* `sockets_owned`: only the holder of an instance answers at its socket;
* `recorded_pid_held`: a PID read from a lock file is of a process that held that lock;
* `stop_signals_answering`: `client stop` signals the process that answered it.
-/

namespace EzVpn.Host

open Lib (update_eq_some)

variable {s s' : Host} {p q : Pid} {pr qr : Proc} {stage : ProcStage}

/-! ## One process per instance -/

/-- The process is of this instance and holds its lock. -/
def Holds (s : Host) (p : Pid) (role : LockRole) (name : String) : Prop :=
  ∃ pr, s.procs p = some pr ∧ pr.role = role ∧ pr.name = name ∧ pr.stage.holds = true

/-- What the single-instance lock is for. -/
structure Exclusive (s : Host) : Prop where
  one : ∀ p q role name, s.Holds p role name → s.Holds q role name → p = q
  /-- `acquire` succeeds exactly if no process holds the instance: what a process that
  crashed left behind is never in the way. -/
  free : ∀ p pr, s.procs p = some pr → pr.stage = .opened →
    ((s.step (.own p .tryLock)).Holds p pr.role pr.name ↔ ∀ q, ¬ s.Holds q pr.role pr.name)
  pid : ∀ p pr, s.procs p = some pr → pr.stage.recorded = true →
    s.readInstancePid pr.role pr.name = some p
  listed : ∀ p role name, s.Holds p role name → name ∈ s.lockedInstances role

theorem Inv.pid (h : s.Inv) (hp : s.procs p = some pr) (hr : pr.stage.recorded = true) :
    s.readInstancePid pr.role pr.name = some p := by
  have hs := h.sound p pr hp
  rw [readInstancePid, show s.dir.lookup (lockName pr.role pr.name) = _ from hs.file]
  exact hs.recorded hr

theorem Inv.one {role : LockRole} {name : String} (h : s.Inv) (hp : s.Holds p role name)
    (hq : s.Holds q role name) : p = q := by
  obtain ⟨pr, hp, hrole, hname, hph⟩ := hp
  obtain ⟨qr, hq, rfl, rfl, hqh⟩ := hq
  by_contra hne
  refine (h.rivals hp hq (Ne.symm hne) hph hqh).2 ?_
  rw [Proc.socketName, Proc.socketName, hrole, hname]

/-- Whoever holds the inode of an instance's lock file is of that instance. -/
theorem Inv.holds_iff (h : s.Inv) (hp : s.procs p = some pr) :
    s.holder pr.inode = some q ↔ s.Holds q pr.role pr.name := by
  have hfile := (h.sound p pr hp).file
  constructor
  · intro hi
    obtain ⟨qr, hq, hinode, hqh⟩ := h.heldBy _ q hi
    have hnames := h.single _ _ _ ((h.sound q qr hq).file.trans (congrArg some hinode)) hfile
    obtain ⟨hrole, hname⟩ := lockName_inj hnames
    exact ⟨qr, hq, hrole, hname, hqh⟩
  · rintro ⟨qr, hq, hrole, hname, hqh⟩
    have hqs := h.sound q qr hq
    have hnames : qr.lockName = pr.lockName := by rw [Proc.lockName, Proc.lockName, hrole, hname]
    have hinode := hqs.file
    rw [hnames, hfile] at hinode
    rw [Option.some.inj hinode]
    exact hqs.holds hqh

theorem step_tryLock (hp : s.procs p = some pr) (hs : pr.stage = .opened) :
    s.step (.own p .tryLock) = s.tryLock p pr := by
  simp only [step, step?, hp, Option.bind_some, hs, ownStep, Option.getD_some]

theorem Inv.free (h : s.Inv) (hp : s.procs p = some pr) (hs : pr.stage = .opened) :
    (s.step (.own p .tryLock)).Holds p pr.role pr.name ↔ ∀ q, ¬ s.Holds q pr.role pr.name := by
  rw [step_tryLock hp hs]
  unfold Host.tryLock
  split
  · next hnone =>
    refine ⟨fun _ q hq => ?_, fun _ => ⟨_, Function.update_self .., rfl, rfl, rfl⟩⟩
    rw [(h.holds_iff hp).2 hq] at hnone
    cases hnone
  · next q hq =>
    refine ⟨?_, fun hnobody => absurd ((h.holds_iff hp).1 hq) (hnobody q)⟩
    rintro ⟨pr', hp', _⟩
    cases (Function.update_self ..).symm.trans hp'

theorem Inv.listed {role : LockRole} {name : String} (h : s.Inv) (hp : s.Holds p role name) :
    name ∈ s.lockedInstances role := by
  obtain ⟨pr, hp, rfl, rfl, _⟩ := hp
  have hs := h.sound p pr hp
  refine mem_listLockedInstances.2 ⟨?_, hs.valid⟩
  exact AList.mem_keys.1 (AList.lookup_isSome.1 (Option.isSome_of_eq_some hs.file))

/-- In every order of steps of any number of processes, crashes included, an instance
has one holder, who can be found and whose PID its lock file has. -/
theorem instances_exclusive (actions : List Action) : Exclusive (Lib.run step boot actions) := by
  have h := inv_run actions
  exact {
    one := fun _ _ _ _ hp hq => h.one hp hq
    free := fun _ _ hp hs => h.free hp hs
    pid := fun _ _ hp hr => h.pid hp hr
    listed := fun _ _ _ hp => h.listed hp }

/-! ## Control sockets -/

/-- What the lock gives the control socket. -/
structure SocketsOwned (s : Host) : Prop where
  /-- Only the holder of the instance answers, and it is the process `client stop`
  would signal. -/
  answers : ∀ p role name, s.queryStatus role name = some p →
    s.Holds p role name ∧ s.readInstancePid role name = some p
  /-- No process removes or replaces the socket of another. -/
  kept : ∀ p pr j, s.procs p = some pr → pr.stage = .serving j →
    s.queryStatus pr.role pr.name = s.listener j
  /-- A stale socket never keeps `bind` from succeeding. -/
  binds : ∀ p pr, s.procs p = some pr → pr.stage = .cleared →
    (s.step (.own p .bind)).queryStatus pr.role pr.name = some p

theorem recorded_of_socket {j : Inode} (h : stage.socket = some j) : stage.recorded = true := by
  cases stage <;> first | rfl | cases h

theorem Inv.answering {role : LockRole} {name : String} (h : s.Inv)
    (hquery : s.queryStatus role name = some p) :
    ∃ pr, s.procs p = some pr ∧ pr.role = role ∧ pr.name = name ∧ pr.stage.recorded = true := by
  obtain ⟨j, hj, hl⟩ := Option.bind_eq_some_iff.1 hquery
  obtain ⟨pr, hp, hpath, hsock⟩ := h.answers _ j p hj hl
  obtain ⟨hrole, hname⟩ := socketName_inj hpath
  exact ⟨pr, hp, hrole.symm, hname.symm, recorded_of_socket hsock⟩

theorem Inv.binds (h : s.Inv) (hp : s.procs p = some pr) (hs : pr.stage = .cleared) :
    (s.step (.own p .bind)).queryStatus pr.role pr.name = some p := by
  have hstep : s.step (.own p .bind) = { (s.makeSocket pr).setStage p pr (.serving s.next) with
      listener := Function.update s.listener s.next (some p) } := by
    simp only [Host.step, Host.step?, hp, Option.bind_some, hs, ownStep, Option.getD_some]
    unfold Host.bind; rw [(h.sound p pr hp).cleared hs]
  rw [hstep]
  have hpath : (s.dir.insert pr.socketName s.next).lookup (socketName pr.role pr.name) = some s.next :=
    AList.lookup_insert _
  exact (congrArg (fun o => Option.bind o (Function.update s.listener s.next (some p))) hpath).trans
    (Function.update_self ..)

theorem sockets_owned (actions : List Action) : SocketsOwned (Lib.run step boot actions) := by
  have h := inv_run actions
  exact {
    answers := fun p role name hquery => by
      obtain ⟨pr, hp, rfl, rfl, hr⟩ := h.answering hquery
      exact ⟨⟨pr, hp, rfl, rfl, holds_of_recorded hr⟩, h.pid hp hr⟩
    kept := fun p pr j hp hs => by
      have hpath := (h.sound p pr hp).socket j (by rw [hs]; rfl)
      exact congrArg (fun o => Option.bind o _) hpath
    binds := fun _ _ hp hs => h.binds hp hs }

/-! ## `client stop` -/

/-- A process that has recorded its PID keeps it recorded until it goes. -/
theorem Inv.stays {a : Action} (h : s.Inv) (hp : s.procs p = some pr) (hr : pr.stage.recorded = true)
    (hunlock : a ≠ .own p .unlock) (hcrash : a ≠ .crash p) :
    ∃ pr', (s.step a).procs p = some pr' ∧ pr'.role = pr.role ∧ pr'.name = pr.name ∧
      pr'.stage.recorded = true := by
  have hsame : ∀ {t : Host}, t.procs p = s.procs p → ∃ pr', t.procs p = some pr' ∧
      pr'.role = pr.role ∧ pr'.name = pr.name ∧ pr'.stage.recorded = true :=
    fun heq => ⟨pr, heq.trans hp, rfl, rfl, hr⟩
  unfold Host.step
  cases hstep : s.step? a with
  | none => exact hsame rfl
  | some s' =>
    show ∃ pr', s'.procs p = some pr' ∧ _
    cases a with
    | start q role name =>
      simp only [Host.step?] at hstep
      split at hstep
      · next hok =>
        obtain rfl := Option.some.inj hstep
        have hpq : p ≠ q := by rintro rfl; rw [hok.1] at hp; cases hp
        refine hsame ?_
        unfold Host.openLock
        split <;> exact Function.update_of_ne hpq ..
      · cases hstep
    | own q act =>
      obtain ⟨qr, hq, hown⟩ := Option.bind_eq_some_iff.1 hstep
      by_cases hpq : p = q
      · subst hpq
        obtain rfl : pr = qr := Option.some.inj (hp.symm.trans hq)
        rcases ownStep_cases h hp hown with ⟨_, hs, _⟩ | ⟨rfl, _⟩ | ⟨_, stage, turn⟩
        · rw [hs] at hr; cases hr
        · exact absurd rfl hunlock
        · exact ⟨{ pr with stage := stage }, by rw [turn.procs]; exact Function.update_self .., rfl, rfl,
            turn.keeps hr⟩
      · refine hsame ?_
        rcases ownStep_cases h hq hown with ⟨_, _, rfl⟩ | ⟨_, _, rfl⟩ | ⟨_, stage, turn⟩
        · unfold Host.tryLock
          split <;> exact Function.update_of_ne hpq ..
        · exact Function.update_of_ne hpq ..
        · rw [turn.procs]; exact Function.update_of_ne hpq ..
    | listenerEnds j => obtain rfl := Option.some.inj hstep; exact hsame rfl
    | crash q =>
      obtain rfl := Option.some.inj hstep
      exact hsame (Function.update_of_ne (fun hpq => hcrash (by rw [hpq])) ..)

/-- `client stop` asks the socket first and reads the PID later.  Unless the process
that answered has gone in between, it is the one that gets the signal, whatever other
processes did in the meantime. -/
theorem stop_signals_answering (actions later : List Action) (p : Pid) (role : LockRole)
    (name : String) (hquery : (Lib.run step boot actions).queryStatus role name = some p)
    (hstays : ∀ a ∈ later, a ≠ .own p .unlock ∧ a ≠ .crash p) :
    (Lib.run step boot (actions ++ later)).readInstancePid role name = some p := by
  -- the invariant and "p has recorded its PID" are kept together
  have hlater := Lib.inv_run
    (I := fun s : Host => s.Inv ∧
      ∃ pr, s.procs p = some pr ∧ pr.role = role ∧ pr.name = name ∧ pr.stage.recorded = true)
    (G := fun _ a => a ≠ .own p .unlock ∧ a ≠ .crash p)
    (fun s a hI hG => by
      obtain ⟨h, pr, hp, rfl, rfl, hr⟩ := hI
      exact ⟨h.step a, h.stays hp hr hG.1 hG.2⟩)
    later _ ⟨inv_run actions, (inv_run actions).answering hquery⟩ (Lib.guarded_of_forall hstays)
  obtain ⟨h, pr, hp, rfl, rfl, hr⟩ := hlater
  rw [Lib.run_append]
  exact h.pid hp hr

/-- A client that starts and serves its socket. -/
def serve (p : Pid) (name : String) : List Action :=
  .start p .client name :: [Own.tryLock, .setLen, .writePid, .removeStale, .bind].map (.own p)

theorem stop_signals_answering_secondStart :
    (Lib.run step boot (serve 7 "work")).queryStatus .client "work" = some 7 ∧
    (Lib.run step boot (serve 7 "work" ++ [.start 8 .client "work", .own 8 .tryLock])).readInstancePid
      .client "work" = some 7 := by
  have hquery : (Lib.run step boot (serve 7 "work")).queryStatus .client "work" = some 7 := by
    decide +kernel
  exact ⟨hquery, stop_signals_answering _ _ 7 .client "work" hquery (by decide)⟩

/-! ## The PID in a lock file -/

theorem lookup_lockName_openLock {role role' : LockRole} {name name' : String} {i : Inode}
    (hi : (s.openLock p role name).dir.lookup (lockName role' name') = some i) :
    (s.openLock p role name).contents i = some q → s.dir.lookup (lockName role' name') = some i ∧
      s.contents i = some q := by
  intro hq
  unfold Host.openLock at hi hq
  split at hi
  · next hfound => rw [hfound] at hq; exact ⟨hi, hq⟩
  · next hnone =>
    rw [hnone] at hq
    rcases update_eq_some.1 hq with ⟨_, hnew⟩ | ⟨hne, hold⟩
    · cases hnew
    · refine ⟨?_, hold⟩
      have hi' := hi
      rw [Lib.Map.lookup_insert_eq] at hi'
      split at hi'
      · exact absurd (Option.some.inj hi').symm hne
      · exact hi'

/-- One step writes no PID to a lock file but the holder's own. -/
theorem Inv.readInstancePid_step (h : s.Inv) {a : Action} {role : LockRole} {name : String}
    (hread : (s.step a).readInstancePid role name = some q) :
    s.readInstancePid role name = some q ∨ s.Holds q role name := by
  unfold Host.step at hread
  cases hstep : s.step? a with
  | none => rw [hstep] at hread; exact .inl hread
  | some s' =>
    rw [hstep] at hread
    obtain ⟨i, hi, hq⟩ := Option.bind_eq_some_iff.1 hread
    simp only [Option.getD_some] at hi hq
    have hold : s.dir.lookup (lockName role name) = some i → s.contents i = some q →
        s.readInstancePid role name = some q ∨ s.Holds q role name :=
      fun hi hq => .inl (Option.bind_eq_some_iff.2 ⟨i, hi, hq⟩)
    cases a with
    | start p role' name' =>
      simp only [Host.step?] at hstep
      split at hstep
      · obtain rfl := Option.some.inj hstep
        obtain ⟨hi', hq'⟩ := lookup_lockName_openLock hi hq
        exact hold hi' hq'
      · cases hstep
    | own p act =>
      obtain ⟨pr, hp, hown⟩ := Option.bind_eq_some_iff.1 hstep
      rcases ownStep_cases h hp hown with ⟨_, _, rfl⟩ | ⟨_, _, rfl⟩ | ⟨hph, stage, turn⟩
      · unfold Host.tryLock at hi hq
        split at hi <;> next hholder => rw [hholder] at hq; exact hold hi hq
      · exact hold hi hq
      · rw [turn.dir _ (lockName_ne_socketName _ _ _ _)] at hi
        by_cases hinode : i = pr.inode
        · subst hinode
          rcases turn.text q hq with hq | rfl
          · exact hold hi hq
          · -- the inode of the lock file names the instance
            obtain ⟨hrole, hname⟩ := lockName_inj (h.single _ _ _ (h.sound q pr hp).file hi)
            exact .inr ⟨pr, hp, hrole, hname, hph⟩
        · rw [turn.contents i hinode] at hq
          exact hold hi hq
    | listenerEnds j => obtain rfl := Option.some.inj hstep; exact hold hi hq
    | crash p => obtain rfl := Option.some.inj hstep; exact hold hi hq

/-- Whenever `read_instance_pid` reads a PID, a process with that PID has held the
instance's lock at some time before. -/
theorem recorded_pid_held (actions : List Action) (p : Pid) (role : LockRole) (name : String)
    (hread : (Lib.run step boot actions).readInstancePid role name = some p) :
    ∃ before after, actions = before ++ after ∧ (Lib.run step boot before).Holds p role name := by
  refine Lib.inv_history (s := boot)
    (I := fun (as : List Action) (s : Host) => s.readInstancePid role name = some p →
      ∃ before after, as = before ++ after ∧ (Lib.run step boot before).Holds p role name)
    nofun (fun as a ih hread => ?_) actions hread
  rcases (inv_run as).readInstancePid_step hread with hbefore | hholds
  · obtain ⟨before, after, rfl, hholds⟩ := ih hbefore
    exact ⟨before, after ++ [a], List.append_assoc .., hholds⟩
  · exact ⟨as, [a], rfl, hholds⟩

/-- The PID outlives a crash. -/
theorem recorded_pid_held_crash :
    ∃ before after, serve 7 "work" ++ [.crash 7] = before ++ after ∧
      (Lib.run step boot before).Holds 7 .client "work" :=
  recorded_pid_held (serve 7 "work" ++ [.crash 7]) 7 .client "work" (by decide +kernel)

end EzVpn.Host
