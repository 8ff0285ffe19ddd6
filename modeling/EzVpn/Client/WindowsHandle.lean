import EzVpn.Client.Lives

/-!
# The handle of the Windows app

`ezvpn_start` and `ezvpn_stop` (src/ffi_windows.rs): the app's thread spawns a worker that sets up
an endpoint and a `VpnClient`, reports back and then drives the client until that returns or a stop
is requested.  The two threads take their steps by themselves; the app waits for the worker's
report when it starts and for the worker's end when it stops.

The client in the worker is the one of `Client.Connect`, and a run has any number of starts and
stops.  `WorkerAt` says what holds at each place of the worker.
-/

namespace EzVpn

open Lib

/-- Where the app's thread is. -/
inductive AppCall
  /-- without a handle -/
  | idle
  /-- in `start_inner`, at `setup_rx.recv()` -/
  | starting
  /-- in `start_inner` with an error, at `worker.join()` -/
  | failing (message : String)
  | holding
  /-- in `ezvpn_stop`, at `worker.join()` -/
  | stopping
deriving DecidableEq

/-- Where the worker is. -/
inductive Worker
  | none
  | building (S : ClientSetup)
  | binding (S : ClientSetup)
  | creating (S : ClientSetup)
  /-- at the `select!` -/
  | running (S : ClientSetup) (client : VpnClient)
  /-- behind it, at `endpoint.close()` -/
  | closing
  | exited

structure WinApp where
  call : AppCall
  worker : Worker
  /-- what the worker has sent through the setup channel -/
  report : Option (Except String Unit)
  /-- the permit of `shutdown` -/
  notified : Bool
  /-- the worker has the lock of the instance -/
  locked : Bool
  /-- the host, as the last client has left it -/
  host : HostState

inductive WinAction
  /-- `start_inner` up to the thread; it may refuse the configuration -/
  | start (setup : Except String ClientSetup)
  | build (runtime : Except String Unit)
  | bind (endpoint : Except String Unit)
  /-- `VpnClient::new`; it fails if the configuration is invalid or another process has the lock -/
  | create (client : Except String Unit)
  | client (a : ClientAction)
  | select
  | closed
  | recv
  | stop
  | joined

namespace WinApp

def start (table : Finset AnyNet) : WinApp := ⟨.idle, .none, none, false, false, (VpnClient.start table).toHostState⟩

variable (app : WinApp)

/-- The worker reports an error and ends. -/
def fail (message : String) : WinApp := { app with report := some (.error message), worker := .exited }

def step : WinAction → WinApp
  | .start setup =>
    match app.call, setup with
    | .idle, .ok S => { app with call := .starting, worker := .building S }
    | _, _ => app
  | .build runtime =>
    match app.worker, runtime with
    | .building S, .ok () => { app with worker := .binding S }
    | .building _, .error e => app.fail s!"failed to build tokio runtime: {e}"
    | _, _ => app
  | .bind endpoint =>
    match app.worker, endpoint with
    | .binding S, .ok () => { app with worker := .creating S }
    | .binding _, .error e => app.fail s!"failed to create iroh endpoint: {e}"
    | _, _ => app
  | .create client =>
    match app.worker, client with
    | .creating S, .ok () =>
      { app with
        locked := true, report := some (.ok ()), worker := .running S (.start app.host.os.table) }
    | .creating _, .error e => app.fail s!"failed to create VPN client: {e}"
    | _, _ => app
  | .client a =>
    match app.worker, a with
    -- only the `select!` drops the client's future
    | _, .shutdown => app
    | .running S client, a => { app with worker := .running S (client.step S a) }
    | _, _ => app
  | .select =>
    match app.worker with
    | .running S client =>
      match client.phase, app.notified with
      | .returned _, _ => { app with worker := .closing, host := client.toHostState }
      -- the run future is dropped
      | _, true => { app with worker := .closing, host := (client.step S .shutdown).toHostState }
      | _, false => app
    | _ => app
  | .closed =>
    match app.worker with
    -- the client is dropped, and its lock
    | .closing => { app with worker := .exited, locked := false }
    | _ => app
  | .recv =>
    match app.call, app.report with
    | .starting, some (.ok ()) => { app with call := .holding }
    | .starting, some (.error message) => { app with call := .failing message }
    | _, _ => app
  | .stop =>
    match app.call with
    | .holding => { app with call := .stopping, notified := true }
    | _ => app
  | .joined =>
    match app.call, app.worker with
    | .failing _, .exited | .stopping, .exited =>
      { app with call := .idle, worker := .none, report := none, notified := false }
    | _, _ => app

end WinApp

/-! ## What holds at each place of the worker -/

section
variable (call : AppCall) (report : Option (Except String Unit)) (notified : Bool)

/-- The setup has succeeded, and only a stop notifies. -/
def Started : Prop :=
  report = some (.ok ()) ∧ (call = .starting ∨ call = .holding ∨ call = .stopping) ∧
    (notified = true ↔ call = .stopping)

def SetupFailed : Prop :=
  notified = false ∧ ∃ message, report = some (.error message) ∧ (call = .starting ∨ call = .failing message)

/-- How far the app's thread is. -/
def CallAt : Worker → Prop
  | .none => call = .idle ∧ report = none ∧ notified = false
  | .building _ | .binding _ | .creating _ => call = .starting ∧ report = none ∧ notified = false
  | .running _ _ | .closing => Started call report notified
  | .exited => Started call report notified ∨ SetupFailed call report notified

/-- What the worker has, and what is on the host. -/
def WorkerAt (table : Finset AnyNet) (locked : Bool) (host : HostState) : Worker → Prop
  | .running S client => locked = true ∧ VpnClient.HostInv S table client
  | .closing => locked = true ∧ VpnClient.Clean table host
  | _ => locked = false ∧ VpnClient.Clean table host

end

namespace WinApp

structure Inv (table : Finset AnyNet) (app : WinApp) : Prop where
  call : CallAt app.call app.report app.notified app.worker
  worker : WorkerAt table app.locked app.host app.worker

variable {app : WinApp} {table : Finset AnyNet}

theorem inv_start (table : Finset AnyNet) : (start table).Inv table :=
  ⟨⟨rfl, rfl, rfl⟩, rfl, rfl, rfl, rfl⟩

/-- A setup that fails has taken nothing. -/
theorem inv_fail (hcall : app.call = .starting ∧ app.report = none ∧ app.notified = false)
    (hworker : app.locked = false ∧ VpnClient.Clean table app.host) (message : String) :
    (app.fail message).Inv table :=
  ⟨Or.inr ⟨hcall.2.2, message, rfl, Or.inl hcall.1⟩, hworker⟩

theorem clean_of_returned {S : ClientSetup} {client : VpnClient} {result : Except VpnError Unit}
    (h : VpnClient.HostInv S table client) (hphase : client.phase = .returned result) :
    VpnClient.Clean table client.toHostState := by
  have hhost := h.host
  rw [hphase] at hhost
  exact hhost

theorem clean_of_shutdown {S : ClientSetup} {client : VpnClient} (h : VpnClient.HostInv S table client) :
    VpnClient.Clean table (client.step S .shutdown).toHostState := by
  have hhost := (h.step (VpnClient.step_moves S client .shutdown)).host
  have hphase : (client.step S .shutdown).phase = .stopped ∨
      ∃ result, (client.step S .shutdown).phase = .returned result := by
    dsimp only [VpnClient.step]
    split
    · next result hphase => exact Or.inr ⟨result, hphase⟩
    · next hphase => exact Or.inl hphase
    · exact Or.inl rfl
  rcases hphase with hphase | ⟨result, hphase⟩ <;> rw [hphase] at hhost <;> exact hhost

theorem callAt_holding {notified : Bool} {worker : Worker}
    (h : CallAt .starting (some (.ok ())) notified worker) : CallAt .holding (some (.ok ())) notified worker := by
  cases worker <;> simp_all [CallAt, Started, SetupFailed]

theorem callAt_failing {message : String} {notified : Bool} {worker : Worker}
    (h : CallAt .starting (some (.error message)) notified worker) :
    CallAt (.failing message) (some (.error message)) notified worker := by
  cases worker <;> simp_all [CallAt, Started, SetupFailed]

theorem callAt_stop {report : Option (Except String Unit)} {notified : Bool} {worker : Worker}
    (h : CallAt .holding report notified worker) : CallAt .stopping report true worker := by
  cases worker <;> simp_all [CallAt, Started, SetupFailed]

theorem worker_of_idle {report : Option (Except String Unit)} {notified : Bool} {worker : Worker}
    (h : CallAt .idle report notified worker) : worker = .none ∧ report = none ∧ notified = false := by
  cases worker <;> simp_all [CallAt, Started, SetupFailed]

theorem report_of_holding {report : Option (Except String Unit)} {notified : Bool} {worker : Worker}
    (h : CallAt .holding report notified worker) : report = some (.ok ()) := by
  cases worker <;> simp_all [CallAt, Started, SetupFailed]

theorem Inv.place (h : app.Inv table) {worker : Worker} (hworker : app.worker = worker) :
    CallAt app.call app.report app.notified worker ∧ WorkerAt table app.locked app.host worker :=
  hworker ▸ ⟨h.call, h.worker⟩

theorem Inv.create (h : app.Inv table) (client : Except String Unit) : (app.step (.create client)).Inv table := by
  dsimp only [WinApp.step]
  split
  · next S hcreating =>
    obtain ⟨⟨hstarting, -, hnotified⟩, -, hclean⟩ := h.place hcreating
    refine ⟨⟨rfl, Or.inl hstarting, ?_⟩, rfl, ?_⟩
    · simp [hstarting, hnotified]
    · -- the client starts on the table that the one before it has left
      rw [hclean.table]
      exact VpnClient.hostInv_run S table []
  · next S e hcreating =>
    obtain ⟨hcall, hworker⟩ := h.place hcreating
    exact inv_fail hcall hworker _
  · exact h

/-- Whether the client has returned or is dropped, its host is clean. -/
theorem Inv.select (h : app.Inv table) : (app.step .select).Inv table := by
  dsimp only [WinApp.step]
  split
  · next S client hrunning =>
    obtain ⟨hcall, hlocked, hclient⟩ := h.place hrunning
    split
    · next result _ hphase => exact ⟨hcall, hlocked, clean_of_returned hclient hphase⟩
    · exact ⟨hcall, hlocked, clean_of_shutdown hclient⟩
    · exact h
  · exact h

theorem Inv.recv (h : app.Inv table) : (app.step .recv).Inv table := by
  obtain ⟨hcall, hworker⟩ := h
  dsimp only [WinApp.step]
  split
  · next hstarting hreport =>
    rw [hstarting, hreport] at hcall
    refine ⟨?_, hworker⟩
    show CallAt .holding app.report app.notified app.worker
    rw [hreport]
    exact callAt_holding hcall
  · next message hstarting hreport =>
    rw [hstarting, hreport] at hcall
    refine ⟨?_, hworker⟩
    show CallAt (.failing message) app.report app.notified app.worker
    rw [hreport]
    exact callAt_failing hcall
  · exact ⟨hcall, hworker⟩

theorem Inv.step (h : app.Inv table) (a : WinAction) : (app.step a).Inv table := by
  cases a with
  | create client => exact h.create client
  | select => exact h.select
  | recv => exact h.recv
  | start setup =>
    dsimp only [WinApp.step]
    split
    · next S hidle =>
      obtain ⟨hnone, hreport, hnotified⟩ := worker_of_idle (hidle ▸ h.call)
      exact ⟨⟨rfl, hreport, hnotified⟩, (h.place hnone).2⟩
    · exact h
  | build runtime =>
    dsimp only [WinApp.step]
    split
    · next S hbuilding => exact ⟨(h.place hbuilding).1, (h.place hbuilding).2⟩
    · next S e hbuilding => exact inv_fail (h.place hbuilding).1 (h.place hbuilding).2 _
    · exact h
  | bind endpoint =>
    dsimp only [WinApp.step]
    split
    · next S hbinding => exact ⟨(h.place hbinding).1, (h.place hbinding).2⟩
    · next S e hbinding => exact inv_fail (h.place hbinding).1 (h.place hbinding).2 _
    · exact h
  | client a =>
    dsimp only [WinApp.step]
    split
    · exact h
    · next S client hrunning _ =>
      obtain ⟨hcall, hlocked, hclient⟩ := h.place hrunning
      exact ⟨hcall, hlocked, hclient.step (VpnClient.step_moves S client _)⟩
    · exact h
  | closed =>
    dsimp only [WinApp.step]
    split
    · next hclosing =>
      obtain ⟨hcall, -, hclean⟩ := h.place hclosing
      exact ⟨Or.inl hcall, rfl, hclean⟩
    · exact h
  | stop =>
    dsimp only [WinApp.step]
    split
    · next hholding => exact ⟨callAt_stop (hholding ▸ h.call), h.worker⟩
    · exact h
  | joined =>
    dsimp only [WinApp.step]
    split
    · next hexited => exact ⟨⟨rfl, rfl, rfl⟩, (h.place hexited).2⟩
    · next hexited => exact ⟨⟨rfl, rfl, rfl⟩, (h.place hexited).2⟩
    · exact h

theorem inv_run (table : Finset AnyNet) (as : List WinAction) : (run WinApp.step (.start table) as).Inv table :=
  inv_run_all (fun _ a h => h.step a) as _ (inv_start table)

/-- A worker whose setup has succeeded leaves the `select!` once it is notified. -/
theorem step_select_notified {S : ClientSetup} {client : VpnClient} (hworker : app.worker = .running S client)
    (hnotified : app.notified = true) : ∃ host, app.step .select = { app with worker := .closing, host } := by
  dsimp only [WinApp.step]
  rw [hworker, hnotified]
  dsimp only
  split
  · exact ⟨_, rfl⟩
  · exact ⟨_, rfl⟩
  · next hfalse _ => cases hfalse

theorem joined_ends (hstopping : app.call = .stopping) (hexited : app.worker = .exited) :
    (app.step .joined).call = .idle := by
  simp [WinApp.step, hstopping, hexited]

theorem closed_ends (hstopping : app.call = .stopping) (hclosing : app.worker = .closing) :
    ((app.step .closed).step .joined).call = .idle := by
  apply joined_ends <;> simp [WinApp.step, hstopping, hclosing]

/-- Whatever the client does, three steps of the worker and the app end a stop. -/
theorem stop_ends (hcall : CallAt .stopping app.report app.notified app.worker) (hstopping : app.call = .stopping) :
    (run WinApp.step app [.select, .closed, .joined]).call = .idle := by
  change (((app.step .select).step .closed).step .joined).call = .idle
  cases hworker : app.worker with
  | running S client =>
    rw [hworker] at hcall
    obtain ⟨host, hselect⟩ := step_select_notified hworker (hcall.2.2.2 rfl)
    rw [hselect]
    exact closed_ends hstopping rfl
  | closing =>
    have hselect : app.step .select = app := by simp [WinApp.step, hworker]
    rw [hselect]
    exact closed_ends hstopping hworker
  | exited =>
    have hselect : app.step .select = app := by simp [WinApp.step, hworker]
    have hclosed : app.step .closed = app := by simp [WinApp.step, hworker]
    rw [hselect, hclosed]
    exact joined_ends hstopping hworker
  | _ =>
    rw [hworker] at hcall
    cases hcall.1

end WinApp

/-- **A stop is complete.**  Of an app that has at most one handle at a time, for all orders of the
calls, the worker's steps and the client's: without a handle there is no worker, the lock is free,
and the VPN routes and the device are as before the first start, so that a new client never finds a
lock of an earlier one of the app.  (The host routes of the bypass, and a `New-NetRoute` that is
still running, are no part of this.)  The app gets a handle only after the setup has succeeded, a
worker that ends has reported first, and from any place of the worker a stop ends in three more
steps. -/
theorem windows_stop_complete (table : Finset AnyNet) (as : List WinAction) :
    let app := run WinApp.step (.start table) as
    (app.call = .idle → app.worker = .none ∧ app.locked = false ∧ VpnClient.Clean table app.host) ∧
    (∀ S, app.worker = .creating S → app.locked = false) ∧
    (app.call = .holding → app.report = some (.ok ())) ∧
    (app.worker = .exited → app.report.isSome = true) ∧
    (app.call = .stopping → (run WinApp.step app [.select, .closed, .joined]).call = .idle) := by
  intro app
  obtain ⟨hcall, hworker⟩ : app.Inv table := WinApp.inv_run table as
  refine ⟨fun hidle => ?_, fun S hcreating => ?_, fun hholding => ?_, fun hexited => ?_, fun hstopping => ?_⟩
  · rw [hidle] at hcall
    obtain ⟨hnone, -, -⟩ := WinApp.worker_of_idle hcall
    rw [hnone] at hworker
    exact ⟨hnone, hworker⟩
  · rw [hcreating] at hworker
    exact hworker.1
  · rw [hholding] at hcall
    exact WinApp.report_of_holding hcall
  · rw [hexited] at hcall
    rcases hcall with hcall | ⟨-, message, hreport, -⟩
    · rw [hcall.1]
      rfl
    · rw [hreport]
      rfl
  · exact WinApp.stop_ends (hstopping ▸ hcall) hstopping

end EzVpn
