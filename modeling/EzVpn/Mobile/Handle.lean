import EzVpn.Client.Reconnect
import EzVpn.Lib.Run
import EzVpn.Mobile.Session

/-!
# The handle of the mobile client

`ezvpn_run` starts a task that drives the tunnel, reconnects it and reports to the app through
a callback; `ezvpn_stop` may come at any time, from another thread (src/ffi.rs,
`MobileSession::run` in src/tunnel/mobile.rs).  The state here is that of one handle between
two steps of either side.  A callback runs under the lock of `stopped`, which `stop` takes too.

`Moves` lists what a step can do.
-/

namespace EzVpn

open Lib

/-- `SessionEvent`. -/
inductive SessionEvent
  | reconnecting (reason : String)
  | reconnected
deriving DecidableEq, Repr

/-- One call of the app's callback: `EZVPN_EVENT_*` and the message. -/
inductive Event
  | reconnecting (message : String)
  | reconnected
  | ended (message : Option String)
  | reconfigure (message : String)
deriving DecidableEq, Repr

/-- The event closure of `ezvpn_run`. -/
def SessionEvent.emit : SessionEvent → Event
  | reconnecting reason => .reconnecting reason
  | reconnected => .reconnected

/-- The exit hook of `ezvpn_run`. -/
def exitEvent : Except VpnError Unit → Event
  | .ok () => .ended none
  | .error (.serverConfigChanged message) => .reconfigure (VpnError.serverConfigChanged message).display
  | .error e => .ended (some e.display)

/-- Where the task is. -/
inductive TaskPhase
  /-- not started: the handle still has its session -/
  | pending
  | device
  | tunnel
  /-- about to report; then it retries after this many failures, or starts the tunnel -/
  | report (event : SessionEvent) (failures : Option Nat)
  | calling (failures : Option Nat)
  /-- asleep or dialing, after this many failures -/
  | retry (failures : Nat)
  | hook (result : Except VpnError Unit)
  | callingHook
  | over
deriving DecidableEq

structure EzvpnHandle where
  /-- the configuration the app applied to its interface -/
  applied : MobileNetworkConfig
  /-- of the session the tunnel runs or ran on -/
  link : MobileNetworkConfig
  /-- `on_event` is not null -/
  onEvent : Bool
  phase : TaskPhase
  stopped : Bool
  delivered : List Event
  delays : List Nat

namespace EzvpnHandle

/-- The handle `ezvpn_connect` returns. -/
def connected (config : MobileNetworkConfig) : EzvpnHandle :=
  { applied := config, link := config, onEvent := false, phase := .pending, stopped := false,
    delivered := [], delays := [] }

inductive Action
  | run (onEvent : Bool) (dup : Except String Unit)
  | openDevice (r : Except String Unit)
  | tunnelEnds (t : TunnelEnd)
  /-- the task takes the lock of `stopped` for a callback -/
  | takeLock
  | callbackReturns
  | dial (jitter : Jitter) (answer : Dial)
  | stop
  /-- the abort reaches the task at an await point -/
  | abortLands

/-- A callback holds the lock while it runs. -/
def locked (h : EzvpnHandle) : Bool :=
  match h.phase with
  | .calling _ | .callingHook => true
  | _ => false

def continueAt : Option Nat → TaskPhase
  | some failures => .retry failures
  | none => .device

/-- Report an error of the task: retry, or end. -/
def lose (h : EzvpnHandle) (failures : Nat) (e : VpnError) : EzvpnHandle :=
  if e.isRecoverable then { h with phase := .report (.reconnecting e.display) (some failures) }
  else { h with phase := .hook (.error e) }

section
variable (fromSlice : Bytes → Except String VpnHandshakeResponse) (routes : List Ipv4Net)
  (routes6 : List Ipv6Net) (debug : MobileNetworkConfig → String)

def configChanged (applied params : MobileNetworkConfig) : VpnError :=
  .serverConfigChanged
    s!"network parameters changed on reconnect (was {debug applied}, now {debug params})"

/-- The end of one turn of the reconnect loop. -/
def reconnect (h : EzvpnHandle) (failures : Nat) : Except VpnError Link → EzvpnHandle
  | .error e => h.lose failures e
  | .ok link =>
    if link.networkConfig ≠ h.applied then
      { h with phase := .hook (.error (configChanged debug h.applied link.networkConfig)) }
    else { h with link := link.networkConfig, phase := .report .reconnected none }

def step? (h : EzvpnHandle) : Action → Option EzvpnHandle
  -- the handle is gone once `stop` was called
  | .run onEvent dup =>
    match h.phase, h.stopped, dup with
    | .pending, false, .ok () => some { h with onEvent := onEvent, phase := .device }
    | .pending, false, .error _ => some h
    | _, _, _ => none
  | .openDevice r =>
    match h.phase, r with
    | .device, .ok () => some { h with phase := .tunnel }
    | .device, .error message => some { h with phase := .hook (.error (.tunDevice message)) }
    | _, _ => none
  | .tunnelEnds t =>
    match h.phase, runTunnel t with
    | .tunnel, .ok () => some { h with phase := .hook (.ok ()) }
    | .tunnel, .error e => some (h.lose 0 e)
    | _, _ => none
  | .takeLock =>
    match h.phase with
    | .report event failures =>
      if h.stopped || !h.onEvent then some { h with phase := continueAt failures }
      else some { h with phase := .calling failures, delivered := h.delivered ++ [event.emit] }
    | .hook result =>
      if h.stopped || !h.onEvent then some { h with phase := .over }
      else some { h with phase := .callingHook, delivered := h.delivered ++ [exitEvent result] }
    | _ => none
  | .callbackReturns =>
    match h.phase with
    | .calling failures => some { h with phase := continueAt failures }
    | .callingHook => some { h with phase := .over }
    | _ => none
  | .dial jitter answer =>
    match h.phase with
    | .retry failures =>
      let failures := saturatingAdd 32 failures 1
      let h := { h with delays := h.delays ++ [calculateBackoff failures jitter] }
      some (h.reconnect debug failures (establish fromSlice routes routes6 answer))
    | _ => none
  | .stop => if h.locked then none else some { h with stopped := true }
  | .abortLands =>
    match h.phase, h.stopped with
    | .tunnel, true | .retry _, true => some { h with phase := .over }
    | _, _ => none

def step (h : EzvpnHandle) (a : Action) : EzvpnHandle :=
  (h.step? fromSlice routes routes6 debug a).getD h

/-! ## What a step can do -/

/-- No callback is due: the app has stopped the handle, or gave no callback. -/
def mute (h : EzvpnHandle) : Bool := h.stopped || !h.onEvent

inductive Moves (h : EzvpnHandle) : Action → EzvpnHandle → Prop
  /-- a retry that dials is never idle -/
  | idle {a : Action} (hno : ∀ jitter answer failures, a = .dial jitter answer →
      h.phase ≠ .retry failures) : Moves h a h
  | started {onEvent : Bool} (hp : h.phase = .pending) (hs : h.stopped = false) :
    Moves h (.run onEvent (.ok ())) { h with onEvent := onEvent, phase := .device }
  | opened (hp : h.phase = .device) : Moves h (.openDevice (.ok ())) { h with phase := .tunnel }
  | openFails {message : String} (hp : h.phase = .device) :
    Moves h (.openDevice (.error message)) { h with phase := .hook (.error (.tunDevice message)) }
  | splitFails {message : String} (hp : h.phase = .tunnel) :
    Moves h (.tunnelEnds (.splitFails message)) { h with phase := .hook (.error (.tunDevice message)) }
  | lost {results : List (String × TaskEnd)} (hp : h.phase = .tunnel) :
    Moves h (.tunnelEnds (.ended results))
      { h with phase := .report (.reconnecting (VpnError.connectionLost (disconnectReason results)).display)
                          (some 0) }
  | muteReport {event : SessionEvent} {failures : Option Nat} (hp : h.phase = .report event failures)
    (hm : h.mute = true) : Moves h .takeLock { h with phase := continueAt failures }
  | reports {event : SessionEvent} {failures : Option Nat} (hp : h.phase = .report event failures)
    (hm : h.mute = false) :
    Moves h .takeLock { h with phase := .calling failures, delivered := h.delivered ++ [event.emit] }
  | muteHook {result : Except VpnError Unit} (hp : h.phase = .hook result) (hm : h.mute = true) :
    Moves h .takeLock { h with phase := .over }
  | hooks {result : Except VpnError Unit} (hp : h.phase = .hook result) (hm : h.mute = false) :
    Moves h .takeLock { h with phase := .callingHook, delivered := h.delivered ++ [exitEvent result] }
  | returned {failures : Option Nat} (hp : h.phase = .calling failures) :
    Moves h .callbackReturns { h with phase := continueAt failures }
  | hookReturned (hp : h.phase = .callingHook) : Moves h .callbackReturns { h with phase := .over }
  | failed {jitter : Jitter} {answer : Dial} {failures failures' : Nat} {delays : List Nat} {e : VpnError}
    (hp : h.phase = .retry failures) (he : establish fromSlice routes routes6 answer = .error e)
    (hr : e.isRecoverable = true) :
    Moves h (.dial jitter answer)
      { h with delays := delays, phase := .report (.reconnecting e.display) (some failures') }
  | refused {jitter : Jitter} {answer : Dial} {failures : Nat} {delays : List Nat} {e : VpnError}
    (hp : h.phase = .retry failures) (he : establish fromSlice routes routes6 answer = .error e)
    (hr : e.isRecoverable = false) :
    Moves h (.dial jitter answer) { h with delays := delays, phase := .hook (.error e) }
  | changed {jitter : Jitter} {answer : Dial} {failures : Nat} {delays : List Nat} {link : Link}
    (hp : h.phase = .retry failures) (hl : establish fromSlice routes routes6 answer = .ok link)
    (hne : link.networkConfig ≠ h.applied) :
    Moves h (.dial jitter answer)
      { h with delays := delays
               phase := .hook (.error (configChanged debug h.applied link.networkConfig)) }
  | resumed {jitter : Jitter} {answer : Dial} {failures : Nat} {delays : List Nat} {link : Link}
    (hp : h.phase = .retry failures) (hl : establish fromSlice routes routes6 answer = .ok link)
    (heq : link.networkConfig = h.applied) :
    Moves h (.dial jitter answer)
      { h with delays := delays, link := link.networkConfig, phase := .report .reconnected none }
  | stop (hl : h.locked = false) : Moves h .stop { h with stopped := true }
  | aborted (hs : h.stopped = true) (hp : h.phase = .tunnel ∨ ∃ failures, h.phase = .retry failures) :
    Moves h .abortLands { h with phase := .over }

variable {fromSlice routes routes6 debug}

theorem moves_dial {h : EzvpnHandle} {jitter : Jitter} {answer : Dial} {failures failures' : Nat}
    {delays : List Nat} (hp : h.phase = .retry failures) :
    Moves fromSlice routes routes6 debug h (.dial jitter answer)
      (reconnect debug { h with delays := delays } failures'
        (establish fromSlice routes routes6 answer)) := by
  cases he : establish fromSlice routes routes6 answer with
  | error e =>
    simp only [reconnect, lose]
    split
    · next hr => exact .failed hp he hr
    · next hr => exact .refused hp he (Bool.eq_false_iff.2 hr)
  | ok link =>
    simp only [reconnect]
    split
    · next hne => exact .changed hp he hne
    · next heq => exact .resumed hp he (not_not.1 heq)

theorem moves_of_step? {h h' : EzvpnHandle} {a : Action}
    (hstep : h.step? fromSlice routes routes6 debug a = some h') :
    Moves fromSlice routes routes6 debug h a h' := by
  cases a with
  | run onEvent dup =>
    simp only [step?] at hstep
    split at hstep
    · next hp hs => obtain rfl := Option.some.inj hstep; exact .started hp hs
    · obtain rfl := Option.some.inj hstep; exact .idle nofun
    · cases hstep
  | openDevice r =>
    simp only [step?] at hstep
    split at hstep
    · next hp => obtain rfl := Option.some.inj hstep; exact .opened hp
    · next hp => obtain rfl := Option.some.inj hstep; exact .openFails hp
    · cases hstep
  | tunnelEnds t =>
    cases t with
    | splitFails message =>
      simp only [step?, runTunnel] at hstep
      split at hstep
      · next hbad => cases hbad
      · next hp he =>
        obtain rfl := Option.some.inj hstep
        obtain rfl := Except.error.inj he
        exact .splitFails hp
      · cases hstep
    | ended results =>
      simp only [step?, runTunnel] at hstep
      split at hstep
      · next hbad => cases hbad
      · next hp he =>
        obtain rfl := Option.some.inj hstep
        obtain rfl := Except.error.inj he
        exact .lost hp
      · cases hstep
  | takeLock =>
    simp only [step?] at hstep
    split at hstep
    · next hp =>
      split at hstep
      · next hm => obtain rfl := Option.some.inj hstep; exact .muteReport hp hm
      · next hm => obtain rfl := Option.some.inj hstep; exact .reports hp (Bool.eq_false_iff.2 hm)
    · next hp =>
      split at hstep
      · next hm => obtain rfl := Option.some.inj hstep; exact .muteHook hp hm
      · next hm => obtain rfl := Option.some.inj hstep; exact .hooks hp (Bool.eq_false_iff.2 hm)
    · cases hstep
  | callbackReturns =>
    simp only [step?] at hstep
    split at hstep
    · next hp => obtain rfl := Option.some.inj hstep; exact .returned hp
    · next hp => obtain rfl := Option.some.inj hstep; exact .hookReturned hp
    · cases hstep
  | dial jitter answer =>
    simp only [step?] at hstep
    split at hstep
    · next hp => obtain rfl := Option.some.inj hstep; exact moves_dial hp
    · cases hstep
  | stop =>
    simp only [step?] at hstep
    split at hstep
    · cases hstep
    · next hl => obtain rfl := Option.some.inj hstep; exact .stop (Bool.eq_false_iff.2 hl)
  | abortLands =>
    simp only [step?] at hstep
    split at hstep
    · next hp hs => obtain rfl := Option.some.inj hstep; exact .aborted hs (.inl hp)
    · next hp hs => obtain rfl := Option.some.inj hstep; exact .aborted hs (.inr ⟨_, hp⟩)
    · cases hstep

theorem moves_step (h : EzvpnHandle) (a : Action) :
    Moves fromSlice routes routes6 debug h a (h.step fromSlice routes routes6 debug a) := by
  unfold step
  cases hstep : h.step? fromSlice routes routes6 debug a with
  | none =>
    refine .idle ?_
    rintro jitter answer failures rfl hp
    simp [step?, hp] at hstep
  | some h' => exact moves_of_step? hstep

end

end EzvpnHandle

end EzVpn
