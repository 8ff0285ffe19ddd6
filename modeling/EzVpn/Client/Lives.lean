import EzVpn.Client.Connect
import EzVpn.Lib.Fallible

/-!
# Lives of the desktop client

What holds of the client of `Client.Connect` over every run of its steps, with any number of
attempts and reconnects: what is left on the host (`host_restored`), what an outage is
(`outage_since_up`) and what the status says (`status_exact`).  `Moves` lists what a step can do,
and each invariant is kept case by case.
-/

namespace EzVpn

open Lib

/-! ## Errors -/

/-- Not the error of a tunnel that was up. -/
def NotLost (e : VpnError) : Prop := e.isConnectionLost = false

theorem readMessage_notLost (reader : List Bytes) (maxSize : Nat) :
    Ends NotLost (fun _ => True) (readMessage reader maxSize) := by
  unfold readMessage
  split
  · rfl
  · dsimp only
    split
    · rfl
    · split
      · rfl
      · trivial

theorem decode_notLost (fromSlice : Bytes → Except String VpnHandshakeResponse) (data : Bytes) :
    Ends NotLost (fun _ => True)
      (VpnHandshakeResponse.decode fromSlice data) := by
  unfold VpnHandshakeResponse.decode
  split
  · rfl
  · split
    · rfl
    · split
      · rfl
      · trivial

theorem serverInfo_notLost (response : VpnHandshakeResponse) :
    Ends NotLost (fun _ => True) (serverInfo response) := by
  have triplet {A N : Type} (message : String) (ip : Option A) (net : Option N) (gw : Option A) :
      Ends NotLost (fun _ => True) (checkTriplet message ip net gw) := by
    rcases checkTriplet_eq message ip net gw with ⟨h, -⟩ | ⟨h, -⟩ <;> rw [h]
    · trivial
    · rfl
  unfold serverInfo
  split
  · rfl
  · refine (triplet ..).bind fun _ _ => (triplet ..).bind fun _ _ => ?_
    dsimp only
    split
    · rfl
    · trivial

/-- Only a tunnel loses its connection. -/
theorem performHandshake_ends (fromSlice : Bytes → Except String VpnHandshakeResponse) (recv : List Bytes) :
    Ends NotLost (fun r => Assigned r.1) (performHandshake fromSlice recv) := by
  have herr : Ends NotLost (fun _ => True) (performHandshake fromSlice recv) := by
    refine (readMessage_notLost _ _).bind fun m _ => (decode_notLost _ _).bind fun response _ => ?_
    exact (serverInfo_notLost response).bind fun _ _ => trivial
  refine .of_eq (fun r h => ?_) fun e h => herr.err h
  obtain ⟨info, rest⟩ := r
  obtain ⟨h4, h6, hone⟩ := performHandshake_ok h
  exact ⟨h4, h6, hone⟩

theorem checkParamsAgainst_notLost (established : Option NetworkParams) (info : ServerInfo) :
    Ends NotLost (fun _ => True) (checkParamsAgainst established info).1 := by
  unfold checkParamsAgainst
  cases established with
  | none => trivial
  | some prev =>
    dsimp only
    split
    · trivial
    · split
      · trivial
      · rfl

theorem offer_ends (fromSlice : Bytes → Except String VpnHandshakeResponse)
    (established : Option NetworkParams) (recv : List Bytes) :
    Ends NotLost Assigned (offer fromSlice established recv).1 := by
  unfold offer
  cases h : performHandshake fromSlice recv with
  | error e => exact (performHandshake_ends fromSlice recv).err h
  | ok r =>
    have hinfo := (performHandshake_ends fromSlice recv).value h
    have hcheck := checkParamsAgainst_notLost established r.1
    dsimp only
    rcases hres : checkParamsAgainst established r.1 with ⟨_ | _, baseline⟩
    · rw [hres] at hcheck
      exact hcheck
    · exact hinfo

theorem overlapError_notLost {routes : List Ipv4Net} {routes6 : List Ipv6Net} {locals : List LocalNetwork}
    {err : VpnError} (h : overlapError routes routes6 locals = some err) : NotLost err := by
  obtain ⟨route, l, -, rfl⟩ := overlapError_eq_some h
  rfl

theorem clientTunConfig_notLost (info : ServerInfo) : Ends NotLost (fun _ => True) (clientTunConfig info) := by
  have hlen (prefixLen6 : Nat) : Ends NotLost (fun _ => True) (validatePrefixLen6 prefixLen6) := by
    unfold validatePrefixLen6
    split
    · rfl
    · trivial
  unfold clientTunConfig
  dsimp only
  split
  · exact Ends.bind (P := fun _ => True) ((hlen _).bind fun _ _ => trivial) fun _ _ => trivial
  · trivial
  · exact Ends.bind (P := fun _ => True) ((hlen _).bind fun _ _ => trivial) fun _ _ => trivial
  · rfl

/-- What a tunnel that was up can end with. -/
def TunnelResult (result : Except VpnError Unit) : Prop :=
  ∃ e, result = .error e ∧ (e.isConnectionLost = true ∨ e.isRecoverable = false)

theorem tunnelResult_detected {s : Session} {first : List LocalNetwork} {polls : List (List LocalNetwork)}
    {err : VpnError} (h : s.detected first polls = some err) : TunnelResult (.error err) := by
  obtain ⟨err', hdet, -, ⟨route, localNet, interface, herr⟩, -⟩ :=
    Session.ended_iff.2 (h ▸ Option.some_ne_none err)
  obtain rfl := Option.some.inj (h.symm.trans hdet)
  exact ⟨err, rfl, .inr (by rw [herr]; rfl)⟩

theorem tunnelResult_runTunnel (how : TunnelEnd) : TunnelResult (runTunnel how) := by
  cases how with
  | splitFails message => exact ⟨_, rfl, .inr rfl⟩
  | ended results => exact ⟨_, rfl, .inl rfl⟩

/-! ## What a step can do -/

/-- The prefixes of a session. -/
def routed (config : VpnClientConfig) (info : ServerInfo) : Finset AnyNet :=
  prefixes (expanded (gatewayNets info)) ∪ prefixes (expanded (configuredNets config info))

namespace ConnectPhase

/-- Before anything was set up. -/
def Early : ConnectPhase → Prop
  | dialing | answered _ | checked _ => True
  | _ => False

/-- The client has not returned. -/
def Running : ConnectPhase → Prop
  | returned _ | stopped => False
  | _ => True

end ConnectPhase

namespace VpnClient

inductive Moves (S : ClientSetup) (st : VpnClient) : VpnClient → Prop
  | stay : Moves S st st
  | tick (ms : Nat) : Moves S st { st with now := st.now + ms }
  | givesUp (established : Option NetworkParams) {e : VpnError} (hphase : st.phase.Early) (he : NotLost e) :
      Moves S st ({ st with established }.giveUp e)
  | answered (established : Option NetworkParams) {info : ServerInfo} (hphase : st.phase = .dialing)
      (hinfo : Assigned info) : Moves S st { st with established, phase := .answered info }
  | clear {info : ServerInfo} (hphase : st.phase = .answered info) :
      Moves S st { st with phase := .checked info }
  | created {info : ServerInfo} {config : TunConfig} (name : String) (hphase : st.phase = .checked info)
      (hconfig : clientTunConfig info = .ok config) :
      Moves S st { st with tun := some (name, config), phase := .created info }
  | bypassed {info : ServerInfo} (bypass : Option (BypassRouteManager × BypassState))
      (hphase : st.phase = .created info) (hbypass : bypass.isSome = willAddRoutes S.config info) :
      Moves S st { st with bypass, phase := .bypassed info }
  | rolledBack {info : ServerInfo} {e : VpnError} {os : Os} (hphase : st.phase = .bypassed info)
      (he : NotLost e) (hos : Undone st.os os) :
      Moves S st ({ st with os, tun := none, bypass := none }.giveUp e)
  | up {info : ServerInfo} {guards : List RouteGuard} {os : Os} (hphase : st.phase = .bypassed info)
      (hos : Installed st.os os (guardRoutes guards) (routed S.config info)) :
      Moves S st
        { st with
          os
          status := .setConnected st.now (connectedInfo S.config info) st.bypass.isSome
          phase := .up info guards }
  | published {info : ServerInfo} {guards : List RouteGuard} (bypass : Option (BypassRouteManager × BypassState))
      (hphase : st.phase = .up info guards) (hbypass : bypass.isSome = st.bypass.isSome) :
      Moves S st { st with bypass }
  | ended {info : ServerInfo} {guards : List RouteGuard} {result : Except VpnError Unit}
      (hphase : st.phase = .up info guards) (hresult : TunnelResult result) :
      Moves S st
        { st with
          tun := none
          bypass := none
          status := st.status.setDisconnected
          phase := .leaving guards result }
  | left {guards : List RouteGuard} {result : Except VpnError Unit} (hphase : st.phase = .leaving guards result) :
      Moves S st { st with os := dropGuards guards st.os, phase := .ended true result }
  | returned {cameUp : Bool} {result : Except VpnError Unit} (loop : ReconnectLoop) (r : Except VpnError Unit)
      (hphase : st.phase = .ended cameUp result) :
      Moves S st { st with attempts := st.attempts ++ [(cameUp, result)], loop, phase := .returned r }
  | retried {cameUp : Bool} {e : VpnError} {loop : ReconnectLoop} (wake : Nat)
      (hphase : st.phase = .ended cameUp (.error e)) (he : e.isRecoverable = true)
      (hresult : loop.result = none)
      (hloop : loop.failures = saturatingAdd 32 (if e.isConnectionLost then 0 else st.loop.failures) 1) :
      Moves S st
        { st with
          attempts := st.attempts ++ [(cameUp, .error e)]
          loop
          status := st.status.setReconnecting loop.failures e.display wake
          phase := .sleeping wake }
  | woken {wake : Nat} (hphase : st.phase = .sleeping wake) (hle : wake ≤ st.now) :
      Moves S st { st with phase := .dialing }
  | stopped (hphase : st.phase.Running) : Moves S st st.shutdown

end VpnClient

/-- The loop goes on only behind a recoverable failure, which it counts. -/
theorem ReconnectLoop.step_going {maxAttempts : Option NonZeroU32} {l : ReconnectLoop}
    {result : Except VpnError Unit} {jitter : Jitter}
    (h : (l.step maxAttempts (result, jitter)).result = none) :
    ∃ e, result = .error e ∧ e.isRecoverable = true ∧
      (l.step maxAttempts (result, jitter)).failures =
        saturatingAdd 32 (if e.isConnectionLost then 0 else l.failures) 1 := by
  unfold ReconnectLoop.step at h ⊢
  cases hr : l.result with
  | some r => simp [hr] at h
  | none =>
    simp only [hr] at h ⊢
    cases result with
    | ok u => simp at h
    | error e =>
      cases hrec : e.isRecoverable with
      | false => simp [hrec] at h
      | true =>
        refine ⟨e, rfl, hrec, ?_⟩
        simp only [hrec, if_true] at h ⊢
        split
        · next max hmax => simp [hmax] at h
        · rfl

namespace VpnClient

variable {S : ClientSetup} {st : VpnClient}

theorem dial_moves (answer : ConnectAnswer) (hphase : st.phase = .dialing) : Moves S st (st.dial S answer) := by
  have hearly : st.phase.Early := by rw [hphase]; trivial
  unfold dial
  split
  · exact .givesUp st.established hearly rfl
  · cases answer with
    | fails e => exact .givesUp st.established hearly (by cases e <;> rfl)
    | responds recv =>
      have hends := offer_ends S.fromSlice st.established recv
      dsimp only
      rcases hoffer : offer S.fromSlice st.established recv with ⟨e | info, established⟩ <;> rw [hoffer] at hends
      · exact .givesUp established hearly hends
      · exact .answered established hphase hends

theorem check_moves {info : ServerInfo} (locals : List LocalNetwork) (hphase : st.phase = .answered info) :
    Moves S st (st.check S info locals) := by
  unfold check
  split
  · next err herr => exact .givesUp st.established (by rw [hphase]; trivial) (overlapError_notLost herr)
  · exact .clear hphase

theorem create_moves {info : ServerInfo} (device : Except String String) (hphase : st.phase = .checked info) :
    Moves S st (st.create info device) := by
  have hearly : st.phase.Early := by rw [hphase]; trivial
  unfold create
  cases hconfig : clientTunConfig info with
  | error e => exact .givesUp st.established hearly ((clientTunConfig_notLost info).err hconfig)
  | ok config =>
    cases device with
    | error message => exact .givesUp st.established hearly rfl
    | ok name => exact .created name hphase hconfig

theorem startBypass_moves {info : ServerInfo} (tunName : String) (underlay : Underlay)
    (hphase : st.phase = .created info) : Moves S st (st.startBypass S info tunName underlay) := by
  refine .bypassed _ hphase ?_
  cases willAddRoutes S.config info <;> rfl

theorem install_moves {info : ServerInfo} (fails : Nat → Option String) (hphase : st.phase = .bypassed info) :
    Moves S st (st.install S info fails) := by
  have h : Outcome (fun n => (fails n).map .tunDevice) st.os guardRoutes (routed S.config info)
      (installRoutes (fun n => (fails n).map .tunDevice) S.config info st.os) :=
    custom_outcome _ S.config info (gateway_outcome _ info st.os)
  unfold install
  rcases h with ⟨guards, os, heq, hinst⟩ | ⟨e, os, heq, ⟨n, hn⟩, hundone⟩
  · rw [heq]
    exact .up hphase hinst
  · rw [heq]
    obtain ⟨message, -, rfl⟩ := Option.map_eq_some_iff.1 hn
    exact .rolledBack hphase rfl hundone

theorem tunnelEnds_moves {info : ServerInfo} {guards : List RouteGuard} (tunName : String) (how : TunnelEnd)
    (first : List LocalNetwork) (polls : List (List LocalNetwork)) (hphase : st.phase = .up info guards) :
    Moves S st (st.tunnelEnds S info guards tunName how first polls) := by
  refine .ended hphase ?_
  split
  · next err hdet => exact tunnelResult_detected hdet
  · exact tunnelResult_runTunnel how

theorem react_moves {cameUp : Bool} {result : Except VpnError Unit} (jitter : Jitter)
    (hphase : st.phase = .ended cameUp result) : Moves S st (st.react S cameUp result jitter) := by
  unfold react
  dsimp only
  split
  · exact .returned st.loop result hphase
  · split
    · next r hr => exact .returned _ r hphase
    · next hnone =>
      obtain ⟨e, rfl, he, hfailures⟩ := ReconnectLoop.step_going hnone
      exact .retried _ hphase he hnone hfailures

/-- **One step.** -/
theorem step_moves (S : ClientSetup) (st : VpnClient) (a : ClientAction) : Moves S st (st.step S a) := by
  cases a with
  | tick ms => exact .tick ms
  | dial answer =>
    dsimp only [step]
    split
    · next hphase => exact dial_moves answer hphase
    · exact .stay
  | check locals =>
    dsimp only [step]
    split
    · next hphase => exact check_moves locals hphase
    · exact .stay
  | create device =>
    dsimp only [step]
    split
    · next hphase => exact create_moves device hphase
    · exact .stay
  | bypass underlay =>
    dsimp only [step]
    split
    · next hphase _ => exact startBypass_moves _ underlay hphase
    · exact .stay
  | install fails =>
    dsimp only [step]
    split
    · next hphase => exact install_moves fails hphase
    · exact .stay
  | publish update =>
    dsimp only [step]
    split
    · next hphase hbypass => exact .published _ hphase (by rw [hbypass]; rfl)
    · exact .stay
  | tunnelEnds how first polls =>
    dsimp only [step]
    split
    · next hphase _ => exact tunnelEnds_moves _ how first polls hphase
    · exact .stay
  | leave =>
    dsimp only [step]
    split
    · next hphase => exact .left hphase
    · exact .stay
  | react jitter =>
    dsimp only [step]
    split
    · next hphase => exact react_moves jitter hphase
    · exact .stay
  | wake =>
    dsimp only [step]
    split
    · next hphase =>
      split
      · next hle => exact .woken hphase hle
      · exact .stay
    · exact .stay
  | shutdown =>
    dsimp only [step]
    split
    · exact .stay
    · exact .stay
    · next hreturned hstopped =>
      refine .stopped ?_
      cases hphase : st.phase with
      | returned r => exact (hreturned r hphase).elim
      | stopped => exact (hstopped hphase).elim
      | _ => trivial

/-! ## The host -/

/-- The table is the initial one and the routes of the guards. -/
def Holding (table : Finset AnyNet) (os : Os) (guards : List RouteGuard) (ks : Finset AnyNet) : Prop :=
  ∃ before : Os, before.table = table ∧ Installed before os (guardRoutes guards) ks

/-- Nothing of a session is left. -/
structure Clean (table : Finset AnyNet) (host : HostState) : Prop where
  table : host.os.table = table
  tun : host.tun = none
  bypass : host.bypass = none

/-- The device is there, configured as assigned. -/
def HasDevice (info : ServerInfo) (host : HostState) : Prop :=
  ∃ name config, host.tun = some (name, config) ∧ clientTunConfig info = .ok config

/-- What is on the host in each phase. -/
def HostAt (S : ClientSetup) (table : Finset AnyNet) (host : HostState) : ConnectPhase → Prop
  | .dialing | .ended _ _ | .sleeping _ | .returned _ | .stopped => Clean table host
  | .answered info | .checked info => Clean table host ∧ Assigned info
  | .created info => host.os.table = table ∧ HasDevice info host ∧ Assigned info ∧ host.bypass = none
  | .bypassed info => host.os.table = table ∧ HasDevice info host ∧ Assigned info ∧
      host.bypass.isSome = willAddRoutes S.config info
  | .up info guards => Holding table host.os guards (routed S.config info) ∧ HasDevice info host ∧
      Assigned info ∧ host.bypass.isSome = willAddRoutes S.config info
  | .leaving guards _ => (∃ ks, Holding table host.os guards ks) ∧ host.tun = none ∧ host.bypass = none

structure HostInv (S : ClientSetup) (table : Finset AnyNet) (st : VpnClient) : Prop where
  removed : ∀ k ∈ st.os.removed, k ∉ table
  host : HostAt S table st.toHostState st.phase

/-- Dropping the guards leaves the initial table, and nothing of it was removed. -/
theorem Holding.drop {table : Finset AnyNet} {os : Os} {guards : List RouteGuard} {ks : Finset AnyNet}
    (h : Holding table os guards ks) (hremoved : ∀ k ∈ os.removed, k ∉ table) :
    (dropGuards guards os).table = table ∧ ∀ k ∈ (dropGuards guards os).removed, k ∉ table := by
  obtain ⟨before, rfl, hinst⟩ := h
  have hundone := hinst.undone mem_dropped
  rw [← dropGuards_eq] at hundone
  refine ⟨hundone.table, fun k hk => ?_⟩
  obtain ⟨ks', heq, hfresh⟩ := hundone.removed
  rw [heq, ← hinst.removed] at hk
  rcases List.mem_append.1 hk with hk | hk
  · exact hremoved k hk
  · exact hfresh k hk

theorem HostInv.of_early {table : Finset AnyNet} (h : HostInv S table st) (hphase : st.phase.Early) :
    Clean table st.toHostState := by
  have hhost := h.host
  cases hp : st.phase <;> rw [hp] at hphase hhost
  case dialing => exact hhost
  case answered => exact hhost.1
  case checked => exact hhost.1
  all_goals exact hphase.elim

/-- A shutdown at any time. -/
theorem HostInv.shutdown {table : Finset AnyNet} (h : HostInv S table st) : HostInv S table st.shutdown := by
  obtain ⟨hremoved, hhost⟩ := h
  unfold VpnClient.shutdown
  cases hphase : st.phase <;> rw [hphase] at hhost
  case up info guards =>
    obtain ⟨htable, hremoved'⟩ := hhost.1.drop hremoved
    exact ⟨hremoved', htable, rfl, rfl⟩
  case leaving guards result =>
    obtain ⟨ks, hholding⟩ := hhost.1
    obtain ⟨htable, hremoved'⟩ := hholding.drop hremoved
    exact ⟨hremoved', htable, rfl, rfl⟩
  case answered | checked => exact ⟨hremoved, hhost.1.table, rfl, rfl⟩
  case created | bypassed => exact ⟨hremoved, hhost.1, rfl, rfl⟩
  all_goals exact ⟨hremoved, hhost.table, rfl, rfl⟩

theorem HostInv.step {table : Finset AnyNet} (h : HostInv S table st) {st' : VpnClient} (hm : Moves S st st') :
    HostInv S table st' := by
  have hremoved := h.removed
  have hhost := h.host
  cases hm with
  | stay => exact h
  | tick ms => exact ⟨hremoved, hhost⟩
  | givesUp established hphase he => exact ⟨hremoved, h.of_early hphase⟩
  | answered established hphase hinfo =>
    rw [hphase] at hhost
    exact ⟨hremoved, hhost, hinfo⟩
  | clear hphase =>
    rw [hphase] at hhost
    exact ⟨hremoved, hhost⟩
  | created name hphase hconfig =>
    rw [hphase] at hhost
    exact ⟨hremoved, hhost.1.table, ⟨name, _, rfl, hconfig⟩, hhost.2, hhost.1.bypass⟩
  | bypassed bypass hphase hbypass =>
    rw [hphase] at hhost
    exact ⟨hremoved, hhost.1, hhost.2.1, hhost.2.2.1, hbypass⟩
  | rolledBack hphase he hos =>
    rw [hphase] at hhost
    obtain ⟨htable, ks, heq, hfresh⟩ := hos
    refine ⟨fun k hk => ?_, htable.trans hhost.1, rfl, rfl⟩
    rcases List.mem_append.1 (heq ▸ hk) with hk | hk
    · exact hremoved k hk
    · exact hhost.1 ▸ hfresh k hk
  | up hphase hos =>
    rw [hphase] at hhost
    exact ⟨hos.removed ▸ hremoved, ⟨st.os, hhost.1, hos⟩, hhost.2⟩
  | published bypass hphase hbypass =>
    refine ⟨hremoved, ?_⟩
    show HostAt S table { st.toHostState with bypass } st.phase
    rw [hphase] at hhost ⊢
    exact ⟨hhost.1, hhost.2.1, hhost.2.2.1, hbypass.trans hhost.2.2.2⟩
  | ended hphase hresult =>
    rw [hphase] at hhost
    exact ⟨hremoved, ⟨_, hhost.1⟩, rfl, rfl⟩
  | left hphase =>
    rw [hphase] at hhost
    obtain ⟨⟨ks, hholding⟩, htun, hbypass⟩ := hhost
    obtain ⟨htable, hremoved'⟩ := hholding.drop hremoved
    exact ⟨hremoved', htable, htun, hbypass⟩
  | returned loop r hphase =>
    rw [hphase] at hhost
    exact ⟨hremoved, hhost⟩
  | retried wake hphase he hresult hloop =>
    rw [hphase] at hhost
    exact ⟨hremoved, hhost⟩
  | woken hphase hle =>
    rw [hphase] at hhost
    exact ⟨hremoved, hhost⟩
  | stopped hphase => exact h.shutdown

theorem hostInv_run (S : ClientSetup) (table : Finset AnyNet) (as : List ClientAction) :
    HostInv S table (run (VpnClient.step S) (.start table) as) := by
  have hstart : HostInv S table (.start table) := ⟨fun k hk => absurd hk List.not_mem_nil, rfl, rfl, rfl⟩
  exact inv_run_all (fun st a h => h.step (step_moves S st a)) as _ hstart

end VpnClient

namespace ConnectPhase

end ConnectPhase

/-- Failed attempts in a row: a tunnel that came up starts over, with its own end as the first. -/
def failedSinceUp (attempts : List Attempt) : Nat := attempts.foldl (fun n a => if a.1 then 1 else n + 1) 0

theorem failedSinceUp_append (attempts : List Attempt) (a : Attempt) :
    failedSinceUp (attempts ++ [a]) = if a.1 then 1 else failedSinceUp attempts + 1 := by
  rw [failedSinceUp, List.foldl_append]
  rfl

/-- The connection was lost only if the tunnel was up, and a tunnel that was up ends with a lost
connection or with an error that is not worth a retry. -/
structure Attempt.Sound (a : Attempt) : Prop where
  lost_up : lost a.2 = true → a.1 = true
  up_ends : a.1 = true → TunnelResult a.2

def Attempt.Recoverable (a : Attempt) : Prop := ∃ e, a.2 = .error e ∧ e.isRecoverable = true

theorem Attempt.sound_notLost {e : VpnError} (he : NotLost e) : Attempt.Sound (false, .error e) := by
  refine ⟨fun h => ?_, fun h => absurd h Bool.false_ne_true⟩
  rw [show lost (.error e) = false from he] at h
  cases h

theorem Attempt.sound_tunnel {result : Except VpnError Unit} (h : TunnelResult result) :
    Attempt.Sound (true, result) := ⟨fun _ => rfl, fun _ => h⟩

/-- Of the attempts worth a retry, those that lost their connection are those that were up. -/
theorem Attempt.Sound.lost_eq {a : Attempt} (h : a.Sound) (hrec : a.Recoverable) : lost a.2 = a.1 := by
  obtain ⟨e, he, hrec⟩ := hrec
  cases hup : a.1 with
  | false => exact Bool.eq_false_iff.2 fun hlost => by rw [h.lost_up hlost] at hup; cases hup
  | true =>
    obtain ⟨e', he', hend⟩ := h.up_ends hup
    obtain rfl := Except.error.inj (he.symm.trans he')
    rcases hend with hlost | hfatal
    · rw [he]
      exact hlost
    · rw [hrec] at hfatal
      cases hfatal

/-- The outage that the loop makes out of the errors is the one since the tunnel was up. -/
theorem outage_eq_failedSinceUp {attempts : List Attempt} (hsound : ∀ a ∈ attempts, a.Sound)
    (hrec : ∀ a ∈ attempts, a.Recoverable) : outage (attempts.map Prod.snd) = failedSinceUp attempts := by
  induction attempts using List.reverseRecOn with
  | nil => rfl
  | append_singleton attempts a ih =>
    have hlast : a ∈ attempts ++ [a] := List.mem_append_right _ (List.mem_singleton_self a)
    rw [List.map_append, List.map_singleton, outage_append, failedSinceUp_append,
      (hsound a hlast).lost_eq (hrec a hlast),
      ih (fun b hb => hsound b (List.mem_append_left _ hb)) fun b hb => hrec b (List.mem_append_left _ hb)]

namespace VpnClient

/-- The result that is on its way to the loop. -/
def pending : ConnectPhase → Option Attempt
  | .leaving _ result => some (true, result)
  | .ended cameUp result => some (cameUp, result)
  | _ => none

structure OutageInv (st : VpnClient) : Prop where
  sound : ∀ a ∈ st.attempts, a.Sound
  pending : ∀ a, pending st.phase = some a → a.Sound
  counted : st.phase.Running → (∀ a ∈ st.attempts, a.Recoverable) ∧
    st.loop.failures = min (failedSinceUp st.attempts) (2 ^ 32 - 1)

variable {S : ClientSetup} {st : VpnClient}

/-- A step that the loop does not see. -/
theorem OutageInv.same (h : OutageInv st) {st' : VpnClient} (hattempts : st'.attempts = st.attempts)
    (hloop : st'.loop = st.loop) (hrunning : st.phase.Running)
    (hpending : ∀ a, VpnClient.pending st'.phase = some a → a.Sound) : OutageInv st' :=
  ⟨hattempts ▸ h.sound, hpending, fun _ => by rw [hattempts, hloop]; exact h.counted hrunning⟩

theorem OutageInv.step (h : OutageInv st) {st' : VpnClient} (hm : Moves S st st') : OutageInv st' := by
  cases hm with
  | stay => exact h
  | tick ms => exact ⟨h.sound, h.pending, h.counted⟩
  | givesUp established hphase he =>
    refine h.same rfl rfl ?_ fun a ha => ?_
    · cases hp : st.phase <;> rw [hp] at hphase <;> trivial
    · obtain rfl := Option.some.inj ha
      exact Attempt.sound_notLost he
  | rolledBack hphase he hos =>
    refine h.same rfl rfl (by rw [hphase]; trivial) fun a ha => ?_
    obtain rfl := Option.some.inj ha
    exact Attempt.sound_notLost he
  | ended hphase hresult =>
    refine h.same rfl rfl (by rw [hphase]; trivial) fun a ha => ?_
    obtain rfl := Option.some.inj ha
    exact Attempt.sound_tunnel hresult
  | left hphase =>
    refine h.same rfl rfl (by rw [hphase]; trivial) fun a ha => h.pending a ?_
    rw [hphase]
    exact ha
  | published bypass hphase hbypass => exact h.same rfl rfl (by rw [hphase]; trivial) h.pending
  | answered established hphase hinfo | clear hphase | created name hphase hconfig
  | bypassed bypass hphase hbypass | up hphase hos | woken hphase hle =>
    exact h.same rfl rfl (by rw [hphase]; trivial) fun a ha => by cases ha
  | returned loop r hphase =>
    have hnew := h.pending _ (congrArg VpnClient.pending hphase)
    exact ⟨List.forall_mem_append.2 ⟨h.sound, List.forall_mem_singleton.2 hnew⟩, fun a ha => (by cases ha),
      False.elim⟩
  | retried wake hphase he hresult hloop =>
    have hnew := h.pending _ (congrArg VpnClient.pending hphase)
    obtain ⟨hrec, hfailures⟩ := h.counted (by rw [hphase]; trivial)
    refine ⟨List.forall_mem_append.2 ⟨h.sound, List.forall_mem_singleton.2 hnew⟩, fun a ha => (by cases ha),
      fun _ => ⟨List.forall_mem_append.2 ⟨hrec, List.forall_mem_singleton.2 ⟨_, rfl, he⟩⟩, ?_⟩⟩
    -- the loop starts over exactly if the tunnel was up
    have hlost := hnew.lost_eq ⟨_, rfl, he⟩
    show _ = min (failedSinceUp (st.attempts ++ [_])) (2 ^ 32 - 1)
    rw [hloop, failedSinceUp_append, ← hlost]
    exact failures_next _ hfailures
  | stopped hphase => exact ⟨h.sound, fun a ha => (by cases ha), False.elim⟩

theorem outageInv_run (S : ClientSetup) (table : Finset AnyNet) (as : List ClientAction) :
    OutageInv (run (VpnClient.step S) (.start table) as) := by
  have hstart : OutageInv (.start table) :=
    ⟨fun a ha => absurd ha List.not_mem_nil, fun a ha => (by cases ha),
      fun _ => ⟨fun a ha => absurd ha List.not_mem_nil, rfl⟩⟩
  exact inv_run_all (fun st a h => h.step (step_moves S st a)) as _ hstart

end VpnClient

/-- **What an outage is.**  The loop starts to count anew when `connect` returns a lost connection,
going by the error alone.  Over every life this is right: the connection was lost only in attempts
whose tunnel had come up, and an attempt whose tunnel had come up and is retried has lost its
connection.  So while the client runs, the loop's counter is the number of attempts that failed
since a tunnel was last up, the end of that tunnel included, and stays at `u32::MAX` behind that. -/
theorem outage_since_up (S : ClientSetup) (table : Finset AnyNet) (as : List ClientAction) :
    let st := run (VpnClient.step S) (.start table) as
    (∀ a ∈ st.attempts, (lost a.2 = true → a.1 = true) ∧
      (a.1 = true → lost a.2 = true ∨ ∃ e, a.2 = .error e ∧ e.isRecoverable = false)) ∧
    ((∀ a ∈ st.attempts, a.Recoverable) → outage (st.attempts.map Prod.snd) = failedSinceUp st.attempts) ∧
    (st.phase.Running → (∀ a ∈ st.attempts, a.Recoverable) ∧
      st.loop.failures = min (failedSinceUp st.attempts) (2 ^ 32 - 1)) := by
  intro st
  obtain ⟨hsound, -, hcounted⟩ := VpnClient.outageInv_run S table as
  refine ⟨fun a ha => ⟨(hsound a ha).lost_up, fun hup => ?_⟩, outage_eq_failedSinceUp hsound, hcounted⟩
  obtain ⟨e, he, hlost | hfatal⟩ := (hsound a ha).up_ends hup
  · exact .inl (by rw [he]; exact hlost)
  · exact .inr ⟨e, he, hfatal⟩

/-! ## The status -/

/-- The session that is shown. -/
structure ClientStatus.ShowsSession (config : VpnClientConfig) (info : ServerInfo) (collected : Finset IpAddr)
    (s : ClientStatus) : Prop where
  state : s.state = "connected"
  ipv4 : s.mode = "ipv4" ∨ s.mode = "dual-stack" ↔ info.assignedIp.isSome = true
  ipv6 : s.mode = "ipv6" ∨ s.mode = "dual-stack" ↔ info.assignedIp6.isSome = true
  addresses : s.assignedIp = info.assignedIp.map displayIpv4 ∧ s.network = info.network.map displayIpv4Net ∧
    s.gateway = info.serverIp.map displayIpv4
  addresses6 : s.assignedIp6 = info.assignedIp6.map displayIpv6 ∧
    s.network6 = info.network6.map displayIpv6Net ∧ s.gateway6 = info.serverIp6.map displayIpv6
  mtu : s.mtu = some vpnMtu
  routes : s.routes = (configuredNets config info).1.map displayIpv4Net ∧
    s.routes6 = (configuredNets config info).2.map displayIpv6Net
  bypassAddrs : s.bypassAddrs = bypassProbe collected

/-- The outage that is shown: its attempts, and what the last one failed with. -/
structure ClientStatus.ShowsOutage (attempts : List Attempt) (s : ClientStatus) : Prop where
  failedAttempts : s.failedAttempts = min (failedSinceUp attempts) (2 ^ 32 - 1)
  lastError : ∃ cameUp e, attempts.getLast? = some (cameUp, .error e) ∧ s.lastError = some e.display

namespace VpnClient

/-- The last retry was published, with the next attempt at `wake`. -/
def Published (wake : Nat) (st : VpnClient) : Prop :=
  ∃ cameUp e, st.attempts.getLast? = some (cameUp, .error e) ∧
    st.status = .down ⟨st.loop.failures, some e.display, some wake⟩

/-- Nothing was published yet, or the retry that is under way. -/
def Between (st : VpnClient) : Prop :=
  (st.attempts = [] ∧ st.status = {}) ∨ ∃ wake ≤ st.now, Published wake st

/-- The status in each phase. -/
def StatusAt (S : ClientSetup) (st : VpnClient) : ConnectPhase → Prop
  | .dialing | .answered _ | .checked _ | .created _ | .bypassed _ | .ended false _ => Between st
  | .up info _ => ∃ since, st.status = .setConnected since (connectedInfo S.config info) st.bypass.isSome
  | .leaving _ _ | .ended true _ => st.status = {}
  | .sleeping wake => Published wake st
  | .returned _ => ∃ reconnect, st.status = .down reconnect
  | .stopped => True

variable {S : ClientSetup} {st : VpnClient}

theorem Published.down {wake : Nat} (h : Published wake st) : ∃ reconnect, st.status = .down reconnect := by
  obtain ⟨cameUp, e, -, hstatus⟩ := h
  exact ⟨_, hstatus⟩

theorem Between.down (h : Between st) : ∃ reconnect, st.status = .down reconnect := by
  rcases h with ⟨-, hstatus⟩ | ⟨wake, -, hpub⟩
  · exact ⟨{}, hstatus⟩
  · exact hpub.down

theorem statusAt_early (h : StatusAt S st st.phase) (hphase : st.phase.Early) : Between st := by
  cases hp : st.phase <;> rw [hp] at hphase h <;> first | exact h | exact hphase.elim

theorem statusAt_tick (h : StatusAt S st st.phase) (ms : Nat) :
    StatusAt S { st with now := st.now + ms } st.phase := by
  have hbetween : Between st → Between { st with now := st.now + ms } := by
    rintro (hfirst | ⟨wake, hle, hpub⟩)
    · exact .inl hfirst
    · exact .inr ⟨wake, Nat.le_add_right_of_le hle, hpub⟩
  cases hp : st.phase <;> rw [hp] at h
  case dialing | answered | checked | created | bypassed => exact hbetween h
  case ended cameUp result =>
    cases cameUp
    · exact hbetween h
    · exact h
  all_goals exact h

theorem statusAt_ended {cameUp : Bool} {result : Except VpnError Unit}
    (h : StatusAt S st (.ended cameUp result)) : ∃ reconnect, st.status = .down reconnect := by
  cases cameUp with
  | false => exact Between.down h
  | true => exact ⟨{}, h⟩

theorem statusAt_step (h : StatusAt S st st.phase) {st' : VpnClient} (hm : Moves S st st') :
    StatusAt S st' st'.phase := by
  cases hm with
  | stay => exact h
  | tick ms => exact statusAt_tick h ms
  | givesUp established hphase he =>
    have hbetween := statusAt_early h hphase
    exact hbetween
  | answered established hphase hinfo | clear hphase | created name hphase hconfig
  | bypassed bypass hphase hbypass | rolledBack hphase he hos =>
    rw [hphase] at h
    exact h
  | up hphase hos => exact ⟨st.now, rfl⟩
  | published bypass hphase hbypass =>
    show StatusAt S { st with bypass } st.phase
    rw [hphase] at h ⊢
    obtain ⟨since, hstatus⟩ := h
    exact ⟨since, hbypass ▸ hstatus⟩
  | ended hphase hresult =>
    rw [hphase] at h
    obtain ⟨since, hstatus⟩ := h
    show st.status.setDisconnected = {}
    rw [hstatus]
    rfl
  | left hphase =>
    rw [hphase] at h
    exact h
  | returned loop r hphase =>
    rw [hphase] at h
    have hdown := statusAt_ended h
    exact hdown
  | retried wake hphase he hresult hloop =>
    rw [hphase] at h
    obtain ⟨reconnect, hstatus⟩ := statusAt_ended h
    refine ⟨_, _, List.getLast?_concat .., ?_⟩
    show st.status.setReconnecting _ _ _ = _
    rw [hstatus]
    rfl
  | woken hphase hle =>
    rw [hphase] at h
    exact .inr ⟨_, hle, h⟩
  | stopped hphase => trivial

theorem statusAt_run (S : ClientSetup) (table : Finset AnyNet) (as : List ClientAction) :
    let st := run (VpnClient.step S) (.start table) as
    StatusAt S st st.phase :=
  inv_run_all (I := fun st => StatusAt S st st.phase) (fun st a h => statusAt_step h (step_moves S st a)) as _
    (.inl ⟨rfl, rfl⟩)

/-- A client that was dropped publishes nothing. -/
theorem step_of_stopped (hphase : st.phase = .stopped) (a : ClientAction) :
    (st.step S a).phase = .stopped ∧ (st.step S a).status = st.status := by
  cases a <;> simp [step, hphase]

theorem status_shutdown (st : VpnClient) : (st.step S .shutdown).status = st.status := by
  dsimp only [step]
  split <;> rfl

/-- Only a shutdown stops the client, and only while it runs. -/
theorem shutdown_of_stopped {a : ClientAction} (h : (st.step S a).phase = .stopped) (hne : st.phase ≠ .stopped) :
    a = .shutdown ∧ st.phase.Running := by
  cases a
  case shutdown =>
    refine ⟨rfl, ?_⟩
    cases hphase : st.phase <;> first | trivial | simp [step, hphase] at h
  case tick ms => exact (hne h).elim
  all_goals
    -- the others leave the phase alone or go to one of their own
    dsimp only [step, dial, check, create, startBypass, install, tunnelEnds, react] at h
    (repeat' split at h) <;> first | cases h | exact (hne h).elim

/-- What is shown behind a stop was there when the client was dropped. -/
theorem status_of_stopped (S : ClientSetup) (table : Finset AnyNet) (as : List ClientAction) :
    let st := run (VpnClient.step S) (.start table) as
    st.phase = .stopped → ∃ before after, as = before ++ .shutdown :: after ∧
      (run (VpnClient.step S) (.start table) before).phase.Running ∧
      st.status = (run (VpnClient.step S) (.start table) before).status := by
  refine inv_history (s := .start table) (I := fun as (st : VpnClient) => st.phase = .stopped → ∃ before after,
    as = before ++ .shutdown :: after ∧ (run (VpnClient.step S) (.start table) before).phase.Running ∧
    st.status = (run (VpnClient.step S) (.start table) before).status) (fun h => by cases h) (fun as a ih hphase => ?_) as
  by_cases hstopped : (run (VpnClient.step S) (.start table) as).phase = .stopped
  · obtain ⟨before, after, rfl, hrunning, hstatus⟩ := ih hstopped
    exact ⟨before, after ++ [a], by simp, hrunning, (step_of_stopped hstopped a).2.trans hstatus⟩
  · obtain ⟨rfl, hrunning⟩ := shutdown_of_stopped hphase hstopped
    exact ⟨as, [], rfl, hrunning, status_shutdown _⟩

/-- Outside a session nothing of one is shown. -/
theorem idle_of_statusAt (h : StatusAt S st st.phase) (hdown : ∀ info guards, st.phase ≠ .up info guards)
    (hstopped : st.phase ≠ .stopped) : (st.status.clientStatus st.collected st.now).1.Idle := by
  have hstatus : ∃ reconnect, st.status = .down reconnect := by
    cases hp : st.phase <;> rw [hp] at h
    case up info guards => exact (hdown info guards hp).elim
    case stopped => exact (hstopped hp).elim
    case leaving => exact ⟨{}, h⟩
    case ended => exact statusAt_ended h
    case sleeping => exact h.down
    case returned => exact h
    all_goals exact Between.down h
  obtain ⟨reconnect, hstatus⟩ := hstatus
  rw [hstatus]
  exact (ClientStateInner.idle_down reconnect _ _).1

theorem Published.showsOutage {wake : Nat} (h : Published wake st)
    (hfailures : st.loop.failures = min (failedSinceUp st.attempts) (2 ^ 32 - 1)) :
    (st.status.clientStatus st.collected st.now).1.ShowsOutage st.attempts ∧
      (st.status.clientStatus st.collected st.now).1.nextAttemptSecs = some ((wake - st.now) / 1000) := by
  obtain ⟨cameUp, e, hlast, hstatus⟩ := h
  rw [hstatus]
  exact ⟨⟨hfailures, cameUp, e, hlast, rfl⟩, rfl⟩

/-- The mode names the families of the session. -/
theorem mode_setConnected {info : ServerInfo} (hinfo : Assigned info) (config : VpnClientConfig) (since : Nat)
    (bypass : Bool) :
    let mode := (ClientStateInner.setConnected since (connectedInfo config info) bypass).mode
    (mode = "ipv4" ∨ mode = "dual-stack" ↔ info.assignedIp.isSome = true) ∧
      (mode = "ipv6" ∨ mode = "dual-stack" ↔ info.assignedIp6.isSome = true) := by
  have hone := hinfo.one
  simp only [ClientStateInner.mode, ClientStateInner.setConnected, connectedInfo, Option.isSome_map,
    ← Option.not_isSome]
  generalize info.assignedIp.isSome = ipv4 at *
  generalize info.assignedIp6.isSome = ipv6 at *
  cases ipv4 <;> cases ipv6 <;> simp at hone ⊢

/-- Between two sessions the retry that is under way is shown, if there was one. -/
theorem Between.showsOutage (h : Between st)
    (hfailures : st.loop.failures = min (failedSinceUp st.attempts) (2 ^ 32 - 1)) :
    let s := (st.status.clientStatus st.collected st.now).1
    if st.attempts = [] then s.Untroubled else s.ShowsOutage st.attempts ∧ s.nextAttemptSecs = some 0 := by
  intro s
  rcases h with ⟨hnil, hempty⟩ | ⟨wake, hle, hpub⟩
  · rw [if_pos hnil]
    exact ClientStateInner.untroubled (by rw [hempty]) _ _
  · have hne : st.attempts ≠ [] := by
      obtain ⟨cameUp, e, hlast, -⟩ := hpub
      intro hnil
      rw [hnil] at hlast
      cases hlast
    rw [if_neg hne]
    obtain ⟨hshows, hnext⟩ := hpub.showsOutage hfailures
    exact ⟨hshows, by rw [hnext, Nat.sub_eq_zero_of_le hle]⟩

/-- What `set_connected` has published is shown. -/
theorem showsSession_of_connected {info : ServerInfo} (hinfo : Assigned info) {since : Nat}
    (hstatus : st.status = .setConnected since (connectedInfo S.config info) st.bypass.isSome) :
    let s := (st.status.clientStatus st.collected st.now).1
    s.ShowsSession S.config info st.collected ∧ s.Untroubled := by
  intro s
  have hs : s = ((ClientStateInner.setConnected since (connectedInfo S.config info) st.bypass.isSome).clientStatus
      st.collected st.now).1 := by rw [← hstatus]
  obtain ⟨hmode4, hmode6⟩ := mode_setConnected hinfo S.config since st.bypass.isSome
  rw [hs]
  refine ⟨⟨rfl, hmode4, hmode6, ⟨rfl, rfl, rfl⟩, ⟨rfl, rfl, rfl⟩, rfl, ⟨rfl, rfl⟩, ?_⟩,
    ClientStateInner.untroubled rfl _ _⟩
  cases hb : st.bypass with
  | none => simp [ClientStateInner.clientStatus, ClientStateInner.setConnected, collected, hb, bypassProbe]
  | some manager => rfl

end VpnClient

namespace ConnectPhase

/-- In `connect`, before the tunnel is up. -/
def Attempting : ConnectPhase → Prop
  | dialing | answered _ | checked _ | created _ | bypassed _ => True
  | _ => False

end ConnectPhase

/-- **The status is exact** until the client is dropped.  Over every life: it is shown as connected
exactly while a tunnel is up, with the addresses of that session and the configured routes of its
families, which are all in the route table, and with nothing of an outage.  While it waits for the
next attempt or is in it, the status has the number of attempts that failed since a tunnel was last
up (at most `u32::MAX`), the error of the last of them and the time that is left.  A client that is
dropped publishes nothing more: whoever still asks gets what was there then, a session that was up
included. -/
theorem status_exact (S : ClientSetup) (table : Finset AnyNet) (as : List ClientAction) :
    let st := run (VpnClient.step S) (.start table) as
    let s := (st.status.clientStatus st.collected st.now).1
    (∀ info guards, st.phase = .up info guards → s.ShowsSession S.config info st.collected ∧ s.Untroubled ∧
      prefixes (expanded (configuredNets S.config info)) ⊆ st.os.table) ∧
    ((∀ info guards, st.phase ≠ .up info guards) → st.phase ≠ .stopped → s.Idle) ∧
    (∀ wake, st.phase = .sleeping wake →
      s.ShowsOutage st.attempts ∧ s.nextAttemptSecs = some ((wake - st.now) / 1000)) ∧
    (st.phase.Attempting →
      if st.attempts = [] then s.Untroubled else s.ShowsOutage st.attempts ∧ s.nextAttemptSecs = some 0) ∧
    (st.phase = .stopped → ∃ before after, as = before ++ .shutdown :: after ∧
      (run (VpnClient.step S) (.start table) before).phase.Running ∧
      st.status = (run (VpnClient.step S) (.start table) before).status) := by
  intro st s
  have hstatus : VpnClient.StatusAt S st st.phase := VpnClient.statusAt_run S table as
  have hhost : VpnClient.HostAt S table st.toHostState st.phase := (VpnClient.hostInv_run S table as).host
  have hcounted := (VpnClient.outageInv_run S table as).counted
  refine ⟨fun info guards hphase => ?_, VpnClient.idle_of_statusAt hstatus, fun wake hphase => ?_,
    fun hattempting => ?_, VpnClient.status_of_stopped S table as⟩
  · rw [hphase] at hstatus hhost
    obtain ⟨since, hstatus⟩ := hstatus
    obtain ⟨⟨before, -, hinst⟩, -, hinfo, hbypass⟩ := hhost
    obtain ⟨hshows, huntroubled⟩ := VpnClient.showsSession_of_connected hinfo hstatus
    refine ⟨hshows, huntroubled, ?_⟩
    rw [hinst.table]
    exact Finset.subset_union_right.trans Finset.subset_union_right
  · have hfailures := (hcounted (by rw [show _ = _ from hphase]; trivial)).2
    rw [hphase] at hstatus
    exact hstatus.showsOutage hfailures
  · have hbetween : VpnClient.Between st := by
      cases hp : st.phase <;> rw [hp] at hattempting hstatus <;>
        first | exact hstatus | exact hattempting.elim
    have hrunning : st.phase.Running := by
      cases hp : st.phase <;> rw [hp] at hattempting <;> trivial
    exact hbetween.showsOutage (hcounted hrunning).2

end EzVpn
