import EzVpn.Client.Common
import Mathlib.Data.Finset.Sort

/-!
# The status of the desktop client

`ClientStatusHandle` (src/control.rs): what the client's tasks publish about themselves and what
`ezvpn client status` makes of it.  Instants are milliseconds.  The probe of the connection is
there or not; the one of the bypass routes reads the set that the bypass route manager has
collected, which is handed in.
-/

namespace EzVpn

structure ClientConnectedInfo where
  assignedIp : Option String := none
  network : Option String := none
  gateway : Option String := none
  assignedIp6 : Option String := none
  network6 : Option String := none
  gateway6 : Option String := none
  mtu : Nat := 0
  routes : List String := []
  routes6 : List String := []
deriving DecidableEq

structure ReconnectState where
  failedAttempts : Nat := 0
  lastError : Option String := none
  nextAttemptAt : Option Nat := none
deriving DecidableEq

structure ClientStateInner where
  connected : Bool := false
  connectedAt : Option Nat := none
  info : ClientConnectedInfo := {}
  connectionProbe : Bool := false
  bypassRoutesProbe : Bool := false
  reconnect : ReconnectState := {}
deriving DecidableEq

structure ClientStatus where
  state : String
  connectedSinceSecs : Option Nat
  failedAttempts : Nat
  nextAttemptSecs : Option Nat
  lastError : Option String
  mode : String
  assignedIp : Option String
  network : Option String
  gateway : Option String
  assignedIp6 : Option String
  network6 : Option String
  gateway6 : Option String
  mtu : Option Nat
  routes : List String
  routes6 : List String
  bypassAddrs : List String
deriving DecidableEq

def displayIpAddr : IpAddr → String
  | .v4 ip => displayIpv4 ip
  | .v6 ip => displayIpv6 ip

instance ipLe_isTrans : IsTrans IpAddr (fun a b => ipLe a b = true) := ⟨ipLe_trans⟩

instance ipLe_isAntisymm : Std.Antisymm (fun a b : IpAddr => ipLe a b = true) := ⟨fun _ _ => ipLe_antisymm⟩

instance ipLe_isTotal : Std.Total (fun a b : IpAddr => ipLe a b = true) :=
  ⟨fun a b => Bool.or_eq_true_iff.1 (ipLe_total a b)⟩

/-- The closure of `bypass_probe`: the set is a `BTreeSet`. -/
def bypassProbe (collected : Finset IpAddr) : List String :=
  (collected.sort fun a b => ipLe a b = true).map displayIpAddr

namespace ClientStateInner

variable (s : ClientStateInner)

/-- Writes every field. -/
def setConnected (now : Nat) (info : ClientConnectedInfo) (bypass : Bool) : ClientStateInner :=
  { connected := true
    connectedAt := some now
    info
    connectionProbe := true
    bypassRoutesProbe := bypass
    reconnect := {} }

/-- Leaves the progress of the reconnect loop alone. -/
def setDisconnected : ClientStateInner :=
  { s with
    connected := false
    connectedAt := none
    info := {}
    connectionProbe := false
    bypassRoutesProbe := false }

def setReconnecting (failedAttempts : Nat) (lastError : String) (nextAttemptAt : Nat) : ClientStateInner :=
  { s with reconnect := ⟨failedAttempts, some lastError, some nextAttemptAt⟩ }

def mode : String :=
  if !s.connected then "none"
  else if s.info.assignedIp.isNone then "ipv6"
  else if s.info.assignedIp6.isSome then "dual-stack"
  else "ipv4"

/-- `client_status`: the status and whether there is a probe for the rest of it. -/
def clientStatus (collected : Finset IpAddr) (now : Nat) : ClientStatus × Bool :=
  ({ state := if s.connected then "connected" else "disconnected"
     connectedSinceSecs := s.connectedAt.map fun t => (now - t) / 1000
     failedAttempts := s.reconnect.failedAttempts
     -- `saturating_duration_since`
     nextAttemptSecs := s.reconnect.nextAttemptAt.map fun at' => (at' - now) / 1000
     lastError := s.reconnect.lastError
     mode := s.mode
     assignedIp := s.info.assignedIp
     network := s.info.network
     gateway := s.info.gateway
     assignedIp6 := s.info.assignedIp6
     network6 := s.info.network6
     gateway6 := s.info.gateway6
     mtu := if s.connected then some s.info.mtu else none
     routes := s.info.routes
     routes6 := s.info.routes6
     bypassAddrs := if s.bypassRoutesProbe then bypassProbe collected else [] },
    s.connectionProbe)

end ClientStateInner

/-! ## What is shown -/

/-- Nothing of a session is shown. -/
structure ClientStatus.Idle (s : ClientStatus) : Prop where
  state : s.state = "disconnected"
  since : s.connectedSinceSecs = none
  mode : s.mode = "none"
  addresses : s.assignedIp = none ∧ s.network = none ∧ s.gateway = none
  addresses6 : s.assignedIp6 = none ∧ s.network6 = none ∧ s.gateway6 = none
  mtu : s.mtu = none
  routes : s.routes = [] ∧ s.routes6 = [] ∧ s.bypassAddrs = []

/-- Nothing of an outage is shown. -/
structure ClientStatus.Untroubled (s : ClientStatus) : Prop where
  failedAttempts : s.failedAttempts = 0
  lastError : s.lastError = none
  nextAttemptSecs : s.nextAttemptSecs = none

/-- The state between sessions, whatever the reconnect loop has published. -/
def ClientStateInner.down (reconnect : ReconnectState) : ClientStateInner := { reconnect }

theorem ClientStateInner.idle_down (reconnect : ReconnectState) (collected : Finset IpAddr) (now : Nat) :
    ((ClientStateInner.down reconnect).clientStatus collected now).1.Idle ∧
      ((ClientStateInner.down reconnect).clientStatus collected now).2 = false :=
  ⟨⟨rfl, rfl, rfl, ⟨rfl, rfl, rfl⟩, ⟨rfl, rfl, rfl⟩, rfl, rfl, rfl, rfl⟩, rfl⟩

theorem ClientStateInner.untroubled {s : ClientStateInner} (h : s.reconnect = {}) (collected : Finset IpAddr)
    (now : Nat) : (s.clientStatus collected now).1.Untroubled := by
  constructor <;> simp [clientStatus, h]

end EzVpn
