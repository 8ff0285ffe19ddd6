import EzVpn.Config

/-!
# What the clients share

The desktop client (src/tunnel/client.rs) and the mobile one (src/tunnel/mobile.rs) dial the
server with the same function and drive the tunnel with the same `run_tunnel`; here are the ways
in which both can end, the texts of errors, and the order in which sets of addresses are shown.
-/

namespace EzVpn

/-- `VPN_MTU`. -/
def vpnMtu : Nat := 1280

/-- `Display for VpnError`. -/
def VpnError.display : VpnError → String
  | tunDevice message => "TUN device error: " ++ message
  | network message => "Network error: " ++ message
  | config message => "Configuration error: " ++ message
  | signaling message => "Signaling error: " ++ message
  | authenticationFailed message => "Authentication failed: " ++ message
  | ipAssignment message => "IP assignment error: " ++ message
  | connectionLost message => "Connection lost: " ++ message
  | maxReconnectAttemptsExceeded attempts => s!"Max reconnection attempts ({attempts}) exceeded"
  | serverConfigChanged message => "Server VPN configuration changed: " ++ message
  | routeOverlapsLocalNetwork route localNet interface =>
    s!"refusing to start: split-tunnel route {displayAnyNet route} overlaps current network " ++
      s!"{displayAnyNet localNet} on {interface}"
where
  displayAnyNet : AnyNet → String
    | .v4 net => displayIpv4Net net
    | .v6 net => displayIpv6Net net

/-! ## Dialing -/

/-- Errors of `connect_with_timeout` and of sending the handshake. -/
inductive DialError
  | signaling (message : String)
  | network (message : String)
deriving DecidableEq, Repr

def DialError.toVpnError : DialError → VpnError
  | signaling message => .signaling message
  | network message => .network message

/-! ## The end of a tunnel -/

/-- How one of the tasks of `run_tunnel` ended. -/
inductive TaskEnd
  | reason (text : String)
  | returned
  | cancelled
  | panicked (text : String)
  | failed (text : String)
deriving DecidableEq, Repr

def taskReason (name : String) : TaskEnd → Option String
  | .reason text => some text
  | .returned => some (name ++ " task ended")
  | .cancelled => none
  | .panicked text => some (name ++ " task panicked: " ++ text)
  | .failed text => some (name ++ " task failed: " ++ text)

def disconnectReason (results : List (String × TaskEnd)) : String :=
  let reasons := results.filterMap fun r => taskReason r.1 r.2
  if reasons.isEmpty then "all tasks cancelled" else "; ".intercalate reasons

/-- The two ways out of `run_tunnel`. -/
inductive TunnelEnd
  | splitFails (message : String)
  | ended (results : List (String × TaskEnd))
deriving DecidableEq, Repr

def runTunnel : TunnelEnd → Except VpnError Unit
  | .splitFails message => .error (.tunDevice message)
  | .ended results => .error (.connectionLost (disconnectReason results))

/-! ## The order of addresses -/

/-- `Ord for IpAddr`: IPv4 first. -/
def ipLe : IpAddr → IpAddr → Bool
  | .v4 a, .v4 b => decide (a.toNat ≤ b.toNat)
  | .v4 _, .v6 _ => true
  | .v6 _, .v4 _ => false
  | .v6 a, .v6 b => decide (a.toNat ≤ b.toNat)

theorem ipLe_total (a b : IpAddr) : (ipLe a b || ipLe b a) = true := by
  cases a <;> cases b <;> simp [ipLe] <;> omega

theorem ipLe_trans (a b c : IpAddr) (hab : ipLe a b = true) (hbc : ipLe b c = true) : ipLe a c = true := by
  cases a <;> cases b <;> cases c <;> simp [ipLe] at hab hbc ⊢ <;> omega

theorem ipLe_antisymm {a b : IpAddr} (hab : ipLe a b = true) (hba : ipLe b a = true) : a = b := by
  cases a with
  | v4 a =>
    cases b with
    | v4 b =>
      simp only [ipLe, decide_eq_true_eq] at hab hba
      exact congrArg IpAddr.v4 (BitVec.eq_of_toNat_eq (Nat.le_antisymm hab hba))
    | v6 b => cases hba
  | v6 a =>
    cases b with
    | v4 b => cases hab
    | v6 b =>
      simp only [ipLe, decide_eq_true_eq] at hab hba
      exact congrArg IpAddr.v6 (BitVec.eq_of_toNat_eq (Nat.le_antisymm hab hba))

end EzVpn
