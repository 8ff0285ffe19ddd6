import EzVpn.Response
import EzVpn.Lib.Run

/-!
# The client's side of the handshake

`perform_handshake` from the response on, and `check_params_against`, which compares what a
server assigned with the session before (src/tunnel/client.rs).  A client lives through any
number of handshakes; `networkConfig_consistent` says what stays the same over all of them.
-/

namespace EzVpn

open Lib

structure ServerInfo where
  assignedIp : Option Ipv4Addr
  network : Option Ipv4Net
  serverIp : Option Ipv4Addr
  assignedIp6 : Option Ipv6Addr
  network6 : Option Ipv6Net
  serverIp6 : Option Ipv6Addr
  serverAddrs : List IpAddr
deriving DecidableEq

/-- Address, network and gateway of one family: all present or all absent. -/
def checkTriplet {A N : Type} (message : String) (ip : Option A) (net : Option N) (gw : Option A) :
    Except VpnError (Option A × Option N × Option A) :=
  match ip, net, gw with
  | some ip, some net, some gw => .ok (some ip, some net, some gw)
  | none, none, none => .ok (none, none, none)
  | _, _, _ => .error (.signaling message)

def incompleteIpv4 : String :=
  "Server response has incomplete IPv4 configuration: " ++
    "assigned_ip, network, and server_ip must all be present or all absent"

def incompleteIpv6 : String :=
  "Server response has incomplete IPv6 configuration: " ++
    "assigned_ip6, network6, and server_ip6 must all be present or all absent"

/-- The checks of `perform_handshake` on a decoded response. -/
def serverInfo (response : VpnHandshakeResponse) : Except VpnError ServerInfo := do
  if !response.accepted then
    throw (.authenticationFailed (response.rejectReason.getD "Unknown"))
  let (assignedIp, network, serverIp) ←
    checkTriplet incompleteIpv4 response.assignedIp response.network response.serverIp
  let (assignedIp6, network6, serverIp6) ←
    checkTriplet incompleteIpv6 response.assignedIp6 response.network6 response.serverIp6
  if assignedIp.isNone && assignedIp6.isNone then
    throw (.signaling "Server response missing both IPv4 and IPv6 configuration")
  pure { assignedIp, network, serverIp, assignedIp6, network6, serverIp6,
         serverAddrs := response.serverAddrs }

/-- `perform_handshake`, from the response on: what the server assigned, and the rest of the
stream. -/
def performHandshake (fromSlice : Bytes → Except String VpnHandshakeResponse) (recv : List Bytes) :
    Except VpnError (ServerInfo × List Bytes) := do
  let (responseData, recv) ← readMessage recv maxHandshakeSize
  let response ← VpnHandshakeResponse.decode fromSlice responseData
  let info ← serverInfo response
  pure (info, recv)

/-! ## Reconnects -/

structure NetworkParams where
  assignedIp : Option Ipv4Addr
  network : Option Ipv4Net
  serverIp : Option Ipv4Addr
  assignedIp6 : Option Ipv6Addr
  network6 : Option Ipv6Net
  serverIp6 : Option Ipv6Addr
deriving DecidableEq

namespace NetworkParams

def fromServerInfo (info : ServerInfo) : NetworkParams :=
  ⟨info.assignedIp, info.network, info.serverIp, info.assignedIp6, info.network6, info.serverIp6⟩

def nonIpFieldsEq (p other : NetworkParams) : Bool :=
  p.network = other.network && p.serverIp = other.serverIp && p.network6 = other.network6 &&
    p.serverIp6 = other.serverIp6

/-- `Display for NetworkParams`. -/
def display (p : NetworkParams) : String :=
  let opt {α : Type} (show' : α → String) (o : Option α) : String := (o.map show').getD "none"
  s!"ip={opt displayIpv4 p.assignedIp} net={opt displayIpv4Net p.network} " ++
    s!"gw={opt displayIpv4 p.serverIp} ip6={opt displayIpv6 p.assignedIp6} " ++
    s!"net6={opt displayIpv6Net p.network6} gw6={opt displayIpv6 p.serverIp6}"

end NetworkParams

/-- `check_params_against`: the result and the baseline after it. -/
def checkParamsAgainst (established : Option NetworkParams) (info : ServerInfo) :
    Except VpnError Unit × Option NetworkParams :=
  let params := NetworkParams.fromServerInfo info
  match established with
  | none => (.ok (), some params)
  | some prev =>
    if prev = params then (.ok (), some prev)
    -- only the assigned addresses changed: adopt them
    else if prev.nonIpFieldsEq params then (.ok (), some params)
    else
      (.error (.serverConfigChanged
        (s!"VPN config changed on reconnect (was [{prev.display}], now [{params.display}]); " ++
          "quitting to avoid inconsistent routing/TUN state")), some prev)

/-- The handshake part of `connect`, with the baseline before and after it. -/
def offer (fromSlice : Bytes → Except String VpnHandshakeResponse) (established : Option NetworkParams)
    (recv : List Bytes) : Except VpnError ServerInfo × Option NetworkParams :=
  match performHandshake fromSlice recv with
  | .error e => (.error e, established)
  | .ok (info, _) =>
    match checkParamsAgainst established info with
    | (.ok (), established) => (.ok info, established)
    | (.error e, established) => (.error e, established)

/-! ## What a handshake yields -/

/-- All present or all absent. -/
def Complete {A N : Type} (ip : Option A) (net : Option N) (gw : Option A) : Prop :=
  ip.isSome = net.isSome ∧ gw.isSome = net.isSome

theorem checkTriplet_eq {A N : Type} (message : String) (ip : Option A) (net : Option N) (gw : Option A) :
    (checkTriplet message ip net gw = .ok (ip, net, gw) ∧ Complete ip net gw) ∨
    (checkTriplet message ip net gw = .error (.signaling message) ∧ ¬ Complete ip net gw) := by
  unfold Complete checkTriplet
  cases ip <;> cases net <;> cases gw <;> simp

/-- **What the client accepts**: accepted responses whose families are complete, one at least. -/
theorem serverInfo_ok_iff (r : VpnHandshakeResponse) (info : ServerInfo) : serverInfo r = .ok info ↔
    r.accepted = true ∧ Complete r.assignedIp r.network r.serverIp ∧
    Complete r.assignedIp6 r.network6 r.serverIp6 ∧
    (r.assignedIp.isSome = true ∨ r.assignedIp6.isSome = true) ∧
    info = ⟨r.assignedIp, r.network, r.serverIp, r.assignedIp6, r.network6, r.serverIp6, r.serverAddrs⟩ := by
  unfold serverInfo
  cases hacc : r.accepted with
  | false => simp [throw, throwThe, MonadExceptOf.throw, bind, Except.bind]
  | true =>
    rcases checkTriplet_eq incompleteIpv4 r.assignedIp r.network r.serverIp with ⟨h4, hc4⟩ | ⟨h4, hc4⟩
    · rcases checkTriplet_eq incompleteIpv6 r.assignedIp6 r.network6 r.serverIp6 with ⟨h6, hc6⟩ | ⟨h6, hc6⟩
      · simp only [h4, h6, hc4, hc6, bind, Except.bind, pure, Except.pure, throw, throwThe,
          MonadExceptOf.throw]
        cases r.assignedIp <;> cases r.assignedIp6 <;> simp [eq_comm]
      · simp [h4, h6, hc6, bind, Except.bind]
    · simp [h4, hc4, bind, Except.bind]

/-- What a completed handshake was given. -/
theorem performHandshake_ok {fromSlice : Bytes → Except String VpnHandshakeResponse}
    {recv rest : List Bytes} {info : ServerInfo}
    (h : performHandshake fromSlice recv = .ok (info, rest)) :
    Complete info.assignedIp info.network info.serverIp ∧
    Complete info.assignedIp6 info.network6 info.serverIp6 ∧
    (info.assignedIp.isSome = true ∨ info.assignedIp6.isSome = true) := by
  unfold performHandshake at h
  cases hread : readMessage recv maxHandshakeSize with
  | error e => rw [hread] at h; cases h
  | ok m =>
    rw [hread] at h
    simp only [bind, Except.bind] at h
    split at h
    · cases h
    · next response hdec =>
      split at h
      · cases h
      · next info' hinfo =>
        obtain ⟨rfl, -⟩ := Prod.mk.inj (Except.ok.inj h)
        obtain ⟨-, h4, h6, hone, rfl⟩ := (serverInfo_ok_iff _ _).1 hinfo
        exact ⟨h4, h6, hone⟩

/-! ## What a client keeps -/

/-- The network and gateway of each family. -/
def NetworkParams.SameNetworks (p q : NetworkParams) : Prop :=
  p.network = q.network ∧ p.serverIp = q.serverIp ∧ p.network6 = q.network6 ∧ p.serverIp6 = q.serverIp6

theorem NetworkParams.nonIpFieldsEq_iff (p q : NetworkParams) :
    p.nonIpFieldsEq q = true ↔ p.SameNetworks q := by
  simp [nonIpFieldsEq, SameNetworks, and_assoc]

/-- One offered response: it fails and the baseline stays, or what it assigns becomes the
baseline and has the networks and gateways of the baseline before. -/
theorem offer_cases (fromSlice : Bytes → Except String VpnHandshakeResponse)
    (established : Option NetworkParams) (recv : List Bytes) :
    (∃ e, offer fromSlice established recv = (.error e, established)) ∨
    (∃ info rest, performHandshake fromSlice recv = .ok (info, rest) ∧
      offer fromSlice established recv = (.ok info, some (.fromServerInfo info)) ∧
      ∀ prev, established = some prev → (NetworkParams.fromServerInfo info).SameNetworks prev) := by
  unfold offer
  cases hp : performHandshake fromSlice recv with
  | error e => exact Or.inl ⟨e, rfl⟩
  | ok res =>
    obtain ⟨info, rest⟩ := res
    cases established with
    | none => exact Or.inr ⟨info, rest, rfl, rfl, fun prev h => by cases h⟩
    | some prev =>
      by_cases heq : prev = .fromServerInfo info
      · refine Or.inr ⟨info, rest, rfl, by simp [checkParamsAgainst, heq], ?_⟩
        rintro _ ⟨⟩
        rw [← heq]
        exact ⟨rfl, rfl, rfl, rfl⟩
      · by_cases hsame : prev.nonIpFieldsEq (.fromServerInfo info) = true
        · refine Or.inr ⟨info, rest, rfl, by simp [checkParamsAgainst, heq, hsame], ?_⟩
          rintro _ ⟨⟩
          obtain ⟨h1, h2, h3, h4⟩ := (prev.nonIpFieldsEq_iff _).1 hsame
          exact ⟨h1.symm, h2.symm, h3.symm, h4.symm⟩
        · exact Or.inl ⟨_, by simp [checkParamsAgainst, heq, hsame]; rfl⟩

/-- A client over its handshakes: the baseline, and what was accepted so far. -/
structure Life where
  baseline : Option NetworkParams
  accepted : List ServerInfo

def Life.offer (fromSlice : Bytes → Except String VpnHandshakeResponse) (l : Life) (recv : List Bytes) :
    Life :=
  match EzVpn.offer fromSlice l.baseline recv with
  | (.ok info, baseline) => ⟨baseline, l.accepted ++ [info]⟩
  | (.error _, baseline) => ⟨baseline, l.accepted⟩

/-- Every accepted response has the networks of the first, and the last is the baseline. -/
structure LifeInv (l : Life) : Prop where
  baseline_eq : l.baseline = l.accepted.getLast?.map .fromServerInfo
  same : ∀ info ∈ l.accepted, ∀ first, l.accepted.head? = some first →
    (NetworkParams.fromServerInfo info).SameNetworks (.fromServerInfo first)
  complete : ∀ info ∈ l.accepted, Complete info.assignedIp info.network info.serverIp ∧
    Complete info.assignedIp6 info.network6 info.serverIp6

theorem lifeInv_offer (fromSlice : Bytes → Except String VpnHandshakeResponse) (l : Life)
    (recv : List Bytes) (h : LifeInv l) : LifeInv (l.offer fromSlice recv) := by
  unfold Life.offer
  rcases offer_cases fromSlice l.baseline recv with ⟨e, he⟩ | ⟨info, rest, hp, hok, hsame⟩
  · rw [he]
    exact h
  · rw [hok]
    have hcomplete := performHandshake_ok hp
    refine ⟨by simp, fun info' hinfo' first hfirst => ?_, fun info' hinfo' => ?_⟩
    · rcases List.eq_nil_or_concat l.accepted with hnil | ⟨before, last, hlast⟩
      · -- the first response of all
        simp only [hnil, List.nil_append, List.head?_cons, Option.some.injEq, List.mem_singleton]
          at hinfo' hfirst
        rw [hinfo', hfirst]
        exact ⟨rfl, rfl, rfl, rfl⟩
      · have hfirst' : l.accepted.head? = some first := by
          cases before <;> simpa [hlast] using hfirst
        rcases List.mem_append.1 hinfo' with hmem | hnew
        · exact h.same info' hmem first hfirst'
        · -- the new one agrees with the last, and the last with the first
          rw [List.mem_singleton.1 hnew]
          have hbase : l.baseline = some (.fromServerInfo last) := by
            rw [h.baseline_eq, hlast]
            simp
          obtain ⟨h1, h2, h3, h4⟩ := hsame _ hbase
          obtain ⟨g1, g2, g3, g4⟩ := h.same last (by simp [hlast]) first hfirst'
          exact ⟨h1.trans g1, h2.trans g2, h3.trans g3, h4.trans g4⟩
    · rcases List.mem_append.1 hinfo' with hmem | hnew
      · exact h.complete info' hmem
      · rw [List.mem_singleton.1 hnew]
        exact ⟨hcomplete.1, hcomplete.2.1⟩

/-- **The network configuration over the life of a client.**  Whatever responses it is
offered, all it accepts have the networks and gateways of the first and so assign the same
families; the baseline is what the last accepted response assigned, and a response that is
not accepted leaves it alone. -/
theorem networkConfig_consistent (fromSlice : Bytes → Except String VpnHandshakeResponse)
    (recvs : List (List Bytes)) :
    let l := run (Life.offer fromSlice) ⟨none, []⟩ recvs
    (∀ info ∈ l.accepted, ∀ first, l.accepted.head? = some first →
      info.network = first.network ∧ info.serverIp = first.serverIp ∧
      info.network6 = first.network6 ∧ info.serverIp6 = first.serverIp6 ∧
      info.assignedIp.isSome = first.assignedIp.isSome ∧
      info.assignedIp6.isSome = first.assignedIp6.isSome) ∧
    l.baseline = l.accepted.getLast?.map NetworkParams.fromServerInfo ∧
    (∀ recv e, (offer fromSlice l.baseline recv).1 = .error e →
      l.offer fromSlice recv = l) := by
  intro l
  have hinv : LifeInv l := inv_run_all (lifeInv_offer fromSlice) recvs _
    ⟨rfl, fun _ h => (List.not_mem_nil h).elim, fun _ h => (List.not_mem_nil h).elim⟩
  refine ⟨fun info hinfo first hfirst => ?_, hinv.baseline_eq, fun recv e he => ?_⟩
  · obtain ⟨h1, h2, h3, h4⟩ := hinv.same info hinfo first hfirst
    obtain ⟨c4, c6⟩ := hinv.complete info hinfo
    obtain ⟨d4, d6⟩ := hinv.complete first (List.mem_of_mem_head? hfirst)
    simp only [NetworkParams.fromServerInfo] at h1 h2 h3 h4
    -- a family is assigned exactly when its network is there
    exact ⟨h1, h2, h3, h4, by rw [c4.1, d4.1, h1], by rw [c6.1, d6.1, h3]⟩
  · rcases offer_cases fromSlice l.baseline recv with ⟨e', he'⟩ | ⟨info, rest, -, hok, -⟩
    · rw [Life.offer, he']
    · rw [hok] at he
      cases he

end EzVpn
