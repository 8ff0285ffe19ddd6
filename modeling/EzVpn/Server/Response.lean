import EzVpn.Server.Isolation
import EzVpn.Client.Handshake
import Mathlib.Data.List.Destutter
import Mathlib.Data.List.Sort

/-!
# The response to a handshake

How `handle_connection_inner` builds the accepted response from the pools and the endpoint's
addresses (`server_candidate_addrs`, src/tunnel/server.rs) and sends it.  The client reads at
most `MAX_HANDSHAKE_SIZE` bytes; the server does not look at the size.
`handshakeResponse_understood_iff` says that this is all that can go wrong between the two.
-/

namespace EzVpn

open Lib

/-! ## Candidate addresses -/

/-- The order of `IpAddr`: IPv4 first, each family by number. -/
def IpAddr.le : IpAddr → IpAddr → Bool
  | .v4 a, .v4 b => a ≤ b
  | .v4 _, .v6 _ => true
  | .v6 _, .v4 _ => false
  | .v6 a, .v6 b => a ≤ b

def IpAddr.isLoopback : IpAddr → Bool
  | .v4 ip => ip.toNat / 2 ^ 24 = 127
  | .v6 ip => ip = 1

def IpAddr.isUnspecified : IpAddr → Bool
  | .v4 ip => ip = 0
  | .v6 ip => ip = 0

def isRoutableUnderlay (ip : IpAddr) : Bool :=
  if ip.isLoopback || ip.isUnspecified then false
  else
    match ip with
    -- 169.254.0.0/16
    | .v4 v4 => v4.toNat / 2 ^ 16 ≠ 0xa9fe
    -- fe80::/10, by the first group
    | .v6 v6 => v6.toNat / 2 ^ 112 &&& 0xffc0 ≠ 0xfe80

def ipInOverlay (ip : IpAddr) (overlayV4 : Option Ipv4Net) (overlayV6 : Option Ipv6Net) : Bool :=
  match ip with
  | .v4 v4 => overlayV4.any fun net => net.contains v4
  | .v6 v6 => overlayV6.any fun net => net.contains v6

/-- `server_candidate_addrs`, from the addresses `endpoint.addr().ip_addrs()` without ports. -/
def serverCandidateAddrs (endpointAddrs : List IpAddr) (overlayV4 : Option Ipv4Net)
    (overlayV6 : Option Ipv6Net) : List IpAddr :=
  let addrs := (endpointAddrs.filter fun ip => !ipInOverlay ip overlayV4 overlayV6).filter isRoutableUnderlay
  (addrs.insertionSort fun a b => a.le b).destutter (· ≠ ·)

/-! ## Building and sending -/

def hostNet4 (ip : Ipv4Addr) : Ipv4Net := ⟨ip, 32, le_rfl⟩

def hostNet6 (ip : Ipv6Addr) : Ipv6Net := ⟨ip, 128, le_rfl⟩

section
variable {EndpointId PublicKey : Type}

/-- The accepted response for what was assigned; `none` where the source would panic. -/
def acceptedResponse (s : VpnServer EndpointId PublicKey) :
    Option Ipv4Addr → Option Ipv6Addr → Option VpnHandshakeResponse
  | some ip4, some ip6 => do
    let ipPool ← s.ipPool
    let ip6Pool ← s.ip6Pool
    return VpnHandshakeResponse.acceptedDualStack ip4 (hostNet4 ipPool.serverIp) ipPool.serverIp
      ip6 (hostNet6 ip6Pool.serverIp) ip6Pool.serverIp
  | some ip4, none => do
    let ipPool ← s.ipPool
    return VpnHandshakeResponse.acceptedIpv4Only ip4 (hostNet4 ipPool.serverIp) ipPool.serverIp
  | none, some ip6 => do
    let ip6Pool ← s.ip6Pool
    return VpnHandshakeResponse.acceptedIpv6Only ip6 (hostNet6 ip6Pool.serverIp) ip6Pool.serverIp
  | none, none => none

def handshakeResponse (s : VpnServer EndpointId PublicKey) (assignedIp : Option Ipv4Addr)
    (assignedIp6 : Option Ipv6Addr) (endpointAddrs : List IpAddr) : Option VpnHandshakeResponse :=
  (acceptedResponse s assignedIp assignedIp6).map fun response =>
    response.withServerAddrs (serverCandidateAddrs endpointAddrs s.config.network s.config.network6)

end

/-- `write_message(&mut send, &response.encode()?)`. -/
def sendResponse (response : VpnHandshakeResponse) : Except VpnError Bytes := do
  let data ← response.encode
  writeMessage data

/-! ## What is published -/

theorem mem_destutter'_ne {α : Type} [DecidableEq α] {a b : α} {l : List α} :
    a ∈ l.destutter' (· ≠ ·) b ↔ a = b ∨ a ∈ l := by
  induction l generalizing b with
  | nil => simp
  | cons c l ih =>
    rw [List.destutter'_cons]
    by_cases hbc : b ≠ c
    · rw [if_pos hbc, List.mem_cons, ih, List.mem_cons]
    · obtain rfl : b = c := not_not.1 hbc
      rw [if_neg hbc, ih, List.mem_cons, ← or_assoc, or_self]

theorem mem_destutter_ne {α : Type} [DecidableEq α] {a : α} {l : List α} :
    a ∈ l.destutter (· ≠ ·) ↔ a ∈ l := by
  cases l with
  | nil => rfl
  | cons b l => rw [List.destutter_cons', mem_destutter'_ne, List.mem_cons]

/-- **Candidates**: the endpoint's addresses outside the overlay that a client may reach. -/
theorem mem_serverCandidateAddrs {endpointAddrs : List IpAddr} {overlayV4 : Option Ipv4Net}
    {overlayV6 : Option Ipv6Net} {ip : IpAddr} :
    ip ∈ serverCandidateAddrs endpointAddrs overlayV4 overlayV6 ↔
      ip ∈ endpointAddrs ∧ ipInOverlay ip overlayV4 overlayV6 = false ∧ isRoutableUnderlay ip = true := by
  simp only [serverCandidateAddrs, mem_destutter_ne, List.mem_insertionSort, List.mem_filter,
    Bool.not_eq_true', and_assoc]

/-- Addresses that are in order and pass the filters are published as they are. -/
theorem serverCandidateAddrs_of_sorted {endpointAddrs : List IpAddr} {overlayV4 : Option Ipv4Net}
    {overlayV6 : Option Ipv6Net}
    (hsorted : endpointAddrs.Pairwise fun a b => a.le b = true ∧ a ≠ b)
    (hpass : ∀ ip ∈ endpointAddrs,
      ipInOverlay ip overlayV4 overlayV6 = false ∧ isRoutableUnderlay ip = true) :
    serverCandidateAddrs endpointAddrs overlayV4 overlayV6 = endpointAddrs := by
  have hoverlay : endpointAddrs.filter (fun ip => !ipInOverlay ip overlayV4 overlayV6) = endpointAddrs :=
    List.filter_eq_self.2 fun ip hip => by rw [(hpass ip hip).1]; rfl
  have hroutable : endpointAddrs.filter isRoutableUnderlay = endpointAddrs :=
    List.filter_eq_self.2 fun ip hip => (hpass ip hip).2
  have hsort : endpointAddrs.insertionSort (fun a b => a.le b = true) = endpointAddrs :=
    (hsorted.imp And.left).insertionSort_eq
  simp only [serverCandidateAddrs, hoverlay, hroutable, hsort]
  exact List.destutter_of_isChain _ _ (hsorted.imp And.right).isChain

/-! ## What is sent -/

section
variable {EndpointId PublicKey : Type} {s : VpnServer EndpointId PublicKey}
  {assignedIp : Option Ipv4Addr} {assignedIp6 : Option Ipv6Addr} {endpointAddrs : List IpAddr}
  {r : VpnHandshakeResponse}

/-- Each assigned family comes with the host prefix and the address of its pool's gateway. -/
theorem acceptedResponse_spec (h : acceptedResponse s assignedIp assignedIp6 = some r) :
    r.version = vpnProtocolVersion ∧ r.accepted = true ∧
    r.assignedIp = assignedIp ∧ r.assignedIp6 = assignedIp6 ∧
    (assignedIp.isSome = true ∨ assignedIp6.isSome = true) ∧
    Complete r.assignedIp r.network r.serverIp ∧ Complete r.assignedIp6 r.network6 r.serverIp6 := by
  cases assignedIp with
  | none =>
    cases assignedIp6 with
    | none => cases h
    | some ip6 =>
      obtain ⟨pool6, -, h⟩ := Option.bind_eq_some_iff.1 h
      obtain rfl := Option.some.inj h
      exact ⟨rfl, rfl, rfl, rfl, Or.inr rfl, ⟨rfl, rfl⟩, rfl, rfl⟩
  | some ip4 =>
    cases assignedIp6 with
    | none =>
      obtain ⟨pool, -, h⟩ := Option.bind_eq_some_iff.1 h
      obtain rfl := Option.some.inj h
      exact ⟨rfl, rfl, rfl, rfl, Or.inl rfl, ⟨rfl, rfl⟩, rfl, rfl⟩
    | some ip6 =>
      obtain ⟨pool, -, h⟩ := Option.bind_eq_some_iff.1 h
      obtain ⟨pool6, -, h⟩ := Option.bind_eq_some_iff.1 h
      obtain rfl := Option.some.inj h
      exact ⟨rfl, rfl, rfl, rfl, Or.inl rfl, ⟨rfl, rfl⟩, rfl, rfl⟩

/-- With the pools of the assigned families there is a response. -/
theorem acceptedResponse_isSome (h4 : assignedIp.isSome = true → s.ipPool.isSome = true)
    (h6 : assignedIp6.isSome = true → s.ip6Pool.isSome = true)
    (hone : assignedIp.isSome = true ∨ assignedIp6.isSome = true) :
    (acceptedResponse s assignedIp assignedIp6).isSome = true := by
  cases assignedIp with
  | none =>
    cases assignedIp6 with
    | none => simp at hone
    | some ip6 =>
      obtain ⟨pool6, hpool6⟩ := Option.isSome_iff_exists.1 (h6 rfl)
      simp [acceptedResponse, hpool6]
  | some ip4 =>
    obtain ⟨pool, hpool⟩ := Option.isSome_iff_exists.1 (h4 rfl)
    cases assignedIp6 with
    | none => simp [acceptedResponse, hpool]
    | some ip6 =>
      obtain ⟨pool6, hpool6⟩ := Option.isSome_iff_exists.1 (h6 rfl)
      simp [acceptedResponse, hpool, hpool6]

/-- What the client is to learn from a response. -/
def VpnHandshakeResponse.info (r : VpnHandshakeResponse) : ServerInfo :=
  ⟨r.assignedIp, r.network, r.serverIp, r.assignedIp6, r.network6, r.serverIp6, r.serverAddrs⟩

/-- The response passes the encoder's, the decoder's and the client's checks, and carries the
assigned addresses and the candidates. -/
theorem handshakeResponse_spec (h : handshakeResponse s assignedIp assignedIp6 endpointAddrs = some r) :
    r.version = vpnProtocolVersion ∧ r.isValid = true ∧ serverInfo r = .ok r.info ∧
    r.assignedIp = assignedIp ∧ r.assignedIp6 = assignedIp6 ∧
    r.serverAddrs = serverCandidateAddrs endpointAddrs s.config.network s.config.network6 := by
  obtain ⟨r₀, h₀, rfl⟩ := Option.map_eq_some_iff.1 h
  obtain ⟨hver, hacc, hip, hip6, hone, h4, h6⟩ := acceptedResponse_spec h₀
  have hwith : ∀ addrs, r₀.withServerAddrs addrs = { r₀ with serverAddrs := addrs } := fun addrs =>
    if_pos hacc
  rw [hwith]
  rw [← hip, ← hip6] at hone
  refine ⟨hver, ?_, (serverInfo_ok_iff _ _).2 ⟨hacc, h4, h6, hone, rfl⟩, hip, hip6, rfl⟩
  refine (VpnHandshakeResponse.isValid_iff hacc).2 ⟨hone, fun hsome => ?_, fun hsome => ?_⟩
  · exact ⟨h4.1 ▸ hsome, h4.2.trans (h4.1 ▸ hsome)⟩
  · exact ⟨h6.1 ▸ hsome, h6.2.trans (h6.1 ▸ hsome)⟩

end

/-! ## In a run of the server -/

section
variable {EndpointId PublicKey : Type} [DecidableEq EndpointId] [DecidableEq PublicKey]

/-- There is a pool of the family of an address. -/
def VpnServer.HasPool (s : VpnServer EndpointId PublicKey) : PacketIp → Prop
  | .v4 _ => s.ipPool.isSome = true
  | .v6 _ => s.ip6Pool.isSome = true

theorem checkAssigned_responding {h : Handler} (hp : (checkAssigned h).phase = .responding) :
    (checkAssigned h).assignedIp.isSome = true ∨ (checkAssigned h).assignedIp6.isSome = true := by
  unfold checkAssigned at hp ⊢
  split at hp
  · cases hp
  · next hone =>
    rw [if_neg hone]
    cases h4 : h.assignedIp <;> cases h6 : h.assignedIp6 <;> simp_all

section
variable {x : Externals EndpointId PublicKey} {c : ConnId} {p : Peer EndpointId} {io : Io}
  {s s' : VpnServer EndpointId PublicKey} {h h' : Handler}

/-- A step keeps the pools there are. -/
theorem Trans.hasPool (ht : Trans x c p io s h s' h') {ip : PacketIp} (hs : s.HasPool ip) :
    s'.HasPool ip := by
  cases ip with
  | v4 ip =>
    show s'.ipPool.isSome = true
    rcases ht.ipPool with he | ⟨op, he⟩
    · rw [he]; exact hs
    · rw [he, Option.isSome_map]; exact hs
  | v6 ip =>
    show s'.ip6Pool.isSome = true
    rcases ht.ip6Pool with he | ⟨op, he⟩
    · rw [he]; exact hs
    · rw [he, Option.isSome_map]; exact hs

omit [DecidableEq PublicKey] in
theorem Allocates.hasPool {ip : PacketIp} (ha : Allocates x p s h ip) : s.HasPool ip := by
  cases ip with
  | v4 ip =>
    obtain ⟨-, pool, hpool, -⟩ := ha
    exact Option.isSome_iff_exists.2 ⟨pool, hpool⟩
  | v6 ip =>
    obtain ⟨-, pool, hpool, -⟩ := ha
    exact Option.isSome_iff_exists.2 ⟨pool, hpool⟩

/-- The response is reached from the second allocation only. -/
theorem Trans.responding (ht : Trans x c p io s h s' h') (hp' : h'.phase = .responding) :
    h.phase = .allocatingIp6 := by
  cases ht with
  | @plain n ph r hmove _ _ _ =>
    obtain rfl : ph = .responding := hp'
    revert hmove
    cases h.phase <;> simp [Phase.plainMove]
  | allocIp6 hp hs | noIp6 hp hs => exact hp
  | _ => cases hp'

theorem handlerStep_responding (hp' : (handlerStep x c p io s h).2.phase = .responding) :
    (handlerStep x c p io s h).2.assignedIp.isSome = true ∨
      (handlerStep x c p io s h).2.assignedIp6.isSome = true := by
  have hp := (handlerStep_trans x c p io s h).responding hp'
  simp only [handlerStep, hp] at hp' ⊢
  cases hpool : s.ip6Pool with
  | none =>
    simp only [hpool] at hp' ⊢
    exact checkAssigned_responding hp'
  | some pool =>
    simp only [hpool] at hp' ⊢
    split at hp'
    · cases hp'
    · next hone =>
      rw [if_neg hone]
      exact checkAssigned_responding hp'

end

/-- What the response relies on: an assigned address came from a pool, and a handler that
responds has one. -/
structure RespondInv (w : World EndpointId PublicKey) : Prop where
  pool : ∀ c ip, (w.handlers c).Assigned ip → w.server.HasPool ip
  one : ∀ c, (w.handlers c).phase = .responding →
    (w.handlers c).assignedIp.isSome = true ∨ (w.handlers c).assignedIp6.isSome = true

variable (x : Externals EndpointId PublicKey) (peers : ConnId → Peer EndpointId)

theorem respondInv_step (w : World EndpointId PublicKey) (a : ConnId × Io) (hw : RespondInv w) :
    RespondInv (step x peers w a) := by
  obtain ⟨c, io⟩ := a
  have ht := handlerStep_trans x c (peers c) io w.server (w.handlers c)
  refine ⟨fun c' ip hip => ht.hasPool ?_, fun c' hp => ?_⟩
  · by_cases hc : c' = c
    · subst hc
      simp only [step, Function.update_self] at hip
      rcases ht.assigned hip with hold | halloc
      · exact hw.pool c' ip hold
      · exact halloc.hasPool
    · simp only [step, Function.update_of_ne hc] at hip
      exact hw.pool c' ip hip
  · by_cases hc : c' = c
    · subst hc
      simp only [step, Function.update_self] at hp ⊢
      exact handlerStep_responding hp
    · simp only [step, Function.update_of_ne hc] at hp ⊢
      exact hw.one c' hp

omit [DecidableEq EndpointId] [DecidableEq PublicKey] in
theorem respondInv_new (s : VpnServer EndpointId PublicKey) : RespondInv (World.new s) :=
  ⟨fun _ ip h => (by cases ip <;> cases h), fun _ h => (by cases h)⟩

/-- **No panic.**  In every run, a handler that responds has a response to send. -/
theorem handshakeResponse_isSome (s : VpnServer EndpointId PublicKey) (as : List (ConnId × Io))
    (c : ConnId) (hp : ((run (step x peers) (World.new s) as).handlers c).phase = .responding)
    (endpointAddrs : List IpAddr) :
    (handshakeResponse (run (step x peers) (World.new s) as).server
      ((run (step x peers) (World.new s) as).handlers c).assignedIp
      ((run (step x peers) (World.new s) as).handlers c).assignedIp6 endpointAddrs).isSome = true := by
  have hinv := inv_run_all (respondInv_step x peers) as _ (respondInv_new s)
  rw [handshakeResponse, Option.isSome_map]
  refine acceptedResponse_isSome (fun h4 => ?_) (fun h6 => ?_) (hinv.one c hp)
  · obtain ⟨ip, hip⟩ := Option.isSome_iff_exists.1 h4
    exact hinv.pool c (.v4 ip) hip
  · obtain ⟨ip6, hip6⟩ := Option.isSome_iff_exists.1 h6
    exact hinv.pool c (.v6 ip6) hip6

end

/-! ## What the client makes of it -/

/-- The bytes sent for a response, however they arrive, are accepted, decode to the response
and give the client what it carries. -/
def Understood (fromSlice : Bytes → Except String VpnHandshakeResponse) (r : VpnHandshakeResponse) : Prop :=
  ∃ sent, sendResponse r = .ok sent ∧ ∀ (recv : List Bytes) (more : Bytes), recv.flatten = sent ++ more →
    ∃ rest, rest.flatten = more ∧ readMessage recv maxHandshakeSize = .ok (r.toVec, rest) ∧
      VpnHandshakeResponse.decode fromSlice r.toVec = .ok r ∧ serverInfo r = .ok r.info ∧
      performHandshake fromSlice recv = .ok (r.info, rest)

section
variable {fromSlice : Bytes → Except String VpnHandshakeResponse} {r : VpnHandshakeResponse}

theorem sendResponse_eq (hvalid : r.isValid = true) : sendResponse r = writeMessage r.toVec := by
  simp [sendResponse, VpnHandshakeResponse.encode, hvalid, bind, Except.bind]

/-- A response over the limit is refused by the reader, or not even written. -/
theorem length_le_of_understood (hvalid : r.isValid = true) (h : Understood fromSlice r) :
    r.toVec.length ≤ maxHandshakeSize := by
  obtain ⟨sent, hsent, hread⟩ := h
  rw [sendResponse_eq hvalid, writeMessage] at hsent
  split at hsent
  · next hlen =>
    obtain rfl := Except.ok.inj hsent
    have happ : [framed 4 r.toVec].flatten = framed 4 r.toVec ++ [] := by simp
    obtain ⟨rest, -, hok, -⟩ := hread _ _ happ
    by_contra hlong
    rw [readMessage_too_large hlen (Nat.lt_of_not_le hlong) happ] at hok
    cases hok
  · cases hsent

/-- Enough candidates make a response that no client understands, whatever else it carries. -/
theorem not_understood_of_many (hvalid : r.isValid = true) {k : Nat}
    (hk : ∀ ip ∈ r.serverAddrs, k ≤ (Json.str (displayIp ip)).utf8ByteSize)
    (hmany : maxHandshakeSize < r.serverAddrs.length * (k + 1)) :
    maxHandshakeSize < r.toVec.length ∧ ∀ fromSlice, ¬ Understood fromSlice r := by
  have hover := hmany.trans_le (VpnHandshakeResponse.le_length_toVec hk)
  exact ⟨hover, fun fromSlice hu => absurd (length_le_of_understood hvalid hu) hover.not_ge⟩

theorem understood_of_length_le (hvalid : r.isValid = true) (hver : r.version = vpnProtocolVersion)
    (hinfo : serverInfo r = .ok r.info) (hfrom : fromSlice r.toVec = .ok r)
    (hle : r.toVec.length ≤ maxHandshakeSize) : Understood fromSlice r := by
  have hlen : r.toVec.length < 256 ^ 4 := hle.trans_lt (by decide +kernel)
  have hdec := VpnHandshakeResponse.decode_toVec hfrom hver hvalid
  refine ⟨framed 4 r.toVec, (sendResponse_eq hvalid).trans (if_pos hlen), ?_⟩
  intro recv more h
  obtain ⟨rest, hread, hrest⟩ := readMessage_framed hlen hle h
  refine ⟨rest, hrest, hread, hdec, hinfo, ?_⟩
  simp only [performHandshake, hread, hdec, hinfo, bind, Except.bind, pure, Except.pure]

end

/-- **Responses.**  For every state of the pools, all assigned addresses and all addresses of
the endpoint: the client understands the response exactly if it is within the limit of the
reader. -/
theorem handshakeResponse_understood_iff {EndpointId PublicKey : Type}
    (fromSlice : Bytes → Except String VpnHandshakeResponse) (s : VpnServer EndpointId PublicKey)
    (assignedIp : Option Ipv4Addr) (assignedIp6 : Option Ipv6Addr) (endpointAddrs : List IpAddr)
    (r : VpnHandshakeResponse) (hfrom : fromSlice r.toVec = .ok r)
    (h : handshakeResponse s assignedIp assignedIp6 endpointAddrs = some r) :
    (Understood fromSlice r ∧ r.info.assignedIp = assignedIp ∧ r.info.assignedIp6 = assignedIp6 ∧
      r.info.serverAddrs = serverCandidateAddrs endpointAddrs s.config.network s.config.network6) ↔
    r.toVec.length ≤ maxHandshakeSize := by
  obtain ⟨hver, hvalid, hinfo, hip, hip6, haddrs⟩ := handshakeResponse_spec h
  exact ⟨fun hu => length_le_of_understood hvalid hu.1,
    fun hle => ⟨understood_of_length_le hvalid hver hinfo hfrom hle, hip, hip6, haddrs⟩⟩

def smallResponse : VpnHandshakeResponse :=
  (VpnHandshakeResponse.acceptedIpv4Only 0x0a000002 (hostNet4 0x0a000001) 0x0a000001).withServerAddrs
    [.v4 0xc0000201]

theorem handshakeResponse_understood_small :
    Understood (fun data => if data = smallResponse.toVec then .ok smallResponse else .error "expected value")
      smallResponse :=
  ((handshakeResponse_understood_iff _ toyServer (some 0x0a000002) none [.v4 0xc0000201] smallResponse
    (if_pos rfl) (by decide +kernel)).2 (by decide +kernel)).1

/-! ## A server with many addresses -/

theorem length_displayIpv4 (ip : Ipv4Addr) : 7 ≤ (displayIpv4 ip).length := by
  have hnum : ∀ n : Nat, 0 < (toString n).length := fun n =>
    Nat.pos_of_ne_zero fun h => Nat.repr_ne_empty (String.length_eq_zero_iff.1 h)
  have hdot : (toString ".").length = 1 := rfl
  have h1 := hnum (ip.toNat / 2 ^ 24)
  have h2 := hnum (ip.toNat / 2 ^ 16 % 256)
  have h3 := hnum (ip.toNat / 2 ^ 8 % 256)
  have h4 := hnum (ip.toNat % 256)
  simp only [displayIpv4, String.length_append, hdot]
  omega

/-- Addresses from 198.18.0.0 on. -/
def manyAddr (i : Nat) : Ipv4Addr := BitVec.ofNat 32 (0xc6120000 + i)

def manyAddrs (n : Nat) : List IpAddr := (List.range n).map fun i => .v4 (manyAddr i)

theorem manyAddr_toNat {i : Nat} (hi : i < 2 ^ 16) : (manyAddr i).toNat = 0xc6120000 + i := by
  rw [manyAddr, BitVec.toNat_ofNat, Nat.mod_eq_of_lt (by omega)]

theorem manyAddr_routable {i : Nat} (hi : i < 2 ^ 16) : isRoutableUnderlay (.v4 (manyAddr i)) = true := by
  have hnat := manyAddr_toNat hi
  have hzero : manyAddr i ≠ 0#32 := fun h => by
    have := congrArg BitVec.toNat h
    rw [hnat] at this
    simp at this
  have hloop : (manyAddr i).toNat / 2 ^ 24 ≠ 127 := by rw [hnat]; omega
  have hlink : (manyAddr i).toNat / 2 ^ 16 ≠ 0xa9fe := by rw [hnat]; omega
  have hspecial : ((IpAddr.v4 (manyAddr i)).isLoopback || (IpAddr.v4 (manyAddr i)).isUnspecified) = false :=
    Bool.or_eq_false_iff.2 ⟨decide_eq_false hloop, decide_eq_false hzero⟩
  rw [isRoutableUnderlay, hspecial]
  exact decide_eq_true hlink

theorem manyAddr_overlay {i : Nat} (hi : i < 2 ^ 16) :
    ipInOverlay (.v4 (manyAddr i)) toyConfig.network toyConfig.network6 = false := by
  have hnat := manyAddr_toNat hi
  have hlast : (IpNet.broadcast ⟨0x0a000000#32, 29, by decide⟩).toNat = 0x0a000007 := by decide +kernel
  refine Bool.eq_false_iff.2 fun h => ?_
  have hle := ((IpNet.contains_iff _ _).1 h).2
  rw [hnat, hlast] at hle
  omega

theorem manyAddrs_candidates {n : Nat} (hn : n ≤ 2 ^ 16) :
    serverCandidateAddrs (manyAddrs n) toyConfig.network toyConfig.network6 = manyAddrs n := by
  refine serverCandidateAddrs_of_sorted ?_ ?_
  · refine List.pairwise_map.2 ((List.pairwise_lt_range).imp_of_mem ?_)
    intro i j hi hj hij
    have hi := manyAddr_toNat ((List.mem_range.1 hi).trans_le hn)
    have hj := manyAddr_toNat ((List.mem_range.1 hj).trans_le hn)
    constructor
    · simp only [IpAddr.le, BitVec.le_def, hi, hj, decide_eq_true_eq]
      omega
    · intro he
      have := congrArg BitVec.toNat (IpAddr.v4.inj he)
      rw [hi, hj] at this
      omega
  · intro ip hip
    obtain ⟨i, hi, rfl⟩ := List.mem_map.1 hip
    have hi := (List.mem_range.1 hi).trans_le hn
    exact ⟨manyAddr_overlay hi, manyAddr_routable hi⟩

/-- With `n` such addresses the response takes ten bytes for each of them. -/
theorem many_not_understood {n : Nat} (hn : n ≤ 2 ^ 16) (hmany : maxHandshakeSize < n * (9 + 1)) :
    ∃ r, handshakeResponse toyServer (some 0x0a000002) none (manyAddrs n) = some r ∧
      r.serverAddrs = manyAddrs n ∧ maxHandshakeSize < r.toVec.length ∧
      ∀ fromSlice, ¬ Understood fromSlice r := by
  have hsome : (handshakeResponse toyServer (some 0x0a000002) none (manyAddrs n)).isSome = true := rfl
  obtain ⟨r, hr⟩ := Option.isSome_iff_exists.1 hsome
  obtain ⟨-, hvalid, -, -, -, haddrs⟩ := handshakeResponse_spec hr
  replace haddrs : r.serverAddrs = manyAddrs n := haddrs.trans (manyAddrs_candidates hn)
  have hcount : r.serverAddrs.length = n := by rw [haddrs, manyAddrs, List.length_map, List.length_range]
  have hsize : ∀ ip ∈ r.serverAddrs, 9 ≤ (Json.str (displayIp ip)).utf8ByteSize := by
    rw [haddrs]
    intro ip hip
    obtain ⟨i, -, rfl⟩ := List.mem_map.1 hip
    exact (Nat.add_le_add_right (length_displayIpv4 (manyAddr i)) 2).trans (Json.le_size_str _)
  obtain ⟨hover, hnot⟩ := not_understood_of_many hvalid hsize (hcount.symm ▸ hmany)
  exact ⟨r, hr, haddrs, hover, hnot⟩

/-- The response of a server with 2000 IPv4 addresses is longer than a client reads. -/
theorem handshakeResponse_too_long :
    ∃ r, handshakeResponse toyServer (some 0x0a000002) none (manyAddrs 2000) = some r ∧
      r.serverAddrs = manyAddrs 2000 ∧ maxHandshakeSize < r.toVec.length ∧
      ∀ fromSlice, ¬ Understood fromSlice r :=
  many_not_understood (by decide +kernel) (by decide +kernel)

end EzVpn
