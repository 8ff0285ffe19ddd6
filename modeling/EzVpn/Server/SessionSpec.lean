import EzVpn.Server.Sessions
import EzVpn.Server.Admission

/-!
# What sessions promise

* `sessions_keep_addresses`: in a race-free run a registered session keeps its addresses
  until its own cleanup.  `sessions_lose_addresses` is a run with a race: a client
  reconnects while its old session is being cleaned up, and the cleanup takes the
  addresses of the new one.
* `no_address_leak`: in a race-free run that leaves nothing behind, a key all of whose
  handlers have returned holds nothing.  `response_failure_leaks` is a run where the
  handshake response cannot be written and the address stays allocated for ever.
-/

namespace EzVpn

open Lib

variable {EndpointId PublicKey : Type} [DecidableEq EndpointId]

/-! ## Free addresses -/

/-- `allocate` may hand `ip` out to a new key. -/
def IpPool.Free (p : IpPool EndpointId) (ip : Ipv4Addr) : Prop :=
  ip ∈ p.released ∨ p.nextIp ≤ ip.toNat ∧ ip.toNat ≤ p.maxIp

/-- `ip` is an address for clients. -/
def IpPool.InRange (p : IpPool EndpointId) (ip : Ipv4Addr) : Prop :=
  p.serverIp.toNat < ip.toNat ∧ ip.toNat ≤ p.maxIp

def Ip6Pool.Free (p : Ip6Pool EndpointId) (ip6 : Ipv6Addr) : Prop :=
  match p.alloc with
  | .sequential nextIp maxIp released => ip6 ∈ released ∨ nextIp ≤ ip6.toNat ∧ ip6.toNat ≤ maxIp
  | .nodeId => ∀ k, p.inUse.lookup k ≠ some ip6

def Ip6Pool.InRange (p : Ip6Pool EndpointId) (ip6 : Ipv6Addr) : Prop :=
  match p.alloc with
  | .sequential _ maxIp _ => p.serverIp.toNat < ip6.toNat ∧ ip6.toNat ≤ maxIp
  | .nodeId => True

/-- An address is free or held, and not both. -/
theorem free_xor_held {w lo : Nat} (s : FreeList (ClientKey EndpointId) (BitVec w))
    (hs : FreeList.Inv (BitVec.ofNat w) lo s) (hm : s.max < 2 ^ w) (a : BitVec w) :
    (∀ k, s.inUse.lookup k = some a → ¬ (a ∈ s.released ∨ s.next ≤ a.toNat ∧ a.toNat ≤ s.max)) ∧
    (lo ≤ a.toNat → a.toNat ≤ s.max → (a ∈ s.released ∨ s.next ≤ a.toNat ∧ a.toNat ≤ s.max) ∨
      ∃ k, s.inUse.lookup k = some a) := by
  constructor
  · rintro k hk (hr | ⟨hn, -⟩)
    · exact hs.disj a hr k hk
    · obtain ⟨n, h1, h2, rfl⟩ := (hs.drawn a).1 (Or.inl ⟨k, hk⟩)
      have hle : n ≤ s.max := by
        rcases hs.next_le with h | h <;> omega
      rw [BitVec.toNat_ofNat, Nat.mod_eq_of_lt (Nat.lt_of_le_of_lt hle hm)] at hn
      omega
  · intro h1 h2
    by_cases hn : s.next ≤ a.toNat
    · exact Or.inl (Or.inr ⟨hn, h2⟩)
    · rcases (hs.drawn a).2 ⟨a.toNat, h1, by omega, by simp⟩ with hheld | hr
      · exact Or.inr hheld
      · exact Or.inl (Or.inl hr)

theorem IpPool.Inv.free_xor_held {p : IpPool EndpointId} (h : p.Inv) (ip : Ipv4Addr) :
    (∀ k, p.inUse.lookup k = some ip → ¬ p.Free ip) ∧
    (p.InRange ip → p.Free ip ∨ ∃ k, p.inUse.lookup k = some ip) := by
  obtain ⟨h1, h2⟩ := EzVpn.free_xor_held p.toFreeList h.list h.max_lt ip
  exact ⟨h1, fun hr => h2 hr.1 hr.2⟩

theorem Ip6Pool.Inv.free_xor_held {suffix : EndpointId → UInt64} {p : Ip6Pool EndpointId}
    (h : p.Inv suffix) (ip6 : Ipv6Addr) :
    (∀ k, p.inUse.lookup k = some ip6 → ¬ p.Free ip6) ∧
    (p.InRange ip6 → p.Free ip6 ∨ ∃ k, p.inUse.lookup k = some ip6) := by
  unfold Free InRange
  obtain ⟨network, serverIp, alloc, inUse⟩ := p
  cases alloc with
  | sequential nextIp maxIp released =>
    obtain ⟨hm, hs⟩ := h
    obtain ⟨h1, h2⟩ := EzVpn.free_xor_held ⟨nextIp, maxIp, released, inUse⟩ hs hm ip6
    exact ⟨h1, fun hr => h2 hr.1 hr.2⟩
  | nodeId =>
    refine ⟨fun k hk hf => hf k hk, fun _ => ?_⟩
    by_cases hk : ∃ k, inUse.lookup k = some ip6
    · exact Or.inr hk
    · exact Or.inl fun k hk' => hk ⟨k, hk'⟩

/-! ## Addresses are kept -/

variable [DecidableEq PublicKey] (x : Externals EndpointId PublicKey) (peers : ConnId → Peer EndpointId)

/-- The session of `c` is the current `clients` entry of its key and has finished its
insertions into the reverse maps. -/
def Registered (w : World EndpointId PublicKey) (c : ConnId) : Prop :=
  w.server.owner ((peers c).key x) = some c ∧
    ((w.handlers c).phase = .serving ∨ (w.handlers c).phase = .removingClient)

instance (w : World EndpointId PublicKey) (c : ConnId) : Decidable (Registered x peers w c) :=
  inferInstanceAs (Decidable (_ ∧ (_ ∨ _)))

/-- Each address the session of `c` was assigned is recorded for its key in the pool, is
not free, and is mapped to its key. -/
def KeepsAddresses (w : World EndpointId PublicKey) (c : ConnId) : Prop :=
  (∀ ip, (w.handlers c).assignedIp = some ip →
    (∃ pool, w.server.ipPool = some pool ∧ pool.inUse.lookup ((peers c).key x) = some ip ∧ ¬ pool.Free ip) ∧
    w.server.ipToEndpoint.lookup ip = some ((peers c).key x)) ∧
  (∀ ip6, (w.handlers c).assignedIp6 = some ip6 →
    (∃ pool, w.server.ip6Pool = some pool ∧ pool.inUse.lookup ((peers c).key x) = some ip6 ∧
      ¬ pool.Free ip6) ∧
    w.server.ip6ToEndpoint.lookup ip6 = some ((peers c).key x))

/-- What race-free runs keep. -/
structure WorldInv (w : World EndpointId PublicKey) : Prop where
  sess : SessionInv x peers w
  lease4 : Lease.Inv (fun c => (peers c).key x) (view ipv4 w)
  lease6 : Lease.Inv (fun c => (peers c).key x) (view ipv6 w)

theorem worldInv_step (w : World EndpointId PublicKey) (a : ConnId × Io) (h : WorldInv x peers w)
    (hg : RaceFree x peers w a) : WorldInv x peers (step x peers w a) := by
  obtain ⟨c, io⟩ := a
  exact ⟨sessionInv_step x peers w (c, io) h.sess hg,
    Lease.inv_step h.lease4 (sim4 False h.sess h.lease4 hg False.elim),
    Lease.inv_step h.lease6 (sim6 False h.sess hg False.elim)⟩

variable {x} in
omit [DecidableEq PublicKey] in
/-- Nothing is held and nothing is mapped before the first connection. -/
theorem view_new {config : VpnServerConfig PublicKey} {serverId : EndpointId}
    {s : VpnServer EndpointId PublicKey} (hnew : VpnServer.new x config serverId = .ok s) :
    (∀ k, s.held4 k = none) ∧ (∀ k, s.held6 k = none) ∧ (∀ k, s.owner k = none) ∧
      (∀ a, s.ipToEndpoint.lookup a = none) ∧ (∀ a, s.ip6ToEndpoint.lookup a = none) := by
  obtain ⟨hs, h4, h6⟩ := VpnServer.new_eq hnew
  refine ⟨fun k => ?_, fun k => ?_, fun k => ?_, fun a => ?_, fun a => ?_⟩
  · cases hp : s.ipPool with
    | none => simp [VpnServer.held4, hp]
    | some p =>
      obtain ⟨network, -, hpool⟩ := h4 p hp
      rw [VpnServer.held4_some hp, IpPool.new_eq _ _ _ hpool]
      exact AList.lookup_empty k
  · cases hp : s.ip6Pool with
    | none => simp [VpnServer.held6, hp]
    | some p =>
      obtain ⟨network6, -, hpool⟩ := h6 p hp
      rw [VpnServer.held6_some hp]
      rcases Ip6Pool.new_eq _ _ _ _ _ _ hpool with ⟨m, -, rfl⟩ | rfl <;> exact AList.lookup_empty k
  all_goals (rw [hs]; simp [VpnServer.owner])

variable {x} in
omit [DecidableEq PublicKey] in
theorem worldInv_new {config : VpnServerConfig PublicKey} {serverId : EndpointId}
    {s : VpnServer EndpointId PublicKey} (hnew : VpnServer.new x config serverId = .ok s) :
    WorldInv x peers (World.new s) := by
  obtain ⟨hs, h4, h6⟩ := VpnServer.new_eq hnew
  obtain ⟨hheld4, hheld6, howner, -, -⟩ := view_new hnew
  refine ⟨⟨fun k st hk => ?_, fun c h => (by cases h), fun c c' h => (by cases h),
    fun c h => (by cases h), fun c c' _ h => (by cases h), fun p hp => ?_, fun p hp => ?_⟩,
    Lease.inv_init hheld4 howner fun _ => rfl, Lease.inv_init hheld6 howner fun _ => rfl⟩
  · rw [World.new, hs] at hk
    simp at hk
  · obtain ⟨network, -, hpool⟩ := h4 p hp
    exact IpPool.inv_new _ _ _ hpool
  · obtain ⟨network6, -, hpool⟩ := h6 p hp
    exact Ip6Pool.inv_new _ _ _ _ _ _ hpool

section
variable {x peers} {w : World EndpointId PublicKey} {c c' : ConnId}

omit [DecidableEq PublicKey] in
theorem Registered.stage (hr : Registered x peers w c) :
    (view ipv4 w).stage c = .mapped (w.handlers c).assignedIp ∧
      (view ipv6 w).stage c = .mapped (w.handlers c).assignedIp6 := by
  rcases hr.2 with hp | hp <;>
    simp [view, ipv4, ipv6, Handler.stage4, Handler.stage6, hp, Phase.stage4, Phase.stage6]

omit [DecidableEq PublicKey] in
theorem WorldInv.keepsAddresses (h : WorldInv x peers w) (hr : Registered x peers w c) :
    KeepsAddresses x peers w c := by
  constructor
  · intro ip hip
    obtain ⟨hheld, hrev⟩ := h.lease4.keeps _ c ip hr.1 (by rw [hr.stage.1, hip])
    obtain ⟨pool, hpool, hk⟩ := Option.bind_eq_some_iff.1 hheld
    exact ⟨⟨pool, hpool, hk, ((h.sess.pool4 pool hpool).free_xor_held ip).1 _ hk⟩, hrev⟩
  · intro ip6 hip
    obtain ⟨hheld, hrev⟩ := h.lease6.keeps _ c ip6 hr.1 (by rw [hr.stage.2, hip])
    obtain ⟨pool, hpool, hk⟩ := Option.bind_eq_some_iff.1 hheld
    exact ⟨⟨pool, hpool, hk, ((h.sess.pool6 pool hpool).free_xor_held ip6).1 _ hk⟩, hrev⟩

omit [DecidableEq PublicKey] in
/-- Two registered sessions with different keys have different addresses. -/
theorem WorldInv.disjoint (h : WorldInv x peers w) (hr : Registered x peers w c)
    (hr' : Registered x peers w c') (hk : (peers c).key x ≠ (peers c').key x) :
    (∀ ip, (w.handlers c).assignedIp = some ip → (w.handlers c').assignedIp ≠ some ip) ∧
    (∀ ip6, (w.handlers c).assignedIp6 = some ip6 → (w.handlers c').assignedIp6 ≠ some ip6) := by
  constructor
  · intro ip hip hip'
    have h1 := (h.lease4.keeps _ c ip hr.1 (by rw [hr.stage.1, hip])).1
    have h2 := (h.lease4.keeps _ c' ip hr'.1 (by rw [hr'.stage.1, hip'])).1
    exact hk (h.lease4.excl _ _ ip h1 h2)
  · intro ip6 hip hip'
    have h1 := (h.lease6.keeps _ c ip6 hr.1 (by rw [hr.stage.2, hip])).1
    have h2 := (h.lease6.keeps _ c' ip6 hr'.1 (by rw [hr'.stage.2, hip'])).1
    exact hk (h.lease6.excl _ _ ip6 h1 h2)

omit [DecidableEq PublicKey] in
/-- The entry of a registered session does not have the session id of another handler. -/
theorem WorldInv.other_session (h : WorldInv x peers w) (hr : Registered x peers w c) (hne : c' ≠ c)
    (hp : (w.handlers c').phase.hasSession = true) {st : ClientState}
    (hst : w.server.clients.lookup ((peers c).key x) = some st) :
    st.sessionId ≠ (w.handlers c').sessionId := by
  intro hid
  have hown := hr.1
  rw [VpnServer.owner, hst, Option.map_some, h.sess.own_entry hst hp hid] at hown
  exact hne (Option.some.inj hown)

/-- The cleanup of a session that was replaced does nothing. -/
theorem WorldInv.cleanup_of_replaced (h : WorldInv x peers w) (hr : Registered x peers w c)
    (hne : c' ≠ c) (hk : (peers c').key x = (peers c).key x)
    (hp : (w.handlers c').phase = .removingClient ∨ (w.handlers c').phase.cleaningUp = true) (io : Io) :
    (step x peers w (c', io)).server = w.server := by
  rcases hp with hp | hp
  · obtain ⟨st, hst, -⟩ := Option.map_eq_some_iff.1 hr.1
    have hid := h.other_session hr hne (by rw [hp]; rfl) hst
    rw [← hk] at hst
    simp [step, handlerStep, hp, Map.removeIf, hst, hid]
  · -- while a handler cleans up, its key has no entry
    have hclean : ((view ipv6 w).stage c').Cleaning := by
      show ((w.handlers c').phase.stage6 _).Cleaning
      cases hph : (w.handlers c').phase <;> rw [hph] at hp <;> trivial
    have hnone := h.lease6.clean c' hclean
    simp only [hk] at hnone
    have hown := hr.1
    rw [show w.server.owner ((peers c).key x) = none from hnone] at hown
    cases hown

/-- A registered session stays registered through the steps of others, unless one of them
inserts itself in its place. -/
theorem WorldInv.registered_step (h : WorldInv x peers w) (hr : Registered x peers w c)
    (hne : c' ≠ c) (hp : (w.handlers c').phase = .insertingClient → (peers c').key x ≠ (peers c).key x)
    (io : Io) : Registered x peers (step x peers w (c', io)) c ∧
      (step x peers w (c', io)).handlers c = w.handlers c := by
  obtain ⟨s', h', heq, ht⟩ := step_trans x c' io peers w
  have hsame : Function.update w.handlers c' h' c = w.handlers c := by simp [Ne.symm hne]
  have hown : s'.owner ((peers c).key x) = some c := by
    cases ht with
    | insertClient hph => rw [owner_insert, Function.update_apply, if_neg (hp hph).symm]; exact hr.1
    | removeClient hph hs hid =>
      rw [owner_erase, Function.update_apply, if_neg]
      · exact hr.1
      · intro hk
        rw [← hk] at hs
        exact h.other_session hr hne (by rw [hph]; rfl) hs hid
    | _ => exact hr.1
  rw [heq]
  refine ⟨⟨hown, ?_⟩, hsame⟩
  simp only [hsame]
  exact hr.2

end

/-- **A registered session keeps its addresses until its own cleanup**, in every race-free
run: it holds them and nobody else does, and the cleanup of a session it replaced leaves
the server as it is. -/
theorem sessions_keep_addresses (config : VpnServerConfig PublicKey) (serverId : EndpointId)
    (s : VpnServer EndpointId PublicKey) (hnew : VpnServer.new x config serverId = .ok s)
    (as : List (ConnId × Io))
    (hg : Guarded (step x peers) (RaceFree x peers) (World.new s) as) :
    let w := run (step x peers) (World.new s) as
    (∀ c, Registered x peers w c → KeepsAddresses x peers w c) ∧
    (∀ c c', Registered x peers w c → Registered x peers w c' → (peers c).key x ≠ (peers c').key x →
      (∀ ip, (w.handlers c).assignedIp = some ip → (w.handlers c').assignedIp ≠ some ip) ∧
      (∀ ip6, (w.handlers c).assignedIp6 = some ip6 → (w.handlers c').assignedIp6 ≠ some ip6)) ∧
    (∀ c c' io, Registered x peers w c → c' ≠ c → (peers c').key x = (peers c).key x →
      (w.handlers c').phase = .removingClient ∨ (w.handlers c').phase.cleaningUp = true →
      (step x peers w (c', io)).server = w.server) ∧
    (∀ c c' io, Registered x peers w c → c' ≠ c →
      ((w.handlers c').phase = .insertingClient → (peers c').key x ≠ (peers c).key x) →
      Registered x peers (step x peers w (c', io)) c ∧
        (step x peers w (c', io)).handlers c = w.handlers c) := by
  have hw : WorldInv x peers (run (step x peers) (World.new s) as) :=
    inv_run (fun w a => worldInv_step x peers w a) as _ (worldInv_new peers hnew) hg
  exact ⟨fun c hr => hw.keepsAddresses hr, fun c c' hr hr' hk => hw.disjoint hr hr' hk,
    fun c c' io hr hne hk hp => hw.cleanup_of_replaced hr hne hk hp io,
    fun c c' io hr hne hp => hw.registered_step hr hne hp io⟩

/-- Connections 0 and 1 come from one device, connection 2 from another device of the
same endpoint. -/
def racePeers : ConnId → Peer Nat
  | 0 | 1 => ⟨7, [1]⟩
  | 2 => ⟨7, [1, 1]⟩
  | c + 3 => ⟨c + 8, [1]⟩

/-- The steps of `c` up to and with the last insertion into a reverse map. -/
def register (c : ConnId) : List (ConnId × Io) := List.replicate 12 (c, .ok)

/-- Connection 0 ends and takes its entry out of `clients`; the client reconnects as
connection 1, which is given the same address; connection 0 goes on with its cleanup;
connection 2 registers. -/
def raceRun : List (ConnId × Io) :=
  register 0 ++ List.replicate 2 (0, .ok) ++ register 1 ++ List.replicate 3 (0, .ok) ++ register 2

/-- **A cleanup that overlaps a reconnect takes the address of the new session.**
Sessions 1 and 2 are both registered, with different keys and one address, which the
pool has recorded for session 2 only. -/
theorem sessions_lose_addresses :
    let w := run (step toy racePeers) (World.new toyServer) raceRun
    VpnServer.new toy toyConfig 0 = .ok toyServer ∧
    Registered toy racePeers w 1 ∧ Registered toy racePeers w 2 ∧
    (racePeers 1).key toy ≠ (racePeers 2).key toy ∧
    (w.handlers 1).assignedIp = some 0x0a000002#32 ∧ (w.handlers 2).assignedIp = some 0x0a000002#32 ∧
    w.server.held4 ((racePeers 1).key toy) = none ∧
    w.server.ipToEndpoint.lookup 0x0a000002#32 = some ((racePeers 2).key toy) ∧
    ¬ KeepsAddresses toy racePeers w 1 := by
  refine ⟨rfl, by decide +kernel, by decide +kernel, by decide, by decide +kernel, by decide +kernel,
    by decide +kernel, by decide +kernel, fun hkeep => ?_⟩
  have hrev := (hkeep.1 0x0a000002#32 (by decide +kernel)).2
  revert hrev
  decide +kernel

/-- Connection 1 replaces connection 0, which then ends; connection 2 registers. -/
def reconnectRun : List (ConnId × Io) :=
  register 0 ++ register 1 ++ List.replicate 4 (0, .ok) ++ register 2

/-- Only the first three connections take steps, and the others have other keys. -/
theorem raceFree_of_three (w : World Nat Nat) (a : ConnId × Io)
    (h : a.1 < 3 ∧ (∀ c' < 3, RaceFreeWith toy racePeers w a.1 c') ∧ NoWrap w a.1) :
    RaceFree toy racePeers w a := by
  refine ⟨fun c' => ?_, h.2.2⟩
  by_cases hc : c' < 3
  · exact h.2.1 c' hc
  · intro _ hk
    obtain ⟨c'', rfl⟩ := Nat.exists_eq_add_of_le (Nat.not_lt.1 hc)
    have hid : ∀ c < 3, (racePeers c).remoteId = 7 := by decide
    have hid' : (racePeers (3 + c'')).remoteId = c'' + 8 := by rw [Nat.add_comm]; rfl
    have := congrArg Prod.fst hk
    simp only [Peer.key, hid a.1 h.1, hid'] at this
    omega

theorem sessions_keep_addresses_reconnect :
    let w := run (step toy racePeers) (World.new toyServer) reconnectRun
    Registered toy racePeers w 1 ∧ KeepsAddresses toy racePeers w 1 ∧
      Registered toy racePeers w 2 ∧ KeepsAddresses toy racePeers w 2 := by
  have h := sessions_keep_addresses toy racePeers toyConfig 0 toyServer rfl reconnectRun
    (guarded_imp raceFree_of_three _ _ (by decide +kernel))
  have h1 : Registered toy racePeers (run (step toy racePeers) (World.new toyServer) reconnectRun) 1 := by
    decide +kernel
  have h2 : Registered toy racePeers (run (step toy racePeers) (World.new toyServer) reconnectRun) 2 := by
    decide +kernel
  exact ⟨h1, h.1 1 h1, h2, h.1 2 h2⟩

/-! ## Addresses are given back -/

/-- `p` sends a handshake that decodes, for the key `k`. -/
def Peer.Carries (p : Peer EndpointId) (k : ClientKey EndpointId) : Prop :=
  ∃ handshake, VpnHandshake.decode x p.handshakeData = .ok handshake ∧ k = (p.remoteId, handshake.deviceId)

/-- The handler has not begun or has returned. -/
def Phase.idle : Phase → Bool
  | incoming | done => true
  | _ => false

/-- What tidy race-free runs keep. -/
structure TidyInv (w : World EndpointId PublicKey) : Prop where
  world : WorldInv x peers w
  tidy4 : Lease.Tidy (fun c => (peers c).key x) (view ipv4 w)
  tidy6 : Lease.Tidy (fun c => (peers c).key x) (view ipv6 w)

theorem tidyInv_step (w : World EndpointId PublicKey) (a : ConnId × Io) (h : TidyInv x peers w)
    (hg : RaceFree x peers w a ∧ TidyStep x peers w a) : TidyInv x peers (step x peers w a) := by
  obtain ⟨c, io⟩ := a
  have hw := h.world
  exact ⟨worldInv_step x peers w (c, io) hw hg.1,
    Lease.tidy_step hw.lease4 h.tidy4 trivial (sim4 True hw.sess hw.lease4 hg.1 fun _ => hg.2),
    Lease.tidy_step hw.lease6 h.tidy6 trivial (sim6 True hw.sess hg.1 fun _ => hg.2)⟩

variable {x} in
omit [DecidableEq PublicKey] in
theorem tidyInv_new {config : VpnServerConfig PublicKey} {serverId : EndpointId}
    {s : VpnServer EndpointId PublicKey} (hnew : VpnServer.new x config serverId = .ok s) :
    TidyInv x peers (World.new s) := by
  obtain ⟨hheld4, hheld6, -, hrev4, hrev6⟩ := view_new hnew
  exact ⟨worldInv_new peers hnew, Lease.tidy_init hheld4 hrev4 fun _ => rfl,
    Lease.tidy_init hheld6 hrev6 fun _ => rfl⟩

/-- The key `k` holds nothing, and every address for clients is free or held by another. -/
structure NothingLeft (s : VpnServer EndpointId PublicKey) (k : ClientKey EndpointId) : Prop where
  clients : s.clients.lookup k = none
  rev4 : ∀ ip, s.ipToEndpoint.lookup ip ≠ some k
  rev6 : ∀ ip6, s.ip6ToEndpoint.lookup ip6 ≠ some k
  held4 : ∀ pool, s.ipPool = some pool → pool.inUse.lookup k = none ∧
    ∀ ip, pool.InRange ip → pool.Free ip ∨ ∃ k', k' ≠ k ∧ pool.inUse.lookup k' = some ip
  held6 : ∀ pool, s.ip6Pool = some pool → pool.inUse.lookup k = none ∧
    ∀ ip6, pool.InRange ip6 → pool.Free ip6 ∨ ∃ k', k' ≠ k ∧ pool.inUse.lookup k' = some ip6

omit [DecidableEq PublicKey] in
variable {x peers} in
theorem TidyInv.nothingLeft {w : World EndpointId PublicKey} (h : TidyInv x peers w)
    (k : ClientKey EndpointId) (hout : ∀ c, (peers c).key x = k →
      (w.handlers c).stage4 = .out ∧ (w.handlers c).stage6 = .out) : NothingLeft w.server k := by
  obtain ⟨hheld4, hrev4, howner⟩ := Lease.Tidy.nothing_left h.world.lease4 h.tidy4 k
    fun c hk => (hout c hk).1
  obtain ⟨hheld6, hrev6, -⟩ := Lease.Tidy.nothing_left h.world.lease6 h.tidy6 k
    fun c hk => (hout c hk).2
  refine ⟨Option.map_eq_none_iff.1 howner, hrev4, hrev6, fun pool hpool => ?_, fun pool hpool => ?_⟩
  · have hnone : pool.inUse.lookup k = none := by
      have := congrFun (VpnServer.held4_some hpool) k
      exact this.symm.trans hheld4
    refine ⟨hnone, fun ip hr => ?_⟩
    rcases ((h.world.sess.pool4 pool hpool).free_xor_held ip).2 hr with hf | ⟨k', hk'⟩
    · exact Or.inl hf
    · exact Or.inr ⟨k', fun e => (by rw [e, hnone] at hk'; cases hk'), hk'⟩
  · have hnone : pool.inUse.lookup k = none := by
      have := congrFun (VpnServer.held6_some hpool) k
      exact this.symm.trans hheld6
    refine ⟨hnone, fun ip6 hr => ?_⟩
    rcases ((h.world.sess.pool6 pool hpool).free_xor_held ip6).2 hr with hf | ⟨k', hk'⟩
    · exact Or.inl hf
    · exact Or.inr ⟨k', fun e => (by rw [e, hnone] at hk'; cases hk'), hk'⟩

theorem Handler.out_of_idle {h : Handler} (hi : h.phase.idle = true ∨ Refused h) :
    h.stage4 = .out ∧ h.stage6 = .out := by
  unfold Handler.stage4 Handler.stage6
  rcases hi with hi | hi | hi
  · cases hp : h.phase <;> rw [hp] at hi <;> first | exact ⟨rfl, rfl⟩ | cases hi
  · cases hp : h.phase <;> rw [hp] at hi <;> first | exact ⟨rfl, rfl⟩ | cases hi
  · rw [hi.1]; exact ⟨rfl, rfl⟩

/-- **No address leak**, in every race-free run that leaves nothing behind: once every
handler that carried `k` has returned, `k` holds nothing. -/
theorem no_address_leak (config : VpnServerConfig PublicKey) (serverId : EndpointId)
    (s : VpnServer EndpointId PublicKey) (hnew : VpnServer.new x config serverId = .ok s)
    (as : List (ConnId × Io))
    (hg : Guarded (step x peers) (fun w a => RaceFree x peers w a ∧ TidyStep x peers w a)
      (World.new s) as)
    (k : ClientKey EndpointId) (hidle : ∀ c, (peers c).Carries x k →
      ((run (step x peers) (World.new s) as).handlers c).phase.idle = true) :
    NothingLeft (run (step x peers) (World.new s) as).server k := by
  have ht : TidyInv x peers (run (step x peers) (World.new s) as) :=
    inv_run (fun w a => tidyInv_step x peers w a) as _ (tidyInv_new peers hnew) hg
  have ha : AdmissionInv x peers config (run (step x peers) (World.new s) as) :=
    inv_run_all (admissionInv_step x peers config) as _ (admissionInv_new peers hnew)
  refine ht.nothingLeft k fun c hk => Handler.out_of_idle ?_
  cases hdec : VpnHandshake.decode x (peers c).handshakeData with
  | ok handshake =>
    refine Or.inl (hidle c ⟨handshake, hdec, ?_⟩)
    rw [← hk, Peer.key, Peer.deviceId, hdec]
  | error e => exact Or.inr (ha.refused c (by rw [Peer.authenticates, hdec]))

/-- The response of connection 0 cannot be written. -/
def leakRun : List (ConnId × Io) :=
  List.replicate 7 (0, .ok) ++ [(0, .err (.network "connection lost")), (0, .ok)]

/-- **A failed response leaks the address.**  The only handler that ran has returned, and
its key still has an address. -/
theorem response_failure_leaks :
    let w := run (step toy racePeers) (World.new toyServer) leakRun
    VpnServer.new toy toyConfig 0 = .ok toyServer ∧
    (∀ c, (w.handlers c).phase.idle = true) ∧ (w.handlers 0).phase = .done ∧
    w.server.held4 ((racePeers 0).key toy) = some 0x0a000002#32 ∧
    ¬ NothingLeft w.server ((racePeers 0).key toy) := by
  refine ⟨rfl, fun c => ?_, by decide +kernel, by decide +kernel, fun hleft => ?_⟩
  · by_cases hc : c = 0
    · rw [hc]; decide +kernel
    · rw [run_handlers_ne toy c racePeers leakRun _ fun a ha => ?_]
      · rfl
      · have : a.1 = 0 := by revert a; decide
        rw [this]; exact Ne.symm hc
  · obtain ⟨pool, hpool, hk⟩ : ∃ pool,
        (run (step toy racePeers) (World.new toyServer) leakRun).server.ipPool = some pool ∧
        pool.inUse.lookup ((racePeers 0).key toy) = some 0x0a000002#32 :=
      Option.bind_eq_some_iff.1 (by decide +kernel)
    rw [(hleft.held4 pool hpool).1] at hk
    cases hk

/-- Connection 1 replaces connection 0 and then ends as well. -/
def tidyRun : List (ConnId × Io) :=
  register 0 ++ register 1 ++ List.replicate 4 (0, .ok) ++ List.replicate 7 (1, .ok)

theorem no_address_leak_reconnect :
    ((run (step toy racePeers) (World.new toyServer) tidyRun).handlers 1).phase = .done ∧
    NothingLeft (run (step toy racePeers) (World.new toyServer) tidyRun).server
      ((racePeers 0).key toy) := by
  refine ⟨by decide +kernel, no_address_leak toy racePeers toyConfig 0 toyServer rfl tidyRun ?_ _ ?_⟩
  · exact guarded_imp (fun w a h => ⟨raceFree_of_three w a h.1, h.2⟩) _ _
      (by decide +kernel : Guarded (step toy racePeers) (fun w a =>
        (a.1 < 3 ∧ (∀ c' < 3, RaceFreeWith toy racePeers w a.1 c') ∧ NoWrap w a.1) ∧
          TidyStep toy racePeers w a) (World.new toyServer) tidyRun)
  · intro c _
    have hran : ∀ c < 2,
        ((run (step toy racePeers) (World.new toyServer) tidyRun).handlers c).phase.idle = true := by
      decide +kernel
    by_cases hc : c < 2
    · exact hran c hc
    · rw [run_handlers_ne toy c racePeers tidyRun _ fun a ha => ?_]
      · rfl
      · have hlt : a.1 < 2 := by revert a; decide
        exact fun e => hc (e ▸ hlt)

end EzVpn
