import EzVpn.Server.Steps
import EzVpn.Server.PoolInv
import EzVpn.Lib.Lease

/-!
# Sessions as leases

Each address family of the server is an instance of the lease protocol
(`Lib.Lease`): the pool holds, the reverse map is `rev`, the `clients` map is `owner`,
and the phase of a handler is its stage (`view`, at `ipv4` and `ipv6`).  A step of the server is a
step of both protocols (`sim4`, `sim6`) when it is race free (`RaceFree`), and a tidy
one when it also leaves nothing behind (`TidyStep`).
-/

namespace EzVpn

open Lib Lib.Lease

variable {EndpointId PublicKey : Type}

namespace Phase

/-- From the first allocation to the last insertion into a reverse map. -/
def registering : Phase → Bool
  | allocatingIp6 | responding | drawingSession | insertingClient | insertingIp | insertingIp6 => true
  | _ => false

/-- The `clients` entry may be the handler's own. -/
def standing : Phase → Bool
  | insertingIp | insertingIp6 | serving | removingClient => true
  | _ => false

/-- From the removal of the handler's `clients` entry to the last release. -/
def cleaningUp : Phase → Bool
  | removingIp | removingIp6 | releasingIp | releasingIp6 => true
  | _ => false

/-- The session id has been drawn and not yet been used to clean up. -/
def hasSession : Phase → Bool
  | insertingClient | insertingIp | insertingIp6 | serving | removingClient => true
  | _ => false

end Phase

/-- The stage of a handler in the IPv4 protocol, with the address it was assigned. -/
def Phase.stage4 (ph : Phase) (ip : Option Ipv4Addr) : Stage Ipv4Addr :=
  match ph with
  | .allocatingIp6 | .responding | .drawingSession | .insertingClient => .leased ip
  | .insertingIp => .entered ip
  | .insertingIp6 | .serving | .removingClient => .mapped ip
  | .removingIp => .leaving ip
  | .removingIp6 | .releasingIp => .unmapped ip
  | _ => .out

/-- The stage of a handler in the IPv6 protocol. -/
def Phase.stage6 (ph : Phase) (ip6 : Option Ipv6Addr) : Stage Ipv6Addr :=
  match ph with
  | .responding | .drawingSession | .insertingClient => .leased ip6
  | .insertingIp | .insertingIp6 => .entered ip6
  | .serving | .removingClient => .mapped ip6
  | .removingIp | .removingIp6 => .leaving ip6
  | .releasingIp | .releasingIp6 => .unmapped ip6
  | _ => .out

def Handler.stage4 (h : Handler) : Stage Ipv4Addr := h.phase.stage4 h.assignedIp

def Handler.stage6 (h : Handler) : Stage Ipv6Addr := h.phase.stage6 h.assignedIp6

variable [DecidableEq EndpointId]

namespace VpnServer

variable (s : VpnServer EndpointId PublicKey)

def held4 (k : ClientKey EndpointId) : Option Ipv4Addr := s.ipPool.bind fun p => p.inUse.lookup k

def held6 (k : ClientKey EndpointId) : Option Ipv6Addr := s.ip6Pool.bind fun p => p.inUse.lookup k

variable {s} in
theorem held4_some {p : IpPool EndpointId} (h : s.ipPool = some p) :
    s.held4 = fun k => p.inUse.lookup k := by
  funext k; simp [held4, h]

variable {s} in
theorem held6_some {p : Ip6Pool EndpointId} (h : s.ip6Pool = some p) :
    s.held6 = fun k => p.inUse.lookup k := by
  funext k; simp [held6, h]

/-- The connection that stands for `k` in `clients`. -/
def owner (k : ClientKey EndpointId) : Option ConnId := (s.clients.lookup k).map ClientState.connection

end VpnServer

/-- What the lease protocol sees of an address family. -/
structure Family (EndpointId PublicKey A : Type) where
  held : VpnServer EndpointId PublicKey → ClientKey EndpointId → Option A
  rev : VpnServer EndpointId PublicKey → A → Option (ClientKey EndpointId)
  stage : Handler → Stage A

def ipv4 : Family EndpointId PublicKey Ipv4Addr :=
  ⟨VpnServer.held4, fun s a => s.ipToEndpoint.lookup a, Handler.stage4⟩

def ipv6 : Family EndpointId PublicKey Ipv6Addr :=
  ⟨VpnServer.held6, fun s a => s.ip6ToEndpoint.lookup a, Handler.stage6⟩

def view {A : Type} (f : Family EndpointId PublicKey A) (w : World EndpointId PublicKey) :
    State ConnId (ClientKey EndpointId) A :=
  ⟨f.held w.server, f.rev w.server, w.server.owner, f.stage ∘ w.handlers⟩

variable [DecidableEq PublicKey] (x : Externals EndpointId PublicKey) (peers : ConnId → Peer EndpointId)

/-- Race freedom towards connection `c'`: no allocation of a key while `c'` cleans the
key up, and no cleanup of a key while `c'` registers it. -/
def RaceFreeWith (w : World EndpointId PublicKey) (c c' : ConnId) : Prop :=
  c' ≠ c → (peers c').key x = (peers c).key x →
    ((w.handlers c).phase = .allocatingIp → (w.handlers c').phase.cleaningUp = false) ∧
    ((w.handlers c).phase = .removingClient → w.server.owner ((peers c).key x) = some c →
      (w.handlers c').phase.registering = false)

instance (w : World EndpointId PublicKey) (c c' : ConnId) : Decidable (RaceFreeWith x peers w c c') :=
  inferInstanceAs (Decidable (_ → _ → _ ∧ _))

/-- The session counter does not wrap around in this step. -/
def NoWrap (w : World EndpointId PublicKey) (c : ConnId) : Prop :=
  (w.handlers c).phase = .drawingSession → w.server.nextSessionId.toNat + 1 < 2 ^ 64

instance (w : World EndpointId PublicKey) (c : ConnId) : Decidable (NoWrap w c) :=
  inferInstanceAs (Decidable (_ → _))

def RaceFree (w : World EndpointId PublicKey) (a : ConnId × Io) : Prop :=
  (∀ c', RaceFreeWith x peers w a.1 c') ∧ NoWrap w a.1

/-- Nothing is left behind: the response gets through, and a session that replaces
another has an address of every family the other has one of. -/
def TidyStep (w : World EndpointId PublicKey) (a : ConnId × Io) : Prop :=
  ((w.handlers a.1).phase = .responding → a.2 = .ok) ∧
  ((w.handlers a.1).phase = .insertingClient →
    ∀ st ∈ w.server.clients.lookup ((peers a.1).key x),
      (st.assignedIp ≠ none → (w.handlers a.1).assignedIp ≠ none) ∧
      (st.assignedIp6 ≠ none → (w.handlers a.1).assignedIp6 ≠ none))

instance (w : World EndpointId PublicKey) (a : ConnId × Io) : Decidable (TidyStep x peers w a) :=
  inferInstanceAs (Decidable ((_ → _) ∧ (_ → _)))

/-! ## The session invariant -/

/-- What ties the `clients` map, the session ids and the handlers together. -/
structure SessionInv (w : World EndpointId PublicKey) : Prop where
  /-- an entry was inserted by a handler that stands for it -/
  entry : ∀ k st, w.server.clients.lookup k = some st →
    (peers st.connection).key x = k ∧ (w.handlers st.connection).phase.standing = true ∧
    st.sessionId = (w.handlers st.connection).sessionId ∧
    st.assignedIp = (w.handlers st.connection).assignedIp ∧
    st.assignedIp6 = (w.handlers st.connection).assignedIp6
  fresh : ∀ c, (w.handlers c).phase.hasSession = true →
    (w.handlers c).sessionId < w.server.nextSessionId
  distinct : ∀ c c', (w.handlers c).phase.hasSession = true → (w.handlers c').phase.hasSession = true →
    (w.handlers c).sessionId = (w.handlers c').sessionId → c = c'
  /-- a handler cleans up what it was assigned -/
  flags : ∀ c, (w.handlers c).phase.cleaningUp = true →
    (w.handlers c).releaseIpv4 = (w.handlers c).assignedIp.isSome ∧
    (w.handlers c).releaseIpv6 = (w.handlers c).assignedIp6.isSome
  mutex : ∀ c c', (peers c').key x = (peers c).key x → (w.handlers c).phase.registering = true →
    (w.handlers c').phase.cleaningUp = false
  pool4 : ∀ p, w.server.ipPool = some p → p.Inv
  pool6 : ∀ p, w.server.ip6Pool = some p → p.Inv x.suffix

/-- A plain move neither begins nor ends a registration or a cleanup. -/
theorem Phase.plainMove_same {ph ph' : Phase} (h : ph.plainMove ph' = true) :
    ph'.standing = ph.standing ∧ ph'.hasSession = ph.hasSession ∧ ph'.registering = ph.registering ∧
      ph'.cleaningUp = ph.cleaningUp := by
  unfold plainMove at h
  split at h
  all_goals first
    | exact ⟨rfl, rfl, rfl, rfl⟩
    | cases h

theorem Phase.cleaningUp_of_registering {ph : Phase} (h : ph.registering = true) :
    ph.cleaningUp = false := by
  cases ph <;> first | rfl | cases h

section
variable {x peers} {w : World EndpointId PublicKey} {c : ConnId}

omit [DecidableEq PublicKey] in
/-- A step of `c` that leaves `clients` and the session counter alone. -/
theorem SessionInv.frame (h : SessionInv x peers w) {s' : VpnServer EndpointId PublicKey} {h' : Handler}
    (hclients : s'.clients = w.server.clients) (hnext : s'.nextSessionId = w.server.nextSessionId)
    (hpool4 : ∀ p, s'.ipPool = some p → p.Inv) (hpool6 : ∀ p, s'.ip6Pool = some p → p.Inv x.suffix)
    (hstand : (w.handlers c).phase.standing = true →
      (∀ k st, w.server.clients.lookup k = some st → st.connection ≠ c) ∨
      h'.phase.standing = true ∧ h'.sessionId = (w.handlers c).sessionId ∧
        h'.assignedIp = (w.handlers c).assignedIp ∧ h'.assignedIp6 = (w.handlers c).assignedIp6)
    (hsess : h'.phase.hasSession = true →
      (w.handlers c).phase.hasSession = true ∧ h'.sessionId = (w.handlers c).sessionId)
    (hflags : h'.phase.cleaningUp = true → (w.handlers c).phase.cleaningUp = true ∧
      h'.releaseIpv4 = (w.handlers c).releaseIpv4 ∧ h'.releaseIpv6 = (w.handlers c).releaseIpv6 ∧
      h'.assignedIp = (w.handlers c).assignedIp ∧ h'.assignedIp6 = (w.handlers c).assignedIp6)
    (hreg : h'.phase.registering = true → (w.handlers c).phase.registering = true ∨
      ∀ c', c' ≠ c → (peers c').key x = (peers c).key x → (w.handlers c').phase.cleaningUp = false) :
    SessionInv x peers ⟨s', Function.update w.handlers c h'⟩ := by
  obtain ⟨entry, fresh, distinct, flags, mutex, -, -⟩ := h
  refine ⟨fun k st hk => ?_, fun c₁ h₁ => ?_, fun c₁ c₂ h₁ h₂ he => ?_, fun c₁ h₁ => ?_,
    fun c₁ c₂ hk h₁ => ?_, hpool4, hpool6⟩
  · have := entry k st (by rw [← hclients]; exact hk)
    simp only [Function.update_apply]
    split <;> grind
  · simp only [Function.update_apply, hnext] at h₁ ⊢
    split at h₁ <;> grind
  · simp only [Function.update_apply] at h₁ h₂ he
    grind
  · simp only [Function.update_apply] at h₁ ⊢
    grind
  · simp only [Function.update_apply] at h₁ ⊢
    grind [Phase.cleaningUp_of_registering]

omit [DecidableEq PublicKey] in
/-- An entry with the session id of `c` is the entry of `c`. -/
theorem SessionInv.own_entry (h : SessionInv x peers w) {k : ClientKey EndpointId} {st : ClientState}
    (hk : w.server.clients.lookup k = some st) (hc : (w.handlers c).phase.hasSession = true)
    (hid : st.sessionId = (w.handlers c).sessionId) : st.connection = c := by
  obtain ⟨-, hstand, hst, -⟩ := h.entry k st hk
  refine h.distinct _ _ ?_ hc (hst.symm.trans hid)
  cases hp : (w.handlers st.connection).phase <;> rw [hp] at hstand <;> first | rfl | cases hstand

omit [DecidableEq PublicKey] in
theorem SessionInv.owner_of_lookup (h : SessionInv x peers w) {st : ClientState}
    (hc : (w.handlers c).phase.hasSession = true)
    (hs : w.server.clients.lookup ((peers c).key x) = some st)
    (hid : st.sessionId = (w.handlers c).sessionId) : w.server.owner ((peers c).key x) = some c := by
  simp only [VpnServer.owner, hs, Option.map_some, h.own_entry hs hc hid]

omit [DecidableEq PublicKey] in
/-- The entries of other keys are not those of `c`. -/
theorem SessionInv.connection_ne (h : SessionInv x peers w) {k : ClientKey EndpointId} {st : ClientState}
    (hk : w.server.clients.lookup k = some st) (hne : k ≠ (peers c).key x) : st.connection ≠ c :=
  fun e => hne (by rw [← (h.entry k st hk).1, e])

/-! ### Steps that change `clients` or the session counter -/

omit [DecidableEq PublicKey] in
theorem SessionInv.drawSession (h : SessionInv x peers w) (hp : (w.handlers c).phase = .drawingSession)
    (hwrap : w.server.nextSessionId.toNat + 1 < 2 ^ 64) :
    SessionInv x peers ⟨{ w.server with nextSessionId := w.server.nextSessionId + 1 },
      Function.update w.handlers c
        { w.handlers c with phase := .insertingClient, sessionId := w.server.nextSessionId }⟩ := by
  have hlt : w.server.nextSessionId < w.server.nextSessionId + 1 := by
    rw [UInt64.lt_iff_toNat_lt, UInt64.toNat_add]; simp; omega
  obtain ⟨entry, fresh, distinct, flags, mutex, pool4, pool6⟩ := h
  refine ⟨fun k st hk => ?_, fun c₁ h₁ => ?_, fun c₁ c₂ h₁ h₂ he => ?_, fun c₁ h₁ => ?_,
    fun c₁ c₂ hk h₁ => ?_, pool4, pool6⟩
  · have := entry k st hk
    simp only [Function.update_apply]
    split
    · next hc => rw [hc, hp] at this; simp [Phase.standing] at this
    · exact this
  · simp only [Function.update_apply] at h₁ ⊢
    split at h₁
    · next hc => rw [if_pos hc]; exact hlt
    · next hc => rw [if_neg hc]; exact UInt64.lt_trans (fresh c₁ h₁) hlt
  · -- every session id drawn before is below the counter
    simp only [Function.update_apply] at h₁ h₂ he
    split at h₁ <;> split at h₂
    · next hc₁ hc₂ => rw [hc₁, hc₂]
    · next hc₁ hc₂ =>
      rw [if_pos hc₁, if_neg hc₂] at he
      have := fresh c₂ h₂
      rw [← he] at this
      exact absurd this (UInt64.lt_irrefl _)
    · next hc₁ hc₂ =>
      rw [if_neg hc₁, if_pos hc₂] at he
      have := fresh c₁ h₁
      rw [he] at this
      exact absurd this (UInt64.lt_irrefl _)
    · next hc₁ hc₂ =>
      rw [if_neg hc₁, if_neg hc₂] at he
      exact distinct c₁ c₂ h₁ h₂ he
  · simp only [Function.update_apply] at h₁ ⊢
    split at h₁
    · simp [Phase.cleaningUp] at h₁
    · next hc => rw [if_neg hc]; exact flags c₁ h₁
  · simp only [Function.update_apply] at h₁ ⊢
    grind [Phase.cleaningUp, Phase.registering]

omit [DecidableEq PublicKey] in
theorem SessionInv.insertClient (h : SessionInv x peers w)
    (hp : (w.handlers c).phase = .insertingClient) :
    SessionInv x peers
      ⟨{ w.server with
          clients := w.server.clients.insert ((peers c).key x)
            ⟨(w.handlers c).sessionId, (w.handlers c).assignedIp, (w.handlers c).assignedIp6, c⟩ },
        Function.update w.handlers c { w.handlers c with phase := .insertingIp }⟩ := by
  have hsess : (w.handlers c).phase.hasSession = true := by rw [hp]; rfl
  have hreg : (w.handlers c).phase.registering = true := by rw [hp]; rfl
  refine ⟨fun k st hk => ?_, fun c₁ h₁ => ?_, fun c₁ c₂ h₁ h₂ he => ?_, fun c₁ h₁ => ?_,
    fun c₁ c₂ hk h₁ => ?_, h.pool4, h.pool6⟩
  · simp only [Map.lookup_insert_eq] at hk
    split at hk
    · next hkey =>
      obtain rfl := Option.some.inj hk
      simp [hkey, Phase.standing]
    · next hkey => simpa [h.connection_ne hk hkey] using h.entry k st hk
  all_goals
    obtain ⟨-, fresh, distinct, flags, mutex, -, -⟩ := h
    simp only [Function.update_apply] at *
    grind [Phase.cleaningUp, Phase.registering]

omit [DecidableEq PublicKey] in
theorem SessionInv.removeClient (h : SessionInv x peers w) {state : ClientState}
    (hp : (w.handlers c).phase = .removingClient)
    (hs : w.server.clients.lookup ((peers c).key x) = some state)
    (hid : state.sessionId = (w.handlers c).sessionId)
    (hguard : ∀ c', (peers c').key x = (peers c).key x → (w.handlers c').phase.registering = false) :
    SessionInv x peers
      ⟨{ w.server with clients := w.server.clients.erase ((peers c).key x) },
        Function.update w.handlers c
          { w.handlers c with
            phase := .removingIp
            releaseIpv4 := state.assignedIp.isSome
            releaseIpv6 := state.assignedIp6.isSome }⟩ := by
  have hown := h.entry _ state hs
  rw [h.own_entry hs (by rw [hp]; rfl) hid] at hown
  refine ⟨fun k st hk => ?_, fun c₁ h₁ => ?_, fun c₁ c₂ h₁ h₂ he => ?_, fun c₁ h₁ => ?_,
    fun c₁ c₂ hk h₁ => ?_, h.pool4, h.pool6⟩
  · simp only [Map.lookup_erase_eq] at hk
    split at hk
    · cases hk
    · next hkey => simpa [h.connection_ne hk hkey] using h.entry k st hk
  all_goals
    obtain ⟨-, fresh, distinct, flags, mutex, -, -⟩ := h
    simp only [Function.update_apply] at *
    grind [Phase.cleaningUp, Phase.registering, Phase.hasSession]

/-! ### What race freedom rules out -/

omit [DecidableEq PublicKey] in
theorem not_cleaning_of_allocating {io : Io} (hg : RaceFree x peers w (c, io))
    (hp : (w.handlers c).phase = .allocatingIp) (c' : ConnId)
    (hk : (peers c').key x = (peers c).key x) : (w.handlers c').phase.cleaningUp = false := by
  by_cases hne : c' = c
  · rw [hne, hp]; rfl
  · exact (hg.1 c' hne hk).1 hp

omit [DecidableEq PublicKey] in
theorem not_registering_of_removing {io : Io} (hg : RaceFree x peers w (c, io))
    (hp : (w.handlers c).phase = .removingClient) (ho : w.server.owner ((peers c).key x) = some c)
    (c' : ConnId) (hk : (peers c').key x = (peers c).key x) :
    (w.handlers c').phase.registering = false := by
  by_cases hne : c' = c
  · rw [hne, hp]; rfl
  · exact (hg.1 c' hne hk).2 hp ho

end

/-- **Every race-free step keeps the session invariant.** -/
theorem sessionInv_step (w : World EndpointId PublicKey) (a : ConnId × Io)
    (h : SessionInv x peers w) (hg : RaceFree x peers w a) :
    SessionInv x peers (step x peers w a) := by
  obtain ⟨c, io⟩ := a
  obtain ⟨s', h', heq, ht⟩ := step_trans x c io peers w
  rw [heq]
  cases ht with
  | plain hmove _ _ _ =>
    obtain ⟨h1, h2, h3, h4⟩ := Phase.plainMove_same hmove
    exact h.frame rfl rfl h.pool4 h.pool6 (fun hs => Or.inr ⟨h1.trans hs, rfl, rfl, rfl⟩)
      (fun hs => ⟨h2.symm.trans hs, rfl⟩) (fun hc => ⟨h4.symm.trans hc, rfl, rfl, rfl, rfl⟩)
      (fun hr => Or.inl (h3.symm.trans hr))
  | @allocIp pool hp hs =>
    have hpool := IpPool.inv_allocate (h.pool4 pool hs) (peers c).remoteId ((peers c).deviceId x)
    refine h.frame rfl rfl (by rintro p ⟨⟩; exact hpool) h.pool6 ?_ ?_ ?_ ?_ <;>
      simp [hp, Phase.standing, Phase.hasSession, Phase.registering, Phase.cleaningUp]
    exact fun c' _ hk => not_cleaning_of_allocating hg hp c' hk
  | @exhaustedIp pool r hp hs hnone =>
    have hpool := IpPool.inv_allocate (h.pool4 pool hs) (peers c).remoteId ((peers c).deviceId x)
    refine h.frame rfl rfl (by rintro p ⟨⟩; exact hpool) h.pool6 ?_ ?_ ?_ ?_ <;>
      simp [hp, Phase.standing, Phase.hasSession, Phase.registering, Phase.cleaningUp]
  | noIp hp hs =>
    refine h.frame rfl rfl h.pool4 h.pool6 ?_ ?_ ?_ ?_ <;>
      simp [hp, Phase.standing, Phase.hasSession, Phase.registering, Phase.cleaningUp]
    exact fun c' _ hk => not_cleaning_of_allocating hg hp c' hk
  | @allocIp6 pool hp hs =>
    have hpool := Ip6Pool.inv_allocate (h.pool6 pool hs) (peers c).remoteId ((peers c).deviceId x)
    refine h.frame rfl rfl h.pool4 (by rintro p ⟨⟩; exact hpool.1) ?_ ?_ ?_ ?_ <;>
      simp [hp, Phase.standing, Phase.hasSession, Phase.registering, Phase.cleaningUp]
  | @exhaustedIp6 pool ip6 r hp hs hnone hno4 _ =>
    have hpool := Ip6Pool.inv_allocate (h.pool6 pool hs) (peers c).remoteId ((peers c).deviceId x)
    refine h.frame rfl rfl h.pool4 (by rintro p ⟨⟩; exact hpool.1) ?_ ?_ ?_ ?_ <;>
      simp [hp, Phase.standing, Phase.hasSession, Phase.registering, Phase.cleaningUp]
  | noIp6 hp _ | noAddress hp _ _ | responseFailed hp _ | insertIp hp _ | insertNoIp hp _
  | insertIp6 hp _ | insertNoIp6 hp _ | removeIp hp _ | removeNoIp hp _
  | removeIp6 hp _ | removeNoIp6 hp _ | releaseNoIp hp _ | releaseNoIp6 hp _ =>
    refine h.frame rfl rfl h.pool4 h.pool6 ?_ ?_ ?_ ?_ <;>
      simp [hp, Phase.standing, Phase.hasSession, Phase.registering, Phase.cleaningUp]
  | releaseIp hp hr =>
    refine h.frame rfl rfl (fun p hp' => ?_) h.pool6 ?_ ?_ ?_ ?_
    · obtain ⟨pool, hpool, rfl⟩ := Option.map_eq_some_iff.1 hp'
      exact IpPool.inv_release (h.pool4 pool hpool) _ _
    all_goals simp [hp, Phase.standing, Phase.hasSession, Phase.registering, Phase.cleaningUp]
  | releaseIp6 hp hr =>
    refine h.frame rfl rfl h.pool4 (fun p hp' => ?_) ?_ ?_ ?_ ?_
    · obtain ⟨pool, hpool, rfl⟩ := Option.map_eq_some_iff.1 hp'
      exact (Ip6Pool.inv_release (h.pool6 pool hpool) _ _).1
    all_goals simp [hp, Phase.standing, Phase.hasSession, Phase.registering, Phase.cleaningUp]
  | replaced hp hs =>
    refine h.frame rfl rfl h.pool4 h.pool6 (fun _ => Or.inl fun k st hk hc => ?_) ?_ ?_ ?_
    · obtain ⟨hkey, -, hid, -⟩ := h.entry k st hk
      rw [hc] at hkey hid
      exact hs st (by rw [hkey]; exact hk) hid
    all_goals simp [Phase.hasSession, Phase.registering, Phase.cleaningUp]
  | drawSession hp => exact h.drawSession hp (hg.2 hp)
  | insertClient hp => exact h.insertClient hp
  | removeClient hp hs hid =>
    exact h.removeClient hp hs hid
      (not_registering_of_removing hg hp (h.owner_of_lookup (by rw [hp]; rfl) hs hid))

/-! ## The two simulations -/

theorem Phase.stage_plain {ph ph' : Phase} (hm : ph.plainMove ph' = true) (ip : Option Ipv4Addr)
    (ip6 : Option Ipv6Addr) : ph'.stage4 ip = ph.stage4 ip ∧ ph'.stage6 ip6 = ph.stage6 ip6 := by
  unfold Phase.plainMove at hm
  split at hm
  all_goals first
    | exact ⟨rfl, rfl⟩
    | cases hm

/-- The lease of a handler that stands for its entry is the address it was assigned. -/
theorem Phase.lease_stage {ph : Phase} (hs : ph.standing = true) (ip : Option Ipv4Addr)
    (ip6 : Option Ipv6Addr) : (ph.stage4 ip).lease = ip ∧ (ph.stage6 ip6).lease = ip6 := by
  cases ph <;> first | exact ⟨rfl, rfl⟩ | cases hs

/-- A handler that does not clean up does not do so in either protocol. -/
theorem Handler.not_cleaning {h : Handler} (hp : h.phase.cleaningUp = false) :
    ¬ h.stage4.Cleaning ∧ ¬ h.stage6.Cleaning := by
  unfold Handler.stage4 Handler.stage6
  cases hph : h.phase <;> rw [hph] at hp <;> first | exact ⟨id, id⟩ | cases hp

theorem Handler.not_registering {h : Handler} (hp : h.phase.registering = false) :
    ¬ h.stage4.Registering ∧ ¬ h.stage6.Registering := by
  unfold Handler.stage4 Handler.stage6
  cases hph : h.phase <;> rw [hph] at hp <;> first | exact ⟨id, id⟩ | cases hp

section
variable {x peers} {w : World EndpointId PublicKey} {c : ConnId} {io : Io}

omit [DecidableEq PublicKey] in
theorem SessionInv.not_owner (h : SessionInv x peers w)
    (hs : ∀ st, w.server.clients.lookup ((peers c).key x) = some st →
      st.sessionId ≠ (w.handlers c).sessionId) : w.server.owner ((peers c).key x) ≠ some c := by
  intro ho
  obtain ⟨st, hst, rfl⟩ := Option.map_eq_some_iff.1 ho
  exact hs st hst (h.entry _ st hst).2.2.1

omit [DecidableEq PublicKey] in
theorem owner_insert (s : VpnServer EndpointId PublicKey) (k : ClientKey EndpointId) (st : ClientState) :
    ({ s with clients := s.clients.insert k st } : VpnServer EndpointId PublicKey).owner =
      Function.update s.owner k (some st.connection) := by
  funext k'
  simp only [VpnServer.owner, Map.lookup_insert_eq, Function.update_apply]
  split <;> rfl

omit [DecidableEq PublicKey] in
theorem owner_erase (s : VpnServer EndpointId PublicKey) (k : ClientKey EndpointId) :
    ({ s with clients := s.clients.erase k } : VpnServer EndpointId PublicKey).owner =
      Function.update s.owner k none := by
  funext k'
  simp only [VpnServer.owner, Map.lookup_erase_eq, Function.update_apply]
  split <;> rfl

omit [DecidableEq PublicKey] in
/-- A step of `c`, seen by the protocol: what it does to each component. -/
theorem Step.of_eq {tidy : Prop} {A : Type} [DecidableEq A] {f : Family EndpointId PublicKey A}
    {s' : VpnServer EndpointId PublicKey} {h' : Handler} {v : State ConnId (ClientKey EndpointId) A}
    (hs : Lease.Step (fun c => (peers c).key x) tidy c (view f w) v) (hheld : f.held s' = v.held)
    (hrev : f.rev s' = v.rev) (hown : s'.owner = v.owner)
    (hst : v.stage = Function.update (view f w).stage c (f.stage h')) :
    Lease.Step (fun c => (peers c).key x) tidy c (view f w)
      (view f ⟨s', Function.update w.handlers c h'⟩) := by
  have : view f ⟨s', Function.update w.handlers c h'⟩ = v := by
    obtain ⟨held, rev, owner, stage⟩ := v
    simp only at hheld hrev hown hst
    subst hst hheld hrev hown
    simp only [view, Function.comp_update]
  rw [this]
  exact hs

omit [DecidableEq PublicKey] in
/-- A step that the protocol does not see. -/
theorem Step.of_stutter {tidy : Prop} {A : Type} [DecidableEq A] {f : Family EndpointId PublicKey A}
    {s' : VpnServer EndpointId PublicKey} {h' : Handler} (hheld : f.held s' = f.held w.server)
    (hrev : f.rev s' = f.rev w.server) (hown : s'.clients = w.server.clients)
    (hst : f.stage h' = f.stage (w.handlers c)) :
    Lease.Step (fun c => (peers c).key x) tidy c (view f w)
      (view f ⟨s', Function.update w.handlers c h'⟩) := by
  refine Step.of_eq .stutter hheld hrev (by unfold VpnServer.owner; rw [hown]; rfl) ?_
  rw [hst]
  exact (Function.update_eq_self c (view f w).stage).symm

omit [DecidableEq PublicKey] in
theorem held4_release (s : VpnServer EndpointId PublicKey) (e : EndpointId) (d : UInt64) :
    ({ s with ipPool := s.ipPool.map fun pool => pool.release e d } : VpnServer EndpointId PublicKey).held4 =
      Function.update s.held4 (e, d) none := by
  cases hs : s.ipPool with
  | none => funext k; simp [VpnServer.held4, hs, Function.update_apply]
  | some pool => rw [VpnServer.held4_some hs, VpnServer.held4_some rfl, IpPool.release_held]

omit [DecidableEq PublicKey] in
theorem held6_release (s : VpnServer EndpointId PublicKey) (e : EndpointId) (d : UInt64) :
    ({ s with ip6Pool := s.ip6Pool.map fun pool => pool.release e d } : VpnServer EndpointId PublicKey).held6 =
      Function.update s.held6 (e, d) none := by
  cases hs : s.ip6Pool with
  | none => funext k; simp [VpnServer.held6, hs, Function.update_apply]
  | some pool => rw [VpnServer.held6_some hs, VpnServer.held6_some rfl, Ip6Pool.release_held]

/-- **A race-free step of the server is a step of the IPv4 protocol.** -/
theorem sim4 (tidy : Prop) (h : SessionInv x peers w) (hl : Lease.Inv (fun c => (peers c).key x) (view ipv4 w))
    (hg : RaceFree x peers w (c, io)) (htidy : tidy → TidyStep x peers w (c, io)) :
    Lease.Step (fun c => (peers c).key x) tidy c (view ipv4 w) (view ipv4 (step x peers w (c, io))) := by
  obtain ⟨s', h', heq, ht⟩ := step_trans x c io peers w
  rw [heq]
  have stage : ∀ {ph}, (w.handlers c).phase = ph →
      (view ipv4 w).stage c = ph.stage4 (w.handlers c).assignedIp := by rintro ph rfl; rfl
  have clear : (w.handlers c).phase = .allocatingIp → ∀ c', (peers c').key x = (peers c).key x →
      ¬ ((view ipv4 w).stage c').Cleaning := fun hp c' hk =>
    (Handler.not_cleaning (not_cleaning_of_allocating hg hp c' hk)).1
  cases ht with
  | plain hmove _ _ _ => exact Step.of_stutter rfl rfl rfl (Phase.stage_plain hmove _ none).1
  | @allocIp pool hp hs =>
    have hacq := IpPool.allocate_acquire (h.pool4 pool hs) (peers c).remoteId ((peers c).deviceId x)
    rw [← VpnServer.held4_some hs] at hacq
    exact Step.of_eq (.acquire (stage hp) hacq (clear hp)) rfl rfl rfl rfl
  | @exhaustedIp pool r hp hs hnone =>
    have hacq := IpPool.allocate_acquire (h.pool4 pool hs) (peers c).remoteId ((peers c).deviceId x)
    rw [hnone, ← VpnServer.held4_some hs] at hacq
    exact Step.of_stutter hacq.held_of_none rfl rfl (stage hp).symm
  | noIp hp hs =>
    have hnone : (view ipv4 w).held ((peers c).key x) = none := by
      simp [view, ipv4, VpnServer.held4, hs]
    exact Step.of_eq (.acquire (stage hp) (.none hnone) (clear hp)) rfl rfl rfl rfl
  | allocIp6 hp _ | noIp6 hp _ | drawSession hp | insertIp6 hp _ | insertNoIp6 hp _ | removeIp6 hp _
  | removeNoIp6 hp _ | releaseIp6 hp _ | releaseNoIp6 hp _ =>
    exact Step.of_stutter rfl rfl rfl (stage hp).symm
  | exhaustedIp6 hp hs hnone hno4 _ =>
    refine Step.of_eq (.abort (stage hp) fun _ => ?_) rfl rfl rfl rfl
    -- without an IPv4 pool nothing is held, so nothing was leased
    rcases hno4 with hno4 | hno4
    · rw [Option.eq_none_iff_forall_ne_some]
      intro a ha
      have := hl.lease c a (Or.inl (by rw [stage hp, ha]; rfl))
      simp [view, ipv4, VpnServer.held4, hno4] at this
    · exact hno4
  | noAddress hp _ hno4 => exact Step.of_eq (.abort (stage hp) fun _ => hno4) rfl rfl rfl rfl
  | responseFailed hp hio =>
    refine Step.of_eq (.abort (stage hp) fun ht => ?_) rfl rfl rfl rfl
    have := (htidy ht).1 hp
    rw [hio] at this
    cases this
  | insertClient hp =>
    refine Step.of_eq (.enter (stage hp) fun ht c' ho hlease => ?_) rfl rfl (owner_insert _ _ _) rfl
    obtain ⟨st, hst, rfl⟩ := Option.map_eq_some_iff.1 ho
    obtain ⟨-, hstand, -, hip, -⟩ := h.entry _ st hst
    refine ((htidy ht).2 hp st hst).1 ?_
    rw [hip, ← (Phase.lease_stage hstand (w.handlers st.connection).assignedIp none).1]
    exact hlease
  | insertIp hp hip =>
    refine Step.of_eq (.map (stage hp)) rfl ?_ rfl rfl
    simp only [hip]
    exact mapRev_insert _ _ _
  | insertNoIp hp hip =>
    refine Step.of_eq (.map (stage hp)) rfl ?_ rfl rfl
    simp only [hip, mapRev]
    rfl
  | removeClient hp hs hid =>
    have ho := h.owner_of_lookup (by rw [hp]; rfl) hs hid
    refine Step.of_eq (.remove (stage hp) ho fun c' hk => ?_) rfl rfl (owner_erase _ _) rfl
    exact (Handler.not_registering (not_registering_of_removing hg hp ho c' hk)).1
  | replaced hp hs => exact Step.of_eq (.quit (stage hp) (h.not_owner hs)) rfl rfl rfl rfl
  | removeIp hp hip =>
    refine Step.of_eq (.unmap (stage hp)) rfl ?_ rfl rfl
    simp only [hip]
    exact unmapRev_removeIf _ _ _
  | removeNoIp hp hip =>
    refine Step.of_eq (.unmap (stage hp)) rfl ?_ rfl rfl
    simp only [hip, unmapRev]
    rfl
  | releaseIp hp hr =>
    have hflag := (h.flags c (by rw [hp]; rfl)).1
    obtain ⟨ip4, hip⟩ := Option.isSome_iff_exists.1 (hflag.symm.trans hr)
    refine Step.of_eq (.release (stage hp)) ?_ rfl rfl rfl
    simp only [hip]
    exact held4_release _ _ _
  | releaseNoIp hp hr =>
    have hflag := (h.flags c (by rw [hp]; rfl)).1
    have hip := Option.not_isSome_iff_eq_none.1 (by rw [← hflag, hr]; simp)
    refine Step.of_eq (.release (stage hp)) ?_ rfl rfl rfl
    simp only [hip]
    rfl

/-- **A race-free step of the server is a step of the IPv6 protocol.** -/
theorem sim6 (tidy : Prop) (h : SessionInv x peers w) (hg : RaceFree x peers w (c, io))
    (htidy : tidy → TidyStep x peers w (c, io)) :
    Lease.Step (fun c => (peers c).key x) tidy c (view ipv6 w) (view ipv6 (step x peers w (c, io))) := by
  obtain ⟨s', h', heq, ht⟩ := step_trans x c io peers w
  rw [heq]
  have stage : ∀ {ph}, (w.handlers c).phase = ph →
      (view ipv6 w).stage c = ph.stage6 (w.handlers c).assignedIp6 := by rintro ph rfl; rfl
  -- the second allocation is made while the handler is registering already
  have clear : (w.handlers c).phase = .allocatingIp6 → ∀ c', (peers c').key x = (peers c).key x →
      ¬ ((view ipv6 w).stage c').Cleaning := fun hp c' hk =>
    (Handler.not_cleaning (h.mutex c c' hk (by rw [hp]; rfl))).2
  cases ht with
  | plain hmove _ _ _ => exact Step.of_stutter rfl rfl rfl (Phase.stage_plain hmove none _).2
  | allocIp hp _ | exhaustedIp hp _ _ | noIp hp _ | noAddress hp _ _ | drawSession hp | insertIp hp _
  | insertNoIp hp _ | removeIp hp _ | removeNoIp hp _ | releaseIp hp _ | releaseNoIp hp _ =>
    exact Step.of_stutter rfl rfl rfl (stage hp).symm
  | @allocIp6 pool hp hs =>
    have hacq := Ip6Pool.allocate_acquire (h.pool6 pool hs) (peers c).remoteId ((peers c).deviceId x)
    rw [← VpnServer.held6_some hs] at hacq
    exact Step.of_eq (.acquire (stage hp) hacq (clear hp)) rfl rfl rfl rfl
  | @exhaustedIp6 pool ip6 r hp hs hnone hno4 _ =>
    have hacq := Ip6Pool.allocate_acquire (h.pool6 pool hs) (peers c).remoteId ((peers c).deviceId x)
    rw [hnone, ← VpnServer.held6_some hs] at hacq
    exact Step.of_stutter hacq.held_of_none rfl rfl (stage hp).symm
  | noIp6 hp hs =>
    have hnone : (view ipv6 w).held ((peers c).key x) = none := by
      simp [view, ipv6, VpnServer.held6, hs]
    exact Step.of_eq (.acquire (stage hp) (.none hnone) (clear hp)) rfl rfl rfl rfl
  | responseFailed hp hio =>
    refine Step.of_eq (.abort (stage hp) fun ht => ?_) rfl rfl rfl rfl
    have := (htidy ht).1 hp
    rw [hio] at this
    cases this
  | insertClient hp =>
    refine Step.of_eq (.enter (stage hp) fun ht c' ho hlease => ?_) rfl rfl (owner_insert _ _ _) rfl
    obtain ⟨st, hst, rfl⟩ := Option.map_eq_some_iff.1 ho
    obtain ⟨-, hstand, -, -, hip⟩ := h.entry _ st hst
    refine ((htidy ht).2 hp st hst).2 ?_
    rw [hip, ← (Phase.lease_stage hstand none (w.handlers st.connection).assignedIp6).2]
    exact hlease
  | insertIp6 hp hip =>
    refine Step.of_eq (.map (stage hp)) rfl ?_ rfl rfl
    simp only [hip]
    exact mapRev_insert _ _ _
  | insertNoIp6 hp hip =>
    refine Step.of_eq (.map (stage hp)) rfl ?_ rfl rfl
    simp only [hip, mapRev]
    rfl
  | removeClient hp hs hid =>
    have ho := h.owner_of_lookup (by rw [hp]; rfl) hs hid
    refine Step.of_eq (.remove (stage hp) ho fun c' hk => ?_) rfl rfl (owner_erase _ _) rfl
    exact (Handler.not_registering (not_registering_of_removing hg hp ho c' hk)).2
  | replaced hp hs => exact Step.of_eq (.quit (stage hp) (h.not_owner hs)) rfl rfl rfl rfl
  | removeIp6 hp hip =>
    refine Step.of_eq (.unmap (stage hp)) rfl ?_ rfl rfl
    simp only [hip]
    exact unmapRev_removeIf _ _ _
  | removeNoIp6 hp hip =>
    refine Step.of_eq (.unmap (stage hp)) rfl ?_ rfl rfl
    simp only [hip, unmapRev]
    rfl
  | releaseIp6 hp hr =>
    have hflag := (h.flags c (by rw [hp]; rfl)).2
    obtain ⟨ip6, hip⟩ := Option.isSome_iff_exists.1 (hflag.symm.trans hr)
    refine Step.of_eq (.release (stage hp)) ?_ rfl rfl rfl
    simp only [hip]
    exact held6_release _ _ _
  | releaseNoIp6 hp hr =>
    have hflag := (h.flags c (by rw [hp]; rfl)).2
    have hip := Option.not_isSome_iff_eq_none.1 (by rw [← hflag, hr]; simp)
    refine Step.of_eq (.release (stage hp)) ?_ rfl rfl rfl
    simp only [hip]
    rfl

end

end EzVpn
