import EzVpn.Server.Handler

/-!
# What a step of a handler can do

`Trans` lists the transitions of a connection handler with everything known when each is
taken; `step_trans` says that a step of the server is one of them.  The invariants of the
server are proved by cases on it and never unfold `handlerStep`.
-/

namespace EzVpn

open Lib

variable {EndpointId PublicKey : Type} [DecidableEq EndpointId] [DecidableEq PublicKey]

/-- The handshake decodes and its credential verifies. -/
def Peer.authenticates (x : Externals EndpointId PublicKey) (config : VpnServerConfig PublicKey)
    (p : Peer EndpointId) : Bool :=
  match VpnHandshake.decode x p.handshakeData with
  | .ok handshake => verifyClientAuth x config handshake.auth p.remoteId
  | .error _ => false

/-- Moves that touch no pool, no map and no session id. -/
def Phase.plainMove : Phase → Phase → Bool
  | incoming, acceptingStream | incoming, done => true
  | acceptingStream, readingHandshake | acceptingStream, done => true
  | readingHandshake, counting | readingHandshake, rejectingAuth | readingHandshake, done => true
  | rejectingAuth, done => true
  | counting, comparing _ => true
  | comparing _, uncounting | comparing _, allocatingIp => true
  | uncounting, rejectingFull => true
  | rejectingFull, done => true
  | responding, drawingSession => true
  | serving, removingClient => true
  | leaving, done | done, done => true
  | _, _ => false

/-- What a move does to the connection counter. -/
def Phase.countChange : Phase → Int
  | counting => 1
  | uncounting | leaving => -1
  | _ => 0

/-- A transition of the handler of connection `c`, from `(s, h)`. -/
inductive Trans (x : Externals EndpointId PublicKey) (c : ConnId) (p : Peer EndpointId) (io : Io)
    (s : VpnServer EndpointId PublicKey) (h : Handler) : VpnServer EndpointId PublicKey → Handler → Prop
  | plain {n : Int} {ph : Phase} {r : Except VpnError Unit} (hmove : h.phase.plainMove ph = true)
      (hauth : ph = .counting → p.authenticates x s.config = true)
      (hcount : n = s.activeConnections + h.phase.countChange)
      (hres : ph = .done → (∃ e, r = .error e) ∨ (h.phase = .leaving ∨ h.phase = .done) ∧ r = h.result) :
      Trans x c p io s h { s with activeConnections := n } { h with phase := ph, result := r }
  | allocIp {pool : IpPool EndpointId} (hp : h.phase = .allocatingIp) (hs : s.ipPool = some pool) :
      Trans x c p io s h { s with ipPool := some (pool.allocate p.remoteId (p.deviceId x)).2 }
        { h with phase := .allocatingIp6, assignedIp := (pool.allocate p.remoteId (p.deviceId x)).1 }
  | exhaustedIp {pool : IpPool EndpointId} {r : Except VpnError Unit} (hp : h.phase = .allocatingIp)
      (hs : s.ipPool = some pool) (hnone : (pool.allocate p.remoteId (p.deviceId x)).1 = none) :
      Trans x c p io s h { s with ipPool := some (pool.allocate p.remoteId (p.deviceId x)).2 }
        { h with phase := .leaving, result := r }
  | noIp (hp : h.phase = .allocatingIp) (hs : s.ipPool = none) :
      Trans x c p io s h s { h with phase := .allocatingIp6, assignedIp := none }
  | allocIp6 {pool : Ip6Pool EndpointId} (hp : h.phase = .allocatingIp6) (hs : s.ip6Pool = some pool) :
      Trans x c p io s h { s with ip6Pool := some (pool.allocate x.suffix p.remoteId (p.deviceId x)).2 }
        { h with
          phase := .responding
          assignedIp6 := (pool.allocate x.suffix p.remoteId (p.deviceId x)).1 }
  | exhaustedIp6 {pool : Ip6Pool EndpointId} {ip6 : Option Ipv6Addr} {r : Except VpnError Unit}
      (hp : h.phase = .allocatingIp6) (hs : s.ip6Pool = some pool)
      (hnone : (pool.allocate x.suffix p.remoteId (p.deviceId x)).1 = none)
      (hno4 : s.ipPool = none ∨ h.assignedIp = none) (hip6 : ip6 = none ∨ ip6 = h.assignedIp6) :
      Trans x c p io s h { s with ip6Pool := some (pool.allocate x.suffix p.remoteId (p.deviceId x)).2 }
        { h with phase := .leaving, assignedIp6 := ip6, result := r }
  | noIp6 (hp : h.phase = .allocatingIp6) (hs : s.ip6Pool = none) :
      Trans x c p io s h s { h with phase := .responding, assignedIp6 := none }
  | noAddress {r : Except VpnError Unit} (hp : h.phase = .allocatingIp6) (hs : s.ip6Pool = none)
      (hno4 : h.assignedIp = none) :
      Trans x c p io s h s { h with phase := .leaving, assignedIp6 := none, result := r }
  | responseFailed {e : VpnError} (hp : h.phase = .responding) (hio : io = .err e) :
      Trans x c p io s h s { h with phase := .leaving, result := .error e }
  | drawSession (hp : h.phase = .drawingSession) :
      Trans x c p io s h { s with nextSessionId := s.nextSessionId + 1 }
        { h with phase := .insertingClient, sessionId := s.nextSessionId }
  | insertClient (hp : h.phase = .insertingClient) :
      Trans x c p io s h
        { s with clients := s.clients.insert (p.key x) ⟨h.sessionId, h.assignedIp, h.assignedIp6, c⟩ }
        { h with phase := .insertingIp }
  | insertIp {ip4 : Ipv4Addr} (hp : h.phase = .insertingIp) (hip : h.assignedIp = some ip4) :
      Trans x c p io s h { s with ipToEndpoint := s.ipToEndpoint.insert ip4 (p.key x) }
        { h with phase := .insertingIp6 }
  | insertNoIp (hp : h.phase = .insertingIp) (hip : h.assignedIp = none) :
      Trans x c p io s h s { h with phase := .insertingIp6 }
  | insertIp6 {ip6 : Ipv6Addr} (hp : h.phase = .insertingIp6) (hip : h.assignedIp6 = some ip6) :
      Trans x c p io s h { s with ip6ToEndpoint := s.ip6ToEndpoint.insert ip6 (p.key x) }
        { h with phase := .serving }
  | insertNoIp6 (hp : h.phase = .insertingIp6) (hip : h.assignedIp6 = none) :
      Trans x c p io s h s { h with phase := .serving }
  | removeClient {state : ClientState} (hp : h.phase = .removingClient)
      (hs : s.clients.lookup (p.key x) = some state) (hid : state.sessionId = h.sessionId) :
      Trans x c p io s h { s with clients := s.clients.erase (p.key x) }
        { h with
          phase := .removingIp
          releaseIpv4 := state.assignedIp.isSome
          releaseIpv6 := state.assignedIp6.isSome }
  | replaced (hp : h.phase = .removingClient)
      (hs : ∀ state, s.clients.lookup (p.key x) = some state → state.sessionId ≠ h.sessionId) :
      Trans x c p io s h s { h with phase := .leaving }
  | removeIp {ip4 : Ipv4Addr} (hp : h.phase = .removingIp) (hip : h.assignedIp = some ip4) :
      Trans x c p io s h
        { s with ipToEndpoint := (s.ipToEndpoint.removeIf ip4 fun owner => owner = p.key x).2 }
        { h with phase := .removingIp6 }
  | removeNoIp (hp : h.phase = .removingIp) (hip : h.assignedIp = none) :
      Trans x c p io s h s { h with phase := .removingIp6 }
  | removeIp6 {ip6 : Ipv6Addr} (hp : h.phase = .removingIp6) (hip : h.assignedIp6 = some ip6) :
      Trans x c p io s h
        { s with ip6ToEndpoint := (s.ip6ToEndpoint.removeIf ip6 fun owner => owner = p.key x).2 }
        { h with phase := .releasingIp }
  | removeNoIp6 (hp : h.phase = .removingIp6) (hip : h.assignedIp6 = none) :
      Trans x c p io s h s { h with phase := .releasingIp }
  | releaseIp (hp : h.phase = .releasingIp) (hr : h.releaseIpv4 = true) :
      Trans x c p io s h
        { s with ipPool := s.ipPool.map fun pool => pool.release p.remoteId (p.deviceId x) }
        { h with phase := .releasingIp6 }
  | releaseNoIp (hp : h.phase = .releasingIp) (hr : h.releaseIpv4 = false) :
      Trans x c p io s h s { h with phase := .releasingIp6 }
  | releaseIp6 (hp : h.phase = .releasingIp6) (hr : h.releaseIpv6 = true) :
      Trans x c p io s h
        { s with ip6Pool := s.ip6Pool.map fun pool => pool.release p.remoteId (p.deviceId x) }
        { h with phase := .leaving }
  | releaseNoIp6 (hp : h.phase = .releasingIp6) (hr : h.releaseIpv6 = false) :
      Trans x c p io s h s { h with phase := .leaving }

section
variable (x : Externals EndpointId PublicKey) (c : ConnId) (p : Peer EndpointId) (io : Io)
  (s : VpnServer EndpointId PublicKey) (h : Handler)

/-- A move that leaves the server as it is and does not return. -/
theorem Trans.quiet {ph₀ : Phase} (hp : h.phase = ph₀) (ph : Phase) (r : Except VpnError Unit)
    (hmove : ph₀.plainMove ph = true ∧ ph₀.countChange = 0 ∧ ph ≠ .done)
    (hauth : ph = .counting → p.authenticates x s.config = true) :
    Trans x c p io s h s { h with phase := ph, result := r } := by
  subst hp
  exact .plain (n := s.activeConnections) hmove.1 hauth (by rw [hmove.2.1, Int.add_zero])
    fun e => absurd e hmove.2.2

/-- An early return with an error. -/
theorem Trans.returnErr {ph₀ : Phase} (hp : h.phase = ph₀) (e : VpnError)
    (hmove : ph₀.plainMove .done = true ∧ ph₀.countChange = 0) :
    Trans x c p io s h s (h.return (.error e)) := by
  subst hp
  exact .plain (n := s.activeConnections) hmove.1 (fun e => by cases e)
    (by rw [hmove.2, Int.add_zero]) fun _ => Or.inl ⟨e, rfl⟩

theorem readHandshake_eq : readHandshake x s.config p h =
    match VpnHandshake.decode x p.handshakeData with
    | .error e => { h with phase := .done, result := .error e }
    | .ok _ => { h with phase := if p.authenticates x s.config then .counting else .rejectingAuth } := by
  unfold readHandshake Peer.authenticates
  cases VpnHandshake.decode x p.handshakeData with
  | error e => rfl
  | ok handshake => simp only []; split <;> rfl

/-- **Every step is a transition.** -/
theorem handlerStep_trans :
    Trans x c p io s h (handlerStep x c p io s h).1 (handlerStep x c p io s h).2 := by
  cases hp : h.phase with
  | incoming =>
    simp only [handlerStep, hp]
    cases io with
    | ok => exact .quiet x c p _ s h hp .acceptingStream h.result (by decide) (fun e => by cases e)
    | err e => exact .returnErr x c p _ s h hp e (by decide)
  | acceptingStream =>
    simp only [handlerStep, hp]
    cases io with
    | ok => exact .quiet x c p _ s h hp .readingHandshake h.result (by decide) (fun e => by cases e)
    | err e => exact .returnErr x c p _ s h hp e (by decide)
  | readingHandshake =>
    simp only [handlerStep, hp]
    cases io with
    | err e => exact .returnErr x c p _ s h hp e (by decide)
    | ok =>
      simp only [Io.andThen, readHandshake_eq]
      cases VpnHandshake.decode x p.handshakeData with
      | error e => exact .returnErr x c p _ s h hp e (by decide)
      | ok handshake =>
        cases hauth : p.authenticates x s.config with
        | true => exact .quiet x c p _ s h hp .counting h.result (by decide) (fun _ => hauth)
        | false => exact .quiet x c p _ s h hp .rejectingAuth h.result (by decide) (fun e => by cases e)
  | rejectingAuth =>
    simp only [handlerStep, hp]
    cases io <;> exact .returnErr x c p _ s h hp _ (by decide)
  | counting =>
    simp only [handlerStep, hp]
    exact .plain (r := h.result) (by rw [hp]; rfl) (fun e => by cases e) (by rw [hp]; rfl)
      (fun e => by cases e)
  | comparing prevCount =>
    simp only [handlerStep, hp]
    split
    · exact .quiet x c p io s h hp .uncounting h.result ⟨rfl, rfl, by decide⟩ (fun e => by cases e)
    · exact .quiet x c p io s h hp .allocatingIp h.result ⟨rfl, rfl, by decide⟩ (fun e => by cases e)
  | uncounting =>
    simp only [handlerStep, hp]
    exact .plain (r := h.result) (by rw [hp]; rfl) (fun e => by cases e) (by rw [hp]; rfl)
      (fun e => by cases e)
  | rejectingFull =>
    simp only [handlerStep, hp]
    cases io <;> exact .returnErr x c p _ s h hp _ (by decide)
  | allocatingIp =>
    simp only [handlerStep, hp]
    cases hs : s.ipPool with
    | none => exact Trans.noIp hp hs
    | some pool =>
      simp only []
      split
      · next hfull =>
        rw [Bool.and_eq_true, Option.isNone_iff_eq_none] at hfull
        exact Trans.exhaustedIp hp hs hfull.1
      · exact Trans.allocIp hp hs
  | allocatingIp6 =>
    simp only [handlerStep, hp]
    cases hs : s.ip6Pool with
    | none =>
      simp only [checkAssigned]
      split
      · next hfull =>
        rw [Bool.and_eq_true, Option.isNone_iff_eq_none] at hfull
        exact Trans.noAddress hp hs hfull.1
      · exact Trans.noIp6 hp hs
    | some pool =>
      simp only [checkAssigned]
      split
      · next hfull =>
        rw [Bool.and_eq_true, Option.isNone_iff_eq_none, Option.isNone_iff_eq_none] at hfull
        exact Trans.exhaustedIp6 hp hs hfull.1 (Or.inl hfull.2) (Or.inr rfl)
      · split
        · next hfull =>
          rw [Bool.and_eq_true, Option.isNone_iff_eq_none, Option.isNone_iff_eq_none] at hfull
          exact Trans.exhaustedIp6 hp hs hfull.2 (Or.inr hfull.1) (Or.inl hfull.2)
        · exact Trans.allocIp6 hp hs
  | responding =>
    simp only [handlerStep, hp]
    cases io with
    | ok => exact .quiet x c p _ s h hp .drawingSession h.result (by decide) (fun e => by cases e)
    | err e => exact Trans.responseFailed hp rfl
  | drawingSession =>
    simp only [handlerStep, hp]
    exact Trans.drawSession hp
  | insertingClient =>
    simp only [handlerStep, hp]
    exact Trans.insertClient hp
  | insertingIp =>
    simp only [handlerStep, hp]
    cases hip : h.assignedIp with
    | none => simpa only [hip] using Trans.insertNoIp hp hip
    | some ip4 => simpa only [hip] using Trans.insertIp hp hip
  | insertingIp6 =>
    simp only [handlerStep, hp]
    cases hip : h.assignedIp6 with
    | none => simpa only [hip] using Trans.insertNoIp6 hp hip
    | some ip6 => simpa only [hip] using Trans.insertIp6 hp hip
  | serving =>
    simp only [handlerStep, hp]
    cases io with
    | ok => exact .quiet x c p _ s h hp .removingClient (.ok ()) (by decide) (fun e => by cases e)
    | err e => exact .quiet x c p _ s h hp .removingClient (.error e) (by decide) (fun e => by cases e)
  | removingClient =>
    simp only [handlerStep, hp, Map.removeIf]
    cases hs : s.clients.lookup (p.key x) with
    | none => exact Trans.replaced hp (fun state e => by rw [hs] at e; cases e)
    | some state =>
      by_cases hid : state.sessionId = h.sessionId
      · simpa only [hid, decide_true, if_true] using Trans.removeClient hp hs hid
      · simpa only [hid, decide_false, Bool.false_eq_true, if_false] using
          Trans.replaced hp (fun st e => by rw [hs] at e; rwa [← Option.some.inj e])
  | removingIp =>
    simp only [handlerStep, hp]
    cases hip : h.assignedIp with
    | none => simpa only [hip] using Trans.removeNoIp hp hip
    | some ip4 => simpa only [hip] using Trans.removeIp hp hip
  | removingIp6 =>
    simp only [handlerStep, hp]
    cases hip : h.assignedIp6 with
    | none => simpa only [hip] using Trans.removeNoIp6 hp hip
    | some ip6 => simpa only [hip] using Trans.removeIp6 hp hip
  | releasingIp =>
    simp only [handlerStep, hp]
    split
    · next hr => exact Trans.releaseIp hp hr
    · next hr => exact Trans.releaseNoIp hp (Bool.eq_false_iff.2 hr)
  | releasingIp6 =>
    simp only [handlerStep, hp]
    split
    · next hr => exact Trans.releaseIp6 hp hr
    · next hr => exact Trans.releaseNoIp6 hp (Bool.eq_false_iff.2 hr)
  | leaving =>
    simp only [handlerStep, hp]
    exact .plain (r := h.result) (by rw [hp]; rfl) (fun e => by cases e) (by rw [hp]; rfl)
      (fun _ => Or.inr ⟨Or.inl hp, rfl⟩)
  | done =>
    simp only [handlerStep, hp]
    have : Trans x c p io s h s { h with phase := .done, result := h.result } :=
      .plain (n := s.activeConnections) (by rw [hp]; rfl) (fun e => by cases e)
        (by rw [hp]; exact (Int.add_zero _).symm) (fun _ => Or.inr ⟨Or.inr hp, rfl⟩)
    rwa [← hp] at this

theorem Trans.config_eq {s' : VpnServer EndpointId PublicKey} {h' : Handler}
    (ht : Trans x c p io s h s' h') : s'.config = s.config := by
  cases ht <;> rfl

/-- The state after a step, and the transition that led there. -/
theorem step_trans (peers : ConnId → Peer EndpointId) (w : World EndpointId PublicKey) :
    ∃ s' h', step x peers w (c, io) = ⟨s', Function.update w.handlers c h'⟩ ∧
      Trans x c (peers c) io w.server (w.handlers c) s' h' :=
  ⟨_, _, rfl, handlerStep_trans x c (peers c) io w.server (w.handlers c)⟩

/-- A connection that takes no step stays where it is. -/
theorem run_handlers_ne (peers : ConnId → Peer EndpointId) :
    ∀ (as : List (ConnId × Io)) (w : World EndpointId PublicKey),
      (∀ a ∈ as, a.1 ≠ c) → (run (step x peers) w as).handlers c = w.handlers c := by
  intro as
  induction as with
  | nil => intro w _; rfl
  | cons a as ih =>
    intro w h
    rw [run_cons, ih _ fun b hb => h b (List.mem_cons_of_mem _ hb)]
    have hne := h a List.mem_cons_self
    simp [step, Ne.symm hne]

end

end EzVpn
