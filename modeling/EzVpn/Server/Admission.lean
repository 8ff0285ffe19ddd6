import EzVpn.Server.Steps
import EzVpn.Server.PoolInv

/-!
# Admission

What a connection that does not authenticate can do: nothing
(`unauthenticated_no_effect`).  Its handler never leaves the phases before the
connection counter except by returning an error (`Refused`), and none of these phases
touches the server.
-/

namespace EzVpn

open Lib

variable {EndpointId PublicKey : Type} [DecidableEq EndpointId] [DecidableEq PublicKey]

theorem mapM_ok {ε α β : Type} {f : α → Except ε β} {o : Option α} {o' : Option β}
    (h : o.mapM f = .ok o') : ∀ b, o' = some b → ∃ a, o = some a ∧ f a = .ok b := by
  cases o with
  | none => cases h; intro b hb; cases hb
  | some a =>
    obtain ⟨b, hb, h⟩ := bind_ok h
    cases h
    rintro _ ⟨⟩
    exact ⟨a, rfl, hb⟩

omit [DecidableEq EndpointId] [DecidableEq PublicKey] in
/-- A server that was built is empty, over the pools of its configuration. -/
theorem VpnServer.new_eq {x : Externals EndpointId PublicKey} {config : VpnServerConfig PublicKey}
    {serverId : EndpointId} {s : VpnServer EndpointId PublicKey} (h : new x config serverId = .ok s) :
    s = ⟨config, s.ipPool, s.ip6Pool, ∅, ∅, ∅, 0, 1⟩ ∧
    (∀ p, s.ipPool = some p → ∃ network, config.network = some network ∧
      IpPool.new network config.serverIp = .ok p) ∧
    (∀ p, s.ip6Pool = some p → ∃ network6, config.network6 = some network6 ∧
      Ip6Pool.new x.suffix network6 config.serverIp6 config.ip6Strategy serverId = .ok p) := by
  unfold new at h
  split at h
  · cases h
  · obtain ⟨ipPool, h4, h⟩ := bind_ok h
    obtain ⟨ip6Pool, h6, h⟩ := bind_ok h
    obtain rfl := (Except.ok.inj h).symm
    exact ⟨rfl, mapM_ok h4, mapM_ok h6⟩

/-- Before the connection counter. -/
def Phase.unauthenticated : Phase → Bool
  | incoming | acceptingStream | readingHandshake | rejectingAuth => true
  | _ => false

/-- The handler has admitted nobody: it is still before the connection counter, or it
has returned an error. -/
def Refused (h : Handler) : Prop :=
  h.phase.unauthenticated = true ∨ h.phase = .done ∧ ∃ e, h.result = .error e

section
variable {x : Externals EndpointId PublicKey} {c : ConnId} {p : Peer EndpointId} {io : Io}
  {s s' : VpnServer EndpointId PublicKey} {h h' : Handler}

/-- A plain move out of the unauthenticated phases stays there, authenticates or returns. -/
theorem Phase.plainMove_unauthenticated {ph ph' : Phase} (hm : ph.plainMove ph' = true)
    (h : ph.unauthenticated = true) :
    ph.countChange = 0 ∧ (ph'.unauthenticated = true ∨ ph' = .counting ∨ ph' = .done) := by
  unfold plainMove at hm
  split at hm
  all_goals first
    | exact ⟨rfl, Or.inl rfl⟩
    | exact ⟨rfl, Or.inr (Or.inl rfl)⟩
    | exact ⟨rfl, Or.inr (Or.inr rfl)⟩
    | cases h
    | cases hm

theorem Phase.plainMove_done {ph : Phase} (hm : Phase.done.plainMove ph = true) : ph = .done := by
  cases ph <;> first | rfl | cases hm

/-- **A connection that does not authenticate** stays refused and leaves the server alone. -/
theorem Refused.trans (hr : Refused h) (hbad : p.authenticates x s.config = false)
    (ht : Trans x c p io s h s' h') : s' = s ∧ Refused h' := by
  -- every transition but the plain ones starts from a phase past authentication
  have past : ∀ {ph}, h.phase = ph → ph.unauthenticated = false → ph ≠ .done → False := by
    rintro ph rfl h1 h2
    rcases hr with hr | hr
    · rw [hr] at h1; cases h1
    · exact h2 hr.1
  cases ht with
  | @plain n ph r hmove hauth hcount hres =>
    rcases hr with hr | ⟨hdone, e, he⟩
    · obtain ⟨hzero, hnext⟩ := Phase.plainMove_unauthenticated hmove hr
      rw [hzero, Int.add_zero] at hcount
      subst hcount
      refine ⟨rfl, ?_⟩
      rcases hnext with hu | hc | hd
      · exact Or.inl hu
      · rw [hauth hc] at hbad; cases hbad
      · refine Or.inr ⟨hd, ?_⟩
        rcases hres hd with hres | ⟨hph, -⟩
        · exact hres
        · rcases hph with hph | hph <;> (rw [hph] at hr; cases hr)
    · rw [hdone] at hmove hcount
      obtain rfl := Phase.plainMove_done hmove
      refine ⟨?_, Or.inr ⟨rfl, ?_⟩⟩
      · rw [hcount]
        simp [Phase.countChange]
      · rcases hres rfl with hres | ⟨-, hres⟩
        · exact hres
        · exact ⟨e, hres.trans he⟩
  | allocIp hp _ | exhaustedIp hp _ _ | noIp hp _ | allocIp6 hp _ | exhaustedIp6 hp _ _ _ _ | noIp6 hp _
  | noAddress hp _ _ | responseFailed hp _ | drawSession hp | insertClient hp | insertIp hp _
  | insertNoIp hp _ | insertIp6 hp _ | insertNoIp6 hp _ | removeClient hp _ _ | replaced hp _
  | removeIp hp _ | removeNoIp hp _ | removeIp6 hp _ | removeNoIp6 hp _ | releaseIp hp _
  | releaseNoIp hp _ | releaseIp6 hp _ | releaseNoIp6 hp _ =>
    exact (past hp rfl (by decide)).elim

end

section
variable (x : Externals EndpointId PublicKey) (peers : ConnId → Peer EndpointId)
  (config : VpnServerConfig PublicKey)

/-- Whoever is not refused has authenticated, and so has whoever has a `clients` entry. -/
structure AdmissionInv (w : World EndpointId PublicKey) : Prop where
  config_eq : w.server.config = config
  refused : ∀ c, (peers c).authenticates x config = false → Refused (w.handlers c)
  entry : ∀ k st, w.server.clients.lookup k = some st →
    (peers st.connection).authenticates x config = true ∧ (peers st.connection).key x = k

variable {x peers config} in
/-- The `clients` map changes only by entries of the stepping connection, once it is
past authentication, and by removals. -/
theorem Trans.lookup_clients {c : ConnId} {p : Peer EndpointId} {io : Io}
    {s s' : VpnServer EndpointId PublicKey} {h h' : Handler} (ht : Trans x c p io s h s' h')
    {k : ClientKey EndpointId} {st : ClientState} (hk : s'.clients.lookup k = some st) :
    s.clients.lookup k = some st ∨ (k = p.key x ∧ st.connection = c ∧ ¬ Refused h) := by
  cases ht with
  | insertClient hp =>
    simp only [Map.lookup_insert_eq] at hk
    split at hk
    · next hkey =>
      obtain rfl := Option.some.inj hk
      refine Or.inr ⟨hkey, rfl, ?_⟩
      rintro (hr | hr)
      · rw [hp] at hr; cases hr
      · rw [hp] at hr; cases hr.1
    · exact Or.inl hk
  | removeClient hp hs hid =>
    simp only [Map.lookup_erase_eq] at hk
    split at hk
    · cases hk
    · exact Or.inl hk
  | _ => exact Or.inl hk

theorem admissionInv_step (w : World EndpointId PublicKey) (a : ConnId × Io)
    (h : AdmissionInv x peers config w) : AdmissionInv x peers config (step x peers w a) := by
  obtain ⟨c, io⟩ := a
  obtain ⟨s', h', heq, ht⟩ := step_trans x c io peers w
  rw [heq]
  refine ⟨(Trans.config_eq _ _ _ _ _ _ ht).trans h.config_eq, fun c' hbad => ?_, fun k st hk => ?_⟩
  · simp only [Function.update_apply]
    split
    · next hc =>
      subst hc
      exact ((h.refused c' hbad).trans (by rw [h.config_eq]; exact hbad) ht).2
    · exact h.refused c' hbad
  · rcases ht.lookup_clients hk with hk | ⟨hkey, hc, hr⟩
    · exact h.entry k st hk
    · rw [hc]
      refine ⟨?_, hkey.symm⟩
      by_contra hbad
      exact hr (h.refused c (Bool.eq_false_iff.2 hbad))

variable {x config} in
theorem admissionInv_new {serverId : EndpointId} {s : VpnServer EndpointId PublicKey}
    (hnew : VpnServer.new x config serverId = .ok s) : AdmissionInv x peers config (World.new s) := by
  obtain ⟨hs, -, -⟩ := VpnServer.new_eq hnew
  refine ⟨by rw [hs]; rfl, fun c _ => Or.inl rfl, fun k st hk => ?_⟩
  rw [World.new, hs] at hk
  simp at hk

/-- What an authenticated connection has shown. -/
theorem authenticates_iff (p : Peer EndpointId) : p.authenticates x config = true ↔
    ∃ handshake, VpnHandshake.decode x p.handshakeData = .ok handshake ∧
      x.parseEndpointId handshake.auth.endpointId = some p.remoteId ∧
      ∃ key ∈ config.authorizedKeys, x.parsePublicKey handshake.auth.publicKey = some key ∧
        x.verifyEndpointIdSignature key p.remoteId handshake.auth.signature = true := by
  unfold Peer.authenticates
  cases VpnHandshake.decode x p.handshakeData with
  | error e => simp
  | ok handshake => simp [verifyClientAuth_iff]

/-- Two runs that agree up to the handlers of connections that do not authenticate. -/
def SameForOthers (w t : World EndpointId PublicKey) : Prop :=
  w.server = t.server ∧ ∀ c, (peers c).authenticates x config = true → w.handlers c = t.handlers c

section
variable {x peers config} {w t : World EndpointId PublicKey} {c : ConnId} (io : Io)

/-- A step of a connection that does not authenticate, taken on one side only. -/
theorem SameForOthers.hidden (h : SameForOthers x peers config w t) (hi : AdmissionInv x peers config w)
    (hbad : (peers c).authenticates x config = false) :
    SameForOthers x peers config (step x peers w (c, io)) t := by
  obtain ⟨s', h', heq, ht⟩ := step_trans x c io peers w
  obtain ⟨hs, -⟩ := (hi.refused c hbad).trans (by rw [hi.config_eq]; exact hbad) ht
  rw [heq]
  refine ⟨hs.trans h.1, fun c' hgood => ?_⟩
  have hne : c' ≠ c := by rintro rfl; rw [hbad] at hgood; cases hgood
  simpa [Function.update_apply, hne] using h.2 c' hgood

/-- A step of an authenticated connection, taken on both sides. -/
theorem SameForOthers.visible (h : SameForOthers x peers config w t)
    (hgood : (peers c).authenticates x config = true) :
    SameForOthers x peers config (step x peers w (c, io)) (step x peers t (c, io)) := by
  obtain ⟨hserver, hhandlers⟩ := h
  simp only [step, ← hserver, ← hhandlers c hgood]
  refine ⟨rfl, fun c' hc' => ?_⟩
  simp only [Function.update_apply]
  split
  · rfl
  · exact hhandlers c' hc'

end

/-- **Connections that do not authenticate have no effect on anyone else.** -/
theorem unauthenticated_no_effect (serverId : EndpointId) (s : VpnServer EndpointId PublicKey)
    (hnew : VpnServer.new x config serverId = .ok s) (as : List (ConnId × Io)) :
    SameForOthers x peers config (run (step x peers) (World.new s) as)
      (run (step x peers) (World.new s)
        (as.filter fun a => (peers a.1).authenticates x config)) ∧
    (∀ c, ¬ Refused ((run (step x peers) (World.new s) as).handlers c) →
      ∃ handshake, VpnHandshake.decode x (peers c).handshakeData = .ok handshake ∧
        x.parseEndpointId handshake.auth.endpointId = some (peers c).remoteId ∧
        ∃ key ∈ config.authorizedKeys, x.parsePublicKey handshake.auth.publicKey = some key ∧
          x.verifyEndpointIdSignature key (peers c).remoteId handshake.auth.signature = true) ∧
    (∀ k st, (run (step x peers) (World.new s) as).server.clients.lookup k = some st →
      (peers st.connection).authenticates x config = true ∧ (peers st.connection).key x = k) ∧
    (∀ c c', (peers c').handshakeData = (peers c).handshakeData →
      (peers c').remoteId ≠ (peers c).remoteId → (peers c).authenticates x config = true →
      Refused ((run (step x peers) (World.new s) as).handlers c')) := by
  have hpair := run_erase (R := fun w t => AdmissionInv x peers config w ∧ SameForOthers x peers config w t)
    (fun a : ConnId × Io => !(peers a.1).authenticates x config)
    (fun w t a h hbad => ⟨admissionInv_step x peers config w a h.1,
      h.2.hidden a.2 h.1 (by simpa using hbad)⟩)
    (fun w t a h hgood => ⟨admissionInv_step x peers config w a h.1,
      h.2.visible a.2 (by simpa using hgood)⟩)
    as _ _ ⟨admissionInv_new peers hnew, rfl, fun _ _ => rfl⟩
  obtain ⟨hinv, hsame⟩ := hpair
  simp only [Bool.not_not] at hsame
  refine ⟨hsame, fun c hc => ?_, hinv.entry, fun c c' hdata hid hauth => ?_⟩
  · rw [← authenticates_iff]
    by_contra hbad
    exact hc (hinv.refused c (Bool.eq_false_iff.2 hbad))
  · -- the replayed handshake claims the endpoint it was made for
    refine hinv.refused c' (Bool.eq_false_iff.2 fun hauth' => hid ?_)
    obtain ⟨handshake, hdec, hclaim, -⟩ := (authenticates_iff x config _).1 hauth
    obtain ⟨handshake', hdec', hclaim', -⟩ := (authenticates_iff x config _).1 hauth'
    rw [hdata, hdec] at hdec'
    obtain rfl := Except.ok.inj hdec'
    exact Option.some.inj (hclaim'.symm.trans hclaim)

end

/-! ## A toy instance

Endpoints and keys are numbers, every handshake claims endpoint 7 with the one
authorized key, and the device id is the length of the message. -/

def toy : Externals Nat Nat where
  suffix := UInt64.ofNat
  fromSlice := fun data => .ok ⟨8, UInt64.ofNat data.length, ⟨"ed25519-pub:0", "7", "sig"⟩⟩
  parseEndpointId := fun _ => some 7
  parsePublicKey := fun _ => some 0
  verifyEndpointIdSignature := fun _ _ _ => true

/-- 10.0.0.0/29, IPv4 only. -/
def toyConfig : VpnServerConfig Nat :=
  ⟨some ⟨0x0a000000#32, 29, by decide⟩, none, none, none, .sequential, 10, [0]⟩

def toyServer : VpnServer Nat Nat :=
  ⟨toyConfig, some ⟨⟨0x0a000000#32, 29, by decide⟩, 0x0a000001#32, 0x0a000002, 0x0a000006, ∅, [], []⟩,
    none, ∅, ∅, ∅, 0, 1⟩

/-- Connection 1 sends what connection 0 sends, from another endpoint. -/
def replayPeers : ConnId → Peer Nat
  | 0 => ⟨7, [1]⟩
  | _ => ⟨8, [1]⟩

/-- Both connections take steps in turn. -/
def replayRun : List (ConnId × Io) :=
  (List.replicate 12 [(0, Io.ok), (1, Io.ok)]).flatten

theorem unauthenticated_no_effect_replay :
    SameForOthers toy replayPeers toyConfig (run (step toy replayPeers) (World.new toyServer) replayRun)
      (run (step toy replayPeers) (World.new toyServer) (List.replicate 12 (0, .ok))) ∧
    ((run (step toy replayPeers) (World.new toyServer) replayRun).handlers 0).phase = .serving ∧
    Refused ((run (step toy replayPeers) (World.new toyServer) replayRun).handlers 1) :=
  ⟨(unauthenticated_no_effect toy replayPeers toyConfig 0 toyServer rfl replayRun).1,
    by decide +kernel,
    (unauthenticated_no_effect toy replayPeers toyConfig 0 toyServer rfl replayRun).2.2.2 0 1 rfl
      (by decide) (by decide +kernel)⟩

end EzVpn
