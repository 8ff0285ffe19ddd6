import EzVpn.Server.Limit
import EzVpn.Client.Handshake
import EzVpn.Client.Reconnect

/-!
# "Server full"

When a connection is turned away because of `max_clients`, and what its client makes of it.
A connection over the limit stands in the counter until its rejecting decrement, and a third
connection that increments meanwhile is turned away on its account, even if nobody is
admitted any more (`serverFull_spurious`).  It does not happen in a run in which no
connection increments a full counter while another one is in transit
(`serverFull_only_if_full`).
-/

namespace EzVpn

open Lib Lib.Gate

variable {EndpointId PublicKey : Type} [DecidableEq EndpointId] [DecidableEq PublicKey]

/-- On the way to "Server full", since the increment. -/
def Phase.turnedAway (maxClients : ℕ) : Phase → Prop
  | comparing prevCount => maxClients ≤ prevCount
  | uncounting | rejectingFull => True
  | _ => False

section
variable {x : Externals EndpointId PublicKey} {c : ConnId} {p : Peer EndpointId} {io : Io}
  {s s' : VpnServer EndpointId PublicKey} {h h' : Handler}

theorem Phase.plainMove_turnedAway {ph ph' : Phase} {n : ℕ} (hm : ph.plainMove ph' = true)
    (hask : ph ≠ counting) (hcmp : ∀ prevCount, ph ≠ comparing prevCount) (h : ph'.turnedAway n) :
    ph.turnedAway n := by
  unfold plainMove at hm
  split at hm
  all_goals first
    | exact h.elim
    | exact trivial
    | exact absurd rfl hask
    | exact absurd rfl (hcmp _)
    | cases hm

/-- A connection is turned away by the count it finds at its increment. -/
theorem handlerStep_turnedAway
    (ht : (handlerStep x c p io s h).2.phase.turnedAway s.config.maxClients) :
    h.phase.turnedAway s.config.maxClients ∨
      h.phase = .counting ∧ s.config.maxClients ≤ s.activeConnections := by
  by_cases hask : h.phase = .counting
  · simp only [handlerStep, hask] at ht
    exact Or.inr ⟨hask, ht⟩
  by_cases hcmp : ∃ prevCount, h.phase = .comparing prevCount
  · obtain ⟨prevCount, hp⟩ := hcmp
    simp only [handlerStep, hp] at ht
    split at ht
    · next hge => rw [hp]; exact Or.inl hge
    · exact ht.elim
  refine Or.inl ?_
  have htrans := handlerStep_trans x c p io s h
  generalize (handlerStep x c p io s h).1 = s' at htrans
  generalize (handlerStep x c p io s h).2 = h' at htrans ht
  cases htrans with
  | plain hmove hauth hcount hres =>
    exact Phase.plainMove_turnedAway hmove hask (fun prevCount hp => hcmp ⟨prevCount, hp⟩) ht
  | _ => exact ht.elim

end

section
variable (x : Externals EndpointId PublicKey) (peers : ConnId → Peer EndpointId)

/-- No connection increments a full counter while another one is in transit. -/
def QuietIncrement (w : World EndpointId PublicKey) (a : ConnId × Io) : Prop :=
  (w.handlers a.1).phase = .counting →
    w.server.activeConnections < w.server.config.maxClients ∨
    ∀ c, (w.handlers c).phase.inTransit = false

/-- Connection `c` increments while `maxClients` others are admitted. -/
def IncrementsAtFull (maxClients : ℕ) (c : ConnId) (w : World EndpointId PublicKey) (a : ConnId × Io) :
    Prop :=
  a.1 = c ∧ (w.handlers c).phase = .counting ∧
    maxClients ≤ {c' | c' ≠ c ∧ (w.handlers c').phase.admitted = true}.ncard

variable {x} {config : VpnServerConfig PublicKey} {serverId : EndpointId}
  {s : VpnServer EndpointId PublicKey} (hnew : VpnServer.new x config serverId = .ok s)
include hnew

omit [DecidableEq EndpointId] [DecidableEq PublicKey] hnew in
/-- A connection before its increment is not among the admitted. -/
theorem others_admitted {w : World EndpointId PublicKey} {c : ConnId} (hc : (w.handlers c).phase = .counting) :
    {c' | c' ≠ c ∧ (w.handlers c').phase.admitted = true} =
      {c' | (w.handlers c').phase.admitted = true} := by
  ext c'
  simp only [Set.mem_ofPred_eq]
  refine ⟨fun h => h.2, fun h => ⟨?_, h⟩⟩
  rintro rfl
  rw [hc] at h
  cases h

/-- **Turned away on the account of admitted connections only.** -/
theorem turnedAway_of_full (as : List (ConnId × Io)) :
    Guarded (step x peers) QuietIncrement (World.new s) as → ∀ c,
      ((run (step x peers) (World.new s) as).handlers c).phase.turnedAway config.maxClients →
      Once (step x peers) (IncrementsAtFull config.maxClients c) (World.new s) as := by
  refine inv_history (I := fun as (w : World EndpointId PublicKey) =>
    Guarded (step x peers) QuietIncrement (World.new s) as →
    ∀ c, (w.handlers c).phase.turnedAway config.maxClients →
      Once (step x peers) (IncrementsAtFull config.maxClients c) (World.new s) as) ?_ ?_ as
  · intro _ c hc
    exact hc.elim
  · intro as a ih hguard c hc
    obtain ⟨hbefore, hquiet⟩ := guarded_concat.1 hguard
    have hinv := limitInv_run peers hnew as
    generalize hw : run (step x peers) (World.new s) as = w at ih hc hquiet hinv
    obtain ⟨c₁, io⟩ := a
    by_cases hcc : c = c₁
    · subst hcc
      have hself : (step x peers w (c, io)).handlers c =
          (handlerStep x c (peers c) io w.server (w.handlers c)).2 := Function.update_self ..
      rw [hself, ← hinv.config_eq] at hc
      rcases handlerStep_turnedAway hc with hold | ⟨hask, hge⟩
      · rw [hinv.config_eq] at hold
        exact (ih hbefore c hold).append _
      · -- the increment that turned it away
        refine once_last ⟨rfl, hw ▸ hask, ?_⟩
        rw [hw, others_admitted hask]
        rw [hinv.config_eq] at hge
        have hnone := (hquiet hask).resolve_left (by rw [hinv.config_eq]; exact Int.not_lt.2 hge)
        have hempty : {c' | (w.handlers c').phase.inTransit = true} = ∅ :=
          Set.eq_empty_of_forall_notMem fun c' hc' => Bool.eq_false_iff.1 (hnone c') hc'
        have hcount := hinv.counter_eq
        rw [hempty, Set.ncard_empty] at hcount
        omega
    · have hother : (step x peers w (c₁, io)).handlers c = w.handlers c := Function.update_of_ne hcc ..
      rw [hother] at hc
      exact (ih hbefore c hc).append _

end

/-! ## The client -/

/-- **What the client makes of it**: an authentication failure, which it does not retry. -/
theorem serverFull_fatal {fromSlice : Bytes → Except String VpnHandshakeResponse} {recv : List Bytes}
    {more : Bytes} (hjson : fromSlice (VpnHandshakeResponse.rejected "Server full").toVec =
      .ok (.rejected "Server full"))
    (hrecv : recv.flatten = framed 4 (VpnHandshakeResponse.rejected "Server full").toVec ++ more) :
    performHandshake fromSlice recv = .error (.authenticationFailed "Server full") := by
  have hlen : (VpnHandshakeResponse.rejected "Server full").toVec.length ≤ maxHandshakeSize := by
    decide +kernel
  obtain ⟨rest, hread, -⟩ := readMessage_framed (hlen.trans_lt (by decide +kernel)) hlen hrecv
  simp only [performHandshake, hread, bind, Except.bind,
    VpnHandshakeResponse.decode_toVec hjson rfl rfl]
  rfl

/-- **No spurious "Server full"** in a run in which no connection increments a full counter
while another one is in transit: whoever is turned away found `max_clients` others admitted
at its increment.  In any run, an increment of a full counter turns the connection away, and
does so without `max_clients` others admitted exactly if the connections in transit make up
the difference.  The client takes it for an authentication failure and gives up. -/
theorem serverFull_only_if_full (x : Externals EndpointId PublicKey) (peers : ConnId → Peer EndpointId)
    (config : VpnServerConfig PublicKey) (serverId : EndpointId) (s : VpnServer EndpointId PublicKey)
    (hnew : VpnServer.new x config serverId = .ok s) (as : List (ConnId × Io)) :
    let w := run (step x peers) (World.new s) as
    (Guarded (step x peers) QuietIncrement (World.new s) as → ∀ c,
      (w.handlers c).phase = .uncounting ∨ (w.handlers c).phase = .rejectingFull →
      Once (step x peers) (IncrementsAtFull config.maxClients c) (World.new s) as) ∧
    (∀ c io io', (w.handlers c).phase = .counting → config.maxClients ≤ w.server.activeConnections →
      ((run (step x peers) w [(c, io), (c, io')]).handlers c).phase = .uncounting ∧
      ({c' | c' ≠ c ∧ (w.handlers c').phase.admitted = true}.ncard < config.maxClients ↔
        w.server.activeConnections <
          config.maxClients + ({c' | (w.handlers c').phase.inTransit = true}.ncard : ℤ))) ∧
    (∀ (fromSlice : Bytes → Except String VpnHandshakeResponse) recv more,
      fromSlice (VpnHandshakeResponse.rejected "Server full").toVec = .ok (.rejected "Server full") →
      recv.flatten = framed 4 (VpnHandshakeResponse.rejected "Server full").toVec ++ more →
      performHandshake fromSlice recv = .error (.authenticationFailed "Server full") ∧
      ∀ maxAttempts (l : ReconnectLoop) jitter, l.result = none →
        (l.step maxAttempts (.error (.authenticationFailed "Server full"), jitter)).result =
          some (.error (.authenticationFailed "Server full"))) := by
  intro w
  have hinv := limitInv_run peers hnew as
  refine ⟨fun hquiet c hc => turnedAway_of_full peers hnew as hquiet c ?_, fun c io io' hc hfull => ⟨?_, ?_⟩,
    fun fromSlice recv more hjson hrecv => ⟨serverFull_fatal hjson hrecv, fun maxAttempts l jitter hgo => ?_⟩⟩
  · rcases hc with hc | hc <;> rw [hc] <;> exact trivial
  · have hfirst : (step x peers w (c, io)).handlers c =
        { w.handlers c with phase := .comparing w.server.activeConnections } := by
      simp only [step, Function.update_self, handlerStep, hc]
    have hconfig : (step x peers w (c, io)).server.config = config := by
      rw [← hinv.config_eq]
      simp only [step, handlerStep, hc]
      rfl
    have hsecond : ((step x peers (step x peers w (c, io)) (c, io')).handlers c).phase = .uncounting := by
      simp only [step.eq_1 x peers (step x peers w (c, io)), Function.update_self, handlerStep, hfirst,
        hconfig]
      rw [if_pos hfull]
    exact hsecond
  · have hcount : w.server.activeConnections =
        ({c | (w.handlers c).phase.admitted = true}.ncard : ℤ) +
          ({c | (w.handlers c).phase.inTransit = true}.ncard : ℤ) := hinv.counter_eq
    rw [others_admitted hc, hcount]
    omega
  · rw [l.step_fatal maxAttempts jitter hgo rfl]

/-! ## A run -/

/-- Connection 0 is admitted, connection 1 is over the limit and about to take its one back,
connection 0 leaves, and connection 2 is about to increment. -/
def spuriousRun : List (ConnId × Io) :=
  List.replicate 12 (0, .ok) ++ List.replicate 5 (1, .ok) ++ List.replicate 7 (0, .ok) ++
    List.replicate 3 (2, .ok)

theorem spuriousRun_nobody (c : ConnId) :
    ((run (step toy crowd) (World.new crowdedServer) spuriousRun).handlers c).phase.admitted = false := by
  by_cases hc : c < 3
  · have hthree : ∀ c < 3,
        ((run (step toy crowd) (World.new crowdedServer) spuriousRun).handlers c).phase.admitted = false := by
      decide +kernel
    exact hthree c hc
  · have hlt : ∀ a ∈ spuriousRun, a.1 < 3 := by decide +kernel
    rw [run_handlers_ne toy c crowd spuriousRun _ fun a ha =>
      ((hlt a ha).trans_le (Nat.le_of_not_lt hc)).ne]
    rfl

/-- **A spurious "Server full".**  At the increment of connection 2 nobody is admitted, on a
server for one client, and it is turned away. -/
theorem serverFull_spurious :
    VpnServer.new toy crowdedServer.config 0 = .ok crowdedServer ∧
    crowdedServer.config.maxClients = 1 ∧
    ((run (step toy crowd) (World.new crowdedServer) spuriousRun).handlers 2).phase = .counting ∧
    (∀ c, ((run (step toy crowd) (World.new crowdedServer) spuriousRun).handlers c).phase.admitted = false) ∧
    ((run (step toy crowd) (World.new crowdedServer)
      (spuriousRun ++ List.replicate 3 (2, .ok))).handlers 2).phase = .rejectingFull ∧
    ((run (step toy crowd) (World.new crowdedServer)
      (spuriousRun ++ List.replicate 4 (2, .ok))).handlers 2).result = .error (.ipAssignment "Server full") ∧
    ¬ Once (step toy crowd) (IncrementsAtFull 1 2) (World.new crowdedServer)
      (spuriousRun ++ List.replicate 3 (2, .ok)) := by
  refine ⟨rfl, rfl, by decide +kernel, spuriousRun_nobody, by decide +kernel, by decide +kernel, ?_⟩
  rintro ⟨before, a, after, hsplit, -, hcount, hfull⟩
  -- connection 2 stands at its increment only after the whole of `spuriousRun`
  have honly : ∀ k < 30, ((run (step toy crowd) (World.new crowdedServer)
      ((spuriousRun ++ List.replicate 3 (2, Io.ok)).take k)).handlers 2).phase = .counting → k = 27 := by
    decide +kernel
  obtain ⟨hbefore, hlen⟩ := take_of_split hsplit
  have hthirty : (spuriousRun ++ List.replicate 3 (2, Io.ok)).length = 30 := by decide +kernel
  rw [hthirty] at hlen
  have hk := honly before.length hlen (by rw [hbefore]; exact hcount)
  have hrun : before = spuriousRun := by
    rw [← hbefore, hk]
    decide +kernel
  rw [hrun] at hfull
  have hnone : {c' | c' ≠ 2 ∧
      ((run (step toy crowd) (World.new crowdedServer) spuriousRun).handlers c').phase.admitted = true} = ∅ :=
    Set.eq_empty_of_forall_notMem fun c' hc' => Bool.eq_false_iff.1 (spuriousRun_nobody c') hc'.2
  rw [hnone, Set.ncard_empty] at hfull
  omega

/-- In `crowdedRun` connection 1 increments with nobody in transit. -/
theorem crowdedRun_quiet :
    Guarded (step toy crowd) QuietIncrement (World.new crowdedServer) crowdedRun := by
  refine guarded_of_split fun before a after hsplit hcount => ?_
  have htwo : ∀ a ∈ crowdedRun, a.1 < 2 := by decide +kernel
  have hmem : ∀ b ∈ before ++ [a], b.1 < 2 := fun b hb => htwo b (by
    rw [hsplit, List.append_cons]
    exact List.mem_append_left _ hb)
  obtain ⟨hbefore, hlen⟩ := take_of_split hsplit
  rw [show crowdedRun.length = 17 from by decide +kernel] at hlen
  have hquiet : ∀ k < 17, ∀ c < 2,
      ((run (step toy crowd) (World.new crowdedServer) (crowdedRun.take k)).handlers c).phase = .counting →
      ∀ c' < 2, ((run (step toy crowd) (World.new crowdedServer) (crowdedRun.take k)).handlers c').phase.inTransit
        = false := by
    decide +kernel
  refine Or.inr fun c => ?_
  by_cases hc : c < 2
  · have := hquiet before.length hlen a.1 (hmem a (by simp))
    rw [hbefore] at this
    exact this hcount c hc
  · rw [run_handlers_ne toy c crowd before _ fun b hb =>
      ((hmem b (List.mem_append_left _ hb)).trans_le (Nat.le_of_not_lt hc)).ne]
    rfl

/-- With nobody in transit, the one admitted connection is what turns the second away. -/
theorem serverFull_only_if_full_crowded :
    ((run (step toy crowd) (World.new crowdedServer) crowdedRun).handlers 1).phase = .uncounting ∧
    Once (step toy crowd) (IncrementsAtFull 1 1) (World.new crowdedServer) crowdedRun :=
  ⟨by decide +kernel,
    (serverFull_only_if_full toy crowd crowdedServer.config 0 crowdedServer rfl crowdedRun).1
      crowdedRun_quiet 1 (Or.inl (by decide +kernel))⟩

end EzVpn
