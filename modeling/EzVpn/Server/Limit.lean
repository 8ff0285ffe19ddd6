import EzVpn.Server.Admission
import EzVpn.Lib.Gate

/-!
# The client limit

`active_connections` is a counting gate (`Lib.Gate`) with limit `max_clients`: the phases of
a handler are its stages (`Phase.stage`) and every step of a handler is a move of the gate
(`handlerStep_move`).  So in every run the admitted connections stay within the limit and
the counter is accounted for (`clientLimit`).
-/

namespace EzVpn

open Lib Lib.Gate

namespace Phase

/-- Inside `handle_connection_inner`. -/
def inner : Phase → Bool
  | allocatingIp | allocatingIp6 | responding | drawingSession | insertingClient | insertingIp
  | insertingIp6 | serving | removingClient | removingIp | removingIp6 | releasingIp
  | releasingIp6 => true
  | _ => false

/-- Inside `handle_connection_inner` or about to run the final decrement. -/
def admitted : Phase → Bool
  | leaving => true
  | ph => ph.inner

/-- Between the increment and the decision to admit, or the rejecting decrement. -/
def inTransit : Phase → Bool
  | comparing _ | uncounting => true
  | _ => false

/-- Where the connection stands at the gate, with weight one. -/
def stage : Phase → Stage
  | comparing prevCount => .asked prevCount 1
  | uncounting => .refused 1
  | ph => if ph.admitted then .granted 1 else .outside

theorem share_stage (ph : Phase) : ph.stage.share = ind admitted ph := by
  cases ph <;> rfl

theorem weight_stage (ph : Phase) : ph.stage.weight = ind admitted ph + ind inTransit ph := by
  cases ph <;> rfl

theorem admitted_of_inner {ph : Phase} (h : ph.inner = true) : ph.admitted = true := by
  cases ph <;> first | rfl | cases h

/-- A plain move other than asking and comparing. -/
theorem plainMove_move {ph ph' : Phase} (limit : ℕ) (n : ℤ) (hm : ph.plainMove ph' = true)
    (hask : ph ≠ counting) (hcmp : ∀ prevCount, ph ≠ comparing prevCount) :
    Move limit n 0 ph.stage (n + ph.countChange) 0 ph'.stage := by
  have stay : Move limit n 0 ph.stage (n + 0) 0 ph.stage := by rw [add_zero]; exact .stay _
  unfold plainMove at hm
  split at hm
  all_goals first
    | exact stay
    | exact .giveBack
    | exact .leave
    | exact absurd rfl hask
    | exact absurd rfl (hcmp _)
    | cases hm

end Phase

variable {EndpointId PublicKey : Type} [DecidableEq EndpointId] [DecidableEq PublicKey]

section
variable (x : Externals EndpointId PublicKey) (c : ConnId) (p : Peer EndpointId) (io : Io)
  (s : VpnServer EndpointId PublicKey) (h : Handler)

variable {x c p io s h} in
theorem Trans.gate_move {s' : VpnServer EndpointId PublicKey} {h' : Handler}
    (ht : Trans x c p io s h s' h') (hask : h.phase ≠ .counting)
    (hcmp : ∀ prevCount, h.phase ≠ .comparing prevCount) :
    Move s.config.maxClients s.activeConnections 0 h.phase.stage s'.activeConnections 0 h'.phase.stage := by
  cases ht with
  | plain hmove hauth hcount hres =>
    rw [hcount]
    exact Phase.plainMove_move _ _ hmove hask hcmp
  | allocIp hp _ | exhaustedIp hp _ _ | noIp hp _ | allocIp6 hp _ | exhaustedIp6 hp _ _ _ _ | noIp6 hp _
  | noAddress hp _ _ | responseFailed hp _ | drawSession hp | insertClient hp | insertIp hp _
  | insertNoIp hp _ | insertIp6 hp _ | insertNoIp6 hp _ | removeClient hp _ _ | replaced hp _
  | removeIp hp _ | removeNoIp hp _ | removeIp6 hp _ | removeNoIp6 hp _ | releaseIp hp _
  | releaseNoIp hp _ | releaseIp6 hp _ | releaseNoIp6 hp _ =>
    -- both phases are inside `handle_connection_inner`
    rw [hp]
    exact .stay _

/-- **Every step of a handler is a move of the gate.** -/
theorem handlerStep_move : Move s.config.maxClients s.activeConnections 0 h.phase.stage
    (handlerStep x c p io s h).1.activeConnections 0 (handlerStep x c p io s h).2.phase.stage := by
  by_cases hask : h.phase = .counting
  · simp only [handlerStep, hask]
    exact .ask 1
  by_cases hcmp : ∃ prevCount, h.phase = .comparing prevCount
  · obtain ⟨prevCount, hp⟩ := hcmp
    simp only [handlerStep, hp]
    split
    · next hge => exact .refuse (by omega)
    · next hlt => exact .grant (by omega)
  · exact (handlerStep_trans x c p io s h).gate_move hask fun prevCount hp => hcmp ⟨prevCount, hp⟩

end

/-- The gate of a server, with the limit it was configured with. -/
structure LimitInv (config : VpnServerConfig PublicKey) (w : World EndpointId PublicKey) : Prop where
  config_eq : w.server.config = config
  gate : Gate.Inv config.maxClients w.server.activeConnections 0 fun c => (w.handlers c).phase.stage

section
variable (x : Externals EndpointId PublicKey) (peers : ConnId → Peer EndpointId)
  (config : VpnServerConfig PublicKey)

theorem limitInv_step (w : World EndpointId PublicKey) (a : ConnId × Io) (h : LimitInv config w) :
    LimitInv config (step x peers w a) := by
  obtain ⟨c, io⟩ := a
  have hmove := handlerStep_move x c (peers c) io w.server (w.handlers c)
  rw [h.config_eq] at hmove
  have hstages : (fun c' => ((step x peers w (c, io)).handlers c').phase.stage) =
      Function.update (fun c' => (w.handlers c').phase.stage) c
        (handlerStep x c (peers c) io w.server (w.handlers c)).2.phase.stage := by
    funext c'
    simp only [step, Function.update_apply]
    split <;> rfl
  refine ⟨?_, ?_⟩
  · exact (Trans.config_eq _ _ _ _ _ _ (handlerStep_trans ..)).trans h.config_eq
  · rw [hstages]
    exact h.gate.move c hmove

variable {x config} in
omit [DecidableEq EndpointId] [DecidableEq PublicKey] in
theorem limitInv_new {serverId : EndpointId} {s : VpnServer EndpointId PublicKey}
    (hnew : VpnServer.new x config serverId = .ok s) : LimitInv config (World.new s) := by
  obtain ⟨hs, -, -⟩ := VpnServer.new_eq hnew
  refine ⟨by rw [hs]; rfl, ?_⟩
  rw [show (World.new s).server.activeConnections = 0 by rw [hs]; rfl]
  exact .init fun _ => rfl

variable {x config} in
theorem limitInv_run {serverId : EndpointId} {s : VpnServer EndpointId PublicKey}
    (hnew : VpnServer.new x config serverId = .ok s) (as : List (ConnId × Io)) :
    LimitInv config (run (step x peers) (World.new s) as) :=
  inv_run_all (limitInv_step x peers config) as _ (limitInv_new hnew)

section
variable {config} {w : World EndpointId PublicKey} (h : LimitInv config w)
include h

omit [DecidableEq EndpointId] [DecidableEq PublicKey]

theorem LimitInv.sparse_admitted : Sparse (ind Phase.admitted) fun c => (w.handlers c).phase := by
  have := h.gate.sparse_share
  simpa only [Sparse, Phase.share_stage] using this

theorem LimitInv.sparse_inTransit : Sparse (ind Phase.inTransit) fun c => (w.handlers c).phase := by
  have : Sparse (fun ph => ph.stage.weight) fun c => (w.handlers c).phase := h.gate.sparse
  exact this.mono fun ph => by rw [Phase.weight_stage]; exact Nat.le_add_left _ _

/-- The admitted connections are within the limit. -/
theorem LimitInv.admitted_le : {c | (w.handlers c).phase.admitted = true}.ncard ≤ config.maxClients := by
  have hle := h.gate.granted_add_held_le
  have hshare : tally Stage.share (fun c => (w.handlers c).phase.stage) =
      tally (ind Phase.admitted) fun c => (w.handlers c).phase :=
    finsum_congr fun c => Phase.share_stage _
  rwa [hshare, tally_ind, Nat.add_zero] at hle

/-- The counter counts the admitted connections and those in transit. -/
theorem LimitInv.counter_eq : w.server.activeConnections =
    ({c | (w.handlers c).phase.admitted = true}.ncard : ℤ) +
      ({c | (w.handlers c).phase.inTransit = true}.ncard : ℤ) := by
  have hweight : tally Stage.weight (fun c => (w.handlers c).phase.stage) =
      tally (fun ph => ind Phase.admitted ph + ind Phase.inTransit ph) fun c => (w.handlers c).phase :=
    finsum_congr fun c => Phase.weight_stage _
  rw [h.gate.counter_eq, hweight, tally_add h.sparse_admitted h.sparse_inTransit, tally_ind, tally_ind]
  push_cast
  omega

end

/-- **The client limit.**  In every run the connections inside `handle_connection_inner`, and
even those still to run their final decrement, are at most `max_clients`; the counter is the
admitted connections plus those between their increment and their rejecting decrement. -/
theorem clientLimit (serverId : EndpointId) (s : VpnServer EndpointId PublicKey)
    (hnew : VpnServer.new x config serverId = .ok s) (as : List (ConnId × Io)) :
    let w := run (step x peers) (World.new s) as
    let admitted := {c | (w.handlers c).phase.admitted = true}
    let inTransit := {c | (w.handlers c).phase.inTransit = true}
    (admitted.Finite ∧ inTransit.Finite) ∧
    {c | (w.handlers c).phase.inner = true}.ncard ≤ config.maxClients ∧
    admitted.ncard ≤ config.maxClients ∧
    w.server.activeConnections = (admitted.ncard : ℤ) + (inTransit.ncard : ℤ) ∧
    0 ≤ w.server.activeConnections ∧
    ((∀ c, (w.handlers c).phase = .incoming ∨ (w.handlers c).phase = .done) →
      w.server.activeConnections = 0) := by
  intro w admitted inTransit
  have hi : LimitInv config w := limitInv_run peers hnew as
  have hfin : admitted.Finite := finite_of_sparse hi.sparse_admitted
  have hcount : w.server.activeConnections = (admitted.ncard : ℤ) + (inTransit.ncard : ℤ) := hi.counter_eq
  refine ⟨⟨hfin, finite_of_sparse hi.sparse_inTransit⟩, ?_, hi.admitted_le, hcount, by omega, fun hend => ?_⟩
  · exact (Set.ncard_le_ncard (fun c hc => Phase.admitted_of_inner hc) hfin).trans hi.admitted_le
  · have hnone : ∀ c, (w.handlers c).phase.admitted = false ∧ (w.handlers c).phase.inTransit = false := by
      intro c
      rcases hend c with hc | hc <;> rw [hc] <;> exact ⟨rfl, rfl⟩
    have hno1 : admitted = ∅ :=
      Set.eq_empty_of_forall_notMem fun c hc => Bool.eq_false_iff.1 (hnone c).1 hc
    have hno2 : inTransit = ∅ :=
      Set.eq_empty_of_forall_notMem fun c hc => Bool.eq_false_iff.1 (hnone c).2 hc
    rw [hcount, hno1, hno2, Set.ncard_empty]
    rfl

end

/-- A server for one client. -/
def crowdedServer : VpnServer Nat Nat := { toyServer with config := { toyConfig with maxClients := 1 } }

def crowd : ConnId → Peer Nat := fun _ => ⟨7, [1]⟩

/-- Connection 0 is served while connection 1 is on its way to the rejecting decrement. -/
def crowdedRun : List (ConnId × Io) := List.replicate 12 (0, .ok) ++ List.replicate 5 (1, .ok)

theorem clientLimit_crowded :
    (run (step toy crowd) (World.new crowdedServer) crowdedRun).server.activeConnections = 2 ∧
    ((run (step toy crowd) (World.new crowdedServer) crowdedRun).handlers 0).phase = .serving ∧
    {c | ((run (step toy crowd) (World.new crowdedServer) crowdedRun).handlers c).phase.inner
      = true}.ncard ≤ 1 :=
  ⟨by decide +kernel, by decide +kernel,
    (clientLimit toy crowd crowdedServer.config 0 crowdedServer rfl crowdedRun).2.1⟩

end EzVpn
