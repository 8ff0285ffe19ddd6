import EzVpn.Client.Lives

/-!
# Stops while routes are added

`Client.Connect` takes the installation of a session's routes as one step.  On Linux and macOS
`add_routes` and `add_routes6_with_src` (src/net/device.rs) wait for one command per route, and
for one per removal when they roll back.  The caller can drop the client at any of these waits.
What the calls before have added is held by their guards and taken back; the routes of the open
call are in a vector that no guard holds.  On Windows the calls do not wait.

Here the installation goes command by command.  Run to its end it is the step of `Client.Connect`;
`install_stopped` says this, and what a stop in between leaves.
-/

namespace EzVpn

open Lib

/-! ## Command by command -/

inductive InstallPhase
  /-- waits for the add of `route`: `added` so far in this call, `todo` behind it, then `calls` -/
  | adding (route : AnyNet) (todo added : List AnyNet) (calls : List (List AnyNet))
  /-- waits for the removal of `route` in a rollback, with `todo` behind it -/
  | undoing (route : AnyNet) (todo : List AnyNet) (e : VpnError)
  | installed
  | failed (e : VpnError)

structure Installation where
  os : Os
  /-- of the calls that have returned, the newest first -/
  guards : List RouteGuard
  phase : InstallPhase

/-- The command in flight when the client is dropped is not killed: it never takes effect, or
before the guards are dropped, or after that. -/
inductive Straggler
  | never
  | before
  | after

/-- The routes that each call of `connect` is to add. -/
def routeCalls (config : VpnClientConfig) (info : ServerInfo) : List (List AnyNet) :=
  let four (routes : List Ipv4Net) : List AnyNet := (routes.flatMap expandDefaultRoute4).map .v4
  let six (routes : List Ipv6Net) : List AnyNet := (routes.flatMap expandDefaultRoute6).map .v6
  (info.network.map fun net => four [net]).toList ++
  (match info.assignedIp6, info.network6 with
    | some _, some net6 => [six [net6]]
    | _, _ => []) ++
  (if info.assignedIp.isSome && !config.routes.isEmpty then [four config.routes] else []) ++
  (if info.assignedIp6.isSome && !config.routes6.isEmpty then [six config.routes6] else [])

namespace Installation

/-- The next call, up to its first command. -/
def call (os : Os) (guards : List RouteGuard) : List (List AnyNet) → Installation
  | [] => ⟨os, guards, .installed⟩
  | [] :: calls => call os (⟨[]⟩ :: guards) calls
  | (route :: todo) :: calls => ⟨os, guards, .adding route todo [] calls⟩

/-- The loop of a call goes on, or the call returns its guard. -/
def goOn (os : Os) (guards : List RouteGuard) (todo added : List AnyNet) (calls : List (List AnyNet)) :
    Installation :=
  match todo with
  | [] => call os (⟨added⟩ :: guards) calls
  | route :: todo => ⟨os, guards, .adding route todo added calls⟩

/-- The rollback goes on, or the call returns its error, which drops the guards. -/
def rollBack (os : Os) (guards : List RouteGuard) (routes : List AnyNet) (e : VpnError) : Installation :=
  match routes with
  | [] => ⟨dropGuards guards os, [], .failed e⟩
  | route :: todo => ⟨os, guards, .undoing route todo e⟩

/-- The command that is waited for completes. -/
def step (fails : Nat → Option VpnError) (s : Installation) : Installation :=
  match s.phase with
  | .adding route todo added calls =>
    match addRoute fails route s.os with
    | (.ok .added, os) => goOn os s.guards todo (added ++ [route]) calls
    | (.ok .alreadyExisted, os) => goOn os s.guards todo added calls
    | (.error e, os) => rollBack os s.guards added.reverse e
  | .undoing route todo e => rollBack (removeRoutes [route] s.os) s.guards todo e
  | .installed | .failed _ => s

def Ended (s : Installation) : Prop :=
  match s.phase with
  | .adding .. | .undoing .. => False
  | .installed | .failed _ => True

/-! ## Stopped -/

/-- What the command in flight does to the system. -/
def command (s : Installation) (os : Os) : Os :=
  match s.phase with
  | .adding route _ _ _ => (addRoute (fun _ => none) route os).2
  | .undoing route _ _ => removeRoutes [route] os
  | .installed | .failed _ => os

/-- The client is dropped at this wait. -/
def stop (s : Installation) : Straggler → Os
  | .never => dropGuards s.guards s.os
  | .before => dropGuards s.guards (s.command s.os)
  | .after => s.command (dropGuards s.guards s.os)

/-- The routes of the open call that are in the table. -/
def opened (s : Installation) : List AnyNet :=
  match s.phase with
  | .adding _ _ added _ => added
  | .undoing route todo _ => route :: todo
  | .installed | .failed _ => []

/-- The routes of the open call behind its command, if that takes effect. -/
def behind (s : Installation) : List AnyNet :=
  match s.phase with
  | .adding route _ added _ => added ++ [route]
  | .undoing _ todo _ => todo
  | .installed | .failed _ => []

end Installation

namespace VpnClient

variable (S : ClientSetup) (st : VpnClient) (info : ServerInfo)

/-- The installation after `n` commands. -/
def installing (fails : Nat → Option String) (n : Nat) : Installation :=
  (Installation.step fun n => (fails n).map .tunDevice)^[n] (.call st.os [] (routeCalls S.config info))

/-- The client behind an installation that has come to its end. -/
def installEnded (s : Installation) : Option VpnClient :=
  match s.phase with
  | .failed e => some ({ st with os := s.os, tun := none, bypass := none }.giveUp e)
  | .installed =>
    some { st with
      os := s.os
      status := .setConnected st.now (connectedInfo S.config info) st.bypass.isSome
      phase := .up info s.guards }
  | _ => none

/-- The client is dropped in the middle of an installation. -/
def stopInstalling (s : Installation) (straggler : Straggler) : VpnClient :=
  { st with os := s.stop straggler, tun := none, bypass := none, phase := .stopped }

end VpnClient

/-! ## Run to the end -/

/-- The calls one after the other, each as one step. -/
def holdAll (fails : Nat → Option VpnError) (calls : List (List AnyNet))
    (result : Except VpnError (List RouteGuard) × Os) : Except VpnError (List RouteGuard) × Os :=
  calls.foldl (fun result routes => hold result (some (addLoop fails routes []))) result

theorem holdAll_error (fails : Nat → Option VpnError) (calls : List (List AnyNet)) (e : VpnError) (os : Os) :
    holdAll fails calls (.error e, os) = (.error e, os) := by
  induction calls with
  | nil => rfl
  | cons routes calls ih => exact ih

theorem holdAll_append (fails : Nat → Option VpnError) (calls calls' : List (List AnyNet))
    (result : Except VpnError (List RouteGuard) × Os) :
    holdAll fails (calls ++ calls') result = holdAll fails calls' (holdAll fails calls result) :=
  List.foldl_append

theorem hold_none (result : Except VpnError (List RouteGuard) × Os) : hold result none = result := by
  obtain ⟨_ | _, os⟩ := result <;> rfl

/-- The batches of `installRoutes` are the calls. -/
theorem installRoutes_eq_holdAll (fails : Nat → Option VpnError) (config : VpnClientConfig) (info : ServerInfo)
    (os : Os) : installRoutes fails config info os = holdAll fails (routeCalls config info) (.ok [], os) := by
  have hgateway (result : Except VpnError (List RouteGuard) × Os) : hold result (gatewayRoute fails info) =
      holdAll fails (info.network.map fun net => ([net].flatMap expandDefaultRoute4).map .v4).toList result := by
    cases hnet : info.network <;> simp only [gatewayRoute, hnet]
    · exact hold_none result
    · rfl
  have hgateway6 (result : Except VpnError (List RouteGuard) × Os) : hold result (gatewayRoute6 fails info) =
      holdAll fails (match info.assignedIp6, info.network6 with
        | some _, some net6 => [([net6].flatMap expandDefaultRoute6).map .v6]
        | _, _ => []) result := by
    cases hip : info.assignedIp6 <;> cases hnet : info.network6 <;> simp only [gatewayRoute6, hip, hnet]
    case some.some => rfl
    all_goals exact hold_none result
  have hcustom (cond : Bool) (routes : List AnyNet) (result : Except VpnError (List RouteGuard) × Os) :
      hold result (if cond then some (addLoop fails routes []) else none) =
        holdAll fails (if cond then [routes] else []) result := by
    cases cond
    · exact hold_none result
    · rfl
  simp only [installRoutes, routeCalls, holdAll_append, ← hgateway, ← hgateway6, ← hcustom]
  rfl

namespace Installation

variable {fails : Nat → Option VpnError}

/-- What the installation still comes to. -/
def rest (fails : Nat → Option VpnError) (s : Installation) : Except VpnError (List RouteGuard) × Os :=
  match s.phase with
  | .adding route todo added calls =>
    holdAll fails calls (hold (.ok s.guards, s.os) (some (addLoop fails (route :: todo) added)))
  | .undoing route todo e => (.error e, dropGuards s.guards (removeRoutes (route :: todo) s.os))
  | .installed => (.ok s.guards, s.os)
  | .failed e => (.error e, s.os)

theorem rest_call (os : Os) (guards : List RouteGuard) (calls : List (List AnyNet)) :
    rest fails (call os guards calls) = holdAll fails calls (.ok guards, os) := by
  induction calls generalizing guards with
  | nil => rfl
  | cons routes calls ih =>
    cases routes with
    | nil => exact ih (⟨[]⟩ :: guards)
    | cons route todo => rfl

theorem rest_goOn (os : Os) (guards : List RouteGuard) (todo added : List AnyNet) (calls : List (List AnyNet)) :
    rest fails (goOn os guards todo added calls) =
      holdAll fails calls (hold (.ok guards, os) (some (addLoop fails todo added))) := by
  cases todo with
  | nil => exact rest_call os (⟨added⟩ :: guards) calls
  | cons route todo => rfl

theorem rest_rollBack (os : Os) (guards : List RouteGuard) (routes : List AnyNet) (e : VpnError) :
    rest fails (rollBack os guards routes e) = (.error e, dropGuards guards (removeRoutes routes os)) := by
  cases routes with
  | nil => simp [rollBack, rest, removeRoutes, removeAll]
  | cons route todo => rfl

/-- No command changes what the installation comes to. -/
theorem rest_step (s : Installation) : rest fails (step fails s) = rest fails s := by
  obtain ⟨os, guards, phase⟩ := s
  cases phase with
  | adding route todo added calls =>
    show rest fails (match addRoute fails route os with
      | (.ok .added, os) => goOn os guards todo (added ++ [route]) calls
      | (.ok .alreadyExisted, os) => goOn os guards todo added calls
      | (.error e, os) => rollBack os guards added.reverse e) =
        holdAll fails calls (hold (.ok guards, os) (some (addLoop fails (route :: todo) added)))
    rw [hold, addLoop]
    rcases addRoute fails route os with ⟨_ | _ | _, os'⟩
    · rw [rest_rollBack]
      exact (holdAll_error ..).symm
    · exact rest_goOn ..
    · exact rest_goOn ..
  | undoing route todo e =>
    show rest fails (rollBack (removeRoutes [route] os) guards todo e) = _
    rw [rest_rollBack, ← removeRoutes_append]
    rfl
  | installed => rfl
  | failed e => rfl

theorem rest_iterate (n : Nat) (s : Installation) : rest fails ((step fails)^[n] s) = rest fails s := by
  induction n with
  | zero => rfl
  | succ n ih => rw [Function.iterate_succ_apply', rest_step, ih]

/-- At most so many commands are left. -/
def left (s : Installation) : Nat :=
  match s.phase with
  | .adding _ todo added calls => 2 * (todo.length + 1) + added.length + 2 * (calls.map List.length).sum
  | .undoing _ todo _ => todo.length + 1
  | .installed | .failed _ => 0

theorem left_call (os : Os) (guards : List RouteGuard) (calls : List (List AnyNet)) :
    (call os guards calls).left ≤ 2 * (calls.map List.length).sum := by
  induction calls generalizing guards with
  | nil => exact Nat.zero_le _
  | cons routes calls ih =>
    cases routes with
    | nil => simpa [call] using ih (⟨[]⟩ :: guards)
    | cons route todo =>
      simp only [call, left, List.map_cons, List.sum_cons, List.length_cons, List.length_nil]
      omega

theorem left_goOn (os : Os) (guards : List RouteGuard) (todo added : List AnyNet) (calls : List (List AnyNet)) :
    (goOn os guards todo added calls).left ≤
      2 * todo.length + added.length + 2 * (calls.map List.length).sum := by
  cases todo with
  | nil => exact Nat.le_trans (left_call ..) (by simp)
  | cons route todo => simp [goOn, left]

theorem left_rollBack (os : Os) (guards : List RouteGuard) (routes : List AnyNet) (e : VpnError) :
    (rollBack os guards routes e).left = routes.length := by
  cases routes <;> rfl

theorem left_step (s : Installation) : s.Ended ∨ (step fails s).left < s.left := by
  obtain ⟨os, guards, phase⟩ := s
  cases phase with
  | adding route todo added calls =>
    refine .inr ?_
    dsimp only [step]
    rcases addRoute fails route os with ⟨_ | _ | _, os'⟩
    · rw [left_rollBack, List.length_reverse]
      simp only [left]
      omega
    · have h := left_goOn os' guards todo (added ++ [route]) calls
      simp only [left, List.length_append, List.length_singleton] at h ⊢
      omega
    · have h := left_goOn os' guards todo added calls
      simp only [left] at h ⊢
      omega
  | undoing route todo e =>
    refine .inr ?_
    rw [step, left_rollBack]
    exact Nat.lt_succ_self _
  | installed => exact .inl trivial
  | failed e => exact .inl trivial

theorem step_ended (s : Installation) (h : s.Ended) : step fails s = s := by
  obtain ⟨os, guards, phase⟩ := s
  cases phase with
  | adding | undoing => exact h.elim
  | installed | failed => rfl

end Installation

/-- **Command by command, the installation comes to what it is as one step.** -/
theorem VpnClient.installEnded_eq (S : ClientSetup) (st : VpnClient) (info : ServerInfo)
    (fails : Nat → Option String) :
    ∃ n, ∀ m, n ≤ m → st.installEnded S info (st.installing S info fails m) = some (st.install S info fails) := by
  refine ⟨(Installation.call st.os [] (routeCalls S.config info)).left, fun m hm => ?_⟩
  have hended : (st.installing S info fails m).Ended :=
    iterate_done Installation.left Installation.step_ended Installation.left_step m _ hm
  have hrest : (st.installing S info fails m).rest (fun n => (fails n).map .tunDevice) =
      installRoutes (fun n => (fails n).map .tunDevice) S.config info st.os := by
    rw [installRoutes_eq_holdAll, ← Installation.rest_call]
    exact Installation.rest_iterate m _
  unfold VpnClient.install
  rw [← hrest]
  generalize st.installing S info fails m = s at hended
  obtain ⟨os, guards, phase⟩ := s
  cases phase with
  | adding | undoing => exact hended.elim
  | installed | failed => rfl

/-! ## At every wait -/

/-- The routes are in the table in addition to `table`, each once, and nothing that was in it has
been removed. -/
structure Owned (table : Finset AnyNet) (os : Os) (routes : List AnyNet) : Prop where
  owns : Owns table os.table (prefixes routes)
  nodup : (routes.map AnyNet.trunc).Nodup
  removed : ∀ k ∈ os.removed, k ∉ table

namespace Owned

variable {table : Finset AnyNet} {os os' : Os} {routes routes' : List AnyNet}

theorem perm (h : Owned table os routes) (hp : routes.Perm routes') : Owned table os routes' := by
  have hsame : prefixes routes = prefixes routes' := List.toFinset_eq_of_perm _ _ (hp.map _)
  exact ⟨hsame ▸ h.owns, (hp.map _).nodup_iff.1 h.nodup, h.removed⟩

theorem installed {owned : List AnyNet} {ks : Finset AnyNet} (h : Owned table os routes)
    (hinst : Installed os os' owned ks) (hnodup : (owned.map AnyNet.trunc).Nodup) :
    Owned table os' (routes ++ owned) := by
  refine ⟨?_, ?_, hinst.removed ▸ h.removed⟩
  · rw [prefixes_append]
    exact h.owns.trans hinst.owns
  · rw [List.map_append]
    refine h.nodup.append hnodup fun k hk hk' => ?_
    refine hinst.owns.fresh k (List.mem_toFinset.2 hk') ?_
    rw [h.owns.eq]
    exact Finset.mem_union_right _ (List.mem_toFinset.2 hk)

theorem undone (h : Owned table os routes) (hu : Undone os os') : Owned table os' routes := by
  obtain ⟨htable, ks, hremoved, hfresh⟩ := hu
  refine ⟨htable ▸ h.owns, h.nodup, fun k hk hmem => ?_⟩
  rw [hremoved] at hk
  rcases List.mem_append.1 hk with hk | hk
  · exact h.removed k hk hmem
  · exact hfresh k hk (h.owns.eq ▸ Finset.mem_union_left _ hmem)

/-- Routes can be taken back in any order. -/
theorem remove (h : Owned table os (routes ++ routes')) {removed : List AnyNet} (hp : removed.Perm routes) :
    Owned table (removeRoutes removed os) routes' := by
  have hsame : prefixes removed = prefixes routes := List.toFinset_eq_of_perm _ _ (hp.map _)
  have howns := h.owns
  have hnodup := h.nodup
  rw [prefixes_append] at howns
  rw [List.map_append, List.nodup_append'] at hnodup
  refine ⟨howns.removeSome (List.disjoint_toFinset_iff_disjoint.2 hnodup.2.2) hsame, hnodup.2.1, fun k hk => ?_⟩
  rcases List.mem_append.1 hk with hk | hk
  · exact h.removed k hk
  · exact howns.fresh k (Finset.mem_union_left _ (hsame ▸ List.mem_toFinset.2 hk))

theorem drop {guards : List RouteGuard} (h : Owned table os (guardRoutes guards ++ routes)) :
    Owned table (dropGuards guards os) routes := by
  have hreverse : (guards.flatMap fun guard => guard.routes.reverse) = (guardRoutes guards).reverse := by
    rw [guardRoutes, List.reverse_flatMap, List.reverse_reverse]
    rfl
  rw [dropGuards_eq, hreverse]
  exact h.remove (List.reverse_perm _)

theorem addRoute {fails : Nat → Option VpnError} {route : AnyNet} {result : Except VpnError RouteAddOutcome}
    (h : Owned table os routes) (heq : EzVpn.addRoute fails route os = (result, os')) :
    match result with
    | .ok .added => Owned table os' (routes ++ [route])
    | .ok .alreadyExisted | .error _ => Owned table os' routes := by
  rcases addRoute_cases fails route os with ⟨_, heq', hinst⟩ | ⟨_, heq', hinst⟩ | ⟨e, _, heq', -, hu⟩ <;>
    cases heq.symm.trans heq'
  · exact h.installed hinst (List.nodup_singleton _)
  · exact List.append_nil routes ▸ h.installed hinst List.nodup_nil
  · exact h.undone hu

end Owned

namespace Installation

variable {table : Finset AnyNet} {all : List (List AnyNet)} {fails : Nat → Option VpnError}

/-- The open call is one of `all`, and so are the calls behind it. -/
def Within (all : List (List AnyNet)) : InstallPhase → Prop
  | .adding route todo added calls => calls ⊆ all ∧ ∃ routes ∈ all, route :: todo ⊆ routes ∧ added ⊆ routes
  | .undoing route todo _ => ∃ routes ∈ all, route :: todo ⊆ routes
  | .installed | .failed _ => True

/-- What holds at every wait. -/
structure Inv (table : Finset AnyNet) (all : List (List AnyNet)) (s : Installation) : Prop where
  owned : Owned table s.os (guardRoutes s.guards ++ s.opened)
  within : Within all s.phase

theorem inv_call {os : Os} {guards : List RouteGuard} {calls : List (List AnyNet)}
    (h : Owned table os (guardRoutes guards)) (hcalls : calls ⊆ all) : Inv table all (call os guards calls) := by
  induction calls generalizing guards with
  | nil => exact ⟨by simpa [call, opened] using h, trivial⟩
  | cons routes calls ih =>
    obtain ⟨hroutes, hrest⟩ := List.cons_subset.1 hcalls
    cases routes with
    | nil => exact ih (by rwa [guardRoutes_cons, List.append_nil]) hrest
    | cons route todo =>
      exact ⟨by simpa [call, opened] using h, hrest, _, hroutes, List.Subset.refl _, List.nil_subset _⟩

theorem inv_goOn {os : Os} {guards : List RouteGuard} {todo added routes : List AnyNet}
    {calls : List (List AnyNet)} (h : Owned table os (guardRoutes guards ++ added)) (hcalls : calls ⊆ all)
    (hroutes : routes ∈ all) (htodo : todo ⊆ routes) (hadded : added ⊆ routes) :
    Inv table all (goOn os guards todo added calls) := by
  cases todo with
  | nil => exact inv_call (by rwa [guardRoutes_cons]) hcalls
  | cons route todo => exact ⟨h, hcalls, routes, hroutes, htodo, hadded⟩

theorem inv_rollBack {os : Os} {guards : List RouteGuard} {added routes : List AnyNet} {e : VpnError}
    (h : Owned table os (guardRoutes guards ++ added)) (hroutes : routes ∈ all) (hadded : added ⊆ routes) :
    Inv table all (rollBack os guards added e) := by
  cases added with
  | nil => exact ⟨h.drop, trivial⟩
  | cons route todo => exact ⟨h, routes, hroutes, hadded⟩

theorem inv_step (s : Installation) (h : Inv table all s) : Inv table all (step fails s) := by
  obtain ⟨os, guards, phase⟩ := s
  cases phase with
  | adding route todo added calls =>
    obtain ⟨howned, hcalls, routes, hroutes, htodo, hadded⟩ := h
    obtain ⟨hroute, htodo⟩ := List.cons_subset.1 htodo
    dsimp only [step]
    rcases heq : addRoute fails route os with ⟨e | _ | _, os'⟩
    · exact inv_rollBack ((howned.addRoute heq).perm ((List.reverse_perm added).symm.append_left _)) hroutes
        fun r hr => hadded (List.mem_reverse.1 hr)
    · refine inv_goOn ?_ hcalls hroutes htodo ?_
      · rw [← List.append_assoc]
        exact howned.addRoute heq
      · exact List.append_subset.2 ⟨hadded, List.cons_subset.2 ⟨hroute, List.nil_subset _⟩⟩
    · exact inv_goOn (howned.addRoute heq) hcalls hroutes htodo hadded
  | undoing route todo e =>
    obtain ⟨howned, routes, hroutes, hsub⟩ := h
    exact inv_rollBack ((howned.perm List.perm_middle).remove (List.Perm.refl [route])) hroutes
      (List.cons_subset.1 hsub).2
  | installed | failed => exact h

/-- The command in flight, wherever it comes. -/
theorem command_owned (s : Installation) {os : Os} {routes : List AnyNet} (h : Owned table os (routes ++ s.opened)) :
    Owned table (s.command os) (routes ++ s.opened) ∨ Owned table (s.command os) (routes ++ s.behind) := by
  obtain ⟨os', guards, phase⟩ := s
  cases phase with
  | adding route todo added calls =>
    rcases heq : addRoute (fun _ => none) route os with ⟨e | _ | _, os''⟩
    · exact .inl (by simpa only [command, heq] using h.addRoute heq)
    · exact .inr (by simpa only [command, opened, behind, heq, List.append_assoc] using h.addRoute heq)
    · exact .inl (by simpa only [command, heq] using h.addRoute heq)
  | undoing route todo e => exact .inr ((h.perm List.perm_middle).remove (List.Perm.refl [route]))
  | installed | failed => exact .inl h

/-- What a stop leaves: the routes of the open call, before its command or behind it. -/
theorem Inv.stop {s : Installation} (h : Inv table all s) (straggler : Straggler) :
    Owned table (s.stop straggler) s.opened ∨
      straggler ≠ .never ∧ Owned table (s.stop straggler) s.behind := by
  cases straggler with
  | never => exact .inl h.owned.drop
  | before => exact (s.command_owned h.owned).imp Owned.drop fun hb => ⟨nofun, hb.drop⟩
  | after =>
    have hopened : Owned table (dropGuards s.guards s.os) ([] ++ s.opened) := h.owned.drop
    exact (s.command_owned hopened).imp id fun hb => ⟨nofun, hb⟩

theorem Inv.opened_within {s : Installation} (h : Inv table all s) :
    (s.opened = [] ∧ s.behind = []) ∨ ∃ routes ∈ all, s.opened ⊆ routes ∧ s.behind ⊆ routes := by
  obtain ⟨os, guards, phase⟩ := s
  cases phase with
  | adding route todo added calls =>
    obtain ⟨-, -, routes, hroutes, htodo, hadded⟩ := h
    refine .inr ⟨routes, hroutes, hadded, List.append_subset.2 ⟨hadded, ?_⟩⟩
    exact List.cons_subset.2 ⟨htodo List.mem_cons_self, List.nil_subset _⟩
  | undoing route todo e =>
    obtain ⟨-, routes, hroutes, hsub⟩ := h
    exact .inr ⟨routes, hroutes, hsub, (List.cons_subset.1 hsub).2⟩
  | installed | failed => exact .inl ⟨rfl, rfl⟩

end Installation

/-- **A stop while routes are added.**  In every life that has come to the installation of its
session's routes: command by command it comes to what it is as one step.  A client that is dropped
at one of its waits has taken back the routes of all calls that had returned, and the device and
the bypass route manager are gone.  What its commands leave in the table are routes of the one open
call, those added or not yet rolled back, with or without the effect of the command in flight; all
of them are the client's own.  Nothing that was in the table is ever removed.  Removals succeed here,
and that the system may take routes out together with the device is no part of the table. -/
theorem install_stopped (S : ClientSetup) (table : Finset AnyNet) (as : List ClientAction) (info : ServerInfo)
    (fails : Nat → Option String) (hphase : (run (VpnClient.step S) (.start table) as).phase = .bypassed info) :
    let st := run (VpnClient.step S) (.start table) as
    (∃ n, ∀ m, n ≤ m →
      st.installEnded S info (st.installing S info fails m) = some (st.install S info fails)) ∧
    ∀ n straggler,
      let s := st.installing S info fails n
      let stopped := st.stopInstalling s straggler
      (∃ left, (left = s.opened ∨ straggler ≠ .never ∧ left = s.behind) ∧
        (left = [] ∨ ∃ routes ∈ routeCalls S.config info, left ⊆ routes) ∧
        stopped.os.table = table ∪ prefixes left ∧ ∀ k ∈ prefixes left, k ∉ table) ∧
      (∀ k ∈ stopped.os.removed, k ∉ table) ∧ stopped.tun = none ∧ stopped.bypass = none := by
  intro st
  refine ⟨st.installEnded_eq S info fails, fun n straggler => ?_⟩
  obtain ⟨hremoved, hhost⟩ := VpnClient.hostInv_run S table as
  rw [hphase] at hhost
  have hstart : Owned table st.os (guardRoutes []) := ⟨hhost.1 ▸ .refl _, List.nodup_nil, hremoved⟩
  have hinv : Installation.Inv table (routeCalls S.config info) (st.installing S info fails n) :=
    Function.Iterate.rec (Installation.Inv table _) (Installation.inv_call hstart (List.Subset.refl _))
      Installation.inv_step n
  dsimp only
  generalize st.installing S info fails n = s at hinv
  have hwithin := hinv.opened_within
  rcases hinv.stop straggler with hleft | ⟨hnever, hleft⟩
  · exact ⟨⟨s.opened, .inl rfl, hwithin.imp And.left fun ⟨routes, hr, ho, _⟩ => ⟨routes, hr, ho⟩,
      hleft.owns.eq, hleft.owns.fresh⟩, hleft.removed, rfl, rfl⟩
  · exact ⟨⟨s.behind, .inr ⟨hnever, rfl⟩, hwithin.imp And.right fun ⟨routes, hr, _, hb⟩ => ⟨routes, hr, hb⟩,
      hleft.owns.eq, hleft.owns.fresh⟩, hleft.removed, rfl, rfl⟩

/-- 192.168.16.0/20 and 192.168.32.0/20 behind a server that assigns 10.0.0.2/20. -/
def twoRoutes : ClientSetup where
  platform := .linux
  config := ⟨[⟨0xc0a81000#32, 20, by decide⟩, ⟨0xc0a82000#32, 20, by decide⟩], []⟩
  serverNodeId := "server"
  parsesNodeId := fun _ => true
  autoReconnect := false
  maxAttempts := none
  fromSlice := fun _ => .ok ⟨vpnProtocolVersion, true, some 0x0a000002#32, some ⟨0x0a000000#32, 20, by decide⟩,
    some 0x0a000001#32, none, none, none, none, []⟩

def twoRoutesInfo : ServerInfo :=
  ⟨some 0x0a000002#32, some ⟨0x0a000000#32, 20, by decide⟩, some 0x0a000001#32, none, none, none, []⟩

/-- Up to the installation of the routes. -/
def twoRoutesLife : List ClientAction :=
  [.dial (.responds [[0, 0, 0, 0]]), .check [], .create (.ok "tun0"),
    .bypass ⟨"tun0", fun _ => none, [], fun _ => ⟨.error (.network "no route"), .ok .added⟩⟩]

/-- Dropped while it waits for the second configured route: the network of the server is taken
back, the first configured route is not. -/
theorem install_stopped_twoRoutes :
    let st := run (VpnClient.step twoRoutes) (.start ∅) twoRoutesLife
    (st.stopInstalling (st.installing twoRoutes twoRoutesInfo (fun _ => none) 2) .never).os.table =
      prefixes [.v4 ⟨0xc0a81000#32, 20, by decide⟩] := by
  intro st
  obtain ⟨⟨left, hleft, -, htable, -⟩, -⟩ :=
    (install_stopped twoRoutes ∅ twoRoutesLife twoRoutesInfo (fun _ => none) rfl).2 2 .never
  rw [htable, Finset.empty_union, hleft.resolve_right fun h => h.1 rfl]
  rfl

end EzVpn
