import EzVpn.Client.Overlap
import EzVpn.Mobile.Handle

/-!
# What the app sees

Over every interleaving of the task, its callbacks and `ezvpn_stop`:

* `silent_after_stop`: once `stop` has set the flag no callback is running and none will run;
* `events_wellFormed`: the events are outages, each of retries and then a resumption, and at
  most one final event, which is the last;
* `reconfigure_iff_changed`: the task asks for a new configuration if and only if a reconnect
  brought a different one, and then no traffic flows any more;
* `same_answer_resumes`: a server that answers as before is resumed, whatever order the relays
  were resolved in.
-/

namespace EzVpn.EzvpnHandle

open Lib

section
variable {fromSlice : Bytes → Except String VpnHandshakeResponse} {routes : List Ipv4Net}
  {routes6 : List Ipv6Net} {debug : MobileNetworkConfig → String} {h h' : EzvpnHandle} {a : Action}

/-! ## Stopping -/

/-- The flag is set only when no callback runs, and keeps further ones from starting. -/
def StopHolds (h : EzvpnHandle) : Prop := h.stopped = true → h.locked = false

theorem continueAt_unlocked (failures : Option Nat) (h : EzvpnHandle) :
    locked { h with phase := continueAt failures } = false := by
  cases failures <;> rfl

theorem StopHolds.move (hs : h.StopHolds) (hmove : Moves fromSlice routes routes6 debug h a h') :
    h'.StopHolds := by
  intro hstop
  cases hmove with
  | idle => exact hs hstop
  | muteReport _ _ | returned _ => exact continueAt_unlocked ..
  | reports _ hm | hooks _ hm =>
    -- a callback starts only while the flag is unset
    have hflag : h.stopped = true := hstop
    simp [mute, hflag] at hm
  | stop hl => exact hl
  | started | opened | openFails | splitFails | lost | muteHook | hookReturned | failed | refused
  | changed | resumed | aborted => rfl

/-- Silent from here on. -/
structure Silent (events : List Event) (h : EzvpnHandle) : Prop where
  stopped : h.stopped = true
  unlocked : h.locked = false
  delivered : h.delivered = events

theorem Silent.move {events : List Event} (hs : Silent events h)
    (hmove : Moves fromSlice routes routes6 debug h a h') : Silent events h' := by
  have hkeep : h'.stopped = true ∧ h'.delivered = h.delivered := by
    cases hmove with
    | reports _ hm | hooks _ hm => simp [mute, hs.stopped] at hm
    | stop _ => exact ⟨rfl, rfl⟩
    | idle | started | opened | openFails | splitFails | lost | muteReport | muteHook | returned
    | hookReturned | failed | refused | changed | resumed | aborted => exact ⟨hs.stopped, rfl⟩
  exact ⟨hkeep.1, StopHolds.move (fun _ => hs.unlocked) hmove hkeep.1, hkeep.2.trans hs.delivered⟩

/-! ## The order of events -/

/-- How the app stands: the tunnel is up, it is down, or it has ended. -/
inductive Standing
  | up
  | down
  | ended
deriving DecidableEq

def Standing.next : Standing → Event → Option Standing
  | up, .reconnecting _ => some down
  | up, .ended _ => some ended
  | down, .reconnecting _ => some down
  | down, .reconnected => some up
  | down, .ended _ => some ended
  | down, .reconfigure _ => some ended
  | _, _ => none

def standing (events : List Event) : Option Standing := events.foldlM Standing.next .up

theorem standing_concat (events : List Event) (e : Event) :
    standing (events ++ [e]) = (standing events).bind (Standing.next · e) := by
  rw [standing, List.foldlM_append]
  cases hs : List.foldlM Standing.next .up events with
  | none => simp [standing, hs]
  | some s => simp [standing, hs]

/-- `ENDED` and `RECONFIGURE`. -/
def isFinal : Event → Bool
  | .ended _ | .reconfigure _ => true
  | .reconnecting _ | .reconnected => false

theorem Standing.next_final {s s' : Standing} {e : Event} (hf : isFinal e = true)
    (hn : s.next e = some s') : s' = .ended := by
  cases e with
  | reconnecting _ | reconnected => cases hf
  | ended _ => cases s <;> cases hn <;> rfl
  | reconfigure _ => cases s <;> cases hn; rfl

/-- Nothing follows a final event. -/
theorem eq_nil_of_final (before : List Event) {after : List Event} {e : Event} (hf : isFinal e = true)
    (h : (standing (before ++ e :: after)).isSome = true) : after = [] := by
  cases after with
  | nil => rfl
  | cons e' rest =>
    rw [standing, List.foldlM_append] at h
    cases hs : List.foldlM Standing.next .up before with
    | none => simp [hs] at h
    | some s =>
      cases hn : s.next e with
      | none => simp [hs, List.foldlM_cons, hn] at h
      | some s' =>
        obtain rfl := Standing.next_final hf hn
        have hdead : Standing.ended.next e' = none := by cases e' <;> rfl
        simp [hs, List.foldlM_cons, hn, hdead] at h

def isReconfigure : Except VpnError Unit → Bool
  | .error (.serverConfigChanged _) => true
  | _ => false

/-- Where the task can be when the app, told of everything so far, stands at `s`. -/
def Tied : TaskPhase → Standing → Prop
  | .pending, s | .device, s | .tunnel, s | .calling none, s => s = .up
  | .calling (some _), s | .retry _, s => s = .down
  | .report (.reconnecting _) (some _), s => s ≠ .ended
  | .report .reconnected none, s => s = .down
  | .report _ _, _ => False
  | .hook result, s => s ≠ .ended ∧ (isReconfigure result = true → s = .down)
  | .callingHook, _ | .over, _ => True

structure Seen (h : EzvpnHandle) : Prop where
  fresh : h.phase = .pending → h.delivered = []
  wellFormed : ∃ s, standing h.delivered = some s ∧ (h.mute = false → Tied h.phase s)

theorem seen_connected (config : MobileNetworkConfig) : (connected config).Seen :=
  ⟨fun _ => rfl, .up, rfl, fun _ => rfl⟩

/-- A step of the task that tells the app nothing. -/
theorem Seen.tell_nothing (hs : h.Seen) (hd : h'.delivered = h.delivered)
    (hfresh : h'.phase ≠ .pending)
    (htied : ∀ s, (h.mute = false → Tied h.phase s) → h'.mute = false → Tied h'.phase s) :
    h'.Seen := by
  obtain ⟨s, hstand, htie⟩ := hs.wellFormed
  exact ⟨fun hp => absurd hp hfresh, s, by rw [hd]; exact hstand, htied s htie⟩

/-- A callback moves the app on. -/
theorem Seen.tell (hs : h.Seen) (hm : h.mute = false) {e : Event}
    (hd : h'.delivered = h.delivered ++ [e]) (hfresh : h'.phase ≠ .pending)
    (hnext : ∀ s, Tied h.phase s → ∃ s', s.next e = some s' ∧ Tied h'.phase s') : h'.Seen := by
  obtain ⟨s, hstand, htie⟩ := hs.wellFormed
  obtain ⟨s', hn, htied⟩ := hnext s (htie hm)
  refine ⟨fun hp => absurd hp hfresh, s', ?_, fun _ => htied⟩
  rw [hd, standing_concat, hstand]
  exact hn

theorem tied_continueAt {failures : Option Nat} {s : Standing} (hs : Tied (.calling failures) s) :
    Tied (continueAt failures) s := by
  cases failures <;> exact hs

theorem continueAt_ne_pending (failures : Option Nat) : continueAt failures ≠ .pending := by
  cases failures <;> nofun

theorem continueAt_ne_hook (failures : Option Nat) (result : Except VpnError Unit) :
    continueAt failures ≠ .hook result := by
  cases failures <;> nofun

/-- Reports lead on to the standing their continuation needs. -/
theorem report_next {event : SessionEvent} {failures : Option Nat} {s : Standing}
    (hs : Tied (.report event failures) s) :
    ∃ s', s.next event.emit = some s' ∧ Tied (.calling failures) s' := by
  cases event with
  | reconnecting reason =>
    cases failures with
    | none => exact hs.elim
    | some n =>
      cases s with
      | up | down => exact ⟨.down, rfl, rfl⟩
      | ended => exact absurd rfl hs
  | reconnected =>
    cases failures with
    | none => obtain rfl : s = .down := hs; exact ⟨.up, rfl, rfl⟩
    | some n => exact hs.elim

theorem hook_next {result : Except VpnError Unit} {s : Standing} (hs : Tied (.hook result) s) :
    ∃ s', s.next (exitEvent result) = some s' ∧ Tied .callingHook s' := by
  obtain ⟨hne, hdown⟩ := hs
  unfold exitEvent
  split
  · cases s with
    | up | down => exact ⟨.ended, rfl, trivial⟩
    | ended => exact absurd rfl hne
  · obtain rfl := hdown rfl
    exact ⟨.ended, rfl, trivial⟩
  · cases s with
    | up | down => exact ⟨.ended, rfl, trivial⟩
    | ended => exact absurd rfl hne

theorem Seen.move (hs : h.Seen) (hmove : Moves fromSlice routes routes6 debug h a h') : h'.Seen := by
  cases hmove with
  | idle => exact hs
  | started hp _ =>
    -- the callback is given only now, when nothing was reported yet
    exact ⟨nofun, .up, by rw [hs.fresh hp]; rfl, fun _ => rfl⟩
  | opened hp => exact hs.tell_nothing rfl nofun fun s htie hm => by have := htie hm; rwa [hp] at this
  | openFails hp | splitFails hp =>
    refine hs.tell_nothing rfl nofun fun s htie hm => ?_
    have hup := htie hm
    rw [hp] at hup
    obtain rfl : s = .up := hup
    exact ⟨nofun, nofun⟩
  | lost hp =>
    refine hs.tell_nothing rfl nofun fun s htie hm => ?_
    have hup := htie hm
    rw [hp] at hup
    obtain rfl : s = .up := hup
    exact nofun
  | muteReport hp hm =>
    exact hs.tell_nothing rfl (continueAt_ne_pending _) fun s _ hm' => by rw [show h.mute = false from hm'] at hm; cases hm
  | muteHook hp hm => exact hs.tell_nothing rfl nofun fun _ _ _ => trivial
  | reports hp hm =>
    exact hs.tell hm rfl nofun fun s htie => report_next (by rwa [hp] at htie)
  | hooks hp hm => exact hs.tell hm rfl nofun fun s htie => hook_next (by rwa [hp] at htie)
  | returned hp =>
    refine hs.tell_nothing rfl (continueAt_ne_pending _) fun s htie hm => tied_continueAt ?_
    have := htie hm
    rwa [hp] at this
  | hookReturned hp => exact hs.tell_nothing rfl nofun fun _ _ _ => trivial
  | failed hp _ _ =>
    refine hs.tell_nothing rfl nofun fun s htie hm => ?_
    have hdown := htie hm
    rw [hp] at hdown
    obtain rfl : s = .down := hdown
    exact nofun
  | refused hp _ _ | changed hp _ _ =>
    refine hs.tell_nothing rfl nofun fun s htie hm => ?_
    have hdown := htie hm
    rw [hp] at hdown
    obtain rfl : s = .down := hdown
    exact ⟨nofun, fun _ => rfl⟩
  | resumed hp _ _ =>
    exact hs.tell_nothing rfl nofun fun s htie hm => by have := htie hm; rwa [hp] at this
  | stop _ =>
    obtain ⟨s, hstand, _⟩ := hs.wellFormed
    exact ⟨hs.fresh, s, hstand, nofun⟩
  | aborted _ _ => exact hs.tell_nothing rfl nofun fun _ _ _ => trivial

/-! ## Changed configurations -/

theorem readMessage_error {reader : List Bytes} {maxSize : Nat} {e : VpnError}
    (he : readMessage reader maxSize = .error e) : isReconfigure (.error e) = false := by
  unfold readMessage at he
  split at he
  · cases he; rfl
  · dsimp only at he
    split at he
    · cases he; rfl
    · split at he
      · cases he; rfl
      · cases he

theorem decode_error {data : Bytes} {e : VpnError}
    (he : VpnHandshakeResponse.decode fromSlice data = .error e) : isReconfigure (.error e) = false := by
  unfold VpnHandshakeResponse.decode at he
  split at he
  · cases he; rfl
  · split at he
    · cases he; rfl
    · split at he
      · cases he; rfl
      · cases he

theorem checkTriplet_error {A N : Type} {message : String} {ip : Option A} {net : Option N} {gw : Option A}
    {e : VpnError} (he : checkTriplet message ip net gw = .error e) : isReconfigure (.error e) = false := by
  unfold checkTriplet at he
  split at he <;> cases he
  rfl

theorem bind_eq_error {α β : Type} {x : Except VpnError α} {f : α → Except VpnError β} {e : VpnError}
    (h : x >>= f = .error e) : x = .error e ∨ ∃ v, x = .ok v ∧ f v = .error e := by
  cases x with
  | error e' => exact .inl (congrArg Except.error (Except.error.inj h))
  | ok v => exact .inr ⟨v, rfl, h⟩

theorem serverInfo_error {response : VpnHandshakeResponse} {e : VpnError}
    (he : serverInfo response = .error e) : isReconfigure (.error e) = false := by
  unfold serverInfo at he
  split at he
  · cases he; rfl
  · rcases bind_eq_error he with h4 | ⟨t4, _, he⟩
    · exact checkTriplet_error h4
    rcases bind_eq_error he with h6 | ⟨⟨ip6, net6, gw6⟩, _, he⟩
    · exact checkTriplet_error h6
    dsimp only at he
    split at he
    · cases he; rfl
    · cases he

/-- No error of a dial asks for a new configuration. -/
theorem establish_error {answer : Dial} {e : VpnError}
    (he : establish fromSlice routes routes6 answer = .error e) : isReconfigure (.error e) = false := by
  cases answer with
  | fails d => cases he; cases d <;> rfl
  | responds recv relayIps =>
    simp only [establish] at he
    split at he
    · next e' hshake =>
      cases he
      rcases bind_eq_error hshake with hread | ⟨r, _, hshake⟩
      · exact readMessage_error hread
      rcases bind_eq_error hshake with hdecode | ⟨response, _, hshake⟩
      · exact decode_error hdecode
      rcases bind_eq_error hshake with hinfo | ⟨info, _, hshake⟩
      · exact serverInfo_error hinfo
      · cases hshake
    · cases he

/-- A reconnect brings a session with another configuration. -/
def BringsChange (fromSlice : Bytes → Except String VpnHandshakeResponse) (routes : List Ipv4Net)
    (routes6 : List Ipv6Net) (config : MobileNetworkConfig) (h : EzvpnHandle) (a : Action) : Prop :=
  ∃ jitter answer failures link, a = .dial jitter answer ∧ h.phase = .retry failures ∧
    establish fromSlice routes routes6 answer = .ok link ∧ link.networkConfig ≠ config

/-- The task has returned, or is about to, because of a change. -/
def TaskPhase.leaving : TaskPhase → Bool
  | .hook result => isReconfigure result
  | .callingHook | .over => true
  | _ => false

/-- What is known of a handle, `C` being that a reconnect brought a change. -/
structure Asked (config : MobileNetworkConfig) (C : Prop) (h : EzvpnHandle) : Prop where
  applied : h.applied = config
  link : h.link = config
  delivered : ∀ message, .reconfigure message ∈ h.delivered → C
  hook : ∀ result, h.phase = .hook result → isReconfigure result = true → C
  leaving : C → TaskPhase.leaving h.phase = true
  told : C → h.mute = false → h.phase = .callingHook ∨ h.phase = .over →
    ∃ message, h.delivered.getLast? = some (.reconfigure message)

theorem exitEvent_reconfigure {result : Except VpnError Unit} {message : String}
    (h : exitEvent result = .reconfigure message) : isReconfigure result = true := by
  unfold exitEvent at h
  split at h
  · cases h
  · rfl
  · cases h

theorem exitEvent_of_isReconfigure {result : Except VpnError Unit} (h : isReconfigure result = true) :
    ∃ message, exitEvent result = .reconfigure message := by
  unfold isReconfigure at h
  split at h
  · exact ⟨_, rfl⟩
  · cases h

section
variable {config : MobileNetworkConfig} {C : Prop}

/-- A step of a task that is not leaving, to a phase that is not leaving either. -/
theorem Asked.stay (hs : Asked config C h) (hold : TaskPhase.leaving h.phase = false)
    (hnew : ∀ result, h'.phase = .hook result → isReconfigure result = false)
    (happlied : h'.applied = h.applied) (hlink : h'.link = config)
    (hdelivered : ∀ message, .reconfigure message ∈ h'.delivered → .reconfigure message ∈ h.delivered)
    (hno : ¬ BringsChange fromSlice routes routes6 config h a) :
    Asked config (C ∨ BringsChange fromSlice routes routes6 config h a) h' := by
  have hfalse : ¬ (C ∨ BringsChange fromSlice routes routes6 config h a) := by
    rintro (hc | hb)
    · rw [hs.leaving hc] at hold; cases hold
    · exact hno hb
  exact {
    applied := happlied.trans hs.applied
    link := hlink
    delivered := fun message hm => .inl (hs.delivered message (hdelivered message hm))
    hook := fun result hp hr => by rw [hnew result hp] at hr; cases hr
    leaving := fun hc => absurd hc hfalse
    told := fun hc => absurd hc hfalse }

/-- Only a retry that dials can bring a change. -/
theorem not_bringsChange (hp : ∀ failures, h.phase ≠ .retry failures) :
    ¬ BringsChange fromSlice routes routes6 config h a := by
  rintro ⟨_, _, failures, _, _, hretry, _⟩
  exact hp failures hretry

/-- A step of a task that is leaving. -/
theorem Asked.leave (hs : Asked config C h) (hp : ∀ failures, h.phase ≠ .retry failures)
    (happlied : h'.applied = h.applied) (hlink : h'.link = h.link)
    (hdelivered : ∀ message, .reconfigure message ∈ h'.delivered → C)
    (hhook : ∀ result, h'.phase = .hook result → isReconfigure result = true → C)
    (hleaving : C → TaskPhase.leaving h'.phase = true)
    (htold : C → h'.mute = false → h'.phase = .callingHook ∨ h'.phase = .over →
      ∃ message, h'.delivered.getLast? = some (.reconfigure message)) :
    Asked config (C ∨ BringsChange fromSlice routes routes6 config h a) h' := by
  have hold : C ∨ BringsChange fromSlice routes routes6 config h a → C :=
    fun hc => hc.resolve_right (not_bringsChange hp)
  exact {
    applied := happlied.trans hs.applied
    link := hlink.trans hs.link
    delivered := fun message hm => .inl (hdelivered message hm)
    hook := fun result hph hr => .inl (hhook result hph hr)
    leaving := fun hc => hleaving (hold hc)
    told := fun hc => htold (hold hc) }

theorem Asked.move (hs : Asked config C h) (hmove : Moves fromSlice routes routes6 debug h a h') :
    Asked config (C ∨ BringsChange fromSlice routes routes6 config h a) h' := by
  cases hmove with
  | idle hno =>
    have hold : C ∨ BringsChange fromSlice routes routes6 config h a → C := by
      rintro (hc | ⟨jitter, answer, failures, _, ha, hp, _⟩)
      · exact hc
      · exact absurd hp (hno jitter answer failures ha)
    exact { hs with
      delivered := fun message hm => .inl (hs.delivered message hm)
      hook := fun result hp hr => .inl (hs.hook result hp hr)
      leaving := fun hc => hs.leaving (hold hc)
      told := fun hc => hs.told (hold hc) }
  | started hp _ | opened hp | openFails hp | splitFails hp | lost hp =>
    refine hs.stay (by rw [hp]; rfl) ?_ rfl hs.link (fun _ hm => hm)
      (not_bringsChange fun _ hretry => by rw [hp] at hretry; cases hretry)
    intro result hnew
    first | cases hnew; rfl | cases hnew
  | muteReport hp _ | returned hp =>
    refine hs.stay (by rw [hp]; rfl) ?_ rfl hs.link (fun _ hm => hm)
      (not_bringsChange fun _ hretry => by rw [hp] at hretry; cases hretry)
    exact fun result hnew => absurd hnew (continueAt_ne_hook _ _)
  | reports hp _ =>
    refine hs.stay (by rw [hp]; rfl) (fun _ hnew => by cases hnew) rfl hs.link ?_
      (not_bringsChange fun _ hretry => by rw [hp] at hretry; cases hretry)
    intro message hm
    rename_i event _ _
    rcases List.mem_append.1 hm with hm | hm
    · exact hm
    · cases event <;> cases List.mem_singleton.1 hm
  | failed hp he _ =>
    refine hs.stay (by rw [hp]; rfl) (fun _ hnew => by cases hnew) rfl hs.link (fun _ hm => hm) ?_
    rintro ⟨_, _, _, _, ha, _, hl, _⟩
    cases ha
    rw [he] at hl; cases hl
  | refused hp he _ =>
    refine hs.stay (by rw [hp]; rfl) ?_ rfl hs.link (fun _ hm => hm) ?_
    · intro result hnew
      cases hnew
      exact establish_error he
    · rintro ⟨_, _, _, _, ha, _, hl, _⟩
      cases ha
      rw [he] at hl; cases hl
  | resumed hp he heq =>
    refine hs.stay (by rw [hp]; rfl) (fun _ hnew => by cases hnew) rfl (heq.trans hs.applied)
      (fun _ hm => hm) ?_
    rintro ⟨_, _, _, _, ha, _, hl, hne⟩
    cases ha
    rw [he] at hl
    cases hl
    exact hne (heq.trans hs.applied)
  | @changed jitter answer failures _ link hp he hne =>
    have hnow : BringsChange fromSlice routes routes6 config h (.dial jitter answer) :=
      ⟨jitter, answer, failures, link, rfl, hp, he, hs.applied ▸ hne⟩
    exact {
      applied := hs.applied
      link := hs.link
      delivered := fun _ _ => .inr hnow
      hook := fun _ _ _ => .inr hnow
      leaving := fun _ => rfl
      told := fun _ _ hp => by rcases hp with hp | hp <;> cases hp }
  | muteHook hp hm =>
    refine hs.leave (fun _ hretry => by rw [hp] at hretry; cases hretry) rfl rfl hs.delivered
      (fun _ hnew => by cases hnew) (fun _ => rfl) fun _ hm' => ?_
    rw [show h.mute = false from hm'] at hm; cases hm
  | hooks hp _ =>
    rename_i result _
    refine hs.leave (fun _ hretry => by rw [hp] at hretry; cases hretry) rfl rfl ?_
      (fun _ hnew => by cases hnew) (fun _ => rfl) fun hc _ _ => ?_
    · intro message hm
      rcases List.mem_append.1 hm with hm | hm
      · exact hs.delivered message hm
      · exact hs.hook result hp (exitEvent_reconfigure (List.mem_singleton.1 hm).symm)
    · have hleaving := hs.leaving hc
      rw [hp] at hleaving
      obtain ⟨message, hexit⟩ := exitEvent_of_isReconfigure hleaving
      exact ⟨message, by rw [hexit]; exact List.getLast?_concat⟩
  | hookReturned hp =>
    exact hs.leave (fun _ hretry => by rw [hp] at hretry; cases hretry) rfl rfl hs.delivered
      (fun _ hnew => by cases hnew) (fun _ => rfl) fun hc hm _ => hs.told hc hm (.inl hp)
  | stop _ =>
    have hno : ¬ BringsChange fromSlice routes routes6 config h .stop := by
      rintro ⟨_, _, _, _, ha, _⟩
      cases ha
    exact {
      applied := hs.applied
      link := hs.link
      delivered := fun message hm => .inl (hs.delivered message hm)
      hook := fun result hp hr => .inl (hs.hook result hp hr)
      leaving := fun hc => hs.leaving (hc.resolve_right hno)
      told := fun _ hm => by cases hm }
  | aborted hstop hp =>
    have hno : ¬ BringsChange fromSlice routes routes6 config h .abortLands := by
      rintro ⟨_, _, _, _, ha, _⟩
      cases ha
    exact {
      applied := hs.applied
      link := hs.link
      delivered := fun message hm => .inl (hs.delivered message hm)
      hook := fun _ hnew => by cases hnew
      leaving := fun _ => rfl
      told := fun _ hm => by
        have hflag : h.mute = false := hm
        simp [mute, hstop] at hflag }

end

end

section
variable (fromSlice : Bytes → Except String VpnHandshakeResponse) (routes : List Ipv4Net)
  (routes6 : List Ipv6Net) (debug : MobileNetworkConfig → String) (config : MobileNetworkConfig)

/-- A handle after some steps of its task and of the app. -/
def drive (actions : List Action) : EzvpnHandle :=
  run (step fromSlice routes routes6 debug) (connected config) actions

theorem stopHolds_drive (actions : List Action) :
    (drive fromSlice routes routes6 debug config actions).StopHolds :=
  inv_run_all (I := StopHolds) (fun h a hs => hs.move (moves_step h a)) actions _ nofun

/-- **No callback after `ezvpn_stop`**, whatever the task and its session still do. -/
theorem silent_after_stop (before after : List Action)
    (hstop : (drive fromSlice routes routes6 debug config before).stopped = true) :
    (drive fromSlice routes routes6 debug config (before ++ after)).delivered =
      (drive fromSlice routes routes6 debug config before).delivered ∧
    (drive fromSlice routes routes6 debug config (before ++ after)).locked = false := by
  have hsilent : Silent (drive fromSlice routes routes6 debug config before).delivered
      (drive fromSlice routes routes6 debug config (before ++ after)) := by
    rw [drive, drive, run_append]
    exact inv_run_all (I := Silent _) (fun h a hs => hs.move (moves_step h a)) after _
      ⟨hstop, stopHolds_drive fromSlice routes routes6 debug config before hstop, rfl⟩
  exact ⟨hsilent.delivered, hsilent.unlocked⟩

end

/-- A server that assigns what the roaming client was assigned. -/
def hostResponse : VpnHandshakeResponse :=
  ⟨vpnProtocolVersion, true, roaming.info.assignedIp, roaming.info.network, roaming.info.serverIp,
    roaming.info.assignedIp6, roaming.info.network6, roaming.info.serverIp6, none, []⟩

/-- The link that response makes. -/
def hostLink : Link := linkOf [] [] roaming.info []

def jitter3 : Jitter := ⟨3, by decide⟩

/-- A tunnel that was started, lost and reported. -/
def firstOutage : List Action :=
  [.run true (.ok ()), .openDevice (.ok ()), .tunnelEnds (.ended []), .takeLock, .callbackReturns]

theorem silent_after_stop_firstOutage :
    (drive (fun _ => .ok hostResponse) [] [] (fun _ => "") hostLink.networkConfig
      (firstOutage ++ [.stop] ++ [.dial jitter3 (.responds [[0, 0, 0, 0]] []), .takeLock])).delivered =
      (drive (fun _ => .ok hostResponse) [] [] (fun _ => "") hostLink.networkConfig
        (firstOutage ++ [.stop])).delivered := by
  have hstop : (drive (fun _ => .ok hostResponse) [] [] (fun _ => "") hostLink.networkConfig
      (firstOutage ++ [.stop])).stopped = true := by decide +kernel
  exact (silent_after_stop _ _ _ _ _ _ _ hstop).1

section
variable (fromSlice : Bytes → Except String VpnHandshakeResponse) (routes : List Ipv4Net)
  (routes6 : List Ipv6Net) (debug : MobileNetworkConfig → String) (config : MobileNetworkConfig)

theorem seen_drive (actions : List Action) : (drive fromSlice routes routes6 debug config actions).Seen :=
  inv_run_all (I := Seen) (fun h a hs => hs.move (moves_step h a)) actions _ (seen_connected config)

/-- **The events of a handle** follow `Standing.next`, and a final one is the last. -/
theorem events_wellFormed (actions : List Action) :
    (standing (drive fromSlice routes routes6 debug config actions).delivered).isSome = true ∧
    ∀ before e after, (drive fromSlice routes routes6 debug config actions).delivered = before ++ e :: after →
      isFinal e = true → after = [] := by
  obtain ⟨s, hstand, _⟩ := (seen_drive fromSlice routes routes6 debug config actions).wellFormed
  refine ⟨by rw [hstand]; rfl, fun before e after hd hf => eq_nil_of_final before hf ?_⟩
  rw [← hd, hstand]
  rfl

theorem asked_drive (actions : List Action) :
    Asked config (Once (step fromSlice routes routes6 debug)
      (BringsChange fromSlice routes routes6 config) (connected config) actions)
      (drive fromSlice routes routes6 debug config actions) := by
  refine inv_history (s := connected config)
    (I := fun as h => Asked config (Once (step fromSlice routes routes6 debug)
      (BringsChange fromSlice routes routes6 config) (connected config) as) h) ?_ (fun as a ih => ?_) actions
  · have hno : ¬ Once (step fromSlice routes routes6 debug)
        (BringsChange fromSlice routes routes6 config) (connected config) [] := by
      rintro ⟨before, a, after, hnil, _⟩
      cases before <;> cases hnil
    exact ⟨rfl, rfl, nofun, nofun, fun hc => absurd hc hno, fun hc => absurd hc hno⟩
  · -- a change before or in the last step is a change of the longer run
    have hiff : (Once (step fromSlice routes routes6 debug)
        (BringsChange fromSlice routes routes6 config) (connected config) as ∨
        BringsChange fromSlice routes routes6 config
          (run (step fromSlice routes routes6 debug) (connected config) as) a) ↔
        Once (step fromSlice routes routes6 debug)
          (BringsChange fromSlice routes routes6 config) (connected config) (as ++ [a]) := by
      constructor
      · rintro (hc | hb)
        · exact hc.append [a]
        · exact once_last hb
      · rintro ⟨before, b, after, heq, hb⟩
        rcases List.eq_nil_or_concat after with rfl | ⟨rest, c, rfl⟩
        · obtain ⟨rfl, hab⟩ := List.append_inj' heq rfl
          cases hab
          exact .inr hb
        · have hsplit : as ++ [a] = (before ++ b :: rest) ++ [c] := by
            rw [heq]; simp
          obtain ⟨rfl, _⟩ := List.append_inj' hsplit rfl
          exact .inl ⟨before, b, rest, rfl, hb⟩
    rw [← hiff]
    exact ih.move (moves_step _ a)

/-- **`RECONFIGURE` if and only if the configuration changed.**  The app is asked to reconfigure
only if a reconnect brought another configuration; once one did, the tunnel carries no more
traffic, and an app that still listens when the task is over was asked to last of all.  Until
then the session is one with the configuration the app applied. -/
theorem reconfigure_iff_changed (actions : List Action) :
    let h := drive fromSlice routes routes6 debug config actions
    let changed := Once (step fromSlice routes routes6 debug)
      (BringsChange fromSlice routes routes6 config) (connected config) actions
    h.link = config ∧ ((∃ message, .reconfigure message ∈ h.delivered) → changed) ∧
      (changed → h.phase ≠ .tunnel ∧ (h.mute = false → h.phase = .over →
        ∃ message, h.delivered.getLast? = some (.reconfigure message))) := by
  intro h changed
  have hs := asked_drive fromSlice routes routes6 debug config actions
  refine ⟨hs.link, fun ⟨message, hm⟩ => hs.delivered message hm, fun hc => ⟨fun hp => ?_, fun hm hp => ?_⟩⟩
  · have hleaving := hs.leaving hc
    rw [show (drive fromSlice routes routes6 debug config actions).phase = .tunnel from hp] at hleaving
    cases hleaving
  · exact hs.told hc hm (.inr hp)

/-- **A server that answers as before is resumed**, at any reconnect of any run, whatever order
the relays' addresses come in. -/
theorem same_answer_resumes (recv : List Bytes) (relayIps relayIps' : List IpAddr) (link : Link)
    (hconnect : establish fromSlice routes routes6 (.responds recv relayIps) = .ok link)
    (hrelays : ∀ ip, ip ∈ relayIps ↔ ip ∈ relayIps') (actions : List Action) (jitter : Jitter)
    (failures : Nat)
    (hretry : (drive fromSlice routes routes6 debug link.networkConfig actions).phase = .retry failures) :
    (drive fromSlice routes routes6 debug link.networkConfig
      (actions ++ [.dial jitter (.responds recv relayIps')])).phase = .report .reconnected none := by
  have happlied := (asked_drive fromSlice routes routes6 debug link.networkConfig actions).applied
  rw [establish_of_same_relays hrelays] at hconnect
  rw [drive, run_concat, ← drive]
  simp only [step, step?, hretry, hconnect, Option.getD_some, reconnect, happlied, ne_eq, not_true_eq_false,
    if_false]

end

/-- The link of that response under 192.0.0.0/2, with two relays inside. -/
def coveredLink : Link :=
  linkOf [⟨0xc0000000#32, 2, by decide⟩] [] roaming.info [.v4 0xcb007107#32, .v4 0xc6336409#32]

theorem sortedCandidates_relays :
    sortedCandidates [.v4 0xcb007107#32, .v4 0xc6336409#32] = [.v4 0xc6336409#32, .v4 0xcb007107#32] := by
  have hsame : sortedCandidates [.v4 0xcb007107#32, .v4 0xc6336409#32] =
      sortedCandidates [.v4 0xc6336409#32, .v4 0xcb007107#32] :=
    sortedCandidates_congr fun ip => by rw [List.mem_pair, List.mem_pair, or_comm]
  rw [hsame, sortedCandidates, List.mergeSort_of_pairwise (by decide +kernel)]
  decide +kernel

/-- The relays are excluded from the route, and come in the other order at the reconnect. -/
theorem same_answer_resumes_firstOutage :
    coveredLink.excludedRoutes = ["198.51.100.9/32", "203.0.113.7/32"] ∧
    (drive (fun _ => .ok hostResponse) [⟨0xc0000000#32, 2, by decide⟩] [] (fun _ => "") coveredLink.networkConfig
      (firstOutage ++ [.dial jitter3 (.responds [[0, 0, 0, 0]] [.v4 0xc6336409#32, .v4 0xcb007107#32])])).phase =
        .report .reconnected none := by
  have hlink : coveredLink = ⟨roaming.info, ["198.51.100.9/32", "203.0.113.7/32"], []⟩ := by
    rw [coveredLink, linkOf, show roaming.info.serverAddrs = [] from rfl, List.append_nil, sortedCandidates_relays]
    decide +kernel
  have hhandshake : performHandshake (fun _ => .ok hostResponse) [[0, 0, 0, 0]] = .ok (roaming.info, [[]]) := by
    decide +kernel
  refine ⟨by rw [hlink], ?_⟩
  refine same_answer_resumes (fun _ => .ok hostResponse) [⟨0xc0000000#32, 2, by decide⟩] [] (fun _ => "") [[0, 0, 0, 0]]
    [.v4 0xcb007107#32, .v4 0xc6336409#32] [.v4 0xc6336409#32, .v4 0xcb007107#32] coveredLink
    (by rw [establish, hhandshake, coveredLink]) (fun ip => ?_) firstOutage jitter3 0 ?_
  · rw [List.mem_pair, List.mem_pair, or_comm]
  · rw [hlink]
    decide +kernel

end EzVpn.EzvpnHandle
