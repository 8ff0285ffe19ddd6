import EzVpn.Lib.Run
import EzVpn.Server.Response
import EzVpn.Stream.Frames

/-!
# The control stream of a session

The tasks at both ends of a session's reliable stream, each step of a task a step of its own:

* the client's `run_heartbeat` and control task (src/tunnel/client.rs);
* the server's `run_heartbeat_responder`, `publish_server_addrs` and control writer
  (src/tunnel/server.rs).

A frame on its way is named by the message it encodes, and a task reads its body.  Everything
that waits somewhere carries the time it was put there.  The clock is in milliseconds and
moves only by `wait`; nothing else says when a step is taken.
-/

namespace EzVpn

open Lib

/-- `HEARTBEAT_INTERVAL`. -/
def heartbeatInterval : Nat := 10 * 1000
/-- `HEARTBEAT_TIMEOUT`. -/
def heartbeatTimeout : Nat := 30 * 1000
/-- The capacity of the channel from the control task to the heartbeat. -/
def pongChannelSize : Nat := 4
def serverAddrChannelSize : Nat := 8
def controlChannelSize : Nat := 1024
/-- `WRITE_BATCH_SIZE` of the control writer. -/
def controlBatchSize : Nat := 256

/-- Something in a queue or on its way. -/
structure Stamped (α : Type) where
  item : α
  /-- when it was put there -/
  since : Nat
  /-- when what it goes back to happened: a tick of the client, or a publication -/
  origin : Nat
deriving DecidableEq

/-- A task of a session. -/
inductive Task (σ : Type)
  | starting
  | running (vars : σ)
  | ended (reason : String)
deriving DecidableEq

instance {σ : Type} (t : Task σ) (P : σ → Prop) [∀ vars, Decidable (P vars)] :
    Decidable (∀ vars, t = .running vars → P vars) :=
  match t with
  | .running vars => decidable_of_iff (P vars) ⟨by rintro h _ ⟨⟩; exact h, fun h => h vars rfl⟩
  | .starting => .isTrue (by simp)
  | .ended _ => .isTrue (by simp)

/-- The variables of `run_heartbeat`. -/
structure Heartbeat where
  /-- when `ticker` is due -/
  due : Nat
  deadline : Nat
  seq : UInt64
  /-- the ping that `write_frames` is busy with -/
  writing : Option (Stamped ControlMessage)
deriving DecidableEq

/-- The variables of `run_heartbeat_responder`. -/
structure Responder where
  deadline : Nat
deriving DecidableEq

/-- Both ends and what is between them; the last five fields are what has happened. -/
structure ControlPlane where
  now : Nat
  client : Task Heartbeat
  server : Task Responder
  /-- frames from the client -/
  up : List (Stamped ControlMessage)
  /-- the channel to the control writer -/
  queue : List (Stamped ControlMessage)
  /-- what the control writer is busy with -/
  batch : List (Stamped ControlMessage)
  /-- frames from the server -/
  down : List (Stamped ControlMessage)
  /-- the channel from the control task to the heartbeat -/
  pongs : List (Stamped UInt64)
  /-- a bypass manager runs -/
  managed : Bool
  /-- the channel from the control task to the bypass manager -/
  addrs : List (Stamped (List IpAddr))
  /-- pongs dropped since the last that was queued -/
  missed : Nat
  /-- the pings written -/
  pinged : List UInt64
  /-- the pongs the heartbeat has taken -/
  heard : List UInt64
  /-- the publications queued -/
  published : List (List IpAddr)
  /-- the publications the bypass manager has taken -/
  learned : List (List IpAddr)
deriving DecidableEq

/-- `try_send` on a bounded channel; what does not fit is dropped. -/
def trySend {α : Type} (capacity : Nat) (channel : List α) (a : α) : List α :=
  if channel.length < capacity then channel ++ [a] else channel

/-- `MissedTickBehavior::Delay`: after a late tick the next is due an interval from now.  The
timer takes 5 ms for on time. -/
def nextTick (due now : Nat) : Nat :=
  if now > due + 5 then now + heartbeatInterval else due + heartbeatInterval

def heartbeatSendFailed (error : String) : String := s!"heartbeat send failed: {error}"

def heartbeatTimedOut : String :=
  s!"heartbeat timed out: no reply from the server in {heartbeatTimeout / 1000}s"

/-- The reason the server closes a silent connection with. -/
def heartbeatTimeoutReason : String := "heartbeat timeout"

namespace ControlPlane

/-- Before a session's tasks start. -/
def init (managed : Bool) : ControlPlane :=
  ⟨0, .starting, .starting, [], [], [], [], [], managed, [], 0, [], [], [], []⟩

/-! ## The client -/

section
variable (st : ControlPlane)

/-- `ticker.tick()`, up to the call of `write_frames`. -/
def tick : Option ControlPlane :=
  match st.client with
  | .running hb =>
    if hb.writing.isNone ∧ hb.due ≤ st.now then
      some { st with client := .running { hb with
        due := nextTick hb.due st.now
        seq := hb.seq + 1
        writing := some ⟨.ping (hb.seq + 1), st.now, st.now⟩ } }
    else none
  | _ => none

/-- `write_frames` returns. -/
def written : Option ControlPlane :=
  match st.client with
  | .running hb =>
    match hb.writing with
    | some frame => some { st with
        client := .running { hb with writing := none }
        up := st.up ++ [{ frame with since := st.now }]
        pinged := st.pinged ++ [hb.seq] }
    | none => none
  | _ => none

/-- `write_frames` fails. -/
def writeFailed (error : String) : Option ControlPlane :=
  match st.client with
  | .running hb =>
    if hb.writing.isSome then some { st with client := .ended (heartbeatSendFailed error) } else none
  | _ => none

/-- `pong_rx.recv()`. -/
def recvPong : Option ControlPlane :=
  match st.client, st.pongs with
  | .running hb, pong :: rest =>
    if hb.writing.isNone then
      some { st with
        client := .running { hb with deadline := st.now + heartbeatTimeout }
        pongs := rest
        heard := st.heard ++ [pong.item] }
    else none
  | _, _ => none

/-- The deadline passes. -/
def clientTimeout : Option ControlPlane :=
  match st.client with
  | .running hb =>
    if hb.writing.isNone ∧ hb.deadline ≤ st.now then
      some { st with client := .ended heartbeatTimedOut }
    else none
  | _ => none

variable (fromSlice : Bytes → Except String ServerAddrsMsg)

/-- What the control task does with a frame. -/
def onControlFrame (body : Bytes) (origin : Nat) : ControlPlane :=
  match classify body with
  | .ok (.pong seq) => { st with pongs := trySend pongChannelSize st.pongs ⟨seq, st.now, origin⟩ }
  | .ok (.ping _) => st
  | .ok (.serverAddrs body) =>
    if st.managed then
      match ServerAddrsMsg.decode fromSlice body with
      | .ok msg => { st with addrs := trySend serverAddrChannelSize st.addrs ⟨msg.addrs, st.now, origin⟩ }
      | .error _ => st
    else st
  | .error _ => st

/-- The control task reads a frame. -/
def clientRead : Option ControlPlane :=
  match st.client, st.down with
  | .running _, frame :: rest => some (onControlFrame { st with down := rest } fromSlice frame.item.body frame.origin)
  | _, _ => none

/-- The bypass manager takes a publication. -/
def recvAddrs : Option ControlPlane :=
  match st.addrs with
  | addrs :: rest => some { st with addrs := rest, learned := st.learned ++ [addrs.item] }
  | [] => none

/-! ## The server -/

/-- What the responder does with a frame. -/
def onHeartbeatFrame (body : Bytes) (origin : Nat) : ControlPlane :=
  match classify body with
  | .ok (.ping seq) => { st with
      server := .running ⟨st.now + heartbeatTimeout⟩
      queue := trySend controlChannelSize st.queue ⟨.pong seq, st.now, origin⟩
      missed := if st.queue.length < controlChannelSize then 0 else st.missed + 1 }
  -- not extended by other frames
  | .ok _ => st
  | .error _ => st

/-- The responder reads a frame. -/
def serverRead : Option ControlPlane :=
  match st.server, st.up with
  | .running _, frame :: rest => some (onHeartbeatFrame { st with up := rest } frame.item.body frame.origin)
  | _, _ => none

/-- `timeout_at` elapses. -/
def serverTimeout : Option ControlPlane :=
  match st.server with
  | .running r =>
    if r.deadline ≤ st.now then some { st with server := .ended heartbeatTimeoutReason } else none
  | _ => none

/-- `publish_server_addrs`, on the candidate addresses; the publisher runs as long as the
responder does. -/
def publishServerAddrs (addrs : List IpAddr) : Option ControlPlane :=
  match st.server with
  | .running _ =>
    if addrs.isEmpty then some st
    else
      match encodeServerAddrsFrame ⟨addrs⟩ with
      | .error _ => some st
      | .ok _ =>
        if st.queue.length < controlChannelSize then
          some { st with
            queue := st.queue ++ [⟨.serverAddrs ⟨addrs⟩, st.now, st.now⟩]
            published := st.published ++ [addrs] }
        else some st
  | _ => none

/-- The control writer takes a batch. -/
def recvBatch : Option ControlPlane :=
  match st.server with
  | .running _ =>
    if st.batch.isEmpty ∧ ¬ st.queue.isEmpty then
      some { st with
        batch := (st.queue.take controlBatchSize).map ({ · with since := st.now })
        queue := st.queue.drop controlBatchSize }
    else none
  | _ => none

/-- The control writer has written its batch. -/
def writeBatch : Option ControlPlane :=
  match st.server with
  | .running _ =>
    if st.batch.isEmpty then none
    else some { st with batch := [], down := st.down ++ st.batch.map ({ · with since := st.now }) }
  | _ => none

end

/-! ## Both -/

inductive Action
  | wait (ms : Nat)
  | startClient
  | tick
  | written
  | writeFailed (error : String)
  | recvPong
  | clientTimeout
  | clientRead
  | recvAddrs
  /-- another task of the tunnel ends, or the client is stopped -/
  | clientEnds (reason : String)
  | startServer
  | serverRead
  | serverTimeout
  /-- the addresses of the endpoint -/
  | publish (endpointAddrs : List IpAddr)
  | recvBatch
  | writeBatch
  /-- the control stream or the connection ends, or the server is stopped -/
  | serverEnds (reason : String)
deriving DecidableEq

section
variable (fromSlice : Bytes → Except String ServerAddrsMsg) (overlayV4 : Option Ipv4Net)
  (overlayV6 : Option Ipv6Net)

/-- One step; `none` if the task is not there yet. -/
def step? (st : ControlPlane) : Action → Option ControlPlane
  | .wait ms => some { st with now := st.now + ms }
  | .startClient =>
    match st.client with
    | .starting => some { st with client := .running ⟨st.now, st.now + heartbeatTimeout, 0, none⟩ }
    | _ => none
  | .tick => st.tick
  | .written => st.written
  | .writeFailed error => st.writeFailed error
  | .recvPong => st.recvPong
  | .clientTimeout => st.clientTimeout
  | .clientRead => st.clientRead fromSlice
  | .recvAddrs => st.recvAddrs
  | .clientEnds reason =>
    match st.client with
    | .ended _ => none
    | _ => some { st with client := .ended reason }
  | .startServer =>
    match st.server with
    | .starting => some { st with server := .running ⟨st.now + heartbeatTimeout⟩ }
    | _ => none
  | .serverRead => st.serverRead
  | .serverTimeout => st.serverTimeout
  | .publish endpointAddrs => st.publishServerAddrs (serverCandidateAddrs endpointAddrs overlayV4 overlayV6)
  | .recvBatch => st.recvBatch
  | .writeBatch => st.writeBatch
  | .serverEnds reason =>
    match st.server with
    | .ended _ => none
    | _ => some { st with server := .ended reason }

/-- A step that cannot be taken does nothing. -/
def step (st : ControlPlane) (a : Action) : ControlPlane :=
  (st.step? fromSlice overlayV4 overlayV6 a).getD st

end

/-! ## What a step can do -/

theorem classify_ping (seq : UInt64) : classify (ControlMessage.ping seq).body = .ok (.ping seq) := by
  show (heartbeatSeq (ControlMessage.ping seq).body (toBe 8 seq.toNat)).map Frame.ping = _
  rw [heartbeatSeq_toBe]
  rfl

theorem classify_pong (seq : UInt64) : classify (ControlMessage.pong seq).body = .ok (.pong seq) := by
  show (heartbeatSeq (ControlMessage.pong seq).body (toBe 8 seq.toNat)).map Frame.pong = _
  rw [heartbeatSeq_toBe]
  rfl

theorem classify_serverAddrs (msg : ServerAddrsMsg) :
    classify (ControlMessage.serverAddrs msg).body = .ok (.serverAddrs msg.toVec) := rfl

/-- The steps, case by case: who takes it, from where, and what changes. -/
inductive Moves (fromSlice : Bytes → Except String ServerAddrsMsg) (overlayV4 : Option Ipv4Net)
    (overlayV6 : Option Ipv6Net) : ControlPlane → Action → ControlPlane → Prop
  | wait (st : ControlPlane) (ms : Nat) : Moves fromSlice overlayV4 overlayV6 st (.wait ms) { st with now := st.now + ms }
  | startClient (st : ControlPlane) (hc : st.client = .starting) :
      Moves fromSlice overlayV4 overlayV6 st .startClient
        { st with client := .running ⟨st.now, st.now + heartbeatTimeout, 0, none⟩ }
  | tick (st : ControlPlane) (hb : Heartbeat) (hc : st.client = .running hb) (hw : hb.writing = none)
      (hdue : hb.due ≤ st.now) :
      Moves fromSlice overlayV4 overlayV6 st .tick { st with client := .running { hb with
        due := nextTick hb.due st.now
        seq := hb.seq + 1
        writing := some ⟨.ping (hb.seq + 1), st.now, st.now⟩ } }
  | written (st : ControlPlane) (hb : Heartbeat) (frame : Stamped ControlMessage)
      (hc : st.client = .running hb) (hw : hb.writing = some frame) :
      Moves fromSlice overlayV4 overlayV6 st .written { st with
        client := .running { hb with writing := none }
        up := st.up ++ [{ frame with since := st.now }]
        pinged := st.pinged ++ [hb.seq] }
  | writeFailed (st : ControlPlane) (error : String) :
      Moves fromSlice overlayV4 overlayV6 st (.writeFailed error) { st with client := .ended (heartbeatSendFailed error) }
  | recvPong (st : ControlPlane) (hb : Heartbeat) (pong : Stamped UInt64) (rest : List (Stamped UInt64))
      (hc : st.client = .running hb) (hw : hb.writing = none) (hp : st.pongs = pong :: rest) :
      Moves fromSlice overlayV4 overlayV6 st .recvPong { st with
        client := .running { hb with deadline := st.now + heartbeatTimeout }
        pongs := rest
        heard := st.heard ++ [pong.item] }
  | clientTimeout (st : ControlPlane) (hb : Heartbeat) (hc : st.client = .running hb)
      (hw : hb.writing = none) (hdead : hb.deadline ≤ st.now) :
      Moves fromSlice overlayV4 overlayV6 st .clientTimeout { st with client := .ended heartbeatTimedOut }
  | readPong (st : ControlPlane) (hb : Heartbeat) (frame : Stamped ControlMessage)
      (rest : List (Stamped ControlMessage)) (seq : UInt64) (hc : st.client = .running hb)
      (hd : st.down = frame :: rest) (hm : frame.item = .pong seq) :
      Moves fromSlice overlayV4 overlayV6 st .clientRead { st with
        down := rest
        pongs := trySend pongChannelSize st.pongs ⟨seq, st.now, frame.origin⟩ }
  | readPing (st : ControlPlane) (hb : Heartbeat) (frame : Stamped ControlMessage)
      (rest : List (Stamped ControlMessage)) (seq : UInt64) (hc : st.client = .running hb)
      (hd : st.down = frame :: rest) (hm : frame.item = .ping seq) :
      Moves fromSlice overlayV4 overlayV6 st .clientRead { st with down := rest }
  /-- a publication, for the bypass manager or for nobody -/
  | readAddrs (st : ControlPlane) (hb : Heartbeat) (frame : Stamped ControlMessage)
      (rest : List (Stamped ControlMessage)) (msg : ServerAddrsMsg) (addrs : List (Stamped (List IpAddr)))
      (hc : st.client = .running hb) (hd : st.down = frame :: rest) (hm : frame.item = .serverAddrs msg)
      (haddrs : (addrs = st.addrs ∧ (st.managed = false ∨ ∃ e, fromSlice msg.toVec = .error e)) ∨
        ∃ msg', fromSlice msg.toVec = .ok msg' ∧
          addrs = trySend serverAddrChannelSize st.addrs ⟨msg'.addrs, st.now, frame.origin⟩) :
      Moves fromSlice overlayV4 overlayV6 st .clientRead { st with down := rest, addrs }
  | recvAddrs (st : ControlPlane) (addrs : Stamped (List IpAddr)) (rest : List (Stamped (List IpAddr)))
      (ha : st.addrs = addrs :: rest) :
      Moves fromSlice overlayV4 overlayV6 st .recvAddrs { st with addrs := rest, learned := st.learned ++ [addrs.item] }
  | clientEnds (st : ControlPlane) (reason : String) :
      Moves fromSlice overlayV4 overlayV6 st (.clientEnds reason) { st with client := .ended reason }
  | startServer (st : ControlPlane) (hs : st.server = .starting) :
      Moves fromSlice overlayV4 overlayV6 st .startServer { st with server := .running ⟨st.now + heartbeatTimeout⟩ }
  | answer (st : ControlPlane) (r : Responder) (frame : Stamped ControlMessage)
      (rest : List (Stamped ControlMessage)) (seq : UInt64) (hs : st.server = .running r)
      (hu : st.up = frame :: rest) (hm : frame.item = .ping seq)
      (hroom : st.queue.length < controlChannelSize) :
      Moves fromSlice overlayV4 overlayV6 st .serverRead { st with
        up := rest
        server := .running ⟨st.now + heartbeatTimeout⟩
        queue := st.queue ++ [⟨.pong seq, st.now, frame.origin⟩]
        missed := 0 }
  | miss (st : ControlPlane) (r : Responder) (frame : Stamped ControlMessage)
      (rest : List (Stamped ControlMessage)) (seq : UInt64) (hs : st.server = .running r)
      (hu : st.up = frame :: rest) (hm : frame.item = .ping seq)
      (hfull : ¬ st.queue.length < controlChannelSize) :
      Moves fromSlice overlayV4 overlayV6 st .serverRead { st with
        up := rest
        server := .running ⟨st.now + heartbeatTimeout⟩
        missed := st.missed + 1 }
  | skip (st : ControlPlane) (r : Responder) (frame : Stamped ControlMessage)
      (rest : List (Stamped ControlMessage)) (hs : st.server = .running r) (hu : st.up = frame :: rest)
      (hm : ∀ seq, frame.item ≠ .ping seq) :
      Moves fromSlice overlayV4 overlayV6 st .serverRead { st with up := rest }
  | serverTimeout (st : ControlPlane) (r : Responder) (hs : st.server = .running r)
      (hdead : r.deadline ≤ st.now) :
      Moves fromSlice overlayV4 overlayV6 st .serverTimeout { st with server := .ended heartbeatTimeoutReason }
  | publish (st : ControlPlane) (endpointAddrs addrs : List IpAddr)
      (haddrs : addrs = serverCandidateAddrs endpointAddrs overlayV4 overlayV6)
      (hroom : st.queue.length < controlChannelSize) :
      Moves fromSlice overlayV4 overlayV6 st (.publish endpointAddrs) { st with
        queue := st.queue ++ [⟨.serverAddrs ⟨addrs⟩, st.now, st.now⟩]
        published := st.published ++ [addrs] }
  /-- nothing to publish, or no room -/
  | unpublished (st : ControlPlane) (endpointAddrs : List IpAddr) :
      Moves fromSlice overlayV4 overlayV6 st (.publish endpointAddrs) st
  | recvBatch (st : ControlPlane) (r : Responder) (hs : st.server = .running r) (hb : st.batch = []) :
      Moves fromSlice overlayV4 overlayV6 st .recvBatch { st with
        batch := (st.queue.take controlBatchSize).map ({ · with since := st.now })
        queue := st.queue.drop controlBatchSize }
  | writeBatch (st : ControlPlane) (r : Responder) (hs : st.server = .running r) :
      Moves fromSlice overlayV4 overlayV6 st .writeBatch { st with
        batch := [], down := st.down ++ st.batch.map ({ · with since := st.now }) }
  | serverEnds (st : ControlPlane) (reason : String) :
      Moves fromSlice overlayV4 overlayV6 st (.serverEnds reason) { st with server := .ended reason }

section
variable {fromSlice : Bytes → Except String ServerAddrsMsg} {overlayV4 : Option Ipv4Net}
  {overlayV6 : Option Ipv6Net} {st st' : ControlPlane} {a : Action}

theorem clientRead_moves (h : st.clientRead fromSlice = some st') : Moves fromSlice overlayV4 overlayV6 st .clientRead st' := by
  unfold clientRead at h
  split at h
  · next hb frame rest hc hd =>
    obtain rfl := Option.some.inj h
    cases hm : frame.item with
    | pong seq =>
      rw [onControlFrame, classify_pong]
      exact .readPong st hb frame rest seq hc hd hm
    | ping seq =>
      rw [onControlFrame, classify_ping]
      exact .readPing st hb frame rest seq hc hd hm
    | serverAddrs msg =>
      rw [onControlFrame, classify_serverAddrs]
      simp only []
      split
      · cases hdec : fromSlice msg.toVec with
        | ok msg' =>
          simp only [ServerAddrsMsg.decode, hdec]
          exact .readAddrs st hb frame rest msg _ hc hd hm (.inr ⟨msg', hdec, rfl⟩)
        | error e =>
          simp only [ServerAddrsMsg.decode, hdec]
          exact .readAddrs st hb frame rest msg _ hc hd hm (.inl ⟨rfl, .inr ⟨e, hdec⟩⟩)
      · next hnot =>
        exact .readAddrs st hb frame rest msg _ hc hd hm (.inl ⟨rfl, .inl (Bool.eq_false_iff.2 hnot)⟩)
  · cases h

theorem serverRead_moves (h : st.serverRead = some st') : Moves fromSlice overlayV4 overlayV6 st .serverRead st' := by
  unfold serverRead at h
  split at h
  · next r frame rest hs hu =>
    obtain rfl := Option.some.inj h
    cases hm : frame.item with
    | ping seq =>
      rw [onHeartbeatFrame, classify_ping]
      simp only [trySend]
      split
      · next hroom => exact .answer st r frame rest seq hs hu hm hroom
      · next hfull => exact .miss st r frame rest seq hs hu hm hfull
    | pong seq =>
      rw [onHeartbeatFrame, classify_pong]
      exact .skip st r frame rest hs hu (by simp [hm])
    | serverAddrs msg =>
      rw [onHeartbeatFrame, classify_serverAddrs]
      exact .skip st r frame rest hs hu (by simp [hm])
  · cases h

theorem publish_moves {endpointAddrs : List IpAddr}
    (h : st.publishServerAddrs (serverCandidateAddrs endpointAddrs overlayV4 overlayV6) = some st') :
    Moves fromSlice overlayV4 overlayV6 st (.publish endpointAddrs) st' := by
  unfold publishServerAddrs at h
  split at h
  · split at h
    · obtain rfl := Option.some.inj h
      exact .unpublished st endpointAddrs
    · split at h
      · obtain rfl := Option.some.inj h
        exact .unpublished st endpointAddrs
      · split at h
        · next hroom =>
          obtain rfl := Option.some.inj h
          exact .publish st endpointAddrs _ rfl hroom
        · obtain rfl := Option.some.inj h
          exact .unpublished st endpointAddrs
  · cases h

/-- Every step is one of the cases. -/
theorem moves_of_step? (h : st.step? fromSlice overlayV4 overlayV6 a = some st') :
    Moves fromSlice overlayV4 overlayV6 st a st' := by
  cases a with
  | wait ms => exact Option.some.inj h ▸ .wait st ms
  | startClient =>
    simp only [step?] at h
    split at h
    · next hc => exact Option.some.inj h ▸ .startClient st hc
    · cases h
  | tick =>
    simp only [step?, tick] at h
    split at h
    · next hb hc =>
      split at h
      · next hif => exact Option.some.inj h ▸ .tick st hb hc (Option.isNone_iff_eq_none.1 hif.1) hif.2
      · cases h
    · cases h
  | written =>
    simp only [step?, written] at h
    split at h
    · next hb hc =>
      split at h
      · next frame hw => exact Option.some.inj h ▸ .written st hb frame hc hw
      · cases h
    · cases h
  | writeFailed error =>
    simp only [step?, writeFailed] at h
    split at h
    · split at h
      · exact Option.some.inj h ▸ .writeFailed st error
      · cases h
    · cases h
  | recvPong =>
    simp only [step?, recvPong] at h
    split at h
    · next hb pong rest hc hp =>
      split at h
      · next hw => exact Option.some.inj h ▸ .recvPong st hb pong rest hc (Option.isNone_iff_eq_none.1 hw) hp
      · cases h
    · cases h
  | clientTimeout =>
    simp only [step?, clientTimeout] at h
    split at h
    · next hb hc =>
      split at h
      · next hif =>
        exact Option.some.inj h ▸ .clientTimeout st hb hc (Option.isNone_iff_eq_none.1 hif.1) hif.2
      · cases h
    · cases h
  | clientRead => exact clientRead_moves h
  | recvAddrs =>
    simp only [step?, recvAddrs] at h
    split at h
    · next addrs rest ha => exact Option.some.inj h ▸ .recvAddrs st addrs rest ha
    · cases h
  | clientEnds reason =>
    simp only [step?] at h
    split at h
    · cases h
    · exact Option.some.inj h ▸ .clientEnds st reason
  | startServer =>
    simp only [step?] at h
    split at h
    · next hs => exact Option.some.inj h ▸ .startServer st hs
    · cases h
  | serverRead => exact serverRead_moves h
  | serverTimeout =>
    simp only [step?, serverTimeout] at h
    split at h
    · next r hs =>
      split at h
      · next hdead => exact Option.some.inj h ▸ .serverTimeout st r hs hdead
      · cases h
    · cases h
  | publish endpointAddrs => exact publish_moves h
  | recvBatch =>
    simp only [step?, recvBatch] at h
    split at h
    · next r hs =>
      split at h
      · next hif => exact Option.some.inj h ▸ .recvBatch st r hs (List.isEmpty_iff.1 hif.1)
      · cases h
    · cases h
  | writeBatch =>
    simp only [step?, writeBatch] at h
    split at h
    · next r hs =>
      split at h
      · cases h
      · exact Option.some.inj h ▸ .writeBatch st r hs
    · cases h
  | serverEnds reason =>
    simp only [step?] at h
    split at h
    · cases h
    · exact Option.some.inj h ▸ .serverEnds st reason

/-- What every case keeps, every step keeps. -/
theorem step_induction {P : ControlPlane → Prop} (h : P st)
    (hmoves : ∀ st', Moves fromSlice overlayV4 overlayV6 st a st' → P st') : P (st.step fromSlice overlayV4 overlayV6 a) := by
  unfold step
  cases hs : st.step? fromSlice overlayV4 overlayV6 a with
  | none => exact h
  | some st' => exact hmoves st' (moves_of_step? hs)

end

end ControlPlane

end EzVpn
