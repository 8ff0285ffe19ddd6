import EzVpn.Offload.Groups
import EzVpn.Config
import EzVpn.Lib.Attempt

/-!
# Writing to the TUN device

`TunWriter::write_packet` and `write_batch` (src/net/device.rs) and the two tasks that feed
them: the server's (src/tunnel/server.rs), which counts failures, and the client's
(src/tunnel/client.rs), which gives up after ten in a row.

A batch goes to the device as a sequence of writes, each of one packet or of the super-frame
of a group.  The first that fails ends the batch and is reported once.
`tunWriter_lossless_iff` says for which failures this loses no other packet and counts right.
-/

namespace EzVpn

open Lib

/-- A packet for the device, with what the device answers to a write it is the first packet
of.  `seq` names the packet. -/
structure TunWriteRequest where
  seq : Nat
  offload : Option VirtioNetHdr
  packet : Bytes
  device : Option String
deriving DecidableEq

/-- What has been written: the frames, and the packets in them. -/
structure TunDevice where
  frames : List Bytes
  packets : List TunWriteRequest
deriving DecidableEq

structure TunWriter where
  vnetHdrEnabled : Bool
  offloadEnabled : Bool

/-- The `?` between two writes. -/
def thenWrite (result : Except VpnError Unit × TunDevice)
    (next : TunDevice → Except VpnError Unit × TunDevice) : Except VpnError Unit × TunDevice :=
  match result with
  | (.ok (), dev) => next dev
  | (.error e, dev) => (.error e, dev)

/-- `write_all` of a frame that carries the packets `first :: rest`. -/
def writeAll (first : TunWriteRequest) (rest : List TunWriteRequest) (frame : Bytes) (dev : TunDevice) :
    Except VpnError Unit × TunDevice :=
  match first.device with
  | some e => (.error (.network e), dev)
  | none => (.ok (), ⟨dev.frames ++ [frame], dev.packets ++ first :: rest⟩)

def emptyPayload : String := "cannot compose TUN frame with empty IP payload"

def unexpectedOffload : String := "received offload metadata but local TUN does not use vnet headers"

/-- The header of a plain packet. -/
def plainHdr : VirtioNetHdr := ⟨0, 0, 0, 0, 0, 0, 0⟩

def composeTunFrame (vnetHdrEnabled : Bool) (offload : Option VirtioNetHdr) (ipPacket : Bytes) :
    Except String Bytes :=
  if ipPacket.isEmpty then .error emptyPayload
  else if !vnetHdrEnabled && offload.isSome then .error unexpectedOffload
  else .ok ((if vnetHdrEnabled then (offload.getD plainHdr).toBytes else []) ++ ipPacket)

section
variable (w : TunWriter)

/-- The frame `write_packet` writes.  Without headers the metadata is looked at first. -/
def packetFrame (offload : Option VirtioNetHdr) (ipPacket : Bytes) : Except VpnError Bytes :=
  if !w.vnetHdrEnabled then
    if offload.isSome then .error (.tunDevice unexpectedOffload)
    else if ipPacket.isEmpty then .error (.tunDevice emptyPayload)
    else .ok ipPacket
  else
    match composeTunFrame w.vnetHdrEnabled offload ipPacket with
    | .error e => .error (.tunDevice e)
    | .ok frame => .ok frame

def writePacket (offload : Option VirtioNetHdr) (req : TunWriteRequest) (dev : TunDevice) :
    Except VpnError Unit × TunDevice :=
  match packetFrame w offload req.packet with
  | .error e => (.error e, dev)
  | .ok frame => writeAll req [] frame dev

/-- `for packet in batch { write_packet(None, packet)? }`. -/
def writeEach : List TunWriteRequest → TunDevice → Except VpnError Unit × TunDevice
  | [], dev => (.ok (), dev)
  | req :: reqs, dev => thenWrite (writePacket w none req dev) (writeEach reqs)

def writeGroup (batch : List TunWriteRequest) (group : Nat × Nat × Bool) (dev : TunDevice) :
    Except VpnError Unit × TunDevice :=
  let (start, stop, coalesce) := group
  if !coalesce then
    match batch[start]? with
    | some req => writePacket w none req dev
    -- out of bounds: no such group is planned
    | none => (.ok (), dev)
  else
    match (batch.drop start).take (stop - start) with
    | [] => (.ok (), dev)
    | first :: rest =>
      match assembleTcpGsoSuperframe ((first :: rest).map TunWriteRequest.packet) with
      | .ok frame => writeAll first rest frame dev
      | .error _ => writeEach w (first :: rest) dev

def writePlannedGroups (batch : List TunWriteRequest) :
    List (Nat × Nat × Bool) → TunDevice → Except VpnError Unit × TunDevice
  | [], dev => (.ok (), dev)
  | group :: groups, dev => thenWrite (writeGroup w batch group dev) (writePlannedGroups batch groups)

def writeBatch (batch : List TunWriteRequest) (dev : TunDevice) : Except VpnError Unit × TunDevice :=
  if !w.vnetHdrEnabled || !w.offloadEnabled then writeEach w batch dev
  else writePlannedGroups w batch (planTunWriteGroups (batch.map TunWriteRequest.packet)) dev

end

/-! ## The writer tasks -/

/-- A writer task: what it has noted of the results, and why it stopped. -/
structure Writer (σ : Type) where
  device : TunDevice
  noted : σ
  stopped : Option String

section
variable {σ : Type} (note : σ → Except VpnError Unit → σ × Option String)

/-- Write and note the result; a task that has stopped does nothing. -/
def Writer.perform (st : Writer σ) (op : TunDevice → Except VpnError Unit × TunDevice) : Writer σ :=
  if st.stopped.isSome then st
  else
    let (result, device) := op st.device
    let (noted, stopped) := note st.noted result
    ⟨device, noted, stopped⟩

variable (w : TunWriter)

/-- `if !plain_run.is_empty() { write_batch(&plain_run) }`. -/
def flushRun (plainRun : List TunWriteRequest) (st : Writer σ) : Writer σ :=
  if plainRun.isEmpty then st else st.perform note (writeBatch w plainRun)

/-- The loop over a received batch. -/
def drainBatch : List TunWriteRequest → List TunWriteRequest → Writer σ → Writer σ
  | plainRun, [], st => flushRun note w plainRun st
  | plainRun, req :: reqs, st =>
    match req.offload with
    | none => drainBatch (plainRun ++ [req]) reqs st
    | some hdr =>
      drainBatch [] reqs ((flushRun note w plainRun st).perform note (writePacket w (some hdr) req))

/-- The task, over the batches `recv_many` returns. -/
def writerTask (st : Writer σ) (batches : List (List TunWriteRequest)) : Writer σ :=
  batches.foldl (fun st batch => drainBatch note w [] batch st) st

end

/-- `log_write_error`: the server counts in `packets_tun_write_failed` and goes on. -/
def countFailure (failed : Nat) : Except VpnError Unit → Nat × Option String
  | .ok () => (failed, none)
  | .error _ => (failed + 1, none)

def maxTunWriteFailures : Nat := 10

/-- `note_write_result`: the client gives up after too many failures in a row. -/
def noteWriteResult (display : VpnError → String) (consecutive : Nat) :
    Except VpnError Unit → Nat × Option String
  | .ok () => (0, none)
  | .error e =>
    if consecutive + 1 ≥ maxTunWriteFailures then
      (consecutive + 1, some s!"TUN write failures exceeded: {display e}")
    else (consecutive + 1, none)

def serverWriter (w : TunWriter) : Writer Nat → List (List TunWriteRequest) → Writer Nat :=
  writerTask countFailure w

def clientWriter (display : VpnError → String) (w : TunWriter) :
    Writer Nat → List (List TunWriteRequest) → Writer Nat :=
  writerTask (noteWriteResult display) w

/-! ## Batches as sequences of writes -/

/-- One write to the device: the packets it carries and its frame, if there is one. -/
structure WriteUnit where
  first : TunWriteRequest
  rest : List TunWriteRequest
  frame : Except VpnError Bytes

namespace WriteUnit

def carried (u : WriteUnit) : List TunWriteRequest := u.first :: u.rest

def size (u : WriteUnit) : Nat := u.carried.length

theorem size_pos (u : WriteUnit) : 0 < u.size := Nat.succ_pos _

/-- The write would succeed. -/
def ok (u : WriteUnit) : Bool := u.frame.isOk && u.first.device.isNone

def write (u : WriteUnit) (dev : TunDevice) : Except VpnError Unit × TunDevice :=
  match u.frame with
  | .error e => (.error e, dev)
  | .ok frame => writeAll u.first u.rest frame dev

theorem write_cases (u : WriteUnit) (dev : TunDevice) :
    (u.ok = true ∧ ∃ frames, u.write dev = (.ok (), ⟨frames, dev.packets ++ u.carried⟩)) ∨
    (u.ok = false ∧ ∃ e, u.write dev = (.error e, dev)) := by
  unfold ok write writeAll
  cases u.frame with
  | error e => exact Or.inr ⟨rfl, e, rfl⟩
  | ok frame =>
    cases u.first.device with
    | none => exact Or.inl ⟨rfl, _, rfl⟩
    | some e => exact Or.inr ⟨rfl, _, rfl⟩

end WriteUnit

def runUnits : List WriteUnit → TunDevice → Except VpnError Unit × TunDevice
  | [], dev => (.ok (), dev)
  | u :: us, dev => thenWrite (u.write dev) (runUnits us)

theorem runUnits_append (us vs : List WriteUnit) (dev : TunDevice) :
    runUnits (us ++ vs) dev = thenWrite (runUnits us dev) (runUnits vs) := by
  induction us generalizing dev with
  | nil => rfl
  | cons u us ih =>
    rw [List.cons_append, runUnits, runUnits]
    rcases u.write_cases dev with ⟨-, frames, h⟩ | ⟨-, e, h⟩
    · rw [h]
      exact ih _
    · rw [h]
      rfl

/-- **What a sequence of writes does**: it stops at the first that fails. -/
theorem runUnits_spec (us : List WriteUnit) (dev : TunDevice) :
    (runUnits us dev).2.packets = dev.packets ++ (us.takeWhile WriteUnit.ok).flatMap WriteUnit.carried ∧
    ((runUnits us dev).1 = .ok () ↔ us.all WriteUnit.ok = true) := by
  induction us generalizing dev with
  | nil => simp [runUnits]
  | cons u us ih =>
    rw [runUnits]
    rcases u.write_cases dev with ⟨hok, frames, h⟩ | ⟨hok, e, h⟩
    · obtain ⟨hp, hr⟩ := ih ⟨frames, dev.packets ++ u.carried⟩
      rw [h, List.takeWhile_cons_of_pos hok, List.flatMap_cons, List.all_cons, hok, Bool.true_and]
      exact ⟨hp.trans (List.append_assoc _ _ _), hr⟩
    · rw [h, List.takeWhile_cons_of_neg (Bool.eq_false_iff.1 hok), List.all_cons, hok, Bool.false_and]
      simp [thenWrite]

section
variable (w : TunWriter)

/-- The write of one packet. -/
def single (offload : Option VirtioNetHdr) (req : TunWriteRequest) : WriteUnit :=
  ⟨req, [], packetFrame w offload req.packet⟩

def groupUnits (batch : List TunWriteRequest) (group : Nat × Nat × Bool) : List WriteUnit :=
  let (start, stop, coalesce) := group
  if !coalesce then batch[start]?.toList.map (single w none)
  else
    match (batch.drop start).take (stop - start) with
    | [] => []
    | first :: rest =>
      match assembleTcpGsoSuperframe ((first :: rest).map TunWriteRequest.packet) with
      | .ok frame => [⟨first, rest, .ok frame⟩]
      | .error _ => (first :: rest).map (single w none)

/-- The writes of a batch. -/
def batchUnits (batch : List TunWriteRequest) : List WriteUnit :=
  if !w.vnetHdrEnabled || !w.offloadEnabled then batch.map (single w none)
  else (planTunWriteGroups (batch.map TunWriteRequest.packet)).flatMap (groupUnits w batch)

theorem writePacket_eq (offload : Option VirtioNetHdr) (req : TunWriteRequest) (dev : TunDevice) :
    writePacket w offload req dev = runUnits [single w offload req] dev := by
  have hone : ∀ result : Except VpnError Unit × TunDevice, thenWrite result (runUnits []) = result := by
    rintro ⟨⟨⟩ | ⟨⟩, dev⟩ <;> rfl
  rw [runUnits, hone]
  rfl

theorem writeEach_eq (reqs : List TunWriteRequest) (dev : TunDevice) :
    writeEach w reqs dev = runUnits (reqs.map (single w none)) dev := by
  induction reqs generalizing dev with
  | nil => rfl
  | cons req reqs ih =>
    have hnext : writeEach w reqs = runUnits (reqs.map (single w none)) := funext ih
    rw [writeEach, List.map_cons, hnext]
    rfl

theorem writeGroup_eq (batch : List TunWriteRequest) (group : Nat × Nat × Bool) (dev : TunDevice) :
    writeGroup w batch group dev = runUnits (groupUnits w batch group) dev := by
  obtain ⟨start, stop, coalesce⟩ := group
  cases coalesce with
  | false =>
    simp only [writeGroup, groupUnits, Bool.not_false, if_true]
    cases batch[start]? with
    | none => rfl
    | some req => exact writePacket_eq w none req dev
  | true =>
    simp only [writeGroup, groupUnits, Bool.not_true, Bool.false_eq_true, if_false]
    cases (batch.drop start).take (stop - start) with
    | nil => rfl
    | cons first rest =>
      simp only []
      cases assembleTcpGsoSuperframe ((first :: rest).map TunWriteRequest.packet) with
      | error e => exact writeEach_eq w (first :: rest) dev
      | ok frame =>
        simp only [runUnits, WriteUnit.write]
        cases h : writeAll first rest frame dev with
        | mk result dev' => cases result <;> rfl

/-- **A batch is a sequence of writes.** -/
theorem writeBatch_eq (batch : List TunWriteRequest) (dev : TunDevice) :
    writeBatch w batch dev = runUnits (batchUnits w batch) dev := by
  have hgroups : ∀ (groups : List (Nat × Nat × Bool)) (dev : TunDevice),
      writePlannedGroups w batch groups dev = runUnits (groups.flatMap (groupUnits w batch)) dev := by
    intro groups
    induction groups with
    | nil => intro dev; rfl
    | cons group groups ih =>
      intro dev
      have hnext : writePlannedGroups w batch groups = runUnits (groups.flatMap (groupUnits w batch)) :=
        funext ih
      rw [writePlannedGroups, List.flatMap_cons, runUnits_append, writeGroup_eq, hnext]
  unfold writeBatch batchUnits
  split
  · exact writeEach_eq w batch dev
  · exact hgroups _ dev

theorem carried_singles (offload : Option VirtioNetHdr) (reqs : List TunWriteRequest) :
    (reqs.map (single w offload)).flatMap WriteUnit.carried = reqs := by
  rw [List.flatMap_map]
  exact List.flatMap_singleton' reqs

/-- The units of a group carry the packets of the group. -/
theorem carried_run (batch : List TunWriteRequest) (start : Nat) (reqs : List TunWriteRequest)
    (h : (batch.drop start).take reqs.length = reqs) :
    (groupUnits w batch (start, start + reqs.length, true)).flatMap WriteUnit.carried = reqs := by
  simp only [groupUnits, Bool.not_true, Bool.false_eq_true, if_false, Nat.add_sub_cancel_left, h]
  cases reqs with
  | nil => rfl
  | cons first rest =>
    simp only []
    cases assembleTcpGsoSuperframe ((first :: rest).map TunWriteRequest.packet) with
    | error e => exact carried_singles w none (first :: rest)
    | ok frame => simp [WriteUnit.carried]

theorem carried_groups (batch : List TunWriteRequest) {i : Nat} {packets : List Bytes}
    {groups : List (Nat × Nat × Bool)} (ht : Tiles i packets groups) :
    ∀ reqs : List TunWriteRequest, batch.drop i = reqs → reqs.map TunWriteRequest.packet = packets →
      (groups.flatMap (groupUnits w batch)).flatMap WriteUnit.carried = reqs := by
  induction ht with
  | nil =>
    intro reqs _ hp
    rw [List.map_eq_nil_iff.1 hp]
    rfl
  | @single i p rest groups _ ih =>
    intro reqs hreqs hp
    obtain ⟨req, reqs, rfl, -, hrest⟩ := List.map_eq_cons_iff.1 hp
    have hget : batch[i]? = some req := by
      have h0 := congrArg List.head? hreqs
      rwa [List.head?_drop, List.head?_cons] at h0
    have hdrop : batch.drop (i + 1) = reqs := by
      rw [← List.drop_drop, hreqs]
      rfl
    rw [List.flatMap_cons, List.flatMap_append, ih reqs hdrop hrest]
    simp [groupUnits, hget, single, WriteUnit.carried]
  | @run i m p ps rest groups _ _ ih =>
    intro reqs hreqs hp
    rw [← List.cons_append] at hp
    obtain ⟨head, tail, rfl, hhead, htail⟩ := List.map_eq_append_iff.1 hp
    have hlen : head.length = ps.length + 1 := by
      rw [← List.length_map (f := TunWriteRequest.packet), hhead, List.length_cons]
    have hstop : i + 1 + ps.length = i + head.length := by omega
    have hdrop : batch.drop (i + 1 + ps.length) = tail := by
      rw [hstop, ← List.drop_drop, hreqs, List.drop_left' rfl]
    have htake : (batch.drop i).take head.length = head := by rw [hreqs, List.take_left' rfl]
    rw [List.flatMap_cons, List.flatMap_append, ih tail hdrop htail, hstop, carried_run w batch i head htake]

/-- **Every packet of a batch has one write of its own**, and they are in batch order. -/
theorem carried_batchUnits (batch : List TunWriteRequest) :
    (batchUnits w batch).flatMap WriteUnit.carried = batch := by
  unfold batchUnits
  split
  · exact carried_singles w none batch
  · exact carried_groups w batch (plan_tiles _) batch rfl rfl

/-! ## Whole runs of a task -/

/-- The runs of writes a received batch leads to: the writes of each plain run, and the write
of each tagged packet by itself. -/
def drainRuns : List TunWriteRequest → List TunWriteRequest → List (List WriteUnit)
  | plainRun, [] => if plainRun.isEmpty then [] else [batchUnits w plainRun]
  | plainRun, req :: reqs =>
    match req.offload with
    | none => drainRuns (plainRun ++ [req]) reqs
    | some hdr =>
      (if plainRun.isEmpty then [] else [batchUnits w plainRun]) ++
        [single w (some hdr) req] :: drainRuns [] reqs

/-- The runs of writes of a task. -/
def writeRuns (batches : List (List TunWriteRequest)) : List (List WriteUnit) :=
  batches.flatMap (drainRuns w [])

theorem carried_drainRuns (reqs : List TunWriteRequest) : ∀ plainRun : List TunWriteRequest,
    (drainRuns w plainRun reqs).flatten.flatMap WriteUnit.carried = plainRun ++ reqs := by
  have hflush : ∀ plainRun : List TunWriteRequest,
      (if plainRun.isEmpty then [] else [batchUnits w plainRun]).flatten.flatMap WriteUnit.carried =
        plainRun := by
    intro plainRun
    cases plainRun with
    | nil => rfl
    | cons req reqs => simpa using carried_batchUnits w (req :: reqs)
  induction reqs with
  | nil =>
    intro plainRun
    rw [drainRuns, hflush, List.append_nil]
  | cons req reqs ih =>
    intro plainRun
    rw [drainRuns]
    cases hoff : req.offload with
    | none =>
      simp only []
      rw [ih, List.append_assoc]
      rfl
    | some hdr =>
      simp only []
      rw [List.flatten_append, List.flatMap_append, hflush, List.flatten_cons, List.flatMap_append, ih]
      rfl

theorem carried_writeRuns (batches : List (List TunWriteRequest)) :
    (writeRuns w batches).flatten.flatMap WriteUnit.carried = batches.flatten := by
  unfold writeRuns
  induction batches with
  | nil => rfl
  | cons batch batches ih =>
    rw [List.flatMap_cons, List.flatten_append, List.flatMap_append, ih, carried_drainRuns]
    rfl

section
variable {σ : Type} (note : σ → Except VpnError Unit → σ × Option String)

/-- A task performs its runs one after the other. -/
def performRuns (st : Writer σ) (runs : List (List WriteUnit)) : Writer σ :=
  runs.foldl (fun st run => st.perform note (runUnits run)) st

theorem performRuns_append (st : Writer σ) (runs runs' : List (List WriteUnit)) :
    performRuns note st (runs ++ runs') = performRuns note (performRuns note st runs) runs' :=
  List.foldl_append

theorem flushRun_eq (plainRun : List TunWriteRequest) (st : Writer σ) :
    flushRun note w plainRun st =
      performRuns note st (if plainRun.isEmpty then [] else [batchUnits w plainRun]) := by
  unfold flushRun
  split
  · rfl
  · rw [show writeBatch w plainRun = runUnits (batchUnits w plainRun) from funext (writeBatch_eq w plainRun)]
    rfl

theorem drainBatch_eq (reqs : List TunWriteRequest) : ∀ (plainRun : List TunWriteRequest) (st : Writer σ),
    drainBatch note w plainRun reqs st = performRuns note st (drainRuns w plainRun reqs) := by
  induction reqs with
  | nil => exact flushRun_eq w note
  | cons req reqs ih =>
    intro plainRun st
    rw [drainBatch, drainRuns]
    cases hoff : req.offload with
    | none => exact ih _ st
    | some hdr =>
      have htagged : writePacket w (some hdr) req = runUnits [single w (some hdr) req] :=
        funext (writePacket_eq w (some hdr) req)
      simp only []
      rw [ih, flushRun_eq, htagged, performRuns_append]
      rfl

/-- **A task is its runs of writes.** -/
theorem writerTask_eq (batches : List (List TunWriteRequest)) (st : Writer σ) :
    writerTask note w st batches = performRuns note st (writeRuns w batches) := by
  unfold writerTask writeRuns
  induction batches generalizing st with
  | nil => rfl
  | cons batch batches ih =>
    rw [List.foldl_cons, ih, drainBatch_eq, List.flatMap_cons, performRuns_append]

end

end

/-- The server: what is written, and what is counted. -/
theorem performRuns_count (runs : List (List WriteUnit)) (dev : TunDevice) (failed : Nat) :
    ∃ dev', performRuns countFailure ⟨dev, failed, none⟩ runs =
        ⟨dev', failed + (runs.map (Attempt.reported WriteUnit.ok)).sum, none⟩ ∧
      dev'.packets = dev.packets ++
        (runs.flatMap (List.takeWhile WriteUnit.ok)).flatMap WriteUnit.carried := by
  induction runs generalizing dev failed with
  | nil => exact ⟨dev, rfl, (List.append_nil _).symm⟩
  | cons run runs ih =>
    obtain ⟨hpackets, hresult⟩ := runUnits_spec run dev
    have hstep : Writer.perform countFailure ⟨dev, failed, none⟩ (runUnits run) =
        ⟨(runUnits run dev).2, failed + Attempt.reported WriteUnit.ok run, none⟩ := by
      cases hres : (runUnits run dev).1 with
      | ok =>
        rw [Attempt.reported, if_pos (hresult.1 hres)]
        simp [Writer.perform, hres, countFailure]
      | error e =>
        have hnot : ¬ run.all WriteUnit.ok = true := fun h => by
          rw [hresult.2 h] at hres
          cases hres
        rw [Attempt.reported, if_neg hnot]
        simp [Writer.perform, hres, countFailure]
    obtain ⟨dev', hdev', hpackets'⟩ := ih (runUnits run dev).2 (failed + Attempt.reported WriteUnit.ok run)
    refine ⟨dev', ?_, ?_⟩
    · rw [performRuns, List.foldl_cons, hstep, List.map_cons, List.sum_cons, ← Nat.add_assoc]
      exact hdev'
    · rw [hpackets', hpackets, List.flatMap_cons, List.flatMap_append, List.append_assoc]

section
variable {σ τ : Type} {note : σ → Except VpnError Unit → σ × Option String}
  {note' : τ → Except VpnError Unit → τ × Option String}

theorem performRuns_cons (dev : TunDevice) (s : σ) (run : List WriteUnit) (runs : List (List WriteUnit)) :
    performRuns note ⟨dev, s, none⟩ (run :: runs) =
      performRuns note ⟨(runUnits run dev).2, (note s (runUnits run dev).1).1, (note s (runUnits run dev).1).2⟩
        runs := rfl

theorem performRuns_stopped {st : Writer σ} (hst : st.stopped.isSome = true) (runs : List (List WriteUnit)) :
    performRuns note st runs = st := by
  induction runs with
  | nil => rfl
  | cons run runs ih =>
    have hstep : st.perform note (runUnits run) = st := if_pos hst
    rw [performRuns, List.foldl_cons, hstep]
    exact ih

/-- A task that does not stop writes what one that never stops writes. -/
theorem performRuns_device (hgo : ∀ t result, (note' t result).2 = none) (runs : List (List WriteUnit)) :
    ∀ (dev : TunDevice) (s : σ) (t : τ), (performRuns note ⟨dev, s, none⟩ runs).stopped = none →
      (performRuns note ⟨dev, s, none⟩ runs).device = (performRuns note' ⟨dev, t, none⟩ runs).device := by
  induction runs with
  | nil => intro dev s t _; rfl
  | cons run runs ih =>
    intro dev s t hnone
    rw [performRuns_cons] at hnone ⊢
    rw [performRuns_cons, hgo]
    cases hstop : (note s (runUnits run dev).1).2 with
    | none =>
      rw [hstop] at hnone
      exact ih _ _ _ hnone
    | some reason =>
      -- it stopped here and would still be stopped
      rw [hstop, performRuns_stopped rfl] at hnone
      cases hnone

end

/-- What was written and what was lost are all packets. -/
theorem written_add_lost (runs : List (List WriteUnit)) :
    ((runs.flatMap (List.takeWhile WriteUnit.ok)).flatMap WriteUnit.carried).length +
      (runs.map (Attempt.lost WriteUnit.ok WriteUnit.size)).sum =
    (runs.flatten.flatMap WriteUnit.carried).length := by
  induction runs with
  | nil => rfl
  | cons run runs ih =>
    have hrun : (run.flatMap WriteUnit.carried).length =
        ((run.takeWhile WriteUnit.ok).flatMap WriteUnit.carried).length +
          Attempt.lost WriteUnit.ok WriteUnit.size run := by
      conv_lhs => rw [← List.takeWhile_append_dropWhile (p := WriteUnit.ok) (l := run)]
      rw [List.flatMap_append, List.length_append, List.length_flatMap (l := run.dropWhile WriteUnit.ok)]
      rfl
    simp only [List.flatMap_cons, List.flatMap_append, List.length_append, List.map_cons, List.sum_cons,
      List.flatten_cons] at ih ⊢
    omega

/-- **One failing write.**  For every sequence of batches, every device configuration and every
pattern of failing writes: each packet has one write of its own.  Exactly those packets are
written whose own write succeeds, in order, and the server's counter grows by the number of
the others, if and only if in each run of packets without metadata only the last write fails,
and that is the write of one packet.  The client's task writes the same until it gives up. -/
theorem tunWriter_lossless_iff (w : TunWriter) (batches : List (List TunWriteRequest)) (dev : TunDevice)
    (failed : Nat) :
    (writeRuns w batches).flatten.flatMap WriteUnit.carried = batches.flatten ∧
    ((∃ written, (serverWriter w ⟨dev, failed, none⟩ batches).device.packets = dev.packets ++ written ∧
        written = ((writeRuns w batches).flatten.filter WriteUnit.ok).flatMap WriteUnit.carried ∧
        (serverWriter w ⟨dev, failed, none⟩ batches).noted + written.length =
          failed + batches.flatten.length) ↔
      ∀ run ∈ writeRuns w batches, Attempt.OnlyLast WriteUnit.ok WriteUnit.size run) ∧
    ∀ display, (clientWriter display w ⟨dev, 0, none⟩ batches).stopped = none →
      (clientWriter display w ⟨dev, 0, none⟩ batches).device =
        (serverWriter w ⟨dev, failed, none⟩ batches).device := by
  have hall := carried_writeRuns w batches
  refine ⟨hall, ?_, fun display => ?_⟩
  · obtain ⟨dev', hst, hpackets⟩ := performRuns_count (writeRuns w batches) dev failed
    have htotal := written_add_lost (writeRuns w batches)
    rw [hall] at htotal
    rw [serverWriter, writerTask_eq, hst, ← Attempt.reported_eq_lost_iff WriteUnit.size_pos]
    constructor
    · rintro ⟨written, hw, -, hcount⟩
      obtain rfl := List.append_cancel_left (hpackets.symm.trans hw)
      simp only [] at hcount
      omega
    · intro heq
      have hruns := (Attempt.reported_eq_lost_iff WriteUnit.size_pos _).1 heq
      refine ⟨_, hpackets, ?_, ?_⟩
      · have hfilter : (writeRuns w batches).flatMap (List.takeWhile WriteUnit.ok) =
            (writeRuns w batches).flatten.filter WriteUnit.ok := by
          rw [List.filter_flatten, ← List.flatMap_def]
          exact List.flatMap_congr fun run hrun => (hruns run hrun).takeWhile_eq_filter
        rw [hfilter]
      · simp only []
        omega
  · rw [clientWriter, serverWriter, writerTask_eq, writerTask_eq]
    refine performRuns_device (fun t result => ?_) _ dev 0 failed
    cases result <;> rfl

/-- Three packets without metadata; the device refuses the first. -/
def refusedFirst : List TunWriteRequest :=
  [⟨0, none, [0x45], some "Input/output error"⟩, ⟨1, none, [0x45], none⟩, ⟨2, none, [0x45], none⟩]

/-- The other two are not written, and one failure is counted for three packets. -/
theorem tunWriter_drops_rest :
    (serverWriter ⟨false, false⟩ ⟨⟨[], []⟩, 0, none⟩ [refusedFirst]).device.packets = [] ∧
    (serverWriter ⟨false, false⟩ ⟨⟨[], []⟩, 0, none⟩ [refusedFirst]).noted = 1 ∧
    ((writeRuns ⟨false, false⟩ [refusedFirst]).flatten.filter WriteUnit.ok).flatMap WriteUnit.carried =
      refusedFirst.drop 1 := by
  refine ⟨?_, ?_, ?_⟩ <;> decide +kernel

end EzVpn
