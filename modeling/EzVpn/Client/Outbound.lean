import EzVpn.Server.TunReader
import EzVpn.Stream.Send

/-!
# Packets to the server

The outbound task of the client (src/tunnel/client.rs, `run_tunnel`): it reads the TUN, drops
what it takes for its own transport's UDP packets, turns the rest into datagrams and sends them
in batches.  `outbound_handed` says what a whole run hands to `send_datagram_batch`, whatever
the batches before it left in the buffers.

The filter is a copy of the server's.  Neither looks at the fragment offset of an IPv4 packet,
so the payload of a later fragment is read as ports (`dropsOnlyIrohUdp_iff`).
-/

namespace EzVpn

open Lib Bytes

/-! ## The filter -/

namespace Client

/-- The client's `extract_udp_ports`, with constants of its own. -/
def extractUdpPorts (packet : Bytes) : Option (UInt16 × UInt16) :=
  let ipv4MinHeaderBytes := 20
  let ipv6MinHeaderBytes := 40
  if packet.length < ipv4MinHeaderBytes then none
  else
    let version := byteAt packet 0 >>> 4
    if version = 4 then
      let ihl := (byteAt packet 0 &&& 0x0f).toNat * 4
      if ihl < ipv4MinHeaderBytes ∨ packet.length < ihl + 8 then none
      else if byteAt packet 9 ≠ 17 then none
      else
        some (be16 (byteAt packet ihl) (byteAt packet (ihl + 1)),
          be16 (byteAt packet (ihl + 2)) (byteAt packet (ihl + 3)))
    else if version = 6 then
      if packet.length < ipv6MinHeaderBytes + 8 then none
      else if byteAt packet 6 ≠ 17 then none
      else
        some (be16 (byteAt packet 40) (byteAt packet 41), be16 (byteAt packet 42) (byteAt packet 43))
    else none

def packetHasLocalIrohUdpPort (packet : Bytes) (blockedPorts : List UInt16) : Bool :=
  if blockedPorts.isEmpty then false
  else
    match extractUdpPorts packet with
    | none => false
    | some (srcPort, dstPort) => blockedPorts.contains srcPort || blockedPorts.contains dstPort

theorem packetHasLocalIrohUdpPort_eq :
    packetHasLocalIrohUdpPort = EzVpn.packetHasLocalIrohUdpPort := rfl

end Client

/-! ## The task -/

/-- `DATAGRAM_SEND_BATCH`. -/
def datagramSendBatch : Nat := 64

/-- What `try_read_buf_within` finds. -/
inductive TryRead
  | drained
  | read (frame : Bytes)
  | failed (error : String)

/-- One pass of the outer loop, with what it meets. -/
structure OutboundPass where
  /-- the read that waits -/
  first : Except String Bytes
  maxDatagramSize : Option Nat
  /-- the reads that do not, in order -/
  reads : List TryRead
  conn : Connection

/-- The variables of the task, and what it has done. -/
structure OutboundState where
  arena : Bytes := []
  segScratch : Bytes := []
  pending : List Bytes := []
  droppedTooLarge : Nat := 0
  warnedTooLarge : Bool := false
  /-- the reason the task returned -/
  reason : Option String := none
  /-- the batches handed to `send_datagram_batch` -/
  batches : List (List Bytes) := []

def tunReadFailed (error : String) : String := s!"TUN read error: {error}"

section
variable (device : TunReader) (ports : List UInt16)

/-- One frame, on the segmentation buffer and what is prepared so far. -/
def outboundFrame (maxSize : Option Nat) (st : Bytes × Preparation) (frame : Bytes) : Bytes × Preparation :=
  match device.splitFrame frame with
  | .error _ => st
  | .ok (offload, packet) =>
    if Client.packetHasLocalIrohUdpPort packet ports then st
    else prepareIpDatagrams maxSize st.1 offload packet st.2

/-- The inner loop, on a frame that was read; `left` more reads are allowed.  The error is that
of a read that failed. -/
def drainTun (maxSize : Option Nat) :
    Nat → Bytes → List TryRead → Bytes × Preparation → (Bytes × Preparation) × Option String
  | 0, frame, _, st => (outboundFrame device ports maxSize st frame, none)
  | _ + 1, frame, [], st => (outboundFrame device ports maxSize st frame, none)
  | _ + 1, frame, .drained :: _, st => (outboundFrame device ports maxSize st frame, none)
  | _ + 1, frame, .failed e :: _, st => (outboundFrame device ports maxSize st frame, some e)
  | left + 1, frame, .read next :: reads, st =>
    let st := outboundFrame device ports maxSize st frame
    if next.isEmpty then (st, none) else drainTun maxSize left next reads st

/-- One pass of the outer loop. -/
def outboundPass (st : OutboundState) (pass : OutboundPass) : OutboundState :=
  if st.reason.isSome then st
  else
    match pass.first with
    | .error e => { st with reason := some (tunReadFailed e) }
    | .ok frame =>
      if frame.isEmpty then st
      else
        match drainTun device ports pass.maxDatagramSize (datagramSendBatch - 1) frame pass.reads
          (st.segScratch, ⟨st.arena, st.pending, {}⟩) with
        | ((segScratch, prepared), some e) =>
          -- what was prepared is not sent any more
          { st with
            segScratch, arena := prepared.arena, pending := prepared.pending
            reason := some (tunReadFailed e) }
        | ((segScratch, prepared), none) =>
          let outcome :=
            if prepared.pending.isEmpty then prepared.outcome
            else (sendDatagramBatch pass.conn prepared.pending ⟨prepared.outcome, []⟩).2.outcome
          { segScratch, arena := prepared.arena, pending := [], reason := none
            droppedTooLarge := st.droppedTooLarge + outcome.droppedTooLarge
            warnedTooLarge := st.warnedTooLarge || decide (outcome.droppedTooLarge > 0)
            batches := if prepared.pending.isEmpty then st.batches else st.batches ++ [prepared.pending] }

end

/-! ## What is sent -/

section
variable (device : TunReader) (ports : List UInt16)

/-- The datagrams a frame is to be sent as. -/
def frameDatagrams (maxSize : Option Nat) (frame : Bytes) : List Bytes :=
  match device.splitFrame frame with
  | .error _ => []
  | .ok (offload, packet) =>
    if Client.packetHasLocalIrohUdpPort packet ports then [] else datagrams maxSize offload packet

/-- The frames the inner loop reads after the first, and the error that ends it. -/
def readsOf : Nat → List TryRead → List Bytes × Option String
  | 0, _ => ([], none)
  | _ + 1, [] => ([], none)
  | _ + 1, .drained :: _ => ([], none)
  | _ + 1, .failed e :: _ => ([], some e)
  | left + 1, .read next :: reads =>
    if next.isEmpty then ([], none)
    else
      let (frames, failed) := readsOf left reads
      (next :: frames, failed)

/-- What a pass is to hand to the connection; `none` if it ends the task. -/
def passDatagrams (pass : OutboundPass) : Option (List Bytes) :=
  match pass.first with
  | .error _ => none
  | .ok frame =>
    if frame.isEmpty then some []
    else
      match readsOf (datagramSendBatch - 1) pass.reads with
      | (_, some _) => none
      | (frames, none) => some ((frame :: frames).flatMap (frameDatagrams device ports pass.maxDatagramSize))

/-- The datagrams of a run: those of the passes before the one that ends the task. -/
def handed : List OutboundPass → List Bytes
  | [] => []
  | pass :: passes =>
    match passDatagrams device ports pass with
    | none => []
    | some ds => ds ++ handed passes

variable (maxSize : Option Nat)

theorem outboundFrame_appended {st : Bytes × Preparation} (h : st.2.arena = []) (frame : Bytes) :
    Appended (frameDatagrams device ports maxSize frame) st.2
      (outboundFrame device ports maxSize st frame).2 := by
  have hsame : Appended [] st.2 st.2 := ⟨h, (List.append_nil _).symm⟩
  unfold outboundFrame frameDatagrams
  split
  · exact hsame
  · split
    · exact hsame
    · exact prepareIpDatagrams_pending maxSize st.2 h _ _ _

theorem foldl_outboundFrame (frames : List Bytes) : ∀ {st : Bytes × Preparation}, st.2.arena = [] →
    Appended (frames.flatMap (frameDatagrams device ports maxSize)) st.2
      (frames.foldl (outboundFrame device ports maxSize) st).2 := by
  induction frames with
  | nil =>
    intro st h
    exact ⟨h, (List.append_nil _).symm⟩
  | cons frame frames ih =>
    intro st h
    obtain ⟨harena, hpending⟩ := outboundFrame_appended device ports maxSize h frame
    obtain ⟨harena', hpending'⟩ := ih harena
    refine ⟨harena', ?_⟩
    rw [List.foldl_cons, hpending', hpending, List.append_assoc, List.flatMap_cons]

/-- The inner loop handles the frames it reads one after the other. -/
theorem drainTun_eq (reads : List TryRead) : ∀ (left : Nat) (frame : Bytes) (st : Bytes × Preparation),
    drainTun device ports maxSize left frame reads st =
      ((frame :: (readsOf left reads).1).foldl (outboundFrame device ports maxSize) st,
        (readsOf left reads).2) := by
  induction reads with
  | nil =>
    intro left frame st
    cases left with
    | zero => rfl
    | succ left => rfl
  | cons r reads ih =>
    intro left frame st
    cases left with
    | zero => rfl
    | succ left =>
      cases r with
      | drained => rfl
      | failed e => rfl
      | read next =>
        simp only [drainTun, readsOf]
        split
        · rfl
        · rw [ih]
          rfl

/-- Nothing is left over between two passes. -/
structure OutboundState.Drained (st : OutboundState) : Prop where
  arena : st.arena = []
  pending : st.pending = []
  running : st.reason = none

/-- **One pass** hands over its own datagrams, or ends the task. -/
theorem outboundPass_spec {st : OutboundState} (h : st.Drained) (pass : OutboundPass) :
    match passDatagrams device ports pass with
    | none => (outboundPass device ports st pass).reason.isSome = true ∧
        (outboundPass device ports st pass).batches = st.batches
    | some ds => (outboundPass device ports st pass).Drained ∧
        (outboundPass device ports st pass).batches.flatten = st.batches.flatten ++ ds := by
  have hrunning : ¬ st.reason.isSome = true := by simp [h.running]
  unfold outboundPass passDatagrams
  rw [if_neg hrunning]
  cases pass.first with
  | error e => exact ⟨rfl, rfl⟩
  | ok frame =>
    dsimp only
    by_cases hempty : frame.isEmpty = true
    · rw [if_pos hempty, if_pos hempty]
      exact ⟨h, (List.append_nil _).symm⟩
    · rw [if_neg hempty, if_neg hempty, drainTun_eq]
      obtain ⟨frames, failed⟩ := readsOf (datagramSendBatch - 1) pass.reads
      -- what the pass prepares, from a drained state
      have happ := foldl_outboundFrame device ports pass.maxDatagramSize (frame :: frames)
        (show (st.segScratch, (⟨st.arena, st.pending, {}⟩ : Preparation)).2.arena = [] from h.arena)
      generalize (frame :: frames).foldl (outboundFrame device ports pass.maxDatagramSize)
        (st.segScratch, ⟨st.arena, st.pending, {}⟩) = out at happ ⊢
      obtain ⟨segScratch, prepared⟩ := out
      obtain ⟨harena, hpending⟩ := happ
      have hds : prepared.pending =
          (frame :: frames).flatMap (frameDatagrams device ports pass.maxDatagramSize) := by
        rw [show prepared.pending = st.pending ++ _ from hpending, h.pending, List.nil_append]
      cases failed with
      | some e => exact ⟨rfl, rfl⟩
      | none =>
        refine ⟨⟨harena, rfl, rfl⟩, ?_⟩
        dsimp only
        rw [← hds]
        split
        · next hnone => rw [List.isEmpty_iff.1 hnone, List.append_nil]
        · rw [List.flatten_append, List.flatten_singleton]

theorem run_outboundPass_ended (passes : List OutboundPass) : ∀ {st : OutboundState},
    st.reason.isSome = true → run (outboundPass device ports) st passes = st := by
  induction passes with
  | nil => intro st _; rfl
  | cons pass passes ih =>
    intro st h
    have hsame : outboundPass device ports st pass = st := by
      unfold outboundPass
      rw [if_pos h]
    rw [run_cons, hsame]
    exact ih h

theorem run_outboundPass (passes : List OutboundPass) : ∀ {st : OutboundState}, st.Drained →
    (run (outboundPass device ports) st passes).batches.flatten =
      st.batches.flatten ++ handed device ports passes := by
  induction passes with
  | nil => intro st _; exact (List.append_nil _).symm
  | cons pass passes ih =>
    intro st h
    have hspec := outboundPass_spec device ports h pass
    rw [run_cons, handed]
    cases hds : passDatagrams device ports pass with
    | none =>
      rw [hds] at hspec
      rw [run_outboundPass_ended device ports passes hspec.1, hspec.2, List.append_nil]
    | some ds =>
      rw [hds] at hspec
      rw [ih hspec.1, hspec.2, List.append_assoc]

/-- **A run of the task** hands over the datagrams of the frames it read, in order. -/
theorem outbound_handed (passes : List OutboundPass) :
    (run (outboundPass device ports) {} passes).batches.flatten = handed device ports passes :=
  run_outboundPass device ports passes ⟨rfl, rfl, rfl⟩

end

/-! ## What is dropped -/

/-- The fragment offset of an IPv4 packet, in units of eight bytes. -/
def fragmentOffset (packet : Bytes) : Nat := (be16 (byteAt packet 6) (byteAt packet 7)).toNat % 2 ^ 13

/-- An IPv4 packet of protocol UDP, with room for a UDP header behind its own. -/
def Ipv4Udp (packet : Bytes) : Prop :=
  byteAt packet 0 >>> 4 = 4 ∧ 20 ≤ ihlOf packet ∧ ihlOf packet + 8 ≤ packet.length ∧ byteAt packet 9 = 17

/-- An IPv6 packet whose next header is UDP. -/
def Ipv6Udp (packet : Bytes) : Prop :=
  byteAt packet 0 >>> 4 = 6 ∧ 48 ≤ packet.length ∧ byteAt packet 6 = 17

/-- One of the two words at `i` is one of the ports. -/
def PortAt (ports : List UInt16) (packet : Bytes) (i : Nat) : Prop :=
  be16 (byteAt packet i) (byteAt packet (i + 1)) ∈ ports ∨
    be16 (byteAt packet (i + 2)) (byteAt packet (i + 3)) ∈ ports

/-- A packet of the transport itself: it has a UDP header, with one of the ports in it. -/
def IrohUdp (ports : List UInt16) (packet : Bytes) : Prop :=
  Ipv4Udp packet ∧ fragmentOffset packet = 0 ∧ PortAt ports packet (ihlOf packet) ∨
    Ipv6Udp packet ∧ PortAt ports packet 40

/-- A later fragment, whose payload starts with what would be one of the ports. -/
def MisreadFragment (ports : List UInt16) (packet : Bytes) : Prop :=
  Ipv4Udp packet ∧ fragmentOffset packet ≠ 0 ∧ PortAt ports packet (ihlOf packet)

instance (ports : List UInt16) (packet : Bytes) : Decidable (IrohUdp ports packet) := by
  unfold IrohUdp Ipv4Udp Ipv6Udp PortAt
  infer_instance

section
variable {ports : List UInt16} {packet : Bytes}

theorem extractUdpPorts_ipv4 (h : Ipv4Udp packet) :
    extractUdpPorts packet =
      some (be16 (byteAt packet (ihlOf packet)) (byteAt packet (ihlOf packet + 1)),
        be16 (byteAt packet (ihlOf packet + 2)) (byteAt packet (ihlOf packet + 3))) := by
  obtain ⟨hv, hmin, hlen, hudp⟩ := h
  unfold ihlOf at hmin hlen
  unfold extractUdpPorts ipv4MinHeader ipVersion4
  rw [if_neg (by omega), if_pos hv, if_neg (by omega), if_neg (not_not.2 hudp)]
  rfl

theorem extractUdpPorts_ipv6 (h : Ipv6Udp packet) :
    extractUdpPorts packet =
      some (be16 (byteAt packet 40) (byteAt packet 41), be16 (byteAt packet 42) (byteAt packet 43)) := by
  obtain ⟨hv, hlen, hudp⟩ := h
  have hv4 : ¬ byteAt packet 0 >>> 4 = 4 := by
    rw [hv]
    decide
  unfold extractUdpPorts ipv4MinHeader ipv6MinHeader ipVersion4 ipVersion6
  rw [if_neg (by omega), if_neg hv4, if_pos hv, if_neg (by omega), if_neg (not_not.2 hudp)]

/-- Other packets have no ports. -/
theorem extractUdpPorts_none (h4 : ¬ Ipv4Udp packet) (h6 : ¬ Ipv6Udp packet) :
    extractUdpPorts packet = none := by
  unfold Ipv4Udp ihlOf at h4
  unfold Ipv6Udp at h6
  unfold extractUdpPorts ipv4MinHeader ipv6MinHeader ipVersion4 ipVersion6
  split
  · rfl
  · dsimp only
    split
    · next hv =>
      split
      · rfl
      · split
        · rfl
        · next hlen hudp => exact absurd ⟨hv, by omega, by omega, not_not.1 hudp⟩ h4
    · split
      · next hv =>
        split
        · rfl
        · split
          · rfl
          · next hlen hudp => exact absurd ⟨hv, by omega, not_not.1 hudp⟩ h6
      · rfl

theorem selfEncapsulated_iff :
    SelfEncapsulated ports packet ↔
      Ipv4Udp packet ∧ PortAt ports packet (ihlOf packet) ∨ Ipv6Udp packet ∧ PortAt ports packet 40 := by
  constructor
  · rintro ⟨src, dst, hports, hmem⟩
    by_cases h4 : Ipv4Udp packet
    · rw [extractUdpPorts_ipv4 h4] at hports
      obtain ⟨rfl, rfl⟩ := Prod.mk.inj (Option.some.inj hports)
      exact .inl ⟨h4, hmem⟩
    · by_cases h6 : Ipv6Udp packet
      · rw [extractUdpPorts_ipv6 h6] at hports
        obtain ⟨rfl, rfl⟩ := Prod.mk.inj (Option.some.inj hports)
        exact .inr ⟨h6, hmem⟩
      · rw [extractUdpPorts_none h4 h6] at hports
        cases hports
  · rintro (⟨h4, hmem⟩ | ⟨h6, hmem⟩)
    · exact ⟨_, _, extractUdpPorts_ipv4 h4, hmem⟩
    · exact ⟨_, _, extractUdpPorts_ipv6 h6, hmem⟩

/-- What the filter takes for a packet of the transport. -/
theorem selfEncapsulated_iff_or :
    SelfEncapsulated ports packet ↔ IrohUdp ports packet ∨ MisreadFragment ports packet := by
  rw [selfEncapsulated_iff]
  constructor
  · rintro (⟨h4, hmem⟩ | h6)
    · by_cases hfirst : fragmentOffset packet = 0
      · exact .inl (.inl ⟨h4, hfirst, hmem⟩)
      · exact .inr ⟨h4, hfirst, hmem⟩
    · exact .inl (.inr h6)
  · rintro ((⟨h4, _, hmem⟩ | h6) | ⟨h4, _, hmem⟩)
    · exact .inl ⟨h4, hmem⟩
    · exact .inr h6
    · exact .inl ⟨h4, hmem⟩

theorem MisreadFragment.not_irohUdp (h : MisreadFragment ports packet) : ¬ IrohUdp ports packet := by
  rintro (⟨_, hfirst, _⟩ | ⟨hv6, _⟩)
  · exact h.2.1 hfirst
  · exact absurd (h.1.1.symm.trans hv6.1) (by decide)

end

/-- **The filters drop only UDP packets of the transport**, except for later fragments whose
payload starts like one. -/
theorem dropsOnlyIrohUdp_iff (ports : List UInt16) (packet : Bytes) :
    ((packetHasLocalIrohUdpPort packet ports = true → IrohUdp ports packet) ∧
      (Client.packetHasLocalIrohUdpPort packet ports = true → IrohUdp ports packet)) ↔
      ¬ MisreadFragment ports packet := by
  rw [Client.packetHasLocalIrohUdpPort_eq, and_self, packetHasLocalIrohUdpPort_iff, selfEncapsulated_iff_or]
  constructor
  · intro h hmisread
    exact hmisread.not_irohUdp (h (.inr hmisread))
  · rintro h (hiroh | hmisread)
    · exact hiroh
    · exact absurd hmisread h

/-- The second fragment of a UDP datagram, with `0x1234` as the first word of its payload. -/
def laterFragment : Bytes :=
  [0x45, 0, 0, 28, 0, 1, 0, 185, 64, 17, 0, 0, 10, 0, 0, 2, 10, 0, 0, 1, 0x12, 0x34, 0, 0, 0, 0, 0, 0]

/-- Both filters take it for a packet of the transport, and the client's task sends nothing. -/
theorem laterFragment_dropped :
    packetHasLocalIrohUdpPort laterFragment [0x1234] = true ∧
    Client.packetHasLocalIrohUdpPort laterFragment [0x1234] = true ∧
    ¬ IrohUdp [0x1234] laterFragment ∧
    ∀ maxSize conn, (run (outboundPass ⟨false, false⟩ [0x1234]) {}
      [⟨.ok laterFragment, maxSize, [], conn⟩]).batches.flatten = [] := by
  refine ⟨by decide +kernel, by decide +kernel, by decide +kernel, ?_⟩
  intro maxSize conn
  rw [outbound_handed]
  rfl

end EzVpn
