import EzVpn.Response
import EzVpn.Offload.Virtio
import Mathlib.Data.List.Forall2

/-!
# Frames of the control stream

`encode_server_addrs_frame`, `encode_heartbeat_frame`, `read_frame` and `classify`
(src/tunnel/stream.rs) with the message types of src/tunnel/signaling.rs.  The stream is the
concatenation of the frames, cut into chunks by the transport and possibly cut short.
`controlStream_framing` says that the reader gets back the messages of the frames that are
complete, and tells a cut between two frames from a cut inside one.
-/

namespace EzVpn

open Lib Bytes

inductive DataMessageType
  | serverAddrs
  | ping
  | pong
deriving DecidableEq

def DataMessageType.asByte : DataMessageType → UInt8
  | serverAddrs => 0x01
  | ping => 0x02
  | pong => 0x03

def DataMessageType.fromByte (b : UInt8) : Option DataMessageType :=
  if b = 0x01 then some serverAddrs
  else if b = 0x02 then some ping
  else if b = 0x03 then some pong
  else none

structure ServerAddrsMsg where
  addrs : List IpAddr
deriving DecidableEq

/-- `serde_json::to_vec`, which does not fail on a list of addresses. -/
def ServerAddrsMsg.toVec (msg : ServerAddrsMsg) : Bytes :=
  Json.bytes (Json.obj [("addrs", Json.arr (msg.addrs.map fun ip => Json.str (displayIp ip)))])

def ServerAddrsMsg.decode (fromSlice : Bytes → Except String ServerAddrsMsg) (data : Bytes) :
    Except VpnError ServerAddrsMsg :=
  match fromSlice data with
  | .ok msg => .ok msg
  | .error e => .error (.signaling s!"Failed to decode server addrs: {e}")

def frameLenPrefix : Nat := 4
def maxFrameBody : Nat := 2 + virtioNetHdrLen + 65535
def heartbeatBodyLen : Nat := 1 + 8

/-- A classified control frame. -/
inductive Frame
  | serverAddrs (body : Bytes)
  | ping (seq : UInt64)
  | pong (seq : UInt64)
deriving DecidableEq

/-- `u64::from_be_bytes` of exactly eight bytes. -/
def heartbeatSeq (body rest : Bytes) : Except VpnError UInt64 :=
  if rest.length = 8 then .ok (UInt64.ofNat (beNat rest))
  else .error (.signaling s!"Heartbeat frame body of {body.length} bytes")

def classify (body : Bytes) : Except VpnError Frame :=
  match body with
  | [] => .error (.signaling "Empty frame body")
  | typeByte :: rest =>
    match DataMessageType.fromByte typeByte with
    | some .serverAddrs => .ok (.serverAddrs rest)
    | some .ping => (heartbeatSeq body rest).map Frame.ping
    | some .pong => (heartbeatSeq body rest).map Frame.pong
    | none => .error (.signaling s!"Unknown frame message type: 0x{hex02 typeByte}")

def encodeServerAddrsFrame (msg : ServerAddrsMsg) : Except VpnError Bytes :=
  let body := msg.toVec
  let bodyLen := 1 + body.length
  if bodyLen > maxFrameBody then
    .error (.signaling s!"Server addrs frame too large: {bodyLen} > {maxFrameBody}")
  else .ok (toBe frameLenPrefix bodyLen ++ [DataMessageType.serverAddrs.asByte] ++ body)

def encodeHeartbeatFrame (kind : DataMessageType) (seq : UInt64) : Bytes :=
  toBe frameLenPrefix heartbeatBodyLen ++ [kind.asByte] ++ toBe 8 seq.toNat

section
variable (finishedEarly : Nat → String)

/-- `read_frame`: the body and the rest of the stream, or `none` at the end of it.
`finishedEarly` is the text of the error of a `read_exact` that got some bytes only. -/
def readFrame (recv : List Bytes) : Except VpnError (Option (Bytes × List Bytes)) :=
  match readExact recv frameLenPrefix with
  | .error 0 => .ok none
  | .error got => .error (.connectionLost s!"control stream read error: {finishedEarly got}")
  | .ok (lenBuf, recv) =>
    let bodyLen := beNat lenBuf
    if bodyLen = 0 ∨ bodyLen > maxFrameBody then
      .error (.signaling s!"Invalid frame length {bodyLen} (max {maxFrameBody})")
    else
      match readExact recv bodyLen with
      | .error got =>
        .error (.connectionLost s!"control stream read error mid-frame: {finishedEarly got}")
      | .ok (body, recv) => .ok (some (body, recv))

/-- `read_exact` takes what it returns from the stream. -/
theorem length_readExact {recv rest : List Bytes} {n : Nat} {buf : Bytes}
    (h : readExact recv n = .ok (buf, rest)) : n + rest.flatten.length = recv.flatten.length := by
  by_cases hle : n ≤ recv.flatten.length
  · obtain ⟨rest', hok, hrest⟩ := readExact_of_le hle
    rw [h] at hok
    obtain ⟨-, rfl⟩ := Prod.mk.inj (Except.ok.inj hok)
    rw [hrest, List.length_drop]
    omega
  · rw [readExact_of_lt (Nat.lt_of_not_le hle)] at h
    cases h

theorem readFrame_length {recv rest : List Bytes} {body : Bytes}
    (h : readFrame finishedEarly recv = .ok (some (body, rest))) :
    rest.flatten.length < recv.flatten.length := by
  unfold readFrame at h
  split at h
  · cases h
  · cases h
  · next lenBuf recv' hlen =>
    simp only [] at h
    split at h
    · cases h
    · split at h
      · cases h
      · next body' rest' hbody =>
        obtain ⟨-, rfl⟩ := Prod.mk.inj (Option.some.inj (Except.ok.inj h))
        have h1 := length_readExact hlen
        have h2 := length_readExact hbody
        have : frameLenPrefix = 4 := rfl
        omega

/-- The loops that read control frames: what each classifies as, and how the stream ended. -/
def readFrames (recv : List Bytes) : List (Except VpnError Frame) × Except VpnError Unit :=
  match h : readFrame finishedEarly recv with
  | .ok none => ([], .ok ())
  | .error e => ([], .error e)
  | .ok (some (body, rest)) =>
    have := readFrame_length finishedEarly h
    let (frames, ending) := readFrames rest
    (classify body :: frames, ending)
termination_by recv.flatten.length
decreasing_by exact this

end

/-! ## Messages -/

/-- What is sent on the control stream. -/
inductive ControlMessage
  | serverAddrs (msg : ServerAddrsMsg)
  | ping (seq : UInt64)
  | pong (seq : UInt64)
deriving DecidableEq

def ControlMessage.encode : ControlMessage → Except VpnError Bytes
  | serverAddrs msg => encodeServerAddrsFrame msg
  | ping seq => .ok (encodeHeartbeatFrame .ping seq)
  | pong seq => .ok (encodeHeartbeatFrame .pong seq)

/-- The message a frame carries. -/
def Frame.message (fromSlice : Bytes → Except String ServerAddrsMsg) :
    Frame → Except VpnError ControlMessage
  | serverAddrs body => (ServerAddrsMsg.decode fromSlice body).map .serverAddrs
  | ping seq => .ok (.ping seq)
  | pong seq => .ok (.pong seq)

/-- The body of a message's frame. -/
def ControlMessage.body : ControlMessage → Bytes
  | serverAddrs msg => DataMessageType.serverAddrs.asByte :: msg.toVec
  | ping seq => DataMessageType.ping.asByte :: toBe 8 seq.toNat
  | pong seq => DataMessageType.pong.asByte :: toBe 8 seq.toNat

/-- Both encoders put the body behind its length. -/
theorem ControlMessage.encode_eq {m : ControlMessage} {frame : Bytes} (h : m.encode = .ok frame) :
    frame = framed frameLenPrefix m.body ∧ 0 < m.body.length ∧ m.body.length ≤ maxFrameBody := by
  cases m with
  | serverAddrs msg =>
    simp only [encode, encodeServerAddrsFrame] at h
    split at h
    · cases h
    · next hle =>
      obtain rfl := Except.ok.inj h
      simp only [body, framed, List.length_cons]
      rw [Nat.add_comm msg.toVec.length 1, List.append_assoc]
      exact ⟨rfl, by omega, by omega⟩
  | ping seq | pong seq =>
    obtain rfl := Except.ok.inj h
    have hmax : 8 + 1 ≤ maxFrameBody := by decide +kernel
    simp only [body, framed, List.length_cons, length_toBe, encodeHeartbeatFrame, List.append_assoc]
    exact ⟨rfl, Nat.succ_pos 8, hmax⟩

theorem heartbeatSeq_toBe (body : Bytes) (seq : UInt64) : heartbeatSeq body (toBe 8 seq.toNat) = .ok seq := by
  have hlt : seq.toNat < 256 ^ 8 := seq.toNat_lt
  rw [heartbeatSeq, if_pos (length_toBe 8 _), beNat_toBe_of_lt hlt, UInt64.ofNat_toNat]

/-- **Classifying a message's body** gives a frame that carries the message. -/
theorem ControlMessage.classify_body (m : ControlMessage) :
    ∃ frame, classify m.body = .ok frame ∧ ∀ fromSlice : Bytes → Except String ServerAddrsMsg,
      (∀ msg, m = .serverAddrs msg → fromSlice msg.toVec = .ok msg) → frame.message fromSlice = .ok m := by
  cases m with
  | serverAddrs msg =>
    refine ⟨.serverAddrs msg.toVec, rfl, fun fromSlice hjson => ?_⟩
    simp only [Frame.message, ServerAddrsMsg.decode, hjson msg rfl]
    rfl
  | ping seq =>
    refine ⟨.ping seq, ?_, fun _ _ => rfl⟩
    show (heartbeatSeq (ControlMessage.ping seq).body (toBe 8 seq.toNat)).map Frame.ping = _
    rw [heartbeatSeq_toBe]
    rfl
  | pong seq =>
    refine ⟨.pong seq, ?_, fun _ _ => rfl⟩
    show (heartbeatSeq (ControlMessage.pong seq).body (toBe 8 seq.toNat)).map Frame.pong = _
    rw [heartbeatSeq_toBe]
    rfl

/-! ## Reading a stream -/

section
variable {finishedEarly : Nat → String} {recv : List Bytes} {body : Bytes}

theorem readFrames_of_none (h : readFrame finishedEarly recv = .ok none) :
    readFrames finishedEarly recv = ([], .ok ()) := by
  unfold readFrames
  split <;> simp_all

theorem readFrames_of_error {e : VpnError} (h : readFrame finishedEarly recv = .error e) :
    readFrames finishedEarly recv = ([], .error e) := by
  unfold readFrames
  split <;> simp_all

theorem readFrames_of_some {rest : List Bytes}
    (h : readFrame finishedEarly recv = .ok (some (body, rest))) :
    readFrames finishedEarly recv =
      (classify body :: (readFrames finishedEarly rest).1, (readFrames finishedEarly rest).2) := by
  rw [readFrames]
  split <;> simp_all

theorem readFrame_nil (finishedEarly : Nat → String) (h : recv.flatten = []) :
    readFrame finishedEarly recv = .ok none := by
  have hlt : recv.flatten.length < frameLenPrefix := by rw [h]; decide
  rw [readFrame, readExact_of_lt hlt, h]
  rfl

/-- The length in front of a body the reader allows is read back and passes its check. -/
theorem bodyLen_ok (hpos : 0 < body.length) (hmax : body.length ≤ maxFrameBody) :
    beNat (toBe frameLenPrefix body.length) = body.length ∧
      ¬ (body.length = 0 ∨ body.length > maxFrameBody) := by
  have hmax' : maxFrameBody < 256 ^ frameLenPrefix := by decide +kernel
  exact ⟨beNat_toBe_of_lt (hmax.trans_lt hmax'), by omega⟩

theorem readFrame_framed (finishedEarly : Nat → String) {more : Bytes}
    (hpos : 0 < body.length) (hmax : body.length ≤ maxFrameBody)
    (h : recv.flatten = framed frameLenPrefix body ++ more) :
    ∃ rest, readFrame finishedEarly recv = .ok (some (body, rest)) ∧ rest.flatten = more := by
  obtain ⟨rest, hlen, rest', hbody, hmore⟩ := readExact_framed h
  obtain ⟨hval, hok⟩ := bodyLen_ok hpos hmax
  refine ⟨rest', ?_, hmore⟩
  simp only [readFrame, hlen, hval, if_neg hok, hbody]

/-- A frame cut short is an error, in the length or in the body. -/
theorem readFrame_cut (finishedEarly : Nat → String) {k : Nat}
    (hpos : 0 < body.length) (hmax : body.length ≤ maxFrameBody) (hk : 0 < k)
    (hcut : k < (framed frameLenPrefix body).length)
    (h : recv.flatten = (framed frameLenPrefix body).take k) :
    ∃ e, readFrame finishedEarly recv = .error e := by
  have hlen : recv.flatten.length = k := by rw [h, List.length_take]; omega
  rw [length_framed] at hcut
  by_cases hprefix : k < frameLenPrefix
  · rw [readFrame, readExact_of_lt (hlen ▸ hprefix), hlen]
    obtain ⟨k, rfl⟩ := Nat.exists_eq_succ_of_ne_zero hk.ne'
    exact ⟨_, rfl⟩
  · have hle : frameLenPrefix ≤ k := Nat.le_of_not_lt hprefix
    obtain ⟨rest, hread, hrest⟩ := readExact_of_le (hlen.symm ▸ hle)
    obtain ⟨hval, hok⟩ := bodyLen_ok hpos hmax
    have htake : recv.flatten.take frameLenPrefix = toBe frameLenPrefix body.length := by
      rw [h, List.take_take, Nat.min_eq_left hle, framed, List.take_left' (length_toBe _ _)]
    have hshort : rest.flatten.length < body.length := by
      rw [hrest, List.length_drop, hlen]
      omega
    rw [htake] at hread
    simp only [readFrame, hread, hval, if_neg hok, readExact_of_lt hshort]
    exact ⟨_, rfl⟩

end

/-- What the reader makes of a stream: the message of each frame, and how the stream ended. -/
def readMessages (finishedEarly : Nat → String) (fromSlice : Bytes → Except String ServerAddrsMsg)
    (recv : List Bytes) : List (Except VpnError ControlMessage) × Except VpnError Unit :=
  let (frames, ending) := readFrames finishedEarly recv
  (frames.map (·.bind (Frame.message fromSlice)), ending)

section
variable (finishedEarly : Nat → String) (fromSlice : Bytes → Except String ServerAddrsMsg)

/-- A complete frame in front of a stream is the first message. -/
theorem readMessages_frame {m : ControlMessage} {frame more : Bytes} {recv : List Bytes}
    (henc : m.encode = .ok frame) (hjson : ∀ msg, m = .serverAddrs msg → fromSlice msg.toVec = .ok msg)
    (h : recv.flatten = frame ++ more) :
    ∃ rest, rest.flatten = more ∧ readMessages finishedEarly fromSlice recv =
      (.ok m :: (readMessages finishedEarly fromSlice rest).1,
        (readMessages finishedEarly fromSlice rest).2) := by
  obtain ⟨rfl, hpos, hmax⟩ := ControlMessage.encode_eq henc
  obtain ⟨rest, hread, hmore⟩ := readFrame_framed finishedEarly hpos hmax h
  obtain ⟨frame, hclass, hmessage⟩ := m.classify_body
  refine ⟨rest, hmore, ?_⟩
  simp only [readMessages, readFrames_of_some hread, List.map_cons, hclass]
  rw [show (Except.ok frame).bind (Frame.message fromSlice) = .ok m from hmessage fromSlice hjson]

/-- Inside a frame the stream yields nothing, and ends cleanly only in front of it. -/
theorem readMessages_cut {m : ControlMessage} {frame : Bytes} {k : Nat} {recv : List Bytes}
    (henc : m.encode = .ok frame) (hcut : k < frame.length) (h : recv.flatten = frame.take k) :
    (readMessages finishedEarly fromSlice recv).1 = [] ∧
      ((readMessages finishedEarly fromSlice recv).2 = .ok () ↔ k = 0) := by
  obtain ⟨rfl, hpos, hmax⟩ := ControlMessage.encode_eq henc
  rcases Nat.eq_zero_or_pos k with rfl | hk
  · simp [readMessages, readFrames_of_none (readFrame_nil finishedEarly h)]
  · obtain ⟨e, he⟩ := readFrame_cut finishedEarly hpos hmax hk hcut h
    simp [readMessages, readFrames_of_error he, hk.ne']

omit finishedEarly fromSlice in
/-- Behind the first frame, the boundaries are those of the other frames. -/
theorem boundary_cons {frame : Bytes} {frames : List Bytes} {k : Nat} (hpos : 0 < frame.length)
    (hle : frame.length ≤ k) :
    (∃ i, k - frame.length = (frames.take i).flatten.length) ↔
      ∃ i, k = ((frame :: frames).take i).flatten.length := by
  constructor
  · rintro ⟨i, hi⟩
    refine ⟨i + 1, ?_⟩
    rw [List.take_succ_cons, List.flatten_cons, List.length_append]
    omega
  · rintro ⟨_ | i, hi⟩
    · simp only [List.take_zero, List.flatten_nil, List.length_nil] at hi
      omega
    · rw [List.take_succ_cons, List.flatten_cons, List.length_append] at hi
      exact ⟨i, by omega⟩

/-- What is read of a stream cut at byte `k`, with `j` the number of complete frames. -/
theorem readMessages_take {msgs : List ControlMessage} {frames : List Bytes}
    (henc : List.Forall₂ (fun m frame => m.encode = .ok frame) msgs frames)
    (hjson : ∀ msg, .serverAddrs msg ∈ msgs → fromSlice msg.toVec = .ok msg)
    {k : Nat} (hk : k ≤ frames.flatten.length) {recv : List Bytes} (h : recv.flatten = frames.flatten.take k) :
    ∃ j, j ≤ frames.length ∧ (frames.take j).flatten.length ≤ k ∧
      (∀ i, i ≤ frames.length → (frames.take i).flatten.length ≤ k → i ≤ j) ∧
      (readMessages finishedEarly fromSlice recv).1 = (msgs.take j).map .ok ∧
      ((readMessages finishedEarly fromSlice recv).2 = .ok () ↔
        ∃ i, k = (frames.take i).flatten.length) := by
  -- on the frames, the cut and the chunks moving with them
  induction henc generalizing k recv with
  | nil =>
    obtain rfl : k = 0 := by simpa using hk
    have hread := readFrames_of_none (readFrame_nil finishedEarly (show recv.flatten = [] by simpa using h))
    refine ⟨0, le_rfl, le_rfl, fun i hi _ => hi, ?_, ?_⟩ <;> simp [readMessages, hread]
  | @cons m frame msgs frames hm _ ih =>
    obtain ⟨hframe, hpos, -⟩ := ControlMessage.encode_eq hm
    have hlen : 0 < frame.length := by rw [hframe, length_framed]; omega
    rw [List.flatten_cons, List.length_append] at hk
    rw [List.flatten_cons] at h
    by_cases hcut : k < frame.length
    · -- the cut is in the first frame
      rw [List.take_append_of_le_length hcut.le] at h
      obtain ⟨hnone, hend⟩ := readMessages_cut finishedEarly fromSlice hm hcut h
      refine ⟨0, Nat.zero_le _, Nat.zero_le _, ?_, hnone, hend.trans ⟨fun hk0 => ⟨0, hk0⟩, ?_⟩⟩
      · rintro (_ | i) - hi
        · exact le_rfl
        · simp only [List.take_succ_cons, List.flatten_cons, List.length_append] at hi
          omega
      · rintro ⟨_ | i, hi⟩
        · exact hi
        · simp only [List.take_succ_cons, List.flatten_cons, List.length_append] at hi
          omega
    · have hle : frame.length ≤ k := Nat.le_of_not_lt hcut
      rw [List.take_append, List.take_of_length_le hle] at h
      obtain ⟨rest, hrest, hread⟩ := readMessages_frame finishedEarly fromSlice hm
        (fun msg hmsg => hjson msg (hmsg ▸ List.mem_cons_self)) h
      obtain ⟨j, hj, hjk, hmax, hmsgs, hend⟩ := ih
        (fun msg hmsg => hjson msg (List.mem_cons_of_mem _ hmsg)) (by omega) hrest
      rw [hread]
      refine ⟨j + 1, Nat.succ_le_succ hj, ?_, ?_, ?_, hend.trans (boundary_cons hlen hle)⟩
      · rw [List.take_succ_cons, List.flatten_cons, List.length_append]
        omega
      · rintro (_ | i) hi hik
        · exact Nat.zero_le _
        · rw [List.take_succ_cons, List.flatten_cons, List.length_append] at hik
          exact Nat.succ_le_succ (hmax i (Nat.le_of_succ_le_succ hi) (by omega))
      · simp only [hmsgs, List.take_succ_cons, List.map_cons]

end

/-- **Framing.**  The concatenated frames of any messages, in any chunks, are read back as
those messages and a clean end.  Cut at byte `k` they are read back as the messages of the
`j` frames that are complete; the end is clean if the cut is between two frames, and an error
if it is inside one. -/
theorem controlStream_framing (finishedEarly : Nat → String)
    (fromSlice : Bytes → Except String ServerAddrsMsg) (msgs : List ControlMessage) (frames : List Bytes)
    (henc : List.Forall₂ (fun m frame => m.encode = .ok frame) msgs frames)
    (hjson : ∀ msg, .serverAddrs msg ∈ msgs → fromSlice msg.toVec = .ok msg) :
    (∀ recv : List Bytes, recv.flatten = frames.flatten →
      readMessages finishedEarly fromSlice recv = (msgs.map .ok, .ok ())) ∧
    ∀ k ≤ frames.flatten.length, ∀ recv : List Bytes, recv.flatten = frames.flatten.take k →
      ∃ j, j ≤ frames.length ∧ (frames.take j).flatten.length ≤ k ∧
        (∀ i, i ≤ frames.length → (frames.take i).flatten.length ≤ k → i ≤ j) ∧
        (readMessages finishedEarly fromSlice recv).1 = (msgs.take j).map .ok ∧
        ((readMessages finishedEarly fromSlice recv).2 = .ok () ↔
          ∃ i, k = (frames.take i).flatten.length) := by
  refine ⟨fun recv h => ?_, fun k hk recv h => readMessages_take finishedEarly fromSlice henc hjson hk h⟩
  obtain ⟨j, hj, -, hmax, hmsgs, hend⟩ := readMessages_take finishedEarly fromSlice henc hjson
    (le_refl frames.flatten.length) (h.trans (List.take_length).symm)
  have hall : j = msgs.length := by
    rw [henc.length_eq]
    exact le_antisymm hj (hmax _ le_rfl (by rw [List.take_length]))
  rw [hall, List.take_length] at hmsgs
  exact Prod.ext hmsgs (hend.2 ⟨frames.length, by rw [List.take_length]⟩)

def oneAddress : ServerAddrsMsg := { addrs := [.v4 0xC0000201] }

/-- A decoder that knows the text of `oneAddress`. -/
def oneAddressFromSlice (data : Bytes) : Except String ServerAddrsMsg :=
  if data = oneAddress.toVec then .ok oneAddress else .error "expected value at line 1 column 1"

def earlyText (got : Nat) : String := s!"stream finished early ({got} bytes read)"

def twoMessages : List ControlMessage := [.ping 7, .serverAddrs oneAddress]

def twoFrames : List Bytes := twoMessages.map fun m => framed frameLenPrefix m.body

/-- A ping and a publication, one byte a chunk: read back whole, and with an error when cut
inside the length of the second frame. -/
theorem controlStream_framing_two :
    readMessages earlyText oneAddressFromSlice (twoFrames.flatten.map fun b => [b]) =
      (twoMessages.map .ok, .ok ()) ∧
    (readMessages earlyText oneAddressFromSlice ((twoFrames.flatten.take 15).map fun b => [b])).2 ≠ .ok () := by
  have henc : List.Forall₂ (fun m frame => ControlMessage.encode m = .ok frame) twoMessages twoFrames :=
    .cons rfl (.cons (by decide +kernel) .nil)
  have hjson : ∀ msg, ControlMessage.serverAddrs msg ∈ twoMessages → oneAddressFromSlice msg.toVec = .ok msg := by
    intro msg hmsg
    obtain rfl : msg = oneAddress := by simpa [twoMessages] using hmsg
    exact if_pos rfl
  have hlen : twoFrames.map List.length = [13, 28] := by decide +kernel
  have hchunks : ∀ data : Bytes, (data.map fun b => [b]).flatten = data := fun data => by
    rw [← List.flatMap_def, List.flatMap_singleton']
  obtain ⟨hall, hcut⟩ := controlStream_framing earlyText oneAddressFromSlice twoMessages twoFrames henc hjson
  refine ⟨hall _ (hchunks _), fun hend => ?_⟩
  obtain ⟨j, -, -, -, -, hiff⟩ := hcut 15 (by simp [List.length_flatten, hlen]) _ (hchunks _)
  obtain ⟨i, hi⟩ := hiff.1 hend
  rw [List.length_flatten, List.map_take, hlen] at hi
  rcases i with _ | _ | i <;> simp at hi

end EzVpn
