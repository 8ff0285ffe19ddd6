import EzVpn.Offload.SegmentSpec

/-!
# From a TUN packet to datagrams

`prepare_ip_datagrams` (src/tunnel/stream.rs) turns a packet read from the TUN into the
plain packets it stands for and copies each that fits a datagram to the list of pending
ones.  A copy is cut from the front of an arena the caller keeps, so it is the packet
only if the arena was empty; `prepareIpDatagrams_pending` says that it then is, and that
the arena is left empty.  `prepareIpDatagrams_accounted`: a packet is turned into datagrams
completely or not at all, and each of its plain packets is pending or counted.
-/

namespace EzVpn

open Lib Bytes

structure DatagramSendOutcome where
  sent : Nat := 0
  droppedTooLarge : Nat := 0
  droppedOther : Nat := 0
deriving DecidableEq

/-- What `prepare_ip_datagrams` changes besides the segmentation buffer. -/
structure Preparation where
  arena : Bytes
  pending : List Bytes
  outcome : DatagramSendOutcome
deriving DecidableEq

/-- `copy_packet_to_arena`: the copy, and the arena after it.  A debug build panics if
the arena is not empty on entry. -/
def copyPacketToArena (arena packet : Bytes) : Bytes × Bytes :=
  let arena := arena ++ packet
  (arena.take packet.length, arena.drop packet.length)

def prepareOneDatagram (maxSize : Option Nat) (st : Preparation) (packet : Bytes) : Preparation :=
  match maxSize with
  | some max =>
    if packet.length ≤ max then
      let (datagram, arena) := copyPacketToArena st.arena packet
      { st with arena, pending := st.pending ++ [datagram] }
    else
      { st with outcome.droppedTooLarge := st.outcome.droppedTooLarge + 1 }
  -- the peer takes no datagrams
  | none => { st with outcome.droppedOther := st.outcome.droppedOther + 1 }

def prepareIpDatagrams (maxSize : Option Nat) (segScratch : Bytes) (offload : Option VirtioNetHdr)
    (packet : Bytes) (st : Preparation) : Bytes × Preparation :=
  match offload with
  | some offload =>
    match materializeOffloadInto (emitAll (prepareOneDatagram maxSize)) offload packet segScratch st with
    | (.ok (), segScratch, st) => (segScratch, st)
    | (.error _, segScratch, st) =>
      (segScratch, { st with outcome.droppedOther := st.outcome.droppedOther + 1 })
  | none => (segScratch, prepareOneDatagram maxSize st packet)

/-! ## What is pending -/

/-- The plain packets a packet read from the TUN stands for. -/
def plainPackets (offload : Option VirtioNetHdr) (packet : Bytes) : List Bytes :=
  match offload with
  | some offload => materialized offload packet
  | none => [packet]

/-- A packet of this length can be sent as a datagram. -/
def fitsDatagram (maxSize : Option Nat) (packet : Bytes) : Bool :=
  match maxSize with
  | some max => packet.length ≤ max
  | none => false

theorem copyPacketToArena_nil (packet : Bytes) : copyPacketToArena [] packet = (packet, []) := by
  simp [copyPacketToArena]

/-- `st'` is `st` with `packets` pending behind what was, and the arena drained. -/
def Appended (packets : List Bytes) (st st' : Preparation) : Prop :=
  st'.arena = [] ∧ st'.pending = st.pending ++ packets

variable (maxSize : Option Nat) {st : Preparation}

theorem prepareOneDatagram_appended (h : st.arena = []) (packet : Bytes) :
    Appended ([packet].filter (fitsDatagram maxSize)) st (prepareOneDatagram maxSize st packet) := by
  unfold prepareOneDatagram
  cases maxSize with
  | none => exact ⟨h, (List.append_nil _).symm⟩
  | some max =>
    dsimp only
    split
    · next hfits =>
      rw [h, copyPacketToArena_nil]
      refine ⟨rfl, ?_⟩
      rw [List.filter_cons_of_pos (by simpa [fitsDatagram] using hfits), List.filter_nil]
    · next hlong =>
      refine ⟨h, ?_⟩
      rw [List.filter_cons_of_neg (by simpa [fitsDatagram] using hlong), List.filter_nil]
      exact (List.append_nil _).symm

theorem foldl_prepareOneDatagram (packets : List Bytes) : ∀ {st : Preparation}, st.arena = [] →
    Appended (packets.filter (fitsDatagram maxSize)) st
      (packets.foldl (prepareOneDatagram maxSize) st) := by
  induction packets with
  | nil => intro st h; exact ⟨h, (List.append_nil _).symm⟩
  | cons packet packets ih =>
    intro st h
    obtain ⟨harena, hpending⟩ := prepareOneDatagram_appended maxSize h packet
    obtain ⟨harena', hpending'⟩ := ih harena
    refine ⟨harena', ?_⟩
    rw [List.foldl_cons, hpending', hpending, List.append_assoc, ← List.filter_append]
    rfl

/-- **Datagrams.**  From an empty arena, the plain packets that fit are pending and the
arena is empty again, whatever the segmentation buffer held. -/
theorem prepareIpDatagrams_pending (st : Preparation) (h : st.arena = []) (segScratch : Bytes)
    (offload : Option VirtioNetHdr) (packet : Bytes) :
    Appended ((plainPackets offload packet).filter (fitsDatagram maxSize)) st
      (prepareIpDatagrams maxSize segScratch offload packet st).2 := by
  unfold prepareIpDatagrams plainPackets
  cases offload with
  | none => exact prepareOneDatagram_appended maxSize h packet
  | some offload =>
    have hfold := (materializeOffloadInto_eq (f := prepareOneDatagram maxSize)
      offload packet segScratch st).2
    have happ := foldl_prepareOneDatagram maxSize (materialized offload packet) h
    rw [← hfold] at happ
    dsimp only
    split
    · next heq => rw [heq] at happ; exact happ
    · next heq => rw [heq] at happ; exact happ

/-! ## Accounting -/

/-- From `st` to `st'`, `n` packets were each appended, within the size limit, or counted as
dropped. -/
structure Accounted (n : Nat) (added : List Bytes) (st st' : Preparation) : Prop where
  pending : st'.pending = st.pending ++ added
  fits : ∀ p ∈ added, fitsDatagram maxSize p = true
  sent : st'.outcome.sent = st.outcome.sent
  tooLarge : st.outcome.droppedTooLarge ≤ st'.outcome.droppedTooLarge
  other : st.outcome.droppedOther ≤ st'.outcome.droppedOther
  count : added.length + (st'.outcome.droppedTooLarge - st.outcome.droppedTooLarge) +
    (st'.outcome.droppedOther - st.outcome.droppedOther) = n

variable {maxSize}

theorem Accounted.trans {n n' : Nat} {added added' : List Bytes} {st st' st'' : Preparation}
    (h : Accounted maxSize n added st st') (h' : Accounted maxSize n' added' st' st'') :
    Accounted maxSize (n + n') (added ++ added') st st'' := by
  have h1 := h.tooLarge
  have h2 := h.other
  have h3 := h.count
  have h1' := h'.tooLarge
  have h2' := h'.other
  have h3' := h'.count
  refine ⟨?_, ?_, h'.sent.trans h.sent, by omega, by omega, ?_⟩
  · rw [h'.pending, h.pending, List.append_assoc]
  · intro p hp
    rcases List.mem_append.1 hp with hp | hp
    · exact h.fits p hp
    · exact h'.fits p hp
  · rw [List.length_append]
    omega

variable (maxSize)

/-- One packet: appended, too large, or not sendable at all. -/
theorem prepareOneDatagram_accounted (st : Preparation) (packet : Bytes) :
    ∃ added, Accounted maxSize 1 added st (prepareOneDatagram maxSize st packet) := by
  unfold prepareOneDatagram
  cases maxSize with
  | none =>
    refine ⟨[], (List.append_nil _).symm, List.forall_mem_nil _, rfl, Nat.le_refl _, Nat.le_succ _, ?_⟩
    simp
  | some max =>
    dsimp only
    split
    · next hfits =>
      refine ⟨[(st.arena ++ packet).take packet.length], rfl, ?_, rfl, Nat.le_refl _, Nat.le_refl _, ?_⟩
      · intro p hp
        rw [List.mem_singleton.1 hp, fitsDatagram, decide_eq_true_iff, List.length_take]
        omega
      · simp
    · refine ⟨[], (List.append_nil _).symm, List.forall_mem_nil _, rfl, Nat.le_succ _, Nat.le_refl _, ?_⟩
      simp

theorem foldl_prepareOneDatagram_accounted (packets : List Bytes) : ∀ st : Preparation,
    ∃ added, Accounted maxSize packets.length added st
      (packets.foldl (prepareOneDatagram maxSize) st) := by
  induction packets with
  | nil =>
    intro st
    exact ⟨[], (List.append_nil _).symm, List.forall_mem_nil _, rfl, Nat.le_refl _, Nat.le_refl _, by simp⟩
  | cons packet packets ih =>
    intro st
    obtain ⟨added, h⟩ := prepareOneDatagram_accounted maxSize st packet
    obtain ⟨added', h'⟩ := ih (prepareOneDatagram maxSize st packet)
    refine ⟨added ++ added', ?_⟩
    rw [List.length_cons, Nat.add_comm, List.foldl_cons]
    exact h.trans h'

/-- Whether a packet read from the TUN can be turned into plain packets. -/
def materializes (offload : Option VirtioNetHdr) (packet : Bytes) : Except String Unit :=
  match offload with
  | some offload => (materializeOffloadInto push offload packet [] []).1
  | none => .ok ()

/-- **Completely or not at all.**  If a packet cannot be materialized, one drop is counted and
nothing else changes; otherwise each of the packets it stands for is pending or counted.  The
condition is about headers that ask for segmentation. -/
theorem prepareIpDatagrams_accounted (segScratch : Bytes) (offload : Option VirtioNetHdr)
    (packet : Bytes) (st : Preparation) (hlen : packet.length < 2 ^ 32)
    (hoff : ∀ h, offload = some h → h.isTcpGso = true → ipHeaderLen packet ≤ tcpOffset h packet) :
    let st' := (prepareIpDatagrams maxSize segScratch offload packet st).2
    match materializes offload packet with
    | .error _ => st' = { st with outcome.droppedOther := st.outcome.droppedOther + 1 }
    | .ok () => ∃ added, Accounted maxSize (plainPackets offload packet).length added st st' ∧
        (st.arena = [] → added = (plainPackets offload packet).filter (fitsDatagram maxSize)) := by
  intro st'
  -- what is appended from an empty arena is known already
  have hadded : ∀ added, Accounted maxSize (plainPackets offload packet).length added st st' →
      st.arena = [] → added = (plainPackets offload packet).filter (fitsDatagram maxSize) := by
    intro added hacc harena
    have hpending := (prepareIpDatagrams_pending maxSize st harena segScratch offload packet).2
    exact List.append_cancel_left (hacc.pending.symm.trans hpending)
  cases offload with
  | none =>
    obtain ⟨added, hacc⟩ := prepareOneDatagram_accounted maxSize st packet
    exact ⟨added, hacc, hadded added hacc⟩
  | some offload =>
    obtain ⟨hres, hst⟩ := materializeOffloadInto_eq (f := prepareOneDatagram maxSize)
      offload packet segScratch st
    have hst' : st' = match materializeOffloadInto (emitAll (prepareOneDatagram maxSize)) offload packet
        segScratch st with
      | (.ok (), _, st) => st
      | (.error _, _, st) => { st with outcome.droppedOther := st.outcome.droppedOther + 1 } := by
      simp only [st', prepareIpDatagrams]
      split <;> rfl
    rcases hrun : materializeOffloadInto (emitAll (prepareOneDatagram maxSize)) offload packet
      segScratch st with ⟨result, scratch', final⟩
    rw [hrun] at hres hst hst'
    have hm : materializes (some offload) packet = result := hres.symm
    rw [hm]
    cases result with
    | error e =>
      have hnone := materialized_of_error offload packet (hoff offload rfl) hlen hres.symm
      rw [hnone, List.foldl_nil] at hst
      rw [hst', show final = st from hst]
    | ok _ =>
      obtain ⟨added, hacc⟩ := foldl_prepareOneDatagram_accounted maxSize (materialized offload packet) st
      rw [← hst, ← show st' = final from hst'] at hacc
      exact ⟨added, hacc, hadded added hacc⟩

/-- Of two segments one fits. -/
theorem prepareIpDatagrams_accounted_threeBytes :
    (plainPackets (some threeBytesHdr) threeBytes).map List.length = [42, 41] ∧
    ∃ added, Accounted (some 41) 2 added ⟨[], [], {}⟩
      (prepareIpDatagrams (some 41) [] (some threeBytesHdr) threeBytes ⟨[], [], {}⟩).2 := by
  have hlength : (plainPackets (some threeBytesHdr) threeBytes).map List.length = [42, 41] := by
    decide +kernel
  have hcount : (plainPackets (some threeBytesHdr) threeBytes).length = 2 := by
    rw [← List.length_map (f := List.length), hlength]
    rfl
  have hok : materializes (some threeBytesHdr) threeBytes = .ok () := by decide +kernel
  have h := prepareIpDatagrams_accounted (some 41) [] (some threeBytesHdr) threeBytes ⟨[], [], {}⟩
    (by decide) (fun h hh _ => by obtain rfl := Option.some.inj hh; decide)
  rw [hok, hcount] at h
  obtain ⟨added, hacc, -⟩ := h
  exact ⟨hlength, added, hacc⟩

end EzVpn
