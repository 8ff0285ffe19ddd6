import Mathlib.Data.List.TakeWhile
import EzVpn.Net.Packet
import EzVpn.Server.Handler

/-!
# Packets from clients

The inbound task of `handle_client_data` (src/tunnel/server.rs): it reads datagrams from
one client in batches, filters each, and hands what passes to the TUN writer.  The
reverse maps are read twice for a datagram, once for its source and once for its
destination, and may change in between.

`forwards_iff` says what the filter lets through, `inboundLoop_tunWrites` that the loop
hands exactly that to the writer, in order.
-/

namespace EzVpn

open Lib Bytes

/-- The counters of `VpnServerStats` that the data path changes. -/
structure VpnServerStats where
  tunPacketsRead : Nat := 0
  packetsNoRoute : Nat := 0
  packetsUnknownVersion : Nat := 0
  packetsDroppedFull : Nat := 0
  packetsDroppedTooLarge : Nat := 0
  packetsFromClients : Nat := 0
  packetsTunWriteFailed : Nat := 0
  packetsSpoofed : Nat := 0
  packetsInterClientBlocked : Nat := 0
deriving DecidableEq

/-- The reverse maps at one moment. -/
structure Routes (EndpointId : Type) where
  ipToEndpoint : Map Ipv4Addr (ClientKey EndpointId)
  ip6ToEndpoint : Map Ipv6Addr (ClientKey EndpointId)

def VpnServer.routes {EndpointId PublicKey : Type} (s : VpnServer EndpointId PublicKey) :
    Routes EndpointId := ⟨s.ipToEndpoint, s.ip6ToEndpoint⟩

variable {EndpointId : Type} [DecidableEq EndpointId]

/-- The client an address is mapped to. -/
def Routes.owner (r : Routes EndpointId) : PacketIp → Option (ClientKey EndpointId)
  | .v4 ip => r.ipToEndpoint.lookup ip
  | .v6 ip => r.ip6ToEndpoint.lookup ip

/-- How the channel to the TUN writer takes a packet. -/
inductive Enqueue
  | sent
  /-- full at first, then room -/
  | sentAfterWait
  /-- full at first, then the receiver went away -/
  | closedWhileFull
  | closed
deriving DecidableEq

/-- The channel is open. -/
def Enqueue.isOpen : Enqueue → Bool
  | sent | sentAfterWait => true
  | closedWhileFull | closed => false

/-- A datagram from the client, with what its handling meets. -/
structure Arrival (EndpointId : Type) where
  packet : Bytes
  /-- the maps when its source is looked up -/
  atSource : Routes EndpointId
  /-- the maps when its destination is looked up -/
  atDest : Routes EndpointId
  enqueue : Enqueue

/-- What the task has done so far. -/
structure Inbound where
  stats : VpnServerStats
  /-- the requests sent to the TUN writer -/
  tunWrites : List Bytes
deriving DecidableEq

def enqueueTunWrite (st : Inbound) (enqueue : Enqueue) (packet : Bytes) : Bool × Inbound :=
  if enqueue.isOpen then
    (true, ⟨{ st.stats with packetsFromClients := st.stats.packetsFromClients + 1 },
      st.tunWrites ++ [packet]⟩)
  else
    (false,
      { st with stats := { st.stats with packetsTunWriteFailed := st.stats.packetsTunWriteFailed + 1 } })

section
variable (ports : List UInt16) (clientKey : ClientKey EndpointId)

/-- `source_valid`. -/
def sourceValid (routes : Routes EndpointId) (packet : Bytes) : Bool :=
  match extractSourceIp packet with
  | some (.v4 srcIp) =>
    match routes.ipToEndpoint.lookup srcIp with
    | some owner => owner = clientKey
    | none => true
  | some (.v6 srcIp) =>
    if isLinkLocal srcIp then false
    else
      match routes.ip6ToEndpoint.lookup srcIp with
      | some owner => owner = clientKey
      | none => true
  | none => false

/-- `to_vpn_client`. -/
def toVpnClient (routes : Routes EndpointId) (packet : Bytes) : Bool :=
  match extractDestIp packet with
  | some (.v4 dst) => (routes.ipToEndpoint.lookup dst).isSome
  | some (.v6 dst) => (routes.ip6ToEndpoint.lookup dst).isSome
  | none => false

/-- One pass of the `for` loop; `false` is `break 'inbound`. -/
def inboundPacket (st : Inbound) (a : Arrival EndpointId) : Bool × Inbound :=
  if packetHasLocalIrohUdpPort a.packet ports then (true, st)
  else if !sourceValid clientKey a.atSource a.packet then
    (true, { st with stats := { st.stats with packetsSpoofed := st.stats.packetsSpoofed + 1 } })
  else if toVpnClient a.atDest a.packet then
    (true,
      { st with
        stats := { st.stats with packetsInterClientBlocked := st.stats.packetsInterClientBlocked + 1 } })
  else enqueueTunWrite st a.enqueue a.packet

/-- The `for` loop over one batch. -/
def inboundBatch : Inbound → List (Arrival EndpointId) → Bool × Inbound
  | st, [] => (true, st)
  | st, a :: batch =>
    match inboundPacket ports clientKey st a with
    | (true, st) => inboundBatch st batch
    | (false, st) => (false, st)

/-- The `'inbound` loop over the results of `read_many_datagrams`; `none` is a failed read. -/
def inboundLoop : Inbound → List (Option (List (Arrival EndpointId))) → Inbound
  | st, [] => st
  | st, none :: _ => st
  | st, some batch :: reads =>
    match inboundBatch ports clientKey st batch with
    | (true, st) => inboundLoop st reads
    | (false, st) => st

/-! ## What passes -/

/-- The filter lets `a` through. -/
def forwards (a : Arrival EndpointId) : Bool :=
  !packetHasLocalIrohUdpPort a.packet ports && sourceValid clientKey a.atSource a.packet &&
    !toVpnClient a.atDest a.packet

/-- What the filter demands. -/
structure Forwardable (a : Arrival EndpointId) : Prop where
  parses : Parses a.packet
  notEncapsulated : ¬ SelfEncapsulated ports a.packet
  /-- the source is not mapped to another client -/
  source : ∀ ip owner, extractSourceIp a.packet = some ip → a.atSource.owner ip = some owner →
    owner = clientKey
  notLinkLocal : ∀ ip, extractSourceIp a.packet = some (.v6 ip) → ¬ LinkLocal ip
  /-- the destination is mapped to no client -/
  dest : ∀ ip, extractDestIp a.packet = some ip → a.atDest.owner ip = none

theorem sourceValid_iff (routes : Routes EndpointId) (packet : Bytes) :
    sourceValid clientKey routes packet = true ↔ Parses packet ∧
      (∀ ip owner, extractSourceIp packet = some ip → routes.owner ip = some owner →
        owner = clientKey) ∧
      ∀ ip, extractSourceIp packet = some (.v6 ip) → ¬ LinkLocal ip := by
  rw [← extractSourceIp_isSome]
  -- what an address has to meet, once it is known
  have haddr : ∀ a, (∀ ip owner, some a = some ip → routes.owner ip = some owner → owner = clientKey) ↔
      ∀ owner, routes.owner a = some owner → owner = clientKey :=
    fun a => ⟨fun h owner => h a owner rfl, by rintro h _ owner ⟨⟩; exact h owner⟩
  unfold sourceValid
  cases extractSourceIp packet with
  | none => simp
  | some a =>
    rw [haddr]
    cases a with
    | v4 ip => cases h : routes.ipToEndpoint.lookup ip <;> simp [Routes.owner, h]
    | v6 ip =>
      simp only [Option.some.injEq, IpAddr.v6.injEq, forall_eq', ← isLinkLocal_iff]
      cases hl : isLinkLocal ip
      · cases h : routes.ip6ToEndpoint.lookup ip <;> simp [Routes.owner, h]
      · simp

omit [DecidableEq EndpointId] in
theorem toVpnClient_iff (routes : Routes EndpointId) (packet : Bytes) :
    toVpnClient routes packet = false ↔
      ∀ ip, extractDestIp packet = some ip → routes.owner ip = none := by
  unfold toVpnClient
  rcases extractDestIp packet with _ | ⟨ip | ip⟩ <;> simp [Routes.owner]

theorem forwards_iff (a : Arrival EndpointId) :
    forwards ports clientKey a = true ↔ Forwardable ports clientKey a := by
  unfold forwards
  rw [Bool.and_eq_true, Bool.and_eq_true, Bool.not_eq_true', Bool.not_eq_true', sourceValid_iff,
    toVpnClient_iff, Bool.eq_false_iff, ne_eq, packetHasLocalIrohUdpPort_iff]
  constructor
  · rintro ⟨⟨he, hp, hs, hl⟩, hd⟩
    exact ⟨hp, he, hs, hl, hd⟩
  · rintro ⟨hp, he, hs, hl, hd⟩
    exact ⟨⟨he, hp, hs, hl⟩, hd⟩

instance (a : Arrival EndpointId) : Decidable (Forwardable ports clientKey a) :=
  decidable_of_iff _ (forwards_iff ports clientKey a)

/-! ## The loop -/

/-- The datagrams of the reads before the first that fails. -/
def received : List (Option (List (Arrival EndpointId))) → List (Arrival EndpointId)
  | [] => []
  | none :: _ => []
  | some batch :: reads => batch ++ received reads

/-- A datagram that passes the filter and finds the channel closed ends the loop. -/
def ends (a : Arrival EndpointId) : Bool := forwards ports clientKey a && !a.enqueue.isOpen

/-- The packets handed to the writer, of a sequence of datagrams. -/
def written (as : List (Arrival EndpointId)) : List Bytes :=
  ((as.takeWhile fun a => !ends ports clientKey a).filter (forwards ports clientKey)).map (·.packet)

theorem inboundPacket_eq (st : Inbound) (a : Arrival EndpointId) :
    (inboundPacket ports clientKey st a).1 = !ends ports clientKey a ∧
    (inboundPacket ports clientKey st a).2.tunWrites = st.tunWrites ++ written ports clientKey [a] := by
  unfold inboundPacket written ends forwards enqueueTunWrite
  cases he : packetHasLocalIrohUdpPort a.packet ports
  · cases hs : sourceValid clientKey a.atSource a.packet
    · simp [he, hs]
    · cases hd : toVpnClient a.atDest a.packet
      · cases ho : a.enqueue.isOpen <;> simp [he, hs, hd, ho]
      · simp [he, hs, hd]
  · simp [he]

theorem written_cons (a : Arrival EndpointId) (as : List (Arrival EndpointId)) :
    written ports clientKey (a :: as) = written ports clientKey [a] ++
      if ends ports clientKey a then [] else written ports clientKey as := by
  unfold written
  cases he : ends ports clientKey a
  · cases hf : forwards ports clientKey a <;> simp [he, hf]
  · simp [he]

theorem inboundBatch_eq (batch : List (Arrival EndpointId)) : ∀ st : Inbound,
    (inboundBatch ports clientKey st batch).1 = (batch.all fun a => !ends ports clientKey a) ∧
    (inboundBatch ports clientKey st batch).2.tunWrites =
      st.tunWrites ++ written ports clientKey batch := by
  induction batch with
  | nil => intro st; simp [inboundBatch, written]
  | cons a batch ih =>
    intro st
    obtain ⟨h1, h2⟩ := inboundPacket_eq ports clientKey st a
    rw [written_cons, List.all_cons]
    unfold inboundBatch
    split
    · next st' heq =>
      rw [heq] at h1 h2
      obtain ⟨ih1, ih2⟩ := ih st'
      have hends : ends ports clientKey a = false := by simpa using h1.symm
      rw [ih1, ih2, hends, h2]
      simp
    · next st' heq =>
      rw [heq] at h1 h2
      have hends : ends ports clientKey a = true := by simpa using h1.symm
      simp only [hends] at h2 ⊢
      simpa using h2

theorem written_append (as bs : List (Arrival EndpointId)) :
    written ports clientKey (as ++ bs) = written ports clientKey as ++
      if as.all (fun a => !ends ports clientKey a) then written ports clientKey bs else [] := by
  induction as with
  | nil => simp [written]
  | cons a as ih =>
    rw [List.cons_append, written_cons, ih, written_cons ports clientKey a as, List.all_cons]
    cases ends ports clientKey a <;> simp

/-- While the channel is open nothing ends the loop. -/
theorem written_of_open (as : List (Arrival EndpointId)) (hopen : ∀ a ∈ as, a.enqueue.isOpen = true) :
    written ports clientKey as =
      (as.filter fun a => Forwardable ports clientKey a).map (·.packet) := by
  unfold written
  have hnone : as.takeWhile (fun a => !ends ports clientKey a) = as := by
    rw [List.takeWhile_eq_self_iff]
    intro a ha
    simp [ends, hopen a ha]
  have hfilter : as.filter (forwards ports clientKey) =
      as.filter fun a => Forwardable ports clientKey a :=
    List.filter_congr fun a _ => by rw [Bool.eq_iff_iff, forwards_iff, decide_eq_true_iff]
  rw [hnone, hfilter]

/-- **The loop hands the writer what the filter lets through**, in order, up to the first
packet that finds the channel closed. -/
theorem inboundLoop_tunWrites (reads : List (Option (List (Arrival EndpointId)))) : ∀ st : Inbound,
    (inboundLoop ports clientKey st reads).tunWrites =
      st.tunWrites ++ written ports clientKey (received reads) := by
  induction reads with
  | nil => intro st; simp [inboundLoop, received, written]
  | cons read reads ih =>
    intro st
    cases read with
    | none => simp [inboundLoop, received, written]
    | some batch =>
      obtain ⟨h1, h2⟩ := inboundBatch_eq ports clientKey batch st
      rw [received, written_append]
      unfold inboundLoop
      split
      · next st' heq =>
        rw [heq] at h1 h2
        rw [ih, h2, ← h1]
        simp
      · next st' heq =>
        rw [heq] at h1 h2
        rw [h2, ← h1]
        simp

end

end EzVpn
