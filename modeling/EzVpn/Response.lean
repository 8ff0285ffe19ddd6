import EzVpn.Signaling
import EzVpn.Lib.Framed
import EzVpn.Lib.Json

/-!
# Handshake response

The server's half of the handshake (src/tunnel/signaling.rs) and the length-prefixed
messages both halves travel in.  A response is written as compact JSON; reading JSON is the
library's and enters as an arbitrary function `fromSlice`.
-/

namespace EzVpn

open Lib

structure VpnHandshakeResponse where
  version : UInt16
  accepted : Bool
  assignedIp : Option Ipv4Addr
  network : Option Ipv4Net
  serverIp : Option Ipv4Addr
  assignedIp6 : Option Ipv6Addr
  network6 : Option Ipv6Net
  serverIp6 : Option Ipv6Addr
  rejectReason : Option String
  serverAddrs : List IpAddr
deriving DecidableEq

namespace VpnHandshakeResponse

variable (r : VpnHandshakeResponse)

/-- `is_valid`: an accepted response assigns a family, and each assigned family has its
network and gateway. -/
def isValid : Bool :=
  if !r.accepted then true
  else if r.assignedIp.isNone && r.assignedIp6.isNone then false
  else if r.assignedIp.isSome && (r.network.isNone || r.serverIp.isNone) then false
  else if r.assignedIp6.isSome && (r.network6.isNone || r.serverIp6.isNone) then false
  else true

/-- `VpnHandshakeResponse::accepted` (IPv4 only). -/
def acceptedIpv4Only (assignedIp : Ipv4Addr) (network : Ipv4Net) (serverIp : Ipv4Addr) :
    VpnHandshakeResponse :=
  ⟨vpnProtocolVersion, true, some assignedIp, some network, some serverIp, none, none, none, none, []⟩

def acceptedDualStack (assignedIp : Ipv4Addr) (network : Ipv4Net) (serverIp : Ipv4Addr)
    (assignedIp6 : Ipv6Addr) (network6 : Ipv6Net) (serverIp6 : Ipv6Addr) : VpnHandshakeResponse :=
  ⟨vpnProtocolVersion, true, some assignedIp, some network, some serverIp, some assignedIp6,
    some network6, some serverIp6, none, []⟩

def acceptedIpv6Only (assignedIp6 : Ipv6Addr) (network6 : Ipv6Net) (serverIp6 : Ipv6Addr) :
    VpnHandshakeResponse :=
  ⟨vpnProtocolVersion, true, none, none, none, some assignedIp6, some network6, some serverIp6, none, []⟩

def rejected (reason : String) : VpnHandshakeResponse :=
  ⟨vpnProtocolVersion, false, none, none, none, none, none, none, some reason, []⟩

def withServerAddrs (serverAddrs : List IpAddr) : VpnHandshakeResponse :=
  if r.accepted then { r with serverAddrs } else r

/-- The fields in the order of the declaration; absent ones are left out. -/
def fields : List (String × String) :=
  let opt {α : Type} (name : String) (show' : α → String) (o : Option α) : List (String × String) :=
    o.toList.map fun v => (name, Json.str (show' v))
  [("version", toString r.version.toNat), ("accepted", Json.bool r.accepted)] ++
    opt "assigned_ip" displayIpv4 r.assignedIp ++ opt "network" displayIpv4Net r.network ++
    opt "server_ip" displayIpv4 r.serverIp ++ opt "assigned_ip6" displayIpv6 r.assignedIp6 ++
    opt "network6" displayIpv6Net r.network6 ++ opt "server_ip6" displayIpv6 r.serverIp6 ++
    opt "reject_reason" id r.rejectReason ++
    if r.serverAddrs.isEmpty then []
    else [("server_addrs", Json.arr (r.serverAddrs.map fun ip => Json.str (displayIp ip)))]

/-- `serde_json::to_vec`. -/
def toVec : Bytes := Json.bytes (Json.obj r.fields)

def invalidMessage : String :=
  "Invalid handshake response: an accepted response must assign at least one address family, " ++
    "each with its network and gateway"

def encode : Except VpnError Bytes :=
  if !r.isValid then .error (.signaling invalidMessage) else .ok r.toVec

def decode (fromSlice : Bytes → Except String VpnHandshakeResponse) (data : Bytes) :
    Except VpnError VpnHandshakeResponse :=
  match fromSlice data with
  | .error e => .error (.signaling s!"Failed to decode response: {e}")
  | .ok response =>
    if response.version ≠ vpnProtocolVersion then
      .error (.signaling (s!"Unsupported handshake response protocol version: {response.version} " ++
        s!"(expected {vpnProtocolVersion})"))
    else if !response.isValid then .error (.signaling invalidMessage)
    else .ok response

end VpnHandshakeResponse

/-! ## Messages -/

def maxHandshakeSize : Nat := 16 * 1024

/-- `write_message`: what is put on the stream. -/
def writeMessage (data : Bytes) : Except VpnError Bytes :=
  if data.length < 2 ^ 32 then .ok (framed 4 data)
  else .error (.signaling s!"Message too large: {data.length} bytes")

/-- `read_message`: the message and the rest of the stream.  The stream may also end early. -/
def readMessage (reader : List Bytes) (maxSize : Nat) : Except VpnError (Bytes × List Bytes) :=
  match readExact reader 4 with
  | .error _ => .error (.network "early eof")
  | .ok (lenBuf, reader) =>
    let len := Bytes.beNat lenBuf
    if len > maxSize then .error (.signaling s!"Message too large: {len} > {maxSize}")
    else
      match readExact reader len with
      | .error _ => .error (.network "early eof")
      | .ok (data, reader) => .ok (data, reader)

section
variable {data more : Bytes} {reader : List Bytes} {maxSize : Nat}

/-- **Messages.**  What was written is read back if it is within the reader's limit. -/
theorem readMessage_framed (hlen : data.length < 256 ^ 4) (hle : data.length ≤ maxSize)
    (h : reader.flatten = framed 4 data ++ more) :
    ∃ rest, readMessage reader maxSize = .ok (data, rest) ∧ rest.flatten = more := by
  obtain ⟨rest, hprefix, rest', hbody, hmore⟩ := readExact_framed h
  refine ⟨rest', ?_, hmore⟩
  simp only [readMessage, hprefix, beNat_toBe_of_lt hlen, if_neg (Nat.not_lt.2 hle), hbody]

/-- What is over the limit is refused. -/
theorem readMessage_too_large (hlen : data.length < 256 ^ 4) (hlt : maxSize < data.length)
    (h : reader.flatten = framed 4 data ++ more) :
    readMessage reader maxSize = .error (.signaling s!"Message too large: {data.length} > {maxSize}") := by
  obtain ⟨rest, hprefix, -⟩ := readExact_framed h
  simp only [readMessage, hprefix, beNat_toBe_of_lt hlen, if_pos hlt]

end

namespace VpnHandshakeResponse

variable {r : VpnHandshakeResponse}

theorem isValid_iff (hacc : r.accepted = true) : r.isValid = true ↔
    (r.assignedIp.isSome = true ∨ r.assignedIp6.isSome = true) ∧
    (r.assignedIp.isSome = true → r.network.isSome = true ∧ r.serverIp.isSome = true) ∧
    (r.assignedIp6.isSome = true → r.network6.isSome = true ∧ r.serverIp6.isSome = true) := by
  unfold isValid
  cases r.assignedIp <;> cases r.assignedIp6 <;> cases r.network <;> cases r.serverIp <;>
    cases r.network6 <;> cases r.serverIp6 <;> simp [hacc]

/-- The decoder's own checks pass whatever the encoder lets through. -/
theorem decode_toVec {fromSlice : Bytes → Except String VpnHandshakeResponse}
    (hfrom : fromSlice r.toVec = .ok r) (hversion : r.version = vpnProtocolVersion)
    (hvalid : r.isValid = true) : decode fromSlice r.toVec = .ok r := by
  simp [decode, hfrom, hversion, hvalid]

/-- A candidate address takes its quotes and a separator. -/
theorem le_length_toVec {k : Nat} (hk : ∀ ip ∈ r.serverAddrs, k ≤ (Json.str (displayIp ip)).utf8ByteSize) :
    r.serverAddrs.length * (k + 1) ≤ r.toVec.length := by
  rw [toVec, Json.length_bytes]
  by_cases hnil : r.serverAddrs = []
  · rw [hnil]; simp
  · have hmem : ("server_addrs", Json.arr (r.serverAddrs.map fun ip => Json.str (displayIp ip))) ∈ r.fields := by
      unfold fields
      simp [hnil]
    have hparts : ∀ x ∈ r.serverAddrs.map (fun ip => Json.str (displayIp ip)), k ≤ x.utf8ByteSize := by
      intro x hx
      obtain ⟨ip, hip, rfl⟩ := List.mem_map.1 hx
      exact hk ip hip
    calc r.serverAddrs.length * (k + 1)
        ≤ (Json.sep (r.serverAddrs.map fun ip => Json.str (displayIp ip))).utf8ByteSize + 1 := by
          simpa only [List.length_map] using Json.le_size_sep hparts
      _ ≤ (Json.arr (r.serverAddrs.map fun ip => Json.str (displayIp ip))).utf8ByteSize :=
          Json.sep_size_le_arr _
      _ ≤ (Json.obj r.fields).utf8ByteSize := Json.field_size_le_obj hmem

end VpnHandshakeResponse

end EzVpn
