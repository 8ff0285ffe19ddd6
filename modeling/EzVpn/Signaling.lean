import EzVpn.Config
import EzVpn.Lib.Bytes

/-!
# Handshake

The client's half of the handshake (src/tunnel/signaling.rs) and the checks the
server makes on it before anything else (`VpnServer::verify_client_auth`,
src/tunnel/server.rs).  JSON, the key formats and the signature scheme come from
libraries; they enter as arbitrary functions (`Externals`).
-/

namespace EzVpn

open Lib

def vpnProtocolVersion : UInt16 := 8

structure ClientAuthPayload where
  publicKey : String
  endpointId : String
  signature : String
deriving DecidableEq

structure VpnHandshake where
  version : UInt16
  deviceId : UInt64
  auth : ClientAuthPayload
deriving DecidableEq

/-- The library functions the server calls. -/
structure Externals (EndpointId PublicKey : Type) where
  /-- `derive_ip6_suffix`: the first eight bytes of a SHA-256 of the node id -/
  suffix : EndpointId → UInt64
  /-- `serde_json::from_slice`, with the text of its error -/
  fromSlice : Bytes → Except String VpnHandshake
  /-- `str::parse::<EndpointId>` -/
  parseEndpointId : String → Option EndpointId
  /-- `str::parse::<PublicKey>` -/
  parsePublicKey : String → Option PublicKey
  /-- `crate::auth::verify_endpoint_id_signature` -/
  verifyEndpointIdSignature : PublicKey → EndpointId → String → Bool

variable {EndpointId PublicKey : Type} [DecidableEq EndpointId] [DecidableEq PublicKey]
  (x : Externals EndpointId PublicKey)

/-- `VpnHandshake::decode`. -/
def VpnHandshake.decode (data : Bytes) : Except VpnError VpnHandshake :=
  match x.fromSlice data with
  | .error e => .error (.signaling s!"Failed to decode handshake: {e}")
  | .ok handshake =>
    if handshake.version ≠ vpnProtocolVersion then
      .error (.signaling (s!"Unsupported handshake protocol version: {handshake.version} " ++
        s!"(expected {vpnProtocolVersion})"))
    else .ok handshake

/-- `verify_client_auth`. -/
def verifyClientAuth (config : VpnServerConfig PublicKey) (auth : ClientAuthPayload)
    (remoteId : EndpointId) : Bool :=
  match x.parseEndpointId auth.endpointId with
  | none => false
  | some claimed =>
    if claimed ≠ remoteId then false
    else
      match x.parsePublicKey auth.publicKey with
      | none => false
      | some publicKey =>
        if !config.authorizedKeys.contains publicKey then false
        else if !x.verifyEndpointIdSignature publicKey remoteId auth.signature then false
        else true

/-- **Authentication.**  A handshake passes exactly when it claims the endpoint it
comes from and an authorized key's signature verifies over that endpoint. -/
theorem verifyClientAuth_iff (config : VpnServerConfig PublicKey) (auth : ClientAuthPayload)
    (remoteId : EndpointId) : verifyClientAuth x config auth remoteId = true ↔
      x.parseEndpointId auth.endpointId = some remoteId ∧
      ∃ key ∈ config.authorizedKeys, x.parsePublicKey auth.publicKey = some key ∧
        x.verifyEndpointIdSignature key remoteId auth.signature = true := by
  unfold verifyClientAuth
  cases hid : x.parseEndpointId auth.endpointId with
  | none => simp
  | some claimed =>
    cases hkey : x.parsePublicKey auth.publicKey with
    | none => simp
    | some key =>
      by_cases hc : claimed = remoteId
      · by_cases hm : key ∈ config.authorizedKeys <;> simp [hc, hm]
      · simp [hc]

end EzVpn
