import EzVpn.Client.Common
import EzVpn.Client.Reconnect
import EzVpn.Lib.Fallible

/-!
# Config files

The sections of a config file and the checks on a server's (src/config/file_config.rs), with what a
file that passed them has.  The parsers of addresses, the access to files and what else the starts of
server and client ask of their surroundings are parameters.  The starts themselves are in
`Config.ServerStart` and `Config.ClientStart`.
-/

namespace EzVpn

open Lib

/-- `anyhow::Error`: its messages, the outermost context first. -/
abbrev ErrorChain := List String

/-- A `VpnError` as an `anyhow::Error`: some kinds have their message as a source. -/
def VpnError.chain (e : VpnError) : ErrorChain :=
  match e with
  | .tunDevice message | .network message | .config message => [e.display, message]
  | _ => [e.display]

/-- Parsers, files and the system. -/
structure Externs (Relay Key Secret PublicKey EndpointId : Type) where
  ipv4Net : String → Except String Ipv4Net
  ipv6Net : String → Except String Ipv6Net
  /-- `IpNet::from_str` -/
  ipNet : String → Except String AnyNet
  ipv4Addr : String → Except String Ipv4Addr
  ipv6Addr : String → Except String Ipv6Addr
  /-- `EndpointId::from_str` succeeds -/
  parsesNodeId : String → Bool
  /-- `RelayConfig::from_urls_with_token` -/
  relayConfig : List String → Option String → Except ErrorChain Relay
  expandTilde : String → String
  loadAuthorizedKeys : String → Except ErrorChain (List PublicKey)
  loadSecret : String → Except ErrorChain Secret
  /-- `ClientKey::from_secret_str` of the trimmed text, `load_client_key_from_file` -/
  keyFromSecret : String → Except ErrorChain Key
  keyFromFile : String → Except ErrorChain Key
  ensureTunPermission : Except ErrorChain Unit
  /-- `create_server_endpoint`, with the id of the endpoint -/
  createServerEndpoint : Relay → Secret → Except ErrorChain EndpointId
  /-- `create_client_endpoint`, with the networks that direct paths are not to use -/
  createClientEndpoint : Relay → List AnyNet → Except ErrorChain Unit
  /-- `VpnLock::acquire` for the server and for the client's instance -/
  lockServer : Except ErrorChain Unit
  lockClient : Except VpnError Unit

/-- `with_context`. -/
def withContext {α : Type} (context : String) : Except ErrorChain α → Except ErrorChain α
  | .ok a => .ok a
  | .error chain => .error (context :: chain)

/-- The error of a parser. -/
def parsed {α : Type} : Except String α → Except ErrorChain α
  | .ok a => .ok a
  | .error e => .error [e]

/-- `map(parse).transpose()` with a context for the text. -/
def parseOption {α : Type} (parse : String → Except String α) (context : String → String) :
    Option String → Except ErrorChain (Option α)
  | none => .ok none
  | some text => (withContext (context text) (parsed (parse text))).map some

namespace FileConfig

inductive Role
  | vpnServer
  | vpnClient
deriving DecidableEq, Repr

structure ServerNetworkConfig where
  network : Option String
  serverIp : Option String
  network6 : Option String
  serverIp6 : Option String
  ip6Strategy : Ip6Strategy

structure ServerAuthConfig where
  authorizedKeysFile : Option String

structure VpnServerIrohConfig where
  secretFile : Option String
  relayUrls : Option (List String)
  relayAuthToken : Option String

structure ClientNetworkConfig where
  routes : Option (List String)
  routes6 : Option (List String)

structure ClientAuthConfig where
  authKeyFile : Option String

structure VpnClientIrohConfig where
  serverNodeId : Option String
  relayUrls : Option (List String)
  relayAuthToken : Option String
  excludeDirectPaths : Option (List String)

structure VpnServerConfig where
  role : Option Role
  network : ServerNetworkConfig
  auth : ServerAuthConfig
  iroh : Option VpnServerIrohConfig

structure VpnClientConfig where
  role : Option Role
  network : ClientNetworkConfig
  auth : ClientAuthConfig
  autoReconnect : Option Bool
  maxReconnectAttempts : Option NonZeroU32
  iroh : Option VpnClientIrohConfig

section
variable {Relay Key Secret PublicKey EndpointId : Type}
  (x : Externs Relay Key Secret PublicKey EndpointId)

def validateCidr (cidr : String) : Except ErrorChain Unit := do
  let _ ← withContext s!"Invalid CIDR network '{cidr}'. Expected format: 192.168.0.0/16 or ::1/128"
    (parsed (x.ipNet cidr))
  pure ()

def validateIpv6Cidr (cidr : String) : Except ErrorChain Unit := do
  let _ ← withContext s!"Invalid IPv6 CIDR '{cidr}'. Expected format: fd00::/64 or ::/0"
    (parsed (x.ipv6Net cidr))
  pure ()

def route6Context (route sect : String) : String :=
  s!"[{sect}] Invalid route6 CIDR '{route}' (must be IPv6, e.g., ::/0)"

/-! ## Server -/

/-- `validate_vpn_networks` of src/config/file_config.rs, with what it has parsed. -/
def validateVpnNetworks (net : ServerNetworkConfig) (sect : String) : Except ErrorChain Unit := do
  let network ← parseOption x.ipv4Net
    (fun n => s!"[{sect}] Invalid network CIDR '{n}'. Expected format: 10.0.0.0/24") net.network
  let serverIp ← parseOption x.ipv4Addr
    (fun ip => s!"[{sect}] Invalid server_ip '{ip}'. Expected IPv4 address") net.serverIp
  let network6 ← parseOption x.ipv6Net
    (fun n => s!"[{sect}] Invalid network6 CIDR '{n}'. Expected format: fd00::/64") net.network6
  let serverIp6 ← parseOption x.ipv6Addr
    (fun ip => s!"[{sect}] Invalid server_ip6 '{ip}'. Expected IPv6 address") net.serverIp6
  match EzVpn.validateVpnNetworks network serverIp network6 serverIp6 net.ip6Strategy with
  | .ok () => pure ()
  | .error e => throw [s!"[{sect}] {e}"]

def secretFileRequired : String :=
  "[iroh] 'secret_file' is required for server identity. " ++
    "Generate with: ezvpn generate-server-key -o ./vpn-server.key"

def authorizedKeysFileRequired : String :=
  "[auth] 'authorized_keys_file' is required. Each client generates a keypair " ++
    "with: flexaccess-keys generate-auth-key -o <FILE>, then puts its " ++
    "authorized-key entry (one 'ed25519-pub:...' per line) in that file."

/-- The checks that `validate` and `from_config` both make. -/
def checkServer (cfg : VpnServerConfig) (iroh : VpnServerIrohConfig) : Except ErrorChain Unit := do
  if iroh.secretFile.isNone then throw [secretFileRequired]
  if cfg.auth.authorizedKeysFile.isNone then throw [authorizedKeysFileRequired]
  validateVpnNetworks x cfg.network "network"

def VpnServerConfig.validate (cfg : VpnServerConfig) : Except ErrorChain Unit :=
  match cfg.role with
  | none => throw ["Config file missing required 'role' field. Add: role = \"vpnserver\""]
  | some role =>
    if role ≠ .vpnServer then
      throw ["Config file has wrong role for server. Expected role = \"vpnserver\""]
    else
      match cfg.iroh with
      | none =>
        throw ["Config file missing required [iroh] section. Add a [iroh] section with 'secret_file'."]
      | some iroh => checkServer x cfg iroh

end

structure ResolvedVpnServerConfig (Relay : Type) where
  network : ServerNetworkConfig
  secretFile : Option String
  relayConfig : Relay
  authorizedKeysFile : Option String

section
variable {Relay Key Secret PublicKey EndpointId : Type}
  (x : Externs Relay Key Secret PublicKey EndpointId)

def ResolvedVpnServerConfig.fromConfig (cfg : VpnServerConfig) :
    Except ErrorChain (ResolvedVpnServerConfig Relay) :=
  match cfg.iroh with
  | none => throw ["Missing [iroh] section in config file"]
  | some iroh => do
    checkServer x cfg iroh
    let relayConfig ← x.relayConfig (iroh.relayUrls.getD []) iroh.relayAuthToken
    pure
      { network := cfg.network
        secretFile := iroh.secretFile
        relayConfig
        authorizedKeysFile := cfg.auth.authorizedKeysFile.map x.expandTilde }

end

/-! ### What passed the checks -/

section
variable {Relay Key Secret PublicKey EndpointId : Type}
  {x : Externs Relay Key Secret PublicKey EndpointId}

theorem withContext_ok {α : Type} {context : String} {r : Except ErrorChain α} {a : α}
    (h : r = .ok a) : withContext context r = .ok a := by rw [h]; rfl

theorem withContext_ends {α : Type} {context : String} {r : Except ErrorChain α} {Q : ErrorChain → Prop}
    {P : α → Prop} (h : Ends (fun chain => Q (context :: chain)) P r) : Ends Q P (withContext context r) := by
  cases r with
  | ok a => exact h
  | error chain => exact h

/-- The two ways in which an optional text is parsed come to the same. -/
theorem mapM_of_parseOption {α : Type} {parse : String → Except String α} {context : String → String}
    {text : Option String} {a : Option α} (h : parseOption parse context text = .ok a) :
    text.mapM (parsed ∘ parse) = .ok a := by
  cases text with
  | none => exact h
  | some text =>
    cases hparse : parse text with
    | error e =>
      simp only [parseOption, hparse] at h
      cases h
    | ok b =>
      simp only [parseOption, hparse] at h
      obtain rfl := Except.ok.inj h
      simp only [Option.mapM_some, Function.comp_apply, hparse]
      rfl

/-- What the texts of the networks stand for. -/
structure Parses (x : Externs Relay Key Secret PublicKey EndpointId) (net : ServerNetworkConfig)
    (network : Option Ipv4Net) (serverIp : Option Ipv4Addr) (network6 : Option Ipv6Net) (serverIp6 : Option Ipv6Addr) : Prop where
  network : net.network.mapM (parsed ∘ x.ipv4Net) = .ok network
  serverIp : net.serverIp.mapM (parsed ∘ x.ipv4Addr) = .ok serverIp
  network6 : net.network6.mapM (parsed ∘ x.ipv6Net) = .ok network6
  serverIp6 : net.serverIp6.mapM (parsed ∘ x.ipv6Addr) = .ok serverIp6

theorem parses_of_validateVpnNetworks {net : ServerNetworkConfig} {sect : String}
    (h : validateVpnNetworks x net sect = .ok ()) :
    ∃ network serverIp network6 serverIp6, Parses x net network serverIp network6 serverIp6 ∧
      EzVpn.validateVpnNetworks network serverIp network6 serverIp6 net.ip6Strategy = .ok () := by
  unfold validateVpnNetworks at h
  obtain ⟨network, hnetwork, h⟩ := bind_eq_ok h
  obtain ⟨serverIp, hserverIp, h⟩ := bind_eq_ok h
  obtain ⟨network6, hnetwork6, h⟩ := bind_eq_ok h
  obtain ⟨serverIp6, hserverIp6, h⟩ := bind_eq_ok h
  refine ⟨network, serverIp, network6, serverIp6, ⟨mapM_of_parseOption hnetwork, mapM_of_parseOption hserverIp,
    mapM_of_parseOption hnetwork6, mapM_of_parseOption hserverIp6⟩, ?_⟩
  split at h
  · assumption
  · cases h

/-- What a file that passed the checks has. -/
structure Checked (x : Externs Relay Key Secret PublicKey EndpointId) (cfg : VpnServerConfig)
    (iroh : VpnServerIrohConfig) : Prop where
  secretFile : ∃ path, iroh.secretFile = some path
  keysFile : ∃ path, cfg.auth.authorizedKeysFile = some path
  networks : ∃ network serverIp network6 serverIp6, Parses x cfg.network network serverIp network6 serverIp6 ∧
    EzVpn.validateVpnNetworks network serverIp network6 serverIp6 cfg.network.ip6Strategy = .ok ()

theorem checked_of_checkServer {cfg : VpnServerConfig} {iroh : VpnServerIrohConfig}
    (h : checkServer x cfg iroh = .ok ()) : Checked x cfg iroh := by
  unfold checkServer at h
  cases hsecret : iroh.secretFile with
  | none => rw [hsecret] at h; cases h
  | some secret =>
    cases hkeys : cfg.auth.authorizedKeysFile with
    | none => rw [hsecret, hkeys] at h; cases h
    | some keys =>
      rw [hsecret, hkeys] at h
      exact ⟨⟨secret, hsecret⟩, ⟨keys, hkeys⟩, parses_of_validateVpnNetworks h⟩

/-- `validate` and `from_config` make the same checks. -/
theorem checkServer_of_validate {cfg : VpnServerConfig} (h : cfg.validate x = .ok ()) :
    ∃ iroh, cfg.iroh = some iroh ∧ checkServer x cfg iroh = .ok () := by
  unfold VpnServerConfig.validate at h
  split at h
  · cases h
  · split at h
    · cases h
    · split at h
      · cases h
      · next iroh hiroh => exact ⟨iroh, hiroh, h⟩

end

end FileConfig

end EzVpn
