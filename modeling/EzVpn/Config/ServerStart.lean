import EzVpn.Config.File
import EzVpn.Server.Handler
import EzVpn.Server.PoolBuild

/-!
# From a config file to a server

The start of a server, `run_vpn_server` in src/main.rs, up to the server that it runs: the settings
are read, the endpoint is made, and `VpnServer::new` (src/tunnel/server.rs) builds the address pools.

The texts of networks and addresses are parsed three times, twice to be checked and once to be used,
and nothing is found wrong with them after the first time.  But the pools refuse networks that the
checks let through, and their arithmetic can leave the address space.  `server_start_valid` says when
a server starts and with what it fails.
-/

namespace EzVpn

open Lib

/-! ## The pools of a new server -/

section
variable {EndpointId PublicKey : Type} (suffix : EndpointId → UInt64) (config : VpnServerConfig PublicKey)
  (id : EndpointId)

/-- `IpPool::new` stays within `u32`. -/
def IpPoolBuilds (network : Ipv4Net) (serverIp : Option Ipv4Addr) : Prop :=
  (serverIp = none → network.network.toNat + 1 < 2 ^ 32) ∧ (serverOf network serverIp).toNat + 1 < 2 ^ 32 ∧
    1 ≤ network.broadcast.toNat

/-- The pools of a configuration can be built. -/
structure PoolsFit : Prop where
  ipv4 : ∀ net, config.network = some net → IpPoolBuilds net config.serverIp
  prefix6 : ∀ net6, config.network6 = some net6 → net6.prefixLen < 127
  sequential : ∀ net6, config.network6 = some net6 → config.ip6Strategy = .sequential →
    net6.prefixLen ≠ 0 ∧ config.serverIp6 ≠ some (BitVec.allOnes 128)
  nodeId : ∀ net6, config.network6 = some net6 → config.ip6Strategy = .nodeId →
    derivedIp6 suffix net6 id ≠ net6.network

/-- Why they cannot. -/
inductive PoolFailure : PoolError → Prop
  | overflow {net : Ipv4Net} (hnet : config.network = some net) (h : ¬ IpPoolBuilds net config.serverIp) :
      PoolFailure .arith
  | small {net6 : Ipv6Net} (hnet6 : config.network6 = some net6) (h : 127 ≤ net6.prefixLen) :
      PoolFailure (.vpn (.config
        s!"IPv6 prefix /{net6.prefixLen} is too small for VPN pool (need at least /126 for 1 client)"))
  | overflow6 {net6 : Ipv6Net} (hnet6 : config.network6 = some net6) (hs : config.ip6Strategy = .sequential)
      (h : ¬ (net6.prefixLen ≠ 0 ∧ config.serverIp6 ≠ some (BitVec.allOnes 128))) : PoolFailure .arith
  | collides {net6 : Ipv6Net} (hnet6 : config.network6 = some net6) (hs : config.ip6Strategy = .nodeId)
      (h : derivedIp6 suffix net6 id = net6.network) :
      PoolFailure (.vpn (.config ("derived server IPv6 collides with the network address; " ++
        "use a different server key or network6")))

end

section
variable {EndpointId PublicKey : Type} {suffix : EndpointId → UInt64} {config : VpnServerConfig PublicKey}
  {id : EndpointId}

theorem PoolFailure.not_fit {e : PoolError} (h : PoolFailure suffix config id e) : ¬ PoolsFit suffix config id := by
  intro hfit
  cases h with
  | overflow hnet h => exact h (hfit.ipv4 _ hnet)
  | small hnet6 h => exact absurd (hfit.prefix6 _ hnet6) (by omega)
  | overflow6 hnet6 hs h => exact h (hfit.sequential _ hnet6 hs)
  | collides hnet6 hs h => exact hfit.nodeId _ hnet6 hs h

theorem ipPool_ends (config : VpnServerConfig PublicKey) :
    Ends (PoolFailure suffix config id)
      (fun _ => ∀ net, config.network = some net → IpPoolBuilds net config.serverIp)
      (config.network.mapM fun network => (IpPool.new network config.serverIp : Except _ (IpPool EndpointId))) := by
  cases hnet : config.network with
  | none => exact fun net h => by cases h
  | some net =>
    rw [Option.mapM_some]
    cases hnew : (IpPool.new net config.serverIp : Except _ (IpPool EndpointId)) with
    | ok p =>
      rintro _ ⟨⟩
      exact IpPool.new_iff.1 ⟨p, hnew⟩
    | error e =>
      rw [IpPool.new_error hnew]
      exact .overflow hnet fun h => not_ok_of_error hnew ((@IpPool.new_iff EndpointId _ _).2 h)

theorem ip6Pool_ends (hstrategy : validateIp6Strategy config.ip6Strategy config.network6 config.serverIp6 = .ok ()) :
    Ends (PoolFailure suffix config id)
      (fun _ => (∀ net, config.network = some net → IpPoolBuilds net config.serverIp) → PoolsFit suffix config id)
      (config.network6.mapM fun network6 =>
        Ip6Pool.new suffix network6 config.serverIp6 config.ip6Strategy id) := by
  cases hnet6 : config.network6 with
  | none =>
    have hnone {P : Ipv6Net → Prop} : ∀ net6, config.network6 = some net6 → P net6 := fun net6 h => by
      rw [hnet6] at h
      cases h
    exact fun h4 => ⟨h4, hnone, hnone, hnone⟩
  | some net6 =>
    have hsome {P : Ipv6Net → Prop} (h : P net6) : ∀ net, config.network6 = some net → P net := fun net heq => by
      rw [hnet6] at heq
      exact Option.some.inj heq ▸ h
    rw [hnet6] at hstrategy
    rw [Option.mapM_some]
    unfold Ip6Pool.new
    rw [hstrategy]
    by_cases hp : net6.prefixLen ≥ 127
    · rw [if_pos hp]
      exact .small hnet6 hp
    · rw [if_neg hp]
      cases hs : config.ip6Strategy with
      | nodeId =>
        by_cases hcollides : derivedIp6 suffix net6 id = net6.network
        · rw [Ip6Pool.newNodeId, if_pos hcollides]
          exact .collides hnet6 hs hcollides
        · rw [Ip6Pool.newNodeId, if_neg hcollides]
          have hother : config.ip6Strategy ≠ .sequential := by simp [hs]
          exact fun h4 => ⟨h4, hsome (by omega), hsome fun h => (hother h).elim, hsome fun _ => hcollides⟩
      | sequential =>
        have hiff := @Ip6Pool.newSequential_iff EndpointId net6 config.serverIp6 (by omega)
        cases hnew : (Ip6Pool.newSequential net6 config.serverIp6 : Except _ (Ip6Pool EndpointId)) with
        | ok p =>
          have hfit := hiff.1 ⟨p, hnew⟩
          have hother : config.ip6Strategy ≠ .nodeId := by simp [hs]
          exact fun h4 => ⟨h4, hsome (by omega), hsome fun _ => hfit, hsome fun h => (hother h).elim⟩
        | error e =>
          rw [Ip6Pool.newSequential_error hnew]
          exact .overflow6 hnet6 hs fun hfit => not_ok_of_error hnew (hiff.2 hfit)

/-- **When a server can be created** of a configuration that passed the checks. -/
theorem VpnServer.new_ends (auth : Externals EndpointId PublicKey) (hvalid : config.validate = .ok ()) :
    Ends (PoolFailure auth.suffix config id) (fun server => server.config = config ∧ PoolsFit auth.suffix config id)
      (VpnServer.new auth config id) := by
  unfold VpnServer.new
  rw [hvalid]
  refine (ipPool_ends config).bind fun ipPool h4 => ?_
  exact (ip6Pool_ends (accepted_of_validate hvalid).strategy).bind fun ip6Pool h6 => ⟨rfl, h6 h4⟩

end

/-! ## The start -/

/-- What the start of a server ends in instead of a server. -/
inductive StartError
  | failed (chain : ErrorChain)
  /-- a pool's arithmetic leaves the address space: a panic in a debug build, a wrong pool in others -/
  | overflow

/-- The errors of `VpnServer::new`, with the context that `run_vpn_server` gives them. -/
def StartError.ofPool : PoolError → StartError
  | .vpn e => .failed ("Failed to create VPN server" :: e.chain)
  | .arith => .overflow

namespace FileConfig

section
variable {Relay Key Secret PublicKey EndpointId : Type}
  (x : Externs Relay Key Secret PublicKey EndpointId)

def noAuthorizedKeysHelp : String :=
  "VPN server requires at least one authorized client public key.\n" ++
    "Each client generates a keypair with: flexaccess-keys generate-auth-key -o <FILE>\n" ++
    "Put each key's authorized-key entry (one `ed25519-pub:...` per line, from " ++
    "`flexaccess-keys show-auth-key --private-key-file <FILE>`) in a file and set " ++
    "authorized_keys_file in the config."

def noSecretFileHelp : String :=
  "VPN server requires a secret key file for persistent identity.\n" ++
    "Generate one with: ezvpn generate-server-key -o <FILE>\n" ++
    "Then add to config file: secret_file = \"<FILE>\""

/-- `run_vpn_server` up to the endpoint. -/
def serverSettings (resolved : ResolvedVpnServerConfig Relay) :
    Except ErrorChain (EzVpn.VpnServerConfig PublicKey × Secret) := do
  let network ← withContext "Invalid VPN network CIDR" (resolved.network.network.mapM (parsed ∘ x.ipv4Net))
  let serverIp ← withContext "Invalid server IP address" (resolved.network.serverIp.mapM (parsed ∘ x.ipv4Addr))
  let network6 ← withContext "Invalid IPv6 VPN network CIDR"
    (resolved.network.network6.mapM (parsed ∘ x.ipv6Net))
  let serverIp6 ← withContext "Invalid server IPv6 address"
    (resolved.network.serverIp6.mapM (parsed ∘ x.ipv6Addr))
  let authorizedKeys ←
    match resolved.authorizedKeysFile with
    | some path => withContext "Failed to load the authorized client keys" (x.loadAuthorizedKeys path)
    | none => throw [noAuthorizedKeysHelp]
  if authorizedKeys.isEmpty then throw [noAuthorizedKeysHelp]
  let secretKey ←
    match resolved.secretFile with
    | some path => withContext "Failed to load secret key" (x.loadSecret path)
    | none => throw [noSecretFileHelp]
  x.ensureTunPermission
  pure ({ network, network6, serverIp, serverIp6, ip6Strategy := resolved.network.ip6Strategy,
          maxClients := 254, authorizedKeys }, secretKey)

section
variable (auth : Externals EndpointId PublicKey)

/-- `VpnServer::new` with its lock, which is taken behind the validation. -/
def createServer (config : EzVpn.VpnServerConfig PublicKey) (id : EndpointId) :
    Except StartError (VpnServer EndpointId PublicKey) :=
  match config.validate with
  | .error e => .error (.ofPool (.vpn (.config e)))
  | .ok () =>
    match x.lockServer with
    | .error chain => .error (.failed ("Failed to create VPN server" :: chain))
    | .ok () => (VpnServer.new auth config id).mapError .ofPool

/-- `run_vpn_server`, up to the server it runs. -/
def runVpnServer (resolved : ResolvedVpnServerConfig Relay) : Except StartError (VpnServer EndpointId PublicKey) := do
  let (config, secretKey) ← (serverSettings x resolved).mapError .failed
  let id ← (withContext "Failed to create iroh endpoint"
    (x.createServerEndpoint resolved.relayConfig secretKey)).mapError .failed
  createServer x auth config id

/-- `ezvpn server start` from the loaded file on. -/
def serverStart (cfg : VpnServerConfig) : Except StartError (VpnServer EndpointId PublicKey) := do
  (cfg.validate x).mapError .failed
  let resolved ← (ResolvedVpnServerConfig.fromConfig x cfg).mapError .failed
  runVpnServer x auth resolved

end

end

/-! ## What it comes to -/

section
variable {Relay Key Secret PublicKey EndpointId : Type}
  (x : Externs Relay Key Secret PublicKey EndpointId) (cfg : VpnServerConfig)

/-- The configuration that a server is made of: what the texts of the file stand for, with the
keys of the file's key file. -/
structure Startable (config : EzVpn.VpnServerConfig PublicKey) : Prop where
  networks : Parses x cfg.network config.network config.serverIp config.network6 config.serverIp6
  strategy : config.ip6Strategy = cfg.network.ip6Strategy
  valid : config.validate = .ok ()
  maxClients : config.maxClients = 254
  keys : config.authorizedKeys ≠ []
  loaded : ∃ path, cfg.auth.authorizedKeysFile = some path ∧
    x.loadAuthorizedKeys (x.expandTilde path) = .ok config.authorizedKeys

/-- The id of the endpoint that is made with the relays and the secret of the file. -/
def EndpointOf (id : EndpointId) : Prop :=
  ∃ iroh path relay secret, cfg.iroh = some iroh ∧ iroh.secretFile = some path ∧
    x.relayConfig (iroh.relayUrls.getD []) iroh.relayAuthToken = .ok relay ∧
    x.loadSecret path = .ok secret ∧ x.createServerEndpoint relay secret = .ok id

/-- What can go wrong around the networks. -/
inductive StartFailure : ErrorChain → Prop
  | relays {iroh : VpnServerIrohConfig} {chain : ErrorChain} (hiroh : cfg.iroh = some iroh)
      (h : x.relayConfig (iroh.relayUrls.getD []) iroh.relayAuthToken = .error chain) : StartFailure chain
  | keys {path : String} {chain : ErrorChain} (hpath : cfg.auth.authorizedKeysFile = some path)
      (h : x.loadAuthorizedKeys (x.expandTilde path) = .error chain) :
      StartFailure ("Failed to load the authorized client keys" :: chain)
  | noKeys {path : String} (hpath : cfg.auth.authorizedKeysFile = some path)
      (h : x.loadAuthorizedKeys (x.expandTilde path) = .ok []) : StartFailure [noAuthorizedKeysHelp]
  | secret {iroh : VpnServerIrohConfig} {path : String} {chain : ErrorChain} (hiroh : cfg.iroh = some iroh)
      (hpath : iroh.secretFile = some path) (h : x.loadSecret path = .error chain) :
      StartFailure ("Failed to load secret key" :: chain)
  | permission {chain : ErrorChain} (h : x.ensureTunPermission = .error chain) : StartFailure chain
  | endpoint {iroh : VpnServerIrohConfig} {path : String} {relay : Relay} {secret : Secret} {chain : ErrorChain}
      (hiroh : cfg.iroh = some iroh) (hpath : iroh.secretFile = some path)
      (hrelay : x.relayConfig (iroh.relayUrls.getD []) iroh.relayAuthToken = .ok relay)
      (hsecret : x.loadSecret path = .ok secret) (h : x.createServerEndpoint relay secret = .error chain) :
      StartFailure ("Failed to create iroh endpoint" :: chain)
  | lock {chain : ErrorChain} (h : x.lockServer = .error chain) :
      StartFailure ("Failed to create VPN server" :: chain)

/-- What can go wrong at the start of a server with a file that passed the checks. -/
inductive StartFails (suffix : EndpointId → UInt64) : StartError → Prop
  | around {chain : ErrorChain} (h : StartFailure x cfg chain) : StartFails suffix (.failed chain)
  | pools {config : EzVpn.VpnServerConfig PublicKey} {id : EndpointId} {e : PoolError}
      (hconfig : Startable x cfg config) (hid : EndpointOf x cfg id) (h : PoolFailure suffix config id e) :
      StartFails suffix (.ofPool e)

/-- Nothing goes wrong around the networks. -/
structure Ready (id : EndpointId) : Prop where
  endpoint : EndpointOf x cfg id
  keys : ∃ path keys, cfg.auth.authorizedKeysFile = some path ∧
    x.loadAuthorizedKeys (x.expandTilde path) = .ok keys ∧ keys ≠ []
  permission : x.ensureTunPermission = .ok ()
  lock : x.lockServer = .ok ()

end

section
variable {Relay Key Secret PublicKey EndpointId : Type}
  {x : Externs Relay Key Secret PublicKey EndpointId} {cfg : VpnServerConfig}

theorem Startable.unique {config config' : EzVpn.VpnServerConfig PublicKey} (h : Startable x cfg config)
    (h' : Startable x cfg config') : config = config' := by
  obtain ⟨⟨hnet, hip, hnet6, hip6⟩, hstrategy, -, hmax, -, path, hpath, hkeys⟩ := h
  obtain ⟨⟨hnet', hip', hnet6', hip6'⟩, hstrategy', -, hmax', -, path', hpath', hkeys'⟩ := h'
  obtain rfl := Option.some.inj (hpath.symm.trans hpath')
  cases config
  cases config'
  cases Except.ok.inj (hnet.symm.trans hnet')
  cases Except.ok.inj (hip.symm.trans hip')
  cases Except.ok.inj (hnet6.symm.trans hnet6')
  cases Except.ok.inj (hip6.symm.trans hip6')
  cases hstrategy.trans hstrategy'.symm
  cases hmax.trans hmax'.symm
  cases Except.ok.inj (hkeys.symm.trans hkeys')
  rfl

theorem EndpointOf.unique {id id' : EndpointId} (h : EndpointOf x cfg id) (h' : EndpointOf x cfg id') : id = id' := by
  obtain ⟨iroh, path, relay, secret, hiroh, hpath, hrelay, hsecret, hid⟩ := h
  obtain ⟨iroh', path', relay', secret', hiroh', hpath', hrelay', hsecret', hid'⟩ := h'
  obtain rfl := Option.some.inj (hiroh.symm.trans hiroh')
  obtain rfl := Option.some.inj (hpath.symm.trans hpath')
  obtain rfl := Except.ok.inj (hrelay.symm.trans hrelay')
  obtain rfl := Except.ok.inj (hsecret.symm.trans hsecret')
  exact Except.ok.inj (hid.symm.trans hid')

theorem Ready.not_startFailure {id : EndpointId} (h : Ready x cfg id) {chain : ErrorChain} :
    ¬ StartFailure x cfg chain := by
  obtain ⟨⟨iroh, path, relay, secret, hiroh, hpath, hrelay, hsecret, hid⟩, ⟨keysFile, keys, hfile, hkeys, hne⟩,
    hpermission, hlock⟩ := h
  intro hfailure
  cases hfailure with
  | relays hiroh' h =>
    obtain rfl := Option.some.inj (hiroh.symm.trans hiroh')
    cases hrelay.symm.trans h
  | keys hpath' h =>
    obtain rfl := Option.some.inj (hfile.symm.trans hpath')
    cases hkeys.symm.trans h
  | noKeys hpath' h =>
    obtain rfl := Option.some.inj (hfile.symm.trans hpath')
    exact hne (Except.ok.inj (hkeys.symm.trans h))
  | secret hiroh' hpath' h =>
    obtain rfl := Option.some.inj (hiroh.symm.trans hiroh')
    obtain rfl := Option.some.inj (hpath.symm.trans hpath')
    cases hsecret.symm.trans h
  | permission h => cases hpermission.symm.trans h
  | endpoint hiroh' hpath' hrelay' hsecret' h =>
    obtain rfl := Option.some.inj (hiroh.symm.trans hiroh')
    obtain rfl := Option.some.inj (hpath.symm.trans hpath')
    obtain rfl := Except.ok.inj (hrelay.symm.trans hrelay')
    obtain rfl := Except.ok.inj (hsecret.symm.trans hsecret')
    cases hid.symm.trans h
  | lock h => cases hlock.symm.trans h

theorem serverSettings_ends {iroh : VpnServerIrohConfig} (hiroh : cfg.iroh = some iroh) (h : Checked x cfg iroh)
    (relayConfig : Relay) :
    Ends (StartFailure x cfg)
      (fun r => Startable x cfg r.1 ∧ ∃ path, iroh.secretFile = some path ∧ x.loadSecret path = .ok r.2)
      (serverSettings x
        ⟨cfg.network, iroh.secretFile, relayConfig, cfg.auth.authorizedKeysFile.map x.expandTilde⟩) := by
  obtain ⟨⟨secretFile, hsecret⟩, ⟨keysFile, hkeys⟩, network, serverIp, network6, serverIp6, hparses, hvalid⟩ := h
  unfold serverSettings
  rw [hsecret, hkeys, withContext_ok hparses.network, withContext_ok hparses.serverIp,
    withContext_ok hparses.network6, withContext_ok hparses.serverIp6]
  have hload : Ends (StartFailure x cfg) (fun keys => x.loadAuthorizedKeys (x.expandTilde keysFile) = .ok keys)
      (withContext "Failed to load the authorized client keys" (x.loadAuthorizedKeys (x.expandTilde keysFile))) :=
    withContext_ends (.of_eq (fun _ h => h) fun _ h => .keys hkeys h)
  refine hload.bind fun keys hloaded => ?_
  cases keys with
  | nil => exact .noKeys hkeys hloaded
  | cons key keys =>
    have hsecretLoad : Ends (StartFailure x cfg) (fun secret => x.loadSecret secretFile = .ok secret)
        (withContext "Failed to load secret key" (x.loadSecret secretFile)) :=
      withContext_ends (.of_eq (fun _ h => h) fun _ h => .secret hiroh hsecret h)
    have hpermission : Ends (StartFailure x cfg) (fun _ => True) x.ensureTunPermission :=
      .of_eq (fun _ _ => trivial) fun _ h => .permission h
    exact hsecretLoad.bind fun secret hsecret' => hpermission.bind fun _ _ =>
      ⟨⟨hparses, rfl, hvalid, rfl, List.cons_ne_nil key keys, keysFile, hkeys, hloaded⟩, secretFile, rfl, hsecret'⟩

variable (auth : Externals EndpointId PublicKey)

/-- What a started server is. -/
structure StartedFrom (x : Externs Relay Key Secret PublicKey EndpointId) (auth : Externals EndpointId PublicKey)
    (cfg : VpnServerConfig) (server : VpnServer EndpointId PublicKey) (id : EndpointId) : Prop where
  config : Startable x cfg server.config
  endpoint : EndpointOf x cfg id
  pools : PoolsFit auth.suffix server.config id
  new : VpnServer.new auth server.config id = .ok server

theorem createServer_ends {config : EzVpn.VpnServerConfig PublicKey} {id : EndpointId}
    (hconfig : Startable x cfg config) (hid : EndpointOf x cfg id) :
    Ends (StartFails x cfg auth.suffix) (fun server => StartedFrom x auth cfg server id)
      (createServer x auth config id) := by
  unfold createServer
  rw [hconfig.valid]
  cases hlock : x.lockServer with
  | error chain => exact .around (.lock hlock)
  | ok _ =>
    refine Ends.mapError (.of_eq (fun server hnew => ?_) fun e hnew => ?_)
    · obtain ⟨rfl, hfit⟩ := (VpnServer.new_ends auth hconfig.valid).value hnew
      exact ⟨hconfig, hid, hfit, hnew⟩
    · exact .pools hconfig hid ((VpnServer.new_ends auth hconfig.valid).err hnew)

theorem serverStart_ends (hvalidate : cfg.validate x = .ok ()) :
    Ends (StartFails x cfg auth.suffix) (fun server => ∃ id, StartedFrom x auth cfg server id)
      (serverStart x auth cfg) := by
  obtain ⟨iroh, hiroh, hcheck⟩ := checkServer_of_validate hvalidate
  unfold serverStart
  rw [hvalidate]
  show Ends _ _ ((ResolvedVpnServerConfig.fromConfig x cfg).mapError .failed >>= runVpnServer x auth)
  unfold ResolvedVpnServerConfig.fromConfig
  rw [hiroh]
  dsimp only
  rw [hcheck]
  cases hrelay : x.relayConfig (iroh.relayUrls.getD []) iroh.relayAuthToken with
  | error chain => exact .around (.relays hiroh hrelay)
  | ok relay =>
    have hsettings := serverSettings_ends hiroh (checked_of_checkServer hcheck) relay
    refine (Ends.mapError (hsettings.mono (fun _ h => .around h) fun _ h => h)).bind ?_
    rintro ⟨config, secret⟩ ⟨hconfig, path, hpath, hsecret⟩
    have hendpoint : Ends (fun chain => StartFails x cfg auth.suffix (.failed chain)) (EndpointOf x cfg)
        (withContext "Failed to create iroh endpoint" (x.createServerEndpoint relay secret)) :=
      withContext_ends (.of_eq (fun id hid => ⟨iroh, path, relay, secret, hiroh, hpath, hrelay, hsecret, hid⟩)
        fun _ h => .around (.endpoint hiroh hpath hrelay hsecret h))
    exact (Ends.mapError hendpoint).bind fun id hid =>
      (createServer_ends auth hconfig hid).mono (fun _ h => h) fun _ h => ⟨id, h⟩

theorem serverStart_of_invalid {chain : ErrorChain} (hvalidate : cfg.validate x = .error chain) :
    serverStart x auth cfg = .error (.failed chain) := by
  unfold serverStart
  rw [hvalidate]
  rfl

/-- A file that passed the checks, with keys that can be loaded, is a configuration. -/
theorem exists_startable {id : EndpointId} (hready : Ready x cfg id) (hvalidate : cfg.validate x = .ok ()) :
    ∃ config, Startable x cfg config := by
  obtain ⟨iroh, hiroh, hcheck⟩ := checkServer_of_validate hvalidate
  obtain ⟨-, -, network, serverIp, network6, serverIp6, hparses, hvalid⟩ := checked_of_checkServer hcheck
  obtain ⟨path, keys, hpath, hkeys, hne⟩ := hready.keys
  exact ⟨⟨network, network6, serverIp, serverIp6, cfg.network.ip6Strategy, 254, keys⟩,
    hparses, rfl, hvalid, rfl, hne, path, hpath, hkeys⟩

theorem serverStart_iff {id : EndpointId} {config : EzVpn.VpnServerConfig PublicKey} (hready : Ready x cfg id)
    (hvalidate : cfg.validate x = .ok ()) (hconfig : Startable x cfg config) :
    (∃ server, serverStart x auth cfg = .ok server) ↔ PoolsFit auth.suffix config id := by
  have hends := serverStart_ends auth hvalidate
  constructor
  · rintro ⟨server, hstart⟩
    obtain ⟨id', hstarted⟩ := hends.value hstart
    rw [hconfig.unique hstarted.config, hready.endpoint.unique hstarted.endpoint]
    exact hstarted.pools
  · intro hfit
    cases hstart : serverStart x auth cfg with
    | ok server => exact ⟨server, rfl⟩
    | error e =>
      cases hends.err hstart with
      | around h => exact (hready.not_startFailure h).elim
      | pools hconfig' hid h =>
        rw [hconfig.unique hconfig', hready.endpoint.unique hid] at hfit
        exact (h.not_fit hfit).elim

end

/-- **When a server starts.**  For every config file, whatever loading keys, making the endpoint and
locking come to: the start fails with the error of `validate`, over something around the networks, or
because the pools cannot be built of what the texts of the file stand for.  It never fails because a
text that passed `validate` does not parse later on, or because the server's own `validate` refuses
it.  If it does not fail, the server has exactly that configuration.  With all the rest in order, a
file that passed `validate` starts a server exactly if the pools can be built: the prefix of an IPv6
network is shorter than /127, the address derived from the endpoint is not the network's, and the
arithmetic stays in the address space. -/
theorem server_start_valid {Relay Key Secret PublicKey EndpointId : Type}
    (x : Externs Relay Key Secret PublicKey EndpointId) (auth : Externals EndpointId PublicKey)
    (cfg : VpnServerConfig) :
    (match serverStart x auth cfg with
    | .ok server => cfg.validate x = .ok () ∧ ∃ id, StartedFrom x auth cfg server id
    | .error e => (∃ chain, cfg.validate x = .error chain ∧ e = .failed chain) ∨ StartFails x cfg auth.suffix e) ∧
    ∀ id, Ready x cfg id → cfg.validate x = .ok () →
      ∃ config, Startable x cfg config ∧
        ((∃ server, serverStart x auth cfg = .ok server) ↔ PoolsFit auth.suffix config id) := by
  refine ⟨?_, fun id hready hvalidate => ?_⟩
  · cases hvalidate : cfg.validate x with
    | error chain =>
      rw [serverStart_of_invalid auth hvalidate]
      exact .inl ⟨chain, rfl, rfl⟩
    | ok _ =>
      have hends := serverStart_ends auth hvalidate
      cases hstart : serverStart x auth cfg with
      | error e => exact .inr (hends.err hstart)
      | ok server => exact ⟨rfl, hends.value hstart⟩
  · obtain ⟨config, hconfig⟩ := exists_startable hready hvalidate
    exact ⟨config, hconfig, serverStart_iff auth hready hvalidate hconfig⟩

/-- A host on which all goes well, and any text is fd00::/127. -/
def smallNetwork : Externs Unit Unit Unit Unit Nat where
  ipv4Net := fun _ => .error "invalid IP address syntax"
  ipv6Net := fun _ => .ok ⟨0xfd000000000000000000000000000000#128, 127, by decide⟩
  ipNet := fun _ => .ok (.v6 ⟨0xfd000000000000000000000000000000#128, 127, by decide⟩)
  ipv4Addr := fun _ => .error "invalid IPv4 address syntax"
  ipv6Addr := fun _ => .error "invalid IPv6 address syntax"
  parsesNodeId := fun _ => true
  relayConfig := fun _ _ => .ok ()
  expandTilde := fun path => path
  loadAuthorizedKeys := fun _ => .ok [()]
  loadSecret := fun _ => .ok ()
  keyFromSecret := fun _ => .ok ()
  keyFromFile := fun _ => .ok ()
  ensureTunPermission := .ok ()
  createServerEndpoint := fun _ _ => .ok 7
  createClientEndpoint := fun _ _ => .ok ()
  lockServer := .ok ()
  lockClient := .ok ()

def smallAuth : Externals Nat Unit :=
  ⟨UInt64.ofNat, fun _ => .error "", fun _ => none, fun _ => none, fun _ _ _ => false⟩

/-- A server with nothing but `network6 = "fd00::/127"`. -/
def smallFile : VpnServerConfig :=
  ⟨some .vpnServer, ⟨none, none, some "fd00::/127", none, .sequential⟩, ⟨some "keys"⟩,
    some ⟨some "secret", none, none⟩⟩

/-- The file is accepted, and the server does not start. -/
theorem server_start_valid_small :
    smallFile.validate smallNetwork = .ok () ∧ ∀ server, serverStart smallNetwork smallAuth smallFile ≠ .ok server := by
  have hready : Ready smallNetwork smallFile 7 :=
    ⟨⟨_, "secret", (), (), rfl, rfl, rfl, rfl, rfl⟩, ⟨"keys", [()], rfl, rfl, List.cons_ne_nil _ _⟩, rfl, rfl⟩
  have hvalidate : smallFile.validate smallNetwork = .ok () := rfl
  refine ⟨hvalidate, fun server hstart => ?_⟩
  obtain ⟨config, hconfig, hiff⟩ := (server_start_valid smallNetwork smallAuth smallFile).2 7 hready hvalidate
  have hnet6 : config.network6 = some ⟨0xfd000000000000000000000000000000#128, 127, by decide⟩ :=
    (Except.ok.inj hconfig.networks.network6).symm
  exact absurd ((hiff.1 ⟨server, hstart⟩).prefix6 _ hnet6) (by decide)

end FileConfig

end EzVpn
