import EzVpn.Client.Overlap
import EzVpn.Config.File

/-!
# From a config file and a command line to a client

The resolution of both into one configuration (`VpnClientConfigBuilder` in
src/config/file_config.rs, `prepare_client_start` in src/main.rs), which is done before the client
goes into the background, and the start of the client, `run_vpn_client` with `VpnClient::new`
(src/tunnel/client.rs), up to the client that it runs.

The preparation checks the routes as networks of either family, and the client reads them as IPv4
ones; it does not look at the node id of the server, which the client parses.  `client_start_routes`
says when a prepared client starts.
-/

namespace EzVpn

open Lib

namespace FileConfig

section
variable {Relay Key Secret PublicKey EndpointId : Type}
  (x : Externs Relay Key Secret PublicKey EndpointId)

def VpnClientConfig.validate (cfg : VpnClientConfig) : Except ErrorChain Unit :=
  match cfg.role with
  | none => throw ["Config file missing required 'role' field. Add: role = \"vpnclient\""]
  | some role =>
    if role ≠ .vpnClient then
      throw ["Config file has wrong role for client. Expected role = \"vpnclient\""]
    else
      match cfg.iroh with
      | none =>
        throw ["Config file missing required [iroh] section. Add a [iroh] section with 'server_node_id'."]
      | some iroh => do
        if iroh.serverNodeId.isNone then throw ["[iroh] 'server_node_id' is required for client config."]
        (cfg.network.routes.getD []).forM fun route =>
          withContext s!"[network] Invalid route CIDR '{route}'" (validateCidr x route)
        (cfg.network.routes6.getD []).forM fun route6 =>
          withContext (route6Context route6 "network") (validateIpv6Cidr x route6)

end

/-- The arguments of `ezvpn client start`, with what `conflicts_with` sees to. -/
structure CliArgs where
  serverNodeId : Option String
  relayUrls : List String
  relayAuthToken : Option String
  authKey : Option String
  authKeyFile : Option String
  routes : List String
  routes6 : List String
  excludeDirectPaths : List String
  autoReconnect : Bool
  noAutoReconnect : Bool
  maxReconnectAttempts : Option NonZeroU32
  one_key : authKey = none ∨ authKeyFile = none
  one_flag : ¬ (autoReconnect = true ∧ noAutoReconnect = true)

/-- Neither flag leaves it to the file. -/
def CliArgs.autoReconnectOpt (args : CliArgs) : Option Bool :=
  match args.autoReconnect, args.noAutoReconnect with
  | true, _ => some true
  | false, true => some false
  | false, false => none

structure VpnClientConfigBuilder where
  serverNodeId : Option String := none
  authKey : Option String := none
  authKeyFile : Option String := none
  routes : Option (List String) := none
  routes6 : Option (List String) := none
  relayUrls : Option (List String) := none
  relayAuthToken : Option String := none
  excludeDirectPaths : Option (List String) := none
  autoReconnect : Option Bool := none
  maxReconnectAttempts : Option NonZeroU32 := none

structure ResolvedVpnClientConfig (Relay : Type) where
  serverNodeId : String
  authKey : Option String
  authKeyFile : Option String
  routes : List String
  routes6 : List String
  relayConfig : Relay
  excludeDirectPaths : List AnyNet
  autoReconnect : Bool
  maxReconnectAttempts : Option NonZeroU32

/-- An option that may be given several times counts if it is given at all. -/
def given (values : List String) : Option (List String) := if values.isEmpty then none else some values

section
variable {Relay Key Secret PublicKey EndpointId : Type}
  (x : Externs Relay Key Secret PublicKey EndpointId)

namespace VpnClientConfigBuilder

def applyDefaults (b : VpnClientConfigBuilder) : VpnClientConfigBuilder :=
  { b with routes := some [], routes6 := some [], relayUrls := some [] }

def applyConfig (b : VpnClientConfigBuilder) : Option VpnClientConfig → VpnClientConfigBuilder
  | none => b
  | some cfg =>
    let b :=
      match cfg.iroh with
      | none => b
      | some iroh =>
        { b with
          serverNodeId := iroh.serverNodeId.or b.serverNodeId
          relayUrls := iroh.relayUrls.or b.relayUrls
          relayAuthToken := iroh.relayAuthToken.or b.relayAuthToken
          excludeDirectPaths := iroh.excludeDirectPaths.or b.excludeDirectPaths }
    { b with
      authKeyFile := (cfg.auth.authKeyFile.map x.expandTilde).or b.authKeyFile
      routes := cfg.network.routes.or b.routes
      routes6 := cfg.network.routes6.or b.routes6
      autoReconnect := cfg.autoReconnect.or b.autoReconnect
      maxReconnectAttempts := cfg.maxReconnectAttempts.or b.maxReconnectAttempts }

def applyCli (b : VpnClientConfigBuilder) (args : CliArgs) : VpnClientConfigBuilder :=
  let authKeyFile := args.authKeyFile.map x.expandTilde
  -- the keys of the command line win as a group
  let b :=
    if args.authKey.isSome || authKeyFile.isSome then { b with authKey := args.authKey, authKeyFile } else b
  { b with
    serverNodeId := args.serverNodeId.or b.serverNodeId
    routes := (given args.routes).or b.routes
    routes6 := (given args.routes6).or b.routes6
    relayUrls := (given args.relayUrls).or b.relayUrls
    relayAuthToken := args.relayAuthToken.or b.relayAuthToken
    excludeDirectPaths := (given args.excludeDirectPaths).or b.excludeDirectPaths
    autoReconnect := args.autoReconnectOpt.or b.autoReconnect
    maxReconnectAttempts := args.maxReconnectAttempts.or b.maxReconnectAttempts }

def build (b : VpnClientConfigBuilder) : Except ErrorChain (ResolvedVpnClientConfig Relay) :=
  match b.serverNodeId with
  | none =>
    throw ["Server node ID is required. Provide --server-node-id or set server_node_id in config."]
  | some serverNodeId => do
    let routes := b.routes.getD []
    routes.forM fun route =>
      withContext s!"Invalid route CIDR '{route}' (e.g., 0.0.0.0/0)" (validateCidr x route)
    let routes6 := b.routes6.getD []
    routes6.forM fun route6 => withContext (route6Context route6 "config") (validateIpv6Cidr x route6)
    let excludeDirectPaths ← (b.excludeDirectPaths.getD []).mapM fun net =>
      withContext
        s!"Invalid exclude_direct_paths CIDR '{net}' (e.g., 100.64.0.0/10 or fd7a:115c:a1e0::/48)"
        (parsed (x.ipNet net))
    if b.authKey.isSome && b.authKeyFile.isSome then
      throw ["Cannot specify both auth_key and auth_key_file. Use one source for auth."]
    let relayConfig ← x.relayConfig (b.relayUrls.getD []) b.relayAuthToken
    pure
      { serverNodeId
        authKey := b.authKey
        authKeyFile := b.authKeyFile
        routes
        routes6
        relayConfig
        excludeDirectPaths
        autoReconnect := b.autoReconnect.getD true
        maxReconnectAttempts := b.maxReconnectAttempts }

end VpnClientConfigBuilder

/-- Defaults, file, command line. -/
def clientBuilder (file : Option VpnClientConfig) (args : CliArgs) : VpnClientConfigBuilder :=
  (VpnClientConfigBuilder.applyConfig x (VpnClientConfigBuilder.applyDefaults {}) file).applyCli x args

/-- `prepare_client_start` from the loaded file on, if there is one. -/
def prepareClientStart (file : Option VpnClientConfig) (args : CliArgs) :
    Except ErrorChain (ResolvedVpnClientConfig Relay) := do
  match file with
  | some cfg => cfg.validate x
  | none => pure ()
  x.ensureTunPermission
  (clientBuilder x file args).build x

def clientKeyRequired : String :=
  "VPN client requires an authentication keypair.\n" ++
    "Generate one with: flexaccess-keys generate-auth-key -o <FILE>\n" ++
    "Then pass --auth-key-file <FILE> (or --auth-key <SECRET>), or set " ++
    "auth_key_file in the config, and put the key's public half " ++
    "(`flexaccess-keys show-auth-key --private-key-file <FILE>`) on the " ++
    "server's authorized_keys_file."

/-- The key of `run_vpn_client`: the inline secret or the file. -/
def clientKey (resolved : ResolvedVpnClientConfig Relay) : Except ErrorChain Key :=
  match resolved.authKey, resolved.authKeyFile with
  | some secret, _ => withContext "Invalid client secret key" (x.keyFromSecret secret)
  | none, some path => withContext "Failed to load the client key file" (x.keyFromFile path)
  | none, none => throw [clientKeyRequired]

/-- `VpnClientConfig` of src/config/mod.rs. -/
structure ClientRunConfig (Key : Type) extends EzVpn.VpnClientConfig where
  serverNodeId : String
  clientKey : Key

def ClientRunConfig.validate (config : ClientRunConfig Key) : Except String Unit :=
  if config.serverNodeId.isEmpty then .error "'server_node_id' is required and cannot be empty"
  else if !x.parsesNodeId config.serverNodeId then .error "'server_node_id' is not a valid iroh node ID"
  else .ok ()

/-- `VpnClient::new`, as far as it can fail. -/
def newClient (config : ClientRunConfig Key) : Except VpnError Unit :=
  match config.validate x with
  | .error e => .error (.config e)
  | .ok () => x.lockClient

/-- `run_vpn_client`, up to the client it runs. -/
def runVpnClient (resolved : ResolvedVpnClientConfig Relay) : Except ErrorChain (ClientRunConfig Key) := do
  let clientKey ← clientKey x resolved
  let routes ← withContext "Invalid route CIDR (e.g., 192.168.1.0/24)"
    (resolved.routes.mapM (parsed ∘ x.ipv4Net))
  let routes6 ← withContext "Invalid route6 CIDR (e.g., ::/0 or fd00::/64)"
    (resolved.routes6.mapM (parsed ∘ x.ipv6Net))
  let config : ClientRunConfig Key := { serverNodeId := resolved.serverNodeId, clientKey, routes, routes6 }
  withContext "Failed to create iroh endpoint"
    (x.createClientEndpoint resolved.relayConfig resolved.excludeDirectPaths)
  match newClient x config with
  | .ok () => pure config
  | .error e => throw [s!"Failed to create VPN client: {e.display}"]

end

/-! ## What is prepared -/

section
variable {Relay Key Secret PublicKey EndpointId : Type}
  {x : Externs Relay Key Secret PublicKey EndpointId}

theorem withContext_eq_ok {α : Type} {context : String} {r : Except ErrorChain α} {a : α}
    (h : withContext context r = .ok a) : r = .ok a := by
  cases r with
  | ok b => exact h
  | error chain => cases h

theorem parsed_eq_ok {α : Type} {r : Except String α} {a : α} (h : parsed r = .ok a) : r = .ok a := by
  cases r with
  | ok b => exact congrArg Except.ok (Except.ok.inj h)
  | error e => cases h

theorem ipNet_of_validateCidr {cidr : String} (h : validateCidr x cidr = .ok ()) : ∃ net, x.ipNet cidr = .ok net := by
  obtain ⟨net, hnet, -⟩ := bind_eq_ok h
  exact ⟨net, parsed_eq_ok (withContext_eq_ok hnet)⟩

theorem ipv6Net_of_validateIpv6Cidr {cidr : String} (h : validateIpv6Cidr x cidr = .ok ()) :
    ∃ net, x.ipv6Net cidr = .ok net := by
  obtain ⟨net, hnet, -⟩ := bind_eq_ok h
  exact ⟨net, parsed_eq_ok (withContext_eq_ok hnet)⟩

/-- What `build` has checked. -/
structure Prepared (x : Externs Relay Key Secret PublicKey EndpointId) (r : ResolvedVpnClientConfig Relay) : Prop where
  routes : ∀ route ∈ r.routes, ∃ net, x.ipNet route = .ok net
  routes6 : ∀ route ∈ r.routes6, ∃ net, x.ipv6Net route = .ok net

theorem prepared_of_build {b : VpnClientConfigBuilder} {r : ResolvedVpnClientConfig Relay} (h : b.build x = .ok r) :
    Prepared x r := by
  unfold VpnClientConfigBuilder.build at h
  cases hid : b.serverNodeId with
  | none => rw [hid] at h; cases h
  | some serverNodeId =>
    rw [hid] at h
    obtain ⟨_, hroutes, h⟩ := bind_eq_ok h
    obtain ⟨_, hroutes6, h⟩ := bind_eq_ok h
    obtain ⟨excludes, -, h⟩ := bind_eq_ok h
    dsimp only at h
    split at h
    · cases h
    · obtain ⟨relayConfig, -, h⟩ := bind_eq_ok h
      obtain rfl := Except.ok.inj h
      refine ⟨fun route hroute => ?_, fun route hroute => ?_⟩
      · exact ipNet_of_validateCidr (withContext_eq_ok (forM_eq_ok hroutes route hroute))
      · exact ipv6Net_of_validateIpv6Cidr (withContext_eq_ok (forM_eq_ok hroutes6 route hroute))

theorem prepared_of_prepareClientStart {file : Option VpnClientConfig} {args : CliArgs}
    {r : ResolvedVpnClientConfig Relay} (h : prepareClientStart x file args = .ok r) : Prepared x r := by
  unfold prepareClientStart at h
  cases file with
  | none =>
    obtain ⟨_, -, h⟩ := bind_eq_ok h
    exact prepared_of_build h
  | some cfg =>
    obtain ⟨_, -, h⟩ := bind_eq_ok h
    obtain ⟨_, -, h⟩ := bind_eq_ok h
    exact prepared_of_build h

end

/-! ## What is used -/

section
variable {Relay Key Secret PublicKey EndpointId : Type}
  (x : Externs Relay Key Secret PublicKey EndpointId)

/-- What `IpNet::from_str` reads as an IPv4 network is what `Ipv4Net::from_str` reads. -/
def ReadsIpv4 : Prop := ∀ text net, x.ipNet text = .ok (.v4 net) ↔ x.ipv4Net text = .ok net

variable (r : ResolvedVpnClientConfig Relay)

/-- What can go wrong at the start of a client whose preparation succeeded. -/
inductive ClientFailure : ErrorChain → Prop
  | secret {secret : String} {chain : ErrorChain} (hkey : r.authKey = some secret)
      (h : x.keyFromSecret secret = .error chain) : ClientFailure ("Invalid client secret key" :: chain)
  | file {path : String} {chain : ErrorChain} (hkey : r.authKey = none) (hfile : r.authKeyFile = some path)
      (h : x.keyFromFile path = .error chain) : ClientFailure ("Failed to load the client key file" :: chain)
  | noKey (hkey : r.authKey = none) (hfile : r.authKeyFile = none) : ClientFailure [clientKeyRequired]
  /-- an IPv6 network among the IPv4 routes -/
  | family {route e : String} {net6 : Ipv6Net} (hroute : route ∈ r.routes)
      (h : x.ipNet route = .ok (.v6 net6)) (he : x.ipv4Net route = .error e) :
      ClientFailure ["Invalid route CIDR (e.g., 192.168.1.0/24)", e]
  | endpoint {chain : ErrorChain} (h : x.createClientEndpoint r.relayConfig r.excludeDirectPaths = .error chain) :
      ClientFailure ("Failed to create iroh endpoint" :: chain)
  | emptyId (h : r.serverNodeId.isEmpty = true) : ClientFailure
      ["Failed to create VPN client: Configuration error: 'server_node_id' is required and cannot be empty"]
  | badId (h : x.parsesNodeId r.serverNodeId = false) : ClientFailure
      ["Failed to create VPN client: Configuration error: 'server_node_id' is not a valid iroh node ID"]
  | lock {e : VpnError} (h : x.lockClient = .error e) :
      ClientFailure [s!"Failed to create VPN client: {e.display}"]

/-- What the client goes on with. -/
structure ClientUses (config : ClientRunConfig Key) : Prop where
  routes : List.Forall₂ (fun text net => x.ipv4Net text = .ok net) r.routes config.routes
  routes6 : List.Forall₂ (fun text net => x.ipv6Net text = .ok net) r.routes6 config.routes6
  serverNodeId : config.serverNodeId = r.serverNodeId
  validId : r.serverNodeId.isEmpty = false ∧ x.parsesNodeId r.serverNodeId = true
  clientKey : clientKey x r = .ok config.clientKey

/-- Nothing goes wrong but over the routes and the node id. -/
structure ClientReady : Prop where
  key : ∃ key, clientKey x r = .ok key
  endpoint : x.createClientEndpoint r.relayConfig r.excludeDirectPaths = .ok ()
  lock : x.lockClient = .ok ()

end

section
variable {Relay Key Secret PublicKey EndpointId : Type}
  {x : Externs Relay Key Secret PublicKey EndpointId} {r : ResolvedVpnClientConfig Relay}

/-- A network that is not an IPv4 one. -/
theorem ipNet_of_ipv4Net_error (hreads : ReadsIpv4 x) {text e : String} {net : AnyNet}
    (hnet : x.ipNet text = .ok net) (he : x.ipv4Net text = .error e) : ∃ net6, x.ipNet text = .ok (.v6 net6) := by
  cases net with
  | v6 net6 => exact ⟨net6, hnet⟩
  | v4 net4 =>
    rw [(hreads text net4).1 hnet] at he
    cases he

theorem parsed_mapM_ends {α : Type} (parse : String → Except String α) (texts : List String) :
    Ends (fun chain => ∃ text ∈ texts, ∃ e, parse text = .error e ∧ chain = [e])
      (fun nets => List.Forall₂ (fun text net => parse text = .ok net) texts nets)
      (texts.mapM (parsed ∘ parse)) := by
  refine (mapM_ends (parsed ∘ parse) texts).mono ?_ fun nets h => h.imp fun _ _ => parsed_eq_ok
  rintro chain ⟨text, htext, h⟩
  refine ⟨text, htext, ?_⟩
  cases hparse : parse text with
  | ok a => simp only [Function.comp_apply, hparse] at h; cases h
  | error e =>
    simp only [Function.comp_apply, hparse] at h
    exact ⟨e, rfl, (Except.error.inj h).symm⟩

theorem clientKey_ends (x : Externs Relay Key Secret PublicKey EndpointId) (r : ResolvedVpnClientConfig Relay) :
    Ends (ClientFailure x r) (fun _ => True) (clientKey x r) := by
  unfold clientKey
  cases hkey : r.authKey with
  | some secret => exact withContext_ends (.of_eq (fun _ _ => trivial) fun _ he => .secret hkey he)
  | none =>
    cases hfile : r.authKeyFile with
    | some path => exact withContext_ends (.of_eq (fun _ _ => trivial) fun _ he => .file hkey hfile he)
    | none => exact ClientFailure.noKey hkey hfile

/-- The constructor refuses a node id or fails to lock. -/
theorem newClient_ends (config : ClientRunConfig Key) (hid : config.serverNodeId = r.serverNodeId) :
    Ends (fun e => ClientFailure x r [s!"Failed to create VPN client: {e.display}"])
      (fun _ => r.serverNodeId.isEmpty = false ∧ x.parsesNodeId r.serverNodeId = true) (newClient x config) := by
  unfold newClient ClientRunConfig.validate
  rw [hid]
  cases hempty : r.serverNodeId.isEmpty with
  | true => exact .emptyId hempty
  | false =>
    cases hparses : x.parsesNodeId r.serverNodeId with
    | false => exact .badId hparses
    | true => exact .of_eq (fun _ _ => ⟨rfl, rfl⟩) fun _ he => .lock he

theorem runVpnClient_ends (hreads : ReadsIpv4 x) (h : Prepared x r) :
    Ends (ClientFailure x r) (ClientUses x r) (runVpnClient x r) := by
  have hkey : Ends (ClientFailure x r) (fun key => clientKey x r = .ok key) (clientKey x r) :=
    .of_eq (fun _ hk => hk) fun _ he => (clientKey_ends x r).err he
  refine hkey.bind fun key hkey => ?_
  refine Ends.bind (withContext_ends ((parsed_mapM_ends x.ipv4Net r.routes).mono ?_ fun _ hroutes => hroutes)) ?_
  · rintro _ ⟨text, htext, e, he, rfl⟩
    obtain ⟨net, hnet⟩ := h.routes text htext
    obtain ⟨net6, hnet6⟩ := ipNet_of_ipv4Net_error hreads hnet he
    exact .family htext hnet6 he
  intro routes hroutes
  refine Ends.bind (withContext_ends ((parsed_mapM_ends x.ipv6Net r.routes6).mono ?_ fun _ hroutes6 => hroutes6)) ?_
  · rintro _ ⟨text, htext, e, he, rfl⟩
    obtain ⟨net, hnet⟩ := h.routes6 text htext
    rw [hnet] at he
    cases he
  intro routes6 hroutes6
  have hendpoint : Ends (ClientFailure x r) (fun _ => True)
      (withContext "Failed to create iroh endpoint" (x.createClientEndpoint r.relayConfig r.excludeDirectPaths)) :=
    withContext_ends (.of_eq (fun _ _ => trivial) fun _ he => .endpoint he)
  refine hendpoint.bind fun _ _ => ?_
  have hnew := newClient_ends (x := x) (r := r)
    { serverNodeId := r.serverNodeId, clientKey := key, routes, routes6 } rfl
  split
  · next heq => exact ⟨hroutes, hroutes6, rfl, hnew.value heq, hkey⟩
  · next e heq => exact hnew.err heq

/-- A client that goes on has read no IPv6 network as a route. -/
theorem ClientUses.ipv4_only (hreads : ReadsIpv4 x) {config : ClientRunConfig Key} (h : ClientUses x r config) :
    ∀ route ∈ r.routes, ∀ net6, x.ipNet route ≠ .ok (.v6 net6) := by
  have hread : List.Forall₂ (fun text net => (∃ net, x.ipv4Net text = .ok net) ∧ x.ipv4Net text = .ok net)
      r.routes config.routes := h.routes.imp fun text net hnet => ⟨⟨net, hnet⟩, hnet⟩
  intro route hroute net6 hnet6
  obtain ⟨net, hnet⟩ := ((List.forall₂_and_left r.routes config.routes).1 hread).1 route hroute
  cases ((hreads route net).2 hnet).symm.trans hnet6

/-- With all the rest in order, only a route or the node id can be wrong. -/
theorem ClientReady.cause (h : ClientReady x r) {chain : ErrorChain} (hfailure : ClientFailure x r chain) :
    (∃ route ∈ r.routes, ∃ net6, x.ipNet route = .ok (.v6 net6)) ∨ r.serverNodeId.isEmpty = true ∨
      x.parsesNodeId r.serverNodeId = false := by
  obtain ⟨⟨key, hkey⟩, hendpoint, hlock⟩ := h
  unfold clientKey at hkey
  cases hfailure with
  | secret hsecret he => simp only [hsecret, he] at hkey; cases hkey
  | file hsecret hfile he => simp only [hsecret, hfile, he] at hkey; cases hkey
  | noKey hsecret hfile => simp only [hsecret, hfile] at hkey; cases hkey
  | family hroute hnet6 he => exact .inl ⟨_, hroute, _, hnet6⟩
  | endpoint he => cases hendpoint.symm.trans he
  | emptyId hempty => exact .inr (.inl hempty)
  | badId hbad => exact .inr (.inr hbad)
  | lock he => cases hlock.symm.trans he

end

/-- **When a prepared client starts.**  Whatever passes the preparation, the texts of the IPv6 routes
parse again, but those of the routes need not: they were accepted as networks of either family and
are now read as IPv4.  And the node id has not been looked at.  So, if the key can be read, the
endpoint made and the instance locked, the client starts exactly if no IPv6 network stands among the
routes and the node id is one; it then has the routes, the node id and the key that were prepared. -/
theorem client_start_routes {Relay Key Secret PublicKey EndpointId : Type}
    (x : Externs Relay Key Secret PublicKey EndpointId) (hreads : ReadsIpv4 x) (file : Option VpnClientConfig)
    (args : CliArgs) (r : ResolvedVpnClientConfig Relay) (h : prepareClientStart x file args = .ok r) :
    (match runVpnClient x r with
    | .ok config => ClientUses x r config
    | .error chain => ClientFailure x r chain) ∧
    (ClientReady x r → ((∃ config, runVpnClient x r = .ok config) ↔
      (∀ route ∈ r.routes, ∀ net6, x.ipNet route ≠ .ok (.v6 net6)) ∧
        r.serverNodeId.isEmpty = false ∧ x.parsesNodeId r.serverNodeId = true)) := by
  have hends := runVpnClient_ends hreads (prepared_of_prepareClientStart h)
  refine ⟨?_, fun hready => ?_⟩
  · cases hrun : runVpnClient x r with
    | ok c => exact hends.value hrun
    | error chain => exact hends.err hrun
  constructor
  · rintro ⟨config, hrun⟩
    have huses := hends.value hrun
    exact ⟨huses.ipv4_only hreads, huses.validId⟩
  · rintro ⟨hroutes, hempty, hparses⟩
    cases hrun : runVpnClient x r with
    | ok config => exact ⟨config, rfl⟩
    | error chain =>
      rcases hready.cause (hends.err hrun) with ⟨route, hroute, net6, hnet6⟩ | hempty' | hbad
      · exact (hroutes route hroute net6 hnet6).elim
      · cases hempty.symm.trans hempty'
      · cases hparses.symm.trans hbad

/-- A host on which all goes well, with a network of each family and one node id. -/
def fewTexts : Externs Unit Unit Unit Unit Unit where
  ipv4Net := fun text =>
    if text = "10.128.0.0/9" then .ok ⟨0x0a800000#32, 9, by decide⟩ else .error "invalid IP address syntax"
  ipv6Net := fun text => if text = "::/0" then .ok ⟨0#128, 0, by decide⟩ else .error "invalid IP address syntax"
  ipNet := fun text =>
    if text = "10.128.0.0/9" then .ok (.v4 ⟨0x0a800000#32, 9, by decide⟩)
    else if text = "::/0" then .ok (.v6 ⟨0#128, 0, by decide⟩)
    else .error "invalid IP address syntax"
  ipv4Addr := fun _ => .error "invalid IPv4 address syntax"
  ipv6Addr := fun _ => .error "invalid IPv6 address syntax"
  parsesNodeId := fun text => text == "server"
  relayConfig := fun _ _ => .ok ()
  expandTilde := fun path => path
  loadAuthorizedKeys := fun _ => .ok [()]
  loadSecret := fun _ => .ok ()
  keyFromSecret := fun _ => .ok ()
  keyFromFile := fun _ => .ok ()
  ensureTunPermission := .ok ()
  createServerEndpoint := fun _ _ => .ok ()
  createClientEndpoint := fun _ _ => .ok ()
  lockServer := .ok ()
  lockClient := .ok ()

theorem readsIpv4_fewTexts : ReadsIpv4 fewTexts := by
  intro text net
  by_cases h4 : text = "10.128.0.0/9"
  · simp [fewTexts, h4]
  · by_cases h6 : text = "::/0" <;> simp [fewTexts, h4, h6]

/-- A config file with one route, for a command line without settings. -/
def routeFile (serverNodeId route : String) : VpnClientConfig :=
  ⟨some .vpnClient, ⟨some [route], none⟩, ⟨some "client.key"⟩, none, none, some ⟨some serverNodeId, none, none, none⟩⟩

def noArgs : CliArgs where
  serverNodeId := none
  relayUrls := []
  relayAuthToken := none
  authKey := none
  authKeyFile := none
  routes := []
  routes6 := []
  excludeDirectPaths := []
  autoReconnect := false
  noAutoReconnect := false
  maxReconnectAttempts := none
  one_key := .inl rfl
  one_flag := by decide

/-- What is prepared of it. -/
def routeResolved (serverNodeId route : String) : ResolvedVpnClientConfig Unit :=
  ⟨serverNodeId, none, some "client.key", [route], [], (), [], true, none⟩

/-- 10.128.0.0/9 is a route to start with; ::/0 and another node id are accepted by the preparation
too, and the client does not start. -/
theorem client_start_routes_route :
    (∃ config, runVpnClient fewTexts (routeResolved "server" "10.128.0.0/9") = .ok config) ∧
    (¬ ∃ config, runVpnClient fewTexts (routeResolved "server" "::/0") = .ok config) ∧
    ¬ ∃ config, runVpnClient fewTexts (routeResolved "other" "10.128.0.0/9") = .ok config := by
  have hiff (serverNodeId route : String)
      (hprepared : prepareClientStart fewTexts (some (routeFile serverNodeId route)) noArgs =
        .ok (routeResolved serverNodeId route)) :=
    (client_start_routes fewTexts readsIpv4_fewTexts _ noArgs (routeResolved serverNodeId route) hprepared).2
      ⟨⟨(), rfl⟩, rfl, rfl⟩
  refine ⟨(hiff "server" "10.128.0.0/9" rfl).2 ⟨?_, rfl, rfl⟩, fun hstart => ?_, fun hstart => ?_⟩
  · intro route hroute net6
    rw [List.mem_singleton.1 hroute]
    nofun
  · exact ((hiff "server" "::/0" rfl).1 hstart).1 "::/0" List.mem_cons_self ⟨0#128, 0, by decide⟩ rfl
  · exact absurd ((hiff "other" "10.128.0.0/9" rfl).1 hstart).2.2 (by decide)

end FileConfig

end EzVpn
