import EzVpn.Net.RouteLookup

/-!
# The commands for a host route

The command that adds a bypass route and the one that removes it when its guard is dropped
(`remove_bypass_route_sync`, src/net/device.rs) name one host route: `HostRoute` is that route in
the words of the commands, and `bypassCommand_ok` says that both are for it.

The words come from what a lookup printed.  `NextHop.Read` is what is known of them for every
text, `HostRoute.Safe` what follows for the commands.
-/

namespace EzVpn

open Lib

/-! ## Addresses as texts -/

theorem isHexDigit_of_mem_toDigits {n : Nat} {c : Char} (h : c ∈ Nat.toDigits 16 n) : isHexDigit c = true := by
  have hdigit : ∀ k < 16, isHexDigit (Nat.digitChar k) = true := by decide
  induction n using Nat.strongRecOn with
  | ind n ih =>
    rcases Nat.lt_or_ge n 16 with hlt | hge
    · rw [Nat.toDigits_of_lt_base hlt, List.mem_singleton] at h
      exact h ▸ hdigit n hlt
    · rw [Nat.toDigits_of_base_le (by decide) hge, List.mem_append, List.mem_singleton] at h
      rcases h with h | rfl
      · exact ih (n / 16) (by omega) h
      · exact hdigit (n % 16) (Nat.mod_lt n (by decide))

theorem isHexDigit_of_isDigit {c : Char} (h : c.isDigit = true) : isHexDigit c = true := by
  simp [isHexDigit, h]

theorem isAddressChar_of_isHexDigit {c : Char} (h : isHexDigit c = true) : isAddressChar c = true := by
  simp [isAddressChar, h]

/-- Only the characters of addresses. -/
def AddressText (s : String) : Prop := s.toList.all isAddressChar = true

instance (s : String) : Decidable (AddressText s) := inferInstanceAs (Decidable (_ = true))

theorem addressText_append {s t : String} (hs : AddressText s) (ht : AddressText t) : AddressText (s ++ t) := by
  unfold AddressText at *
  rw [String.toList_append, List.all_append, hs, ht]
  rfl

theorem addressText_nat (n : Nat) : AddressText (toString n) := by
  unfold AddressText
  rw [Nat.toString_eq_ofList_toDigits, String.toList_ofList, List.all_eq_true]
  exact fun c hc => isAddressChar_of_isHexDigit
    (isHexDigit_of_isDigit (Nat.isDigit_of_mem_toDigits (by decide) (by decide) hc))

theorem addressText_displayIpv4 (ip : Ipv4Addr) : AddressText (displayIpv4 ip) := by
  have hdot : AddressText "." := by decide
  unfold displayIpv4
  exact addressText_append (addressText_append (addressText_append (addressText_append (addressText_append
    (addressText_append (addressText_nat _) hdot) (addressText_nat _)) hdot) (addressText_nat _)) hdot)
    (addressText_nat _)

theorem addressText_displayHex (groups : List Nat) : AddressText (displayHex groups) := by
  have hcolon : AddressText ":" := by decide
  unfold AddressText displayHex at *
  rw [String.toList_intercalate, List.all_eq_true]
  refine forall_mem_intercalate (List.all_eq_true.1 hcolon) fun piece hpiece c hc => ?_
  simp only [List.map_map, List.mem_map, Function.comp_apply, String.toList_ofList] at hpiece
  obtain ⟨g, -, rfl⟩ := hpiece
  exact isAddressChar_of_isHexDigit (isHexDigit_of_mem_toDigits hc)

theorem addressText_displayIpv6 (ip : Ipv6Addr) : AddressText (displayIpv6 ip) := by
  have hmapped : AddressText "::ffff:" := by decide
  have hzeros : AddressText "::" := by decide
  unfold displayIpv6
  dsimp only
  generalize longestZeros (segments ip) 0 (0, 0) (0, 0) = zeros
  split_ifs
  · exact addressText_append hmapped (addressText_displayIpv4 _)
  · refine addressText_append (addressText_append ?_ hzeros) ?_
    · exact addressText_displayHex _
    · exact addressText_displayHex _
  · exact addressText_displayHex _

theorem addressText_displayIp (ip : IpAddr) : AddressText (displayIp ip) := by
  cases ip with
  | v4 ip => exact addressText_displayIpv4 ip
  | v6 ip => exact addressText_displayIpv6 ip

theorem displayIp_ne_empty (ip : IpAddr) : displayIp ip ≠ "" := by
  rw [Ne, ← String.toList_eq_nil_iff]
  cases ip with
  | v4 ip => simp [displayIp, displayIpv4]
  | v6 ip =>
    unfold displayIp displayIpv6
    dsimp only
    generalize longestZeros (segments ip) 0 (0, 0) (0, 0) = zeros
    split_ifs
    · simp [show toString "::ffff:" ≠ "" by decide]
    · simp [show toString "::" ≠ "" by decide]
    · simp [displayHex, segments, List.range_succ]

/-- What the check lets through has neither a scope nor anything that the check is about. -/
theorem isValidGatewayStr_of_addressText {s : String} (h : AddressText s) (hne : s ≠ "") :
    isValidGatewayStr s = true := by
  have hscope : ∀ c ∈ s.toList, (c ≠ '%') = true := by
    intro c hc
    have hchar := List.all_eq_true.1 h c hc
    have hpercent : isAddressChar '%' = false := by decide
    simp only [eq_iff_iff, iff_true]
    rintro rfl
    rw [hpercent] at hchar
    cases hchar
  have haddress : addressPart s = s.toList := List.takeWhile_eq_self_iff.2 (by simpa using hscope)
  have hrest : s.toList.dropWhile (· ≠ '%') = [] := List.dropWhile_eq_nil_iff.2 (by simpa using hscope)
  have hempty : s.isEmpty = false := by simpa [String.isEmpty_iff] using hne
  rw [isValidGatewayStr, hempty, haddress, hrest, h]
  rfl

theorem isValidGatewayStr_displayIp (ip : IpAddr) : isValidGatewayStr (displayIp ip) = true :=
  isValidGatewayStr_of_addressText (addressText_displayIp ip) (displayIp_ne_empty ip)

/-- The characters of a gateway that passes the check. -/
theorem mem_gatewayStr {s : String} (h : isValidGatewayStr s = true) :
    ∀ c ∈ s.toList, isAddressChar c = true ∨ c = '%' ∨ isScopeChar c = true := by
  rw [isValidGatewayStr, Bool.and_eq_true, Bool.and_eq_true] at h
  obtain ⟨⟨-, haddress⟩, hrest⟩ := h
  intro c hc
  rw [← List.takeWhile_append_dropWhile (p := (· ≠ '%')) (l := s.toList), List.mem_append] at hc
  rcases hc with hc | hc
  · exact Or.inl (List.all_eq_true.1 haddress c hc)
  · cases hdrop : s.toList.dropWhile (· ≠ '%') with
    | nil =>
      rw [hdrop] at hc
      cases hc
    | cons percent scope =>
      rw [hdrop] at hc hrest
      rcases List.mem_cons.1 hc with rfl | hc
      · -- the scope starts at the first percent sign
        have hhead := List.head?_dropWhile_not (fun c => decide (c ≠ '%')) s.toList
        rw [hdrop] at hhead
        exact Or.inr (Or.inl (by simpa using hhead))
      · exact Or.inr (Or.inr (List.all_eq_true.1 (Bool.and_eq_true_iff.1 hrest).2 c hc))

/-! ## A host route and its commands -/

/-- `remove_bypass_route_sync`: the command it runs, if it runs one. -/
def removeBypassRouteSync (platform : Platform) (info : BypassRouteInfo) : Option RouteCommand :=
  let peerIp := displayIp info.peerIp
  let bits := if info.peerIp.isIpv6 then 128 else 32
  match platform with
  | .linux =>
    some (.ip ((if info.peerIp.isIpv6 then ["-6"] else []) ++ ["route", "del", s!"{peerIp}/{bits}"] ++
      (match info.gateway with
        | some gw => ["via", displayIp gw]
        | none => []) ++ ["dev", info.device]))
  | .macos =>
    some (.route (["delete"] ++ (if info.peerIp.isIpv6 then ["-inet6"] else []) ++ ["-host", peerIp] ++
      info.gatewayStr.toList))
  | .windows =>
    info.ifIndex.map fun ifIndex =>
      let idx := ifIndex.toNat
      .powershell ("$ErrorActionPreference='Stop'; " ++
        s!"Remove-NetRoute -DestinationPrefix '{peerIp}/{bits}' -InterfaceIndex {idx}" ++
        (match info.gateway with
          | some gw => s!" -NextHop '{displayIp gw}'"
          | none => "") ++
        " -PolicyStore ActiveStore -Confirm:$false -ErrorAction Stop | Out-Null")

/-- `Drop for BypassRouteGuard`. -/
def BypassRouteGuard.drop (platform : Platform) (guard : BypassRouteGuard) : Option RouteCommand :=
  if guard.owned then removeBypassRouteSync platform guard.toBypassRouteInfo else none

/-- A host route in the words of the commands. -/
structure HostRoute where
  peerIp : IpAddr
  gateway : String
  /-- The device on Linux, the index of the interface on Windows; macOS goes by the gateway. -/
  interface : String

namespace HostRoute

variable (r : HostRoute)

def destination : String := s!"{displayIp r.peerIp}/{if r.peerIp.isIpv6 then 128 else 32}"

/-- A script, as its pieces between the quotes. -/
def script (verb options : String) : List String :=
  ["$ErrorActionPreference=", "Stop", s!"; {verb}-NetRoute -DestinationPrefix ", r.destination,
    s!" -InterfaceIndex {r.interface} -NextHop ", r.gateway,
    s!" -PolicyStore ActiveStore {options}-ErrorAction Stop | Out-Null"]

def add : Platform → RouteCommand
  | .linux => .ip ((if r.peerIp.isIpv6 then ["-6"] else []) ++
      ["route", "add", r.destination, "via", r.gateway, "dev", r.interface])
  | .macos => .route (["add"] ++ (if r.peerIp.isIpv6 then ["-inet6"] else []) ++
      ["-host", displayIp r.peerIp, r.gateway])
  | .windows => .powershell ("'".intercalate (r.script "New" ""))

def remove : Platform → RouteCommand
  | .linux => .ip ((if r.peerIp.isIpv6 then ["-6"] else []) ++
      ["route", "del", r.destination, "via", r.gateway, "dev", r.interface])
  | .macos => .route (["delete"] ++ (if r.peerIp.isIpv6 then ["-inet6"] else []) ++
      ["-host", displayIp r.peerIp, r.gateway])
  | .windows => .powershell ("'".intercalate (r.script "Remove" "-Confirm:$false "))

end HostRoute

def BypassRouteInfo.hostRoute (info : BypassRouteInfo) : Platform → Option HostRoute
  | .linux => info.gateway.map fun gw => ⟨info.peerIp, displayIp gw, info.device⟩
  | .macos => info.gatewayStr.map fun gwStr => ⟨info.peerIp, gwStr, info.device⟩
  | .windows =>
    info.gateway.bind fun gw => info.ifIndex.map fun ifIndex =>
      ⟨info.peerIp, displayIp gw, toString ifIndex.toNat⟩

theorem HostRoute.intercalate_script (r : HostRoute) (verb options : String) :
    "'".intercalate (r.script verb options) =
      "$ErrorActionPreference='Stop'; " ++ verb ++ "-NetRoute -DestinationPrefix '" ++ r.destination ++
        "' -InterfaceIndex " ++ r.interface ++ " -NextHop '" ++ r.gateway ++ "' -PolicyStore ActiveStore " ++
        options ++ "-ErrorAction Stop | Out-Null" := by
  apply String.toList_injective
  simp [HostRoute.script, toString]

/-- A command is run exactly if the route has a name, and it is the one that adds it.  The other
one removes it. -/
theorem bypassCommand_eq (platform : Platform) (info : BypassRouteInfo) :
    match info.hostRoute platform with
    | some r => bypassCommand platform info = .ok (r.add platform) ∧
        removeBypassRouteSync platform info = some (r.remove platform)
    | none => ∃ e, bypassCommand platform info = .error e := by
  cases platform with
  | linux =>
    cases hgw : info.gateway with
    | none => simp [bypassCommand, BypassRouteInfo.hostRoute, hgw]
    | some gw =>
      simp [bypassCommand, removeBypassRouteSync, BypassRouteInfo.hostRoute, HostRoute.add, HostRoute.remove,
        HostRoute.destination, hgw]
  | macos =>
    cases hgw : info.gatewayStr with
    | none => simp [bypassCommand, BypassRouteInfo.hostRoute, hgw]
    | some gw =>
      simp [bypassCommand, removeBypassRouteSync, BypassRouteInfo.hostRoute, HostRoute.add, HostRoute.remove, hgw]
  | windows =>
    cases hgw : info.gateway with
    | none => simp [bypassCommand, BypassRouteInfo.hostRoute, hgw]
    | some gw =>
      cases hidx : info.ifIndex with
      | none => simp [bypassCommand, BypassRouteInfo.hostRoute, hgw, hidx]
      | some ifIndex =>
        simp only [bypassCommand, removeBypassRouteSync, BypassRouteInfo.hostRoute, HostRoute.add, HostRoute.remove,
          HostRoute.intercalate_script, HostRoute.destination, hgw, hidx, Option.bind_some, Option.map_some]
        refine ⟨congrArg _ (congrArg _ (String.toList_injective ?_)),
          congrArg _ (congrArg _ (String.toList_injective ?_))⟩
        · simp [toString]
        · simp [toString]

/-! ## What a lookup puts into the commands -/

theorem finish_ok {address : String → Option IpAddr} {seen : List (RouteField × String)} {what : String}
    {peerIp : IpAddr} {hop : NextHop} (h : (lastSeen address seen).finish what peerIp = .ok hop) :
    (.device, hop.device) ∈ seen ∧ hop.gatewayStr = (gatewaysSeen seen).getLast? ∧
      hop.gateway = hop.gatewayStr.bind address := by
  unfold RouteFields.finish at h
  split at h
  · cases h
  · next device hdevice =>
    obtain rfl := Except.ok.inj h
    exact ⟨mem_devicesSeen (List.mem_of_getLast? hdevice), rfl, rfl⟩

theorem read_of_finish {platform : Platform} {address : String → Option IpAddr} {seen : List (RouteField × String)}
    {what : String} {peerIp : IpAddr} {hop : NextHop} (hplatform : platform ≠ .windows)
    (hword : platform = .linux → ∀ entry ∈ seen, IsWord entry.2)
    (h : (lastSeen address seen).finish what peerIp = .ok hop) : hop.Read platform := by
  obtain ⟨hdevice, hgwStr, hgw⟩ := finish_ok h
  refine ⟨fun gwStr hgwStr' => ?_, fun hsome => ?_, fun hlinux => hword hlinux _ hdevice,
    fun hwindows => absurd hwindows hplatform⟩
  · exact valid_of_mem_gatewaysSeen (List.mem_of_getLast? (hgwStr.symm.trans hgwStr'))
  · cases hnone : hop.gatewayStr with
    | none =>
      rw [hgw, hnone] at hsome
      cases hsome
    | some gwStr => rfl

theorem parseRoute_read {parseIp : String → Option IpAddr} {debug : String → String} {platform : Platform}
    {stdout : String} {peerIp : IpAddr} {hop : NextHop}
    (h : parseRoute parseIp debug platform stdout peerIp = .ok hop) : hop.Read platform := by
  cases platform with
  | linux =>
    refine read_of_finish nofun (fun _ entry hentry => ?_) ((parseLinuxRouteGet_eq ..).symm.trans h)
    exact isWord_of_mem (mem_of_mem_linuxSeen hentry)
  | macos => exact read_of_finish nofun nofun ((parseMacosRouteGet_eq ..).symm.trans h)
  | windows =>
    unfold parseRoute parseWindowsRouteLine at h
    dsimp only at h
    split at h
    · cases h
    · split at h
      · cases h
      · obtain rfl := Except.ok.inj h
        refine ⟨fun gwStr hgwStr => ?_, by simp, by simp, by simp⟩
        obtain ⟨ip, -, rfl⟩ := Option.map_eq_some_iff.1 hgwStr
        exact isValidGatewayStr_displayIp ip

/-- The route's words stay what they are in the commands that name it. -/
structure HostRoute.Safe (platform : Platform) (r : HostRoute) : Prop where
  gateway : isValidGatewayStr r.gateway = true
  /-- It cannot be taken for an option. -/
  gateway_start : r.gateway.toList.head? ≠ some '-'
  interface : platform = .linux → IsWord r.interface
  index : platform = .windows → ∀ c ∈ r.interface.toList, c.isDigit = true
  /-- A script has three strings in quotes, which are closed, and these are they. -/
  quoted : platform = .windows → ∀ script, r.add platform = .powershell script ∨ r.remove platform = .powershell script →
    Lib.quoted '\'' script.toList = some ["Stop".toList, r.destination.toList, r.gateway.toList]

theorem quote_notMem_of_valid {s : String} (h : isValidGatewayStr s = true) : '\'' ∉ s.toList := by
  intro hmem
  have hquote := mem_gatewayStr h _ hmem
  revert hquote
  decide

theorem quote_notMem_of_isDigit {s : String} (h : ∀ c ∈ s.toList, c.isDigit = true) : '\'' ∉ s.toList :=
  fun hmem => absurd (h _ hmem) (by decide)

theorem gateway_head_of_valid {s : String} (h : isValidGatewayStr s = true) : s.toList.head? ≠ some '-' := by
  rw [isValidGatewayStr, Bool.and_eq_true, Bool.and_eq_true] at h
  obtain ⟨⟨-, haddress⟩, -⟩ := h
  intro hhead
  -- a scope is not at the start, so the character is one of an address
  have hmem : '-' ∈ addressPart s := by
    obtain ⟨rest, hrest⟩ := List.head?_eq_some_iff.1 hhead
    simp [addressPart, hrest]
  exact absurd (List.all_eq_true.1 haddress _ hmem) (by decide)

theorem HostRoute.quote_notMem_destination (r : HostRoute) : '\'' ∉ r.destination.toList := by
  have hip := quote_notMem_of_valid (isValidGatewayStr_displayIp r.peerIp)
  unfold HostRoute.destination
  split <;> simp [toString, hip] <;> decide

theorem HostRoute.quoted_script {r : HostRoute} {verb options : String} (hverb : '\'' ∉ verb.toList)
    (hoptions : '\'' ∉ options.toList) (hgateway : isValidGatewayStr r.gateway = true)
    (hindex : ∀ c ∈ r.interface.toList, c.isDigit = true) :
    quoted '\'' ("'".intercalate (r.script verb options)).toList =
      some ["Stop".toList, r.destination.toList, r.gateway.toList] := by
  have hquote : "'".toList = ['\''] := rfl
  rw [String.toList_intercalate, hquote, quoted_intercalate]
  · rfl
  · have hdestination := r.quote_notMem_destination
    have hgw := quote_notMem_of_valid hgateway
    have hidx := quote_notMem_of_isDigit hindex
    simp [HostRoute.script, toString, hverb, hoptions, hdestination, hgw, hidx]
  · simp [HostRoute.script]

theorem HostRoute.safe_windows {r : HostRoute} (hgateway : isValidGatewayStr r.gateway = true)
    (hindex : ∀ c ∈ r.interface.toList, c.isDigit = true) : r.Safe .windows where
  gateway := hgateway
  gateway_start := gateway_head_of_valid hgateway
  interface := nofun
  index := fun _ => hindex
  quoted := by
    rintro - script (h | h)
    · exact RouteCommand.powershell.inj h ▸ quoted_script (by decide) (by decide) hgateway hindex
    · exact RouteCommand.powershell.inj h ▸ quoted_script (by decide) (by decide) hgateway hindex

theorem HostRoute.safe_of_ne_windows {platform : Platform} {r : HostRoute} (hplatform : platform ≠ .windows)
    (hgateway : isValidGatewayStr r.gateway = true) (hword : platform = .linux → IsWord r.interface) :
    r.Safe platform where
  gateway := hgateway
  gateway_start := gateway_head_of_valid hgateway
  interface := hword
  index := fun h => absurd h hplatform
  quoted := fun h => absurd h hplatform

/-- A route with a gateway always has a name: once a next hop was resolved, the command is not
refused. -/
theorem hostRoute_of_read {platform : Platform} {info : BypassRouteInfo} (h : info.toNextHop.Read platform)
    (hgw : info.gateway.isSome = true) :
    ∃ r, info.hostRoute platform = some r ∧ r.peerIp = info.peerIp ∧ r.Safe platform := by
  obtain ⟨gw, hgw⟩ := Option.isSome_iff_exists.1 hgw
  cases platform with
  | linux =>
    refine ⟨⟨info.peerIp, displayIp gw, info.device⟩, by simp [BypassRouteInfo.hostRoute, hgw], rfl, ?_⟩
    exact HostRoute.safe_of_ne_windows nofun (isValidGatewayStr_displayIp gw) h.device
  | macos =>
    obtain ⟨gwStr, hgwStr⟩ := Option.isSome_iff_exists.1 (h.kept (hgw ▸ rfl))
    refine ⟨⟨info.peerIp, gwStr, info.device⟩, by simp [BypassRouteInfo.hostRoute, hgwStr], rfl, ?_⟩
    exact HostRoute.safe_of_ne_windows nofun (h.valid gwStr hgwStr) nofun
  | windows =>
    obtain ⟨ifIndex, hidx⟩ := Option.isSome_iff_exists.1 (h.ifIndex rfl)
    refine ⟨⟨info.peerIp, displayIp gw, toString ifIndex.toNat⟩,
      by simp [BypassRouteInfo.hostRoute, hgw, hidx], rfl, ?_⟩
    refine HostRoute.safe_windows (isValidGatewayStr_displayIp gw) fun c hc => ?_
    rw [Nat.toString_eq_ofList_toDigits, String.toList_ofList] at hc
    exact Nat.isDigit_of_mem_toDigits (by decide) (by decide) hc

end EzVpn
