import EzVpn.Lib.Text
import EzVpn.Net.Bypass

/-!
# Route lookups

`query_route_for_ip` and `query_default_gateway` (src/net/device.rs): the system is asked for a
route by a command, and what the command prints is searched for the device and the gateway.  The
texts are arbitrary here; how addresses are read from a text and how a text is shown in an error
are parameters.

Both loops over what is printed keep the last device and the last well-formed gateway that were
seen (`linuxTokens_eq`, `macosLines_eq`), and the address of the gateway is that of the text kept
for it.  `Prints` says what the system's tools print, and `parseRoute_prints` that it is read back.
-/

namespace EzVpn

open Lib

/-- `char::is_whitespace`. -/
def isWhitespace (c : Char) : Bool :=
  let n := c.toNat
  (9 ≤ n && n ≤ 13) || n = 0x20 || n = 0x85 || n = 0xa0 || n = 0x1680 || (0x2000 ≤ n && n ≤ 0x200a) ||
    n = 0x2028 || n = 0x2029 || n = 0x202f || n = 0x205f || n = 0x3000

def splitWhitespace (s : String) : List String := (words isWhitespace s.toList).map String.ofList

/-- `str::trim`. -/
def trimText (s : String) : String := String.ofList (trim isWhitespace s.toList)

/-- `str::lines`: the line feeds and a carriage return before them are not part of the lines, and
no line starts behind the last line feed. -/
def textLines (s : String) : List String :=
  let pieces := s.toList.splitOn '\n'
  let ended := pieces.dropLast.map fun l => if l.getLast? = some '\r' then l.dropLast else l
  (ended ++ pieces.getLast?.toList.filter fun l => !l.isEmpty).map String.ofList

def stripText (front s : String) : Option String := (stripFront front.toList s.toList).map String.ofList

def unspecifiedAddr (isIpv6 : Bool) : IpAddr := if isIpv6 then .v6 0#128 else .v4 0#32

/-! ## The gateway as printed -/

def isHexDigit (c : Char) : Bool := c.isDigit || ('a' ≤ c && c ≤ 'f') || ('A' ≤ c && c ≤ 'F')

def isAddressChar (c : Char) : Bool := isHexDigit c || c = ':' || c = '.'

def isScopeChar (c : Char) : Bool := c.isAlphanum || c = '_' || c = '-'

/-- The part before the first `%`. -/
def addressPart (s : String) : List Char := s.toList.takeWhile (· ≠ '%')

def isValidGatewayStr (s : String) : Bool :=
  !s.isEmpty && (addressPart s).all isAddressChar &&
    match s.toList.dropWhile (· ≠ '%') with
    | [] => true
    | _ :: scope => !scope.isEmpty && scope.all isScopeChar

/-- The variables of the loops. -/
structure RouteFields where
  device : Option String
  gateway : Option IpAddr
  gatewayStr : Option String

namespace RouteFields

def start : RouteFields := ⟨none, none, none⟩

def sawDevice (device : String) (f : RouteFields) : RouteFields := { f with device := some device }

/-- A malformed gateway is ignored. -/
def sawGateway (address : String → Option IpAddr) (gwStr : String) (f : RouteFields) : RouteFields :=
  if isValidGatewayStr gwStr then { f with gatewayStr := some gwStr, gateway := address gwStr } else f

def finish (f : RouteFields) (what : String) (peerIp : IpAddr) : Except VpnError NextHop :=
  match f.device with
  | none => .error (.tunDevice s!"Could not determine {what} for route to {displayIp peerIp}")
  | some device => .ok ⟨device, f.gateway, f.gatewayStr, none⟩

end RouteFields

section
variable (parseIp : String → Option IpAddr)

/-! ## Linux -/

def linuxTokens : List String → RouteFields → RouteFields
  | token :: next :: rest, f =>
    let f := if token = "dev" then f.sawDevice next else f
    let f := if token = "via" then f.sawGateway parseIp next else f
    linuxTokens (next :: rest) f
  -- nothing follows the last token
  | _, f => f

def parseLinuxRouteGet (output : String) (peerIp : IpAddr) : Except VpnError NextHop :=
  (linuxTokens parseIp (splitWhitespace output) .start).finish "device" peerIp

/-! ## macOS -/

/-- The address of a gateway without its scope. -/
def scopelessIp (gwStr : String) : Option IpAddr := parseIp (String.ofList (addressPart gwStr))

def macosLine (f : RouteFields) (line : String) : RouteFields :=
  let line := trimText line
  let f := match stripText "interface:" line with
    | some rest => f.sawDevice (trimText rest)
    | none => f
  match stripText "gateway:" line with
  | some rest => f.sawGateway (scopelessIp parseIp) (trimText rest)
  | none => f

def parseMacosRouteGet (output : String) (peerIp : IpAddr) : Except VpnError NextHop :=
  ((textLines output).foldl (macosLine parseIp) .start).finish "interface" peerIp

/-! ## Windows -/

/-- An on-link route has the unspecified address as its next hop. -/
def parseWindowsNextHop (s : String) : Option IpAddr :=
  (parseIp s).filter fun ip => ip ≠ unspecifiedAddr ip.isIpv6

/-- `str::parse::<u32>`. -/
def parseU32 (s : String) : Option UInt32 :=
  let digits : List Char := match s.toList with
    | '+' :: rest => rest
    | cs => cs
  let n := Nat.ofDigitChars 10 digits 0
  if digits ≠ [] ∧ digits.all Char.isDigit ∧ n < 2 ^ 32 then some (UInt32.ofNat n) else none

/-- `splitn(3, '\t')`: what is behind the second tab is one field. -/
def tabFields (line : String) : String × String × String :=
  let pieces := line.toList.splitOn '\t'
  let field := fun cs => trimText (String.ofList cs)
  (field (pieces.getD 0 []), field (pieces.getD 1 []), field (['\t'].intercalate (pieces.drop 2)))

/-- `parse_windows_route_line`, with `debug` for the form of a text in the error. -/
def parseWindowsRouteLine (debug : String → String) (stdout : String) : Except VpnError NextHop :=
  match ((textLines stdout).map trimText).find? fun l => !l.isEmpty with
  | none => .error (.tunDevice "PowerShell route query returned no output")
  | some line =>
    let (idxStr, nextHopStr, ifAlias) := tabFields line
    match parseU32 idxStr with
    | none => .error (.tunDevice s!"Unexpected interface index in route query output: {debug idxStr}")
    | some ifIndex =>
      let nextHop := parseWindowsNextHop parseIp nextHopStr
      .ok ⟨ifAlias, nextHop, nextHop.map displayIp, some ifIndex⟩

/-! ## The queries -/

/-- `std::process::Output`, with the texts decoded. -/
structure CommandOutput where
  success : Bool
  stdout : String
  stderr : String

namespace CommandOutput

variable (out : CommandOutput)

/-- PowerShell may print its errors on either stream. -/
def detail (platform : Platform) : String :=
  match platform with
  | .windows => if (trimText out.stderr).isEmpty then trimText out.stdout else trimText out.stderr
  | _ => trimText out.stderr

end CommandOutput

/-- The text of a command that succeeded; `query` starts the errors of the others, of which `none`
could not be run. -/
def querySucceeded (platform : Platform) (query subject : String) (out : Option CommandOutput) :
    Except VpnError String :=
  match out with
  | none =>
    .error (.tunDevice (match platform with
      | .windows => "Failed to execute PowerShell"
      | _ => query))
  | some out =>
    if out.success then .ok out.stdout
    else .error (.tunDevice s!"{query}{subject}: {out.detail platform}")

variable (debug : String → String)

def parseRoute (platform : Platform) (stdout : String) (peerIp : IpAddr) : Except VpnError NextHop :=
  match platform with
  | .linux => parseLinuxRouteGet parseIp stdout peerIp
  | .macos => parseMacosRouteGet parseIp stdout peerIp
  | .windows => parseWindowsRouteLine parseIp debug stdout

def queryRouteForIp (platform : Platform) (ip : IpAddr) (out : Option CommandOutput) : Except VpnError NextHop := do
  let stdout ← querySucceeded platform "Failed to query route" s!" for {displayIp ip}" out
  parseRoute parseIp debug platform stdout ip

/-- On Linux the first line that is not blank is enough. -/
def queryDefaultGateway (platform : Platform) (isIpv6 : Bool) (out : Option CommandOutput) :
    Except VpnError UnderlayGateway := do
  let stdout ← querySucceeded platform "Failed to query default route" "" out
  let text := match platform with
    | .linux => ((textLines stdout).find? fun l => !(trimText l).isEmpty).getD ""
    | _ => stdout
  parseRoute parseIp debug platform text (unspecifiedAddr isIpv6)

def captureUnderlayGateway (platform : Platform) (isIpv6 : Bool) (out : Option CommandOutput) :
    Option UnderlayGateway :=
  (queryDefaultGateway parseIp debug platform isIpv6 out).toOption

/-! ## What the loops keep -/

inductive RouteField
  | device
  | gateway

namespace RouteFields

/-- The fields with this device and this text of the gateway. -/
def of (address : String → Option IpAddr) (device gatewayStr : Option String) : RouteFields :=
  ⟨device, gatewayStr.bind address, gatewayStr⟩

def saw (address : String → Option IpAddr) (f : RouteFields) : RouteField × String → RouteFields
  | (.device, value) => f.sawDevice value
  | (.gateway, value) => f.sawGateway address value

end RouteFields

def devicesSeen (seen : List (RouteField × String)) : List String :=
  seen.filterMap fun
    | (.device, value) => some value
    | (.gateway, _) => none

/-- Without those that are ignored. -/
def gatewaysSeen (seen : List (RouteField × String)) : List String :=
  seen.filterMap fun
    | (.gateway, value) => if isValidGatewayStr value then some value else none
    | (.device, _) => none

/-- The last of each. -/
theorem foldl_saw (address : String → Option IpAddr) (seen : List (RouteField × String))
    (device gatewayStr : Option String) :
    seen.foldl (RouteFields.saw address) (.of address device gatewayStr) =
      .of address ((devicesSeen seen).getLast?.or device) ((gatewaysSeen seen).getLast?.or gatewayStr) := by
  induction seen generalizing device gatewayStr with
  | nil => rfl
  | cons entry seen ih =>
    obtain ⟨field, value⟩ := entry
    rw [List.foldl_cons]
    cases field with
    | device =>
      have hsaw : RouteFields.saw address (.of address device gatewayStr) (.device, value) =
          .of address (some value) gatewayStr := rfl
      rw [hsaw, ih]
      simp [devicesSeen, gatewaysSeen, List.getLast?_cons, Option.or_some]
    | gateway =>
      by_cases hvalid : isValidGatewayStr value = true
      · have hsaw : RouteFields.saw address (.of address device gatewayStr) (.gateway, value) =
            .of address device (some value) := by
          simp [RouteFields.saw, RouteFields.sawGateway, RouteFields.of, hvalid]
        rw [hsaw, ih]
        simp [devicesSeen, gatewaysSeen, List.getLast?_cons, Option.or_some, hvalid]
      · have hsaw : RouteFields.saw address (.of address device gatewayStr) (.gateway, value) =
            .of address device gatewayStr := by
          simp [RouteFields.saw, RouteFields.sawGateway, hvalid]
        rw [hsaw, ih]
        simp [devicesSeen, gatewaysSeen, hvalid]

def linuxSeen : List String → List (RouteField × String)
  | token :: next :: rest =>
    (if token = "dev" then [(.device, next)] else []) ++ (if token = "via" then [(.gateway, next)] else []) ++
      linuxSeen (next :: rest)
  | _ => []

def macosSeen (line : String) : List (RouteField × String) :=
  ((stripText "interface:" (trimText line)).map fun rest => (.device, trimText rest)).toList ++
    ((stripText "gateway:" (trimText line)).map fun rest => (.gateway, trimText rest)).toList

theorem linuxTokens_eq (tokens : List String) (f : RouteFields) :
    linuxTokens parseIp tokens f = (linuxSeen tokens).foldl (.saw parseIp) f := by
  fun_induction linuxTokens parseIp tokens f with
  | case1 f token next rest f₁ f₂ ih =>
    rw [ih, linuxSeen, List.foldl_append, List.foldl_append]
    congr 1
    unfold f₂ f₁
    split <;> split <;> rfl
  | case2 tokens f hshort =>
    have hnone : linuxSeen tokens = [] := by
      match tokens, hshort with
      | [], _ | [_], _ => rfl
      | token :: next :: rest, h => exact (h token next rest rfl).elim
    rw [hnone, List.foldl_nil]

theorem macosLine_eq (f : RouteFields) (line : String) :
    macosLine parseIp f line = (macosSeen line).foldl (.saw (scopelessIp parseIp)) f := by
  unfold macosLine macosSeen
  dsimp only
  generalize stripText "interface:" (trimText line) = interface
  generalize stripText "gateway:" (trimText line) = gateway
  cases interface <;> cases gateway <;> simp [RouteFields.saw]

theorem macosLines_eq (lines : List String) (f : RouteFields) :
    lines.foldl (macosLine parseIp) f = (lines.flatMap macosSeen).foldl (.saw (scopelessIp parseIp)) f := by
  have hline : macosLine parseIp = fun f line => (macosSeen line).foldl (.saw (scopelessIp parseIp)) f :=
    funext fun f => funext fun line => macosLine_eq parseIp f line
  rw [List.foldl_flatMap, hline]

theorem start_eq_of (address : String → Option IpAddr) : RouteFields.start = .of address none none := rfl

/-- Of all the fields that were seen, the last ones. -/
def lastSeen (address : String → Option IpAddr) (seen : List (RouteField × String)) : RouteFields :=
  .of address (devicesSeen seen).getLast? (gatewaysSeen seen).getLast?

theorem parseLinuxRouteGet_eq (output : String) (peerIp : IpAddr) :
    parseLinuxRouteGet parseIp output peerIp =
      (lastSeen parseIp (linuxSeen (splitWhitespace output))).finish "device" peerIp := by
  rw [parseLinuxRouteGet, linuxTokens_eq, start_eq_of parseIp, foldl_saw, Option.or_none, Option.or_none]
  rfl

theorem parseMacosRouteGet_eq (output : String) (peerIp : IpAddr) :
    parseMacosRouteGet parseIp output peerIp =
      (lastSeen (scopelessIp parseIp) ((textLines output).flatMap macosSeen)).finish "interface" peerIp := by
  rw [parseMacosRouteGet, macosLines_eq, start_eq_of (scopelessIp parseIp), foldl_saw, Option.or_none,
    Option.or_none]
  rfl

/-! ## What is known of every answer -/

theorem mem_devicesSeen {seen : List (RouteField × String)} {value : String} (h : value ∈ devicesSeen seen) :
    (.device, value) ∈ seen := by
  obtain ⟨⟨field, v⟩, hmem, hv⟩ := List.mem_filterMap.1 h
  cases field with
  | device => exact Option.some.inj hv ▸ hmem
  | gateway => cases hv

theorem valid_of_mem_gatewaysSeen {seen : List (RouteField × String)} {value : String}
    (h : value ∈ gatewaysSeen seen) : isValidGatewayStr value = true := by
  obtain ⟨⟨field, v⟩, -, hv⟩ := List.mem_filterMap.1 h
  cases field with
  | device => cases hv
  | gateway =>
    dsimp only at hv
    split at hv
    · next hvalid => exact Option.some.inj hv ▸ hvalid
    · cases hv

theorem mem_of_mem_linuxSeen {tokens : List String} {entry : RouteField × String}
    (h : entry ∈ linuxSeen tokens) : entry.2 ∈ tokens := by
  fun_induction linuxSeen tokens with
  | case1 token next rest ih =>
    simp only [List.mem_append] at h
    rcases h with (h | h) | h
    · split at h
      · exact List.mem_singleton.1 h ▸ List.mem_cons_of_mem _ List.mem_cons_self
      · cases h
    · split at h
      · exact List.mem_singleton.1 h ▸ List.mem_cons_of_mem _ List.mem_cons_self
      · cases h
    · exact List.mem_cons_of_mem _ (ih h)
  | case2 => cases h

/-- One word of a text. -/
def IsWord (s : String) : Prop := s ≠ "" ∧ ∀ c ∈ s.toList, isWhitespace c = false

theorem isWord_of_mem {s text : String} (h : s ∈ splitWhitespace text) : IsWord s := by
  obtain ⟨w, hw, rfl⟩ := List.mem_map.1 h
  obtain ⟨hne, hchars⟩ := mem_words hw
  refine ⟨?_, by rwa [String.toList_ofList]⟩
  rwa [Ne, ← String.toList_eq_nil_iff, String.toList_ofList]

/-- What is known of a next hop that was read from a text, whatever the text. -/
structure NextHop.Read (platform : Platform) (hop : NextHop) : Prop where
  /-- The gateway passed the check. -/
  valid : ∀ gwStr, hop.gatewayStr = some gwStr → isValidGatewayStr gwStr = true
  /-- An address is that of a text that was kept. -/
  kept : hop.gateway.isSome = true → hop.gatewayStr.isSome = true
  device : platform = .linux → IsWord hop.device
  ifIndex : platform = .windows → hop.ifIndex.isSome = true

/-! ## What the tools print -/

/-- The text is a lookup's answer with this next hop, in the form of the platform's tool.  Around the
two fields stand other words or lines, but on Linux no further `via` or `dev`, on macOS no further
`gateway:` or `interface:` line, and on Windows nothing but blank lines before. -/
inductive Prints : Platform → NextHop → String → Prop
  /-- `203.0.113.9 via 192.168.1.1 dev eth0 src 192.168.1.50 uid 0` -/
  | linux {text gwStr device : String} {gw : IpAddr} (before between after : List String)
      (htext : splitWhitespace text = before ++ "via" :: gwStr :: between ++ "dev" :: device :: after)
      (hother : ∀ word ∈ before ++ gwStr :: between ++ device :: after, word ≠ "dev" ∧ word ≠ "via")
      (hvalid : isValidGatewayStr gwStr = true) (hgw : parseIp gwStr = some gw) :
      Prints .linux ⟨device, some gw, some gwStr, none⟩ text
  /-- A line `gateway: fe80::1%en0` and a line `interface: en0`. -/
  | macos {text gwStr device gwLine ifLine : String} {gw : IpAddr} (before between after : List String)
      (htext : textLines text = before ++ gwLine :: between ++ ifLine :: after)
      (hgwLine : trimText gwLine = "gateway: " ++ gwStr) (hifLine : trimText ifLine = "interface: " ++ device)
      (hwords : IsWord gwStr ∧ IsWord device)
      (hother : ∀ line ∈ before ++ between ++ after,
        stripText "interface:" (trimText line) = none ∧ stripText "gateway:" (trimText line) = none)
      (hvalid : isValidGatewayStr gwStr = true) (hgw : scopelessIp parseIp gwStr = some gw) :
      Prints .macos ⟨device, some gw, some gwStr, none⟩ text
  /-- The index, the next hop and the alias, with tabs between them. -/
  | windows {text gwStr ifAlias line : String} {gw : IpAddr} {ifIndex : UInt32} (before after : List String)
      (htext : textLines text = before ++ line :: after) (hblank : ∀ l ∈ before, trimText l = "")
      (hline : trimText line = toString ifIndex.toNat ++ "\t" ++ gwStr ++ "\t" ++ ifAlias)
      (hword : IsWord gwStr) (halias : trimText ifAlias = ifAlias)
      (hgw : parseIp gwStr = some gw) (hspecified : gw ≠ unspecifiedAddr gw.isIpv6) :
      Prints .windows ⟨ifAlias, some gw, some (displayIp gw), some ifIndex⟩ text

theorem linuxSeen_append_plain {before rest : List String} (h : ∀ word ∈ before, word ≠ "dev" ∧ word ≠ "via") :
    linuxSeen (before ++ rest) = linuxSeen rest := by
  induction before with
  | nil => rfl
  | cons word before ih =>
    obtain ⟨hword, hbefore⟩ := List.forall_mem_cons.1 h
    rw [← ih hbefore]
    cases hmore : before ++ rest with
    | nil => simp [hmore, linuxSeen]
    | cons next more => simp [hmore, linuxSeen, hword]

theorem parseLinuxRouteGet_prints {text gwStr device : String} {gw : IpAddr} {before between after : List String}
    (htext : splitWhitespace text = before ++ "via" :: gwStr :: between ++ "dev" :: device :: after)
    (hother : ∀ word ∈ before ++ gwStr :: between ++ device :: after, word ≠ "dev" ∧ word ≠ "via")
    (hvalid : isValidGatewayStr gwStr = true) (hgw : parseIp gwStr = some gw) (peerIp : IpAddr) :
    parseLinuxRouteGet parseIp text peerIp = .ok ⟨device, some gw, some gwStr, none⟩ := by
  obtain ⟨hhead, hafter⟩ := List.forall_mem_append.1 hother
  obtain ⟨hbefore, hbetween⟩ := List.forall_mem_append.1 hhead
  have hrest : linuxSeen (device :: after) = [] := by
    rw [← List.append_nil (device :: after), linuxSeen_append_plain hafter]
    rfl
  have hseen : linuxSeen (splitWhitespace text) = [(.gateway, gwStr), (.device, device)] := by
    calc linuxSeen (splitWhitespace text)
      _ = linuxSeen ("via" :: gwStr :: (between ++ "dev" :: device :: after)) := by
        rw [htext, List.append_assoc, linuxSeen_append_plain hbefore]
        rfl
      _ = (.gateway, gwStr) :: linuxSeen ((gwStr :: between) ++ "dev" :: device :: after) := by
        simp [linuxSeen]
      _ = (.gateway, gwStr) :: linuxSeen ("dev" :: device :: after) := by
        rw [linuxSeen_append_plain hbetween]
      _ = [(.gateway, gwStr), (.device, device)] := by
        simp [linuxSeen, hrest]
  rw [parseLinuxRouteGet_eq, hseen]
  simp [lastSeen, devicesSeen, gatewaysSeen, RouteFields.of, RouteFields.finish, hvalid, hgw]

theorem stripText_append (front s : String) : stripText front (front ++ s) = some s := by
  simp [stripText, stripFront]

theorem isWhitespace_space : isWhitespace ' ' = true := by decide

theorem trimText_word {s : String} (h : ∀ c ∈ s.toList, isWhitespace c = false) : trimText s = s := by
  rw [trimText, trim_eq_self h, String.ofList_toList]

theorem trimText_space {s : String} (h : ∀ c ∈ s.toList, isWhitespace c = false) : trimText (" " ++ s) = s := by
  have hlist : (" " ++ s).toList = ' ' :: s.toList := by simp
  rw [trimText, trim, hlist, List.dropWhile_cons, if_pos isWhitespace_space]
  exact trimText_word h

theorem stripText_key (key : String) (field : RouteField) {value : String} (hvalue : IsWord value) :
    (stripText key (key ++ " " ++ value)).map (fun rest => (field, trimText rest)) = some (field, value) := by
  rw [String.append_assoc, stripText_append, Option.map_some, trimText_space hvalue.2]

theorem macosSeen_gateway {line gwStr : String} (hline : trimText line = "gateway: " ++ gwStr)
    (hword : IsWord gwStr) : macosSeen line = [(.gateway, gwStr)] := by
  have hother : stripText "interface:" ("gateway: " ++ gwStr) = none := by simp [stripText, stripFront]
  have hkey := stripText_key "gateway:" .gateway hword
  rw [macosSeen, hline, hother]
  exact congrArg Option.toList hkey

theorem macosSeen_interface {line device : String} (hline : trimText line = "interface: " ++ device)
    (hword : IsWord device) : macosSeen line = [(.device, device)] := by
  have hother : stripText "gateway:" ("interface: " ++ device) = none := by simp [stripText, stripFront]
  have hkey := stripText_key "interface:" .device hword
  rw [macosSeen, hline, hother, Option.map_none, Option.toList_none, List.append_nil]
  exact congrArg Option.toList hkey

theorem parseMacosRouteGet_prints {text gwStr device gwLine ifLine : String} {gw : IpAddr}
    {before between after : List String} (htext : textLines text = before ++ gwLine :: between ++ ifLine :: after)
    (hgwLine : trimText gwLine = "gateway: " ++ gwStr) (hifLine : trimText ifLine = "interface: " ++ device)
    (hwords : IsWord gwStr ∧ IsWord device)
    (hother : ∀ line ∈ before ++ between ++ after,
      stripText "interface:" (trimText line) = none ∧ stripText "gateway:" (trimText line) = none)
    (hvalid : isValidGatewayStr gwStr = true) (hgw : scopelessIp parseIp gwStr = some gw) (peerIp : IpAddr) :
    parseMacosRouteGet parseIp text peerIp = .ok ⟨device, some gw, some gwStr, none⟩ := by
  have hplain : ∀ line ∈ before ++ between ++ after, macosSeen line = [] := by
    intro line hline
    obtain ⟨hinterface, hgateway⟩ := hother line hline
    simp [macosSeen, hinterface, hgateway]
  obtain ⟨hhead, hafter⟩ := List.forall_mem_append.1 hplain
  obtain ⟨hbefore, hbetween⟩ := List.forall_mem_append.1 hhead
  have hseen : (textLines text).flatMap macosSeen = [(.gateway, gwStr), (.device, device)] := by
    rw [htext]
    simp only [List.flatMap_append, List.flatMap_cons, List.flatMap_eq_nil_iff.2 hbefore,
      List.flatMap_eq_nil_iff.2 hbetween, List.flatMap_eq_nil_iff.2 hafter, macosSeen_gateway hgwLine hwords.1,
      macosSeen_interface hifLine hwords.2]
    rfl
  rw [parseMacosRouteGet_eq, hseen]
  simp [lastSeen, devicesSeen, gatewaysSeen, RouteFields.of, RouteFields.finish, hvalid, hgw]

theorem isWhitespace_of_isDigit {c : Char} (h : c.isDigit = true) : isWhitespace c = false := by
  simp only [Char.isDigit, Bool.and_eq_true, decide_eq_true_eq, ge_iff_le, UInt32.le_iff_toNat_le] at h
  have hlow : 48 ≤ c.toNat := h.1
  have hhigh : c.toNat ≤ 57 := h.2
  simp only [isWhitespace]
  simp
  omega

theorem toList_toString (n : Nat) : (toString n).toList = Nat.toDigits 10 n := by
  rw [Nat.toString_eq_ofList_toDigits, String.toList_ofList]

theorem isDigit_of_mem_toString {n : Nat} {c : Char} (h : c ∈ (toString n).toList) : c.isDigit = true := by
  rw [toList_toString] at h
  exact Nat.isDigit_of_mem_toDigits (by decide) (by decide) h

theorem parseU32_toString (n : UInt32) : parseU32 (toString n.toNat) = some n := by
  have hdigits : ∀ c ∈ Nat.toDigits 10 n.toNat, c.isDigit = true :=
    fun c hc => Nat.isDigit_of_mem_toDigits (by decide) (by decide) hc
  unfold parseU32
  rw [toList_toString]
  split
  · next rest hplus =>
    -- no number starts with a sign
    exact absurd (hdigits '+' (hplus ▸ List.mem_cons_self)) (by decide)
  · dsimp only
    rw [Nat.ofDigitChars_ten_toDigits, if_pos ⟨Nat.toDigits_ne_nil, List.all_eq_true.2 hdigits, n.toNat_lt⟩]
    simp

theorem tabFields_eq {n : Nat} {gwStr ifAlias : String} (hword : IsWord gwStr) (halias : trimText ifAlias = ifAlias) :
    tabFields (toString n ++ "\t" ++ gwStr ++ "\t" ++ ifAlias) = (toString n, gwStr, ifAlias) := by
  have hdigits : ∀ c ∈ (toString n).toList, isWhitespace c = false :=
    fun c hc => isWhitespace_of_isDigit (isDigit_of_mem_toString hc)
  have htab : isWhitespace '\t' = true := by decide
  have hno : ∀ {s : String}, (∀ c ∈ s.toList, isWhitespace c = false) → '\t' ∉ s.toList := by
    intro s hs hmem
    rw [hs _ hmem] at htab
    cases htab
  have hpieces : (toString n ++ "\t" ++ gwStr ++ "\t" ++ ifAlias).toList.splitOn '\t' =
      (toString n).toList :: gwStr.toList :: ifAlias.toList.splitOn '\t' := by
    have hlist : (toString n ++ "\t" ++ gwStr ++ "\t" ++ ifAlias).toList =
        (toString n).toList ++ '\t' :: (gwStr.toList ++ '\t' :: ifAlias.toList) := by simp
    rw [hlist, List.splitOn_append_cons_self_of_not_mem (hno hdigits),
      List.splitOn_append_cons_self_of_not_mem (hno hword.2)]
  simp only [tabFields, hpieces, List.getD_cons_zero, List.getD_cons_succ, List.drop_succ_cons, List.drop_zero,
    List.intercalate_splitOn, String.ofList_toList, trimText_word hdigits, trimText_word hword.2, halias]

theorem parseWindowsRouteLine_prints {text gwStr ifAlias line : String} {gw : IpAddr} {ifIndex : UInt32}
    {before after : List String} (debug : String → String) (htext : textLines text = before ++ line :: after)
    (hblank : ∀ l ∈ before, trimText l = "")
    (hline : trimText line = toString ifIndex.toNat ++ "\t" ++ gwStr ++ "\t" ++ ifAlias)
    (hword : IsWord gwStr) (halias : trimText ifAlias = ifAlias) (hgw : parseIp gwStr = some gw)
    (hspecified : gw ≠ unspecifiedAddr gw.isIpv6) :
    parseWindowsRouteLine parseIp debug text =
      .ok ⟨ifAlias, some gw, some (displayIp gw), some ifIndex⟩ := by
  have hfirst : ((textLines text).map trimText).find? (fun l => !l.isEmpty) = some (trimText line) := by
    have hnone : (before.map trimText).find? (fun l => !l.isEmpty) = none := by
      simpa [List.find?_eq_none] using hblank
    have hsome : (trimText line).isEmpty = false := by
      rw [hline, ← Bool.not_eq_true, String.isEmpty_iff, ← String.toList_eq_nil_iff]
      simp
    rw [htext, List.map_append, List.find?_append, hnone, List.map_cons, List.find?_cons_of_pos (by simp [hsome])]
    rfl
  have hnext : parseWindowsNextHop parseIp gwStr = some gw := by
    simp [parseWindowsNextHop, hgw, Option.filter, hspecified]
  simp only [parseWindowsRouteLine, hfirst]
  rw [hline, tabFields_eq hword halias]
  dsimp only
  rw [parseU32_toString]
  dsimp only
  rw [hnext]
  rfl

/-- What a tool prints is read back. -/
theorem parseRoute_prints {platform : Platform} {hop : NextHop} {text : String} (h : Prints parseIp platform hop text)
    (debug : String → String) (peerIp : IpAddr) : parseRoute parseIp debug platform text peerIp = .ok hop := by
  cases h with
  | linux before between after htext hother hvalid hgw =>
    exact parseLinuxRouteGet_prints parseIp htext hother hvalid hgw peerIp
  | macos before between after htext hgwLine hifLine hwords hother hvalid hgw =>
    exact parseMacosRouteGet_prints parseIp htext hgwLine hifLine hwords hother hvalid hgw peerIp
  | windows before after htext hblank hline hword halias hgw hspecified =>
    exact parseWindowsRouteLine_prints parseIp debug htext hblank hline hword halias hgw hspecified

end

end EzVpn
