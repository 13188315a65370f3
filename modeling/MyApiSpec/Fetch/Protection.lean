import MyApiSpec.Base.GoText
import MyApiSpec.Base.IPNet
import MyApiSpec.Base.Outcome

/-!
# The rules of protected fetches

`common/ssrf_protection.go` and `common/ip.go`: which addresses, ports and domains may be contacted.
Of Go's parsers the model assumes no more than stands in `GoNet`.
-/

namespace MyApiSpec.Fetch

open Base

/-- `url.URL`: scheme, host with port, and `Hostname()`. -/
structure URL where
  scheme : String
  host : String
  hostname : String
  deriving DecidableEq, Repr

/-- The functions of Go's `net`, `net/url`, `net/http` and `strings` that the client calls. The text of
an address has no blanks around it. -/
structure GoNet where
  parseURL : String → Except String URL
  splitHostPort : String → Except String (String × String)
  canonicalAddr : URL → String
  parseIP : String → Option IP
  parseCIDR : String → Option IPNet
  ipString : IP → String
  toLower : String → String
  parseIP_trim : ∀ s ip, parseIP s = some ip → trimSpace s = s

/-! ### Private addresses -/

/-- A network of `privateIPv4Nets`. -/
def v4Net (a b c d : BitVec 8) (ones : Nat) : IPNet := ⟨.mapped (IP.ofOctets a b c d), ones, 32⟩

/-- `privateIPv4Nets`. -/
def privateIPv4Nets : List IPNet :=
  [v4Net 0 0 0 0 8, v4Net 10 0 0 0 8, v4Net 100 64 0 0 10, v4Net 127 0 0 0 8, v4Net 169 254 0 0 16,
    v4Net 172 16 0 0 12, v4Net 192 0 0 0 24, v4Net 192 0 2 0 24, v4Net 192 168 0 0 16,
    v4Net 198 18 0 0 15, v4Net 198 51 100 0 24, v4Net 203 0 113 0 24, v4Net 224 0 0 0 4,
    v4Net 240 0 0 0 4, v4Net 255 255 255 255 32]

/-- A network of `privateIPv6Nets`, from its first and its last four bytes; the bytes between are
zero. -/
def v6Net (first last : BitVec 32) (ones : Nat) : IPNet := ⟨.v6 (first ++ 0#64 ++ last), ones, 128⟩

/-- `privateIPv6Nets`. -/
def privateIPv6Nets : List IPNet :=
  [v6Net 0 0 128, v6Net 0 1 128, ⟨.mapped 0, 96, 128⟩, v6Net 0x0064ff9b 0 96, v6Net 0x01000000 0 64,
    v6Net 0x20010000 0 23, v6Net 0x20010db8 0 32, v6Net 0xfc000000 0 7, v6Net 0xfe800000 0 10,
    v6Net 0xff000000 0 8]

/-- `isPrivateIP`; `none` is Go's nil. -/
def isPrivateIP : Option IP → Bool
  | none => true
  | some ip =>
    if ip.isUnspecified then true
    else if ip.isLoopback || ip.isLinkLocalUnicast || ip.isLinkLocalMulticast then true
    else if ip.isInterfaceLocalMulticast then true
    else if ip.to4.isSome then privateIPv4Nets.any (fun n => n.contains ip)
    else if privateIPv6Nets.any (fun n => n.contains ip) then true
    else ip.isPrivate

/-- `IP.String`, for messages. -/
def GoNet.text (go : GoNet) : Option IP → String
  | none => "<nil>"
  | some ip => go.ipString ip

/-! ### Settings -/

/-- `FetchSetting` (`setting/system_setting/fetch_setting.go:12–21`). -/
structure FetchSetting where
  enableSSRFProtection : Bool
  allowPrivateIp : Bool
  domainFilterMode : Bool
  ipFilterMode : Bool
  domainList : List String
  ipList : List String
  allowedPorts : List String
  applyIPFilterForDomain : Bool
  deriving DecidableEq, Repr

/-- `SSRFProtection`. -/
structure SSRFProtection where
  allowPrivateIp : Bool
  domainFilterMode : Bool
  domainList : List String
  ipFilterMode : Bool
  ipList : List String
  allowedPorts : List Int
  applyIPFilterForDomain : Bool
  deriving DecidableEq, Repr

/-- A text with another error in front of it. -/
def prefixError {α : Type} (message : String → String) : Except String α → Except String α
  | .ok a => .ok a
  | .error e => .error (message e)

/-- The ports of one entry of `parsePortRanges`. -/
def portRange (config : String) : Except String (List Int) :=
  if '-' ∈ config.toList then
    match (config.toList.splitOn '-').map String.ofList with
    | [first, last] => do
      let startPort ← prefixError ("invalid start port in range " ++ config ++ ": " ++ ·)
        (atoi (trimSpace first))
      let endPort ← prefixError ("invalid end port in range " ++ config ++ ": " ++ ·)
        (atoi (trimSpace last))
      check (startPort ≤ endPort)
        ("invalid port range " ++ config ++ ": start port cannot be greater than end port")
      check (¬ (startPort < 1 ∨ 65535 < startPort ∨ endPort < 1 ∨ 65535 < endPort))
        ("port range " ++ config ++ " contains invalid port numbers (must be 1-65535)")
      return (List.range (endPort - startPort + 1).toNat).map fun i => startPort + i
    | _ => .error ("invalid port range format: " ++ config)
  else do
    let port ← prefixError (fun _ => "invalid port number: " ++ config) (atoi config)
    check (¬ (port < 1 ∨ 65535 < port))
      ("invalid port number " ++ toString port ++ " (must be 1-65535)")
    return [port]

/-- `parsePortRanges`. -/
def parsePortRanges : List String → Except String (List Int)
  | [] => .ok []
  | config :: rest =>
    if trimSpace config = "" then parsePortRanges rest
    else do
      let ports ← portRange (trimSpace config)
      let others ← parsePortRanges rest
      return ports ++ others

/-- `NewSSRFProtectionFromFetchSetting`. -/
def newSSRFProtectionFromFetchSetting (s : FetchSetting) (applyIPFilterForDomain : Bool) :
    Except String SSRFProtection := do
  let allowedPorts ← prefixError ("request reject - invalid port configuration: " ++ ·)
    (parsePortRanges s.allowedPorts)
  return {
    allowPrivateIp := s.allowPrivateIp
    domainFilterMode := s.domainFilterMode
    domainList := s.domainList
    ipFilterMode := s.ipFilterMode
    ipList := s.ipList
    allowedPorts := allowedPorts
    applyIPFilterForDomain := applyIPFilterForDomain }

/-! ### Checks -/

namespace SSRFProtection

/-- `isAllowedPort`. -/
def isAllowedPort (p : SSRFProtection) (port : Int) : Bool :=
  p.allowedPorts = [] || p.allowedPorts.any (fun allowedPort => port = allowedPort)

end SSRFProtection

/-- The match of one entry of `isDomainListed`, in lower case and trimmed. -/
def domainMatches (domain item : String) : Bool :=
  match item.toList with
  | [] => false
  | '*' :: '.' :: suffix =>
    domain = item || ('.' :: suffix).isSuffixOf domain.toList || domain.toList = suffix
  | _ => domain = item

/-- `isDomainListed`. -/
def isDomainListed (go : GoNet) (domain : String) (list : List String) : Bool :=
  list.any fun item => domainMatches (go.toLower domain) (go.toLower (trimSpace item))

/-- One entry of `IsIpInCIDRList` (`common/ip.go:5–23`). -/
def entryHolds (go : GoNet) (ip : IP) (cidr : String) : Bool :=
  match go.parseCIDR cidr with
  | some network => network.contains ip
  | none => (go.parseIP cidr).any ip.equal

/-- `isIPListed`; nil is in no list. -/
def isIPListed (go : GoNet) (ip : Option IP) (list : List String) : Bool :=
  ip.any fun ip => list.any (entryHolds go ip)

namespace SSRFProtection

variable (go : GoNet) (p : SSRFProtection)

/-- `isDomainAllowed`. -/
def isDomainAllowed (domain : String) : Bool :=
  if p.domainFilterMode then isDomainListed go domain p.domainList
  else !isDomainListed go domain p.domainList

/-- `IsIPAccessAllowed`. -/
def isIPAccessAllowed (ip : Option IP) : Bool :=
  if isPrivateIP ip && !p.allowPrivateIp then false
  else if p.ipFilterMode then isIPListed go ip p.ipList
  else !isIPListed go ip p.ipList

/-- `ipAccessError`. -/
def ipAccessError (host : String) (ip : Option IP) : String :=
  let subject := if host ≠ "" then host ++ " resolves to " ++ go.text ip else go.text ip
  if isPrivateIP ip && !p.allowPrivateIp then "private IP address not allowed: " ++ subject
  else if p.ipFilterMode then "ip not in whitelist: " ++ subject
  else "ip in blacklist: " ++ subject

/-- `ValidateNetworkTarget`. -/
def validateNetworkTarget (host : String) (port : Int) : Except String Unit := do
  let host := trimSpace host
  check (host ≠ "") "invalid host"
  check (¬ (port < 1 ∨ 65535 < port)) ("invalid port: " ++ toString port)
  check (p.isAllowedPort port = true) ("port " ++ toString port ++ " is not allowed")
  match go.parseIP host with
  | some ip => check (p.isIPAccessAllowed go (some ip) = true) (p.ipAccessError go "" (some ip))
  | none =>
    check (p.isDomainAllowed go host = true)
      (if p.domainFilterMode then "domain not in whitelist: " ++ host else "domain in blacklist: " ++ host)

/-- `ValidateResolvedIP`. -/
def validateResolvedIP (host : String) (ip : Option IP) : Except String Unit :=
  check (p.isIPAccessAllowed go ip = true) (p.ipAccessError go host ip)

end SSRFProtection

/-! ### What the checks guarantee -/

/-- An address passes: it is not private unless private addresses are allowed, and it is on a whitelist
or not on a blacklist. -/
structure Passes (go : GoNet) (p : SSRFProtection) (ip : IP) : Prop where
  notPrivate : isPrivateIP (some ip) = true → p.allowPrivateIp = true
  listed : isIPListed go (some ip) p.ipList = p.ipFilterMode

/-- A port passes: it is one of the configured ones, if there are any. -/
def PortPasses (p : SSRFProtection) (port : Int) : Prop := p.allowedPorts ≠ [] → port ∈ p.allowedPorts

section

variable {go : GoNet} {p : SSRFProtection}

theorem isIPAccessAllowed_iff {ip : IP} : p.isIPAccessAllowed go (some ip) = true ↔ Passes go p ip := by
  unfold SSRFProtection.isIPAccessAllowed
  constructor
  · intro h
    split at h
    · cases h
    next hprivate =>
    refine ⟨fun hp => ?_, ?_⟩
    · simpa [hp] using hprivate
    · cases hm : p.ipFilterMode <;> simpa [hm] using h
  · rintro ⟨hpublic, hlisted⟩
    have hnot : ¬ (isPrivateIP (some ip) && !p.allowPrivateIp) = true := by
      cases hp : isPrivateIP (some ip) with
      | false => simp
      | true => simp [hpublic hp]
    rw [if_neg hnot, hlisted]
    cases p.ipFilterMode <;> rfl

theorem isAllowedPort_iff {port : Int} : p.isAllowedPort port = true ↔ PortPasses p port := by
  unfold SSRFProtection.isAllowedPort PortPasses
  by_cases h : p.allowedPorts = [] <;> simp [h]

/-- A target that is validated has an allowed port, and an address that passes when it is a literal. -/
theorem validateNetworkTarget_ok {host : String} {port : Int}
    (h : p.validateNetworkTarget go host port = .ok ()) :
    PortPasses p port ∧ ∀ ip, go.parseIP (trimSpace host) = some ip → Passes go p ip := by
  simp only [SSRFProtection.validateNetworkTarget, bind_eq_ok, check_eq_ok] at h
  obtain ⟨_, -, _, -, _, hport, h⟩ := h
  refine ⟨isAllowedPort_iff.mp hport, fun ip hip => ?_⟩
  rw [hip] at h
  exact isIPAccessAllowed_iff.mp (check_eq_ok.mp h)

end

end MyApiSpec.Fetch
