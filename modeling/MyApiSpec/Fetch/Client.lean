import MyApiSpec.Base.Process
import MyApiSpec.Fetch.Protection

/-!
# The protected fetch client

`service/protected_fetch_client.go:100–239` and `service/http_client.go:54–72`. A fetch validates the
start URL, lets Go's transport connect and send the request, and follows the redirects that the servers
answer with. The environment is hostile: it answers every lookup anew, refuses or accepts connections,
lets the transport dial as often as it likes, and chooses the redirects.

Hosts are taken apart when the URL is checked and again when they are dialled. Nothing that the first
check found is used by the second one: the dialer validates the host that it is given, resolves it
itself, and dials the addresses that it has checked.
-/

namespace MyApiSpec.Fetch

open Base

/-! ### Environment and log -/

/-- What is handed to the network dialer: `JoinHostPort(ip.String(), port)`, or the text of an address
that is still to be resolved. -/
inductive Address where
  | literal (ip : IP) (port : String)
  | text (addr : String)
  deriving DecidableEq, Repr

/-- The answer to a request. -/
inductive Response where
  | final
  | redirect (url : String)
  | failed (error : String)
  deriving DecidableEq, Repr

/-- What the environment chooses for one action: the answer of a resolver, the error of a connection,
how often the transport dials, and the answer of the server. -/
structure Env where
  answer : Except String (List (Option IP)) := .ok []
  dialError : Option String := none
  dials : Nat := 1
  response : Response := .final

/-- What the client did: a request that is handed to the transport, a lookup of the dialer, and an
address that is handed to the network dialer on behalf of `DialContext(network, addr)`. -/
inductive Entry where
  | request (url : String)
  | lookup (host : String) (answer : List (Option IP))
  | dial (network addr : String) (address : Address)
  deriving DecidableEq, Repr

/-- The log, with the newest entry first. -/
abbrev Log : Type := List Entry

/-- A program of the client. -/
abbrev Call (α : Type) : Type := Routine Log Env String α

/-- The client: Go's library, the settings and the proxy of a URL. -/
structure Client where
  go : GoNet
  setting : FetchSetting
  proxy : String → Option String

/-- An action that is read from the environment. -/
def ask {α : Type} (f : Env → α) : Call α := ExceptT.mk (Prog.read fun _ e => .ok (f e))

/-- An action that is logged. -/
def record {α : Type} (f : Env → Entry × α) : Call α :=
  ExceptT.mk (Prog.update fun log e => ((f e).1 :: log, .ok (f e).2))

/-! ### URLs -/

/-- Host and port of a URL; without a port it is the one of the scheme. -/
def urlTarget (go : GoNet) (u : URL) : String × String :=
  match go.splitHostPort u.host with
  | .ok target => target
  | .error _ => (u.hostname, if u.scheme = "https" then "443" else "80")

/-- `ValidateURL` (`common/ssrf_protection.go:324–377`), with `net.LookupIP`. -/
def validateURL (go : GoNet) (p : SSRFProtection) (url : String) : Call Unit := do
  let u ← Routine.lift (prefixError ("invalid URL format: " ++ ·) (go.parseURL url))
  Routine.lift (check (u.scheme = "http" ∨ u.scheme = "https")
    ("unsupported protocol: " ++ u.scheme ++ " (only http/https allowed)"))
  let host := (urlTarget go u).1
  let portStr := (urlTarget go u).2
  let port ← Routine.lift (prefixError (fun _ => "invalid port: " ++ portStr) (atoi portStr))
  Routine.lift (p.validateNetworkTarget go host port)
  if (go.parseIP host).isSome ∨ p.applyIPFilterForDomain = false then return ()
  else do
    let answer ← ask Env.answer
    let ips ← Routine.lift (prefixError ("DNS resolution failed for " ++ host ++ ": " ++ ·) answer)
    Routine.lift (ips.forM (p.validateResolvedIP go host))

/-- `ValidateSSRFProtectedFetchURL` (`service/http_client.go:65–72`). -/
def validateSSRFProtectedFetchURL (c : Client) (url : String) : Call Unit :=
  if c.setting.enableSSRFProtection = false then return ()
  else do
    let p ← Routine.lift (newSSRFProtectionFromFetchSetting c.setting c.setting.applyIPFilterForDomain)
    validateURL c.go p url

/-- `checkProtectedFetchRedirect`; `via` holds the requests so far. -/
def checkProtectedFetchRedirect (c : Client) (url : String) (via : List String) : Call Unit := do
  ExceptT.adapt (fun e => "redirect to " ++ url ++ " blocked: " ++ e) (validateSSRFProtectedFetchURL c url)
  if 10 ≤ via.length then throw "stopped after 10 redirects" else return ()

/-! ### Dialling -/

/-- The network dialer: the error of the connection. -/
def netDial (network addr : String) (address : Address) : Call (Option String) :=
  record fun e => (.dial network addr address, e.dialError)

/-- Dial one address, failing with its error. -/
def dialOnly (network addr : String) (address : Address) : Call Unit := do
  match ← netDial network addr address with
  | none => return ()
  | some e => throw e

/-- `networkAllowsIP`. -/
def networkAllowsIP (network : String) (ip : IP) : Bool :=
  if network = "tcp4" then ip.to4.isSome else if network = "tcp6" then ip.to4.isNone else true

/-- The usable addresses of an answer. -/
def usable (network : String) (answer : List (Option IP)) : List IP :=
  answer.filterMap fun ip => ip.filter (networkAllowsIP network)

/-- The loop of `DialContext` that collects the candidates and fails with the first usable address that
is not allowed. -/
def candidateIPs (go : GoNet) (p : SSRFProtection) (network host : String) :
    List (Option IP) → Except String (List IP)
  | [] => .ok []
  | none :: rest => candidateIPs go p network host rest
  | some ip :: rest =>
    if networkAllowsIP network ip = false then candidateIPs go p network host rest
    else do
      p.validateResolvedIP go host (some ip)
      let ips ← candidateIPs go p network host rest
      return ip :: ips

/-- The loop of `DialContext` that dials the candidates until one connects. -/
def dialCandidates (network addr host portText : String) : Option String → List IP → Call Unit
  | none, [] => throw ("DNS resolution for " ++ host ++ " returned no usable IP addresses")
  | some e, [] => throw e
  | _, ip :: rest => do
    match ← netDial network addr (.literal ip portText) with
    | none => return ()
    | some e => dialCandidates network addr host portText (some e) rest

/-- `LookupIPAddr`, with the error of `DialContext`. -/
def lookupIPAddr (host : String) : Call (List (Option IP)) := do
  let answer ← record fun e => (.lookup host (e.answer.toOption.getD []), e.answer)
  Routine.lift (prefixError ("DNS resolution failed for " ++ host ++ ": " ++ ·) answer)

/-- `protectedFetchDialer.DialContext`. -/
def protectedDial (c : Client) (network addr : String) : Call Unit :=
  if c.setting.enableSSRFProtection = false then dialOnly network addr (.text addr)
  else do
    let p ← Routine.lift (newSSRFProtectionFromFetchSetting c.setting c.setting.applyIPFilterForDomain)
    let (host, portText) ← Routine.lift
      (prefixError ("invalid dial address " ++ addr ++ ": " ++ ·) (c.go.splitHostPort addr))
    let port ← Routine.lift (prefixError (fun _ => "invalid port: " ++ portText) (atoi portText))
    Routine.lift (p.validateNetworkTarget c.go host port)
    match c.go.parseIP host with
    | some ip => dialOnly network addr (.literal ip portText)
    | none =>
      if p.applyIPFilterForDomain = false then dialOnly network addr (.text addr)
      else do
        let resolved ← lookupIPAddr host
        let candidates ← Routine.lift (candidateIPs c.go p network host resolved)
        dialCandidates network addr host portText none candidates

/-! ### Requests and redirects -/

/-- The dialer of the transport: `newTransport`. -/
def transportDial (c : Client) (proxyURL : Option String) (network addr : String) : Call Unit :=
  match proxyURL with
  | none => protectedDial c network addr
  | some _ => dialOnly network addr (.text addr)

/-- The transport dials as often as the environment says; an error of a connection is its own
affair. -/
def transportDials (c : Client) (proxyURL : Option String) (addr : String) : Nat → Call Unit
  | 0 => return ()
  | n + 1 => do
    let _ ← Routine.attempt (transportDial c proxyURL "tcp" addr)
    transportDials c proxyURL addr n

/-- `RoundTrip`: validate, then let the transport of the proxy connect and send. -/
def roundTrip (c : Client) (url : String) : Call Response := do
  validateSSRFProtectedFetchURL c url
  let u ← Routine.lift (c.go.parseURL url)
  record fun _ => (.request url, ())
  let dials ← ask Env.dials
  transportDials c (c.proxy url) (c.go.canonicalAddr u) dials
  ask Env.response

/-- How a fetch ends; `exhausted` is the end of the bound of the loop. -/
inductive Fetched where
  | done (response : Response)
  | exhausted
  deriving DecidableEq, Repr

/-- The loop of `http.Client.Do`; the client has a bound of its own in its redirect check. -/
def follow (c : Client) : Nat → List String → String → Call Fetched
  | 0, _, _ => return .exhausted
  | fuel + 1, via, url => do
    match ← roundTrip c url with
    | .redirect location => do
      checkProtectedFetchRedirect c location (via ++ [url])
      follow c fuel (via ++ [url]) location
    | r => return .done r

/-- A fetch of a URL. -/
def fetch (c : Client) (url : String) : Call Fetched := follow c 10 [] url

/-- The log of a fetch, however far the environment lets it come. -/
def logOf (c : Client) (url : String) (env : List Env) : Log := Prog.exec (fetch c url).run [] env

/-- The result of a fetch, if the environment lets it end. -/
def resultOf (c : Client) (url : String) (env : List Env) : Option (Except String Fetched) :=
  Prog.outcome (fetch c url).run [] env

end MyApiSpec.Fetch
