import MyApiSpec.Fetch.Client

/-!
# Protected fetches contact checked addresses only

The log of a fetch is safe entry by entry: a request has one of the two schemes, and an address that is
handed to the network dialer was checked with the rules of the settings, together with all other usable
addresses of the answer it comes from.
-/

namespace MyApiSpec.Fetch

open Base List Routine

/-! ### What a log may hold -/

/-- The requests of a log, with the newest first. -/
def requests (log : Log) : List String :=
  log.filterMap fun
    | .request url => some url
    | _ => none

/-- The URL has one of the two schemes. -/
def Web (c : Client) (url : String) : Prop :=
  ∃ u, c.go.parseURL url = .ok u ∧ (u.scheme = "http" ∨ u.scheme = "https")

/-- Where the address of a dial comes from: it is the host itself, or it is in an answer for the host
whose usable addresses all pass. -/
inductive Origin (go : GoNet) (p : SSRFProtection) (earlier : Log) (network host : String) (ip : IP) : Prop
  | literal (h : go.parseIP host = some ip)
  | resolved (answer : List (Option IP)) (lookup : .lookup host answer ∈ earlier)
      (mem : ip ∈ usable network answer) (all : ∀ ip' ∈ usable network answer, Passes go p ip')

/-- An address that may be handed to the network dialer for `addr`. -/
structure Dialled (c : Client) (earlier : Log) (network addr : String) (p : SSRFProtection)
    (ip : IP) (host portText : String) (port : Int) : Prop where
  protection : newSSRFProtectionFromFetchSetting c.setting c.setting.applyIPFilterForDomain = .ok p
  target : c.go.splitHostPort addr = .ok (host, portText)
  portValue : atoi portText = .ok port
  passes : Passes c.go p ip
  portPasses : PortPasses p port
  origin : Origin c.go p earlier network host ip
  requested : ∃ url u, .request url ∈ earlier ∧ c.go.parseURL url = .ok u ∧ c.go.canonicalAddr u = addr

/-- A safe entry behind an earlier log. -/
def EntrySafe (c : Client) (earlier : Log) : Entry → Prop
  | .request url => Web c url
  | .lookup _ _ => True
  | .dial network addr address =>
    ∃ p ip host portText port, address = .literal ip portText ∧
      Dialled c earlier network addr p ip host portText port

/-- A log of safe entries. -/
def LogSafe (c : Client) : Log → Prop
  | [] => True
  | e :: earlier => EntrySafe c earlier e ∧ LogSafe c earlier

variable {c : Client}

theorem LogSafe.entry {newer earlier : Log} {e : Entry}
    (h : LogSafe c (newer ++ e :: earlier)) : EntrySafe c earlier e := by
  induction newer with
  | nil => exact h.1
  | cons _ newer ih => exact ih h.2

/-- The invariant of a fetch. -/
structure Inv (c : Client) (log : Log) : Prop where
  safe : LogSafe c log
  bounded : (requests log).length ≤ 10

/-- A log behind another one, without further requests. -/
structure Extends (log log' : Log) : Prop where
  older : log <:+ log'
  requests : requests log' = requests log

theorem Extends.refl (log : Log) : Extends log log := ⟨suffix_rfl, rfl⟩

theorem Extends.trans {a b c : Log} (h : Extends a b) (h' : Extends b c) : Extends a c :=
  ⟨h.older.trans h'.older, h'.requests.trans h.requests⟩

/-- Sequential judgement: nobody else writes the log. `F` describes the log of an error. -/
abbrev Ok (c : Client) {α : Type} (Q : α → Log → Prop) (F : Log → Prop) (x : Call α) (log : Log) : Prop :=
  Routine.Safe (Inv c) (fun _ _ => True) (fun a b => a = b) Q (fun _ => F) x log

section Calls

variable {c : Client} {log : Log} {F : Log → Prop} {α β : Type} {Q : β → Log → Prop}
  {g : α → Call β} {p : SSRFProtection} {addr host network url : String} {f : Env → α}

theorem ask_ok : Ok c (fun _ l => l = log) F (ask f) log := by
  refine Prog.safe_read (fun _ => trivial) ?_
  rintro l rfl _ _
  rfl

/-- The environment may choose anything. -/
theorem ask_bind (hI : Inv c log) (h : ∀ a, Ok c Q F (g a) log) :
    Ok c Q F (ask f >>= g) log := by
  refine ask_ok.bind hI ?_
  rintro a l _ rfl
  exact h a

variable {x : Except String α}

/-- A computation without an action fails, or the rest goes on with its result. -/
theorem lift_bind (hI : Inv c log) (hF : F log)
    (h : ∀ a, x = .ok a → Ok c Q F (g a) log) : Ok c Q F (Routine.lift x >>= g) log := by
  have hx : Ok c (fun a l => l = log ∧ x = .ok a) F (lift x) log :=
    safe_lift (fun _ hx => ⟨rfl, hx⟩) fun _ _ => hF
  refine hx.bind hI ?_
  rintro a l _ ⟨rfl, ha⟩
  exact h a ha

/-- An entry is logged. -/
theorem record_bind {f : Env → Entry × α} (hI : Inv c log) (hsafe : ∀ e, Inv c ((f e).1 :: log))
    (h : ∀ e, Ok c Q F (g (f e).2) ((f e).1 :: log)) : Ok c Q F (record f >>= g) log := by
  have hf : Ok c (fun a l => ∃ e, a = (f e).2 ∧ l = (f e).1 :: log) F (record f) log := by
    refine Prog.safe_update ?_
    rintro l rfl _ e
    exact ⟨trivial, hsafe e, e, rfl, rfl⟩
  refine hf.bind hI ?_
  rintro a l _ ⟨e, rfl, rfl⟩
  exact h e

theorem prefixError_eq_ok {g : String → String} {a : α} :
    prefixError g x = .ok a ↔ x = .ok a := by
  cases x <;> simp [prefixError]

/-- A validated URL has one of the two schemes. -/
theorem validateURL_ok (hI : Inv c log) (hF : F log) :
    Ok c (fun _ l => l = log ∧ Web c url) F (validateURL c.go p url) log := by
  refine lift_bind hI hF fun u hu => ?_
  refine lift_bind hI hF fun _ hscheme => ?_
  have hweb : Web c url := ⟨u, prefixError_eq_ok.mp hu, check_eq_ok.mp hscheme⟩
  refine lift_bind hI hF fun port _ => ?_
  refine lift_bind hI hF fun _ _ => ?_
  split
  · exact safe_pure ⟨rfl, hweb⟩
  refine ask_bind hI fun answer => ?_
  refine lift_bind hI hF fun ips _ => ?_
  exact safe_lift (fun _ _ => ⟨rfl, hweb⟩) fun _ _ => hF

theorem validateSSRFProtectedFetchURL_ok (hon : c.setting.enableSSRFProtection = true)
    (hI : Inv c log) (hF : F log) :
    Ok c (fun _ l => l = log ∧ Web c url) F (validateSSRFProtectedFetchURL c url) log := by
  unfold validateSSRFProtectedFetchURL
  rw [if_neg (by simp [hon])]
  exact lift_bind hI hF fun p _ => validateURL_ok hI hF

/-! ### Dialling -/

variable {address : Address}

/-- A safe dial keeps the invariant. -/
theorem Inv.dial (hI : Inv c log)
    (h : EntrySafe c log (.dial network addr address)) :
    Inv c (.dial network addr address :: log) :=
  ⟨⟨h, hI.safe⟩, hI.bounded⟩

theorem dialOnly_ok (hI : Inv c log)
    (h : EntrySafe c log (.dial network addr address)) :
    Ok c (fun _ l => Extends log l) (Extends log) (dialOnly network addr address) log := by
  have hextends : Extends log (.dial network addr address :: log) := ⟨suffix_cons _ _, rfl⟩
  refine record_bind hI (fun _ => hI.dial h) fun e => ?_
  cases e.dialError with
  | none => exact safe_pure hextends
  | some e => exact safe_throw hextends

variable {ips : List IP}

/-- The candidates are the usable addresses, and all of them pass. -/
theorem candidateIPs_ok {go : GoNet} {answer : List (Option IP)}
    (h : candidateIPs go p network host answer = .ok ips) :
    ips = usable network answer ∧ ∀ ip ∈ ips, Passes go p ip := by
  induction answer generalizing ips with
  | nil =>
    cases h
    exact ⟨rfl, fun ip hip => by (cases hip)⟩
  | cons ip rest ih =>
    cases ip with
    | none => exact ih h
    | some ip =>
      rw [candidateIPs] at h
      split at h
      · next hskip =>
        obtain ⟨rfl, hall⟩ := ih h
        exact ⟨by simp [usable, hskip], hall⟩
      · next hallowed =>
        have hallowed : networkAllowsIP network ip = true := by simpa using hallowed
        simp only [bind_eq_ok] at h
        obtain ⟨_, hvalid, others, hothers, hips⟩ := h
        cases hips
        obtain ⟨rfl, hall⟩ := ih hothers
        have hpasses : Passes go p ip := isIPAccessAllowed_iff.mp (check_eq_ok.mp hvalid)
        exact ⟨by simp [usable, Option.filter, hallowed], forall_mem_cons.mpr ⟨hpasses, hall⟩⟩

theorem dialCandidates_ok {portText : String} {e : Option String} (hI : Inv c log)
    (h : ∀ l, Extends log l → ∀ ip ∈ ips, EntrySafe c l (.dial network addr (.literal ip portText))) :
    Ok c (fun _ l => Extends log l) (Extends log) (dialCandidates network addr host portText e ips) log := by
  induction ips generalizing e log with
  | nil => cases e <;> exact safe_throw (Extends.refl log)
  | cons ip rest ih =>
    have hsafe := h log (Extends.refl log) ip mem_cons_self
    have hextends : Extends log (.dial network addr (.literal ip portText) :: log) :=
      ⟨suffix_cons _ _, rfl⟩
    have hI' := hI.dial hsafe
    -- the earlier error plays no part before the last candidate
    cases e <;> refine record_bind hI (fun _ => hI') fun e => ?_
    all_goals
      cases e.dialError with
      | none => exact safe_pure hextends
      | some e =>
        refine (ih hI' fun l hl ip' hip' => ?_).mono hI' (fun _ l _ => hextends.trans)
          fun _ l _ => hextends.trans
        exact h l (hextends.trans hl) ip' (mem_cons_of_mem _ hip')

theorem newSSRFProtection_filter {s : FetchSetting} {b : Bool}
    (h : newSSRFProtectionFromFetchSetting s b = .ok p) : p.applyIPFilterForDomain = b := by
  simp only [newSSRFProtectionFromFetchSetting, bind_eq_ok] at h
  obtain ⟨ports, -, hp⟩ := h
  cases hp
  rfl

theorem lookupIPAddr_ok (hI : Inv c log) :
    Ok c (fun answer l => l = .lookup host answer :: log) (Extends log) (lookupIPAddr host) log := by
  refine record_bind hI (fun _ => ⟨⟨trivial, hI.safe⟩, hI.bounded⟩) fun e => ?_
  refine safe_lift (fun answer h => ?_) fun _ _ => ⟨suffix_cons _ _, rfl⟩
  have hanswer : e.answer = .ok answer := prefixError_eq_ok.mp h
  rw [hanswer]
  rfl

variable (hon : c.setting.enableSSRFProtection = true) (hfilter : c.setting.applyIPFilterForDomain = true)
include hon hfilter

/-- The dialer hands over checked addresses only. -/
theorem protectedDial_ok (hI : Inv c log)
    (hrequested : ∃ url u, .request url ∈ log ∧ c.go.parseURL url = .ok u ∧ c.go.canonicalAddr u = addr) :
    Ok c (fun _ l => Extends log l) (Extends log) (protectedDial c network addr) log := by
  have hrefl := Extends.refl log
  unfold protectedDial
  rw [if_neg (by simp [hon])]
  refine lift_bind hI hrefl fun p hp => ?_
  refine lift_bind hI hrefl fun ⟨host, portText⟩ htarget => ?_
  refine lift_bind hI hrefl fun port hport => ?_
  refine lift_bind hI hrefl fun _ hvalid => ?_
  obtain ⟨hportPasses, hliteral⟩ := validateNetworkTarget_ok hvalid
  cases hip : c.go.parseIP host with
  | some ip =>
    have htrim := c.go.parseIP_trim host ip hip
    refine dialOnly_ok hI ⟨p, ip, host, portText, port, rfl, hp, prefixError_eq_ok.mp htarget,
      prefixError_eq_ok.mp hport, hliteral ip (by rw [htrim]; exact hip), hportPasses, .literal hip, hrequested⟩
  | none =>
    have hfiltered : ¬ p.applyIPFilterForDomain = false := by
      rw [newSSRFProtection_filter hp, hfilter]
      simp
    simp only [if_neg hfiltered]
    refine (lookupIPAddr_ok hI).bind hI ?_
    rintro answer _ hI' rfl
    have hextends : Extends log (.lookup host answer :: log) := ⟨suffix_cons _ _, rfl⟩
    refine lift_bind hI' hextends fun ips hips => ?_
    obtain ⟨rfl, hall⟩ := candidateIPs_ok hips
    refine (dialCandidates_ok hI' fun l hl ip hip => ?_).mono hI'
      (fun _ l _ => hextends.trans) fun _ l _ => hextends.trans
    have holder : ∀ {x}, x ∈ Entry.lookup host answer :: log → x ∈ l := hl.older.mem
    obtain ⟨url, u, hurl, hu⟩ := hrequested
    exact ⟨p, ip, host, portText, port, rfl, hp, prefixError_eq_ok.mp htarget, prefixError_eq_ok.mp hport,
      hall ip hip, hportPasses, .resolved answer (holder mem_cons_self) hip hall,
      url, u, holder (mem_cons_of_mem _ hurl), hu⟩

/-! ### Requests -/

theorem transportDials_ok (n : Nat) (hI : Inv c log)
    (hrequested : ∃ url u, .request url ∈ log ∧ c.go.parseURL url = .ok u ∧ c.go.canonicalAddr u = addr) :
    Ok c (fun _ l => requests l = requests log) (fun _ => True) (transportDials c none addr n) log := by
  induction n generalizing log with
  | zero => exact safe_pure rfl
  | succ n ih =>
    refine Safe.bind (Q := fun _ => Extends log)
      (Safe.attempt (protectedDial_ok hon hfilter hI hrequested) hI (fun _ _ _ h => h)
        fun _ _ _ h => h) hI fun _ l hI' hl => ?_
    obtain ⟨url, u, hurl, hu⟩ := hrequested
    refine (ih hI' ⟨url, u, hl.older.mem hurl, hu⟩).mono hI' (fun _ l' _ h => ?_)
      fun _ _ _ _ => trivial
    exact h.trans hl.requests

theorem roundTrip_ok (hproxy : c.proxy url = none) (hI : Inv c log) (hroom : (requests log).length < 10) :
    Ok c (fun _ l => requests l = url :: requests log) (fun _ => True) (roundTrip c url) log := by
  refine (validateSSRFProtectedFetchURL_ok hon hI trivial).bind hI ?_
  rintro _ log _ ⟨rfl, hweb⟩
  refine lift_bind hI trivial fun u hu => ?_
  have hI' : Inv c (.request url :: log) := ⟨⟨hweb, hI.safe⟩, Nat.succ_le_of_lt hroom⟩
  refine record_bind hI (fun _ => hI') fun _ => ?_
  refine ask_bind hI' fun dials => ?_
  rw [hproxy]
  refine (transportDials_ok hon hfilter dials hI'
    ⟨url, u, mem_cons_self, hu, rfl⟩).bind hI' fun _ l _ hl => ?_
  refine Prog.safe_read (fun _ => trivial) ?_
  rintro l' rfl _ _
  exact hl

/-- The loop stays within its bound and the client's own. -/
theorem follow_ok (hproxy : ∀ url, c.proxy url = none) (fuel : Nat) {via : List String} (hI : Inv c log)
    (hvia : (requests log).length = via.length) (hfuel : via.length + fuel = 10) (hpos : 0 < fuel) :
    Ok c (fun r _ => r ≠ .exhausted) (fun _ => True) (follow c fuel via url) log := by
  induction fuel generalizing log via url with
  | zero => cases hpos
  | succ fuel ih =>
    refine (roundTrip_ok hon hfilter (hproxy url) hI (by omega)).bind hI fun r l hI' hl => ?_
    cases r with
    | final | failed => exact safe_pure (by simp)
    | redirect location =>
      have hlength : (requests l).length = (via ++ [url]).length := by
        rw [hl, length_append, length_cons, hvia]
        rfl
      refine Safe.bind (Q := fun _ l' => l' = l ∧ (via ++ [url]).length < 10) ?_ hI'
        fun _ l' _ ⟨hl', hbelow⟩ => ?_
      · refine Safe.bind (Q := fun _ l' => l' = l) ?_ hI' fun _ l' _ hl' => ?_
        · refine Safe.adapt (F := fun _ _ => True) ?_ hI' fun _ _ _ _ => trivial
          exact (validateSSRFProtectedFetchURL_ok (F := fun _ => True) hon hI' trivial).mono
            hI' (fun _ _ _ h => h.1) fun _ _ _ _ => trivial
        split
        · exact safe_throw trivial
        · next hbelow => exact safe_pure ⟨hl', Nat.lt_of_not_le hbelow⟩
      · subst hl'
        rw [length_append, length_singleton] at hbelow
        refine ih hI' hlength ?_ ?_
        · rw [length_append, length_singleton]
          omega
        · omega

end Calls

/-! ### Fetches -/

/-- The redirects that a log has followed. -/
def redirects (log : Log) : Nat := (requests log).length - 1

/-- What a fetch may do, entry by entry; the bound of its loop is never reached. -/
structure Contained (c : Client) (url : String) (env : List Env) : Prop where
  requests : ∀ target, .request target ∈ logOf c url env → Web c target
  redirects : redirects (logOf c url env) ≤ 10
  dials : ∀ newer earlier network addr address,
    logOf c url env = newer ++ .dial network addr address :: earlier →
      ∃ p ip host portText port, address = .literal ip portText ∧
        Dialled c earlier network addr p ip host portText port
  complete : resultOf c url env ≠ some (.ok .exhausted)

theorem protected_fetch_contained {c : Client} (hon : c.setting.enableSSRFProtection = true)
    (hfilter : c.setting.applyIPFilterForDomain = true) (hproxy : ∀ url, c.proxy url = none)
    (url : String) (env : List Env) : Contained c url env := by
  have hinit : Inv c [] := ⟨trivial, Nat.zero_le _⟩
  have hok : Ok c (fun r _ => r ≠ .exhausted) (fun _ => True) (fetch c url) [] :=
    follow_ok hon hfilter hproxy 10 hinit rfl rfl (by decide)
  have hinv : Inv c (logOf c url env) := hok.exec (fun _ => rfl) hinit env
  refine ⟨fun target htarget => ?_, ?_, fun newer earlier network addr address hlog => ?_, fun hres => ?_⟩
  · obtain ⟨newer, earlier, hlog⟩ := append_of_mem htarget
    exact (hlog ▸ hinv.safe : LogSafe c (newer ++ .request target :: earlier)).entry
  · have := hinv.bounded
    unfold redirects
    omega
  · exact (hlog ▸ hinv.safe : LogSafe c (newer ++ .dial network addr address :: earlier)).entry
  · exact hok.outcome (fun _ => rfl) hinit hres rfl

/-! ### A fetch -/

/-- A library that knows two URLs, one name and one address. -/
def smallNet : GoNet where
  parseURL s :=
    if s = "http://a.example/" then .ok ⟨"http", "a.example", "a.example"⟩
    else if s = "http://8.8.4.4:8080/" then .ok ⟨"http", "8.8.4.4:8080", "8.8.4.4"⟩
    else .error "unknown"
  splitHostPort s :=
    if s = "a.example:80" then .ok ("a.example", "80")
    else if s = "8.8.4.4:8080" then .ok ("8.8.4.4", "8080")
    else .error "missing port in address"
  canonicalAddr u := if u.host = "a.example" then "a.example:80" else u.host
  parseIP s := if s = "8.8.4.4" then some (.v4 (IP.ofOctets 8 8 4 4)) else none
  parseCIDR _ := none
  ipString _ := ""
  toLower s := s
  parseIP_trim s ip h := by
    split at h
    · next hs =>
      subst hs
      decide +kernel
    · cases h

/-- The default settings with two ports. -/
def smallClient : Client where
  go := smallNet
  setting :=
    { enableSSRFProtection := true
      allowPrivateIp := false
      domainFilterMode := false
      ipFilterMode := false
      domainList := []
      ipList := []
      allowedPorts := ["80", "8000-8100"]
      applyIPFilterForDomain := true }
  proxy _ := none

/-- The name resolves to a mapped address; the server redirects to an address. -/
def smallEnv : List Env :=
  let answered : Env := { answer := .ok [some (.mapped (IP.ofOctets 8 8 8 8))] }
  [answered, {}, {}, answered, {}, { response := .redirect "http://8.8.4.4:8080/" }, {}, {}, {}, {}]

theorem protected_fetch_contained_smallEnv :
    Contained smallClient "http://a.example/" smallEnv ∧
      logOf smallClient "http://a.example/" smallEnv =
        [.dial "tcp" "8.8.4.4:8080" (.literal (.v4 (IP.ofOctets 8 8 4 4)) "8080"),
          .request "http://8.8.4.4:8080/",
          .dial "tcp" "a.example:80" (.literal (.mapped (IP.ofOctets 8 8 8 8)) "80"),
          .lookup "a.example" [some (.mapped (IP.ofOctets 8 8 8 8))],
          .request "http://a.example/"] :=
  ⟨protected_fetch_contained rfl rfl (fun _ => rfl) _ _, by decide +kernel⟩

end MyApiSpec.Fetch
