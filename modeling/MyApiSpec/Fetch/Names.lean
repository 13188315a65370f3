import MyApiSpec.Fetch.Containment

/-!
# Host names and their spellings

The domain filter compares texts. A DNS name has many spellings: letters in either case, and a dot for
the root at its end. The filter folds the case of both sides but keeps the dot, so that it decides on a
name only if its list covers both spellings or none.
-/

namespace MyApiSpec.Fetch

open Base List Routine

/-! ### Lists -/

/-- An entry in lower case covers a name in lower case: it is the name, or it is `*.d` and the name is
`d` or ends in `.d`. -/
def Covers (item name : String) : Prop :=
  item ≠ "" ∧ name = item ∨
    ∃ d, item.toList = '*' :: '.' :: d ∧ ('.' :: d <:+ name.toList ∨ name.toList = d)

/-- An entry of the list covers the name. -/
def Listed (go : GoNet) (list : List String) (name : String) : Prop :=
  ∃ item ∈ list, Covers (go.toLower (trimSpace item)) name

theorem domainMatches_iff {name item : String} : domainMatches name item = true ↔ Covers item name := by
  unfold domainMatches Covers
  split
  · next h => simp [String.toList_eq_nil_iff.mp h]
  · next d h =>
    have hne : item ≠ "" := fun he => by simp [he] at h
    simp [h, hne, or_assoc]
  · next hnil hstar =>
    have hne : item ≠ "" := fun he => hnil (by simp [he])
    have hplain : ∀ d, item.toList ≠ '*' :: '.' :: d := hstar
    simp [hne, hplain]

theorem isDomainListed_iff {go : GoNet} {domain : String} {list : List String} :
    isDomainListed go domain list = true ↔ Listed go list (go.toLower domain) := by
  simp only [isDomainListed, any_eq_true, domainMatches_iff, Listed]

/-! ### Spellings -/

/-- The host spells the name, which stands in lower case without a dot at its end. -/
structure Spells (go : GoNet) (name host : String) : Prop where
  lower : go.toLower host = name ∨ go.toLower host = name ++ "."
  nonempty : host ≠ ""
  trimmed : trimSpace host = host
  notIP : go.parseIP host = none

/-- The list names the DNS name, in one of its spellings. -/
def Named (go : GoNet) (list : List String) (name : String) : Prop :=
  Listed go list name ∨ Listed go list (name ++ ".")

/-- The rules of the settings let a host and a port pass. -/
def TargetPasses (c : Client) (host portText : String) : Prop :=
  ∃ p port, newSSRFProtectionFromFetchSetting c.setting c.setting.applyIPFilterForDomain = .ok p ∧
    atoi portText = .ok port ∧ p.validateNetworkTarget c.go host port = .ok ()

/-- The rules of the settings let a port pass. -/
def PortOpen (c : Client) (portText : String) : Prop :=
  ∃ p port, newSSRFProtectionFromFetchSetting c.setting c.setting.applyIPFilterForDomain = .ok p ∧
    atoi portText = .ok port ∧ ¬ (port < 1 ∨ 65535 < port) ∧ p.isAllowedPort port = true

section

variable {c : Client} {name host portText : String}

/-- A spelling of a name passes if its port does and the list covers it just when it has to. -/
theorem targetPasses_iff (hs : Spells c.go name host) :
    TargetPasses c host portText ↔ PortOpen c portText ∧
      (Listed c.go c.setting.domainList (c.go.toLower host) ↔ c.setting.domainFilterMode = true) := by
  unfold TargetPasses PortOpen
  rw [← exists_and_right]
  refine exists_congr fun p => ?_
  rw [← exists_and_right]
  refine exists_congr fun port => ?_
  simp only [and_assoc]
  refine and_congr_right fun hp => and_congr_right fun _ => ?_
  simp only [newSSRFProtectionFromFetchSetting, bind_eq_ok, pure_eq_ok] at hp
  obtain ⟨ports, -, rfl⟩ := hp
  simp only [SSRFProtection.validateNetworkTarget, hs.trimmed, hs.notIP, bind_eq_ok, check_eq_ok, exists_const,
    hs.nonempty, ne_eq, not_false_eq_true, true_and, SSRFProtection.isDomainAllowed, ← isDomainListed_iff]
  cases c.setting.domainFilterMode <;> simp

end

/-! ### The two checks -/

/-- The check of a URL lets it pass, if the resolver gives suitable answers. -/
def UrlPasses (c : Client) (url : String) : Prop :=
  ∃ env, Prog.outcome (validateSSRFProtectedFetchURL c url).run [] env = some (.ok ())

/-- The check of the dialer lets the address pass: its host is looked up or something is dialled. -/
def DialPasses (c : Client) (network addr : String) : Prop :=
  ∃ env, Prog.exec (protectedDial c network addr).run [] env ≠ []

/-- Host and port that an entry of the log contacts: those of a URL that is requested, or of an address
that is dialled. -/
def contact (go : GoNet) : Entry → Option (String × String)
  | .request url => (go.parseURL url).toOption.map (urlTarget go)
  | .lookup _ _ => none
  | .dial _ addr _ => (go.splitHostPort addr).toOption

/-- The rules of the settings let a URL pass. -/
def WebTarget (c : Client) (url : String) : Prop :=
  ∃ u, c.go.parseURL url = .ok u ∧ (u.scheme = "http" ∨ u.scheme = "https") ∧
    TargetPasses c (urlTarget c.go u).1 (urlTarget c.go u).2

/-- Every action keeps `I`, and a result meets `P`. -/
abbrev KeepsLog {α : Type} (I : Log → Prop) (P : α → Prop) (x : Call α) : Prop :=
  Routine.Keeps I (fun _ _ => True) P (fun _ => True) x

section

variable {c : Client} {url addr network : String} {I : Log → Prop} {α β : Type} {P : β → Prop}
  {x : Except String α} {g : α → Call β}

theorem keeps_lift_bind (h : ∀ a, x = .ok a → KeepsLog I P (g a)) : KeepsLog I P (Routine.lift x >>= g) :=
  (keeps_lift (fun _ hx => hx) fun _ _ => trivial).bind h

theorem keeps_ask_bind {f : Env → α} (h : ∀ a, KeepsLog I P (g a)) : KeepsLog I P (ask f >>= g) :=
  Keeps.before (Prog.keeps_read (fun _ _ => trivial) fun _ _ _ => trivial) h

theorem keeps_record_bind {f : Env → Entry × α} (hI : ∀ log e, I log → I ((f e).1 :: log))
    (h : ∀ a, KeepsLog I P (g a)) : KeepsLog I P (record f >>= g) :=
  Keeps.before (Prog.keeps_update fun log e hlog => ⟨trivial, hI log e hlog, trivial⟩) h

theorem lift_ok_bind (a : α) : (Routine.lift (.ok a) : Call α) >>= g = g a := rfl

variable (hon : c.setting.enableSSRFProtection = true)
include hon

/-- A URL that passes has a target that does. -/
theorem validateURL_keeps : KeepsLog I (fun _ => WebTarget c url) (validateSSRFProtectedFetchURL c url) := by
  unfold validateSSRFProtectedFetchURL
  rw [if_neg (by simp [hon])]
  refine keeps_lift_bind fun p hp => ?_
  refine keeps_lift_bind fun u hu => ?_
  refine keeps_lift_bind fun _ hscheme => ?_
  refine keeps_lift_bind fun port hport => ?_
  refine keeps_lift_bind fun _ hvalid => ?_
  have hpasses : WebTarget c url :=
    ⟨u, prefixError_eq_ok.mp hu, check_eq_ok.mp hscheme, p, port, hp, prefixError_eq_ok.mp hport, hvalid⟩
  split
  · exact keeps_pure hpasses
  refine keeps_ask_bind fun answer => ?_
  refine keeps_lift_bind fun ips _ => ?_
  exact keeps_lift (fun _ _ => hpasses) fun _ _ => trivial

theorem urlPasses_iff : UrlPasses c url ↔ WebTarget c url := by
  constructor
  · rintro ⟨env, h⟩
    exact ((validateURL_keeps (I := fun _ => True) hon).safe_all []).outcome (R := Eq) (fun _ => rfl) trivial h
  · rintro ⟨u, hu, hscheme, p, port, hp, hport, hvalid⟩
    -- no address is resolved, so that none is refused
    refine ⟨[{}], ?_⟩
    simp only [validateSSRFProtectedFetchURL, hon, Bool.true_eq_false, if_false, hp, validateURL, hu, prefixError,
      lift_ok_bind, hport, hvalid, check_pos hscheme]
    split <;> rfl

/-- The dialer acts on a target that passes only. -/
theorem protectedDial_keeps (h : ∀ t, c.go.splitHostPort addr = .ok t → TargetPasses c t.1 t.2 → ∀ log, I log →
      (∀ answer, I (.lookup t.1 answer :: log)) ∧ ∀ address, I (.dial network addr address :: log)) :
    KeepsLog I (fun _ => True) (protectedDial c network addr) := by
  unfold protectedDial
  rw [if_neg (by simp [hon])]
  refine keeps_lift_bind fun p hp => ?_
  refine keeps_lift_bind fun t htarget => ?_
  refine keeps_lift_bind fun port hport => ?_
  refine keeps_lift_bind fun _ hvalid => ?_
  have hI := h t (prefixError_eq_ok.mp htarget) ⟨p, port, hp, prefixError_eq_ok.mp hport, hvalid⟩
  have honly : ∀ address, KeepsLog I (fun _ => True) (dialOnly network addr address) := by
    intro address
    refine keeps_record_bind (fun log _ hlog => (hI log hlog).2 address) fun e => ?_
    cases e with
    | none => exact keeps_pure trivial
    | some e => exact keeps_throw trivial
  split
  · exact honly _
  split
  · exact honly _
  refine Keeps.before (keeps_record_bind (fun log _ hlog => (hI log hlog).1 _) fun _ =>
    keeps_lift (fun _ _ => trivial) fun _ _ => trivial) fun resolved => ?_
  refine keeps_lift_bind fun candidates hcandidates => ?_
  clear hcandidates
  generalize (none : Option String) = e
  induction candidates generalizing e with
  | nil => cases e <;> exact keeps_throw trivial
  | cons ip rest ih =>
    cases e <;> refine keeps_record_bind (fun log _ hlog => (hI log hlog).2 _) fun e => ?_
    all_goals
      cases e with
      | none => exact keeps_pure trivial
      | some e => exact ih (some e)

theorem dialPasses_iff :
    DialPasses c network addr ↔ ∃ t, c.go.splitHostPort addr = .ok t ∧ TargetPasses c t.1 t.2 := by
  constructor
  · rintro ⟨env, h⟩
    refine ((protectedDial_keeps (I := fun log => log ≠ [] → ∃ t, c.go.splitHostPort addr = .ok t ∧
      TargetPasses c t.1 t.2) hon ?_).safe_all []).exec (R := Eq) (fun _ => rfl) (fun h => absurd rfl h) env h
    intro t htarget hpasses log _
    exact ⟨fun _ _ => ⟨t, htarget, hpasses⟩, fun _ _ => ⟨t, htarget, hpasses⟩⟩
  · rintro ⟨t, htarget, p, port, hp, hport, hvalid⟩
    refine ⟨[{}], ?_⟩
    simp only [protectedDial, hon, Bool.true_eq_false, if_false, hp, htarget, prefixError, lift_ok_bind, hport, hvalid]
    split
    · exact cons_ne_nil _ _
    split <;> exact cons_ne_nil _ _

/-- A fetch contacts targets that pass only. -/
theorem contact_passes (hproxy : ∀ url, c.proxy url = none) (start : String) (env : List Env) :
    ∀ e ∈ logOf c start env, ∀ t, contact c.go e = some t → TargetPasses c t.1 t.2 := by
  let I : Log → Prop := fun log => ∀ e ∈ log, ∀ t, contact c.go e = some t → TargetPasses c t.1 t.2
  have hdials : ∀ addr n, KeepsLog I (fun _ => True) (transportDials c none addr n) := by
    intro addr n
    induction n with
    | zero => exact keeps_pure trivial
    | succ n ih =>
      refine Keeps.before (Keeps.attempt (protectedDial_keeps hon ?_) (fun _ _ => trivial) fun _ _ => trivial)
        fun _ => ih
      intro t htarget hpasses log hlog
      refine ⟨fun _ => forall_mem_cons.mpr ⟨fun _ => by simp [contact], hlog⟩,
        fun _ => forall_mem_cons.mpr ⟨fun t' ht => ?_, hlog⟩⟩
      simp only [contact, htarget, Except.toOption, Option.some.injEq] at ht
      exact ht ▸ hpasses
  have hfollow : ∀ fuel via url, KeepsLog I (fun _ => True) (follow c fuel via url) := by
    intro fuel
    induction fuel with
    | zero => exact fun _ _ => keeps_pure trivial
    | succ fuel ih =>
      intro via url
      refine Keeps.before ((validateURL_keeps hon).bind fun _ ⟨u, hu, _, hpasses⟩ => ?_) fun r => ?_
      · refine keeps_lift_bind fun u' hu' => keeps_record_bind (fun log _ hlog => ?_) fun _ => ?_
        · refine forall_mem_cons.mpr ⟨fun t ht => ?_, hlog⟩
          simp only [contact, hu, Except.toOption, Option.map_some, Option.some.injEq] at ht
          exact ht ▸ hpasses
        · refine keeps_ask_bind fun dials => ?_
          rw [hproxy]
          exact (hdials _ _).before fun _ => Prog.keeps_read (fun _ _ => trivial) fun _ _ _ => trivial
      · cases r with
        | final | failed => exact keeps_pure trivial
        | redirect location =>
          refine Keeps.before (Keeps.before ((validateURL_keeps hon).adapted.mono (fun _ _ => trivial)
            fun _ _ => trivial) fun _ => ?_) fun _ => ih _ _
          split
          · exact keeps_throw trivial
          · exact keeps_pure trivial
  exact ((hfollow 10 [] start).safe_all []).exec (R := Eq) (fun _ => rfl)
    (fun _ h => absurd h not_mem_nil) env

end

/-! ### Decisions on names -/

/-- The filter decides on a name: both checks treat its spellings alike, no spelling of a name on a block
list is contacted, and only names on an allow list are. -/
structure DecidesName (c : Client) (name : String) : Prop where
  urls : ∀ url url' u u', c.go.parseURL url = .ok u → c.go.parseURL url' = .ok u' → u.scheme = u'.scheme →
    Spells c.go name (urlTarget c.go u).1 → Spells c.go name (urlTarget c.go u').1 →
    (urlTarget c.go u).2 = (urlTarget c.go u').2 → (UrlPasses c url ↔ UrlPasses c url')
  dials : ∀ network addr addr' host host' portText, c.go.splitHostPort addr = .ok (host, portText) →
    c.go.splitHostPort addr' = .ok (host', portText) → Spells c.go name host → Spells c.go name host' →
    (DialPasses c network addr ↔ DialPasses c network addr')
  blocked : c.setting.domainFilterMode = false → Named c.go c.setting.domainList name →
    ∀ start env, ∀ e ∈ logOf c start env, ∀ t, contact c.go e = some t → ¬ Spells c.go name t.1
  allowed : c.setting.domainFilterMode = true → ∀ start env, ∀ e ∈ logOf c start env,
    ∀ t, contact c.go e = some t → Spells c.go name t.1 → Named c.go c.setting.domainList name

/-- Both spellings of the name can be dialled at a port that passes. -/
structure Dialable (c : Client) (name addr addr' portText : String) : Prop where
  plain : Spells c.go name name ∧ c.go.toLower name = name ∧ c.go.splitHostPort addr = .ok (name, portText)
  dotted : Spells c.go name (name ++ ".") ∧ c.go.toLower (name ++ ".") = name ++ "." ∧
    c.go.splitHostPort addr' = .ok (name ++ ".", portText)
  port : PortOpen c portText

/-- A library in which every text is a host at port 80. -/
def hostNet : GoNet where
  parseURL s := .ok ⟨"http", s, s⟩
  splitHostPort s := .ok (s, "80")
  canonicalAddr u := u.host
  parseIP _ := none
  parseCIDR _ := none
  ipString _ := ""
  toLower s := s
  parseIP_trim _ _ h := by cases h

/-- The default settings with a block list. -/
def blockClient (list : List String) : Client :=
  { smallClient with go := hostNet, setting := { smallClient.setting with domainList := list } }

end MyApiSpec.Fetch
