import Mathlib.Data.List.Perm.Subperm
import MyApiSpec.Base.Distinct
import MyApiSpec.Base.GoText
import MyApiSpec.Base.Outcome

/-!
# The registries of access profiles and account tiers

`setting/access_profile.go:14–41, 243–398`. A registry is a map of definitions under stable ids;
the decoded JSON object is a list of entries, and an absent or `null` list of a definition is
`none`. The two parsers share everything but their error texts and the fallback graph of the
profiles.
-/

namespace MyApiSpec.Access

open Base List

/-! ### Definitions -/

variable {reason : String}

/-- The fields that `AccessProfileDefinition` and `AccountTierDefinition` share. -/
structure PolicyDefinition where
  label : String
  description : String := ""
  routeGroups : Option (List String) := none
  modelAllowlist : Option (List String) := none
  enabled : Option Bool := none
  deriving DecidableEq, Repr

/-- `AccountTierDefinition`. -/
abbrev AccountTierDefinition := PolicyDefinition

/-- `AccessProfileDefinition`. -/
structure AccessProfileDefinition extends PolicyDefinition where
  fallbackProfiles : Option (List String) := none
  deriving DecidableEq, Repr

/-- `AccessProfileSetting`: definitions under their ids. -/
structure AccessProfileSetting where
  profiles : List (String × AccessProfileDefinition)
  accountTiers : List (String × AccountTierDefinition)
  deriving DecidableEq, Repr

/-! ### Valid texts -/

/-- A character that policy texts may hold. -/
def safePolicyChar (c : Char) : Bool :=
  !(c.toNat ≤ 0x1f || (0x7f ≤ c.toNat && c.toNat ≤ 0x9f) || isFormat c)

/-- A character that stable ids may hold. -/
def stableIDChar (c : Char) : Bool :=
  ('a' ≤ c && c ≤ 'z') || ('A' ≤ c && c ≤ 'Z') || ('0' ≤ c && c ≤ '9') ||
    ['.', '_', ':', '-', '/'].contains c

/-- `validPolicyText`; every Lean string is valid UTF-8. -/
def validPolicyText (value : String) (maxLength : Nat) : Bool :=
  value ≠ "" && value.utf8ByteSize ≤ maxLength && value.toList.all safePolicyChar

/-- `validPolicyID`. -/
def validPolicyID (value : String) : Bool := validPolicyText value 64 && value.toList.all stableIDChar

/-! ### Lists -/

/-- The loop that `normalizePolicyIDList` and `normalizePolicyTextList` share. -/
def normalizePolicyList (clean : String → String) (valid : String → Bool) (reason : String) :
    Option (List String) → Except String (Option (List String))
  | none => .ok none
  | some values => do
    check (values.length ≤ 128) "too many values"
    let normalized ← collect
      (fun value => if valid (clean value) then .ok (clean value) else .error reason) [] values
    return some normalized

/-- `normalizePolicyIDList`. -/
def normalizePolicyIDList : Option (List String) → Except String (Option (List String)) :=
  normalizePolicyList trimSpace validPolicyID "invalid id"

/-- `normalizePolicyTextList`. -/
def normalizePolicyTextList : Option (List String) → Except String (Option (List String)) :=
  normalizePolicyList id (fun value => validPolicyText value 255) "invalid value"

/-- The number of values of a list; an absent list has none. -/
def listSize (l : Option (List String)) : Nat := (l.getD []).length

/-! ### Entries -/

/-- Replace the text of an error. -/
def withReason {α : Type} (reason : String) : Except String α → Except String α
  | .ok a => .ok a
  | .error _ => .error reason

/-- Texts and lists of one definition, as both parsers normalise them. -/
def normalizeDefinition (what id : String) (d : PolicyDefinition) :
    Except String PolicyDefinition := do
  check (trimSpace d.label ≠ "") (what ++ " label must not be empty: " ++ id)
  let routeGroups ← withReason (what ++ " route_groups are invalid: " ++ id)
    (normalizePolicyIDList d.routeGroups)
  let modelAllowlist ← withReason (what ++ " model_allowlist is invalid: " ++ id)
    (normalizePolicyTextList d.modelAllowlist)
  return { d with label := trimSpace d.label, description := trimSpace d.description
                  routeGroups := routeGroups, modelAllowlist := modelAllowlist }

/-- The size limit of one definition; the groups count twice because a snapshot holds them as
groups and as routes. -/
def checkListSizes (what id : String) (d : PolicyDefinition) : Except String Unit :=
  check (2 * listSize d.routeGroups + listSize d.modelAllowlist ≤ 256)
    (what ++ " policy lists are too large: " ++ id)

/-- One profile of the registry. -/
def normalizeProfile (id : String) (p : AccessProfileDefinition) :
    Except String AccessProfileDefinition := do
  let d ← normalizeDefinition "access profile" id p.toPolicyDefinition
  let fallbackProfiles ← withReason ("access profile fallback_profiles are invalid: " ++ id)
    (normalizePolicyIDList p.fallbackProfiles)
  checkListSizes "access profile" id d
  return { d with fallbackProfiles := fallbackProfiles }

/-- One tier of the registry. -/
def normalizeTier (id : String) (tier : AccountTierDefinition) :
    Except String AccountTierDefinition := do
  let d ← normalizeDefinition "account tier" id tier
  checkListSizes "account tier" id d
  return d

/-- The loop over the entries of a registry. -/
def parseEntries {δ : Type} (what : String) (normalize : String → δ → Except String δ) :
    List (String × δ) → List (String × δ) → Except String (List (String × δ))
  | normalized, [] => .ok normalized
  | normalized, (rawID, d) :: rest => do
    check (validPolicyID (trimSpace rawID) = true) (what ++ " id is invalid")
    check (∀ entry ∈ normalized, entry.1 ≠ trimSpace rawID)
      (what ++ " ids must be unique after trimming: " ++ trimSpace rawID)
    let d ← normalize (trimSpace rawID) d
    parseEntries what normalize (normalized ++ [(trimSpace rawID, d)]) rest

/-! ### Fallback cycles -/

/-- The depth-first search for a fallback cycle. The ids on the current path have state 1 and the
ids in `done` state 2; the result is `done` after the visit. -/
def visit (graph : String → List String) : Nat → List String → List String → String →
    Except String (List String)
  | 0, _, done, _ => .ok done
  | depth + 1, path, done, id =>
    if id ∈ path then .error ("access profile fallback cycle detected at: " ++ id)
    else if id ∈ done then .ok done
    else do
      let done ← (graph id).foldlM (visit graph depth (id :: path)) done
      return id :: done

/-- The fallback ids of a profile in the normalised registry. -/
def fallbackGraph (normalized : List (String × AccessProfileDefinition)) (id : String) :
    List String :=
  ((normalized.lookup id).bind AccessProfileDefinition.fallbackProfiles).getD []

/-- Every fallback exists and differs from its profile. -/
def checkFallbacks (normalized : List (String × AccessProfileDefinition)) : Except String Unit :=
  normalized.forM fun entry => (entry.2.fallbackProfiles.getD []).forM fun fallback => do
    check (∃ other ∈ normalized, other.1 = fallback)
      ("access profile fallback does not exist: " ++ entry.1 ++ " -> " ++ fallback)
    check (fallback ≠ entry.1) ("access profile cannot fall back to itself: " ++ entry.1)

/-- `parseAccessProfileDefinitions` on a decoded value. -/
def parseAccessProfileDefinitions :
    Option (List (String × AccessProfileDefinition)) →
      Except String (List (String × AccessProfileDefinition))
  | none => .error "access profile definitions must be a JSON object"
  | some profiles => do
    let normalized ← parseEntries "access profile" normalizeProfile [] profiles
    checkFallbacks normalized
    let _ ← normalized.foldlM
      (fun done entry => visit (fallbackGraph normalized) (normalized.length + 1) [] done entry.1) []
    return normalized

/-- `parseAccountTierDefinitions` on a decoded value. -/
def parseAccountTierDefinitions :
    Option (List (String × AccountTierDefinition)) →
      Except String (List (String × AccountTierDefinition))
  | none => .error "account tier definitions must be a JSON object"
  | some tiers => parseEntries "account tier" normalizeTier [] tiers

/-! ### What the parsers accept -/

/-- The values of a normalised list are distinct and valid. -/
def ListOk (valid : String → Bool) (l : Option (List String)) : Prop :=
  ∀ vs, l = some vs → vs.Nodup ∧ vs.length ≤ 128 ∧ ∀ v ∈ vs, valid v = true

/-- The lists of an accepted definition. -/
structure PolicyDefinition.Accepted (d : PolicyDefinition) : Prop where
  groups : ListOk validPolicyID d.routeGroups
  models : ListOk (fun value => validPolicyText value 255) d.modelAllowlist
  size : 2 * listSize d.routeGroups + listSize d.modelAllowlist ≤ 256

variable {clean : String → String} {valid : String → Bool}

theorem normalizePolicyList_ok
    {l l' : Option (List String)} (h : normalizePolicyList clean valid reason l = .ok l') :
    ListOk valid l' := by
  cases l with
  | none =>
    cases h
    intro vs hvs
    cases hvs
  | some values =>
    simp only [normalizePolicyList, bind_eq_ok, check_eq_ok, exists_const, pure_eq_ok] at h
    obtain ⟨hlen, out, hout, rfl⟩ := h
    have hc := collect_ok hout
    intro vs hvs
    cases hvs
    refine ⟨hc.nodup nodup_nil, le_trans hc.length (by simpa using hlen), ?_⟩
    intro v hv
    obtain hv | ⟨a, -, ha⟩ := (hc.mem v).mp hv
    · cases hv
    · split at ha
      · next hvalid =>
        cases ha
        exact hvalid
      · cases ha

theorem withReason_eq_ok {α : Type} {x : Except String α} {a : α} :
    withReason reason x = .ok a ↔ x = .ok a := by
  cases x <;> simp [withReason]

variable {id : String}

theorem normalizeDefinition_ok {what : String} {d d' : PolicyDefinition}
    (h : normalizeDefinition what id d = .ok d') :
    ListOk validPolicyID d'.routeGroups ∧
      ListOk (fun value => validPolicyText value 255) d'.modelAllowlist := by
  simp only [normalizeDefinition, bind_eq_ok, check_eq_ok, exists_const, withReason_eq_ok, pure_eq_ok] at h
  obtain ⟨-, groups, hg, models, hm, rfl⟩ := h
  exact ⟨normalizePolicyList_ok hg, normalizePolicyList_ok hm⟩

theorem normalizeProfile_ok {p p' : AccessProfileDefinition}
    (h : normalizeProfile id p = .ok p') : p'.toPolicyDefinition.Accepted := by
  simp only [normalizeProfile, checkListSizes, bind_eq_ok, check_eq_ok, exists_const, pure_eq_ok] at h
  obtain ⟨d, hd, fallbacks, -, hsize, rfl⟩ := h
  obtain ⟨hg, hm⟩ := normalizeDefinition_ok hd
  exact ⟨hg, hm, hsize⟩

theorem normalizeTier_ok {tier tier' : AccountTierDefinition}
    (h : normalizeTier id tier = .ok tier') : PolicyDefinition.Accepted tier' := by
  simp only [normalizeTier, checkListSizes, bind_eq_ok, check_eq_ok, exists_const, pure_eq_ok] at h
  obtain ⟨d, hd, hsize, rfl⟩ := h
  obtain ⟨hg, hm⟩ := normalizeDefinition_ok hd
  exact ⟨hg, hm, hsize⟩

variable {δ : Type}

/-- Every entry of an accepted registry has a valid id and an accepted definition. -/
theorem parseEntries_ok {what : String} {normalize : String → δ → Except String δ}
    {P : δ → Prop} (hnorm : ∀ id d d', normalize id d = .ok d' → P d') :
    ∀ {entries normalized out : List (String × δ)},
    parseEntries what normalize normalized entries = .ok out →
      (∀ entry ∈ normalized, validPolicyID entry.1 = true ∧ P entry.2) →
      ∀ entry ∈ out, validPolicyID entry.1 = true ∧ P entry.2
  | [], normalized, out, h, hacc => by
    obtain rfl : normalized = out := Except.ok.inj h
    exact hacc
  | (rawID, d) :: rest, normalized, out, h, hacc => by
    simp only [parseEntries, bind_eq_ok, check_eq_ok, exists_const] at h
    obtain ⟨hid, -, d', hd, h⟩ := h
    refine parseEntries_ok hnorm h ?_
    intro entry hentry
    rcases mem_append.mp hentry with hentry | hentry
    · exact hacc entry hentry
    · obtain rfl := mem_singleton.mp hentry
      exact ⟨hid, hnorm _ _ _ hd⟩

/-- The registries that the parsers accepted. -/
structure AccessProfileSetting.Parsed (registry : AccessProfileSetting) : Prop where
  profiles : ∃ raw, parseAccessProfileDefinitions raw = .ok registry.profiles
  accountTiers : ∃ raw, parseAccountTierDefinitions raw = .ok registry.accountTiers

private theorem mem_of_lookup {entries : List (String × δ)} {d : δ}
    (h : entries.lookup id = some d) : (id, d) ∈ entries := by
  obtain ⟨l₁, l₂, rfl, -⟩ := lookup_eq_some_iff.mp h
  simp

variable {registry : AccessProfileSetting}

theorem AccessProfileSetting.Parsed.profile
    (h : registry.Parsed) {p : AccessProfileDefinition}
    (hp : registry.profiles.lookup id = some p) :
    validPolicyID id = true ∧ p.toPolicyDefinition.Accepted := by
  obtain ⟨raw, hraw⟩ := h.profiles
  cases raw with
  | none => cases hraw
  | some profiles =>
    simp only [parseAccessProfileDefinitions, bind_eq_ok, pure_eq_ok]
      at hraw
    obtain ⟨normalized, hparse, -, -, -, -, rfl⟩ := hraw
    exact parseEntries_ok (P := fun p => p.toPolicyDefinition.Accepted)
      (fun _ _ _ => normalizeProfile_ok) hparse (by simp) _ (mem_of_lookup hp)

theorem AccessProfileSetting.Parsed.tier (h : registry.Parsed)
    {tier : AccountTierDefinition} (ht : registry.accountTiers.lookup id = some tier) :
    validPolicyID id = true ∧ PolicyDefinition.Accepted tier := by
  obtain ⟨raw, hraw⟩ := h.accountTiers
  cases raw with
  | none => cases hraw
  | some tiers =>
    exact parseEntries_ok (P := PolicyDefinition.Accepted) (fun _ _ _ => normalizeTier_ok) hraw
      (by simp) _ (mem_of_lookup ht)

end MyApiSpec.Access
