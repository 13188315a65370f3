import Mathlib.Algebra.GroupWithZero.Nat
import MyApiSpec.Access.Registry

/-!
# The access policy of a request

`service/accesspolicy/accesspolicy.go:14–400`, `service/accesspolicy/ingress.go`,
`model/access_profile.go:168–310` and `middleware/access_policy.go:24–59`. A request snapshot holds
the references to the account tier and the access profile and the combined lists of both; the
evaluation compares the selected group and model with it, and in the enforced scope a blocking
finding or a failed evaluation rejects the request.
-/

namespace MyApiSpec.Access

open Base

/-! ### Values of a snapshot -/

/-- The stable errors of the policy core. -/
inductive PolicyError where
  | invalidReference
  | invalidList
  | unsupportedSchema
  | invalidLegacyOutcome
  deriving DecidableEq, Repr

/-- `ReferenceState`; `unset` is the zero value. -/
inductive ReferenceState where
  | unset
  | empty
  | knownEnabled
  | knownDisabled
  | unknown
  deriving DecidableEq, Repr

/-- The text of a reference state. -/
def ReferenceState.text : ReferenceState → String
  | .unset => ""
  | .empty => "empty"
  | .knownEnabled => "known_enabled"
  | .knownDisabled => "known_disabled"
  | .unknown => "unknown"

/-- `ListPresence`; `unset` is the zero value. -/
inductive ListPresence where
  | unset
  | absent
  | explicitEmpty
  | values
  deriving DecidableEq, Repr

/-- `PolicyMode`; `unset` is the zero value. -/
inductive PolicyMode where
  | unset
  | off
  | audit
  | enforce
  deriving DecidableEq, Repr

/-- `Reference`. -/
structure Reference where
  state : ReferenceState := .unset
  id : String := ""
  deriving DecidableEq, Repr

/-- `StringList`; a nil slice is `none`. -/
structure StringList where
  presence : ListPresence := .unset
  values : Option (List String) := none
  deriving DecidableEq, Repr

/-- `AccessPolicySnapshot` without its content digest. -/
structure AccessPolicySnapshot where
  schemaVersion : Nat := 0
  mode : PolicyMode := .unset
  registryRevision : Nat := 0
  accountTier : Reference := {}
  accessProfile : Reference := {}
  allowedGroups : StringList := {}
  allowedModels : StringList := {}
  allowedRoutes : StringList := {}
  deriving DecidableEq, Repr

/-- `LegacyOutcome` with its price fields. -/
structure LegacyOutcome where
  allow : Bool
  usingGroup : String
  usingModel : String
  modelRatio : String := ""
  groupRatio : String := ""
  deriving DecidableEq, Repr

/-- The codes of findings. -/
inductive FindingCode where
  | emptyReference
  | disabledReference
  | unknownReference
  | danglingModelReference
  | danglingRouteReference
  | legacyGroupDifference
  | legacyModelDifference
  | enforcementNotAvailable
  deriving DecidableEq, Repr

/-- The text of a code. -/
def FindingCode.text : FindingCode → String
  | .emptyReference => "empty_reference"
  | .disabledReference => "disabled_reference"
  | .unknownReference => "unknown_reference"
  | .danglingModelReference => "dangling_model_reference"
  | .danglingRouteReference => "dangling_route_reference"
  | .legacyGroupDifference => "legacy_group_difference"
  | .legacyModelDifference => "legacy_model_difference"
  | .enforcementNotAvailable => "enforcement_not_available"

/-- `Finding`. -/
structure Finding where
  code : FindingCode
  subject : String := ""
  state : ReferenceState := .unset
  deriving DecidableEq, Repr

/-- `PolicyDecision`. -/
structure PolicyDecision where
  snapshot : AccessPolicySnapshot
  applied : Bool := false
  legacy : LegacyOutcome
  findings : List Finding
  deriving DecidableEq, Repr

/-! ### Normalisation -/

/-- `isSafePolicyText`. -/
def isSafePolicyText (value : String) (maxLength : Nat) : Bool := validPolicyText value maxLength

/-- `isStableID`. -/
def isStableID (value : String) (maxLength : Nat) : Bool :=
  isSafePolicyText value maxLength && value.toList.all stableIDChar

/-- The loop of `isCanonicalRatio` over the characters from `index` on; every accepted character
is one byte long. -/
def canonicalRatioLoop (size : Nat) : Nat → Bool → Bool → List Char → Bool
  | _, _, digitSeen, [] => digitSeen
  | index, dotSeen, digitSeen, c :: rest =>
    if '0' ≤ c ∧ c ≤ '9' then canonicalRatioLoop size (index + 1) dotSeen true rest
    else if c = '.' ∧ dotSeen = false ∧ index ≠ 0 ∧ index + 1 ≠ size then
      canonicalRatioLoop size (index + 1) true digitSeen rest
    else false

/-- `isCanonicalRatio`. -/
def isCanonicalRatio (value : String) : Bool :=
  if value = "" then true
  else if value.utf8ByteSize > 32 then false
  else canonicalRatioLoop value.utf8ByteSize 0 false false value.toList

/-- `normalizeReference`. -/
def normalizeReference (input : Reference) : Except PolicyError Reference :=
  let state := if input.state = .unset ∧ input.id = "" then .empty else input.state
  if state = .unset then .error .invalidReference
  else if state = .empty then
    if input.id ≠ "" then .error .invalidReference else .ok { state := .empty }
  else if isStableID input.id 64 = false then .error .invalidReference
  else .ok { state := state, id := input.id }

/-- The presence that `normalizeStringList` derives from the values. -/
def StringList.derivedPresence (input : StringList) : ListPresence :=
  if input.presence = .unset then
    match input.values with
    | none => .absent
    | some [] => .explicitEmpty
    | some (_ :: _) => .values
  else input.presence

/-- `normalizeStringList`. -/
def normalizeStringList (input : StringList) (maxLength : Nat) (stableID : Bool) :
    Except PolicyError StringList :=
  match input.derivedPresence with
  | .absent => if input.values ≠ none then .error .invalidList else .ok { presence := .absent }
  | .explicitEmpty =>
    if listSize input.values ≠ 0 then .error .invalidList
    else .ok { presence := .explicitEmpty, values := some [] }
  | .values => do
    check (listSize input.values ≠ 0 ∧ listSize input.values ≤ 128) .invalidList
    let values ← collect
      (fun value =>
        if (if stableID then isStableID value maxLength else isSafePolicyText value maxLength) then
          .ok value else .error .invalidList)
      [] (input.values.getD [])
    return { presence := .values, values := some (values.mergeSort (fun a b => a ≤ b)) }
  | .unset => .error .invalidList

/-- `totalListValues` and `rawListValueCount`. -/
def totalListValues (lists : List StringList) : Nat :=
  (lists.map (fun l => listSize l.values)).sum

/-- `MaxTotalListValues`. -/
def maxTotalListValues : Nat := 256

/-- The limit on the values of all lists of a snapshot. -/
def checkListTotal (groups models routes : StringList) : Except PolicyError Unit :=
  check (totalListValues [groups, models, routes] ≤ maxTotalListValues) .invalidList

/-- `NormalizeSnapshot`. -/
def normalizeSnapshot (input : AccessPolicySnapshot) : Except PolicyError AccessPolicySnapshot := do
  checkListTotal input.allowedGroups input.allowedModels input.allowedRoutes
  let schemaVersion := if input.schemaVersion = 0 then 1 else input.schemaVersion
  check (schemaVersion = 1) .unsupportedSchema
  let mode := if input.mode = .unset then .off else input.mode
  let accountTier ← normalizeReference input.accountTier
  let accessProfile ← normalizeReference input.accessProfile
  let allowedGroups ← normalizeStringList input.allowedGroups 64 true
  let allowedModels ← normalizeStringList input.allowedModels 255 false
  let allowedRoutes ← normalizeStringList input.allowedRoutes 64 true
  checkListTotal allowedGroups allowedModels allowedRoutes
  return ⟨schemaVersion, mode, input.registryRevision, accountTier, accessProfile, allowedGroups,
    allowedModels, allowedRoutes⟩

/-- `validateAndCopyLegacyOutcome`. -/
def validateAndCopyLegacyOutcome (input : LegacyOutcome) : Except PolicyError LegacyOutcome := do
  check (¬ (input.usingGroup ≠ "" ∧ isStableID input.usingGroup 64 = false)) .invalidLegacyOutcome
  check (¬ (input.usingModel ≠ "" ∧ isSafePolicyText input.usingModel 255 = false))
    .invalidLegacyOutcome
  check (isCanonicalRatio input.modelRatio = true ∧ isCanonicalRatio input.groupRatio = true)
    .invalidLegacyOutcome
  return input

/-! ### Findings -/

/-- `appendReferenceFinding`. -/
def appendReferenceFinding (findings : List Finding) (subject : String) (reference : Reference) :
    List Finding :=
  match reference.state with
  | .empty => findings ++ [⟨.emptyReference, subject, .empty⟩]
  | .knownDisabled => findings ++ [⟨.disabledReference, subject, .knownDisabled⟩]
  | .unknown => findings ++ [⟨.unknownReference, subject, .unknown⟩]
  | _ => findings

/-- `appendDanglingFindings`. -/
def appendDanglingFindings (findings : List Finding) (code : FindingCode)
    (requested available : StringList) : List Finding :=
  if requested.presence ≠ .values ∨ available.presence = .absent then findings
  else findings ++ ((requested.values.getD []).filter
    (fun value => value ∉ available.values.getD [])).map (fun value => ⟨code, value, .unknown⟩)

/-- `appendPolicyDifferenceFinding`. -/
def appendPolicyDifferenceFinding (findings : List Finding) (allowed : StringList)
    (legacyValue : String) (code : FindingCode) : List Finding :=
  if legacyValue = "" ∨ allowed.presence = .absent then findings
  else if legacyValue ∈ allowed.values.getD [] then findings
  else findings ++ [{ code := code, subject := legacyValue }]

/-- The order of `canonicalFindings`. -/
def Finding.before (a b : Finding) : Bool :=
  if a.code ≠ b.code then a.code.text < b.code.text
  else if a.subject ≠ b.subject then a.subject < b.subject
  else a.state.text ≤ b.state.text

/-- `canonicalFindings`. -/
def canonicalFindings (input : List Finding) : List Finding :=
  (distinct input).mergeSort Finding.before

/-- The findings of `Evaluate` in the order in which they are appended. -/
def policyFindings (snapshot : AccessPolicySnapshot) (legacy : LegacyOutcome)
    (availableModels availableRoutes : StringList) : List Finding :=
  let findings := appendReferenceFinding [] "account_tier" snapshot.accountTier
  let findings := appendReferenceFinding findings "access_profile" snapshot.accessProfile
  let findings := appendDanglingFindings findings .danglingModelReference snapshot.allowedModels
    availableModels
  let findings := appendDanglingFindings findings .danglingRouteReference snapshot.allowedRoutes
    availableRoutes
  let findings := appendPolicyDifferenceFinding findings snapshot.allowedGroups legacy.usingGroup
    .legacyGroupDifference
  let findings := appendPolicyDifferenceFinding findings snapshot.allowedModels legacy.usingModel
    .legacyModelDifference
  if snapshot.mode = .enforce then findings ++ [{ code := .enforcementNotAvailable }]
  else findings

/-- `Evaluate`. -/
def evaluate (input : AccessPolicySnapshot) (outcome : LegacyOutcome)
    (availableModels availableRoutes : StringList) : Except PolicyError PolicyDecision := do
  let snapshot ← normalizeSnapshot input
  let legacy ← validateAndCopyLegacyOutcome outcome
  let availableModels ← normalizeStringList availableModels 255 false
  let availableRoutes ← normalizeStringList availableRoutes 64 true
  return { snapshot := snapshot, legacy := legacy
           findings := canonicalFindings
            (policyFindings snapshot legacy availableModels availableRoutes) }

/-- The codes that justify a rejection in the enforced scope. -/
def FindingCode.blocking : FindingCode → Bool
  | .legacyGroupDifference | .legacyModelDifference | .disabledReference | .unknownReference => true
  | _ => false

/-- `BlockingFindings`. -/
def blockingFindings (decision : PolicyDecision) : List Finding :=
  decision.findings.filter fun finding => finding.code.blocking

/-! ### References -/

/-- What a resolution keeps of a definition for the policy: `AccessProfileMetadata` and
`AccountTierMetadata` without their texts. -/
structure PolicyMetadata where
  id : String
  routeGroups : Option (List String) := none
  modelAllowlist : Option (List String) := none
  enabled : Bool := true
  known : Bool := false
  deriving DecidableEq, Repr

/-- The metadata of an id for the entry that the registry has for it. -/
def PolicyMetadata.of (id : String) : Option PolicyDefinition → PolicyMetadata
  | none => { id := id }
  | some d => { id := id, routeGroups := d.routeGroups, modelAllowlist := d.modelAllowlist
                enabled := d.enabled.getD true, known := true }

/-- The stable profile id of a legacy group. -/
def profileIDOfGroup (groupName : String) : String :=
  if groupName = "" ∨ groupName = "default" then "standard"
  else if groupName = "vip" then "priority"
  else if groupName = "auto" then "automatic"
  else groupName

/-- `resolveAccessProfile`. -/
def resolveAccessProfile (groupName : String) (registry : AccessProfileSetting) : PolicyMetadata :=
  .of (profileIDOfGroup groupName)
    ((registry.profiles.lookup (profileIDOfGroup groupName)).map (·.toPolicyDefinition))

/-- `ResolveAccessProfileIDWithSnapshot`. -/
def resolveAccessProfileIDWithSnapshot (profileID fallbackGroup : String)
    (registry : AccessProfileSetting) : PolicyMetadata :=
  let id := trimSpace profileID
  if id = "" then resolveAccessProfile fallbackGroup registry
  else if id = "standard" then resolveAccessProfile "default" registry
  else if id = "priority" then resolveAccessProfile "vip" registry
  else if id = "automatic" then resolveAccessProfile "auto" registry
  else resolveAccessProfile id registry

/-- The stable tier id of a legacy group. -/
def tierIDOfGroup (groupName : String) : String :=
  if groupName = "" ∨ groupName = "default" then "standard"
  else if groupName = "vip" then "priority"
  else groupName

/-- `resolveAccountTier`. -/
def resolveAccountTier (groupName : String) (registry : AccessProfileSetting) : PolicyMetadata :=
  .of (tierIDOfGroup groupName) (registry.accountTiers.lookup (tierIDOfGroup groupName))

/-- `ResolveAccountTierIDWithSnapshot`. -/
def resolveAccountTierIDWithSnapshot (id : String) (registry : AccessProfileSetting) :
    PolicyMetadata :=
  let id := trimSpace id
  if id = "" ∨ id = "standard" then resolveAccountTier "default" registry
  else if id = "priority" then resolveAccountTier "vip" registry
  else resolveAccountTier id registry

/-- `policyReferenceState`. -/
def policyReferenceState (known enabled : Bool) : ReferenceState :=
  if known = false then .unknown
  else if enabled = false then .knownDisabled
  else .knownEnabled

/-- `resolveTierReference`. -/
def resolveTierReference (tierID : String) (registry : AccessProfileSetting) :
    PolicyMetadata × Reference :=
  let tierID := trimSpace tierID
  -- the zero metadata of the source: no lists, not enabled, not known
  if tierID = "" then ({ id := "", enabled := false }, { state := .empty })
  else
    let tier := resolveAccountTierIDWithSnapshot tierID registry
    (tier, { state := policyReferenceState tier.known tier.enabled, id := tier.id })

/-! ### The request snapshot -/

/-- `stringListFrom`. -/
def stringListFrom : Option (List String) → StringList
  | none => { presence := .absent }
  | some [] => { presence := .explicitEmpty, values := some [] }
  | some (v :: vs) => { presence := .values, values := some (v :: vs) }

/-- The list that admits nothing. -/
def denyAll : StringList := { presence := .explicitEmpty, values := some [] }

/-- `policyListsForReference`. -/
def policyListsForReference (routeGroups modelAllowlist : Option (List String))
    (state : ReferenceState) : StringList × StringList :=
  if state = .knownDisabled ∨ state = .unknown then (denyAll, denyAll)
  else (stringListFrom routeGroups, stringListFrom modelAllowlist)

/-- The values of `left` that are in `right`, each once. -/
def sharedValues (left right : List String) : List String :=
  distinct (left.filter (fun value => value ∈ right))

/-- `intersectStringLists`. -/
def intersectStringLists (left right : StringList) : StringList :=
  if left.presence = .explicitEmpty ∨ right.presence = .explicitEmpty then denyAll
  else if left.presence = .absent then right
  else if right.presence = .absent then left
  else
    match sharedValues (left.values.getD []) (right.values.getD []) with
    | [] => denyAll
    | v :: vs => { presence := .values, values := some (v :: vs) }

/-- `SnapshotSource`. -/
structure SnapshotSource where
  accountTierID : String
  accessProfileID : String
  legacyTokenGroup : String
  usingGroup : String
  usingModel : String
  legacyAllowed : Bool := true
  modelRatio : String := ""
  groupRatio : String := ""
  deriving DecidableEq, Repr

/-- `BuildRequestSnapshot`. -/
def buildRequestSnapshot (registry : AccessProfileSetting) (source : SnapshotSource) :
    Except PolicyError AccessPolicySnapshot :=
  let (tier, tierReference) := resolveTierReference source.accountTierID registry
  let profile := resolveAccessProfileIDWithSnapshot (trimSpace source.accessProfileID)
    source.legacyTokenGroup registry
  let profileReference : Reference :=
    { state := policyReferenceState profile.known profile.enabled, id := profile.id }
  let (tierGroups, tierModels) :=
    policyListsForReference tier.routeGroups tier.modelAllowlist tierReference.state
  let (profileGroups, profileModels) :=
    policyListsForReference profile.routeGroups profile.modelAllowlist profileReference.state
  let effectiveGroups := intersectStringLists tierGroups profileGroups
  let effectiveModels := intersectStringLists tierModels profileModels
  normalizeSnapshot
    { schemaVersion := 1, mode := .off, accountTier := tierReference
      accessProfile := profileReference, allowedGroups := effectiveGroups
      allowedModels := effectiveModels, allowedRoutes := effectiveGroups }

/-- `EvaluateRequest`. -/
def evaluateRequest (registry : AccessProfileSetting) (mode : PolicyMode) (source : SnapshotSource)
    (registryRevision : Nat) : Except PolicyError PolicyDecision := do
  let snapshot ← buildRequestSnapshot registry source
  evaluate { snapshot with mode := mode, registryRevision := registryRevision }
    { allow := source.legacyAllowed, usingGroup := source.usingGroup
      usingModel := source.usingModel, modelRatio := source.modelRatio
      groupRatio := source.groupRatio } {} {}

/-! ### The middleware -/

/-- The configured mode of `setting/access_policy_mode.go`. -/
inductive AccessPolicyMode where
  | off
  | audit
  | enforce
  deriving DecidableEq, Repr

/-- The settings that the middleware reads; `groupRatio` renders the effective ratio of a group
and is empty for a group without one. -/
structure AccessSettings where
  registry : AccessProfileSetting
  mode : AccessPolicyMode
  enforceGroups : List String
  groupRatio : String → String

/-- The identities of a request. -/
structure RequestIdentity where
  accountTierID : String
  accessProfileID : String
  tokenGroup : String
  deriving DecidableEq, Repr

/-- `AccessPolicyEnforcedForGroup`. -/
def accessPolicyEnforcedForGroup (settings : AccessSettings) (group : String) : Bool :=
  settings.mode = .enforce && settings.enforceGroups.contains (trimSpace group)

/-- The request that the middleware evaluates. -/
def requestSource (settings : AccessSettings) (identity : RequestIdentity) (group model : String) :
    SnapshotSource :=
  { accountTierID := identity.accountTierID, accessProfileID := identity.accessProfileID
    legacyTokenGroup := identity.tokenGroup, usingGroup := group, usingModel := model
    groupRatio := settings.groupRatio group }

/-- `accessPolicyRejectsSelectedGroup`; the audit log is left out. -/
def accessPolicyRejectsSelectedGroup (settings : AccessSettings) (identity : RequestIdentity)
    (usingGroup usingModel : String) : Bool :=
  if settings.mode = .off then false
  else
    let policyMode := if settings.mode = .enforce then .enforce else .audit
    let enforceScope := settings.mode = .enforce && accessPolicyEnforcedForGroup settings usingGroup
    match evaluateRequest settings.registry policyMode
      (requestSource settings identity usingGroup usingModel) 0 with
    | .error _ => enforceScope
    | .ok decision => if enforceScope = false then false else !(blockingFindings decision).isEmpty

end MyApiSpec.Access
