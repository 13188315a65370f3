import MyApiSpec.Access.Policy

/-!
# What the enforced access policy decides

A definition grants lists of groups and models, where an absent list admits every value. The
combined lists of a request snapshot admit exactly what the tier and the profile both admit, so an
enforced request is let through if and only if both references are in force and both grants admit
its group and model. The one exception is a snapshot whose combined lists are too long: it is
refused although each of the two definitions passed its own size limit.
-/

namespace MyApiSpec.Access

open Base List PolicyMetadata

/-! ### Lists with an absent value -/

variable {l : Option (List String)} {group model v : String} {valid : String → Bool}
  {findings : List Finding} {registry : AccessProfileSetting} {identity : RequestIdentity} {n : Nat}

/-- The list admits the value; an absent list admits every value. -/
def Allows : Option (List String) → String → Prop
  | none, _ => True
  | some vs, v => v ∈ vs

instance (l : Option (List String)) (v : String) : Decidable (Allows l v) :=
  match l with
  | none => .isTrue trivial
  | some vs => inferInstanceAs (Decidable (v ∈ vs))

/-- The list that admits what both lists admit. -/
def meet : Option (List String) → Option (List String) → Option (List String)
  | none, r => r
  | some l, none => some l
  | some l, some r => some (sharedValues l r)

@[simp]
theorem meet_none_left (r : Option (List String)) : meet none r = r := rfl

@[simp]
theorem meet_none_right (l : Option (List String)) : meet l none = l := by
  cases l <;> rfl

theorem mem_sharedValues {l r : List String} : v ∈ sharedValues l r ↔ v ∈ l ∧ v ∈ r := by
  simp [sharedValues, mem_filter]

theorem allows_meet {a b : Option (List String)} :
    Allows (meet a b) v ↔ Allows a v ∧ Allows b v := by
  cases a <;> cases b <;> simp [meet, Allows, mem_sharedValues]

theorem intersect_stringListFrom (a b : Option (List String)) :
    intersectStringLists (stringListFrom a) (stringListFrom b) = stringListFrom (meet a b) := by
  rcases a with _ | _ | ⟨x, xs⟩ <;> rcases b with _ | _ | ⟨y, ys⟩ <;> try rfl
  · simp [intersectStringLists, stringListFrom, meet, sharedValues, distinct, distinctFrom, denyAll]
  · simp only [intersectStringLists, stringListFrom, meet, Option.getD_some]
    cases sharedValues (x :: xs) (y :: ys) <;> simp [denyAll]

@[simp]
theorem listSize_stringListFrom (l : Option (List String)) :
    listSize (stringListFrom l).values = listSize l := by
  rcases l with _ | _ | ⟨v, vs⟩ <;> rfl

theorem length_sharedValues (l r : List String) :
    (sharedValues l r).length ≤ l.length ∧ (sharedValues l r).length ≤ r.length :=
  ⟨((nodup_distinct _).subperm fun _ h => (mem_sharedValues.mp h).1).length_le,
    ((nodup_distinct _).subperm fun _ h => (mem_sharedValues.mp h).2).length_le⟩

theorem ListOk.meet {a b : Option (List String)} (ha : ListOk valid a) (hb : ListOk valid b) :
    ListOk valid (meet a b) := by
  cases a with
  | none => exact hb
  | some l =>
    cases b with
    | none => exact ha
    | some r =>
      intro vs hvs
      cases hvs
      obtain ⟨-, hlen, hvalid⟩ := ha l rfl
      exact ⟨nodup_distinct _, le_trans (length_sharedValues l r).1 hlen,
        fun v hv => hvalid v (mem_sharedValues.mp hv).1⟩

theorem ListOk.listSize_le (h : ListOk valid l) : listSize l ≤ 128 := by
  cases l with
  | none => exact Nat.zero_le _
  | some vs => exact (h vs rfl).2.1

theorem ListOk.exists_allowed (h : ListOk valid l) (hpos : 0 < listSize l) :
    ∃ v, valid v = true ∧ Allows l v := by
  rcases l with _ | _ | ⟨v, vs⟩
  · cases hpos
  · cases hpos
  · exact ⟨v, (h _ rfl).2.2 v mem_cons_self, mem_cons_self⟩

/-- The list in the order of `sort.Strings`. -/
def sorted (l : Option (List String)) : Option (List String) :=
  l.map (fun vs => vs.mergeSort (fun a b => a ≤ b))

theorem allows_sorted : Allows (sorted l) v ↔ Allows l v := by
  cases l <;> simp [sorted, Allows]

theorem listSize_sorted (l : Option (List String)) : listSize (sorted l) = listSize l := by
  cases l <;> simp [sorted, listSize]

theorem ListOk.sorted (h : ListOk valid l) : ListOk valid (sorted l) := by
  intro vs hvs
  cases l with
  | none => cases hvs
  | some xs =>
    cases hvs
    obtain ⟨hn, hlen, hvalid⟩ := h xs rfl
    exact ⟨(xs.mergeSort_perm _).nodup_iff.mpr hn, by simpa using hlen,
      fun v hv => hvalid v (mem_mergeSort.mp hv)⟩

/-- Valid lists pass their normalisation and come back sorted. -/
theorem normalizeStringList_valid {maxLength : Nat} {stableID : Bool}
    (h : ListOk (fun value =>
      if stableID then isStableID value maxLength else isSafePolicyText value maxLength) l) :
    normalizeStringList (stringListFrom l) maxLength stableID = .ok (stringListFrom (sorted l)) := by
  rcases l with _ | _ | ⟨v, vs⟩
  · rfl
  · simp [normalizeStringList, StringList.derivedPresence, stringListFrom, listSize, sorted]
  · obtain ⟨hn, hlen, hvalid⟩ := h _ rfl
    have hself : collect (fun value => if (if stableID then isStableID value maxLength
        else isSafePolicyText value maxLength) then .ok value else .error PolicyError.invalidList)
        [] (v :: vs) = .ok ([] ++ v :: vs) :=
      collect_self (by simpa using hn) (fun x hx => if_pos (hvalid x hx))
    have hsize : listSize (stringListFrom (some (v :: vs))).values ≠ 0 ∧
        listSize (stringListFrom (some (v :: vs))).values ≤ 128 := ⟨by simp [listSize, stringListFrom], hlen⟩
    have hpresence : (stringListFrom (some (v :: vs))).derivedPresence = .values := rfl
    have hvalues : (stringListFrom (some (v :: vs))).values.getD [] = v :: vs := rfl
    simp only [normalizeStringList, hpresence, check_pos hsize, ok_bind, hvalues, hself]
    have hne : (v :: vs).mergeSort (fun a b => decide (a ≤ b)) ≠ [] := by
      intro he
      have := congrArg length he
      simp at this
    obtain ⟨x, xs, hx⟩ := exists_cons_of_ne_nil hne
    simp only [nil_append, sorted, Option.map_some, hx]
    rfl

/-! ### Blocking findings -/

/-- Some finding justifies a rejection. -/
def Blocks (findings : List Finding) : Prop := ∃ f ∈ findings, f.code.blocking = true

theorem blocks_append {a b : List Finding} : Blocks (a ++ b) ↔ Blocks a ∨ Blocks b := by
  simp only [Blocks, mem_append, or_and_right, exists_or]

/-- A reference that is not in force. -/
def Reference.Refused (r : Reference) : Prop := r.state = .knownDisabled ∨ r.state = .unknown

theorem blocks_reference {subject : String} {r : Reference} :
    Blocks (appendReferenceFinding findings subject r) ↔ Blocks findings ∨ r.Refused := by
  unfold appendReferenceFinding Reference.Refused
  cases hs : r.state <;> simp [Blocks, FindingCode.blocking]

variable {code : FindingCode}

theorem blocks_dangling {requested available : StringList}
    (hcode : code.blocking = false) :
    Blocks (appendDanglingFindings findings code requested available) ↔ Blocks findings := by
  unfold appendDanglingFindings
  split
  · rfl
  · rw [blocks_append]
    refine or_iff_left ?_
    rintro ⟨f, hf, hb⟩
    obtain ⟨v, -, rfl⟩ := mem_map.mp hf
    rw [hcode] at hb
    cases hb

/-- The list holds no such value although it is present. -/
def StringList.Excludes (l : StringList) (v : String) : Prop :=
  l.presence ≠ .absent ∧ v ∉ l.values.getD []

theorem stringListFrom_excludes : (stringListFrom l).Excludes v ↔ ¬ Allows l v := by
  rcases l with _ | _ | ⟨x, xs⟩ <;> simp [StringList.Excludes, stringListFrom, Allows]

theorem blocks_difference {l : StringList} (hv : v ≠ "")
    (hcode : code.blocking = true) :
    Blocks (appendPolicyDifferenceFinding findings l v code) ↔ Blocks findings ∨ l.Excludes v := by
  have hnew : Blocks [{ code := code, subject := v }] := ⟨_, mem_singleton_self _, hcode⟩
  unfold appendPolicyDifferenceFinding StringList.Excludes
  by_cases habsent : l.presence = .absent
  · simp [habsent]
  rw [if_neg (by simp [hv, habsent])]
  by_cases hmem : v ∈ l.values.getD []
  · simp [hmem]
  · rw [if_neg hmem, blocks_append]
    simp [hmem, hnew, habsent]

theorem blocks_policyFindings {snapshot : AccessPolicySnapshot} {legacy : LegacyOutcome}
    {availableModels availableRoutes : StringList} (hgroup : legacy.usingGroup ≠ "")
    (hmodel : legacy.usingModel ≠ "") :
    Blocks (policyFindings snapshot legacy availableModels availableRoutes) ↔
      ((snapshot.accountTier.Refused ∨ snapshot.accessProfile.Refused) ∨
        snapshot.allowedGroups.Excludes legacy.usingGroup) ∨
      snapshot.allowedModels.Excludes legacy.usingModel := by
  have hnone : ¬ Blocks [] := by simp [Blocks]
  have hmode : ∀ findings : List Finding,
      Blocks (if snapshot.mode = .enforce then findings ++ [{ code := .enforcementNotAvailable }]
        else findings) ↔ Blocks findings := by
    intro findings
    split
    · rw [blocks_append]
      exact or_iff_left (by simp [Blocks, FindingCode.blocking])
    · rfl
  simp only [policyFindings, hmode]
  rw [blocks_difference hmodel rfl, blocks_difference hgroup rfl, blocks_dangling rfl,
    blocks_dangling rfl, blocks_reference, blocks_reference]
  simp only [hnone, false_or]

theorem blocks_canonical : Blocks (canonicalFindings findings) ↔ Blocks findings := by
  simp [Blocks, canonicalFindings]

/-! ### Grants -/

/-- The tier id that a stored id stands for: `default` and `vip` are the legacy names of the
built-in tiers. -/
def tierName (id : String) : String := tierIDOfGroup (trimSpace id)

/-- The profile id that a stored id stands for; an empty id falls back to the token group. -/
def profileName (id tokenGroup : String) : String :=
  if trimSpace id = "" then profileIDOfGroup tokenGroup else profileIDOfGroup (trimSpace id)

theorem resolveAccountTierID_eq (id : String) (registry : AccessProfileSetting) :
    resolveAccountTierIDWithSnapshot id registry =
      .of (tierName id) (registry.accountTiers.lookup (tierName id)) := by
  unfold resolveAccountTierIDWithSnapshot tierName
  by_cases h1 : trimSpace id = "" ∨ trimSpace id = "standard"
  · rcases h1 with h | h <;> simp [h, resolveAccountTier, tierIDOfGroup]
  · by_cases h2 : trimSpace id = "priority"
    · simp [h2, resolveAccountTier, tierIDOfGroup]
    · simp only [h1, h2, if_false]
      rfl

theorem resolveAccessProfileID_eq (id tokenGroup : String) (registry : AccessProfileSetting) :
    resolveAccessProfileIDWithSnapshot (trimSpace id) tokenGroup registry =
      .of (profileName id tokenGroup)
        ((registry.profiles.lookup (profileName id tokenGroup)).map (·.toPolicyDefinition)) := by
  unfold resolveAccessProfileIDWithSnapshot profileName
  rw [trimSpace_trimSpace]
  by_cases h0 : trimSpace id = ""
  · simp [h0, resolveAccessProfile]
  by_cases h1 : trimSpace id = "standard"
  · simp [h1, resolveAccessProfile, profileIDOfGroup]
  by_cases h2 : trimSpace id = "priority"
  · simp [h2, resolveAccessProfile, profileIDOfGroup]
  by_cases h3 : trimSpace id = "automatic"
  · simp [h3, resolveAccessProfile, profileIDOfGroup]
  simp only [h0, h1, h2, h3, if_false]
  rfl

/-- What a reference grants. -/
inductive Grant where
  | unrestricted
  | lists (d : PolicyDefinition)
  | denied
  deriving DecidableEq, Repr

/-- The groups of a grant. -/
def Grant.groups : Grant → Option (List String)
  | .unrestricted => none
  | .lists d => d.routeGroups
  | .denied => some []

/-- The models of a grant. -/
def Grant.models : Grant → Option (List String)
  | .unrestricted => none
  | .lists d => d.modelAllowlist
  | .denied => some []

/-- The grant of a registry entry: only an enabled entry grants its lists. -/
def Grant.of : Option PolicyDefinition → Grant
  | none => .denied
  | some d => if d.enabled = some false then .denied else .lists d

/-- The grant of the account tier; an account without a tier is not restricted by one. -/
def tierGrant (registry : AccessProfileSetting) (identity : RequestIdentity) : Grant :=
  if trimSpace identity.accountTierID = "" then .unrestricted
  else .of (registry.accountTiers.lookup (tierName identity.accountTierID))

/-- The grant of the access profile of the key. -/
def profileGrant (registry : AccessProfileSetting) (identity : RequestIdentity) : Grant :=
  .of ((registry.profiles.lookup (profileName identity.accessProfileID identity.tokenGroup)).map
    (·.toPolicyDefinition))

/-- The grant is in force and admits the group and the model. -/
structure Grant.Admits (g : Grant) (group model : String) : Prop where
  inForce : g ≠ .denied
  group : Allows g.groups group
  model : Allows g.models model

@[simp]
theorem PolicyMetadata.of_id (id : String) (d : Option PolicyDefinition) :
    (PolicyMetadata.of id d).id = id := by
  cases d <;> rfl

/-- The reference that a request snapshot holds for a registry entry. -/
def referenceOf (id : String) (d : Option PolicyDefinition) : Reference :=
  { state := policyReferenceState (PolicyMetadata.of id d).known (PolicyMetadata.of id d).enabled
    id := id }

variable {id : String}

theorem referenceOf_refused {d : Option PolicyDefinition} :
    (referenceOf id d).Refused ↔ Grant.of d = .denied := by
  unfold Reference.Refused referenceOf Grant.of
  rcases d with _ | ⟨label, description, groups, models, enabled⟩
  · simp [of, policyReferenceState]
  · rcases enabled with _ | _ | _ <;> simp [of, policyReferenceState]

theorem policyListsForReference_eq (id : String) (d : Option PolicyDefinition) :
    policyListsForReference (PolicyMetadata.of id d).routeGroups
      (PolicyMetadata.of id d).modelAllowlist (referenceOf id d).state =
      (stringListFrom (Grant.of d).groups, stringListFrom (Grant.of d).models) := by
  unfold policyListsForReference referenceOf
  rcases d with _ | ⟨label, description, groups, models, enabled⟩
  · simp [of, policyReferenceState, Grant.of, Grant.groups, Grant.models,
      stringListFrom, denyAll]
  · rcases enabled with _ | _ | _ <;>
      simp [of, policyReferenceState, Grant.of, Grant.groups, Grant.models,
        stringListFrom, denyAll]

/-- The reference to the account tier. -/
def tierReference (registry : AccessProfileSetting) (identity : RequestIdentity) : Reference :=
  if trimSpace identity.accountTierID = "" then { state := .empty }
  else referenceOf (tierName identity.accountTierID)
    (registry.accountTiers.lookup (tierName identity.accountTierID))

/-- The reference to the access profile. -/
def profileReference (registry : AccessProfileSetting) (identity : RequestIdentity) : Reference :=
  referenceOf (profileName identity.accessProfileID identity.tokenGroup)
    ((registry.profiles.lookup (profileName identity.accessProfileID identity.tokenGroup)).map
      (·.toPolicyDefinition))

theorem tierReference_refused :
    (tierReference registry identity).Refused ↔ tierGrant registry identity = .denied := by
  unfold tierReference tierGrant
  split
  · simp [Reference.Refused]
  · exact referenceOf_refused

theorem profileReference_refused :
    (profileReference registry identity).Refused ↔ profileGrant registry identity = .denied :=
  referenceOf_refused

/-- The groups that the tier and the profile both grant. -/
def effectiveGroups (registry : AccessProfileSetting) (identity : RequestIdentity) :
    Option (List String) :=
  meet (tierGrant registry identity).groups (profileGrant registry identity).groups

/-- The models that the tier and the profile both grant. -/
def effectiveModels (registry : AccessProfileSetting) (identity : RequestIdentity) :
    Option (List String) :=
  meet (tierGrant registry identity).models (profileGrant registry identity).models

/-- The candidate that `BuildRequestSnapshot` normalises. -/
def candidateSnapshot (mode : PolicyMode) (revision : Nat) (tier profile : Reference)
    (groups models : Option (List String)) : AccessPolicySnapshot :=
  ⟨1, mode, revision, tier, profile, stringListFrom groups, stringListFrom models,
    stringListFrom groups⟩

theorem buildRequestSnapshot_eq (registry : AccessProfileSetting) (settings : AccessSettings)
    (identity : RequestIdentity) (group model : String) :
    buildRequestSnapshot registry (requestSource settings identity group model) =
      normalizeSnapshot (candidateSnapshot .off 0 (tierReference registry identity)
        (profileReference registry identity) (effectiveGroups registry identity)
        (effectiveModels registry identity)) := by
  have htier : policyListsForReference (resolveTierReference identity.accountTierID registry).1.routeGroups
      (resolveTierReference identity.accountTierID registry).1.modelAllowlist
      (resolveTierReference identity.accountTierID registry).2.state =
      (stringListFrom (tierGrant registry identity).groups,
        stringListFrom (tierGrant registry identity).models) ∧
      (resolveTierReference identity.accountTierID registry).2 = tierReference registry identity := by
    unfold resolveTierReference tierGrant tierReference
    by_cases h : trimSpace identity.accountTierID = ""
    · simp [h, policyListsForReference, Grant.groups, Grant.models]
    · simp only [h, if_false]
      rw [resolveAccountTierID_eq, show tierName (trimSpace identity.accountTierID) =
        tierName identity.accountTierID by unfold tierName; rw [trimSpace_trimSpace]]
      exact ⟨policyListsForReference_eq _ _, by rw [of_id]; rfl⟩
  obtain ⟨hlists, href⟩ := htier
  rw [href] at hlists
  have hprofile := policyListsForReference_eq
    (profileName identity.accessProfileID identity.tokenGroup)
    ((registry.profiles.lookup (profileName identity.accessProfileID identity.tokenGroup)).map
      (·.toPolicyDefinition))
  simp only [buildRequestSnapshot, requestSource, resolveAccessProfileID_eq, href,
    of_id]
  unfold referenceOf at hprofile
  rw [hlists, hprofile]
  simp only [intersect_stringListFrom]
  rfl

/-! ### Evaluation of a candidate -/

section Candidate

variable (mode : PolicyMode) (revision : Nat) {tier profile : Reference}
  {groups models : Option (List String)}

theorem checkListTotal_eq_ok {groups models : Option (List String)} {u : Unit} :
    checkListTotal (stringListFrom groups) (stringListFrom models) (stringListFrom groups) = .ok u ↔
      2 * listSize groups + listSize models ≤ 256 := by
  simp only [checkListTotal, check_eq_ok, totalListValues, map_cons, map_nil,
    sum_cons, sum_nil, listSize_stringListFrom, maxTotalListValues]
  omega

/-- A candidate with valid references and lists that fit is kept, with its lists sorted. -/
theorem normalizeSnapshot_valid (ht : normalizeReference tier = .ok tier)
    (hp : normalizeReference profile = .ok profile) (hg : ListOk validPolicyID groups)
    (hm : ListOk (fun value => validPolicyText value 255) models) (hmode : mode ≠ .unset)
    (hsize : 2 * listSize groups + listSize models ≤ 256) :
    normalizeSnapshot (candidateSnapshot mode revision tier profile groups models) =
      .ok (candidateSnapshot mode revision tier profile (sorted groups) (sorted models)) := by
  have hraw : checkListTotal (stringListFrom groups) (stringListFrom models)
      (stringListFrom groups) = .ok () := checkListTotal_eq_ok.mpr hsize
  have hsorted : checkListTotal (stringListFrom (sorted groups)) (stringListFrom (sorted models))
      (stringListFrom (sorted groups)) = .ok () := by
    rw [checkListTotal_eq_ok, listSize_sorted, listSize_sorted]
    exact hsize
  have hgroups : normalizeStringList (stringListFrom groups) 64 true =
      .ok (stringListFrom (sorted groups)) := normalizeStringList_valid hg
  have hmodels : normalizeStringList (stringListFrom models) 255 false =
      .ok (stringListFrom (sorted models)) := normalizeStringList_valid hm
  simp only [normalizeSnapshot, candidateSnapshot, hraw, ok_bind, ht, hp, hgroups, hmodels, hsorted,
    hmode, if_false]
  rfl

theorem normalizeReference_state {r r' : Reference} (h : normalizeReference r = .ok r')
    (hstate : r.state ≠ .unset) : r'.state = r.state := by
  simp only [normalizeReference, hstate, false_and, if_false] at h
  split at h
  · next he =>
    split at h <;> cases h
    exact he.symm
  · split at h <;> cases h
    rfl

theorem normalizeSnapshot_references {input output : AccessPolicySnapshot}
    (h : normalizeSnapshot input = .ok output) (ht : input.accountTier.state ≠ .unset)
    (hp : input.accessProfile.state ≠ .unset) :
    output.accountTier.state = input.accountTier.state ∧
      output.accessProfile.state = input.accessProfile.state := by
  simp only [normalizeSnapshot, bind_eq_ok, check_eq_ok, exists_const, pure_eq_ok] at h
  obtain ⟨-, -, -, t, htier, p, hprofile, g, -, m, -, r, -, -, -, rfl⟩ := h
  exact ⟨normalizeReference_state htier ht, normalizeReference_state hprofile hp⟩

end Candidate

/-! ### The decision -/

theorem referenceOf_state (id : String) (d : Option PolicyDefinition) :
    (referenceOf id d).state ≠ .unset := by
  rcases d with _ | ⟨label, description, groups, models, enabled⟩
  · simp [referenceOf, of, policyReferenceState]
  · rcases enabled with _ | _ | _ <;> simp [referenceOf, of, policyReferenceState]

theorem tierReference_state (registry : AccessProfileSetting) (identity : RequestIdentity) :
    (tierReference registry identity).state ≠ .unset := by
  unfold tierReference
  split
  · simp
  · exact referenceOf_state _ _

/-- A reference to an enabled entry of an accepted registry is valid. -/
theorem normalizeReference_known {d : PolicyDefinition} (hid : validPolicyID id = true)
    (hd : Grant.of (some d) ≠ .denied) :
    normalizeReference (referenceOf id (some d)) = .ok (referenceOf id (some d)) := by
  have hstable : isStableID id 64 = true := hid
  rcases d with ⟨label, description, groups, models, enabled⟩
  rcases enabled with _ | _ | _
  · simp [normalizeReference, referenceOf, of, policyReferenceState, hstable]
  · exact absurd rfl hd
  · simp [normalizeReference, referenceOf, of, policyReferenceState, hstable]

/-- What a grant in force says about its reference and lists. -/
structure InForce (r : Reference) (g : Grant) : Prop where
  reference : normalizeReference r = .ok r
  groups : ListOk validPolicyID g.groups
  models : ListOk (fun value => validPolicyText value 255) g.models
  size : 2 * listSize g.groups + listSize g.models ≤ 256

theorem grantOf_inForce {o : Option PolicyDefinition}
    (ho : ∀ d, o = some d → validPolicyID id = true ∧ d.Accepted) (hg : Grant.of o ≠ .denied) :
    InForce (referenceOf id o) (Grant.of o) := by
  cases o with
  | none => exact absurd rfl hg
  | some d =>
    obtain ⟨hid, hd⟩ := ho d rfl
    have hlists : Grant.of (some d) = .lists d := by
      by_cases he : d.enabled = some false
      · exact absurd (if_pos he) hg
      · exact if_neg he
    refine ⟨normalizeReference_known hid hg, ?_, ?_, ?_⟩ <;> rw [hlists]
    · exact hd.groups
    · exact hd.models
    · exact hd.size

theorem tier_inForce (hr : registry.Parsed) (hg : tierGrant registry identity ≠ .denied) :
    InForce (tierReference registry identity) (tierGrant registry identity) := by
  unfold tierReference
  unfold tierGrant at hg ⊢
  by_cases hempty : trimSpace identity.accountTierID = ""
  · simp only [hempty, if_true]
    have hnone : ∀ valid, ListOk valid Grant.unrestricted.groups := fun _ vs hvs => by cases hvs
    exact ⟨by simp [normalizeReference], hnone _, hnone _, by simp [Grant.groups, Grant.models,
      listSize]⟩
  · simp only [hempty, if_false] at hg ⊢
    exact grantOf_inForce (fun d => hr.tier) hg

theorem profile_inForce (hr : registry.Parsed) (hg : profileGrant registry identity ≠ .denied) :
    InForce (profileReference registry identity) (profileGrant registry identity) := by
  refine grantOf_inForce (fun d hd => ?_) hg
  obtain ⟨p, hp, rfl⟩ := Option.map_eq_some_iff.mp hd
  exact hr.profile hp

theorem profileReference_state (registry : AccessProfileSetting) (identity : RequestIdentity) :
    (profileReference registry identity).state ≠ .unset := referenceOf_state _ _

-- from here on grants and references are used through the lemmas above
attribute [irreducible] tierGrant profileGrant tierReference profileReference

/-- The request passes: the selected group and model are admitted by the tier and the profile. -/
structure Entitled (registry : AccessProfileSetting) (identity : RequestIdentity)
    (group model : String) : Prop where
  tier : (tierGrant registry identity).Admits group model
  profile : (profileGrant registry identity).Admits group model

/-- Group and model are valid policy values and the ratio of the group is canonical. -/
structure ValidRequest (settings : AccessSettings) (group model : String) : Prop where
  groupValid : isStableID group 64 = true
  modelValid : isSafePolicyText model 255 = true
  ratioValid : isCanonicalRatio (settings.groupRatio group) = true

variable {value : String}

theorem isSafePolicyText_ne (h : isSafePolicyText value n = true) : value ≠ "" := by
  rintro rfl
  simp [isSafePolicyText, validPolicyText] at h

variable {settings : AccessSettings}

theorem ValidRequest.model_ne (hv : ValidRequest settings group model) : model ≠ "" :=
  isSafePolicyText_ne hv.modelValid

theorem ValidRequest.group_ne (hv : ValidRequest settings group model) : group ≠ "" := by
  have hg := hv.groupValid
  simp only [isStableID, Bool.and_eq_true] at hg
  exact isSafePolicyText_ne hg.1

/-- In the enforced scope a request passes if and only if its evaluation succeeds without a
blocking finding. -/
theorem not_rejected_iff
    (hscope : accessPolicyEnforcedForGroup settings group = true) :
    accessPolicyRejectsSelectedGroup settings identity group model = false ↔
      ∃ d, evaluateRequest settings.registry .enforce (requestSource settings identity group model) 0
        = .ok d ∧ ¬ Blocks d.findings := by
  have hmode : settings.mode = .enforce := by
    simp only [accessPolicyEnforcedForGroup, Bool.and_eq_true, decide_eq_true_eq] at hscope
    exact hscope.1
  have hoff : settings.mode ≠ .off := by simp [hmode]
  simp only [accessPolicyRejectsSelectedGroup, if_neg hoff, if_pos hmode, hscope, Bool.and_true]
  cases evaluateRequest settings.registry .enforce (requestSource settings identity group model) 0 with
  | error e => simp [hmode]
  | ok d =>
    have hblocks : (blockingFindings d).isEmpty = false ↔ Blocks d.findings := by
      simp [blockingFindings, Blocks, List.filter_eq_nil_iff]
    cases hb : (blockingFindings d).isEmpty with
    | false => simp [hmode, hb, hblocks.mp hb]
    | true =>
      have hnone : ¬ Blocks d.findings := fun h => by
        rw [hblocks.mpr h] at hb
        cases hb
      simp [hb, hnone]

theorem ValidRequest.outcome (hv : ValidRequest settings group model) :
    validateAndCopyLegacyOutcome
      { allow := true, usingGroup := group, usingModel := model
        groupRatio := settings.groupRatio group } =
      .ok { allow := true, usingGroup := group, usingModel := model
            groupRatio := settings.groupRatio group } := by
  simp only [validateAndCopyLegacyOutcome, bind_eq_ok]
  exact ⟨(), check_pos (by simp [hv.groupValid]) _, (), check_pos (by simp [hv.modelValid]) _, (),
    check_pos ⟨rfl, hv.ratioValid⟩ _, rfl⟩

/-- Without a grant in force an evaluation that succeeds has a blocking finding. -/
theorem denied_blocks {d : PolicyDecision} (hv : ValidRequest settings group model)
    (hdenied : tierGrant settings.registry identity = .denied ∨
      profileGrant settings.registry identity = .denied)
    (h : evaluateRequest settings.registry .enforce (requestSource settings identity group model) 0 =
      .ok d) : Blocks d.findings := by
  simp only [evaluateRequest, buildRequestSnapshot_eq, evaluate, bind_eq_ok, pure_eq_ok] at h
  obtain ⟨built, hbuilt, final, hfinal, legacy, hlegacy, _, _, _, _, rfl⟩ := h
  have hstates := normalizeSnapshot_references hbuilt
    (tierReference_state settings.registry identity)
    (profileReference_state settings.registry identity)
  have htierState : built.accountTier.state ≠ .unset := by
    rw [hstates.1]
    exact tierReference_state settings.registry identity
  have hprofileState : built.accessProfile.state ≠ .unset := by
    rw [hstates.2]
    exact profileReference_state settings.registry identity
  have hkept := normalizeSnapshot_references hfinal htierState hprofileState
  obtain rfl : _ = legacy := by
    simp only [validateAndCopyLegacyOutcome, bind_eq_ok, pure_eq_ok] at hlegacy
    exact hlegacy.choose_spec.2.choose_spec.2.choose_spec.2
  rw [blocks_canonical, blocks_policyFindings hv.group_ne hv.model_ne]
  refine .inl (.inl ?_)
  rcases hdenied with ht | hp
  · have hrefused := tierReference_refused.mpr ht
    left
    unfold Reference.Refused at hrefused ⊢
    rwa [hkept.1, hstates.1]
  · have hrefused := profileReference_refused.mpr hp
    right
    unfold Reference.Refused at hrefused ⊢
    rwa [hkept.2, hstates.2]

/-- With both grants in force and lists that fit, the request is evaluated, and it is blocked if
and only if a combined list does not admit it. -/
theorem evaluateRequest_inForce (hr : settings.registry.Parsed)
    (hv : ValidRequest settings group model)
    (htier : tierGrant settings.registry identity ≠ .denied)
    (hprofile : profileGrant settings.registry identity ≠ .denied)
    (hsize : 2 * listSize (effectiveGroups settings.registry identity) +
      listSize (effectiveModels settings.registry identity) ≤ 256) :
    ∃ d, evaluateRequest settings.registry .enforce (requestSource settings identity group model) 0 =
        .ok d ∧
      (¬ Blocks d.findings ↔ Allows (effectiveGroups settings.registry identity) group ∧
        Allows (effectiveModels settings.registry identity) model) := by
  have ht := tier_inForce hr htier
  have hp := profile_inForce hr hprofile
  have hgroups : ListOk _ (effectiveGroups settings.registry identity) := ht.groups.meet hp.groups
  have hmodels : ListOk _ (effectiveModels settings.registry identity) := ht.models.meet hp.models
  have hbuilt := normalizeSnapshot_valid .off 0 ht.reference hp.reference
    hgroups hmodels (by simp) hsize
  have hfinal := normalizeSnapshot_valid .enforce 0 ht.reference hp.reference
    hgroups.sorted hmodels.sorted (by simp) (by rw [listSize_sorted, listSize_sorted]; exact hsize)
  simp only [evaluateRequest, buildRequestSnapshot_eq, hbuilt, ok_bind]
  simp only [candidateSnapshot, requestSource] at hfinal ⊢
  simp only [evaluate, hfinal, hv.outcome, ok_bind]
  refine ⟨_, rfl, ?_⟩
  rw [blocks_canonical, blocks_policyFindings hv.group_ne hv.model_ne]
  simp only [stringListFrom_excludes, allows_sorted, tierReference_refused, profileReference_refused,
    htier, hprofile, or_self, false_or, not_or, not_not]

/-! ### Combined lists that are too long -/

/-- One definition lists only groups, the other only models, and together they exceed the limit of
a snapshot. -/
def SplitTooLong (a b : PolicyDefinition) : Prop :=
  a.modelAllowlist = none ∧ b.routeGroups = none ∧
    256 < 2 * listSize a.routeGroups + listSize b.modelAllowlist

/-- The tier and the profile in force split the lists between them and exceed the limit. -/
def Oversized (registry : AccessProfileSetting) (identity : RequestIdentity) : Prop :=
  ∃ t p, tierGrant registry identity = .lists t ∧ profileGrant registry identity = .lists p ∧
    (SplitTooLong t p ∨ SplitTooLong p t)

theorem listSize_meet_le (a b : Option (List String)) :
    (a = none ∨ listSize (meet a b) ≤ listSize a) ∧ (b = none ∨ listSize (meet a b) ≤ listSize b) := by
  cases a with
  | none => exact ⟨.inl rfl, .inr le_rfl⟩
  | some l =>
    cases b with
    | none => exact ⟨.inr le_rfl, .inl rfl⟩
    | some r => exact ⟨.inr (length_sharedValues l r).1, .inr (length_sharedValues l r).2⟩

/-- Two definitions that each fit have combined lists that fit, unless they split them. -/
theorem meet_fits {a b : PolicyDefinition}
    (ha : 2 * listSize a.routeGroups + listSize a.modelAllowlist ≤ 256)
    (hb : 2 * listSize b.routeGroups + listSize b.modelAllowlist ≤ 256)
    (hab : ¬ SplitTooLong a b) (hba : ¬ SplitTooLong b a) :
    2 * listSize (meet a.routeGroups b.routeGroups) +
      listSize (meet a.modelAllowlist b.modelAllowlist) ≤ 256 := by
  have hgroups := listSize_meet_le a.routeGroups b.routeGroups
  have hmodels := listSize_meet_le a.modelAllowlist b.modelAllowlist
  by_cases hga : a.routeGroups = none
  · rw [hga, meet_none_left] at hgroups ⊢
    by_cases hma : a.modelAllowlist = none
    · rw [hma, meet_none_left]
      exact hb
    · rcases hmodels.2 with hmb | hmb'
      · rw [hmb, meet_none_right]
        exact not_lt.mp fun h => hba ⟨hmb, hga, h⟩
      · omega
  · have hga' := hgroups.1.resolve_left hga
    rcases hmodels.1 with hma | hma'
    · rw [hma, meet_none_left]
      rcases hgroups.2 with hgb | hgb'
      · rw [hgb, meet_none_right]
        exact not_lt.mp fun h => hab ⟨hma, hgb, h⟩
      · omega
    · omega

theorem effective_fits (hr : registry.Parsed) (htier : tierGrant registry identity ≠ .denied)
    (hprofile : profileGrant registry identity ≠ .denied) (hover : ¬ Oversized registry identity) :
    2 * listSize (effectiveGroups registry identity) +
      listSize (effectiveModels registry identity) ≤ 256 := by
  have ht := (tier_inForce hr htier).size
  have hp := (profile_inForce hr hprofile).size
  unfold effectiveGroups effectiveModels
  cases ht' : tierGrant registry identity with
  | denied => exact absurd ht' htier
  | unrestricted => exact hp
  | lists t =>
    cases hp' : profileGrant registry identity with
    | denied => exact absurd hp' hprofile
    | unrestricted =>
      rw [ht'] at ht
      simpa only [Grant.groups, Grant.models, meet_none_right] using ht
    | lists p =>
      rw [ht'] at ht
      rw [hp'] at hp
      exact meet_fits ht hp (fun h => hover ⟨t, p, ht', hp', .inl h⟩)
        (fun h => hover ⟨t, p, ht', hp', .inr h⟩)

theorem entitled_iff (htier : tierGrant registry identity ≠ .denied)
    (hprofile : profileGrant registry identity ≠ .denied) :
    Entitled registry identity group model ↔
      Allows (effectiveGroups registry identity) group ∧
        Allows (effectiveModels registry identity) model := by
  unfold effectiveGroups effectiveModels
  rw [allows_meet, allows_meet]
  constructor
  · rintro ⟨ht, hp⟩
    exact ⟨⟨ht.group, hp.group⟩, ht.model, hp.model⟩
  · rintro ⟨⟨htg, hpg⟩, htm, hpm⟩
    exact ⟨⟨htier, htg, htm⟩, ⟨hprofile, hpg, hpm⟩⟩

theorem SplitTooLong.size {a b : PolicyDefinition} (h : SplitTooLong a b) :
    256 < 2 * listSize (meet a.routeGroups b.routeGroups) +
        listSize (meet a.modelAllowlist b.modelAllowlist) ∧
      256 < 2 * listSize (meet b.routeGroups a.routeGroups) +
        listSize (meet b.modelAllowlist a.modelAllowlist) := by
  obtain ⟨hm, hg, hsize⟩ := h
  simp only [hm, hg, meet_none_left, meet_none_right]
  exact ⟨hsize, hsize⟩

theorem Oversized.size (h : Oversized registry identity) :
    256 < 2 * listSize (effectiveGroups registry identity) +
      listSize (effectiveModels registry identity) := by
  obtain ⟨t, p, ht, hp, hsplit⟩ := h
  unfold effectiveGroups effectiveModels
  rw [ht, hp]
  rcases hsplit with hsplit | hsplit
  · exact hsplit.size.1
  · exact hsplit.size.2

/-- Some valid group and model are admitted by lists that exceed the limit. -/
theorem Oversized.admitted (hr : registry.Parsed) (h : Oversized registry identity) :
    ∃ group model, isStableID group 64 = true ∧ isSafePolicyText model 255 = true ∧
      Entitled registry identity group model := by
  have hsize := h.size
  obtain ⟨t, p, ht, hp, -⟩ := h
  have htier : tierGrant registry identity ≠ .denied := by simp [ht]
  have hprofile : profileGrant registry identity ≠ .denied := by simp [hp]
  have hti := tier_inForce hr htier
  have hpi := profile_inForce hr hprofile
  have hgroups : ListOk _ (effectiveGroups registry identity) := hti.groups.meet hpi.groups
  have hmodels : ListOk _ (effectiveModels registry identity) := hti.models.meet hpi.models
  have hglen := hgroups.listSize_le
  have hmlen := hmodels.listSize_le
  -- neither list alone can exceed the limit, so both hold a value
  obtain ⟨g, hg, hga⟩ := hgroups.exists_allowed (by omega)
  obtain ⟨m, hm, hma⟩ := hmodels.exists_allowed (by omega)
  exact ⟨g, m, hg, hm, (entitled_iff htier hprofile).mpr ⟨hga, hma⟩⟩

/-- Lists that exceed the limit reject a request that both grants admit. -/
theorem Oversized.rejects_entitled (hr : registry.Parsed) (h : Oversized registry identity) :
    ∃ settings group model, settings.registry = registry ∧
      accessPolicyEnforcedForGroup settings group = true ∧ ValidRequest settings group model ∧
      Entitled registry identity group model ∧
      accessPolicyRejectsSelectedGroup settings identity group model = true := by
  obtain ⟨group, model, hg, hm, hentitled⟩ := h.admitted hr
  let settings : AccessSettings :=
    { registry := registry, mode := .enforce, enforceGroups := [trimSpace group]
      groupRatio := fun _ => "" }
  have hscope : accessPolicyEnforcedForGroup settings group = true := by
    simp [accessPolicyEnforcedForGroup, settings]
  refine ⟨settings, group, model, rfl, hscope, ⟨hg, hm, rfl⟩, hentitled, eq_true_of_ne_false fun hpass => ?_⟩
  -- no snapshot is built, and a request whose evaluation does not succeed is rejected
  obtain ⟨d, hd, -⟩ := (not_rejected_iff hscope).mp hpass
  simp only [evaluateRequest, buildRequestSnapshot_eq, normalizeSnapshot, candidateSnapshot, bind_eq_ok,
    checkListTotal_eq_ok] at hd
  obtain ⟨_, ⟨_, hle, -⟩, -⟩ := hd
  exact absurd hle (not_le.mpr h.size)

/-- For accepted registries the enforced policy lets through exactly the requests that the tier
and the profile both admit, if and only if the two do not split their lists beyond the limit of a
snapshot. -/
theorem enforced_iff_entitled {registry : AccessProfileSetting} (hr : registry.Parsed)
    (identity : RequestIdentity) :
    (∀ settings group model, settings.registry = registry →
        accessPolicyEnforcedForGroup settings group = true → ValidRequest settings group model →
        (accessPolicyRejectsSelectedGroup settings identity group model = false ↔
          Entitled registry identity group model)) ↔
      ¬ Oversized registry identity := by
  constructor
  · intro hall hover
    obtain ⟨settings, group, model, hreg, hscope, hv, hentitled, hrejects⟩ :=
      hover.rejects_entitled hr
    exact ne_false_of_eq_true hrejects ((hall settings group model hreg hscope hv).mpr hentitled)
  · rintro hover settings group model rfl hscope hv
    rw [not_rejected_iff hscope]
    by_cases hdenied : tierGrant settings.registry identity = .denied ∨
        profileGrant settings.registry identity = .denied
    · constructor
      · rintro ⟨d, hd, hblocks⟩
        exact absurd (denied_blocks hv hdenied hd) hblocks
      · rintro ⟨ht, hp⟩
        exact absurd hdenied (not_or.mpr ⟨ht.inForce, hp.inForce⟩)
    · obtain ⟨htier, hprofile⟩ := not_or.mp hdenied
      obtain ⟨d, hd, hblocks⟩ := evaluateRequest_inForce hr hv htier hprofile
        (effective_fits hr htier hprofile hover)
      rw [entitled_iff htier hprofile, ← hblocks]
      constructor
      · rintro ⟨d', hd', hb⟩
        cases hd.symm.trans hd'
        exact hb
      · exact fun hb => ⟨d, hd, hb⟩

/-- A tier with two groups and a profile that lists one of them and two models. -/
def plainRegistry : AccessProfileSetting where
  profiles := [("standard", { label := "Standard", routeGroups := some ["default"]
                              modelAllowlist := some ["m1", "m2"] })]
  accountTiers := [("basic", { label := "Basic", routeGroups := some ["default", "vip"] })]

theorem enforced_iff_entitled_plainRegistry :
    plainRegistry.Parsed ∧ Entitled plainRegistry ⟨"basic", "", "default"⟩ "default" "m1" ∧
      accessPolicyRejectsSelectedGroup ⟨plainRegistry, .enforce, ["default"], fun _ => "1.5"⟩
        ⟨"basic", "", "default"⟩ "default" "m1" = false := by
  have hfacts : (parseAccessProfileDefinitions (some plainRegistry.profiles) = .ok plainRegistry.profiles ∧
        parseAccountTierDefinitions (some plainRegistry.accountTiers) = .ok plainRegistry.accountTiers) ∧
      tierGrant plainRegistry ⟨"basic", "", "default"⟩ =
        .lists { label := "Basic", routeGroups := some ["default", "vip"] } ∧
      profileGrant plainRegistry ⟨"basic", "", "default"⟩ =
        .lists { label := "Standard", routeGroups := some ["default"]
                 modelAllowlist := some ["m1", "m2"] } ∧
      accessPolicyEnforcedForGroup ⟨plainRegistry, .enforce, ["default"], fun _ => "1.5"⟩ "default" =
        true ∧
      (isStableID "default" 64 = true ∧ isSafePolicyText "m1" 255 = true ∧
        isCanonicalRatio "1.5" = true) := by decide +kernel
  obtain ⟨⟨hprofiles, htiers⟩, ht, hp, hscope, hg, hm, hratio⟩ := hfacts
  have hr : plainRegistry.Parsed := ⟨⟨_, hprofiles⟩, ⟨_, htiers⟩⟩
  have hentitled : Entitled plainRegistry ⟨"basic", "", "default"⟩ "default" "m1" :=
    ⟨by rw [ht]; exact ⟨by simp, by simp [Grant.groups, Allows], by simp [Grant.models, Allows]⟩,
      by rw [hp]; exact ⟨by simp, by simp [Grant.groups, Allows], by simp [Grant.models, Allows]⟩⟩
  have hfits : ¬ Oversized plainRegistry ⟨"basic", "", "default"⟩ := by
    rintro ⟨t, p, ht', hp', hsplit⟩
    obtain rfl := Grant.lists.inj (hp.symm.trans hp')
    simp [SplitTooLong] at hsplit
  exact ⟨hr, hentitled, ((enforced_iff_entitled hr _).mpr hfits _ _ _ rfl hscope
    ⟨hg, hm, hratio⟩).mpr hentitled⟩

/-- Consecutive characters from a first one on, range by range. -/
def letters (ranges : List (Nat × Nat)) : List Char :=
  ranges.flatMap fun r => (List.range r.2).map fun i => Char.ofNat (r.1 + i)

/-- Their one-letter names. -/
def letterNames (ranges : List (Nat × Nat)) : List String := (letters ranges).map String.singleton

/-- A tier that lists 65 groups and a profile that lists 127 models. -/
def wideRegistry : AccessProfileSetting where
  profiles := [("standard", { label := "Standard"
                              modelAllowlist := some (letterNames [(0x100, 127)]) })]
  accountTiers := [("wide", { label := "Wide"
                              routeGroups := some (letterNames [(0x2d, 13), (0x41, 26), (0x61, 26)]) })]

theorem wideRegistry_parsed : wideRegistry.Parsed := by
  have hparsed : parseAccessProfileDefinitions (some wideRegistry.profiles) = .ok wideRegistry.profiles ∧
      parseAccountTierDefinitions (some wideRegistry.accountTiers) = .ok wideRegistry.accountTiers := by
    decide +kernel
  exact ⟨⟨_, hparsed.1⟩, ⟨_, hparsed.2⟩⟩

theorem wideRegistry_oversized : Oversized wideRegistry ⟨"wide", "", "default"⟩ := by
  refine ⟨{ label := "Wide"
            routeGroups := some (letterNames [(0x2d, 13), (0x41, 26), (0x61, 26)]) },
    { label := "Standard", modelAllowlist := some (letterNames [(0x100, 127)]) }, ?_, ?_,
    .inl ⟨rfl, rfl, by simp [listSize, letterNames, letters]⟩⟩
  · decide +kernel
  · decide +kernel

/-- Both registries are accepted, the tier admits the group and every model, and the profile admits
every group and the model; the request is rejected because the snapshot would hold 65 groups, 65
routes and 127 models. -/
theorem wideRegistry_rejects_entitled :
    ∃ settings identity group model, settings.registry.Parsed ∧
      accessPolicyEnforcedForGroup settings group = true ∧ ValidRequest settings group model ∧
      Entitled settings.registry identity group model ∧
      accessPolicyRejectsSelectedGroup settings identity group model = true := by
  obtain ⟨settings, group, model, hreg, hscope, hv, hentitled, hrejects⟩ :=
    wideRegistry_oversized.rejects_entitled wideRegistry_parsed
  refine ⟨settings, _, group, model, ?_, hscope, hv, ?_, hrejects⟩ <;> rw [hreg]
  · exact wideRegistry_parsed
  · exact hentitled

end MyApiSpec.Access
