import MyApiSpec.Routing.Policy

/-!
# Retries across groups

`service/channel_select.go:14–192`, `service/group.go:52–107`, the selection in
`middleware/distributor.go:134–141` and the attempt loop of `controller/relay.go:218–325`. The
position of a request in its groups and tiers is kept in the request context (the group index) and
in the retry counter of the loop, which the selector resets when it changes the group.
-/

namespace MyApiSpec.Routing

open Base List

/-! ### State -/

/-- `RetryParam`, its counter and one-shot flag. -/
structure RetryParam where
  retry : Nat := 0
  resetNextTry : Bool := false
  deriving DecidableEq, Repr

/-- `IncreaseRetry`. -/
def RetryParam.increaseRetry (p : RetryParam) : RetryParam :=
  if p.resetNextTry then { p with resetNextTry := false } else { p with retry := p.retry + 1 }

/-- The keys of the request context that the selector reads and writes. -/
structure RequestContext where
  autoGroupIndex : Option Nat := none
  autoGroup : String := ""
  deriving DecidableEq, Repr

/-- What the selector reads: the auto groups of the installation and of the token, which groups
the user may select, the settings of the token, the number of retries, the attempts recorded in a
failover context if there is one, and the candidates of each group for the model and path. -/
structure RoutingEnv where
  tokenGroup : String
  globalAutoGroups : List String
  tokenAutoGroups : Option (List String)
  maxTokenAutoGroups : Nat
  selectable : String → Bool
  crossGroupRetry : Bool
  retryTimes : Nat
  failover : Option Nat
  candidates : String → List ChannelRoutingCandidate

/-- The selected group and channel. -/
structure Selected where
  group : String
  channelID : Int
  deriving DecidableEq, Repr

/-- `GetRequestAutoGroups`. The token list is cut at the current limit; a limit of zero never
equals the length behind an append, so it does not cut. -/
def RoutingEnv.autoGroups (env : RoutingEnv) : List String :=
  match env.tokenAutoGroups with
  | none => distinct (env.globalAutoGroups.filter env.selectable)
  | some groups =>
    let filtered := distinct (groups.filter env.selectable)
    if env.maxTokenAutoGroups = 0 then filtered else filtered.take env.maxTokenAutoGroups

/-- `GetAvailableChannelRoutingPolicy`. -/
def RoutingEnv.policy (env : RoutingEnv) (group : String) : ChannelRoutingPolicy :=
  buildChannelRoutingPolicy (env.candidates group)

/-- `getRandomQuotaSatisfiedChannel`; the selected channel is read from the cache. -/
def getRandomQuotaSatisfiedChannel (env : RoutingEnv) (group : String) (retry : Nat)
    (randomInt : RandomInt) : Except RoutingError (Option Int) :=
  selectChannelFromRoutingPolicy (env.policy group) (if env.failover.isSome then 0 else retry)
    randomInt

/-! ### Selection -/

/-- The loop over the auto groups from index `i` on; `start` is the index it began at. -/
def autoGroupLoop (env : RoutingEnv) (randomInt : RandomInt) (start : Nat) :
    List String → Nat → RequestContext → RetryParam →
      RequestContext × RetryParam × Except RoutingError (Option Selected)
  | [], _, ctx, p => (ctx, p, .ok none)
  | group :: rest, i, ctx, p =>
    let priorityRetry := if start < i then 0 else p.retry
    match getRandomQuotaSatisfiedChannel env group priorityRetry randomInt with
    | .error e => (ctx, p, .error e)
    | .ok none =>
      autoGroupLoop env randomInt start rest (i + 1) { ctx with autoGroupIndex := some (i + 1) }
        { p with retry := 0 }
    | .ok (some id) =>
      if env.crossGroupRetry ∧ env.retryTimes ≤ priorityRetry then
        -- this attempt still uses the group, the next one starts at the next group
        (⟨some (i + 1), group⟩, ⟨0, true⟩, .ok (some ⟨group, id⟩))
      else (⟨some i, group⟩, p, .ok (some ⟨group, id⟩))

/-- `CacheGetRandomSatisfiedChannel` for a token without an assigned access policy. -/
def cacheGetRandomSatisfiedChannel (env : RoutingEnv) (randomInt : RandomInt) (ctx : RequestContext)
    (p : RetryParam) : RequestContext × RetryParam × Except RoutingError (Option Selected) :=
  if env.tokenGroup = "auto" then
    if env.autoGroups = [] then (ctx, p, .error .autoGroupsDisabled)
    else if (∃ n, env.failover = some n ∧ 0 < n) ∧ env.crossGroupRetry = false then
      if ctx.autoGroup ∉ env.autoGroups then (ctx, p, .ok none)
      else
        (ctx, p, (getRandomQuotaSatisfiedChannel env ctx.autoGroup p.retry randomInt).map
          (Option.map (Selected.mk ctx.autoGroup)))
    else
      let start := ctx.autoGroupIndex.getD 0
      autoGroupLoop env randomInt start (env.autoGroups.drop start) start ctx p
  else
    (ctx, p, (getRandomQuotaSatisfiedChannel env env.tokenGroup p.retry randomInt).map
      (Option.map (Selected.mk env.tokenGroup)))

/-! ### The attempt loop -/

/-- The selections of the attempts behind the first one, when every attempt fails with a retryable
error. A selection that fails or finds nothing ends the loop. -/
def retrySelections (env : RoutingEnv) (randomInt : Nat → RandomInt) :
    Nat → Nat → RequestContext → RetryParam → List Selected
  | 0, _, _, _ => []
  | remaining + 1, attempt, ctx, p =>
    match cacheGetRandomSatisfiedChannel env (randomInt attempt) ctx p.increaseRetry with
    | (ctx, p, .ok (some sel)) => sel :: retrySelections env randomInt remaining (attempt + 1) ctx p
    | _ => []

/-- The selections of a request. The distributor selects the channel of the first attempt with a
counter of its own; the loop of the relay selects the others. -/
def relaySelections (env : RoutingEnv) (randomInt : Nat → RandomInt) : List Selected :=
  match cacheGetRandomSatisfiedChannel env (randomInt 0) {} {} with
  | (ctx, _, .ok (some sel)) => sel :: retrySelections env randomInt env.retryTimes 1 ctx {}
  | _ => []

/-! ### The documented order -/

/-- The number of priority tiers of a group. -/
def RoutingEnv.tierCount (env : RoutingEnv) (group : String) : Nat := (env.policy group).tiers.length

/-- Every tier of every group, group by group. -/
def RoutingEnv.documentedOrder (env : RoutingEnv) : List (String × Nat) :=
  env.autoGroups.flatMap fun group => (List.range (env.tierCount group)).map (Prod.mk group)

/-- The selection uses the tier of the group. -/
def RoutingEnv.Uses (env : RoutingEnv) (s : Selected) (group : String) (tier : Nat) : Prop :=
  s.group = group ∧ ∃ t, (env.policy group).tiers[tier]? = some t ∧ s.channelID ∈ t.channels

/-- The selections begin with the documented order, and no group is returned to after it was
left. -/
structure RoutingEnv.Follows (env : RoutingEnv) (selections : List Selected) : Prop where
  order : ∀ (t : Nat) (group : String) (tier : Nat), env.documentedOrder[t]? = some (group, tier) →
    ∃ s, selections[t]? = some s ∧ env.Uses s group tier
  noReturn : ∀ (i j k : Nat) (a b c : Selected), i < j → j < k → selections[i]? = some a →
    selections[j]? = some b → selections[k]? = some c → a.group = c.group → b.group = a.group

/-- An auto key with cross-group retries and without a failover context, whose groups all have a
tier and whose retries suffice for all tiers. -/
structure RoutingEnv.CrossGroup (env : RoutingEnv) : Prop where
  auto : env.tokenGroup = "auto"
  crossGroupRetry : env.crossGroupRetry = true
  failover : env.failover = none
  groups : env.autoGroups ≠ []
  tiers : ∀ group ∈ env.autoGroups, 1 ≤ env.tierCount group
  retries : env.documentedOrder.length ≤ env.retryTimes + 1

theorem RoutingEnv.autoGroups_nodup (env : RoutingEnv) : env.autoGroups.Nodup := by
  unfold RoutingEnv.autoGroups
  split
  · exact nodup_distinct _
  · split
    · exact nodup_distinct _
    · exact (nodup_distinct _).sublist (take_sublist _ _)

section CrossGroup

variable {env : RoutingEnv} {first : String} {rest : List String}

/-- A selection at the first group uses the tier of the counter, and the next selection starts at
the same group until the counter reaches the number of retries. -/
theorem select_first (h : env.CrossGroup) (hg : env.autoGroups = first :: rest)
    {randomInt : RandomInt} (hr : randomInt.Works) {ctx : RequestContext} {p : RetryParam}
    (hctx : ctx.autoGroupIndex = none ∨ ctx.autoGroupIndex = some 0) :
    ∃ ctx' p' s, cacheGetRandomSatisfiedChannel env randomInt ctx p = (ctx', p', .ok (some s)) ∧
      env.Uses s first (tierIndex p.retry (env.tierCount first)) ∧
      (p.retry < env.retryTimes → ctx'.autoGroupIndex = some 0 ∧ p' = p) := by
  have htiers : 0 < (env.policy first).tiers.length := h.tiers first (by rw [hg]; simp)
  obtain ⟨tier, id, htier, hid, hsel⟩ := selectChannel_ok p.retry hr htiers
  have hget : getRandomQuotaSatisfiedChannel env first p.retry randomInt = .ok (some id) := by
    unfold getRandomQuotaSatisfiedChannel
    rw [h.failover]
    exact hsel
  have hstart : ctx.autoGroupIndex.getD 0 = 0 := by
    rcases hctx with hc | hc <;> rw [hc] <;> rfl
  have hselect : cacheGetRandomSatisfiedChannel env randomInt ctx p =
      autoGroupLoop env randomInt 0 (first :: rest) 0 ctx p := by
    unfold cacheGetRandomSatisfiedChannel
    rw [if_pos h.auto, if_neg h.groups, if_neg (by simp [h.failover]), hstart, hg]
    rfl
  have huses : env.Uses ⟨first, id⟩ first (tierIndex p.retry (env.tierCount first)) :=
    ⟨rfl, tier, htier, hid⟩
  rw [hselect, autoGroupLoop]
  simp only [lt_irrefl, if_false, hget]
  by_cases hlast : env.crossGroupRetry = true ∧ env.retryTimes ≤ p.retry
  · rw [if_pos hlast]
    exact ⟨_, _, _, rfl, huses, fun hlt => absurd hlast.2 (not_le.mpr hlt)⟩
  · rw [if_neg hlast]
    exact ⟨_, _, _, rfl, huses, fun _ => ⟨rfl, rfl⟩⟩

variable {randomInt : Nat → RandomInt}

/-- The loop stays at the first group: the selection with counter `retry + i` uses its tier. -/
theorem retrySelections_first (h : env.CrossGroup) (hg : env.autoGroups = first :: rest)
    (hr : ∀ n, (randomInt n).Works) :
    ∀ (attempt : Nat) {remaining retry : Nat} {ctx : RequestContext}, ctx.autoGroupIndex = some 0 →
      retry + remaining = env.retryTimes → ∀ i < remaining,
        ∃ s, (retrySelections env randomInt remaining attempt ctx ⟨retry, false⟩)[i]? = some s ∧
          env.Uses s first (tierIndex (retry + 1 + i) (env.tierCount first))
  | _, 0, _, _, _, _, i, hi => by omega
  | attempt, remaining + 1, retry, ctx, hctx, hsum, i, hi => by
    obtain ⟨ctx', p', s, hsel, huses, hstay⟩ := select_first h hg (hr attempt)
      (p := ⟨retry + 1, false⟩) (.inr hctx)
    have hstep : retrySelections env randomInt (remaining + 1) attempt ctx ⟨retry, false⟩ =
        s :: retrySelections env randomInt remaining (attempt + 1) ctx' p' := by
      rw [retrySelections]
      simp only [RetryParam.increaseRetry, Bool.false_eq_true, if_false, hsel]
    rw [hstep]
    cases i with
    | zero => exact ⟨s, rfl, huses⟩
    | succ i =>
      have hlt : retry + 1 < env.retryTimes := by omega
      obtain ⟨hctx', rfl⟩ := hstay hlt
      obtain ⟨s', hs', huses'⟩ := retrySelections_first h hg hr (attempt + 1) hctx'
        (show retry + 1 + remaining = env.retryTimes by omega) i (by omega)
      refine ⟨s', by rw [getElem?_cons_succ]; exact hs', ?_⟩
      rwa [show retry + 1 + (i + 1) = retry + 1 + 1 + i by omega]

/-- Every selection of the request is made from the first group. -/
theorem relaySelections_first (h : env.CrossGroup) (hg : env.autoGroups = first :: rest)
    (hr : ∀ n, (randomInt n).Works) {i : Nat}
    (hi : i ≤ env.retryTimes) :
    ∃ s, (relaySelections env randomInt)[i]? = some s ∧
      env.Uses s first (tierIndex i (env.tierCount first)) := by
  obtain ⟨ctx, p, s, hsel, huses, hstay⟩ := select_first h hg (hr 0)
    (p := {}) (.inl (rfl : ({} : RequestContext).autoGroupIndex = none))
  have hstep : relaySelections env randomInt =
      s :: retrySelections env randomInt env.retryTimes 1 ctx {} := by
    rw [relaySelections, hsel]
  rw [hstep]
  cases i with
  | zero => exact ⟨s, rfl, huses⟩
  | succ i =>
    have hpos : 0 < env.retryTimes := by omega
    obtain ⟨hctx, -⟩ := hstay hpos
    obtain ⟨s', hs', huses'⟩ := retrySelections_first h hg hr 1 hctx
      (env.retryTimes.zero_add) i (by omega)
    refine ⟨s', by rw [getElem?_cons_succ]; exact hs', ?_⟩
    rwa [show i + 1 = 0 + 1 + i by omega]

end CrossGroup

theorem retrySelections_length (env : RoutingEnv) (randomInt : Nat → RandomInt) :
    ∀ (remaining attempt : Nat) (ctx : RequestContext) (p : RetryParam),
      (retrySelections env randomInt remaining attempt ctx p).length ≤ remaining
  | 0, _, _, _ => le_rfl
  | remaining + 1, attempt, ctx, p => by
    rw [retrySelections]
    split
    · rw [List.length_cons]
      exact Nat.succ_le_succ (retrySelections_length env randomInt remaining _ _ _)
    · exact Nat.zero_le _

theorem relaySelections_length (env : RoutingEnv) (randomInt : Nat → RandomInt) :
    (relaySelections env randomInt).length ≤ env.retryTimes + 1 := by
  rw [relaySelections]
  split
  · exact Nat.succ_le_succ (retrySelections_length env randomInt _ _ _ _)
  · exact Nat.zero_le _

/-- The documented order is followed if and only if there is only one group. -/
theorem follows_documentedOrder_iff {env : RoutingEnv} (h : env.CrossGroup)
    {randomInt : Nat → RandomInt} (hr : ∀ n, (randomInt n).Works) :
    env.Follows (relaySelections env randomInt) ↔ env.autoGroups.length = 1 := by
  obtain ⟨first, rest, hg⟩ := exists_cons_of_ne_nil h.groups
  have horder : env.documentedOrder = (range (env.tierCount first)).map (Prod.mk first) ++
      rest.flatMap fun group => (range (env.tierCount group)).map (Prod.mk group) := by
    rw [RoutingEnv.documentedOrder, hg, flatMap_cons]
  constructor
  · intro hf
    cases rest with
    | nil => rw [hg]; rfl
    | cons second rest =>
      exfalso
      have hsecond : 1 ≤ env.tierCount second := h.tiers second (by rw [hg]; simp)
      -- the first tier of the second group is due behind the tiers of the first group
      have hdue : env.documentedOrder[env.tierCount first]? = some (second, 0) := by
        rw [horder, getElem?_append_right (by simp)]
        obtain ⟨n, hn⟩ : ∃ n, env.tierCount second = n + 1 := ⟨_, (Nat.sub_add_cancel hsecond).symm⟩
        simp [flatMap_cons, hn, range_succ_eq_map]
      have hlt := (List.getElem?_eq_some_iff.mp hdue).1
      have hretries := h.retries
      obtain ⟨s, hs, huses⟩ := hf.order _ _ _ hdue
      obtain ⟨s', hs', huses'⟩ := relaySelections_first h hg hr
        (i := env.tierCount first) (by omega)
      cases hs.symm.trans hs'
      have hne : first ≠ second := by
        have hn := env.autoGroups_nodup
        rw [hg] at hn
        exact fun he => (nodup_cons.mp hn).1 (he ▸ mem_cons_self)
      exact hne (huses'.1.symm.trans huses.1)
  · intro hone
    obtain rfl : rest = [] := by
      rw [hg] at hone
      simpa using hone
    have hall : ∀ (i : Nat) (s : Selected), (relaySelections env randomInt)[i]? = some s →
        s.group = first := by
      intro i s hs
      have hlen := relaySelections_length env randomInt
      have hi := (List.getElem?_eq_some_iff.mp hs).1
      obtain ⟨s', hs', huses⟩ := relaySelections_first h hg hr (i := i) (by omega)
      cases hs.symm.trans hs'
      exact huses.1
    refine ⟨fun t group tier ht => ?_, fun i j k a b c _ _ ha hb _ _ => ?_⟩
    · rw [horder, flatMap_nil, append_nil, getElem?_map] at ht
      obtain ⟨n, hn, he⟩ := Option.map_eq_some_iff.mp ht
      obtain ⟨hlt, hnt⟩ := List.getElem?_eq_some_iff.mp hn
      rw [length_range] at hlt
      obtain ⟨rfl, rfl⟩ : first = group ∧ t = tier := by
        subst hnt
        simpa using he
      have hretries := h.retries
      rw [horder] at hretries
      simp only [flatMap_nil, append_nil, length_map, length_range] at hretries
      obtain ⟨s, hs, huses⟩ := relaySelections_first h hg hr (i := t) (by omega)
      refine ⟨s, hs, ?_⟩
      rwa [tierIndex, if_neg (by omega)] at huses
    · rw [hall j b hb, hall i a ha]

/-! ### The documented example -/

/-- An auto key over the groups with cross-group retries and `RetryTimes = 3`. Every group has a
channel of priority 1 and one of priority 0. -/
def exampleEnv (groups : List String) : RoutingEnv where
  tokenGroup := "auto"
  globalAutoGroups := groups
  tokenAutoGroups := none
  maxTokenAutoGroups := 0
  selectable := fun _ => true
  crossGroupRetry := true
  retryTimes := 3
  failover := none
  candidates := fun group => if group = "B" then [⟨3, 1, 1, ""⟩, ⟨4, 0, 1, ""⟩] else
    [⟨1, 1, 1, ""⟩, ⟨2, 0, 1, ""⟩]

/-- The random source that always draws zero. -/
def zeroRandom : RandomInt := fun _ => .ok 0

theorem zeroRandom_works : zeroRandom.Works := fun _ hpos => ⟨0, rfl, hpos⟩

theorem exampleEnv_tiers (groups : List String) (group : String) :
    ((exampleEnv groups).policy group).tiers = if group = "B" then
      [⟨1, [⟨⟨3, 1, 1, ""⟩, 1⟩]⟩, ⟨0, [⟨⟨4, 0, 1, ""⟩, 1⟩]⟩] else
      [⟨1, [⟨⟨1, 1, 1, ""⟩, 1⟩]⟩, ⟨0, [⟨⟨2, 0, 1, ""⟩, 1⟩]⟩] := by
  by_cases hb : group = "B" <;>
    simp [RoutingEnv.policy, exampleEnv, hb, buildChannelRoutingPolicy, routingTier, distinct,
      distinctFrom, mergeSort, List.MergeSort.Internal.splitInTwo]

theorem exampleEnv_crossGroup {groups : List String} (hne : groups ≠ []) (hd : distinct groups = groups)
    (hlen : groups.length ≤ 2) : (exampleEnv groups).CrossGroup := by
  have hgroups : (exampleEnv groups).autoGroups = groups := by
    simp [RoutingEnv.autoGroups, exampleEnv, hd]
  have hcount : ∀ group, (exampleEnv groups).tierCount group = 2 := by
    intro group
    rw [RoutingEnv.tierCount, exampleEnv_tiers]
    split <;> rfl
  refine ⟨rfl, rfl, rfl, by rwa [hgroups], fun group _ => by rw [hcount]; decide, ?_⟩
  have horder : (exampleEnv groups).documentedOrder.length = groups.length * 2 := by
    simp [RoutingEnv.documentedOrder, hgroups, hcount, length_flatMap]
  rw [horder]
  show groups.length * 2 ≤ 4
  omega

theorem follows_documentedOrder_iff_oneGroup : (exampleEnv ["A"]).CrossGroup ∧ zeroRandom.Works ∧
    ((exampleEnv ["A"]).Follows (relaySelections (exampleEnv ["A"]) fun _ => zeroRandom) ↔
      (exampleEnv ["A"]).autoGroups.length = 1) :=
  ⟨exampleEnv_crossGroup (by decide) (by decide) (by decide), zeroRandom_works,
    follows_documentedOrder_iff (exampleEnv_crossGroup (by decide) (by decide) (by decide))
      fun _ => zeroRandom_works⟩

theorem exampleEnv_pick (retry : Nat) :
    getRandomQuotaSatisfiedChannel (exampleEnv ["A", "B"]) "A" retry zeroRandom =
      .ok (some (if retry = 0 then 1 else 2)) := by
  rw [getRandomQuotaSatisfiedChannel, selectChannelFromRoutingPolicy, exampleEnv_tiers]
  rcases retry with _ | _ | retry <;> simp [exampleEnv, tierIndex, selectFromTier]

theorem exampleEnv_autoGroups : (exampleEnv ["A", "B"]).autoGroups = ["A", "B"] := by decide

/-- Before the last retry the selection keeps the counter and stays at `A`. -/
theorem exampleEnv_select {i : Option Nat} (hi : i.getD 0 = 0) (auto : String) (retry : Nat) :
    cacheGetRandomSatisfiedChannel (exampleEnv ["A", "B"]) zeroRandom ⟨i, auto⟩ ⟨retry, false⟩ =
      if 3 ≤ retry then (⟨some 1, "A"⟩, ⟨0, true⟩, .ok (some ⟨"A", if retry = 0 then 1 else 2⟩))
      else (⟨some 0, "A"⟩, ⟨retry, false⟩, .ok (some ⟨"A", if retry = 0 then 1 else 2⟩)) := by
  have hauto : (exampleEnv ["A", "B"]).tokenGroup = "auto" := rfl
  rw [cacheGetRandomSatisfiedChannel, if_pos hauto, if_neg (by rw [exampleEnv_autoGroups]; decide),
    if_neg (by simp [exampleEnv]), exampleEnv_autoGroups]
  simp only [hi, drop_zero, autoGroupLoop, lt_irrefl, if_false, exampleEnv_pick]
  simp [exampleEnv]

/-- In the example of the source, two groups of two tiers, the second group is never tried: the
attempts use `A` tier 0, `A` tier 1, and then `A` tier 1 again. -/
theorem second_group_never_tried : (exampleEnv ["A", "B"]).CrossGroup ∧ zeroRandom.Works ∧
    (exampleEnv ["A", "B"]).documentedOrder = [("A", 0), ("A", 1), ("B", 0), ("B", 1)] ∧
    relaySelections (exampleEnv ["A", "B"]) (fun _ => zeroRandom) =
      [⟨"A", 1⟩, ⟨"A", 2⟩, ⟨"A", 2⟩, ⟨"A", 2⟩] ∧
    ¬ (exampleEnv ["A", "B"]).Follows
      (relaySelections (exampleEnv ["A", "B"]) fun _ => zeroRandom) := by
  have horder : (exampleEnv ["A", "B"]).documentedOrder =
      [("A", 0), ("A", 1), ("B", 0), ("B", 1)] := by
    rw [RoutingEnv.documentedOrder, exampleEnv_autoGroups]
    simp [RoutingEnv.tierCount, exampleEnv_tiers, range_succ]
  have hselections : relaySelections (exampleEnv ["A", "B"]) (fun _ => zeroRandom) =
      [⟨"A", 1⟩, ⟨"A", 2⟩, ⟨"A", 2⟩, ⟨"A", 2⟩] := by
    have htimes : (exampleEnv ["A", "B"]).retryTimes = 3 := rfl
    simp [relaySelections, retrySelections, RetryParam.increaseRetry, exampleEnv_select, htimes]
  refine ⟨exampleEnv_crossGroup (by decide) (by decide) (by decide), zeroRandom_works, horder,
    hselections, fun hf => ?_⟩
  obtain ⟨s, hs, huses⟩ := hf.order 2 "B" 0 (by rw [horder]; rfl)
  rw [hselections] at hs
  cases hs
  exact absurd huses.1 (by decide)

end MyApiSpec.Routing
