import Mathlib.Data.List.Pairwise
import Mathlib.Data.Prod.Lex
import MyApiSpec.Base.Chain
import MyApiSpec.Base.GoText
import MyApiSpec.Base.Outcome

/-!
# Model routes of a channel

`model/channel_model_route.go:14–162`: which upstream model a channel uses for a requested model. An explicit
mapping is followed to its end and wins over the route rules; among the rules that apply one scan keeps the best.
Settings and mapping are modelled as decoded, `none` where the text does not decode; the digest of the
configuration is left out.
-/

namespace MyApiSpec.Routing

open Base List

variable {channelType : Int}

/-- `ErrModelRouteConflict`, `ErrModelRouteInvalid` and `ErrModelRouteEndpoint`. -/
inductive RouteError where
  | conflict
  | invalid
  | endpoint
  deriving DecidableEq, Repr

/-- The texts of the errors. -/
def RouteError.text : RouteError → String
  | .conflict => "model_route_conflict"
  | .invalid => "model_route_invalid"
  | .endpoint => "model_route_endpoint_unsupported"

/-- `dto.ModelRoute`; `matchKind` is its field `Match`. -/
structure ModelRoute where
  publicModel : String
  upstreamModel : String
  endpoint : String := ""
  matchKind : String
  priority : Int := 0
  deriving DecidableEq, Repr

def channelTypeOpenAI : Int := 1

def channelTypeCodex : Int := 57

def chatCompletions : String := "/v1/chat/completions"

def responses : String := "/v1/responses"

/-- `IsBasicModelRouteChannel`. -/
def isBasicModelRouteChannel (channelType : Int) : Bool :=
  channelType = channelTypeOpenAI || channelType = channelTypeCodex

/-! ### Validation -/

variable {a b : ModelRoute}

/-- A name that is neither empty nor too long, is trimmed, and holds none of `"\r\n\t,"`. -/
def validName (name : String) : Bool :=
  name ≠ "" && name.utf8ByteSize ≤ 255 && trimSpace name = name &&
    !name.toList.any fun c => c = '\r' || c = '\n' || c = '\t' || c = ','

/-- Two rules that agree in everything but the upstream model. -/
def ModelRoute.Conflicts (previous route : ModelRoute) : Prop :=
  previous.publicModel = route.publicModel ∧ previous.matchKind = route.matchKind ∧
    previous.endpoint = route.endpoint ∧ previous.priority = route.priority ∧
    previous.upstreamModel ≠ route.upstreamModel

instance (previous route : ModelRoute) : Decidable (previous.Conflicts route) :=
  inferInstanceAs (Decidable (_ ∧ _))

/-- The body of the loop of `ValidateChannelModelRoutes`. -/
def validateRoute (channelType : Int) (previous : List ModelRoute) (route : ModelRoute) :
    Except RouteError Unit := do
  check (validName route.publicModel = true ∧ validName route.upstreamModel = true ∧
    (route.matchKind = "exact" ∨ route.matchKind = "prefix")) .invalid
  check (route.endpoint = "" ∨ route.endpoint = chatCompletions ∨ route.endpoint = responses) .endpoint
  check (¬ (channelType = channelTypeCodex ∧ route.endpoint = chatCompletions)) .endpoint
  check (∀ p ∈ previous, ¬ p.Conflicts route) .conflict

/-- The loop of `ValidateChannelModelRoutes` behind `previous`. -/
def validateRoutesFrom (channelType : Int) : List ModelRoute → List ModelRoute → Except RouteError Unit
  | _, [] => .ok ()
  | previous, route :: rest => do
    validateRoute channelType previous route
    validateRoutesFrom channelType (previous ++ [route]) rest

/-- `ValidateChannelModelRoutes`. -/
def validateChannelModelRoutes (channelType : Int) (routes : List ModelRoute) : Except RouteError Unit :=
  if routes = [] then .ok ()
  else do
    check (isBasicModelRouteChannel channelType = true ∧ routes.length ≤ 256) .invalid
    validateRoutesFrom channelType [] routes

/-! ### Resolution -/

namespace ModelRoute

/-- Whether the rule matches the requested model. -/
def matchesModel (rule : ModelRoute) (requested : String) : Bool :=
  (rule.matchKind = "exact" && requested = rule.publicModel) ||
    (rule.matchKind = "prefix" && rule.publicModel.toList.isPrefixOf requested.toList)

/-- Whether the rule matches the requested model and is for the endpoint. -/
def applies (rule : ModelRoute) (requested endpoint : String) : Bool :=
  rule.matchesModel requested && (rule.endpoint = "" || rule.endpoint = endpoint)

/-- One for an exact rule. -/
def exactness (rule : ModelRoute) : Nat := if rule.matchKind = "exact" then 1 else 0

/-- One for a rule of one endpoint. -/
def specificity (rule : ModelRoute) : Nat := if rule.endpoint ≠ "" then 1 else 0

/-- The array `rank`. -/
def rank (rule : ModelRoute) : List Nat := [rule.exactness, rule.specificity, rule.publicModel.utf8ByteSize]

end ModelRoute

/-- The loop that sets `comparison`. -/
def compareRank : List Nat → List Nat → Ordering
  | a :: as, b :: bs => if b < a then .gt else if a < b then .lt else compareRank as bs
  | _, _ => .eq

/-- Whether the rules of the channel serve the endpoint. -/
def servesEndpoint (channelType : Int) (endpoint : String) : Bool :=
  !((endpoint ≠ chatCompletions && endpoint ≠ responses) ||
    (channelType = channelTypeCodex && endpoint ≠ responses))

/-- The variables of the scan; `bestRank` is the rank of `best`. -/
structure Scan where
  best : Option ModelRoute := none
  publicMatch : Bool := false
  deriving DecidableEq, Repr

/-- The end of the scan's body: does the rule replace the best one? -/
def keepBest (rule : ModelRoute) : Option ModelRoute → Except RouteError ModelRoute
  | none => .ok rule
  | some best =>
    match compareRank rule.rank best.rank with
    | .gt => .ok rule
    | .lt => .ok best
    | .eq =>
      if best.priority < rule.priority then .ok rule
      else if rule.priority = best.priority ∧ rule.upstreamModel ≠ best.upstreamModel then .error .conflict
      else .ok best

/-- The body of the scan. -/
def scanRule (channelType : Int) (requested endpoint : String) (s : Scan) (rule : ModelRoute) :
    Except RouteError Scan := do
  check (rule.matchesModel requested = true → servesEndpoint channelType endpoint = true) .endpoint
  let publicMatch := s.publicMatch || rule.matchesModel requested
  if rule.applies requested endpoint then
    let best ← keepBest rule s.best
    return ⟨some best, publicMatch⟩
  else return { s with publicMatch }

/-- The branch of `ResolveChannelModelRoute` without a mapping: the best rule, if any matches. -/
def bestRule (channelType : Int) (rules : List ModelRoute) (requested endpoint : String) :
    Except RouteError (Option ModelRoute) := do
  let s ← rules.foldlM (scanRule channelType requested endpoint) {}
  check (¬ (s.publicMatch = true ∧ s.best = none)) .endpoint
  return s.best

/-- `mapping[model]`, the empty text without an entry. -/
def mappingTarget (mapping : List (String × String)) (model : String) : String :=
  (mapping.lookup model).getD ""

/-- Where the mapping leads from a model; an empty target and the model itself end the chain. -/
def nextModel (mapping : List (String × String)) (model : String) : Option String :=
  if mappingTarget mapping model ≠ "" ∧ mappingTarget mapping model ≠ model then
    some (mappingTarget mapping model)
  else none

/-- What the resolution reads of a channel. -/
structure RouteChannel where
  id : Int
  type : Int
  modelRoutes : Option (List ModelRoute) := some []
  modelMapping : Option (List (String × String)) := some []
  deriving DecidableEq, Repr

/-- `ChannelModelRoute` without its digest. -/
structure ChannelModelRoute where
  requestedModel : String
  upstreamModel : String
  endpoint : String
  reason : String
  channelID : Int
  deriving DecidableEq, Repr

/-- An upstream model that the resolution refuses. -/
def BadUpstream (model : String) : Prop := trimSpace model = "" ∨ 255 < model.utf8ByteSize

instance (model : String) : Decidable (BadUpstream model) := inferInstanceAs (Decidable (_ ∨ _))

namespace ChannelModelRoute

/-- The result before a mapping or a rule is found. -/
def configured (channel : RouteChannel) (requested endpoint : String) : ChannelModelRoute :=
  ⟨requested, requested, endpoint, "configured_model", channel.id⟩

/-- The result with the upstream model that was found. -/
def routedTo (result : ChannelModelRoute) (model reason : String) : ChannelModelRoute :=
  { result with upstreamModel := model, reason := reason }

/-- The last check of `ResolveChannelModelRoute`. -/
def finish (result : ChannelModelRoute) : ChannelModelRoute × Option RouteError :=
  (result, if BadUpstream result.upstreamModel then some .invalid else none)

end ChannelModelRoute

theorem finish_of_good {result : ChannelModelRoute} (h : ¬ BadUpstream result.upstreamModel) :
    result.finish = (result, none) := by
  rw [ChannelModelRoute.finish, if_neg h]

theorem finish_no_conflict (result : ChannelModelRoute) : result.finish.2 ≠ some .conflict := by
  simp only [ChannelModelRoute.finish]
  split <;> simp

/-- `ResolveChannelModelRoute`; `none` when the fuel does not suffice for the chain of the mapping. -/
def resolveChannelModelRoute (fuel : Nat) (channel : RouteChannel) (requested endpoint : String) :
    Option (ChannelModelRoute × Option RouteError) :=
  let result := ChannelModelRoute.configured channel requested endpoint
  match channel.modelRoutes with
  | none => some (result, some .invalid)
  | some rules =>
    match validateChannelModelRoutes channel.type rules with
    | .error e => some (result, some e)
    | .ok _ =>
      match channel.modelMapping with
      | none => some (result, some .invalid)
      | some mapping =>
        if mappingTarget mapping requested ≠ "" then
          match followChain (nextModel mapping) fuel [requested] requested with
          | none => none
          | some none => some (result, some .conflict)
          | some (some current) => some (result.routedTo current "explicit_mapping").finish
        else
          match bestRule channel.type rules requested endpoint with
          | .error e => some (result, some e)
          | .ok none => some result.finish
          | .ok (some best) => some (result.routedTo best.upstreamModel ("explicit_" ++ best.matchKind)).finish

/-! ### Valid rules -/

/-- A rule that passes the checks of its own fields. -/
structure ValidRule (channelType : Int) (route : ModelRoute) : Prop where
  publicName : validName route.publicModel = true
  upstreamName : validName route.upstreamModel = true
  kind : route.matchKind = "exact" ∨ route.matchKind = "prefix"
  endpoints : route.endpoint = "" ∨ route.endpoint = chatCompletions ∨ route.endpoint = responses
  codex : ¬ (channelType = channelTypeCodex ∧ route.endpoint = chatCompletions)

theorem ModelRoute.Conflicts.symm (h : a.Conflicts b) : b.Conflicts a :=
  ⟨h.1.symm, h.2.1.symm, h.2.2.1.symm, h.2.2.2.1.symm, h.2.2.2.2.symm⟩

instance : Std.Symm fun a b : ModelRoute => ¬ a.Conflicts b := ⟨fun _ _ hab hba => hab hba.symm⟩

variable {u : Unit}

theorem validateRoute_eq_ok {previous : List ModelRoute} {route : ModelRoute} :
    validateRoute channelType previous route = .ok u ↔
      ValidRule channelType route ∧ ∀ p ∈ previous, ¬ p.Conflicts route := by
  simp only [validateRoute, bind_eq_ok, check_eq_ok, exists_const]
  constructor
  · rintro ⟨⟨hp, hu, hk⟩, he, hc, hprev⟩
    exact ⟨⟨hp, hu, hk, he, hc⟩, hprev⟩
  · rintro ⟨⟨hp, hu, hk, he, hc⟩, hprev⟩
    exact ⟨⟨hp, hu, hk⟩, he, hc, hprev⟩

theorem validateRoutesFrom_eq_ok {channelType : Int} : ∀ {rest previous : List ModelRoute} {u : Unit},
    validateRoutesFrom channelType previous rest = .ok u ↔
      (∀ r ∈ rest, ValidRule channelType r) ∧ (∀ p ∈ previous, ∀ r ∈ rest, ¬ p.Conflicts r) ∧
        rest.Pairwise fun a b => ¬ a.Conflicts b
  | [], previous, u => by simp [validateRoutesFrom]
  | route :: rest, previous, u => by
    simp only [validateRoutesFrom, bind_eq_ok, validateRoute_eq_ok, exists_const, validateRoutesFrom_eq_ok,
      List.forall_mem_cons, List.forall_mem_append, List.pairwise_cons]
    constructor
    · rintro ⟨⟨hroute, hprev⟩, hrest, ⟨hprevs, hnew, -⟩, hpair⟩
      exact ⟨⟨hroute, hrest⟩, fun p hp => ⟨hprev p hp, hprevs p hp⟩, hnew, hpair⟩
    · rintro ⟨⟨hroute, hrest⟩, hprevs, hnew, hpair⟩
      exact ⟨⟨hroute, fun p hp => (hprevs p hp).1⟩, hrest,
        ⟨fun p hp => (hprevs p hp).2, hnew, List.forall_mem_nil _⟩, hpair⟩

/-- What the validation of a whole list says; nothing of it depends on the order. -/
theorem validateChannelModelRoutes_eq_ok {routes : List ModelRoute} :
    validateChannelModelRoutes channelType routes = .ok u ↔
      (routes ≠ [] → isBasicModelRouteChannel channelType = true ∧ routes.length ≤ 256) ∧
        (∀ r ∈ routes, ValidRule channelType r) ∧ routes.Pairwise fun a b => ¬ a.Conflicts b := by
  unfold validateChannelModelRoutes
  split
  · next h => simp [h]
  · next h => simp [validateRoutesFrom_eq_ok, h]

theorem validateChannelModelRoutes_perm {routes routes' : List ModelRoute}
    (hperm : routes'.Perm routes) (h : validateChannelModelRoutes channelType routes = .ok ()) :
    validateChannelModelRoutes channelType routes' = .ok () := by
  rw [validateChannelModelRoutes_eq_ok] at h ⊢
  obtain ⟨hchannel, hrules, hpair⟩ := h
  refine ⟨fun hne => ?_, fun r hr => hrules r (hperm.mem_iff.mp hr), ?_⟩
  · rw [hperm.length_eq]
    refine hchannel fun hnil => hne ?_
    rw [hnil] at hperm
    exact hperm.eq_nil
  · exact (hperm.pairwise_iff fun hab hba => hab hba.symm).mpr hpair

theorem validName_not_bad {name : String} (h : validName name = true) : ¬ BadUpstream name := by
  simp only [validName, Bool.and_eq_true, decide_eq_true_eq] at h
  obtain ⟨⟨⟨hne, hsize⟩, htrim⟩, -⟩ := h
  rintro (hblank | hlong)
  · exact hne (htrim ▸ hblank)
  · omega

/-! ### The best rule -/

/-- Exact before prefix, endpoint-specific before general, then the longer public name, then the higher
priority. -/
def ModelRoute.precedence (rule : ModelRoute) : ℕ ×ₗ ℕ ×ₗ ℕ ×ₗ ℤ :=
  toLex (rule.exactness, toLex (rule.specificity, toLex (rule.publicModel.utf8ByteSize, rule.priority)))

theorem precedence_lt : a.precedence < b.precedence ↔
    a.exactness < b.exactness ∨ a.exactness = b.exactness ∧ (a.specificity < b.specificity ∨
      a.specificity = b.specificity ∧ (a.publicModel.utf8ByteSize < b.publicModel.utf8ByteSize ∨
        a.publicModel.utf8ByteSize = b.publicModel.utf8ByteSize ∧ a.priority < b.priority)) := by
  simp only [ModelRoute.precedence, Prod.Lex.toLex_lt_toLex]

theorem precedence_eq : a.precedence = b.precedence ↔
    a.exactness = b.exactness ∧ a.specificity = b.specificity ∧
      a.publicModel.utf8ByteSize = b.publicModel.utf8ByteSize ∧ a.priority = b.priority := by
  simp only [ModelRoute.precedence, toLex_inj, Prod.mk.injEq]

/-- The rank decides before the priority does. -/
theorem compareRank_spec (a b : ModelRoute) :
    match compareRank a.rank b.rank with
    | .gt => b.precedence < a.precedence
    | .lt => a.precedence < b.precedence
    | .eq => a.exactness = b.exactness ∧ a.specificity = b.specificity ∧
        a.publicModel.utf8ByteSize = b.publicModel.utf8ByteSize := by
  simp only [precedence_lt, ModelRoute.rank, compareRank]
  split_ifs <;> simp only <;> omega

/-- Rules of one precedence have one upstream model. -/
def Untied (a b : ModelRoute) : Prop := a.precedence = b.precedence → a.upstreamModel = b.upstreamModel

/-- Without a tie the scan keeps a rule of the highest precedence, and there is no conflict. -/
theorem keepBest_some {rule best : ModelRoute} (h : Untied rule best) :
    keepBest rule (some best) = .ok (if best.precedence < rule.precedence then rule else best) := by
  have hcmp := compareRank_spec rule best
  simp only [keepBest]
  generalize compareRank rule.rank best.rank = comparison at hcmp
  cases comparison with
  | gt => rw [if_pos hcmp]
  | lt => rw [if_neg hcmp.not_gt]
  | eq =>
    by_cases hprio : best.priority < rule.priority
    · rw [if_pos hprio, if_pos (precedence_lt.mpr (by omega))]
    · rw [if_neg hprio, if_neg, if_neg (fun hlt => by have := precedence_lt.mp hlt; omega)]
      rintro ⟨heq, hne⟩
      exact hne (h (precedence_eq.mpr ⟨hcmp.1, hcmp.2.1, hcmp.2.2, heq⟩))

section

variable {requested endpoint : String} {best rule : ModelRoute} {s : Scan} {rules : List ModelRoute}

/-- The rules that apply and their upstream models. -/
def NoTies (rules : List ModelRoute) (requested endpoint : String) : Prop :=
  ∀ a ∈ rules, ∀ b ∈ rules, a.applies requested endpoint = true → b.applies requested endpoint = true → Untied a b

/-- The rule applies, and no rule that applies has a higher precedence. -/
structure Best (rules : List ModelRoute) (requested endpoint : String) (best : ModelRoute) : Prop where
  mem : best ∈ rules
  applied : best.applies requested endpoint = true
  highest : ∀ r ∈ rules, r.applies requested endpoint = true → r.precedence ≤ best.precedence

/-- What the scan knows behind the rules that it has seen. -/
structure Scanned (requested endpoint : String) (seen : List ModelRoute) (s : Scan) : Prop where
  matched : s.publicMatch = true ↔ ∃ r ∈ seen, r.matchesModel requested = true
  best : ∀ b ∈ s.best, Best seen requested endpoint b
  none : s.best = none → ∀ r ∈ seen, r.applies requested endpoint = false

theorem applies_matches (h : rule.applies requested endpoint = true) :
    rule.matchesModel requested = true := by
  simp only [ModelRoute.applies, Bool.and_eq_true] at h
  exact h.1

theorem Scanned.start (requested endpoint : String) : Scanned requested endpoint [] {} :=
  ⟨by simp, nofun, by simp⟩

variable {seen : List ModelRoute}

section

variable (h : Scanned requested endpoint seen s)
include h

theorem Scanned.skip
    (hrule : rule.applies requested endpoint = false) :
    Scanned requested endpoint (seen ++ [rule])
      { s with publicMatch := s.publicMatch || rule.matchesModel requested } := by
  refine ⟨?_, fun b hb => ⟨?_, (h.best b hb).applied, ?_⟩, ?_⟩
  · simp [h.matched, or_and_right, exists_or]
  · exact mem_append_left _ (h.best b hb).mem
  · simp only [forall_mem_append, forall_mem_singleton, hrule]
    exact ⟨(h.best b hb).highest, by simp⟩
  · simp only [forall_mem_append, forall_mem_singleton, hrule]
    exact fun hnone => ⟨h.none hnone, trivial⟩

theorem Scanned.take
    (hbest : Best (seen ++ [rule]) requested endpoint best) :
    Scanned requested endpoint (seen ++ [rule]) ⟨some best, s.publicMatch || rule.matchesModel requested⟩ := by
  refine ⟨?_, ?_, nofun⟩
  · simp [h.matched, or_and_right, exists_or]
  · rintro b ⟨⟩
    exact hbest

/-- One step of the scan, when the rule does not ask for an endpoint that is not served. -/
theorem scanRule_spec
    (hties : NoTies (seen ++ [rule]) requested endpoint)
    (hserves : rule.matchesModel requested = true → servesEndpoint channelType endpoint = true) :
    ∃ s', scanRule channelType requested endpoint s rule = .ok s' ∧
      Scanned requested endpoint (seen ++ [rule]) s' := by
  unfold scanRule
  rw [check_pos hserves, ok_bind]
  split
  · next hrule =>
    have hnew : rule ∈ seen ++ [rule] := by simp
    cases hb : s.best with
    | none =>
      refine ⟨_, rfl, h.take ⟨hnew, hrule, ?_⟩⟩
      simp only [forall_mem_append, forall_mem_singleton]
      exact ⟨fun r hr happ => by simp [h.none hb r hr] at happ, fun _ => le_rfl⟩
    | some b =>
      have hold := h.best b hb
      rw [keepBest_some (hties rule hnew b (mem_append_left _ hold.mem) hrule hold.applied), ok_bind]
      refine ⟨_, rfl, h.take ?_⟩
      split
      · next hlt =>
        refine ⟨hnew, hrule, ?_⟩
        simp only [forall_mem_append, forall_mem_singleton]
        exact ⟨fun r hr happ => (hold.highest r hr happ).trans hlt.le, fun _ => le_rfl⟩
      · next hle =>
        refine ⟨mem_append_left _ hold.mem, hold.applied, ?_⟩
        simp only [forall_mem_append, forall_mem_singleton]
        exact ⟨hold.highest, fun _ => not_lt.mp hle⟩
  · next hrule => exact ⟨_, rfl, h.skip (by simpa using hrule)⟩

end

theorem scan_spec
    (hserves : ∀ r ∈ rules, r.matchesModel requested = true → servesEndpoint channelType endpoint = true) :
    ∀ {seen : List ModelRoute} {s : Scan}, Scanned requested endpoint seen s →
      NoTies (seen ++ rules) requested endpoint →
      ∃ s', rules.foldlM (scanRule channelType requested endpoint) s = .ok s' ∧
        Scanned requested endpoint (seen ++ rules) s' := by
  induction rules with
  | nil => intro seen s h _; exact ⟨s, rfl, by simpa using h⟩
  | cons rule rules ih =>
    intro seen s h hties
    rw [append_cons] at hties ⊢
    obtain ⟨s', hs', h'⟩ := scanRule_spec h
      (fun a ha b hb => hties a (mem_append_left _ ha) b (mem_append_left _ hb))
      (hserves rule mem_cons_self)
    obtain ⟨s'', hs'', h''⟩ := ih (fun r hr => hserves r (mem_cons_of_mem _ hr)) h' hties
    exact ⟨s'', by rw [foldlM_cons, hs', ok_bind, hs''], h''⟩

/-- A rule that matches on an endpoint that is not served ends the scan. -/
theorem scan_unserved (hserves : servesEndpoint channelType endpoint = false) :
    ∀ {rules : List ModelRoute} {s : Scan}, (∃ r ∈ rules, r.matchesModel requested = true) →
      rules.foldlM (scanRule channelType requested endpoint) s = .error .endpoint
  | [], s, h => by simp at h
  | rule :: rules, s, h => by
    rw [List.foldlM_cons]
    by_cases hrule : rule.matchesModel requested = true
    · have hcheck : ¬ (rule.matchesModel requested = true → servesEndpoint channelType endpoint = true) := by
        simp [hrule, hserves]
      rw [scanRule, check_neg hcheck]
      rfl
    · have hskip : rule.applies requested endpoint = false :=
        Bool.eq_false_iff.mpr fun happ => hrule (applies_matches happ)
      have hstep : scanRule channelType requested endpoint s rule =
          .ok { s with publicMatch := s.publicMatch || rule.matchesModel requested } := by
        rw [scanRule, check_pos (fun hm => absurd hm hrule), ok_bind, hskip]
        rfl
      rw [hstep, ok_bind]
      have hrest : ∃ r ∈ rules, r.matchesModel requested = true := by
        obtain ⟨r, hr, hm⟩ := h
        rcases mem_cons.mp hr with rfl | hr
        · exact absurd hm hrule
        · exact ⟨r, hr, hm⟩
      exact scan_unserved hserves hrest

/-- What the branch of the rules returns, whatever their order. -/
inductive RuleOutcome (channelType : Int) (rules : List ModelRoute) (requested endpoint : String) :
    Except RouteError (Option ModelRoute) → Prop
  | unmatched (h : ¬ ∃ r ∈ rules, r.matchesModel requested = true) :
    RuleOutcome channelType rules requested endpoint (.ok none)
  | unsupported (hmatch : ∃ r ∈ rules, r.matchesModel requested = true)
    (h : servesEndpoint channelType endpoint = false ∨ ∀ r ∈ rules, r.applies requested endpoint = false) :
    RuleOutcome channelType rules requested endpoint (.error .endpoint)
  | chosen {best : ModelRoute} (hserves : servesEndpoint channelType endpoint = true)
    (h : Best rules requested endpoint best) :
    RuleOutcome channelType rules requested endpoint (.ok (some best))

theorem Best.matched (h : Best rules requested endpoint best) :
    ∃ r ∈ rules, r.matchesModel requested = true := ⟨best, h.mem, applies_matches h.applied⟩

theorem Best.supported (h : Best rules requested endpoint best)
    (hserves : servesEndpoint channelType endpoint = true) :
    ¬ (servesEndpoint channelType endpoint = false ∨ ∀ r ∈ rules, r.applies requested endpoint = false) := by
  rintro (hno | hno)
  · rw [hserves] at hno
    cases hno
  · have happ := h.applied
    rw [hno best h.mem] at happ
    cases happ

theorem bestRule_outcome (hties : NoTies rules requested endpoint) :
    RuleOutcome channelType rules requested endpoint (bestRule channelType rules requested endpoint) := by
  unfold bestRule
  by_cases hmatch : ∃ r ∈ rules, r.matchesModel requested = true
  · cases hserves : servesEndpoint channelType endpoint with
    | false =>
      rw [scan_unserved hserves hmatch, error_bind]
      exact .unsupported hmatch (.inl hserves)
    | true =>
      obtain ⟨s, hs, h⟩ := scan_spec (fun r _ _ => hserves) (Scanned.start requested endpoint) hties
      rw [hs, ok_bind]
      cases hb : s.best with
      | none =>
        rw [check_neg (by simpa using h.matched.mpr hmatch)]
        exact .unsupported hmatch (.inr (h.none hb))
      | some b =>
        rw [check_pos (by simp)]
        exact .chosen hserves (h.best b hb)
  · have hserves : ∀ r ∈ rules, r.matchesModel requested = true → servesEndpoint channelType endpoint = true :=
      fun r hr hm => absurd ⟨r, hr, hm⟩ hmatch
    obtain ⟨s, hs, h⟩ := scan_spec hserves (Scanned.start requested endpoint) hties
    have hfalse : s.publicMatch = false := Bool.eq_false_iff.mpr fun hm => hmatch (h.matched.mp hm)
    rw [hs, ok_bind, check_pos (by simp [hfalse]), ok_bind]
    cases hb : s.best with
    | none => exact .unmatched hmatch
    | some b => exact absurd (h.best b hb).matched hmatch

/-! ### Ties -/

/-- Two beginnings of one text that have one length are the same. -/
theorem eq_of_isPrefix {a b s : String} (ha : a.toList <+: s.toList) (hb : b.toList <+: s.toList)
    (hsize : a.utf8ByteSize = b.utf8ByteSize) : a = b := by
  have key : ∀ {a b : String}, a.toList <+: b.toList → a.utf8ByteSize = b.utf8ByteSize → a = b := by
    rintro a b ⟨rest, hrest⟩ hsize
    have hab : b = a ++ String.ofList rest := by
      rw [← String.toList_inj, String.toList_append, String.toList_ofList, hrest]
    rw [hab, String.utf8ByteSize_append] at hsize
    have hnil : String.ofList rest = "" := String.utf8ByteSize_eq_zero_iff.mp (by omega)
    rw [hab, hnil, String.append_empty]
  rcases prefix_or_prefix_of_prefix ha hb with h | h
  · exact key h hsize
  · exact (key h hsize.symm).symm

/-- Rules of one precedence that apply differ in their upstream model at most. -/
theorem eq_of_precedence (ha : a.applies requested endpoint = true)
    (hb : b.applies requested endpoint = true) (h : a.precedence = b.precedence) :
    a.publicModel = b.publicModel ∧ a.matchKind = b.matchKind ∧ a.endpoint = b.endpoint := by
  obtain ⟨hexact, hspecific, hsize, -⟩ := precedence_eq.mp h
  simp only [ModelRoute.applies, ModelRoute.matchesModel, Bool.and_eq_true, Bool.or_eq_true, decide_eq_true_eq,
    isPrefixOf_iff_prefix] at ha hb
  obtain ⟨hma, hea⟩ := ha
  obtain ⟨hmb, heb⟩ := hb
  have hendpoint : a.endpoint = b.endpoint := by
    simp only [ModelRoute.specificity] at hspecific
    rcases hea with hea | hea <;> rcases heb with heb | heb <;> grind
  rcases hma with ⟨hka, hpa⟩ | ⟨hka, hpa⟩ <;> rcases hmb with ⟨hkb, hpb⟩ | ⟨hkb, hpb⟩
  · exact ⟨hpa.symm.trans hpb, hka.trans hkb.symm, hendpoint⟩
  · simp [ModelRoute.exactness, hka, hkb] at hexact
  · simp [ModelRoute.exactness, hka, hkb] at hexact
  · exact ⟨eq_of_isPrefix hpa hpb hsize, hka.trans hkb.symm, hendpoint⟩

/-- Validated rules have no ties. -/
theorem noTies_of_valid (hvalid : validateChannelModelRoutes channelType rules = .ok ()) :
    NoTies rules requested endpoint := by
  obtain ⟨-, -, hpair⟩ := validateChannelModelRoutes_eq_ok.mp hvalid
  intro a ha b hb happa happb hprec
  obtain ⟨hpublic, hkind, hendpoint⟩ := eq_of_precedence happa happb hprec
  by_contra hne
  have hself : ∀ r ∈ rules, ¬ r.Conflicts r := fun r _ hr => hr.2.2.2.2 rfl
  exact hpair.forall_of_forall hself ha hb ⟨hpublic, hkind, hendpoint, (precedence_eq.mp hprec).2.2.2, hne⟩

/-- Two best rules say the same. -/
theorem Best.same (hties : NoTies rules requested endpoint) (ha : Best rules requested endpoint a)
    (hb : Best rules requested endpoint b) :
    a.upstreamModel = b.upstreamModel ∧ a.matchKind = b.matchKind := by
  have hprec : a.precedence = b.precedence :=
    le_antisymm (hb.highest a ha.mem ha.applied) (ha.highest b hb.mem hb.applied)
  exact ⟨hties a ha.mem b hb.mem ha.applied hb.applied hprec, (eq_of_precedence ha.applied hb.applied hprec).2.1⟩

end

/-! ### Resolution -/

section

variable {channel : RouteChannel} {rules rules' : List ModelRoute}
  {mapping : List (String × String)} {requested endpoint : String} {fuel : Nat}

/-- The end of the branch of the rules. -/
def ruleResult (channel : RouteChannel) (requested endpoint : String) :
    Except RouteError (Option ModelRoute) → ChannelModelRoute × Option RouteError
  | .error e => (.configured channel requested endpoint, some e)
  | .ok none => (ChannelModelRoute.configured channel requested endpoint).finish
  | .ok (some best) => ((ChannelModelRoute.configured channel requested endpoint).routedTo best.upstreamModel
      ("explicit_" ++ best.matchKind)).finish

/-- A channel with validated rules and a mapping. -/
structure Routed (channel : RouteChannel) (rules : List ModelRoute) (mapping : List (String × String)) : Prop where
  routes : channel.modelRoutes = some rules
  mapping : channel.modelMapping = some mapping
  valid : validateChannelModelRoutes channel.type rules = .ok ()

theorem Routed.outcome (hc : Routed channel rules mapping) (requested endpoint : String) :
    RuleOutcome channel.type rules requested endpoint (bestRule channel.type rules requested endpoint) :=
  bestRule_outcome (noTies_of_valid hc.valid)

theorem resolve_rules (hc : Routed channel rules mapping) (htarget : mappingTarget mapping requested = "") :
    resolveChannelModelRoute fuel channel requested endpoint =
      some (ruleResult channel requested endpoint (bestRule channel.type rules requested endpoint)) := by
  simp only [resolveChannelModelRoute, hc.routes, hc.mapping, hc.valid, htarget, ne_eq, not_true_eq_false, if_false]
  rcases bestRule channel.type rules requested endpoint with e | _ | best <;> rfl

/-- The end of the branch of the mapping. -/
def chainResult (channel : RouteChannel) (requested endpoint : String) :
    Option String → ChannelModelRoute × Option RouteError
  | none => (.configured channel requested endpoint, some .conflict)
  | some current =>
    ((ChannelModelRoute.configured channel requested endpoint).routedTo current "explicit_mapping").finish

theorem resolve_mapping (hc : Routed channel rules mapping) (htarget : mappingTarget mapping requested ≠ "") :
    resolveChannelModelRoute fuel channel requested endpoint =
      (followChain (nextModel mapping) fuel [requested] requested).map (chainResult channel requested endpoint) := by
  simp only [resolveChannelModelRoute, hc.routes, hc.mapping, hc.valid, if_pos htarget]
  rcases followChain (nextModel mapping) fuel [requested] requested with _ | _ | current <;> rfl

/-- A model with a successor is a key of the mapping. -/
theorem nextModel_mem {x y : String} (h : nextModel mapping x = some y) : x ∈ mapping.map Prod.fst := by
  have htarget : mappingTarget mapping x ≠ "" := by
    intro hempty
    simp [nextModel, hempty] at h
  by_contra hmem
  refine htarget ?_
  have hlookup : mapping.lookup x = none := by
    rw [lookup_eq_none_iff]
    intro p hp
    have hne : x ≠ p.1 := fun heq => hmem (heq ▸ mem_map_of_mem hp)
    simpa using hne
  rw [mappingTarget, hlookup]
  rfl

theorem Best.perm {best : ModelRoute} (hperm : rules'.Perm rules)
    (h : Best rules' requested endpoint best) : Best rules requested endpoint best :=
  ⟨hperm.mem_iff.mp h.mem, h.applied, fun r hr => h.highest r (hperm.mem_iff.mpr hr)⟩

theorem RuleOutcome.perm {outcome : Except RouteError (Option ModelRoute)}
    (hperm : rules'.Perm rules) (h : RuleOutcome channelType rules' requested endpoint outcome) :
    RuleOutcome channelType rules requested endpoint outcome := by
  have hmem : ∀ {r}, r ∈ rules → r ∈ rules' := hperm.mem_iff.mpr
  cases h with
  | unmatched h => exact .unmatched fun ⟨r, hr, hm⟩ => h ⟨r, hmem hr, hm⟩
  | unsupported hmatch h =>
    obtain ⟨r, hr, hm⟩ := hmatch
    exact .unsupported ⟨r, hperm.mem_iff.mp hr, hm⟩ (h.imp_right fun h r hr => h r (hmem hr))
  | chosen hserves h => exact .chosen hserves (h.perm hperm)

/-- Any two outcomes that the rules allow give one result. -/
theorem RuleOutcome.same {x y : Except RouteError (Option ModelRoute)} (hties : NoTies rules requested endpoint)
    (hx : RuleOutcome channel.type rules requested endpoint x)
    (hy : RuleOutcome channel.type rules requested endpoint y) :
    ruleResult channel requested endpoint x = ruleResult channel requested endpoint y := by
  cases hx with
  | unmatched hx =>
    cases hy with
    | unmatched => rfl
    | unsupported hmatch => exact absurd hmatch hx
    | chosen _ hb => exact absurd hb.matched hx
  | unsupported hmatch hx =>
    cases hy with
    | unmatched hy => exact absurd hmatch hy
    | unsupported => rfl
    | chosen hserves hb => exact absurd hx (hb.supported hserves)
  | chosen hserves hb =>
    cases hy with
    | unmatched hy => exact absurd hb.matched hy
    | unsupported _ hy => exact absurd hy (hb.supported hserves)
    | chosen _ hb' =>
      obtain ⟨hup, hkind⟩ := hb.same hties hb'
      simp only [ruleResult, hup, hkind]

section

variable (hc : Routed channel rules mapping)
include hc

/-- Under validated rules the resolution returns, and returns the same for every order of them. -/
theorem resolve_perm (hperm : rules'.Perm rules) :
    resolveChannelModelRoute fuel { channel with modelRoutes := some rules' } requested endpoint =
      resolveChannelModelRoute fuel channel requested endpoint := by
  have hc' : Routed { channel with modelRoutes := some rules' } rules' mapping :=
    ⟨rfl, hc.mapping, validateChannelModelRoutes_perm hperm hc.valid⟩
  by_cases htarget : mappingTarget mapping requested = ""
  · rw [resolve_rules hc htarget, resolve_rules hc' htarget]
    exact congrArg some (((hc'.outcome _ _).perm hperm).same (noTies_of_valid hc.valid) (hc.outcome _ _))
  · rw [resolve_mapping hc htarget, resolve_mapping hc' htarget]
    rfl

section

variable (htarget : mappingTarget mapping requested = "")
include htarget

/-- A rule that applies on an endpoint that is served leads to a best rule, whose upstream model is accepted. -/
theorem resolve_chosen {r : ModelRoute}
    (hr : r ∈ rules)
    (happ : r.applies requested endpoint = true)
    (hserves : servesEndpoint channel.type endpoint = true) :
    ∃ best, Best rules requested endpoint best ∧ resolveChannelModelRoute fuel channel requested endpoint =
      some (⟨requested, best.upstreamModel, endpoint, "explicit_" ++ best.matchKind, channel.id⟩, none) := by
  have hout := hc.outcome requested endpoint
  rw [resolve_rules hc htarget]
  generalize bestRule channel.type rules requested endpoint = outcome at hout
  cases hout with
  | unmatched h => exact absurd ⟨r, hr, applies_matches happ⟩ h
  | unsupported _ h =>
    rcases h with h | h
    · rw [hserves] at h
      cases h
    · rw [h r hr] at happ
      cases happ
  | chosen _ hb =>
    obtain ⟨-, hrules, -⟩ := validateChannelModelRoutes_eq_ok.mp hc.valid
    have hgood := validName_not_bad (hrules _ hb.mem).upstreamName
    exact ⟨_, hb, congrArg some (finish_of_good hgood)⟩

end

/-- Behind a mapping the chain decides. -/
theorem resolve_chain
    (htarget : mappingTarget mapping requested ≠ "") (hfuel : mapping.length < fuel) :
    (∃ e, EndsAt (nextModel mapping) requested e ∧ resolveChannelModelRoute fuel channel requested endpoint =
        some (chainResult channel requested endpoint (some e))) ∨
      (RunsIntoCycle (nextModel mapping) requested ∧ resolveChannelModelRoute fuel channel requested endpoint =
        some (chainResult channel requested endpoint none)) := by
  rw [resolve_mapping hc htarget]
  have hdomain : ∀ x y, nextModel mapping x = some y → x ∈ mapping.map Prod.fst := fun _ _ => nextModel_mem
  rcases followChain_start hdomain requested (by simpa using hfuel) with ⟨e, he, h⟩ | ⟨hcycle, h⟩
  · exact .inl ⟨e, he, by rw [h]; rfl⟩
  · exact .inr ⟨hcycle, by rw [h]; rfl⟩

end

end

/-- The route of a channel does not depend on the order of its validated rules: the resolution returns, and returns
the same for every permutation. Without a mapping, on an endpoint that the channel serves, a rule that applies with
the highest precedence is chosen; there is never a conflict, and rules that match without being applicable are an
endpoint error. With a mapping the upstream model is the end of
the chain, which is refused only when it is blank or too long, and there is a conflict exactly when the chain runs
into a cycle. -/
theorem resolveChannelModelRoute_order_free (channel : RouteChannel) (rules rules' : List ModelRoute)
    (mapping : List (String × String)) (requested endpoint : String) (fuel : Nat)
    (hroutes : channel.modelRoutes = some rules) (hmapping : channel.modelMapping = some mapping)
    (hvalid : validateChannelModelRoutes channel.type rules = .ok ()) (hperm : rules'.Perm rules)
    (hfuel : mapping.length < fuel) :
    (∃ result, resolveChannelModelRoute fuel channel requested endpoint = some result ∧
      resolveChannelModelRoute fuel { channel with modelRoutes := some rules' } requested endpoint = some result) ∧
    (mappingTarget mapping requested = "" → (∃ r ∈ rules, r.applies requested endpoint = true) →
      servesEndpoint channel.type endpoint = true →
      ∃ best, Best rules requested endpoint best ∧ resolveChannelModelRoute fuel channel requested endpoint =
        some (⟨requested, best.upstreamModel, endpoint, "explicit_" ++ best.matchKind, channel.id⟩, none)) ∧
    (mappingTarget mapping requested = "" → (∃ r ∈ rules, r.matchesModel requested = true) →
      (servesEndpoint channel.type endpoint = false ∨ ∀ r ∈ rules, r.applies requested endpoint = false) →
      resolveChannelModelRoute fuel channel requested endpoint =
        some (⟨requested, requested, endpoint, "configured_model", channel.id⟩, some .endpoint)) ∧
    (mappingTarget mapping requested = "" →
      ∀ result, resolveChannelModelRoute fuel channel requested endpoint ≠ some (result, some .conflict)) ∧
    (mappingTarget mapping requested ≠ "" → ∀ e, EndsAt (nextModel mapping) requested e →
      resolveChannelModelRoute fuel channel requested endpoint =
        some (⟨requested, e, endpoint, "explicit_mapping", channel.id⟩,
          if BadUpstream e then some .invalid else none)) ∧
    (mappingTarget mapping requested ≠ "" →
      ((∃ result, resolveChannelModelRoute fuel channel requested endpoint = some (result, some .conflict)) ↔
        RunsIntoCycle (nextModel mapping) requested)) := by
  have hc : Routed channel rules mapping := ⟨hroutes, hmapping, hvalid⟩
  refine ⟨?_, ?_, ?_, ?_, ?_, ?_⟩
  · rw [resolve_perm hc hperm]
    by_cases htarget : mappingTarget mapping requested = ""
    · rw [resolve_rules hc htarget]
      exact ⟨_, rfl, rfl⟩
    · rcases resolve_chain hc htarget hfuel with ⟨e, -, h⟩ | ⟨-, h⟩ <;> exact ⟨_, h, h⟩
  · rintro htarget ⟨r, hr, happ⟩ hserves
    exact resolve_chosen hc htarget hr happ hserves
  · intro htarget hmatch h
    rw [resolve_rules hc htarget]
    exact congrArg some ((hc.outcome _ _).same (noTies_of_valid hc.valid) (.unsupported hmatch h))
  · -- a conflict comes from the mapping only
    intro htarget result
    have hout := hc.outcome requested endpoint
    rw [resolve_rules hc htarget]
    intro h
    have herror := congrArg Prod.snd (Option.some.inj h)
    generalize bestRule channel.type rules requested endpoint = outcome at hout herror
    cases hout with
    | unmatched | chosen => exact finish_no_conflict _ herror
    | unsupported => cases herror
  · intro htarget e he
    rcases resolve_chain hc htarget hfuel with ⟨e', he', h⟩ | ⟨hcycle, -⟩
    · obtain rfl := he.unique he'
      exact h
    · exact absurd hcycle he.not_cycle
  · intro htarget
    rcases resolve_chain hc htarget hfuel with ⟨e, he, h⟩ | ⟨hcycle, h⟩
    · refine ⟨fun ⟨result, hr⟩ => ?_, fun hcycle => absurd hcycle he.not_cycle⟩
      exact absurd (congrArg Prod.snd (Option.some.inj (h.symm.trans hr))) (finish_no_conflict _)
    · exact ⟨fun _ => hcycle, fun _ => ⟨_, h⟩⟩

/-- A prefix rule and an exact one. -/
def chatRules : List ModelRoute :=
  [⟨"public-", "prefix-target", "", "prefix", 100⟩, ⟨"public-chat", "exact-target", "", "exact", 0⟩]

/-- A channel with the rules and a mapping of another model. -/
def chatChannel : RouteChannel := ⟨10, channelTypeOpenAI, some chatRules, some [("mid", "end")]⟩

/-- The exact rule is chosen in either order of the rules. -/
theorem resolveChannelModelRoute_order_free_chat :
    validateChannelModelRoutes chatChannel.type chatRules = .ok () ∧
      ∃ result, resolveChannelModelRoute 2 chatChannel "public-chat" responses = some result ∧
        resolveChannelModelRoute 2 { chatChannel with modelRoutes := some chatRules.reverse } "public-chat"
          responses = some result := by
  have hvalid : validateChannelModelRoutes chatChannel.type chatRules = .ok () := by decide +kernel
  exact ⟨hvalid, (resolveChannelModelRoute_order_free chatChannel chatRules chatRules.reverse [("mid", "end")]
    "public-chat" responses 2 rfl rfl hvalid chatRules.reverse_perm (by decide)).1⟩

/-- A chain that ends at a blank model resolves to that model, and the result is an error. -/
theorem mapping_to_blank_is_invalid :
    ∃ (channel : RouteChannel) (mapping : List (String × String)), channel.modelRoutes = some [] ∧
      channel.modelMapping = some mapping ∧ EndsAt (nextModel mapping) "a" " " ∧ mappingTarget mapping "a" ≠ "" ∧
      ∀ fuel, 1 < fuel → resolveChannelModelRoute fuel channel "a" responses =
        some (⟨"a", " ", responses, "explicit_mapping", 1⟩, some .invalid) := by
  refine ⟨⟨1, channelTypeOpenAI, some [], some [("a", " ")]⟩, [("a", " ")], rfl, rfl, ⟨.single ?_, ?_⟩, ?_, ?_⟩
  · show nextModel [("a", " ")] "a" = some " "
    decide
  · decide
  · decide
  · intro fuel hfuel
    obtain ⟨fuel, rfl⟩ : ∃ k, fuel = k + 2 := ⟨fuel - 2, by omega⟩
    rfl

end MyApiSpec.Routing
