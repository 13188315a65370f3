import Mathlib.Algebra.GroupWithZero.Nat
import Mathlib.Algebra.Order.BigOperators.Group.List
import Mathlib.Algebra.Order.Group.Nat
import MyApiSpec.Base.Distinct
import MyApiSpec.Base.Outcome

/-!
# Routing tiers

`model/channel_routing_policy.go:11–218`. The usable candidates of a group and model form priority
tiers, the highest priority first; one channel is drawn by weight from the tier that the retry
number selects. A retry number beyond the last tier selects the last tier.
-/

namespace MyApiSpec.Routing

open Base List

/-- `ChannelRoutingCandidate`, the fields that routing reads. -/
structure ChannelRoutingCandidate where
  channelID : Int
  priority : Int
  weight : Nat
  routeError : String := ""
  deriving DecidableEq, Repr

/-- `ChannelRoutingCandidatePolicy` without the share shown to administrators. -/
structure ChannelRoutingCandidatePolicy extends ChannelRoutingCandidate where
  effectiveWeight : Nat
  deriving DecidableEq, Repr

/-- `ChannelRoutingTier`. -/
structure ChannelRoutingTier where
  priority : Int
  candidates : List ChannelRoutingCandidatePolicy
  deriving DecidableEq, Repr

/-- `ChannelRoutingPolicy`. -/
structure ChannelRoutingPolicy where
  rejected : List ChannelRoutingCandidate
  tiers : List ChannelRoutingTier
  deriving DecidableEq, Repr

/-- The errors of a selection. -/
inductive RoutingError where
  | noEffectiveWeight
  | randomSource
  | randomOutOfRange
  | channelNotFound
  | autoGroupsDisabled
  deriving DecidableEq, Repr

/-! ### Construction -/

/-- The tier of one priority: its candidates by channel id, with weight one each when no candidate
has a positive weight. -/
def routingTier (usable : List ChannelRoutingCandidate) (priority : Int) : ChannelRoutingTier :=
  let tierCandidates := (usable.filter (fun c => c.priority = priority)).mergeSort
    (fun a b => a.channelID ≤ b.channelID)
  let hasPositiveWeight := tierCandidates.any (fun c => 0 < c.weight)
  { priority := priority
    candidates := tierCandidates.map (fun c =>
      { c with effectiveWeight := if hasPositiveWeight then c.weight else 1 }) }

/-- `BuildChannelRoutingPolicy`. -/
def buildChannelRoutingPolicy (candidates : List ChannelRoutingCandidate) : ChannelRoutingPolicy :=
  let usable := candidates.filter (fun c => c.routeError = "")
  let priorities := (distinct (usable.map ChannelRoutingCandidate.priority)).mergeSort
    (fun a b => a ≥ b)
  { rejected := candidates.filter (fun c => c.routeError ≠ "")
    tiers := priorities.map (routingTier usable) }

/-! ### Selection -/

/-- A source of random numbers below a bound. -/
abbrev RandomInt := Nat → Except RoutingError Nat

/-- The loop that walks the weights of a tier. -/
def drawCandidate : List ChannelRoutingCandidatePolicy → Nat → Except RoutingError (Option Int)
  | [], _ => .error .channelNotFound
  | c :: rest, remaining =>
    if c.effectiveWeight = 0 then drawCandidate rest remaining
    else if remaining < c.effectiveWeight then .ok (some c.channelID)
    else drawCandidate rest (remaining - c.effectiveWeight)

/-- The draw from one tier. -/
def selectFromTier (tier : ChannelRoutingTier) (randomInt : RandomInt) :
    Except RoutingError (Option Int) :=
  let positive := tier.candidates.filter (fun c => c.effectiveWeight ≠ 0)
  let totalWeight := (positive.map ChannelRoutingCandidatePolicy.effectiveWeight).sum
  match positive with
  | [] => .error .noEffectiveWeight
  | [c] => .ok (some c.channelID)
  | _ => do
    let draw ← randomInt totalWeight
    check (draw < totalWeight) .randomOutOfRange
    drawCandidate tier.candidates draw

/-- The tier that a retry number selects. -/
def tierIndex (retry tiers : Nat) : Nat := if tiers ≤ retry then tiers - 1 else retry

/-- `selectChannelFromRoutingPolicy`; a retry number is never negative here. -/
def selectChannelFromRoutingPolicy (policy : ChannelRoutingPolicy) (retry : Nat)
    (randomInt : RandomInt) : Except RoutingError (Option Int) :=
  match policy.tiers[tierIndex retry policy.tiers.length]? with
  | none => .ok none
  | some tier => selectFromTier tier randomInt

/-! ### What a selection returns -/

/-- The random source answers every positive bound with a number below it. -/
def RandomInt.Works (randomInt : RandomInt) : Prop :=
  ∀ bound, 0 < bound → ∃ draw, randomInt bound = .ok draw ∧ draw < bound

/-- The channels of a tier. -/
def ChannelRoutingTier.channels (tier : ChannelRoutingTier) : List Int :=
  tier.candidates.map (fun c => c.channelID)

theorem drawCandidate_ok : ∀ {candidates : List ChannelRoutingCandidatePolicy} {remaining : Nat},
    remaining < ((candidates.filter (fun c => c.effectiveWeight ≠ 0)).map
      ChannelRoutingCandidatePolicy.effectiveWeight).sum →
    ∃ id ∈ candidates.map (fun c => c.channelID), drawCandidate candidates remaining = .ok (some id)
  | [], remaining, h => by simp at h
  | c :: rest, remaining, h => by
    unfold drawCandidate
    by_cases hzero : c.effectiveWeight = 0
    · rw [List.filter_cons_of_neg (by simp [hzero])] at h
      obtain ⟨id, hid, hdraw⟩ := drawCandidate_ok h
      exact ⟨id, mem_cons_of_mem _ hid, by rw [if_pos hzero]; exact hdraw⟩
    · rw [filter_cons_of_pos (by simp [hzero]), map_cons, sum_cons] at h
      by_cases hlt : remaining < c.effectiveWeight
      · exact ⟨c.channelID, mem_cons_self, by rw [if_neg hzero, if_pos hlt]⟩
      · have hrest : remaining - c.effectiveWeight < ((rest.filter (fun c => c.effectiveWeight ≠ 0)).map
            ChannelRoutingCandidatePolicy.effectiveWeight).sum := by omega
        obtain ⟨id, hid, hdraw⟩ := drawCandidate_ok hrest
        exact ⟨id, mem_cons_of_mem _ hid, by rw [if_neg hzero, if_neg hlt]; exact hdraw⟩

variable {tier : ChannelRoutingTier} {randomInt : RandomInt}

/-- A tier with a positive weight yields one of its channels. -/
theorem selectFromTier_ok
    (hw : ∃ c ∈ tier.candidates, c.effectiveWeight ≠ 0) (hr : randomInt.Works) :
    ∃ id ∈ tier.channels, selectFromTier tier randomInt = .ok (some id) := by
  obtain ⟨c, hc, hpos⟩ := hw
  have hmem : c ∈ tier.candidates.filter (fun c => c.effectiveWeight ≠ 0) :=
    mem_filter.mpr ⟨hc, by simpa using hpos⟩
  have htotal := Nat.lt_of_lt_of_le (Nat.pos_of_ne_zero hpos)
      (le_sum_of_mem (mem_map_of_mem hmem))
  simp only [selectFromTier]
  split
  · next hnil => rw [hnil] at hmem; cases hmem
  · next x hone =>
    have hx : x ∈ tier.candidates := (mem_filter.mp (hone ▸ mem_singleton_self x)).1
    exact ⟨x.channelID, mem_map_of_mem hx, rfl⟩
  · obtain ⟨draw, hdraw, hlt⟩ := hr _ htotal
    obtain ⟨id, hid, hpick⟩ := drawCandidate_ok hlt
    refine ⟨id, hid, ?_⟩
    rw [hdraw, ok_bind, check_pos hlt, ok_bind]
    exact hpick

variable {candidates : List ChannelRoutingCandidate}

/-- Every tier of a built policy has a positive weight. -/
theorem buildChannelRoutingPolicy_weight
    (h : tier ∈ (buildChannelRoutingPolicy candidates).tiers) :
    ∃ c ∈ tier.candidates, c.effectiveWeight ≠ 0 := by
  obtain ⟨priority, hp, rfl⟩ := mem_map.mp h
  obtain ⟨c, hc, hpriority⟩ := mem_map.mp (mem_distinct.mp (mem_mergeSort.mp hp))
  simp only [routingTier]
  generalize hl : (filter (fun c => decide (c.priority = priority))
    (filter (fun c => decide (c.routeError = "")) candidates)).mergeSort
      (fun a b => decide (a.channelID ≤ b.channelID)) = l
  have hmem : c ∈ l := by
    rw [← hl, mem_mergeSort]
    exact mem_filter.mpr ⟨hc, by simpa using hpriority⟩
  by_cases hany : l.any (fun c => decide (0 < c.weight)) = true
  · obtain ⟨x, hx, hweight⟩ := any_eq_true.mp hany
    refine ⟨_, mem_map_of_mem hx, ?_⟩
    simp only [hany, if_true]
    exact Nat.pos_iff_ne_zero.mp (of_decide_eq_true hweight)
  · refine ⟨_, mem_map_of_mem hmem, ?_⟩
    simp [hany]

/-- A selection from a built policy with tiers yields a channel of the tier that the retry number
selects. -/
theorem selectChannel_ok (retry : Nat)
    (hr : randomInt.Works)
    (ht : 0 < (buildChannelRoutingPolicy candidates).tiers.length) :
    ∃ tier id, (buildChannelRoutingPolicy candidates).tiers[tierIndex retry
        (buildChannelRoutingPolicy candidates).tiers.length]? = some tier ∧ id ∈ tier.channels ∧
      selectChannelFromRoutingPolicy (buildChannelRoutingPolicy candidates) retry randomInt =
        .ok (some id) := by
  have hlt : tierIndex retry (buildChannelRoutingPolicy candidates).tiers.length <
      (buildChannelRoutingPolicy candidates).tiers.length := by
    unfold tierIndex
    split <;> omega
  have hget := getElem?_eq_getElem hlt
  obtain ⟨id, hid, hsel⟩ := selectFromTier_ok
    (buildChannelRoutingPolicy_weight (getElem_mem hlt)) hr
  exact ⟨_, id, hget, hid, by unfold selectChannelFromRoutingPolicy; rw [hget]; exact hsel⟩

end MyApiSpec.Routing
