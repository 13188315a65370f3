import Mathlib.Data.List.Perm.Basic
import MyApiSpec.Routing.Policy

/-!
# Shares of traffic

`model/channel_routing_policy.go:85–218`. The usable candidates are partitioned into tiers of strictly descending
priority, and a channel of the selected tier is returned for as many draws as its effective weight says.
-/

namespace MyApiSpec.Routing

open Base List

variable {tier : ChannelRoutingTier} {policy : ChannelRoutingPolicy}
  {candidates : List ChannelRoutingCandidate}

/-- The candidates of a tier as they were given. -/
def ChannelRoutingTier.given (tier : ChannelRoutingTier) : List ChannelRoutingCandidate :=
  tier.candidates.map (fun c => c.toChannelRoutingCandidate)

/-- The total effective weight of a tier. -/
def ChannelRoutingTier.totalWeight (tier : ChannelRoutingTier) : Nat :=
  (tier.candidates.map (fun c => c.effectiveWeight)).sum

/-- The tier that a retry value selects; a negative value selects the first. -/
def ChannelRoutingPolicy.tierAt (policy : ChannelRoutingPolicy) (retry : Int) : Option ChannelRoutingTier :=
  policy.tiers[tierIndex (if retry < 0 then 0 else retry).toNat policy.tiers.length]?

/-- `selectChannelFromRoutingPolicy` with its check for negative retry values. -/
def selectChannelAtRetry (policy : ChannelRoutingPolicy) (retry : Int) (randomInt : RandomInt) :
    Except RoutingError (Option Int) :=
  selectChannelFromRoutingPolicy policy (if retry < 0 then 0 else retry).toNat randomInt

/-- The random source draws `d`. -/
def draw (d : Nat) : RandomInt := fun _ => .ok d

/-- How many draws below `bound` select the channel. -/
def drawsOf (policy : ChannelRoutingPolicy) (retry : Int) (bound : Nat) (channelID : Int) : Nat :=
  (List.range bound).countP fun d => decide (selectChannelAtRetry policy retry (draw d) = .ok (some channelID))

/-! ### The walk over the weights -/

theorem drawCandidate_filter : ∀ (l : List ChannelRoutingCandidatePolicy) (d : Nat),
    drawCandidate (l.filter (fun c => c.effectiveWeight ≠ 0)) d = drawCandidate l d
  | [], d => rfl
  | c :: rest, d => by
    by_cases hzero : c.effectiveWeight = 0
    · rw [List.filter_cons_of_neg (by simp [hzero]), drawCandidate_filter rest d]
      simp [drawCandidate, hzero]
    · rw [List.filter_cons_of_pos (by simp [hzero])]
      simp only [drawCandidate, hzero, if_false, drawCandidate_filter rest]

theorem sum_weights_filter : ∀ (l : List ChannelRoutingCandidatePolicy),
    ((l.filter (fun c => c.effectiveWeight ≠ 0)).map (fun c => c.effectiveWeight)).sum =
      (l.map (fun c => c.effectiveWeight)).sum
  | [] => rfl
  | c :: rest => by
    by_cases hzero : c.effectiveWeight = 0
    · rw [List.filter_cons_of_neg (by simp [hzero]), sum_weights_filter rest]
      simp [hzero]
    · rw [List.filter_cons_of_pos (by simp [hzero])]
      simp only [List.map_cons, List.sum_cons, sum_weights_filter rest]

/-- The short cut for a single positive candidate agrees with the walk. -/
theorem selectFromTier_draw {d : Nat} (hd : d < tier.totalWeight) :
    selectFromTier tier (draw d) = drawCandidate tier.candidates d := by
  have hsum := sum_weights_filter tier.candidates
  unfold ChannelRoutingTier.totalWeight at hd
  simp only [selectFromTier]
  rw [← drawCandidate_filter tier.candidates d]
  split
  · next hnil =>
    rw [hnil] at hsum
    simp only [map_nil, sum_nil] at hsum
    omega
  · next c hone =>
    rw [hone] at hsum ⊢
    simp only [map_cons, map_nil, sum_cons, sum_nil, Nat.add_zero] at hsum
    have hzero : c.effectiveWeight ≠ 0 := by omega
    have hlt : d < c.effectiveWeight := by omega
    simp [drawCandidate, hzero, hlt]
  · have hlt := lt_of_lt_of_eq hd hsum.symm
    rw [draw, ok_bind, check_pos hlt, ok_bind, drawCandidate_filter]

/-- The weights that a list gives to a channel. -/
def weightOf (l : List ChannelRoutingCandidatePolicy) (id : Int) : Nat :=
  (l.map fun c => if c.channelID = id then c.effectiveWeight else 0).sum

/-- The walk returns a channel for as many draws as its weights say. -/
theorem countP_drawCandidate (id : Int) : ∀ (l : List ChannelRoutingCandidatePolicy),
    (List.range (l.map (fun c => c.effectiveWeight)).sum).countP
      (fun d => decide (drawCandidate l d = .ok (some id))) = weightOf l id
  | [] => rfl
  | c :: rest => by
    -- the draws below the first weight select its channel, the others are walked on
    have hhead : (List.range c.effectiveWeight).countP
        (fun d => decide (drawCandidate (c :: rest) d = .ok (some id))) =
          if c.channelID = id then c.effectiveWeight else 0 := by
      have heq : ∀ d ∈ range c.effectiveWeight,
          drawCandidate (c :: rest) d = .ok (some c.channelID) := by
        intro d hd
        have hlt := mem_range.mp hd
        have hzero : c.effectiveWeight ≠ 0 := by omega
        simp [drawCandidate, hzero, hlt]
      split
      · next hid =>
        rw [countP_eq_length.mpr, length_range]
        intro d hd
        simp [heq d hd, hid]
      · next hid =>
        rw [countP_eq_zero]
        intro d hd
        simp [heq d hd, hid]
    have htail : ∀ j, drawCandidate (c :: rest) (c.effectiveWeight + j) = drawCandidate rest j := by
      intro j
      by_cases hzero : c.effectiveWeight = 0
      · simp [drawCandidate, hzero]
      · simp [drawCandidate, hzero]
    rw [map_cons, sum_cons, range_add, countP_append, hhead, countP_map]
    simp only [Function.comp_def, htail]
    rw [countP_drawCandidate id rest]
    rfl

variable {id : Int}

theorem weightOf_eq_zero {l : List ChannelRoutingCandidatePolicy}
    (h : id ∉ l.map (fun c => c.channelID)) : weightOf l id = 0 := by
  refine sum_eq_zero fun x hx => ?_
  obtain ⟨c, hc, rfl⟩ := mem_map.mp hx
  rw [if_neg]
  rintro rfl
  exact h (mem_map_of_mem hc)

theorem weightOf_eq : ∀ {l : List ChannelRoutingCandidatePolicy} {c : ChannelRoutingCandidatePolicy},
    (l.map (fun c => c.channelID)).Nodup → c ∈ l → weightOf l c.channelID = c.effectiveWeight
  | x :: rest, c, hnodup, hc => by
    obtain ⟨hx, hrest⟩ := nodup_cons.mp (map_cons ▸ hnodup)
    have hcons : weightOf (x :: rest) c.channelID =
        (if x.channelID = c.channelID then x.effectiveWeight else 0) + weightOf rest c.channelID := rfl
    rw [hcons]
    rcases mem_cons.mp hc with rfl | hc
    · rw [if_pos rfl, weightOf_eq_zero hx, Nat.add_zero]
    · have hne : x.channelID ≠ c.channelID := by
        intro heq
        exact hx (heq ▸ mem_map_of_mem hc)
      rw [if_neg hne, weightOf_eq hrest hc, Nat.zero_add]

variable {retry : Int}

/-- The draws that select a channel from the tier of a retry value. -/
theorem drawsOf_eq (ht : policy.tierAt retry = some tier) (id : Int) :
    drawsOf policy retry tier.totalWeight id = weightOf tier.candidates id := by
  rw [← countP_drawCandidate id tier.candidates]
  refine countP_congr fun d hd => ?_
  have hselect : selectChannelAtRetry policy retry (draw d) = drawCandidate tier.candidates d := by
    unfold ChannelRoutingPolicy.tierAt at ht
    unfold selectChannelAtRetry selectChannelFromRoutingPolicy
    rw [ht]
    exact selectFromTier_draw (mem_range.mp hd)
  rw [hselect]

/-! ### The partition into tiers -/

/-- The candidates without a route error. -/
def usableCandidates (candidates : List ChannelRoutingCandidate) : List ChannelRoutingCandidate :=
  candidates.filter (fun c => c.routeError = "")

/-- The priorities of the tiers. -/
def tierPriorities (candidates : List ChannelRoutingCandidate) : List Int :=
  (distinct ((usableCandidates candidates).map ChannelRoutingCandidate.priority)).mergeSort (fun a b => a ≥ b)

theorem tiers_eq (candidates : List ChannelRoutingCandidate) :
    (buildChannelRoutingPolicy candidates).tiers =
      (tierPriorities candidates).map (routingTier (usableCandidates candidates)) := rfl

theorem given_routingTier (usable : List ChannelRoutingCandidate) (priority : Int) :
    (routingTier usable priority).given =
      (usable.filter (fun c => c.priority = priority)).mergeSort (fun a b => a.channelID ≤ b.channelID) := by
  simp only [ChannelRoutingTier.given, routingTier, map_map]
  exact map_id _

variable {usable : List ChannelRoutingCandidate} {c : ChannelRoutingCandidate} {priority : Int}

theorem mem_given :
    c ∈ (routingTier usable priority).given ↔ c ∈ usable ∧ c.priority = priority := by
  rw [given_routingTier, mem_mergeSort, mem_filter]
  simp

theorem nodup_given (priority : Int) (h : usable.Nodup) :
    (routingTier usable priority).given.Nodup := by
  rw [given_routingTier]
  exact (mergeSort_perm _ _).nodup_iff.mpr (h.filter _)

theorem mem_tierPriorities :
    priority ∈ tierPriorities candidates ↔ ∃ c ∈ usableCandidates candidates, c.priority = priority := by
  rw [tierPriorities, mem_mergeSort, mem_distinct, mem_map]

theorem tierPriorities_descending (candidates : List ChannelRoutingCandidate) :
    (tierPriorities candidates).Pairwise (· > ·) := by
  have hsorted : (tierPriorities candidates).Pairwise (fun a b => decide (a ≥ b) = true) :=
    pairwise_mergeSort (by simpa using fun a b c hab hbc => le_trans hbc hab)
      (by simpa using fun a b => le_total b a) _
  have hnodup : (tierPriorities candidates).Nodup :=
    (mergeSort_perm _ _).nodup_iff.mpr (nodup_distinct _)
  refine (hsorted.and hnodup).imp fun h => ?_
  exact lt_of_le_of_ne (of_decide_eq_true h.1) (Ne.symm h.2)

section

variable (h : (candidates.map ChannelRoutingCandidate.channelID).Nodup)
include h

theorem nodup_usable :
    (usableCandidates candidates).Nodup :=
  (List.Nodup.of_map _ h).filter _

/-- The tiers hold the usable candidates, each one once. -/
theorem tiers_perm :
    ((buildChannelRoutingPolicy candidates).tiers.flatMap ChannelRoutingTier.given).Perm
      (usableCandidates candidates) := by
  have hnodup := nodup_usable h
  rw [tiers_eq, flatMap_map]
  refine (perm_ext_iff_of_nodup ?_ hnodup).mpr fun c => ?_
  · refine nodup_flatMap.mpr ⟨fun p _ => nodup_given p hnodup, ?_⟩
    refine (tierPriorities_descending candidates).imp fun hlt => ?_
    intro c hc hc'
    have := (mem_given.mp hc).2
    have := (mem_given.mp hc').2
    omega
  · rw [mem_flatMap]
    constructor
    · rintro ⟨p, -, hc⟩
      exact (mem_given.mp hc).1
    · intro hc
      exact ⟨c.priority, mem_tierPriorities.mpr ⟨c, hc, rfl⟩, mem_given.mpr ⟨hc, rfl⟩⟩

end

theorem exists_unique_tier (hc : c ∈ usableCandidates candidates) :
    ∃! i : Nat, ∃ tier, (buildChannelRoutingPolicy candidates).tiers[i]? = some tier ∧ c ∈ tier.given := by
  obtain ⟨i, hi⟩ := mem_iff_getElem?.mp (mem_tierPriorities.mpr ⟨c, hc, rfl⟩)
  refine ⟨i, ⟨routingTier (usableCandidates candidates) c.priority, ?_, mem_given.mpr ⟨hc, rfl⟩⟩, ?_⟩
  · rw [tiers_eq, getElem?_map, hi, Option.map_some]
  · rintro j ⟨tier, hj, hmem⟩
    rw [tiers_eq, getElem?_map] at hj
    obtain ⟨p, hp, rfl⟩ := Option.map_eq_some_iff.mp hj
    obtain rfl := (mem_given.mp hmem).2
    have hnodup : (tierPriorities candidates).Nodup :=
      (tierPriorities_descending candidates).imp ne_of_gt
    exact (List.getElem?_inj (List.getElem?_eq_some_iff.mp hp).1 hnodup).mp (hp.trans hi.symm)

theorem nodup_channels (h : (candidates.map ChannelRoutingCandidate.channelID).Nodup)
    (ht : tier ∈ (buildChannelRoutingPolicy candidates).tiers) :
    (tier.candidates.map (fun c => c.channelID)).Nodup := by
  obtain ⟨p, -, rfl⟩ := mem_map.mp ht
  have hgiven : ((routingTier (usableCandidates candidates) p).given.map
      ChannelRoutingCandidate.channelID).Nodup := by
    rw [given_routingTier]
    refine ((mergeSort_perm _ _).map _).nodup_iff.mpr ?_
    exact ((filter_sublist.trans filter_sublist).map _).nodup h
  rwa [ChannelRoutingTier.given, map_map] at hgiven

/-! ### Exact shares -/

/-- What a policy does with the candidates that it was built from. -/
structure SharesExactly (candidates : List ChannelRoutingCandidate) (policy : ChannelRoutingPolicy) : Prop where
  /-- The tiers hold the usable candidates, each one once and in one tier. -/
  partition : (policy.tiers.flatMap ChannelRoutingTier.given).Perm (usableCandidates candidates)
  oneTier : ∀ c ∈ usableCandidates candidates,
    ∃! i : Nat, ∃ tier, policy.tiers[i]? = some tier ∧ c ∈ tier.given
  descending : policy.tiers.Pairwise fun a b => a.priority > b.priority
  priority : ∀ tier ∈ policy.tiers, ∀ c ∈ tier.given, c.priority = tier.priority
  /-- Every retry value selects a tier unless there is none. -/
  selects : ∀ retry, usableCandidates candidates ≠ [] → (policy.tierAt retry).isSome = true
  weight : ∀ tier ∈ policy.tiers, ∀ c ∈ tier.candidates,
    c.effectiveWeight = if ∃ x ∈ tier.given, 0 < x.weight then c.weight else 1
  share : ∀ retry tier, policy.tierAt retry = some tier → ∀ c ∈ tier.candidates,
    drawsOf policy retry tier.totalWeight c.channelID = c.effectiveWeight
  noOther : ∀ retry tier, policy.tierAt retry = some tier → ∀ id, id ∉ tier.channels →
    drawsOf policy retry tier.totalWeight id = 0
  /-- Whatever the random source returns, only usable candidates are selected. -/
  usable : ∀ retry randomInt id, selectChannelAtRetry policy retry randomInt = .ok (some id) →
    ∃ c ∈ usableCandidates candidates, c.channelID = id

theorem drawCandidate_mem : ∀ {l : List ChannelRoutingCandidatePolicy} {d : Nat} {id : Int},
    drawCandidate l d = .ok (some id) → id ∈ l.map (fun c => c.channelID)
  | c :: rest, d, id, h => by
    simp only [drawCandidate] at h
    split at h
    · exact List.mem_cons_of_mem _ (drawCandidate_mem h)
    split at h
    · cases h
      exact List.mem_cons_self
    · exact List.mem_cons_of_mem _ (drawCandidate_mem h)

variable {randomInt : RandomInt}

theorem selectFromTier_mem
    (h : selectFromTier tier randomInt = .ok (some id)) : id ∈ tier.channels := by
  simp only [selectFromTier] at h
  split at h
  · cases h
  · next c hone =>
    cases h
    have hc : c ∈ tier.candidates := (mem_filter.mp (hone ▸ mem_singleton_self c)).1
    exact mem_map_of_mem hc
  · obtain ⟨d, -, h⟩ := bind_eq_ok.mp h
    obtain ⟨-, -, h⟩ := bind_eq_ok.mp h
    exact drawCandidate_mem h

theorem selectChannelAtRetry_mem
    (h : selectChannelAtRetry policy retry randomInt = .ok (some id)) :
    ∃ tier ∈ policy.tiers, id ∈ tier.channels := by
  unfold selectChannelAtRetry selectChannelFromRoutingPolicy at h
  split at h
  · cases h
  · next tier ht => exact ⟨tier, mem_of_getElem? ht, selectFromTier_mem h⟩

theorem tierAt_isSome (retry : Int) (h : policy.tiers ≠ []) :
    (policy.tierAt retry).isSome = true := by
  have hlt : ∀ i, tierIndex i policy.tiers.length < policy.tiers.length := by
    intro i
    have hpos := length_pos_iff.mpr h
    unfold tierIndex
    split <;> omega
  unfold ChannelRoutingPolicy.tierAt
  rw [getElem?_eq_getElem (hlt _)]
  rfl

/-- Every built policy shares the traffic exactly. -/
theorem buildChannelRoutingPolicy_shares_exactly (candidates : List ChannelRoutingCandidate)
    (hids : (candidates.map ChannelRoutingCandidate.channelID).Nodup) :
    SharesExactly candidates (buildChannelRoutingPolicy candidates) where
  partition := tiers_perm hids
  oneTier _ hc := exists_unique_tier hc
  descending := by
    exact pairwise_map.mpr (tierPriorities_descending candidates)
  priority tier ht c hc := by
    obtain ⟨p, -, rfl⟩ := mem_map.mp ht
    exact (mem_given.mp hc).2
  selects retry hne := by
    obtain ⟨c, hc⟩ := exists_mem_of_ne_nil _ hne
    refine tierAt_isSome retry fun hnil => ?_
    have := (tiers_perm hids).mem_iff.mpr hc
    rw [hnil] at this
    cases this
  weight tier ht c hc := by
    obtain ⟨p, -, rfl⟩ := mem_map.mp ht
    rw [given_routingTier]
    obtain ⟨x, -, rfl⟩ := mem_map.mp hc
    simp only [any_eq_true, decide_eq_true_eq]
  share retry tier ht c hc := by
    rw [drawsOf_eq ht, weightOf_eq (nodup_channels hids (mem_of_getElem? ht)) hc]
  noOther retry tier ht id hid := by
    rw [drawsOf_eq ht, weightOf_eq_zero hid]
  usable retry randomInt id h := by
    obtain ⟨tier, ht, hid⟩ := selectChannelAtRetry_mem h
    obtain ⟨c, hc, rfl⟩ := mem_map.mp hid
    refine ⟨c.toChannelRoutingCandidate, (tiers_perm hids).mem_iff.mp ?_, rfl⟩
    exact mem_flatMap.mpr ⟨tier, ht, mem_map_of_mem hc⟩

/-- A zero weight beside a positive one receives nothing. -/
theorem buildChannelRoutingPolicy_shares_exactly_weights :
    SharesExactly [⟨1, 5, 0, ""⟩, ⟨2, 5, 3, ""⟩, ⟨3, 5, 1, ""⟩, ⟨4, 9, 1, "no route"⟩]
      (buildChannelRoutingPolicy [⟨1, 5, 0, ""⟩, ⟨2, 5, 3, ""⟩, ⟨3, 5, 1, ""⟩, ⟨4, 9, 1, "no route"⟩]) :=
  buildChannelRoutingPolicy_shares_exactly _ (by decide)

end MyApiSpec.Routing
