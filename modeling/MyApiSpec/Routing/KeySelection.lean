import MyApiSpec.Base.GoText

/-!
# The key of a selected channel

`middleware/distributor.go:495–585`, `service/relay_failover.go:72–122`, `service/relay_account_scheduling.go:50–88`,
`service/channel_account_affinity.go:58–77` and `model/channel.go:335–422`. Three filters exclude keys, and the request
goes on if a key is left that counts for the filter. The key of the bound account is preferred to the next one.
-/

namespace MyApiSpec.Routing

open Base List

/-- The values of `MultiKeyMode`. -/
inductive MultiKeyMode where
  | random
  | polling
  | other (mode : String)
  deriving DecidableEq

/-- What the selection reads of a channel; `getKeys` is what `GetKeys` makes of `key`. -/
structure KeyChannel where
  id : Int
  key : String
  getKeys : List String
  isMultiKey : Bool
  multiKeyStatusList : Nat → Option Int
  multiKeyMode : MultiKeyMode

/-- `RelayAttempt`. -/
structure RelayAttempt where
  channelID : Int
  keyIndex : Int
  outcome : String := "selected"
  status : Int := 0

/-- `RelayFailover`. -/
structure RelayFailover (D : Type) where
  attempts : List RelayAttempt := []
  excluded : List (Int × D) := []

namespace RelayFailover

variable {D : Type} (digest : String → D)

/-- `StartAttempt`. -/
def startAttempt (state : RelayFailover D) (channelID keyIndex : Int) : RelayFailover D :=
  { state with attempts := state.attempts ++ [{ channelID, keyIndex }] }

/-- `FinishAttempt`. -/
def finishAttempt (state : RelayFailover D) (key outcome : String) (status : Int) (exclude : Bool) : RelayFailover D :=
  match state.attempts.getLast? with
  | none => state
  | some attempt =>
    { attempts := state.attempts.dropLast ++ [{ attempt with outcome, status }]
      excluded := if exclude then (attempt.channelID, digest key) :: state.excluded else state.excluded }

/-- An attempt from its start to its end. -/
structure Try extends RelayAttempt where
  key : String
  exclude : Bool

/-- The attempts of a request, one after another. -/
def after (history : List Try) (state : RelayFailover D) : RelayFailover D :=
  history.foldl (fun state t =>
    (state.startAttempt t.channelID t.keyIndex).finishAttempt digest t.key t.outcome t.status t.exclude) state

theorem mem_excluded_after {d : D} {channelID : Int} (history : List Try) (state : RelayFailover D) :
    (channelID, d) ∈ (state.after digest history).excluded ↔
      (channelID, d) ∈ state.excluded ∨ ∃ t ∈ history, t.exclude = true ∧ t.channelID = channelID ∧ digest t.key = d := by
  induction history generalizing state with
  | nil => simp [after]
  | cons t history ih =>
    rw [after, foldl_cons, ← after, ih]
    cases ht : t.exclude
    · simp [startAttempt, finishAttempt, ht]
    · simp only [startAttempt, finishAttempt, getLast?_concat, if_pos, mem_cons, exists_eq_or_imp,
        Prod.mk.injEq, ht, true_and]
      grind

end RelayFailover

open RelayFailover (Try)

/-- What the selection reads of its request: the indices that the quota filter excludes, if it runs; the identities on
hold, where the cooldown is on; the failed attempts; the bound account; a random number; the saved position, if it can
be read. -/
structure KeyContext (D : Type) where
  quota : Option (Nat → Bool)
  holds : Option (String → Bool)
  failover : Option (RelayFailover D)
  binding : Option (Int × String)
  draw : Nat
  pollingIndex : Option Int

/-- Why there is no key. -/
inductive KeyError where
  | noAvailableChannel
  | noEligibleKeys
  | noQuotaEligibleKeys
  | noKeysAvailable
  | noEnabledKeys
  | getChannelFailed
  deriving DecidableEq

namespace KeyChannel

variable (ch : KeyChannel)

/-- The keys of the channel, by index. -/
def keys : List String := if ch.isMultiKey then ch.getKeys else [ch.key]

/-- A key without a status, or with `ChannelStatusEnabled`. -/
def enabled (i : Nat) : Bool := !ch.isMultiKey || (ch.multiKeyStatusList i).all (· = 1)

/-- An enabled key that counts is not excluded. -/
def eligible (excluded : Nat → Bool) (counts : String → Bool) : Bool :=
  (List.range ch.keys.length).any fun i => !excluded i && ch.keys[i]?.any counts && ch.enabled i

/-- A filter that bars keys, if it is on. -/
def filterKeys (bars : Option (String → Bool)) (counts : String → Bool) (excluded : Nat → Bool) : (Nat → Bool) × Bool :=
  match bars with
  | none => (excluded, true)
  | some bars =>
    let result := fun i => excluded i || ch.keys[i]?.any bars
    (result, ch.eligible result counts)

/-- `RelayCooldownEligibleKeys`. -/
def relayCooldownEligibleKeys (identity : String → String) (holds : Option (String → Bool)) (excluded : Nat → Bool) :
    (Nat → Bool) × Bool :=
  ch.filterKeys (holds.map (· ∘ identity)) (identity · ≠ "") excluded

/-- `RelayFailoverEligibleKeys`. -/
def relayFailoverEligibleKeys {D : Type} [DecidableEq D] (digest : String → D) (state : Option (RelayFailover D))
    (excluded : Nat → Bool) : (Nat → Bool) × Bool :=
  ch.filterKeys (state.map fun state key => (ch.id, digest key) ∈ state.excluded) (· ≠ "") excluded

/-- `PreferredChannelAccountIndex`: the first key of the bound account. -/
def preferredChannelAccountIndex (identity : String → String) (binding : Option (Int × String)) : Option Nat :=
  binding.bind fun b => if b.1 = ch.id then ch.keys.findIdx? (identity · = b.2) else none

/-- The switch over the mode, with a random number and the saved position. -/
def pickIndex (usable : Nat → Bool) (first : Nat) (rest : List Nat) (draw : Nat) (saved : Int) : Nat :=
  let n := ch.getKeys.length
  match ch.multiKeyMode with
  | .random => (first :: rest)[draw % (rest.length + 1)]?.getD first
  | .polling =>
    let start := if saved < 0 ∨ saved ≥ n then 0 else saved.toNat
    (((List.range n).map fun i => (start + i) % n).find? usable).getD first
  | .other _ => first

/-- `GetNextEnabledKeyExcluding`. Polling reads the saved position first. -/
def getNextEnabledKeyExcluding (excluded : Nat → Bool) (draw : Nat) (pollingIndex : Option Int) :
    Except KeyError (String × Nat) :=
  if !ch.isMultiKey then if excluded 0 then .error .noQuotaEligibleKeys else .ok (ch.key, 0)
  else if ch.getKeys = [] then .error .noKeysAvailable
  else
    let usable := fun i => ch.enabled i && !excluded i
    match (List.range ch.getKeys.length).filter usable with
    | [] => .error .noEnabledKeys
    | first :: rest =>
      if ch.multiKeyMode = .polling ∧ pollingIndex = none then .error .getChannelFailed
      else
        let index := ch.pickIndex usable first rest draw (pollingIndex.getD 0)
        .ok (ch.getKeys[index]?.getD "", index)

/-- The choice behind the filters: the key of the bound account, or the next one. -/
def chooseKey {D : Type} (identity : String → String) (ctx : KeyContext D) (excluded : Nat → Bool) :
    Except KeyError (String × Nat) :=
  match (ch.preferredChannelAccountIndex identity ctx.binding).filter (!excluded ·) with
  | none => ch.getNextEnabledKeyExcluding excluded ctx.draw ctx.pollingIndex
  | some index =>
    let key := ch.keys[index]?.getD ""
    if trimSpace key = "" ∨ ch.enabled index = false then .error .noEnabledKeys else .ok (key, index)

/-- The selection in `setupContextForSelectedChannel` when the caller fixes no index. -/
def selectKey {D : Type} [DecidableEq D] (digest : String → D) (identity : String → String) (ctx : KeyContext D) :
    Except KeyError (String × Nat) :=
  let excluded := ctx.quota.getD fun _ => false
  if ctx.quota.isSome && !ch.eligible excluded fun _ => true then .error .noAvailableChannel
  else
    let (excluded, eligible) := ch.relayCooldownEligibleKeys identity ctx.holds excluded
    if !eligible then .error .noEligibleKeys
    else
      let (excluded, eligible) := ch.relayFailoverEligibleKeys digest ctx.failover excluded
      if !eligible then .error .noEligibleKeys else ch.chooseKey identity ctx excluded

/-! ### Soundness and completeness -/

/-- The key was refused for the channel in one of the attempts. -/
def Refused (history : List Try) (key : String) : Prop :=
  ∃ t ∈ history, t.exclude = true ∧ t.channelID = ch.id ∧ t.key = key

/-- Index `i` is excluded by quota, or its key is on hold or was refused, under whatever index. -/
def Barred {D : Type} (identity : String → String) (ctx : KeyContext D) (history : List Try) (i : Nat) : Prop :=
  (∃ excluded ∈ ctx.quota, excluded i = true) ∨
    ∃ key, ch.keys[i]? = some key ∧ ((∃ held ∈ ctx.holds, held (identity key) = true) ∨ ch.Refused history key)

/-- Index `i` has an enabled key that is not barred. -/
def Open (barred : Nat → Prop) (i : Nat) : Prop := i < ch.keys.length ∧ ch.enabled i = true ∧ ¬ barred i

/-- Index `i` has a non-empty enabled key that is not barred. -/
def Usable (barred : Nat → Prop) (i : Nat) : Prop := ch.Open barred i ∧ ch.keys[i]? ≠ some ""

/-- A usable key is returned if there is one, and no other key ever. -/
def Correct (barred : Nat → Prop) (result : Except KeyError (String × Nat)) : Prop :=
  (∀ key i, result = .ok (key, i) → ch.keys[i]? = some key ∧ ch.Usable barred i) ∧
    ((∃ i, ch.Usable barred i) → ∃ r, result = .ok r)

/-- The result is the key of an index that is not barred, or an error, and then `failing` holds. -/
def Picks (barred : Nat → Prop) (result : Except KeyError (String × Nat)) (failing : Prop) : Prop :=
  (∃ key i, result = .ok (key, i) ∧ ch.keys[i]? = some key ∧ ch.Open barred i) ∨
    (∃ e, result = .error e) ∧ failing

end KeyChannel

/-- The request made these attempts, if it records any. -/
def KeyContext.Follows {D : Type} (digest : String → D) (ctx : KeyContext D) (history : Option (List Try)) : Prop :=
  ctx.failover = history.map fun history => RelayFailover.after digest history {}

namespace KeyChannel

variable {D : Type} {digest : String → D} {identity : String → String} {ch : KeyChannel} {ctx : KeyContext D}
  {history : Option (List Try)} {X : Nat → Bool} {i : Nat} {key : String}

section Filters

variable {bars : Option (String → Bool)} {counts : String → Bool}

theorem filterKeys_fst : (ch.filterKeys bars counts X).1 i = true ↔
    X i = true ∨ ∃ key, ch.keys[i]? = some key ∧ ∃ b ∈ bars, b key = true := by
  cases bars <;> simp [filterKeys, Option.any_eq_true]

theorem eligible_iff : ch.eligible X counts = true ↔
    ∃ i key, ch.keys[i]? = some key ∧ ch.Open (X · = true) i ∧ counts key = true := by
  simp only [eligible, any_eq_true, mem_range, Open]
  grind

/-- A filter that stops the request leaves no open key that counts. -/
theorem filterKeys_stops (h : (ch.filterKeys bars counts X).2 = false) :
    bars.isSome = true ∧ ∀ i key, ch.keys[i]? = some key → ch.Open ((ch.filterKeys bars counts X).1 · = true) i →
      counts key = false := by
  cases bars with
  | none => cases h
  | some bars =>
    refine ⟨rfl, fun i key hkey hopen => Bool.eq_false_iff.mpr fun hcounts => ?_⟩
    exact Bool.eq_false_iff.mp h (eligible_iff.mpr ⟨i, key, hkey, hopen, hcounts⟩)

theorem open_of_filterKeys (h : ch.Open ((ch.filterKeys bars counts X).1 · = true) i) : ch.Open (X · = true) i :=
  ⟨h.1, h.2.1, fun hX => h.2.2 (filterKeys_fst.mpr (.inl hX))⟩

end Filters

/-- The switch stays among the candidates. -/
theorem pickIndex_mem {first : Nat} {rest : List Nat} {usable : Nat → Bool} (draw : Nat) (saved : Int)
    (h : (List.range ch.getKeys.length).filter usable = first :: rest) :
    ch.pickIndex usable first rest draw saved ∈ first :: rest := by
  unfold pickIndex
  cases ch.multiKeyMode with
  | random =>
    have hlt : draw % (rest.length + 1) < (first :: rest).length := Nat.mod_lt _ (Nat.succ_pos _)
    simp only [getElem?_eq_getElem hlt]
    exact getElem_mem hlt
  | polling =>
    simp only
    cases hfind : find? usable _ with
    | none => exact mem_cons_self
    | some i =>
      obtain ⟨j, hj, rfl⟩ := mem_map.mp (mem_of_find?_eq_some hfind)
      rw [Option.getD_some, ← h, mem_filter]
      refine ⟨mem_range.mpr (Nat.mod_lt _ ?_), find?_some hfind⟩
      have := mem_range.mp hj
      omega
  | other => exact mem_cons_self

/-- The next key fails if no index is open, and is the key of an open index otherwise. -/
theorem next_picks (draw : Nat) (start : Int) : ch.Picks (X · = true)
    (ch.getNextEnabledKeyExcluding X draw (some start)) (∀ i, ¬ ch.Open (X · = true) i) := by
  unfold getNextEnabledKeyExcluding
  cases hmulti : ch.isMultiKey with
  | false =>
    cases hx : X 0 with
    | true =>
      refine .inr ⟨⟨_, rfl⟩, fun i h => ?_⟩
      obtain ⟨hlt, -, hopen⟩ := h
      simp only [keys, hmulti] at hlt
      grind
    | false => simp [Picks, Open, keys, enabled, hmulti, hx]
  | true =>
    have hopen : ∀ {i}, ch.Open (X · = true) i ↔
        i ∈ (range ch.getKeys.length).filter (fun i => ch.enabled i && !X i) := by
      simp [Open, keys, hmulti]
    simp only [Bool.not_true, Bool.false_eq_true, if_false]
    split
    · next hnil => exact .inr ⟨⟨_, rfl⟩, fun i h => by simp [hopen, hnil] at h⟩
    split
    · next hnil => exact .inr ⟨⟨_, rfl⟩, fun i h => by simp [hopen, hnil] at h⟩
    · next first rest hlist =>
      have hmem := hopen.mpr (hlist ▸ pickIndex_mem draw start hlist)
      refine .inl ⟨_, _, if_neg (by simp), ?_, hmem⟩
      have hlt := hmem.1
      simp only [keys, hmulti, if_true] at hlt ⊢
      simp [hlt]

section Choice

variable (hid : ∀ key, trimSpace key = "" → identity key = "") (hb : ∀ b ∈ ctx.binding, b.2 ≠ "")
include hid hb

/-- The key of the bound account is there, and not blank. -/
theorem preferred_spec {p : Nat} (h : ch.preferredChannelAccountIndex identity ctx.binding = some p) :
    ∃ key, ch.keys[p]? = some key ∧ trimSpace key ≠ "" := by
  simp only [preferredChannelAccountIndex, Option.bind_eq_some_iff] at h
  obtain ⟨b, hbinding, h⟩ := h
  split at h
  · obtain ⟨hlt, hkey, -⟩ := findIdx?_eq_some_iff_getElem.mp h
    refine ⟨_, getElem?_eq_getElem hlt, fun hblank => hb b hbinding ?_⟩
    rw [← of_decide_eq_true hkey, hid _ hblank]
  · cases h

/-- A choice returns the key of an open index, unless none is open or the key of the bound account is disabled. -/
theorem choose_picks (hstart : ctx.pollingIndex.isSome = true) (X : Nat → Bool) :
    ch.Picks (X · = true) (ch.chooseKey identity ctx X) ((∀ i, ¬ ch.Open (X · = true) i) ∨
      ∃ p ∈ ch.preferredChannelAccountIndex identity ctx.binding, ch.enabled p = false ∧ X p = false) := by
  obtain ⟨start, hstart⟩ := Option.isSome_iff_exists.mp hstart
  unfold chooseKey
  split
  · rw [hstart]
    exact (next_picks ctx.draw start).imp_right fun ⟨he, hnone⟩ => ⟨he, .inl hnone⟩
  · next p hp =>
    rw [Option.filter_eq_some_iff, Bool.not_eq_true'] at hp
    obtain ⟨key, hkey, hblank⟩ := preferred_spec hid hb hp.1
    simp only [hkey, Option.getD_some, hblank, false_or]
    cases henabled : ch.enabled p with
    | false => exact .inr ⟨⟨_, rfl⟩, .inr ⟨p, hp.1, henabled, hp.2⟩⟩
    | true =>
      refine .inl ⟨key, p, rfl, hkey, (List.getElem?_eq_some_iff.mp hkey).1, henabled, ?_⟩
      simp [hp.2]

/-- The selection returns the key of an open index, unless none is open or a filter does not count it, or the key of the
bound account is disabled. -/
theorem select_picks [DecidableEq D] (hdigest : digest.Injective) (hctx : ctx.Follows digest history)
    (hstart : ctx.pollingIndex.isSome = true) :
    ch.Picks (ch.Barred identity ctx (history.getD [])) (ch.selectKey digest identity ctx)
      (∀ i key, ch.keys[i]? = some key → ch.Open (ch.Barred identity ctx (history.getD [])) i →
        (ctx.failover.isSome = true ∧ key = "") ∨ (ctx.holds.isSome = true ∧ identity key = "") ∨
          ∃ p ∈ ch.preferredChannelAccountIndex identity ctx.binding, ch.enabled p = false ∧
            ¬ ch.Barred identity ctx (history.getD []) p) := by
  let q := ctx.quota.getD fun _ => false
  let c := ch.relayCooldownEligibleKeys identity ctx.holds q
  let f := ch.relayFailoverEligibleKeys digest ctx.failover c.1
  have hbarred : ch.Barred identity ctx (history.getD []) = (f.1 · = true) := by
    funext i
    have hq : q i = true ↔ ∃ excluded ∈ ctx.quota, excluded i = true := by
      cases hquota : ctx.quota <;> simp [q, hquota]
    have hrefused : ∀ key, ch.Refused (history.getD []) key ↔
        ∃ state ∈ ctx.failover, (ch.id, digest key) ∈ state.excluded := by
      rw [show ctx.failover = _ from hctx]
      cases history <;> simp [Refused, RelayFailover.mem_excluded_after, hdigest.eq_iff]
    simp only [f, c, relayFailoverEligibleKeys, relayCooldownEligibleKeys, filterKeys_fst, hq, Barred, hrefused]
    simp
    grind
  have hselect : ch.selectKey digest identity ctx =
      if ctx.quota.isSome && !ch.eligible q fun _ => true then .error .noAvailableChannel
      else if !c.2 then .error .noEligibleKeys
      else if !f.2 then .error .noEligibleKeys else ch.chooseKey identity ctx f.1 := rfl
  rw [hselect, hbarred]
  split_ifs with hquota hc hf
  · refine .inr ⟨⟨_, rfl⟩, fun i key hkey hopen => ?_⟩
    have heligible : ch.eligible q (fun _ => true) = true :=
      eligible_iff.mpr ⟨i, key, hkey, open_of_filterKeys (open_of_filterKeys hopen), rfl⟩
    simp [heligible] at hquota
  · obtain ⟨hholds, hstop⟩ := filterKeys_stops ((Bool.not_eq_true' _).mp hc)
    refine .inr ⟨⟨_, rfl⟩, fun i key hkey hopen => .inr (.inl ⟨by simpa using hholds, ?_⟩)⟩
    simpa using hstop i key hkey (open_of_filterKeys hopen)
  · obtain ⟨hfailover, hstop⟩ := filterKeys_stops ((Bool.not_eq_true' _).mp hf)
    refine .inr ⟨⟨_, rfl⟩, fun i key hkey hopen => .inl ⟨by simpa using hfailover, ?_⟩⟩
    simpa using hstop i key hkey hopen
  · refine (choose_picks hid hb hstart f.1).imp_right fun ⟨he, hnone⟩ => ⟨he, fun i key _ hopen => .inr (.inr ?_)⟩
    simpa using hnone.resolve_left fun hnone => hnone i hopen

end Choice

end KeyChannel

/-- Two keys in the default mode, the first with a status. -/
def twoKeys (first : String) (status : Int) : KeyChannel where
  id := 1
  key := first ++ "\nb"
  getKeys := [first, "b"]
  isMultiKey := true
  multiKeyStatusList := fun i => if i = 0 then some status else none
  multiKeyMode := .other ""

end MyApiSpec.Routing
