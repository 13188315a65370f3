import Mathlib.Algebra.Ring.Int.Defs
import Mathlib.Tactic.SplitIfs

/-!
# Usage reports between the two message formats

`dto/billing_usage.go`, `oai_chat/to_claude_messages_resp.go:38–91` and
`claude_messages/to_oai_chat_resp.go:172–234` of the relay kit. An OpenAI report counts cached tokens and tokens
written to the cache among its prompt tokens, a Claude report counts them beside its input tokens.
-/

namespace MyApiSpec.Convert

/-- Two's complement wrap of the source's `int`. -/
def wrap (n : Int) : Int := (n + 2 ^ 63) % 2 ^ 64 - 2 ^ 63

/-- `dto.InputTokenDetails`. -/
structure InputTokenDetails where
  cachedTokens : Int := 0
  cachedCreationTokens : Int := 0
  cacheWriteTokens : Int := 0
  textTokens : Int := 0
  audioTokens : Int := 0
  imageTokens : Int := 0
  deriving DecidableEq

/-- `CacheCreationTokensTotal`. -/
def InputTokenDetails.cacheCreationTokensTotal (d : InputTokenDetails) : Int :=
  let total := if d.cacheWriteTokens > d.cachedCreationTokens then d.cacheWriteTokens else d.cachedCreationTokens
  if total < 0 then 0 else total

/-- `dto.OutputTokenDetails`. -/
structure OutputTokenDetails where
  textTokens : Int := 0
  audioTokens : Int := 0
  imageTokens : Int := 0
  reasoningTokens : Int := 0
  deriving DecidableEq

/-- `dto.Usage` without its billing record, as `cloneOpenAIUsage` keeps it. -/
structure OpenAICounts where
  promptTokens : Int := 0
  completionTokens : Int := 0
  totalTokens : Int := 0
  promptCacheHitTokens : Int := 0
  usageSemantic : String := ""
  usageSource : String := ""
  promptTokensDetails : InputTokenDetails := {}
  completionTokenDetails : OutputTokenDetails := {}
  inputTokens : Int := 0
  outputTokens : Int := 0
  inputTokensDetails : Option InputTokenDetails := none
  claudeCacheCreation5mTokens : Int := 0
  claudeCacheCreation1hTokens : Int := 0

/-- `dto.ClaudeCacheCreationUsage`. -/
structure ClaudeCacheCreationUsage where
  ephemeral5mInputTokens : Int
  ephemeral1hInputTokens : Int

/-- `dto.ClaudeUsage` without its billing record, as `cloneClaudeUsage` keeps it. -/
structure ClaudeCounts where
  rawUsageObserved : Bool := false
  inputTokensReported : Bool := false
  outputTokensReported : Bool := false
  invalidTokenEvidence : Bool := false
  inputTokens : Int := 0
  cacheCreationInputTokens : Int := 0
  cacheReadInputTokens : Int := 0
  outputTokens : Int := 0
  cacheCreation : Option ClaudeCacheCreationUsage := none
  claudeCacheCreation5mTokens : Int := 0
  claudeCacheCreation1hTokens : Int := 0

/-- `GetCacheCreation5mTokens`. -/
def ClaudeCounts.getCacheCreation5mTokens (u : ClaudeCounts) : Int := u.cacheCreation.elim 0 (·.ephemeral5mInputTokens)

/-- `GetCacheCreation1hTokens`. -/
def ClaudeCounts.getCacheCreation1hTokens (u : ClaudeCounts) : Int := u.cacheCreation.elim 0 (·.ephemeral1hInputTokens)

/-- The values of `BillingUsage.Source`. -/
inductive Source where
  | claudeMessages
  | geminiChat
  | oaiChat
  | oaiResponses
  | other (text : String)
  deriving DecidableEq

/-- The values of `BillingUsage.Semantic`. -/
inductive Semantic where
  | anthropic
  | gemini
  | openAI
  | other (text : String)
  deriving DecidableEq

/-- `dto.BillingUsage`. Every reader clones it first, and the clone drops the billing records of its reports. -/
structure BillingUsage where
  source : Source
  semantic : Semantic
  incomplete : Bool := false
  openAIUsage : Option OpenAICounts := none
  claudeUsage : Option ClaudeCounts := none

/-- `dto.Usage`. -/
structure Usage extends OpenAICounts where
  billingUsage : Option BillingUsage := none

/-- `dto.ClaudeUsage`. -/
structure ClaudeUsage extends ClaudeCounts where
  billingUsage : Option BillingUsage := none

/-- `NewClaudeMessagesBillingUsage`, with the test of `HasClaudeUsageTokens`. -/
def newClaudeMessagesBillingUsage (usage : ClaudeCounts) : Option BillingUsage :=
  let hasTokens := [usage.inputTokens, usage.outputTokens, usage.cacheCreationInputTokens, usage.cacheReadInputTokens,
    usage.claudeCacheCreation5mTokens, usage.claudeCacheCreation1hTokens, usage.getCacheCreation5mTokens,
    usage.getCacheCreation1hTokens].any (· ≠ 0)
  if hasTokens || usage.rawUsageObserved then some
    { source := .claudeMessages, semantic := .anthropic, claudeUsage := some usage
      incomplete := usage.rawUsageObserved &&
        (!usage.inputTokensReported || !usage.outputTokensReported || usage.invalidTokenEvidence) }
  else none

/-- `NewOpenAIChatBillingUsage`, with the test of `HasOpenAIUsageTokens`. -/
def newOpenAIChatBillingUsage (usage : OpenAICounts) : Option BillingUsage :=
  let hasTokens := [usage.promptTokens, usage.completionTokens, usage.totalTokens, usage.inputTokens,
    usage.outputTokens, usage.promptCacheHitTokens, usage.claudeCacheCreation5mTokens,
    usage.claudeCacheCreation1hTokens].any (· ≠ 0)
  if hasTokens || usage.promptTokensDetails ≠ {} || usage.completionTokenDetails ≠ {} ||
      usage.inputTokensDetails.isSome then
    some { source := .oaiChat, semantic := .openAI, openAIUsage := some usage }
  else none

/-- `NormalizeCacheCreationSplit`, the same in both packages. -/
def normalizeCacheCreationSplit (totalTokens tokens5m tokens1h : Int) : Int × Int :=
  (wrap (tokens5m + max (wrap (wrap (totalTokens - tokens5m) - tokens1h)) 0), tokens1h)

/-- The Claude report that is computed from the counts of `oaiUsage`. -/
def claudeUsageFromCounts (oaiUsage : Usage) : ClaudeUsage :=
  let existing := oaiUsage.billingUsage.filter fun b =>
    b.openAIUsage.isSome ∧ (b.source = .oaiChat ∨ b.source = .oaiResponses ∨ b.semantic = .openAI)
  let details := oaiUsage.promptTokensDetails
  let split := normalizeCacheCreationSplit details.cachedCreationTokens oaiUsage.claudeCacheCreation5mTokens
    oaiUsage.claudeCacheCreation1hTokens
  let cacheCreationTokens := details.cacheCreationTokensTotal
  { inputTokens := if details.cacheWriteTokens > 0 then
        max (wrap (wrap (oaiUsage.promptTokens - details.cachedTokens) - cacheCreationTokens)) 0
      else oaiUsage.promptTokens
    outputTokens := oaiUsage.completionTokens
    cacheCreationInputTokens := cacheCreationTokens
    cacheReadInputTokens := details.cachedTokens
    billingUsage := existing <|> newOpenAIChatBillingUsage oaiUsage.toOpenAICounts
    cacheCreation := if split.1 > 0 ∨ split.2 > 0 then some ⟨split.1, split.2⟩ else none }

/-- `buildClaudeUsageFromOpenAIUsage`. An attached Claude report is returned as it is. -/
def buildClaudeUsageFromOpenAIUsage (oaiUsage : Option Usage) : Option ClaudeUsage :=
  oaiUsage.map fun oaiUsage =>
    let attached := oaiUsage.billingUsage.bind fun b =>
      b.claudeUsage.filter fun _ => b.source = .claudeMessages ∨ b.semantic = .anthropic
    attached.elim (claudeUsageFromCounts oaiUsage) ({ · with })

/-- `cacheCreationTokensForOpenAIUsage`. -/
def cacheCreationTokensForOpenAIUsage (usage : Usage) : Int :=
  let splitCacheCreationTokens := wrap (usage.claudeCacheCreation5mTokens + usage.claudeCacheCreation1hTokens)
  if splitCacheCreationTokens = 0 then usage.promptTokensDetails.cachedCreationTokens
  else if usage.promptTokensDetails.cachedCreationTokens > splitCacheCreationTokens then
    usage.promptTokensDetails.cachedCreationTokens
  else splitCacheCreationTokens

/-- `buildOpenAIStyleUsageFromClaudeUsage`. -/
def buildOpenAIStyleUsageFromClaudeUsage (usage : Usage) : Usage :=
  let split := normalizeCacheCreationSplit usage.promptTokensDetails.cachedCreationTokens
    usage.claudeCacheCreation5mTokens usage.claudeCacheCreation1hTokens
  let cacheCreationTokens := cacheCreationTokensForOpenAIUsage usage
  let totalInputTokens :=
    wrap (wrap (usage.promptTokens + usage.promptTokensDetails.cachedTokens) + cacheCreationTokens)
  { usage with
    claudeCacheCreation5mTokens := split.1
    claudeCacheCreation1hTokens := split.2
    promptTokensDetails := { usage.promptTokensDetails with cacheWriteTokens := cacheCreationTokens }
    promptTokens := totalInputTokens
    inputTokens := totalInputTokens
    totalTokens := wrap (totalInputTokens + usage.completionTokens)
    usageSemantic := "openai"
    usageSource := "anthropic" }

/-- `UsageFromClaudeAPIUsage`. -/
def usageFromClaudeAPIUsage (usage : Option ClaudeUsage) : Usage :=
  usage.elim {} fun usage => buildOpenAIStyleUsageFromClaudeUsage
    { promptTokens := usage.inputTokens
      completionTokens := usage.outputTokens
      usageSemantic := "anthropic"
      usageSource := "anthropic"
      billingUsage := usage.billingUsage <|> newClaudeMessagesBillingUsage usage.toClaudeCounts
      promptTokensDetails :=
        { cachedTokens := usage.cacheReadInputTokens, cachedCreationTokens := usage.cacheCreationInputTokens }
      claudeCacheCreation5mTokens := usage.getCacheCreation5mTokens
      claudeCacheCreation1hTokens := usage.getCacheCreation1hTokens }

/-! ### Conservation -/

/-- A non-negative value of the source's `int`. -/
abbrev Count (n : Int) : Prop := 0 ≤ n ∧ n < 2 ^ 63

/-- The counts that the conversion to Claude reads, and no attached Claude report. -/
def Usage.Plain (u : Usage) : Prop :=
  (∀ b ∈ u.billingUsage, b.claudeUsage = none) ∧ Count u.promptTokens ∧ Count u.promptTokensDetails.cachedTokens ∧
    Count u.promptTokensDetails.cachedCreationTokens ∧ Count u.promptTokensDetails.cacheWriteTokens ∧
    u.promptTokensDetails.cachedTokens + u.promptTokensDetails.cacheCreationTokensTotal ≤ u.promptTokens

/-- The counts that the conversion from Claude reads. -/
def ClaudeUsage.Plain (c : ClaudeUsage) : Prop :=
  Count c.inputTokens ∧ Count c.cacheReadInputTokens ∧ Count c.cacheCreationInputTokens ∧
    Count c.getCacheCreation5mTokens ∧ Count c.getCacheCreation1hTokens

/-- `c` accounts for every token of `u`. -/
def Conserves (u : Usage) (c : ClaudeUsage) : Prop :=
  c.inputTokens + c.cacheReadInputTokens + c.cacheCreationInputTokens = u.promptTokens ∧
    c.outputTokens = u.completionTokens

/-- The tokens of both cache lifetimes. -/
def ClaudeCounts.split (c : ClaudeCounts) : Int := c.getCacheCreation5mTokens + c.getCacheCreation1hTokens

/-- `c'` has the counts of `c`, and splits its cache creation unless `c` splits more than it reports. -/
def Returns (c c' : ClaudeUsage) : Prop :=
  c'.inputTokens = c.inputTokens ∧ c'.cacheReadInputTokens = c.cacheReadInputTokens ∧
    c'.cacheCreationInputTokens = c.cacheCreationInputTokens ∧ c'.outputTokens = c.outputTokens ∧
    (c.split ≤ c.cacheCreationInputTokens → c'.split = c'.cacheCreationInputTokens)

/-- What comes back from the OpenAI style without the billing record. -/
def roundTrip (c : ClaudeUsage) : Option ClaudeUsage :=
  buildClaudeUsageFromOpenAIUsage (some { usageFromClaudeAPIUsage (some c) with billingUsage := none })

variable {u : Usage} {c : ClaudeUsage}

theorem build_of_unattached (h : ∀ b ∈ u.billingUsage, b.claudeUsage = none) :
    buildClaudeUsageFromOpenAIUsage (some u) = some (claudeUsageFromCounts u) := by
  cases hb : u.billingUsage with
  | none => simp [buildClaudeUsageFromOpenAIUsage, hb]
  | some b => simp [buildClaudeUsageFromOpenAIUsage, hb, h b hb]

/-- A split of at most the total is filled up to the total, and then stays as it is. -/
theorem normalizeCacheCreationSplit_of_le {total tokens5m tokens1h : Int} (ht : Count total) (h5 : 0 ≤ tokens5m)
    (h1 : 0 ≤ tokens1h) (h : tokens5m + tokens1h ≤ total) :
    normalizeCacheCreationSplit total tokens5m tokens1h = (total - tokens1h, tokens1h) := by
  simp only [normalizeCacheCreationSplit, wrap, Prod.mk.injEq, and_true] at *
  omega

/-- The larger of total and split is converted. A split that overflows is negative. -/
theorem cacheWriteTokens_eq (h : c.Plain) : (usageFromClaudeAPIUsage (some c)).promptTokensDetails.cacheWriteTokens =
    if c.split < 2 ^ 63 then max c.cacheCreationInputTokens c.split else c.cacheCreationInputTokens := by
  simp only [usageFromClaudeAPIUsage, Option.elim_some, buildOpenAIStyleUsageFromClaudeUsage,
    cacheCreationTokensForOpenAIUsage, ClaudeCounts.split, wrap, ClaudeUsage.Plain] at *
  split_ifs <;> omega

theorem split_roundTrip (h : c.Plain) (hle : c.split ≤ c.cacheCreationInputTokens) : (claudeUsageFromCounts
    { usageFromClaudeAPIUsage (some c) with billingUsage := none }).split = c.cacheCreationInputTokens := by
  obtain ⟨-, -, hc, h5, h1⟩ := h
  simp only [claudeUsageFromCounts, usageFromClaudeAPIUsage, Option.elim_some, buildOpenAIStyleUsageFromClaudeUsage,
    normalizeCacheCreationSplit_of_le hc h5.1 h1.1 hle]
  rw [normalizeCacheCreationSplit_of_le hc (by grind [ClaudeCounts.split]) h1.1 (by omega)]
  simp only [ClaudeCounts.split, ClaudeCounts.getCacheCreation5mTokens, ClaudeCounts.getCacheCreation1hTokens] at *
  split_ifs <;> grind

/-- A Claude report accounts for the prompt of an OpenAI report exactly when tokens were written to the cache or
nothing was cached. A round trip keeps a Claude report exactly when it splits no more cache creation than it
reports (or so much that the sum overflows), and reports cache creation or no cache reads. -/
theorem usage_conversion_conserves_iff (u : Usage) (c : ClaudeUsage) (hu : u.Plain) (hc : c.Plain) :
    ((∃ c', buildClaudeUsageFromOpenAIUsage (some u) = some c' ∧ Conserves u c') ↔
      0 < u.promptTokensDetails.cacheWriteTokens ∨
        u.promptTokensDetails.cachedTokens = 0 ∧ u.promptTokensDetails.cachedCreationTokens = 0) ∧
    ((∃ c', roundTrip c = some c' ∧ Returns c c') ↔
      (c.split ≤ c.cacheCreationInputTokens ∨ 2 ^ 63 ≤ c.split) ∧
        (0 < c.cacheCreationInputTokens ∨ c.cacheReadInputTokens = 0)) := by
  constructor
  · obtain ⟨hb, hp, hd, hr, hw, hle⟩ := hu
    rw [build_of_unattached hb]
    simp only [Option.some.injEq, exists_eq_left', Conserves, claudeUsageFromCounts,
      InputTokenDetails.cacheCreationTokensTotal, wrap, and_true, gt_iff_lt] at *
    split_ifs at * <;> omega
  · have hwrite := cacheWriteTokens_eq hc
    have hsplit := split_roundTrip hc
    have hprompt : (usageFromClaudeAPIUsage (some c)).promptTokens = wrap (wrap (c.inputTokens +
      c.cacheReadInputTokens) + (usageFromClaudeAPIUsage (some c)).promptTokensDetails.cacheWriteTokens) := rfl
    have hcached : (usageFromClaudeAPIUsage (some c)).promptTokensDetails.cachedTokens = c.cacheReadInputTokens := rfl
    have hcreation : (usageFromClaudeAPIUsage (some c)).promptTokensDetails.cachedCreationTokens =
      c.cacheCreationInputTokens := rfl
    have hout : (usageFromClaudeAPIUsage (some c)).completionTokens = c.outputTokens := rfl
    rw [roundTrip, build_of_unattached (by simp)]
    simp only [Option.some.injEq, exists_eq_left', Returns]
    generalize usageFromClaudeAPIUsage (some c) = v at *
    generalize (claudeUsageFromCounts { v with billingUsage := none }).split = s at *
    generalize c.split = n at *
    simp only [claudeUsageFromCounts, InputTokenDetails.cacheCreationTokensTotal, hprompt, hcached, hcreation, hout,
      hwrite, true_and, wrap, gt_iff_lt]
    rw [ClaudeUsage.Plain] at hc
    split_ifs <;> omega

/-- Of 100 prompt tokens 30 were read from the cache. -/
def cachedPrompt : Usage := { promptTokens := 100, completionTokens := 5, promptTokensDetails := { cachedTokens := 30 } }

/-- The same request as Claude reports it. -/
def cachedInput : ClaudeUsage := { inputTokens := 70, cacheReadInputTokens := 30, outputTokens := 5 }

/-- One report counts the 30 tokens twice, and the other does not come back. -/
theorem usage_conversion_conserves_iff_cached :
    (¬ ∃ c', buildClaudeUsageFromOpenAIUsage (some cachedPrompt) = some c' ∧ Conserves cachedPrompt c') ∧
      ¬ ∃ c', roundTrip cachedInput = some c' ∧ Returns cachedInput c' := by
  obtain ⟨h, h'⟩ := usage_conversion_conserves_iff cachedPrompt cachedInput
    ⟨by simp [cachedPrompt], by decide⟩ (by unfold ClaudeUsage.Plain; decide)
  rw [h, h']
  decide

/-- The report has 100 input tokens and 30 cache reads for a prompt of 100, and the input tokens grow from 70 to 100
on the way back. -/
theorem cached_tokens_counted_twice :
    (buildClaudeUsageFromOpenAIUsage (some cachedPrompt)).map (fun c => (c.inputTokens, c.cacheReadInputTokens)) =
      some (100, 30) ∧
    (roundTrip cachedInput).map (·.inputTokens) = some 100 := by
  decide

end MyApiSpec.Convert
