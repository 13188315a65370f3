import Mathlib.Algebra.Ring.Nat
import Mathlib.Data.List.Dedup
import Mathlib.Data.List.Perm.Basic

/-!
# Chat streams for Gemini clients

`oai_chat/to_gemini_chat_resp.go:93–202` of the relay kit converts every chunk of a chat stream on
its own. The chat format sends a tool call as one delta with its name, followed by fragments of its
arguments, whereas a part of a Gemini chunk holds a whole call.
-/

namespace MyApiSpec.Convert

open List

/-- `dto.ToolCallResponse` in a stream; deltas of one call share the index. -/
structure ToolCallDelta where
  index : Nat
  id : String := ""
  name : String := ""
  arguments : String := ""

/-- `dto.ChatCompletionsStreamResponseChoice`; `toolCalls` is `none` for a nil slice. -/
structure StreamChoice where
  index : Int := 0
  content : String := ""
  toolCalls : Option (List ToolCallDelta) := none
  finishReason : Option String := none

/-- `dto.GeminiPart`, a text or a function call. -/
inductive GeminiPart (Obj : Type)
  | text (s : String)
  | functionCall (name : String) (args : Obj)

/-- `dto.GeminiChatCandidate`. -/
structure GeminiCandidate (Obj : Type) where
  index : Int
  finishReason : Option String
  parts : List (GeminiPart Obj)

/-- JSON objects: how a text is read, the empty object and the object `{"arguments": text}`. -/
structure ObjectFormat (Obj : Type) where
  unmarshal : String → Option Obj
  empty : Obj
  wrapped : String → Obj

variable {Obj : Type} (f : ObjectFormat Obj)

def geminiFinishReason (reason : String) : String :=
  if reason = "length" then "MAX_TOKENS" else if reason = "content_filter" then "SAFETY" else "STOP"

def functionCallArgs (arguments : String) : Obj :=
  if arguments ≠ "" then (f.unmarshal arguments).getD (f.wrapped arguments) else f.empty

def geminiParts (choice : StreamChoice) : List (GeminiPart Obj) :=
  match choice.toolCalls with
  | some calls => calls.map fun d => .functionCall d.name (functionCallArgs f d.arguments)
  | none => if choice.content ≠ "" then [.text choice.content] else []

/-- `hasContent || hasFinishReason` for one choice. -/
def StreamChoice.speaks (choice : StreamChoice) : Bool :=
  0 < choice.content.length || choice.toolCalls.any (0 < ·.length) || choice.finishReason.isSome

/-- `StreamResponseOpenAI2Gemini`, without the usage report. -/
def streamResponseOpenAI2Gemini (choices : List StreamChoice) :
    Option (List (GeminiCandidate Obj)) :=
  if choices.any StreamChoice.speaks then
    some (choices.map fun c => ⟨c.index, c.finishReason.map geminiFinishReason, geminiParts f c⟩)
  else none

/-- What the client receives of a stream of chunks with one choice each. -/
def received (chunks : List StreamChoice) : List (List (GeminiCandidate Obj)) :=
  chunks.filterMap fun c => streamResponseOpenAI2Gemini f [c]

/-! ### What the stream says -/

def deltas (chunks : List StreamChoice) : List ToolCallDelta :=
  chunks.flatMap (·.toolCalls.getD [])

def deltasOf (chunks : List StreamChoice) (i : Nat) : List ToolCallDelta :=
  (deltas chunks).filter (·.index = i)

def argumentsOf (chunks : List StreamChoice) (i : Nat) : String :=
  String.join ((deltasOf chunks i).map (·.arguments))

/-- The object that the whole arguments of a call denote. -/
def denoted (arguments : String) : Option Obj :=
  if arguments = "" then some f.empty else f.unmarshal arguments

/-- The tool calls of the stream with their names and objects. -/
def calls (chunks : List StreamChoice) : List (String × Option Obj) :=
  ((deltas chunks).map (·.index)).dedup.map fun i =>
    (((deltasOf chunks i).head?.map (·.name)).getD "", denoted f (argumentsOf chunks i))

/-- Every call is sent as a delta with its id and name and then fragments without them, and its
arguments denote an object. -/
def WellSent (chunks : List StreamChoice) : Prop :=
  ∀ x ∈ deltas chunks,
    (∀ d ∈ (deltasOf chunks x.index).head?, d.id ≠ "" ∧ d.name ≠ "") ∧
    (∀ d ∈ (deltasOf chunks x.index).tail, d.id = "" ∧ d.name = "") ∧
    (denoted f (argumentsOf chunks x.index)).isSome

/-- Only the last element satisfies `p`. -/
def OnlyLast {α : Type} (p : α → Bool) (xs : List α) : Prop :=
  ∃ n, xs.map p = replicate n false ++ [true]

def GeminiPart.call? : GeminiPart Obj → Option (String × Option Obj)
  | .functionCall name args => some (name, some args)
  | .text _ => none

def GeminiPart.text? : GeminiPart Obj → Option String
  | .text s => some s
  | .functionCall _ _ => none

def receivedParts (chunks : List StreamChoice) : List (GeminiPart Obj) :=
  (received f chunks).flatten.flatMap (·.parts)

/-- The client receives every call once and whole, all text, and one finish reason at the end. -/
structure Faithful (chunks : List StreamChoice) : Prop where
  calls : ((receivedParts f chunks).filterMap (·.call?)).Perm (calls f chunks)
  text : String.join ((receivedParts f chunks).filterMap (·.text?)) =
    String.join (chunks.map (·.content))
  finish : OnlyLast (·.any (·.finishReason.isSome)) (received f chunks)

/-! ### When the client receives it -/

variable {f} {chunks : List StreamChoice}

theorem received_eq : received f chunks = (chunks.filter (·.speaks)).map fun c =>
    [⟨c.index, c.finishReason.map geminiFinishReason, geminiParts f c⟩] := by
  induction chunks with
  | nil => rfl
  | cons c chunks ih =>
    rw [received, filterMap_cons, ← received, ih]
    by_cases h : c.speaks <;> simp [streamResponseOpenAI2Gemini, h]

theorem receivedParts_eq : receivedParts f chunks = chunks.flatMap (geminiParts f) := by
  rw [receivedParts, received_eq]
  induction chunks with
  | nil => rfl
  | cons c chunks ih =>
    by_cases h : c.speaks
    · simp_all
    · have hparts : geminiParts f c = [] := by
        obtain ⟨i, content, toolCalls, reason⟩ := c
        cases toolCalls <;> simp_all [StreamChoice.speaks, geminiParts]
      simp_all

theorem calls_received : (receivedParts f chunks).filterMap (·.call?) =
    (deltas chunks).map fun d => (d.name, some (functionCallArgs f d.arguments)) := by
  rw [receivedParts_eq, deltas, filterMap_flatMap, map_flatMap]
  congr
  funext c
  unfold geminiParts
  split
  next calls h => simp [h, filterMap_map, GeminiPart.call?]
  next h => split <;> simp [h, GeminiPart.call?]

theorem text_received : String.join ((receivedParts f chunks).filterMap (·.text?)) =
    String.join (chunks.map fun c => if c.toolCalls.isSome then "" else c.content) := by
  rw [receivedParts_eq]
  induction chunks with
  | nil => rfl
  | cons c chunks ih =>
    rw [flatMap_cons, filterMap_append, String.join_append, ih, map_cons, String.join_cons]
    congr 1
    unfold geminiParts
    split
    next calls h => simp [h, filterMap_map, GeminiPart.text?]
    next h => by_cases hc : c.content = "" <;> simp [h, hc, GeminiPart.text?]

/-- The received text falls short by the text beside tool calls. -/
theorem text_lost :
    (String.join (chunks.map fun c => if c.toolCalls.isSome then "" else c.content)).length +
      ((chunks.filter (·.toolCalls.isSome)).map (·.content.length)).sum =
        (String.join (chunks.map (·.content))).length := by
  induction chunks with
  | nil => rfl
  | cons c chunks ih =>
    rw [map_cons, map_cons, String.join_cons, String.join_cons, String.length_append,
      String.length_append, ← ih]
    by_cases h : c.toolCalls.isSome <;> simp [h] <;> omega

theorem text_iff : String.join ((receivedParts f chunks).filterMap (·.text?)) =
    String.join (chunks.map (·.content)) ↔ ∀ c ∈ chunks, c.toolCalls.isSome → c.content = "" := by
  rw [text_received]
  constructor
  · intro h c hc hcalls
    have hlost := @text_lost chunks
    rw [h, Nat.add_eq_left, List.sum_eq_zero_iff_forall_eq_nat] at hlost
    exact String.length_eq_zero_iff.1 (hlost _ (mem_map.2 ⟨c, mem_filter.2 ⟨hc, hcalls⟩, rfl⟩))
  · intro h
    congr 1
    refine map_congr_left fun c hc => ?_
    grind

theorem filter_index {d : ToolCallDelta} {ds : List ToolCallDelta} (h : (ds.map (·.index)).Nodup)
    (hd : d ∈ ds) : ds.filter (·.index = d.index) = [d] := by
  induction ds with
  | nil => cases hd
  | cons x ds ih =>
    obtain ⟨hx, hds⟩ := nodup_cons.1 h
    have hother : ∀ y ∈ ds, y.index ≠ x.index := by
      intro y hy e
      exact hx (mem_map.2 ⟨y, hy, e⟩)
    rcases mem_cons.1 hd with rfl | hd
    · rw [filter_cons_of_pos (by simp), filter_eq_nil_iff.2 (by simpa using hother)]
    · rw [filter_cons_of_neg (by simpa using (hother d hd).symm), ih hds hd]

theorem functionCallArgs_eq {s : String} (h : (denoted f s).isSome) :
    some (functionCallArgs f s) = denoted f s := by
  unfold denoted functionCallArgs at *
  by_cases hs : s = ""
  · simp [hs]
  · obtain ⟨o, ho⟩ := Option.isSome_iff_exists.1 h
    simp_all

theorem calls_iff (hsent : WellSent f chunks) :
    ((receivedParts f chunks).filterMap (·.call?)).Perm (calls f chunks) ↔
      ((deltas chunks).map (·.index)).Nodup := by
  rw [calls_received]
  constructor
  · intro h
    have hlen := h.length_eq
    simp only [calls, length_map] at hlen
    exact dedup_eq_self.1 ((dedup_sublist _).eq_of_length (by rw [← hlen, length_map]))
  · intro h
    rw [calls, h.dedup, map_map]
    refine Perm.of_eq (map_congr_left fun d hd => ?_)
    have hone : deltasOf chunks d.index = [d] := filter_index h hd
    have harguments : argumentsOf chunks d.index = d.arguments := by simp [argumentsOf, hone]
    have hsome := (hsent d hd).2.2
    rw [harguments] at hsome
    simp [hone, harguments, functionCallArgs_eq hsome]

theorem finish_iff : OnlyLast (·.any (·.finishReason.isSome)) (received f chunks) ↔
    OnlyLast (·.finishReason.isSome) (chunks.filter (·.speaks)) := by
  rw [received_eq, OnlyLast, OnlyLast, map_map]
  simp [Function.comp_def]

theorem faithful_iff (f : ObjectFormat Obj) (chunks : List StreamChoice)
    (hsent : WellSent f chunks) :
    Faithful f chunks ↔ ((deltas chunks).map (·.index)).Nodup ∧
      (∀ c ∈ chunks, c.toolCalls.isSome → c.content = "") ∧
      OnlyLast (·.finishReason.isSome) (chunks.filter (·.speaks)) := by
  rw [← calls_iff hsent, ← text_iff (f := f), ← finish_iff (f := f)]
  exact ⟨fun h => ⟨h.calls, h.text, h.finish⟩, fun h => ⟨h.1, h.2.1, h.2.2⟩⟩

/-- Objects as their texts, of which only the empty one can be read. -/
def plainObjects : ObjectFormat String :=
  ⟨fun s => if s = "\x7b\x7d" then some s else none, "\x7b\x7d",
    fun s => "\x7b\"arguments\":\"" ++ s ++ "\"\x7d"⟩

def wholeCall : List StreamChoice :=
  [{ content := "a" }, { toolCalls := some [⟨0, "c", "f", "\x7b\x7d"⟩] },
    { finishReason := some "tool_calls" }]

theorem faithful_iff_wholeCall :
    WellSent plainObjects wholeCall ∧ Faithful plainObjects wholeCall := by
  have hsent : WellSent plainObjects wholeCall := by
    unfold WellSent
    decide
  exact ⟨hsent, (faithful_iff plainObjects wholeCall hsent).2 ⟨by decide, by decide, 2, rfl⟩⟩

def splitCall : List StreamChoice :=
  [{ toolCalls := some [⟨0, "c", "f", "\x7b"⟩] }, { toolCalls := some [⟨0, "", "", "\x7d"⟩] },
    { finishReason := some "tool_calls" }]

theorem splitCall_repeated : WellSent plainObjects splitCall ∧ ¬ Faithful plainObjects splitCall ∧
    (receivedParts plainObjects splitCall).filterMap (·.call?) =
      [("f", some "\x7b\"arguments\":\"\x7b\"\x7d"), ("", some "\x7b\"arguments\":\"\x7d\"\x7d")] := by
  have hsent : WellSent plainObjects splitCall := by
    unfold WellSent
    decide
  exact ⟨hsent, fun h => absurd h.calls.length_eq (by decide), by decide⟩

end MyApiSpec.Convert
