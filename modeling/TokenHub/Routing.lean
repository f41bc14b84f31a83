import TokenHub.Models
import TokenHub.Registry

/-!
# The routing engine

`routing.py`. `select_model` filters the catalog by context and by cost and returns the first model of a stable sort, by
weight or by cost; `execute_with_routing` calls the selected model's adapter and, when that raises and the policy allows it,
escalates once (`_escalate_request`). The two filters test the policy's fields for truth, as the source does: the context
filter is skipped when neither the minimum nor the estimate is truthy, and the cost filter, written once here because the
two methods write it alike, is skipped for a ceiling of `None` or `0.0`.

The request is a value: where the source assigns `request.model`, the model passes on the request with that field set.
No caller reads the assigned field after the call returns.
-/

namespace TokenHub

/-- `RoutingPolicy`. -/
structure RoutingPolicy where
  maxCostPer1kTokens : Option ℚ := none
  minContextSize : Option Int := none
  preferHigherWeight : Bool := true
  allowEscalation : Bool := true
  deriving DecidableEq, Repr

/-- A `RoutingEngine`: the catalog, the directory, and the default policy. -/
structure RoutingEngine where
  modelRegistry : ModelRegistry
  providerRegistry : ProviderRegistry
  defaultPolicy : RoutingPolicy

namespace RoutingEngine

/-- `RoutingEngine(model_registry, provider_registry, default_policy)`: the policy given, or `RoutingPolicy()`. -/
def init (modelRegistry : ModelRegistry) (providerRegistry : ProviderRegistry) (defaultPolicy : Option RoutingPolicy) :
    RoutingEngine :=
  ⟨modelRegistry, providerRegistry, defaultPolicy.getD {}⟩

/-- `_estimate_context_size`: a quarter of the characters of the messages, plus `max_tokens` when it is truthy. -/
def estimateContextSize (request : ChatRequest) : Int :=
  let totalChars := pySum (request.messages.map (·.content.length))
  let estimatedTokens : Int := Int.ofNat (totalChars / 4)
  if numTruthy request.maxTokens then estimatedTokens + request.maxTokens.getD 0 else estimatedTokens

/-- The context filter of `select_model`: when the minimum or the estimate is truthy, the models of at least the larger of
the two (`policy.min_context_size or 0`). -/
def contextFilter (policy : RoutingPolicy) (estimatedContext : Int) (candidates : List ModelMetadata) :
    List ModelMetadata :=
  if numTruthy policy.minContextSize || estimatedContext != 0 then
    let requiredContext := max (policy.minContextSize.getD 0) estimatedContext
    candidates.filter (fun m => requiredContext ≤ m.contextSize)
  else candidates

/-- The cost filter of `select_model` and of `_escalate_request`: when the ceiling is truthy, the models of at most that
cost. -/
def costFilter (policy : RoutingPolicy) (candidates : List ModelMetadata) : List ModelMetadata :=
  match policy.maxCostPer1kTokens with
  | some ceiling => if ceiling ≠ 0 then candidates.filter (fun m => m.costPer1kTokens ≤ ceiling) else candidates
  | none => candidates

/-- `select_model`: the filtered catalog sorted heaviest first, or cheapest first, and its first model. -/
def selectModel (e : RoutingEngine) (request : ChatRequest) (policy : Option RoutingPolicy) : Option ModelMetadata :=
  let policy := policy.getD e.defaultPolicy
  let estimatedContext := estimateContextSize request
  let candidates := costFilter policy (contextFilter policy estimatedContext e.modelRegistry.listModels)
  if candidates.isEmpty then none
  else if policy.preferHigherWeight then (pySort (·.weight) true candidates).head?
  else (pySort (·.costPer1kTokens) false candidates).head?

/-- The candidates of `_escalate_request`: the models heavier than the failed one or of larger context, not of its name. -/
def escalationCandidates (failedModel : ModelMetadata) (catalog : List ModelMetadata) : List ModelMetadata :=
  catalog.filter (fun m =>
    (decide (failedModel.weight < m.weight) || decide (failedModel.contextSize < m.contextSize)) &&
      m.name != failedModel.name)

/-- The model `_escalate_request` escalates to: its candidates after the cost filter, heaviest first, the first of them. -/
def escalationTarget (e : RoutingEngine) (failedModel : ModelMetadata) (policy : RoutingPolicy) : Option ModelMetadata :=
  (pySort (·.weight) true (costFilter policy (escalationCandidates failedModel e.modelRegistry.listModels))).head?

/-- `_escalate_request`: one more call, under the escalation target's name, to its adapter. -/
def escalateRequest (e : RoutingEngine) (w : World) (request : ChatRequest) (failedModel : ModelMetadata)
    (policy : RoutingPolicy) (error : HubError) : Run HubError (List ProviderCall) ChatResponse := do
  let some escalatedModel := e.escalationTarget failedModel policy | throw (HubError.noEscalationPath error)
  let request := { request with model := some escalatedModel.name }
  let some provider := e.providerRegistry.getProvider escalatedModel.provider
    | throw (HubError.providerNotFound escalatedModel.provider)
  chatCompletion w provider request

/-- `execute_with_routing`: the request, under the selected model's name unless it names one already, to the selected
model's adapter; on a raise, one escalation when the policy allows it. -/
def executeWithRouting (e : RoutingEngine) (w : World) (request : ChatRequest) (policy : Option RoutingPolicy) :
    Run HubError (List ProviderCall) ChatResponse := do
  let policy := policy.getD e.defaultPolicy
  let some selectedModel := e.selectModel request (some policy) | throw HubError.noSuitableModel
  let request := if textTruthy request.model then request else { request with model := some selectedModel.name }
  let some provider := e.providerRegistry.getProvider selectedModel.provider
    | throw (HubError.providerNotFound selectedModel.provider)
  try chatCompletion w provider request
  catch err =>
    if policy.allowEscalation then e.escalateRequest w request selectedModel policy err else throw err

end RoutingEngine

end TokenHub
