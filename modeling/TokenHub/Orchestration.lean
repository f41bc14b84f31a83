import TokenHub.Routing

/-!
# The orchestration engine

`orchestration.py`. The engine calls the routing engine's `execute_with_routing` once in simple mode; in adversarial mode
it calls it for a plan, for a critique of the plan, and then, when refinement is enabled, once per refinement. The
routing engine is a parameter (`Router`): any computation over some state that answers a request and a policy with a
response or a raise, so that what is proved here holds for every routing behaviour; `RoutingEngine.router` is the routing
engine of `routing.py` answered by a `World`.

The refinement loop is `refineLoop`, over the three variables the source's loop assigns: `plan_response`, which each
refinement overwrites, the list of refinements, and `final_response`. `config or self.default_config` takes the default
only for `None`: a dataclass instance is always true. The `else` branch of `execute` raising on an unknown mode is
unreachable, the enumeration having two members, and is not modelled.
-/

namespace TokenHub

/-- The routing engine as the orchestrator calls it: `execute_with_routing(request, policy)`, over some state. -/
abbrev Router (σ : Type) := ChatRequest → Option RoutingPolicy → Run HubError σ ChatResponse

/-- `execute_with_routing` of a routing engine whose adapters are answered by `w`, over the calls made so far. -/
def RoutingEngine.router (e : RoutingEngine) (w : World) : Router (List ProviderCall) := e.executeWithRouting w

/-- `OrchestrationMode`. -/
inductive OrchestrationMode where
  | simple
  | adversarial
  deriving DecidableEq, Repr

/-- `OrchestrationConfig`. -/
structure OrchestrationConfig where
  mode : OrchestrationMode := .simple
  plannerModel : Option String := none
  criticModel : Option String := none
  maxRefinementIterations : Int := 1
  enableRefinement : Bool := false
  deriving DecidableEq, Repr

/-- `OrchestrationResult`. -/
structure OrchestrationResult where
  finalResponse : ChatResponse
  planResponse : Option ChatResponse := none
  critiqueResponse : Option ChatResponse := none
  refinementResponses : Option (List ChatResponse) := none
  iterations : Int := 1
  deriving DecidableEq, Repr

/-- A value of the summary dict: a text, or the list of the refinements' texts. -/
inductive SummaryValue where
  | text (s : String)
  | texts (l : List String)
  deriving DecidableEq, Repr

/-- An `OrchestrationEngine` over a routing engine. -/
structure OrchestrationEngine (σ : Type) where
  routingEngine : Router σ
  defaultConfig : OrchestrationConfig

namespace OrchestrationEngine

variable {σ : Type}

/-- `OrchestrationEngine(routing_engine, default_config)`: the configuration given, or `OrchestrationConfig()`. -/
def init (routingEngine : Router σ) (defaultConfig : Option OrchestrationConfig) : OrchestrationEngine σ :=
  ⟨routingEngine, defaultConfig.getD {}⟩

/-- The user message of the critique step. -/
def critiquePrompt : String :=
  "Please provide a critical analysis of the above response. Identify any issues, inaccuracies, or areas for improvement."

/-- The user message of a refinement step, `f"Critique: {critique_response.content}\n\n" "Please refine ..."`. -/
def refinementPrompt (critique : String) : String :=
  "Critique: " ++ critique ++ "\n\nPlease refine your response based on this critique."

/-- `_execute_simple`: one routed call. -/
def executeSimple (o : OrchestrationEngine σ) (request : ChatRequest) (policy : Option RoutingPolicy) :
    Run HubError σ OrchestrationResult := do
  let response ← o.routingEngine request policy
  pure { finalResponse := response, iterations := 1 }

/-- `plan_request`: the request's messages, pinned to the planner. -/
def planRequest (request : ChatRequest) (config : OrchestrationConfig) : ChatRequest :=
  ⟨request.messages, config.plannerModel, request.maxTokens, request.temperature⟩

/-- `critique_request`: the messages, the plan, and the critique prompt, pinned to the critic. -/
def critiqueRequest (request : ChatRequest) (config : OrchestrationConfig) (planResponse : ChatResponse) : ChatRequest :=
  ⟨request.messages ++ [⟨"assistant", planResponse.content⟩, ⟨"user", critiquePrompt⟩], config.criticModel,
    request.maxTokens, request.temperature⟩

/-- `refinement_request`: the messages, the current `plan_response`, and the critique, pinned to the planner. -/
def refinementRequest (request : ChatRequest) (config : OrchestrationConfig) (planResponse critiqueResponse : ChatResponse) :
    ChatRequest :=
  ⟨request.messages ++ [⟨"assistant", planResponse.content⟩, ⟨"user", refinementPrompt critiqueResponse.content⟩],
    config.plannerModel, request.maxTokens, request.temperature⟩

/-- The refinement loop, `n` more iterations of it, over `plan_response`, `refinement_responses` and `final_response`:
each iteration appends the refinement, and makes it both the final response and the next `plan_response`. -/
def refineLoop (o : OrchestrationEngine σ) (request : ChatRequest) (config : OrchestrationConfig)
    (policy : Option RoutingPolicy) (critiqueResponse : ChatResponse) :
    Nat → ChatResponse → List ChatResponse → ChatResponse →
      Run HubError σ (ChatResponse × List ChatResponse × ChatResponse)
  | 0, planResponse, refinementResponses, finalResponse => pure (planResponse, refinementResponses, finalResponse)
  | n + 1, planResponse, refinementResponses, _ => do
    let refinement ← o.routingEngine (refinementRequest request config planResponse critiqueResponse) policy
    o.refineLoop request config policy critiqueResponse n refinement (refinementResponses ++ [refinement]) refinement

/-- `_execute_adversarial`: plan, critique, and, when refinement is enabled and the count is positive, that many
refinements. -/
def executeAdversarial (o : OrchestrationEngine σ) (request : ChatRequest) (config : OrchestrationConfig)
    (policy : Option RoutingPolicy) : Run HubError σ OrchestrationResult := do
  let planResponse ← o.routingEngine (planRequest request config) policy
  let critiqueResponse ← o.routingEngine (critiqueRequest request config planResponse) policy
  let (planResponse, refinementResponses, finalResponse) ←
    if config.enableRefinement && decide (0 < config.maxRefinementIterations) then
      o.refineLoop request config policy critiqueResponse config.maxRefinementIterations.toNat planResponse []
        planResponse
    else pure (planResponse, [], planResponse)
  pure { finalResponse := finalResponse, planResponse := some planResponse, critiqueResponse := some critiqueResponse,
         refinementResponses := if refinementResponses.isEmpty then none else some refinementResponses,
         iterations := 1 + (refinementResponses.length : Int) }

/-- `execute`: the configuration given or the default, and the mode's method. -/
def execute (o : OrchestrationEngine σ) (request : ChatRequest) (config : Option OrchestrationConfig)
    (policy : Option RoutingPolicy) : Run HubError σ OrchestrationResult :=
  let config := config.getD o.defaultConfig
  match config.mode with
  | .simple => o.executeSimple request policy
  | .adversarial => o.executeAdversarial request config policy

/-- `create_adversarial_summary`: the final response and the iteration count, then the plan, the critique and the
refinements when the result has them. A response object is always true; a list of refinements only when not empty. -/
def createAdversarialSummary (result : OrchestrationResult) : PyDict SummaryValue :=
  let summary := (PyDict.empty.set "final_response" (.text result.finalResponse.content)).set "iterations"
    (.text (toString result.iterations))
  let summary := match result.planResponse with
    | some p => summary.set "initial_plan" (.text p.content)
    | none => summary
  let summary := match result.critiqueResponse with
    | some c => summary.set "critique" (.text c.content)
    | none => summary
  match result.refinementResponses with
  | some rs => if rs.isEmpty then summary else summary.set "refinements" (.texts (rs.map (·.content)))
  | none => summary

end OrchestrationEngine

end TokenHub
