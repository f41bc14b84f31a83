import TokenHub.Orchestration

/-!
# The adversarial protocol

What adversarial orchestration is for, stated on its own: a fixed number of calls to the routing engine, each request a
function of the responses before it, the first raise ending the run (`runProtocol`). The requests are those of
`adversarialCall`: the request's messages pinned to the planner; then the plan and the critique prompt pinned to the
critic; then, for each refinement, the latest draft and the one critique pinned to the planner, the first draft being the
plan and each later one the refinement before it. There are `refinementCount` refinements.
-/

namespace TokenHub

open OrchestrationEngine

variable {σ : Type}

/-- `n` more calls to a router, after the responses so far, the request of each a function of every response before it;
the responses of these calls, or the first raise. -/
def runProtocol (route : Router σ) (policy : Option RoutingPolicy) (next : List ChatResponse → ChatRequest) :
    Nat → List ChatResponse → Run HubError σ (List ChatResponse)
  | 0, _ => pure []
  | n + 1, responses => do
    let r ← route (next responses) policy
    let rs ← runProtocol route policy next n (responses ++ [r])
    pure (r :: rs)

/-- The request of the adversarial protocol's next call, given the responses so far: the plan, the critique of the plan,
and a refinement of the latest draft under that critique. Every call carries the request's `max_tokens` and
`temperature`. -/
def adversarialCall (request : ChatRequest) (config : OrchestrationConfig) : List ChatResponse → ChatRequest
  | [] => ⟨request.messages, config.plannerModel, request.maxTokens, request.temperature⟩
  | [plan] =>
    ⟨request.messages ++ [⟨"assistant", plan.content⟩, ⟨"user", critiquePrompt⟩], config.criticModel,
      request.maxTokens, request.temperature⟩
  | plan :: critique :: refinements =>
    ⟨request.messages ++ [⟨"assistant", (refinements.getLast?.getD plan).content⟩,
        ⟨"user", refinementPrompt critique.content⟩], config.plannerModel, request.maxTokens, request.temperature⟩

/-- The number of refinements: `max_refinement_iterations` when refinement is enabled and the count is positive. -/
def refinementCount (config : OrchestrationConfig) : Nat :=
  if config.enableRefinement && decide (0 < config.maxRefinementIterations) then config.maxRefinementIterations.toNat
  else 0

/-- The number of routed calls an orchestrated request makes when none raises: one in simple mode, and the plan, the
critique and the refinements in adversarial mode. -/
def routedCallCount (config : OrchestrationConfig) : Nat :=
  match config.mode with
  | .simple => 1
  | .adversarial => refinementCount config + 2

end TokenHub
