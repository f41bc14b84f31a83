import TokenHub.Routing

/-!
# What routing is for

The purpose of the two choices the engine makes, stated on their own rather than as the source computes them: a request is
served by the first model, in catalog order, of greatest weight (or least cost) among those that suit it (`bestSuited`);
after a failed call, the escalation goes to the first model of greatest weight among those of another name that are heavier
or of larger context than the failed one and within the ceiling (`escalationSet`). The theorems under `Theorems/` say where
the source meets these and where it does not.
-/

namespace TokenHub

/-- A model within the policy's ceiling, when the policy sets one. -/
def withinCeiling (policy : RoutingPolicy) (m : ModelMetadata) : Bool :=
  match policy.maxCostPer1kTokens with
  | some ceiling => decide (m.costPer1kTokens ≤ ceiling)
  | none => true

/-- The context a request needs under a policy: the larger of the policy's minimum (`min_context_size or 0`) and a quarter
of the request's characters plus its `max_tokens or 0`. -/
def requiredContext (policy : RoutingPolicy) (request : ChatRequest) : Int :=
  max (policy.minContextSize.getD 0)
    (Int.ofNat (pySum (request.messages.map (·.content.length)) / 4) + request.maxTokens.getD 0)

/-- A model suits a request under a policy: it has the context the request needs, and it is within the ceiling when the
policy sets one. -/
def Suits (policy : RoutingPolicy) (request : ChatRequest) (m : ModelMetadata) : Bool :=
  decide (requiredContext policy request ≤ m.contextSize) && withinCeiling policy m

/-- The first model of a list, in its order, among those of greatest weight. -/
def firstHeaviest (l : List ModelMetadata) : Option ModelMetadata :=
  (l.filter (fun m => decide (∀ x ∈ l, x.weight ≤ m.weight))).head?

/-- The first model of a list, in its order, among those of least cost. -/
def firstCheapest (l : List ModelMetadata) : Option ModelMetadata :=
  (l.filter (fun m => decide (∀ x ∈ l, m.costPer1kTokens ≤ x.costPer1kTokens))).head?

/-- What `select_model` is for: the first heaviest, or first cheapest, of the catalog's models that suit the request. -/
def bestSuited (catalog : List ModelMetadata) (request : ChatRequest) (policy : RoutingPolicy) : Option ModelMetadata :=
  let suited := catalog.filter (Suits policy request)
  if policy.preferHigherWeight then firstHeaviest suited else firstCheapest suited

/-- The models an escalation from `f` may go to: of another name, heavier or of larger context, within the ceiling when
one is set. -/
def escalationSet (catalog : List ModelMetadata) (f : ModelMetadata) (policy : RoutingPolicy) : List ModelMetadata :=
  catalog.filter (fun m =>
    decide (m.name ≠ f.name) && (decide (f.weight < m.weight) || decide (f.contextSize < m.contextSize)) &&
      withinCeiling policy m)

end TokenHub
