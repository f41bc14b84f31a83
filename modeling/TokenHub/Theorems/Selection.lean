import TokenHub.Lemmas.Routing
import TokenHub.RoutingSpec
import Mathlib.Tactic.NormNum

/-!
# What `select_model` returns

`select_model` is for the first, in catalog order, of greatest weight (or least cost) among the catalog's models that
suit the request: enough context for the policy's minimum and for the estimate, and within the ceiling when one is set
(`bestSuited`). The source refines it for every policy whose ceiling is not `0.0`
(`selectModel_eq_bestSuited`), on every catalog of non-negative contexts.

With a ceiling of `0.0` it does not: the source tests the ceiling for truth, `0.0` is false, and the cost filter is skipped,
so a free-only policy routes to a paid model (`selectModel_zero_ceiling`).
-/

namespace TokenHub

open RoutingEngine RoutingAux

namespace SelectionAux

/-- Under a ceiling other than `0.0`, on a catalog of non-negative contexts, the candidates of `select_model` are the
catalog's models that suit the request. -/
theorem candidates_eq (e : RoutingEngine) (request : ChatRequest) (policy : RoutingPolicy)
    (hctx : ∀ m ∈ e.modelRegistry.listModels, 0 ≤ m.contextSize) (hceil : policy.maxCostPer1kTokens ≠ some 0) :
    candidates e request policy = e.modelRegistry.listModels.filter (Suits policy request) := by
  rw [candidates, costFilter_eq _ _ hceil, contextFilter_eq _ _ _ hctx, List.filter_filter]
  congr 1
  funext m
  rw [Suits, requiredContext, Bool.and_comm, estimateContextSize_eq]

/-- `select_model` is the first model of the stable sort of the suited models. -/
theorem selectModel_eq_sort (e : RoutingEngine) (request : ChatRequest) (policy : RoutingPolicy)
    (hctx : ∀ m ∈ e.modelRegistry.listModels, 0 ≤ m.contextSize) (hceil : policy.maxCostPer1kTokens ≠ some 0) :
    e.selectModel request (some policy) = bestSuited e.modelRegistry.listModels request policy := by
  rw [selectModel_eq, candidates_eq e request policy hctx hceil, bestSuited, firstHeaviest, firstCheapest,
    head?_pySort_reverse, head?_pySort]

/-- The first heaviest, or cheapest, of a list is none only for the empty list. -/
theorem bestSuited_eq_none (catalog : List ModelMetadata) (request : ChatRequest) (policy : RoutingPolicy) :
    bestSuited catalog request policy = none ↔ catalog.filter (Suits policy request) = [] := by
  rw [bestSuited, firstHeaviest, firstCheapest, ← head?_pySort_reverse, ← head?_pySort]
  split <;> simp [List.head?_eq_none_iff]

end SelectionAux

open SelectionAux

/-- `select_model` refines `bestSuited` under every ceiling but `0.0`: it returns none exactly when no model of the catalog
suits the request, and otherwise the first, in catalog order, of the suited models of greatest weight (or least cost). -/
theorem selectModel_eq_bestSuited (e : RoutingEngine) (request : ChatRequest) (policy : RoutingPolicy)
    (hctx : ∀ m ∈ e.modelRegistry.listModels, 0 ≤ m.contextSize) (hceil : policy.maxCostPer1kTokens ≠ some 0) :
    (e.selectModel request (some policy) = none ↔ ∀ m ∈ e.modelRegistry.listModels, Suits policy request m = false) ∧
      e.selectModel request (some policy) = bestSuited e.modelRegistry.listModels request policy := by
  rw [selectModel_eq_sort e request policy hctx hceil, bestSuited_eq_none, List.filter_eq_nil_iff]
  simp

/-- The default catalog of two mock models, a request of one short message, and a ceiling of `1`. -/
theorem selectModel_eq_bestSuited_default :
    (∀ m ∈ ModelRegistry.init.listModels, 0 ≤ m.contextSize) ∧ (some (1 : ℚ)) ≠ some 0 ∧
      ((RoutingEngine.init ModelRegistry.init (ProviderRegistry.init none) none).selectModel
          { messages := [⟨"user", "Hello"⟩] } (some { maxCostPer1kTokens := some 1 }) = none ↔
        ∀ m ∈ ModelRegistry.init.listModels, Suits { maxCostPer1kTokens := some 1 } { messages := [⟨"user", "Hello"⟩] } m
          = false) ∧
      (RoutingEngine.init ModelRegistry.init (ProviderRegistry.init none) none).selectModel
          { messages := [⟨"user", "Hello"⟩] } (some { maxCostPer1kTokens := some 1 }) =
        bestSuited ModelRegistry.init.listModels { messages := [⟨"user", "Hello"⟩] } { maxCostPer1kTokens := some 1 } :=
  ⟨by decide, by decide,
    selectModel_eq_bestSuited (RoutingEngine.init ModelRegistry.init (ProviderRegistry.init none) none)
      { messages := [⟨"user", "Hello"⟩] } { maxCostPer1kTokens := some 1 } (by decide) (by decide)⟩

/-- A ceiling of `0.0` is not applied: under a free-only policy the default catalog routes to `mock-gpt-4`, which costs
`0.03` and so does not suit the request. -/
theorem selectModel_zero_ceiling :
    (RoutingEngine.init ModelRegistry.init (ProviderRegistry.init none) none).selectModel
        { messages := [⟨"user", "Hello"⟩] } (some { maxCostPer1kTokens := some 0 }) =
      some ⟨"mock-gpt-4", "mock", 0.03, 8192, 100⟩ ∧
    Suits { maxCostPer1kTokens := some 0 } { messages := [⟨"user", "Hello"⟩] } ⟨"mock-gpt-4", "mock", 0.03, 8192, 100⟩
      = false := by
  refine ⟨rfl, ?_⟩
  norm_num [Suits, withinCeiling]

end TokenHub
