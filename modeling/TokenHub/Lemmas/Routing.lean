import TokenHub.RoutingSpec
import TokenHub.Lemmas.StableSort

/-!
# Helpers for the routing theorems: each method of the engine, spelled out once

One statement per method, so that the theorems never unfold the engine: the estimate is the quarter of the characters
plus `max_tokens or 0` (`estimateContextSize_eq`); on a catalog of non-negative contexts the context filter keeps the
models of at least the required context, skipped or not (`contextFilter_eq`); under a ceiling other than `0.0` the cost
filter keeps the models within the ceiling, if one is set (`costFilter_eq`); `select_model` is the first model of the
stable sort of the candidates (`selectModel_eq`); and the two methods that call adapters, step by step
(`escalateRequest_apply`, `executeWithRouting_apply`).
-/

namespace TokenHub

namespace RoutingAux

open RoutingEngine

theorem estimateContextSize_eq (request : ChatRequest) :
    estimateContextSize request =
      Int.ofNat (pySum (request.messages.map (·.content.length)) / 4) + request.maxTokens.getD 0 := by
  unfold estimateContextSize
  rcases request.maxTokens with _ | n
  · simp
  · by_cases h : n = 0 <;> simp [h]

/-- On a catalog of non-negative contexts, the context filter keeps the models of at least the required context, whether
the source skips it or not. -/
theorem contextFilter_eq (policy : RoutingPolicy) (est : Int) (l : List ModelMetadata)
    (hctx : ∀ m ∈ l, 0 ≤ m.contextSize) :
    contextFilter policy est l = l.filter (fun m => decide (max (policy.minContextSize.getD 0) est ≤ m.contextSize)) := by
  unfold contextFilter
  split
  · rfl
  · rename_i h
    have h0 : max (policy.minContextSize.getD 0) est = 0 := by
      rcases hm : policy.minContextSize with _ | n <;> simp_all
    rw [h0, eq_comm, List.filter_eq_self]
    simpa using hctx

/-- Under a ceiling other than `0.0`, the cost filter keeps the models within the ceiling, when one is set. -/
theorem costFilter_eq (policy : RoutingPolicy) (l : List ModelMetadata) (h : policy.maxCostPer1kTokens ≠ some 0) :
    costFilter policy l = l.filter (withinCeiling policy) := by
  unfold costFilter withinCeiling
  rcases hc : policy.maxCostPer1kTokens with _ | c
  · simp
  · have : c ≠ 0 := fun h0 => h (hc.trans (by rw [h0]))
    simp [this]

/-- A ceiling of `0.0` filters nothing. -/
theorem costFilter_zero (policy : RoutingPolicy) (l : List ModelMetadata) (h : policy.maxCostPer1kTokens = some 0) :
    costFilter policy l = l := by
  simp [costFilter, h]

/-- Whatever the ceiling, the cost filter keeps a sublist. -/
theorem costFilter_sublist (policy : RoutingPolicy) (l : List ModelMetadata) : List.Sublist (costFilter policy l) l := by
  unfold costFilter
  split
  · split
    · exact List.filter_sublist _
    · exact List.Sublist.refl _
  · exact List.Sublist.refl _

/-- The candidates of `select_model`. -/
def candidates (e : RoutingEngine) (request : ChatRequest) (policy : RoutingPolicy) : List ModelMetadata :=
  costFilter policy (contextFilter policy (estimateContextSize request) e.modelRegistry.listModels)

/-- `select_model` is the first model of the stable sort of its candidates, by weight or by cost. -/
theorem selectModel_eq (e : RoutingEngine) (request : ChatRequest) (policy : RoutingPolicy) :
    e.selectModel request (some policy) =
      if policy.preferHigherWeight then (pySort (·.weight) true (candidates e request policy)).head?
      else (pySort (·.costPer1kTokens) false (candidates e request policy)).head? := by
  unfold selectModel candidates
  simp only [Option.getD_some]
  split
  · rename_i h
    rw [List.isEmpty_iff.mp h]
    split <;> rfl
  · rfl

/-- `_escalate_request`, step by step: no target raises at once; a target without an adapter raises after the request is
renamed; otherwise one call, under the target's name. -/
theorem escalateRequest_apply (e : RoutingEngine) (w : World) (request : ChatRequest) (f : ModelMetadata)
    (policy : RoutingPolicy) (err : HubError) (calls : List ProviderCall) :
    e.escalateRequest w request f policy err calls =
      match e.escalationTarget f policy with
      | none => (.error (.noEscalationPath err), calls)
      | some t =>
        match e.providerRegistry.getProvider t.provider with
        | none => (.error (.providerNotFound t.provider), calls)
        | some a => (w calls a { request with model := some t.name },
            calls ++ [⟨a, { request with model := some t.name }⟩]) := by
  unfold escalateRequest
  rcases e.escalationTarget f policy with _ | t
  · rfl
  · dsimp only
    rcases e.providerRegistry.getProvider t.provider with _ | a <;> rfl

/-- The request `execute_with_routing` sends: the request as it is when it names a model, else under the selected model's
name. -/
def routedRequest (request : ChatRequest) (selected : ModelMetadata) : ChatRequest :=
  if textTruthy request.model then request else { request with model := some selected.name }

/-- `execute_with_routing`, step by step. -/
theorem executeWithRouting_apply (e : RoutingEngine) (w : World) (request : ChatRequest) (policy : RoutingPolicy)
    (calls : List ProviderCall) :
    e.executeWithRouting w request (some policy) calls =
      match e.selectModel request (some policy) with
      | none => (.error .noSuitableModel, calls)
      | some s =>
        match e.providerRegistry.getProvider s.provider with
        | none => (.error (.providerNotFound s.provider), calls)
        | some a =>
          match w calls a (routedRequest request s) with
          | .ok r => (.ok r, calls ++ [⟨a, routedRequest request s⟩])
          | .error err =>
            if policy.allowEscalation then
              e.escalateRequest w (routedRequest request s) s policy err (calls ++ [⟨a, routedRequest request s⟩])
            else (.error err, calls ++ [⟨a, routedRequest request s⟩]) := by
  unfold executeWithRouting
  simp only [Option.getD_some]
  rcases e.selectModel request (some policy) with _ | s
  · rfl
  · dsimp only
    rcases e.providerRegistry.getProvider s.provider with _ | a
    · rfl
    · simp only [Run.tryCatch_apply, chatCompletion_apply, routedRequest]
      rcases w calls a _ with err | r
      · dsimp only
        split <;> rfl
      · rfl

/-- The candidates of `select_model` are models of the catalog, in its order. -/
theorem candidates_sublist (e : RoutingEngine) (request : ChatRequest) (policy : RoutingPolicy) :
    List.Sublist (candidates e request policy) e.modelRegistry.listModels := by
  refine (costFilter_sublist _ _).trans ?_
  unfold contextFilter
  split
  · exact List.filter_sublist _
  · exact List.Sublist.refl _

/-- On a catalog of non-negative contexts, every candidate of `select_model` has the context the request needs. -/
theorem requiredContext_le_of_mem_candidates {e : RoutingEngine} {request : ChatRequest} {policy : RoutingPolicy}
    {s : ModelMetadata} (hctx : ∀ m ∈ e.modelRegistry.listModels, 0 ≤ m.contextSize)
    (h : s ∈ candidates e request policy) : requiredContext policy request ≤ s.contextSize := by
  have h' := (costFilter_sublist _ _).subset h
  rw [contextFilter_eq _ _ _ hctx, List.mem_filter, decide_eq_true_eq, estimateContextSize_eq] at h'
  exact h'.2

/-- The request `execute_with_routing` sends: under the selected model's name, or as it is when it names a model. -/
theorem routedRequest_cases (request : ChatRequest) (s : ModelMetadata) :
    routedRequest request s = { request with model := some s.name } ∨
      textTruthy request.model = true ∧ routedRequest request s = request := by
  unfold routedRequest
  split
  · exact .inr ⟨by assumption, rfl⟩
  · exact .inl rfl

/-- The request with its model set is the same whether `execute_with_routing` set it before or not. -/
@[simp] theorem routedRequest_with_model (request : ChatRequest) (s : ModelMetadata) (model : Option String) :
    { routedRequest request s with model := model } = { request with model := model } := by
  unfold routedRequest
  split <;> rfl

/-- The model `select_model` returns is one of its candidates. -/
theorem selectModel_mem {e : RoutingEngine} {request : ChatRequest} {policy : RoutingPolicy} {s : ModelMetadata}
    (h : e.selectModel request (some policy) = some s) : s ∈ candidates e request policy := by
  rw [selectModel_eq] at h
  split at h <;> exact (mem_pySort _ _ _ _).mp (List.mem_of_mem_head? h)

theorem mem_escalationCandidates (f m : ModelMetadata) (l : List ModelMetadata) :
    m ∈ escalationCandidates f l ↔ m ∈ l ∧ (f.weight < m.weight ∨ f.contextSize < m.contextSize) ∧ m.name ≠ f.name := by
  simp [escalationCandidates]

/-- The escalation target is a candidate: of another name, heavier or of larger context. -/
theorem escalationTarget_mem {e : RoutingEngine} {f : ModelMetadata} {policy : RoutingPolicy} {t : ModelMetadata}
    (h : e.escalationTarget f policy = some t) : t ∈ escalationCandidates f e.modelRegistry.listModels :=
  (costFilter_sublist _ _).subset ((mem_pySort _ _ _ _).mp (List.mem_of_mem_head? h))

/-- The escalation set is the candidates of `_escalate_request` within the ceiling. -/
theorem escalationSet_eq (l : List ModelMetadata) (f : ModelMetadata) (policy : RoutingPolicy) :
    escalationSet l f policy = (escalationCandidates f l).filter (withinCeiling policy) := by
  rw [escalationCandidates, List.filter_filter, escalationSet]
  congr 1
  funext m
  simp only [bne, decide_not, Bool.and_comm, Bool.and_assoc, Bool.beq_eq_decide_eq]

/-- Under a ceiling other than `0.0`, the escalation target is the first heaviest of the escalation set. -/
theorem escalationTarget_eq (e : RoutingEngine) (f : ModelMetadata) (policy : RoutingPolicy)
    (hceil : policy.maxCostPer1kTokens ≠ some 0) :
    e.escalationTarget f policy = firstHeaviest (escalationSet e.modelRegistry.listModels f policy) := by
  rw [escalationTarget, costFilter_eq _ _ hceil, ← escalationSet_eq, head?_pySort_reverse, firstHeaviest]

theorem firstHeaviest_mem {l : List ModelMetadata} {t : ModelMetadata} (h : firstHeaviest l = some t) : t ∈ l :=
  (List.mem_filter.mp (List.mem_of_mem_head? h)).1

/-- The first heaviest of a list is none only for the empty list. -/
theorem firstHeaviest_eq_none (l : List ModelMetadata) : firstHeaviest l = none ↔ l = [] := by
  rw [firstHeaviest, ← head?_pySort_reverse, List.head?_eq_none_iff, pySort_eq_nil]

/-- The calls `_escalate_request` adds: none, or one. -/
theorem escalateRequest_calls (e : RoutingEngine) (w : World) (request : ChatRequest) (f : ModelMetadata)
    (policy : RoutingPolicy) (err : HubError) (calls : List ProviderCall) :
    (e.escalateRequest w request f policy err calls).2 = calls ∨
      ∃ t a, e.escalationTarget f policy = some t ∧ e.providerRegistry.getProvider t.provider = some a ∧
        (e.escalateRequest w request f policy err calls).2 = calls ++ [⟨a, { request with model := some t.name }⟩] := by
  rw [escalateRequest_apply]
  rcases ht : e.escalationTarget f policy with _ | t
  · exact .inl rfl
  · dsimp only
    rcases ha : e.providerRegistry.getProvider t.provider with _ | a
    · exact .inl rfl
    · exact .inr ⟨t, a, rfl, ha, rfl⟩

end RoutingAux

end TokenHub
