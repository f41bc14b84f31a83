import TokenHub.Lemmas.Routing
import TokenHub.RoutingSpec

/-!
# The calls `execute_with_routing` makes

A routed request makes at most two calls: one to the adapter of the model `select_model` chose (`FirstCall`), and, only
when that raises and the policy allows it, one to the adapter of that model's escalation target
(`executeWithRouting_calls`). Each goes out under the name of the model it was sent for, except the first call of a
request that already names a model, which goes out as it is. The adapter is looked up from the chosen model, not from the
name the request carries: a request pinned to one model is sent to the adapter of another
(`executeWithRouting_pinned_model`).

The first call goes to a model with the context the request needs (`executeWithRouting_first_call_fits`). The escalation
does not filter by context, so it can go to a model of less (`executeWithRouting_escalates_below_minimum`).

Under a ceiling other than `0.0`, `_escalate_request` escalates to the first heaviest model of `escalationSet`, and raises
the `ValueError` of no escalation path exactly when that set is empty (`escalateRequest_spec`). Under `0.0` the truth test
on the ceiling skips the cost filter, as in `select_model`, and the escalation goes to the first heaviest model with no
ceiling at all (`escalationTarget_zero_ceiling`). Whatever the ceiling, it escalates only to a model of another name that
is heavier or of larger context (`escalateRequest_added_call`). A target whose provider is not in the directory raises
`ValueError` and is not called (`escalateRequest_missing_provider`).
-/

namespace TokenHub

open RoutingEngine RoutingAux

/-- The first call of a routed request: to the adapter of the model `select_model` chose, whatever model the request names,
and under the chosen model's name unless the request names a model already (`routedRequest`). -/
def FirstCall (e : RoutingEngine) (request : ChatRequest) (policy : RoutingPolicy) (s : ModelMetadata)
    (c : ProviderCall) : Prop :=
  e.selectModel request (some policy) = some s ∧ e.providerRegistry.getProvider s.provider = some c.adapter ∧
    c.request = routedRequest request s

namespace EscalationAux

/-- Every call `_escalate_request` adds is to the adapter of a catalog model of another name, heavier or of larger
context than the failed one, under that model's name. -/
theorem escalateRequest_calls_spec (e : RoutingEngine) (w : World) (request : ChatRequest) (f : ModelMetadata)
    (policy : RoutingPolicy) (err : HubError) (calls : List ProviderCall) :
    ∃ added, (e.escalateRequest w request f policy err calls).2 = calls ++ added ∧ added.length ≤ 1 ∧
      ∀ c ∈ added, ∃ t ∈ e.modelRegistry.listModels, e.providerRegistry.getProvider t.provider = some c.adapter ∧
        c.request = { request with model := some t.name } ∧ t.name ≠ f.name ∧
        (f.weight < t.weight ∨ f.contextSize < t.contextSize) := by
  rcases escalateRequest_calls e w request f policy err calls with h | ⟨t, a, ht, ha, h⟩
  · exact ⟨[], by simpa using h, by simp, by simp⟩
  · refine ⟨[⟨a, { request with model := some t.name }⟩], h, by simp, ?_⟩
    obtain ⟨hmem, hgt, hne⟩ := (mem_escalationCandidates f t _).mp (escalationTarget_mem ht)
    simp only [List.mem_singleton, forall_eq]
    exact ⟨t, hmem, ha, rfl, hne, hgt⟩

/-- `execute_with_routing`, by what it does: it raises before calling; or it makes the first call and stops; or the first
call raised, the policy allows escalation, and `_escalate_request` goes on from the failed call. -/
theorem executeWithRouting_inv (e : RoutingEngine) (w : World) (request : ChatRequest) (policy : RoutingPolicy)
    (calls : List ProviderCall) :
    (e.executeWithRouting w request (some policy) calls).2 = calls ∨
      ∃ s c, FirstCall e request policy s c ∧
        ((e.executeWithRouting w request (some policy) calls).2 = calls ++ [c] ∨
          ∃ err, w calls c.adapter c.request = .error err ∧ policy.allowEscalation = true ∧
            (e.executeWithRouting w request (some policy) calls).2 =
              (e.escalateRequest w c.request s policy err (calls ++ [c])).2) := by
  rw [executeWithRouting_apply]
  rcases hs : e.selectModel request (some policy) with _ | s
  · exact .inl rfl
  dsimp only
  rcases ha : e.providerRegistry.getProvider s.provider with _ | a
  · exact .inl rfl
  dsimp only
  refine .inr ⟨s, ⟨a, routedRequest request s⟩, ⟨hs, ha, rfl⟩, ?_⟩
  rcases w calls a (routedRequest request s) with err | r
  · dsimp only
    split
    · exact .inr ⟨err, rfl, ‹_›, rfl⟩
    · exact .inl rfl
  · exact .inl rfl

/-- `execute_with_routing`, by the calls it adds: none when it raises before calling; otherwise a first call, and at most
one escalation call after it. -/
theorem executeWithRouting_calls_cases (e : RoutingEngine) (w : World) (request : ChatRequest) (policy : RoutingPolicy)
    (calls : List ProviderCall) :
    (e.executeWithRouting w request (some policy) calls).2 = calls ∨
      ∃ s c added, FirstCall e request policy s c ∧
        (e.executeWithRouting w request (some policy) calls).2 = calls ++ c :: added ∧ added.length ≤ 1 ∧
        ∀ d ∈ added, ∃ t ∈ e.modelRegistry.listModels, e.providerRegistry.getProvider t.provider = some d.adapter ∧
          d.request = { request with model := some t.name } := by
  rcases executeWithRouting_inv e w request policy calls with h | ⟨s, c, hfirst, h | ⟨err, -, -, h⟩⟩
  · exact .inl h
  · exact .inr ⟨s, c, [], hfirst, h, by simp, by simp⟩
  obtain ⟨added, h', hlen, hadded⟩ := escalateRequest_calls_spec e w c.request s policy err (calls ++ [c])
  refine .inr ⟨s, c, added, hfirst, by simp [h, h'], hlen, fun d hd => ?_⟩
  obtain ⟨t, ht, hta, hreq, -⟩ := hadded d hd
  exact ⟨t, ht, hta, by rw [hreq, hfirst.2.2, routedRequest_with_model]⟩

end EscalationAux

open EscalationAux

/-! ## Where the calls go -/

/-- A routed request makes at most two calls. The first goes to the adapter of the model `select_model` chose, a model of
the catalog, whatever model the request names, and under the chosen model's name unless the request names one already
(`FirstCall`). A second call comes only when the first raised and the policy allows escalation: it goes to the adapter of
the escalation target of the chosen model, a model of the catalog, under the target's name. -/
theorem executeWithRouting_calls (e : RoutingEngine) (w : World) (request : ChatRequest) (policy : RoutingPolicy)
    (calls : List ProviderCall) :
    (e.executeWithRouting w request (some policy) calls).2 = calls ∨
      ∃ s c, s ∈ e.modelRegistry.listModels ∧ FirstCall e request policy s c ∧
        ((e.executeWithRouting w request (some policy) calls).2 = calls ++ [c] ∨
          ∃ err t d, w calls c.adapter c.request = .error err ∧ policy.allowEscalation = true ∧
            e.escalationTarget s policy = some t ∧ t ∈ e.modelRegistry.listModels ∧
            e.providerRegistry.getProvider t.provider = some d.adapter ∧
            d.request = { request with model := some t.name } ∧
            (e.executeWithRouting w request (some policy) calls).2 = calls ++ [c, d]) := by
  rcases executeWithRouting_inv e w request policy calls with h | ⟨s, ⟨a, _⟩, ⟨hs, ha, rfl⟩, hrest⟩
  · exact .inl h
  have hmem : s ∈ e.modelRegistry.listModels := (candidates_sublist e request policy).subset (selectModel_mem hs)
  refine .inr ⟨s, _, hmem, ⟨hs, ha, rfl⟩, ?_⟩
  rcases hrest with h | ⟨err, herr, hesc, h⟩
  · exact .inl h
  rcases escalateRequest_calls e w (routedRequest request s) s policy err _ with h' | ⟨t, d, ht, hd, h'⟩
  · exact .inl (h.trans h')
  have ht' := ((mem_escalationCandidates s t _).mp (escalationTarget_mem ht)).1
  exact .inr ⟨err, t, ⟨d, { request with model := some t.name }⟩, herr, hesc, ht, ht', hd, rfl, by simp [h, h']⟩

/-- An engine over a catalog registered in the order given and a directory of adapters by provider name, under the
default policy. -/
def fixtureEngine (catalog : List ModelMetadata) (directory : List (String × ProviderAdapter)) : RoutingEngine :=
  RoutingEngine.init (catalog.foldl ModelRegistry.registerModel ⟨PyDict.empty⟩)
    ⟨none, directory.foldl (fun d p => d.set p.1 p.2) PyDict.empty, PyDict.empty⟩ none

/-- A request pinned to `b`, whose provider is `p2`, is sent to `p1`'s adapter, the provider of the heavier `a` that
`select_model` chose. -/
theorem executeWithRouting_pinned_model :
    (fixtureEngine [⟨"a", "p1", 0, 4096, 100⟩, ⟨"b", "p2", 0, 4096, 50⟩]
        [("p1", ⟨"mock", "k1", []⟩), ("p2", ⟨"mock", "k2", []⟩)]).modelRegistry.getModel "b" =
      some ⟨"b", "p2", 0, 4096, 50⟩ ∧
    (fixtureEngine [⟨"a", "p1", 0, 4096, 100⟩, ⟨"b", "p2", 0, 4096, 50⟩]
        [("p1", ⟨"mock", "k1", []⟩), ("p2", ⟨"mock", "k2", []⟩)]).providerRegistry.getProvider "p2" =
      some ⟨"mock", "k2", []⟩ ∧
    ((fixtureEngine [⟨"a", "p1", 0, 4096, 100⟩, ⟨"b", "p2", 0, 4096, 50⟩]
        [("p1", ⟨"mock", "k1", []⟩), ("p2", ⟨"mock", "k2", []⟩)]).executeWithRouting mockWorld
        { messages := [⟨"user", "Hello"⟩], model := some "b" } (some {}) []).2 =
      [⟨⟨"mock", "k1", []⟩, { messages := [⟨"user", "Hello"⟩], model := some "b" }⟩] :=
  ⟨rfl, rfl, rfl⟩

/-! ## Context -/

/-- On a catalog of non-negative contexts, the first call of a routed request goes to the adapter of the model
`select_model` chose, which has the context the request needs, under that model's name unless the request names one. -/
theorem executeWithRouting_first_call_fits (e : RoutingEngine) (w : World) (request : ChatRequest)
    (policy : RoutingPolicy) (calls : List ProviderCall) (hctx : ∀ m ∈ e.modelRegistry.listModels, 0 ≤ m.contextSize)
    (c : ProviderCall) (rest : List ProviderCall)
    (hrun : (e.executeWithRouting w request (some policy) calls).2 = calls ++ c :: rest) :
    ∃ s ∈ e.modelRegistry.listModels, e.selectModel request (some policy) = some s ∧
      e.providerRegistry.getProvider s.provider = some c.adapter ∧ requiredContext policy request ≤ s.contextSize ∧
      (c.request = { request with model := some s.name } ∨ textTruthy request.model = true ∧ c.request = request) := by
  rcases executeWithRouting_calls_cases e w request policy calls with h | ⟨s, c', added, ⟨hs, ha, hreq⟩, h, -⟩
  · rw [h] at hrun
    simp at hrun
  rw [h, List.append_cancel_left_eq, List.cons.injEq] at hrun
  obtain ⟨rfl, -⟩ := hrun
  have hcand := selectModel_mem hs
  refine ⟨s, (candidates_sublist e request policy).subset hcand, hs, ha,
    requiredContext_le_of_mem_candidates hctx hcand, hreq ▸ routedRequest_cases request s⟩

/-- A backend that raises on the first call and answers every later one. -/
def failFirstWorld : World := fun calls _ request =>
  if calls.isEmpty then .error (.external "rate limited") else .ok ⟨"ok", request.model.getD "", 1, "stop"⟩

/-- Two models of one catalog: `b` of context 8192 and weight 50, `a` of context 4096 and weight 100. -/
def contextEngine : RoutingEngine :=
  fixtureEngine [⟨"a", "pa", 0, 4096, 100⟩, ⟨"b", "pb", 0, 8192, 50⟩]
    [("pa", ⟨"mock", "ka", []⟩), ("pb", ⟨"mock", "kb", []⟩)]

/-- The first call of a request of one short message under a minimum of 8000 goes to `b`. -/
theorem executeWithRouting_first_call_fits_contextEngine :
    (∀ m ∈ contextEngine.modelRegistry.listModels, 0 ≤ m.contextSize) ∧
    (contextEngine.executeWithRouting mockWorld { messages := [⟨"user", "Hello"⟩] } (some { minContextSize := some 8000 })
        []).2 = [] ++ ⟨⟨"mock", "kb", []⟩, { messages := [⟨"user", "Hello"⟩], model := some "b" }⟩ :: [] ∧
    ∃ s ∈ contextEngine.modelRegistry.listModels,
      contextEngine.selectModel { messages := [⟨"user", "Hello"⟩] } (some { minContextSize := some 8000 }) = some s ∧
      contextEngine.providerRegistry.getProvider s.provider = some ⟨"mock", "kb", []⟩ ∧
      requiredContext { minContextSize := some 8000 } { messages := [⟨"user", "Hello"⟩] } ≤ s.contextSize ∧
      ({ messages := [⟨"user", "Hello"⟩], model := some "b" } = { ({ messages := [⟨"user", "Hello"⟩] } : ChatRequest) with
          model := some s.name } ∨
        textTruthy none = true ∧ ({ messages := [⟨"user", "Hello"⟩], model := some "b" } : ChatRequest) =
          { messages := [⟨"user", "Hello"⟩] }) :=
  ⟨by decide, rfl,
    executeWithRouting_first_call_fits contextEngine mockWorld { messages := [⟨"user", "Hello"⟩] }
      { minContextSize := some 8000 } [] (by decide) _ [] rfl⟩

/-- Under a minimum of 8000 the request goes to `b`; when that call raises, the escalation goes to the heavier `a`, of
context 4096. -/
theorem executeWithRouting_escalates_below_minimum :
    (contextEngine.executeWithRouting failFirstWorld { messages := [⟨"user", "Hello"⟩] }
        (some { minContextSize := some 8000 }) []).2 =
      [⟨⟨"mock", "kb", []⟩, { messages := [⟨"user", "Hello"⟩], model := some "b" }⟩,
        ⟨⟨"mock", "ka", []⟩, { messages := [⟨"user", "Hello"⟩], model := some "a" }⟩] ∧
    contextEngine.modelRegistry.getModel "a" = some ⟨"a", "pa", 0, 4096, 100⟩ ∧
    requiredContext { minContextSize := some 8000 } { messages := [⟨"user", "Hello"⟩] } = 8000 :=
  ⟨rfl, rfl, rfl⟩

/-! ## The escalation -/

/-- Under a ceiling other than `0.0`, `_escalate_request` escalates to the first heaviest model of `escalationSet`: it
raises the `ValueError` of no escalation path exactly when that set is empty, and otherwise calls the target's adapter once under the
target's name, if the target's provider is in the directory, and raises `ValueError` without a call if it is not. The
target is a catalog model of another name than the failed one, heavier or of larger context, within the ceiling. -/
theorem escalateRequest_spec (e : RoutingEngine) (w : World) (request : ChatRequest) (f : ModelMetadata)
    (policy : RoutingPolicy) (err : HubError) (calls : List ProviderCall)
    (hceil : policy.maxCostPer1kTokens ≠ some 0) :
    (firstHeaviest (escalationSet e.modelRegistry.listModels f policy) = none ↔
        escalationSet e.modelRegistry.listModels f policy = []) ∧
    e.escalateRequest w request f policy err calls =
      (match firstHeaviest (escalationSet e.modelRegistry.listModels f policy) with
      | none => (.error (.noEscalationPath err), calls)
      | some t =>
        match e.providerRegistry.getProvider t.provider with
        | none => (.error (.providerNotFound t.provider), calls)
        | some a => (w calls a { request with model := some t.name },
            calls ++ [⟨a, { request with model := some t.name }⟩])) ∧
    ∀ t, firstHeaviest (escalationSet e.modelRegistry.listModels f policy) = some t →
      t ∈ e.modelRegistry.listModels ∧ t.name ≠ f.name ∧ (f.weight < t.weight ∨ f.contextSize < t.contextSize) ∧
        withinCeiling policy t = true := by
  refine ⟨firstHeaviest_eq_none _, ?_, ?_⟩
  · rewrite [escalateRequest_apply, escalationTarget_eq e f policy hceil]
    rfl
  intro t ht
  have h := firstHeaviest_mem ht
  simp only [escalationSet, List.mem_filter, Bool.and_eq_true, Bool.or_eq_true, decide_eq_true_eq] at h
  exact ⟨h.1, h.2.1.1, h.2.1.2, h.2.2⟩

/-- Under no ceiling, `mock-gpt-3.5` escalates to `mock-gpt-4`. -/
theorem escalateRequest_spec_default :
    ({} : RoutingPolicy).maxCostPer1kTokens ≠ some 0 ∧
    ((firstHeaviest (escalationSet ModelRegistry.init.listModels ⟨"mock-gpt-3.5", "mock", 0.002, 4096, 50⟩ {}) = none ↔
        escalationSet ModelRegistry.init.listModels ⟨"mock-gpt-3.5", "mock", 0.002, 4096, 50⟩ {} = []) ∧
    (RoutingEngine.init ModelRegistry.init (ProviderRegistry.init none) none).escalateRequest mockWorld
        { messages := [] } ⟨"mock-gpt-3.5", "mock", 0.002, 4096, 50⟩ {} .noSuitableModel [] =
      (match firstHeaviest (escalationSet ModelRegistry.init.listModels ⟨"mock-gpt-3.5", "mock", 0.002, 4096, 50⟩ {}) with
      | none => (.error (.noEscalationPath .noSuitableModel), [])
      | some t =>
        match (RoutingEngine.init ModelRegistry.init (ProviderRegistry.init none) none).providerRegistry.getProvider
            t.provider with
        | none => (.error (.providerNotFound t.provider), [])
        | some a => (mockWorld [] a { ({ messages := [] } : ChatRequest) with model := some t.name },
            [] ++ [⟨a, { ({ messages := [] } : ChatRequest) with model := some t.name }⟩])) ∧
    ∀ t, firstHeaviest (escalationSet ModelRegistry.init.listModels ⟨"mock-gpt-3.5", "mock", 0.002, 4096, 50⟩ {}) = some t →
      t ∈ ModelRegistry.init.listModels ∧
      t.name ≠ "mock-gpt-3.5" ∧ ((50 : Int) < t.weight ∨ (4096 : Int) < t.contextSize) ∧
        withinCeiling {} t = true) :=
  ⟨by decide,
    escalateRequest_spec (RoutingEngine.init ModelRegistry.init (ProviderRegistry.init none) none) mockWorld
      { messages := [] } ⟨"mock-gpt-3.5", "mock", 0.002, 4096, 50⟩ {} .noSuitableModel [] (by decide)⟩

/-- Under a ceiling of `0.0`, the truth test on the ceiling skips the cost filter: `_escalate_request` escalates to the
first heaviest model of the escalation set with no ceiling, whatever its cost. -/
theorem escalationTarget_zero_ceiling (e : RoutingEngine) (f : ModelMetadata) (policy : RoutingPolicy)
    (hzero : policy.maxCostPer1kTokens = some 0) :
    e.escalationTarget f policy =
      firstHeaviest (escalationSet e.modelRegistry.listModels f { policy with maxCostPer1kTokens := none }) := by
  have hall : escalationSet e.modelRegistry.listModels f { policy with maxCostPer1kTokens := none } =
      escalationCandidates f e.modelRegistry.listModels := by
    rw [escalationSet_eq, List.filter_eq_self]
    exact fun _ _ => rfl
  rw [escalationTarget, costFilter_zero _ _ hzero, hall, head?_pySort_reverse, firstHeaviest]

/-- `mock-gpt-3.5` fails under a ceiling of `0.0`: the escalation goes to `mock-gpt-4`, of cost `0.03`. -/
theorem escalationTarget_zero_ceiling_default :
    ({ maxCostPer1kTokens := some 0 } : RoutingPolicy).maxCostPer1kTokens = some 0 ∧
    (RoutingEngine.init ModelRegistry.init (ProviderRegistry.init none) none).escalationTarget
        ⟨"mock-gpt-3.5", "mock", 0.002, 4096, 50⟩ { maxCostPer1kTokens := some 0 } =
      firstHeaviest (escalationSet ModelRegistry.init.listModels ⟨"mock-gpt-3.5", "mock", 0.002, 4096, 50⟩
        { ({ maxCostPer1kTokens := some 0 } : RoutingPolicy) with maxCostPer1kTokens := none }) ∧
    (RoutingEngine.init ModelRegistry.init (ProviderRegistry.init none) none).escalationTarget
        ⟨"mock-gpt-3.5", "mock", 0.002, 4096, 50⟩ { maxCostPer1kTokens := some 0 } =
      some ⟨"mock-gpt-4", "mock", 0.03, 8192, 100⟩ :=
  ⟨rfl, escalationTarget_zero_ceiling _ _ _ rfl, rfl⟩

/-- Whatever the ceiling, `_escalate_request` makes at most one call, to the adapter of a catalog model of another name,
heavier or of larger context than the failed one, under that model's name. -/
theorem escalateRequest_added_call (e : RoutingEngine) (w : World) (request : ChatRequest) (f : ModelMetadata)
    (policy : RoutingPolicy) (err : HubError) (calls : List ProviderCall) :
    ∃ added, (e.escalateRequest w request f policy err calls).2 = calls ++ added ∧ added.length ≤ 1 ∧
      ∀ c ∈ added, ∃ t ∈ e.modelRegistry.listModels, e.providerRegistry.getProvider t.provider = some c.adapter ∧
        c.request = { request with model := some t.name } ∧ t.name ≠ f.name ∧
        (f.weight < t.weight ∨ f.contextSize < t.contextSize) :=
  escalateRequest_calls_spec e w request f policy err calls

/-- `a` fails; the one model it can escalate to is `b`, whose provider `pb` is not in the directory: the escalation raises
`ValueError` and makes no call. -/
theorem escalateRequest_missing_provider :
    escalationSet
        (fixtureEngine [⟨"a", "pa", 0, 4096, 50⟩, ⟨"b", "pb", 0, 4096, 100⟩] [("pa", ⟨"mock", "ka", []⟩)]).modelRegistry.listModels
        ⟨"a", "pa", 0, 4096, 50⟩ {} = [⟨"b", "pb", 0, 4096, 100⟩] ∧
    (fixtureEngine [⟨"a", "pa", 0, 4096, 50⟩, ⟨"b", "pb", 0, 4096, 100⟩] [("pa", ⟨"mock", "ka", []⟩)]).escalateRequest
        mockWorld { messages := [⟨"user", "Hello"⟩] } ⟨"a", "pa", 0, 4096, 50⟩ {} (.external "timeout") [] =
      (.error (.providerNotFound "pb"), []) :=
  ⟨by decide, rfl⟩

end TokenHub
