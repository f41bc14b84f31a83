import TokenHub.Theorems.Escalation
import TokenHub.Theorems.Adversarial

/-!
# The service's provider calls

The orchestrator over the routing engine of `routing.py`, whatever the backends answer: an orchestrated request, in either
mode, makes at most two provider calls per routed call, and every one of them goes to the adapter, in the directory, of a
catalog model's provider (`execute_calls_catalog_adapters`).

The proof is a step lemma and a run lemma. One routed call appends at most two calls, each to such an adapter
(`router_appendsCalls`); a run of the protocol is a sequence of routed calls, so it appends at most two per call, each to
such an adapter (`runProtocol_appendsCalls`), whether it ends in a raise or not.
-/

namespace TokenHub

open RoutingEngine RoutingAux EscalationAux AdversarialAux OrchestrationEngine

namespace SystemAux

/-- A router over the trace of provider calls whose every call appends at most `b` calls, each satisfying `ok`. -/
def AppendsCalls (route : Router (List ProviderCall)) (b : Nat) (ok : ProviderCall → Prop) : Prop :=
  ∀ request policy calls, ∃ added, (route request policy calls).2 = calls ++ added ∧ added.length ≤ b ∧ ∀ c ∈ added, ok c

/-- A call to the adapter of a catalog model's provider. -/
def ToCatalogAdapter (e : RoutingEngine) (c : ProviderCall) : Prop :=
  ∃ m ∈ e.modelRegistry.listModels, e.providerRegistry.getProvider m.provider = some c.adapter

/-- `execute_with_routing` with no policy runs under the default one. -/
theorem executeWithRouting_getD (e : RoutingEngine) (w : World) (request : ChatRequest) (policy : Option RoutingPolicy) :
    e.executeWithRouting w request policy = e.executeWithRouting w request (some (policy.getD e.defaultPolicy)) := by
  cases policy <;> rfl

/-- The step: a routed call appends at most two calls, each to the adapter of a catalog model's provider. -/
theorem router_appendsCalls (e : RoutingEngine) (w : World) : AppendsCalls (e.router w) 2 (ToCatalogAdapter e) := by
  intro request policy calls
  rw [RoutingEngine.router, executeWithRouting_getD]
  rcases executeWithRouting_calls_cases e w request (policy.getD e.defaultPolicy) calls with
    h | ⟨s, c, added, ⟨hs, ha, -⟩, h, hlen, hadded⟩
  · exact ⟨[], by simpa using h, by simp, by simp⟩
  refine ⟨c :: added, h, by simp; omega, ?_⟩
  intro d hd
  rcases List.mem_cons.mp hd with rfl | hd
  · exact ⟨s, (candidates_sublist e request _).subset (selectModel_mem hs), ha⟩
  · obtain ⟨t, ht, hta, -⟩ := hadded d hd
    exact ⟨t, ht, hta⟩

/-- The run: a protocol of `n` routed calls appends at most `b` calls per routed call, each satisfying `ok`. -/
theorem runProtocol_appendsCalls {route : Router (List ProviderCall)} {b : Nat} {ok : ProviderCall → Prop}
    (hroute : AppendsCalls route b ok) (policy : Option RoutingPolicy) (next : List ChatResponse → ChatRequest) (n : Nat) :
    ∀ responses calls, ∃ added, (runProtocol route policy next n responses calls).2 = calls ++ added ∧
      added.length ≤ b * n ∧ ∀ c ∈ added, ok c := by
  induction n with
  | zero => exact fun _ calls => ⟨[], by simp [runProtocol], by simp, by simp⟩
  | succ n ih =>
    intro responses calls
    obtain ⟨added, h, hlen, hok⟩ := hroute (next responses) policy calls
    simp only [runProtocol, Run.bind_apply]
    rcases hr : route (next responses) policy calls with ⟨_ | r, s⟩ <;> rw [hr] at h <;> dsimp only at h ⊢
    · exact ⟨added, h, by rw [Nat.mul_succ]; omega, hok⟩
    · obtain ⟨added', h', hlen', hok'⟩ := ih (responses ++ [r]) s
      refine ⟨added ++ added', ?_, by rw [List.length_append, Nat.mul_succ]; omega, ?_⟩
      · rw [← List.append_assoc, ← h, ← h']
        rcases runProtocol route policy next n (responses ++ [r]) s with ⟨_ | _, _⟩ <;> rfl
      · intro c hc
        rcases List.mem_append.mp hc with hc | hc
        · exact hok c hc
        · exact hok' c hc

/-- The orchestrator over the routing engine appends at most two calls per routed call, each to a catalog adapter. -/
theorem execute_appendsCalls (e : RoutingEngine) (w : World) (defaultConfig : Option OrchestrationConfig)
    (request : ChatRequest) (config : Option OrchestrationConfig) (policy : Option RoutingPolicy)
    (calls : List ProviderCall) :
    ∃ added, ((OrchestrationEngine.init (e.router w) defaultConfig).execute request config policy calls).2 =
        calls ++ added ∧
      added.length ≤ 2 * routedCallCount (config.getD (defaultConfig.getD {})) ∧ ∀ c ∈ added, ToCatalogAdapter e c := by
  have hroute := router_appendsCalls e w
  unfold execute
  dsimp only [OrchestrationEngine.init]
  cases hmode : (config.getD (defaultConfig.getD {})).mode
  · obtain ⟨added, h, hlen, hok⟩ := hroute request policy calls
    refine ⟨added, ?_, by simpa [routedCallCount, hmode] using hlen, hok⟩
    rw [executeSimple, Run.bind_pure_snd]
    exact h
  · obtain ⟨added, h, hlen, hok⟩ := runProtocol_appendsCalls hroute policy
      (adversarialCall request (config.getD (defaultConfig.getD {})))
      (refinementCount (config.getD (defaultConfig.getD {})) + 2) [] calls
    refine ⟨added, ?_, by simpa [routedCallCount, hmode] using hlen, hok⟩
    rw [executeAdversarial_eq]
    exact (Run.bind_pure_snd _ _ _).trans h

end SystemAux

open SystemAux

/-- Under the routing engine of `routing.py`, whatever the backends answer, an orchestrated request in either mode makes
at most two provider calls per routed call, and each goes to the adapter, in the directory, of a catalog model's
provider. -/
theorem execute_calls_catalog_adapters (e : RoutingEngine) (w : World) (defaultConfig : Option OrchestrationConfig)
    (request : ChatRequest) (config : Option OrchestrationConfig) (policy : Option RoutingPolicy)
    (calls : List ProviderCall) :
    ∃ added, ((OrchestrationEngine.init (e.router w) defaultConfig).execute request config policy calls).2 =
        calls ++ added ∧
      added.length ≤ 2 * routedCallCount (config.getD (defaultConfig.getD {})) ∧
      ∀ c ∈ added, ∃ m ∈ e.modelRegistry.listModels, e.providerRegistry.getProvider m.provider = some c.adapter :=
  execute_appendsCalls e w defaultConfig request config policy calls

end TokenHub
