import TokenHub.Theorems.Registries

/-!
# What a chat answers

The service makes no answer up: a chat answered 200 replies with the response a backend gave to one of the calls made
while serving it (`chat_reply_from_backend`). The routing engine returns only what an adapter answered, to the first call or
to the escalation (`router_answered`); a run of the protocol returns only responses its routed calls returned, while the
record of calls only grows (`runProtocol_answered`); and the orchestrator's final response is one of those, in either mode
(`execute_answered`).
-/

namespace TokenHub

open RoutingEngine RoutingAux SystemAux AdversarialAux OrchestrationEngine TokenHubAPI

namespace RepliesAux

variable (w : World)

/-- `r` is what the backends answered to one of the calls recorded in `calls'` after `calls`. -/
def Answered (calls : List ProviderCall) (r : ChatResponse) (calls' : List ProviderCall) : Prop :=
  ∃ pre c post, calls' = pre ++ c :: post ∧ calls <+: pre ∧ w pre c.adapter c.request = .ok r

theorem Answered.append {calls calls' : List ProviderCall} {r : ChatResponse} (h : Answered w calls r calls')
    (more : List ProviderCall) : Answered w calls r (calls' ++ more) := by
  obtain ⟨pre, c, post, rfl, hp, hw⟩ := h
  exact ⟨pre, c, post ++ more, by simp, hp, hw⟩

theorem Answered.of_earlier {calls calls₁ calls' : List ProviderCall} {r : ChatResponse}
    (h : Answered w calls₁ r calls') (hp : calls <+: calls₁) : Answered w calls r calls' := by
  obtain ⟨pre, c, post, h', hp', hw⟩ := h
  exact ⟨pre, c, post, h', hp.trans hp', hw⟩

/-- The step: a routed call that returns returns what an adapter answered, to the first call or to the escalation. -/
theorem router_answered (e : RoutingEngine) (request : ChatRequest) (policy : Option RoutingPolicy)
    {calls calls' : List ProviderCall} {r : ChatResponse} (h : e.router w request policy calls = (.ok r, calls')) :
    Answered w calls r calls' := by
  rw [RoutingEngine.router, executeWithRouting_getD, executeWithRouting_apply] at h
  split at h
  · cases h
  split at h
  · cases h
  rename_i m _ a _
  split at h
  · rename_i r₁ hw
    cases h
    exact ⟨calls, _, [], rfl, List.prefix_refl _, hw⟩
  · split at h
    · rw [escalateRequest_apply] at h
      split at h
      · cases h
      split at h
      · cases h
      obtain ⟨hw, rfl⟩ := Prod.mk.inj h
      exact ⟨_, _, [], rfl, List.prefix_append _ _, hw⟩
    · cases h

/-- The run: a protocol over a router that only appends calls and returns only what adapters answered returns only
responses the backends gave to calls it made. -/
theorem runProtocol_answered {route : Router (List ProviderCall)} {b : Nat} {ok : ProviderCall → Prop}
    (happ : AppendsCalls route b ok)
    (hroute : ∀ request policy {calls calls'} {r}, route request policy calls = (.ok r, calls') → Answered w calls r calls')
    (policy : Option RoutingPolicy) (next : List ChatResponse → ChatRequest) (n : Nat) :
    ∀ responses calls calls' rs, runProtocol route policy next n responses calls = (.ok rs, calls') →
      ∀ r ∈ rs, Answered w calls r calls' := by
  induction n with
  | zero =>
    intro _ _ _ _ h
    cases h
    exact fun _ hr => absurd hr (List.not_mem_nil _)
  | succ n ih =>
    intro responses calls calls' rs h
    obtain ⟨r₁, calls₁, h₁, h⟩ := Run.bind_eq_ok h
    obtain ⟨rest, calls₂, h₂, h⟩ := Run.bind_eq_ok h
    cases h
    obtain ⟨added, hadd, -, -⟩ := runProtocol_appendsCalls happ policy next n (responses ++ [r₁]) calls₁
    obtain ⟨added₁, hadd₁, -, -⟩ := happ (next responses) policy calls
    rw [h₂] at hadd
    rw [h₁] at hadd₁
    intro r hr
    rcases List.mem_cons.mp hr with rfl | hr
    · rw [show calls' = calls₁ ++ added from hadd]
      exact (hroute _ _ h₁).append w added
    · exact Answered.of_earlier w (ih _ _ _ _ h₂ r hr) ⟨added₁, hadd₁.symm⟩

/-- The final response of the adversarial result is one of the protocol's responses. -/
theorem finalResponse_mem (rs : List ChatResponse) (h : 2 ≤ rs.length) : (adversarialResult rs).finalResponse ∈ rs := by
  match rs, h with
  | plan :: critique :: refinements, _ =>
    show draft plan refinements ∈ _
    unfold draft
    rcases hl : refinements.getLast? with _ | r
    · exact List.mem_cons_self _ _
    · exact List.mem_cons_of_mem _ (List.mem_cons_of_mem _ (List.mem_of_getLast?_eq_some hl))

/-- The orchestrator over the routing engine: a result it returns has a final response the backends gave to one of its
calls, in either mode. -/
theorem execute_answered (e : RoutingEngine) (defaultConfig : Option OrchestrationConfig) (request : ChatRequest)
    (config : Option OrchestrationConfig) (policy : Option RoutingPolicy) {calls calls' : List ProviderCall}
    {result : OrchestrationResult}
    (h : (OrchestrationEngine.init (e.router w) defaultConfig).execute request config policy calls = (.ok result, calls')) :
    Answered w calls result.finalResponse calls' := by
  unfold execute at h
  dsimp only [OrchestrationEngine.init] at h
  cases hmode : (config.getD (defaultConfig.getD {})).mode <;> rw [hmode] at h <;> dsimp only at h
  · obtain ⟨r, calls₁, h₁, h⟩ := Run.bind_eq_ok h
    cases h
    exact router_answered w e _ _ h₁
  · rw [executeAdversarial_eq] at h
    obtain ⟨rs, hp, rfl⟩ := Run.map_eq_ok h
    have hlen := runProtocol_length _ _ _ _ _ _ _ _ hp
    exact runProtocol_answered w (router_appendsCalls e w) (router_answered w e) _ _ _ _ _ _ _ hp _
      (finalResponse_mem rs (by omega))

/-- `chat` answered 200: the body parsed, the orchestrator returned, and the reply carries its final response. -/
theorem chat_ok_inv (s : TokenHubAPI) (data : ChatBody) (calls : List ProviderCall)
    (h : (s.chat w data calls).1.status = 200) :
    ∃ chatRequest config result, data.parse = .ok (chatRequest, config) ∧
      (s.orchestrationEngine w).execute chatRequest (some config) none calls = (.ok result, (s.chat w data calls).2) ∧
      ∃ summary, (s.chat w data calls).1.reply = .chat result.finalResponse summary := by
  revert h
  unfold chat
  rcases data.parse with e | ⟨chatRequest, config⟩
  · exact fun h => absurd h (by simp)
  dsimp only
  rcases hx : (s.orchestrationEngine w).execute chatRequest (some config) none calls with ⟨_ | result, calls'⟩
  · exact fun h => absurd h (by simp)
  dsimp only
  split
  · exact fun h => absurd h (by simp)
  · exact fun _ => ⟨chatRequest, config, result, rfl, hx, _, rfl⟩

end RepliesAux

open RepliesAux

/-- The service makes no answer up: whatever the backends answer, on any service and any chat body, a chat answered 200
replies with the response a backend gave to one of the calls made while serving the request, the record of calls before
the request being kept as it was. -/
theorem chat_reply_from_backend (w : World) (s : TokenHubAPI) (data : ChatBody) (calls : List ProviderCall)
    (r : ChatResponse) (summary : Option (PyDict SummaryValue))
    (h : (s.chat w data calls).1 = ⟨200, .chat r summary⟩) :
    ∃ pre c post, (s.chat w data calls).2 = pre ++ c :: post ∧ calls <+: pre ∧ w pre c.adapter c.request = .ok r := by
  obtain ⟨chatRequest, config, result, -, hx, summary', hreply⟩ := chat_ok_inv w s data calls (by rw [h])
  rw [h] at hreply
  cases hreply
  exact execute_answered w s.routingEngine none chatRequest (some config) none hx

/-- A service given the mock provider and a heavy model of it, asked to chat: the reply is the mock's answer to a call the
request made. -/
theorem chat_reply_from_backend_mock :
    ((run plainCrypto (fun _ => none) mockWorld
        [.addProvider "Bearer pw" ⟨some "mock", some "mock", some "sk"⟩ zeroUrandom,
          .addModel "Bearer pw" ⟨some "m", some "mock", some 1, some 1000, some 1000⟩]
        (fresh "pw" zeroUrandom, [])).2.1.chat mockWorld { messages := [{ role := "user", content := "Hi" }] } []).1 =
      ⟨200, .chat ⟨"Mock response from m", "m", 50, "stop"⟩ none⟩ ∧
    ∃ pre c post, ((run plainCrypto (fun _ => none) mockWorld
        [.addProvider "Bearer pw" ⟨some "mock", some "mock", some "sk"⟩ zeroUrandom,
          .addModel "Bearer pw" ⟨some "m", some "mock", some 1, some 1000, some 1000⟩]
        (fresh "pw" zeroUrandom, [])).2.1.chat mockWorld { messages := [{ role := "user", content := "Hi" }] } []).2 =
        pre ++ c :: post ∧ [] <+: pre ∧ mockWorld pre c.adapter c.request = .ok ⟨"Mock response from m", "m", 50, "stop"⟩ :=
  have h : ((run plainCrypto (fun _ => none) mockWorld
      [.addProvider "Bearer pw" ⟨some "mock", some "mock", some "sk"⟩ zeroUrandom,
        .addModel "Bearer pw" ⟨some "m", some "mock", some 1, some 1000, some 1000⟩]
      (fresh "pw" zeroUrandom, [])).2.1.chat mockWorld { messages := [{ role := "user", content := "Hi" }] } []).1 =
      ⟨200, .chat ⟨"Mock response from m", "m", 50, "stop"⟩ none⟩ := rfl
  ⟨h, chat_reply_from_backend mockWorld _ _ [] _ _ h⟩

end TokenHub
