import TokenHub.Theorems.Replies

/-!
# What a chat costs

`POST /v1/chat` checks no header, and an adversarial request makes one routed call per step of its protocol: the plan, the
critique, and as many refinements as its body's `max_refinement_iterations` asks for when `enable_refinement` is set.
Nothing bounds that number: on a service an admin gave the mock provider, whose backend answers, a chat asking for `n`
refinements is answered 200 after exactly `n + 2` backend calls, for every `n` (`adversarial_chat_calls`). The run lemma is
`runProtocol_exact`: a protocol over a router that answers each of its requests with one call makes one call per step. The
count is proved for any service whose routing engine does so on the protocol's requests (`chat_adversarial_calls`); the
mock service's step is a computation (`mockService_step`).

The bound goes the other way too, from what a body asks: a chat makes at most two calls per routed call of its
configuration, a routed call escalating at most once, and no other request makes any. So the calls of a whole run number
at most the sum of its requests' budgets (`run_calls_le_budget`), from the step (`handle_calls_budget`) by induction over
the requests.
-/

namespace TokenHub

open TokenHubAPI OrchestrationEngine AdversarialAux RepliesAux

/-- A chat body asking for adversarial mode with `n` refinements. -/
def adversarialBody (n : Nat) : ChatBody :=
  { messages := [{ role := "user", content := "Hi" }], orchestrationMode := some "adversarial",
    maxRefinementIterations := some n, enableRefinement := some true }

/-- The backend calls a request may make: two per routed call of the configuration its chat body parses to, and none for a
chat body that raises, an admin request or a health check. -/
def Request.callBudget : Request → Nat
  | .chat data =>
    match data.parse with
    | .ok (_, config) => 2 * routedCallCount config
    | .error _ => 0
  | _ => 0

/-- The budget of a run: the sum of its requests' budgets. -/
def runBudget : List Request → Nat
  | [] => 0
  | r :: rs => r.callBudget + runBudget rs

namespace CostAux

variable (crypto : Crypto) (env : String → Option String) (w : World)

/-- The step: a request appends at most its budget of calls. -/
theorem handle_calls_budget (r : Request) (st : TokenHubAPI × List ProviderCall) :
    ∃ added, (handle crypto env w r st).2.2 = st.2 ++ added ∧ added.length ≤ r.callBudget := by
  cases r with
  | chat data =>
    show ∃ added, (st.1.chat w data st.2).2 = st.2 ++ added ∧ added.length ≤ (Request.chat data).callBudget
    rw [chat_snd]
    dsimp only [Request.callBudget]
    rcases data.parse with e | ⟨chatRequest, config⟩
    · exact ⟨[], (List.append_nil _).symm, le_refl _⟩
    obtain ⟨added, h, hlen, -⟩ :=
      SystemAux.execute_appendsCalls st.1.routingEngine w none chatRequest (some config) none st.2
    exact ⟨added, h, hlen⟩
  | _ => exact ⟨[], (List.append_nil _).symm, le_refl _⟩

/-- The run: a protocol over a router that answers each of its requests with one call, keeping `P` of the responses so far,
makes one call per step and returns one response per step, all of them keeping `P`. -/
theorem runProtocol_exact {route : Router (List ProviderCall)} {policy : Option RoutingPolicy}
    {next : List ChatResponse → ChatRequest} (P : List ChatResponse → Prop)
    (hstep : ∀ rs calls, P rs → ∃ r c, route (next rs) policy calls = (.ok r, calls ++ [c]) ∧ P (rs ++ [r]))
    (n : Nat) : ∀ rs calls, P rs → ∃ out added, runProtocol route policy next n rs calls = (.ok out, calls ++ added) ∧
      added.length = n ∧ P (rs ++ out) := by
  induction n with
  | zero => exact fun rs calls hP => ⟨[], [], by simp [runProtocol], rfl, by simpa using hP⟩
  | succ n ih =>
    intro rs calls hP
    obtain ⟨r, c, hr, hP₁⟩ := hstep rs calls hP
    obtain ⟨out, added, h, hlen, hP₂⟩ := ih (rs ++ [r]) (calls ++ [c]) hP₁
    refine ⟨r :: out, c :: added, ?_, by simp [hlen], by simpa using hP₂⟩
    simp only [runProtocol, Run.bind_apply, hr, h, Run.pure_apply, List.append_assoc, List.singleton_append]

/-- The latest draft of responses all equal to `R` is `R`. -/
theorem getLast?_getD_of_forall {R : ChatResponse} {rest : List ChatResponse} (h : ∀ r ∈ rest, r = R) :
    rest.getLast?.getD R = R := by
  rcases hl : rest.getLast? with _ | r
  · rfl
  · exact h r (List.mem_of_getLast?_eq_some hl)

/-- With refinement on, the number of refinements is the number of iterations asked for. -/
theorem refinementCount_enabled (mode : OrchestrationMode) (plannerModel criticModel : Option String) (n : Nat) :
    refinementCount ⟨mode, plannerModel, criticModel, n, true⟩ = n := by
  rcases Nat.eq_zero_or_pos n with rfl | hn
  · rfl
  · simp [refinementCount, hn]

/-- On a service whose routing engine answers each request of the adversarial protocol with one call, and with a response
`R` while the responses before are all `R`, a chat asking for `n` refinements is answered 200 after `n + 2` calls. -/
theorem chat_adversarial_calls (s : TokenHubAPI) (w : World) (R : ChatResponse) (hR : ¬R.tokensUsed < 0)
    (hstep : ∀ (n : Nat) rs calls, (∀ r ∈ rs, r = R) → ∃ r c, s.routingEngine.router w
        (adversarialCall ⟨[⟨"user", "Hi"⟩], none, none, none⟩ ⟨.adversarial, none, none, n, true⟩ rs) none calls =
        (.ok r, calls ++ [c]) ∧ ∀ r' ∈ rs ++ [r], r' = R)
    (n : Nat) (calls : List ProviderCall) :
    (s.chat w (adversarialBody n) calls).1.status = 200 ∧
      (s.chat w (adversarialBody n) calls).2.length = calls.length + n + 2 := by
  obtain ⟨out, added, h, hlen, hout⟩ := runProtocol_exact (fun rs => ∀ r ∈ rs, r = R) (hstep n)
    (n + 2) [] calls (fun _ h => absurd h (List.not_mem_nil _))
  have hexec : (s.orchestrationEngine w).execute ⟨[⟨"user", "Hi"⟩], none, none, none⟩
      (some ⟨.adversarial, none, none, n, true⟩) none calls = (.ok (adversarialResult out), calls ++ added) := by
    rw [orchestrationEngine, OrchestrationEngine.execute]
    simp only [Option.getD_some]
    rw [executeAdversarial_eq, refinementCount_enabled, Run.map_apply]
    simp only [OrchestrationEngine.init]
    rw [h]
  have hfinal : (adversarialResult out).finalResponse = R :=
    hout _ (List.mem_append_right _ (finalResponse_mem out (by rw [runProtocol_length _ _ _ _ _ _ _ _ h]; omega)))
  have hparse : (adversarialBody n).parse =
      .ok (⟨[⟨"user", "Hi"⟩], none, none, none⟩, ⟨.adversarial, none, none, n, true⟩) := rfl
  unfold chat
  rw [hparse]
  dsimp only
  rw [hexec]
  dsimp only
  rw [if_neg (by rw [hfinal]; exact hR)]
  exact ⟨rfl, by simp [hlen]; omega⟩

end CostAux

open CostAux

/-- What bounds the backend calls of a service is what its chat bodies ask for: over any run of requests from any service,
whatever the backends answer, the calls made number at most two per routed call the run's chat bodies ask for (one for a
simple chat; the plan, the critique and the refinements for an adversarial one). Admin requests, health checks and chat
bodies that raise make none. -/
theorem run_calls_le_budget (crypto : Crypto) (env : String → Option String) (w : World) (s : TokenHubAPI)
    (rs : List Request) (calls : List ProviderCall) :
    ∃ added, (run crypto env w rs (s, calls)).2.2 = calls ++ added ∧ added.length ≤ runBudget rs := by
  suffices h : ∀ st : TokenHubAPI × List ProviderCall,
      ∃ added, (run crypto env w rs st).2.2 = st.2 ++ added ∧ added.length ≤ runBudget rs from
    h (s, calls)
  induction rs with
  | nil => exact fun st => ⟨[], (List.append_nil _).symm, le_refl _⟩
  | cons r rs ih =>
    intro st
    obtain ⟨added, h, hlen⟩ := handle_calls_budget crypto env w r st
    obtain ⟨added', h', hlen'⟩ := ih (handle crypto env w r st).2
    refine ⟨added ++ added', by rw [run_cons, h', h, List.append_assoc], ?_⟩
    rw [List.length_append, runBudget]
    omega

/-- The service after an admin added the mock provider, under the name `mock`, to a fresh service. -/
def mockService : TokenHubAPI :=
  ((fresh "pw" zeroUrandom).addProvider plainCrypto (fun _ => none) "Bearer pw" ⟨some "mock", some "mock", some "sk"⟩
    zeroUrandom).2

/-- The mock backend's answer to a request routed to the heavier default model. -/
def mockAnswer : ChatResponse := ⟨"Mock response from mock-gpt-4", "mock-gpt-4", 50, "stop"⟩

set_option maxRecDepth 2000 in
/-- The step: on `mockService`, every request of the adversarial protocol, after responses that are all the mock's answer,
is routed to the mock adapter with one call and answered with the mock's answer. -/
theorem mockService_step (n : Nat) (rs : List ChatResponse) (calls : List ProviderCall) (hrs : ∀ r ∈ rs, r = mockAnswer) :
    ∃ r c, mockService.routingEngine.router mockWorld
        (adversarialCall ⟨[⟨"user", "Hi"⟩], none, none, none⟩ ⟨.adversarial, none, none, n, true⟩ rs) none calls =
        (.ok r, calls ++ [c]) ∧ ∀ r' ∈ rs ++ [r], r' = mockAnswer := by
  have hall : ∀ r' ∈ rs ++ [mockAnswer], r' = mockAnswer := by
    simpa only [List.mem_append, List.mem_singleton, or_imp, forall_and] using ⟨hrs, fun _ h => h⟩
  rcases rs with _ | ⟨r₁, _ | ⟨r₂, rest⟩⟩
  · simp only [adversarialCall]
    exact ⟨_, _, rfl, hall⟩
  · obtain rfl : r₁ = mockAnswer := hrs r₁ (List.mem_singleton_self _)
    simp only [adversarialCall]
    exact ⟨_, _, rfl, hall⟩
  · obtain rfl : r₁ = mockAnswer := hrs r₁ (List.mem_cons_self _ _)
    obtain rfl : r₂ = mockAnswer := hrs r₂ (List.mem_cons_of_mem _ (List.mem_cons_self _ _))
    simp only [adversarialCall,
      getLast?_getD_of_forall fun r hr => hrs r (List.mem_cons_of_mem _ (List.mem_cons_of_mem _ hr))]
    exact ⟨_, _, rfl, hall⟩

/-- Nothing bounds the backend calls an unauthenticated chat makes: on a service an admin gave the mock provider, for every
`n`, a chat whose body asks for adversarial mode with `n` refinements is answered 200 after exactly `n + 2` backend calls
(the plan, the critique and the refinements), whatever calls came before. `POST /v1/chat` checks no header, and
`max_refinement_iterations` is read from the body with no upper limit. -/
theorem adversarial_chat_calls (n : Nat) (calls : List ProviderCall) :
    (mockService.chat mockWorld (adversarialBody n) calls).1.status = 200 ∧
      (mockService.chat mockWorld (adversarialBody n) calls).2.length = calls.length + n + 2 :=
  chat_adversarial_calls mockService mockWorld mockAnswer (by decide) mockService_step n calls

end TokenHub
