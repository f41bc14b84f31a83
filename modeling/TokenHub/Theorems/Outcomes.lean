import Mathlib.Data.String.Basic
import TokenHub.Theorems.Cost

/-!
# What the orchestrator and the routes give back

A result the orchestrator returns has the shape its fields are meant to have, in either mode and under every routing engine
(`execute_ok_shape`, over `ResultShape`): the iterations are one more than the refinements, there are as many refinements as
the mode makes and at most `max_refinement_iterations` of them (`ResultShape.refinements_le`), and the plan and the critique
are there exactly in adversarial mode.

The orchestrator recovers from nothing. An orchestrated request raises exactly when one of its routed calls raises, and then
it raises that call's error as it is, in the state that call left: the calls before it returned, and no call is made after
it (`execute_error_iff_call_raises`). In simple mode the one routed call is the request's own; in adversarial mode the calls
are the protocol's (`modeCall`). The run lemmas are `runProtocol_error`, that a protocol which raises made some calls that
returned and then one that raised, and its converse `runProtocol_error_of_call`.

The routes turn what went wrong into the status of the answer (`Answers`): 401 and `Unauthorized` for an admin request that
fails the check, and 400 and `Missing required fields` for an `add_provider` that passes it but whose body
`all([name, provider_type, api_key])` refuses. Any other answer is 200 with a reply that is not an error, or 500 with an
error. Every answer the service gives keeps to this contract (`handle_answers`).
-/

namespace TokenHub

open OrchestrationEngine AdversarialAux TokenHubAPI

/-- The request of a mode's routed call after the responses so far: the request itself in simple mode, the adversarial
protocol's next request in adversarial mode. -/
def modeCall (request : ChatRequest) (config : OrchestrationConfig) : List ChatResponse → ChatRequest :=
  match config.mode with
  | .simple => fun _ => request
  | .adversarial => adversarialCall request config

/-- The shape the result of an orchestrated request is meant to have under a configuration: the iterations count the
first response and the refinements; there are as many refinements as the mode makes, none in simple mode, and never an empty
list of them; and the plan and the critique are there exactly in adversarial mode. -/
structure ResultShape (config : OrchestrationConfig) (result : OrchestrationResult) : Prop where
  iterations : result.iterations = 1 + ((result.refinementResponses.getD []).length : Int)
  refinements : (result.refinementResponses.getD []).length =
    match config.mode with
    | .simple => 0
    | .adversarial => refinementCount config
  refinements_ne_nil : result.refinementResponses ≠ some []
  plan : result.planResponse.isSome = (config.mode == .adversarial)
  critique : result.critiqueResponse.isSome = (config.mode == .adversarial)

/-- The refinements of a result of that shape are at most `max_refinement_iterations`, or none when it is not positive. -/
theorem ResultShape.refinements_le {config : OrchestrationConfig} {result : OrchestrationResult}
    (h : ResultShape config result) :
    ((result.refinementResponses.getD []).length : Int) ≤ max config.maxRefinementIterations 0 := by
  have hcount : refinementCount config ≤ config.maxRefinementIterations.toNat := by
    unfold refinementCount
    split <;> omega
  rw [h.refinements, ← Int.toNat_eq_max]
  split <;> omega

/-- The `Authorization` header an admin request carries; a chat and a health check read none. -/
def Request.authorization : Request → Option String
  | .addProvider auth _ _ => some auth
  | .listProviders auth => some auth
  | .addModel auth _ => some auth
  | _ => none

/-- A body `add_provider` goes on with: `all([name, provider_type, api_key])`. -/
def ProviderBody.Complete (data : ProviderBody) : Prop :=
  textTruthy data.name = true ∧ textTruthy data.providerType = true ∧ textTruthy data.apiKey = true

/-- A request that a route goes on with after its first checks: an admin request passes the admin check, and the body of an
`add_provider` is complete. -/
def Request.Accepted (s : TokenHubAPI) (r : Request) : Prop :=
  (∀ auth, r.authorization = some auth → s.authorized auth = true) ∧
    ∀ auth data iv, r = .addProvider auth data iv → data.Complete

/-- The status contract of the routes, for requests to the service `s`. -/
inductive Answers (s : TokenHubAPI) : Request → Response → Prop
  /-- An admin request that fails the check: 401. -/
  | unauthorized {r : Request} {auth : String} (hauth : r.authorization = some auth) (hfail : s.authorized auth = false) :
      Answers s r ⟨401, .error "Unauthorized"⟩
  /-- An `add_provider` that passes the check, with a body that is not complete: 400. -/
  | missingFields {auth : String} {data : ProviderBody} {iv : Urandom} (hauth : s.authorized auth = true)
      (hmissing : ¬ data.Complete) : Answers s (.addProvider auth data iv) ⟨400, .error "Missing required fields"⟩
  /-- An accepted request that succeeded: 200, with a reply that is not an error. -/
  | ok {r : Request} {reply : Reply} (hacc : r.Accepted s) (hreply : ∀ text, reply ≠ .error text) :
      Answers s r ⟨200, reply⟩
  /-- An accepted request that raised: 500, with an error. -/
  | raised {r : Request} {text : String} (hacc : r.Accepted s) : Answers s r ⟨500, .error text⟩

namespace Answers

variable {s : TokenHubAPI} {r : Request} {answer : Response}

/-- Under the contract, the answer is 401 exactly for an admin request that fails the check. -/
theorem status_eq_401_iff (h : Answers s r answer) :
    answer.status = 401 ↔ ∃ auth, r.authorization = some auth ∧ s.authorized auth = false := by
  cases h with
  | unauthorized hauth hfail => exact ⟨fun _ => ⟨_, hauth, hfail⟩, fun _ => rfl⟩
  | missingFields hauth _ =>
    refine ⟨nofun, fun ⟨auth, ha, hf⟩ => ?_⟩
    cases ha
    exact absurd hauth (by simp [hf])
  | ok hacc _ | raised hacc =>
    refine ⟨nofun, fun ⟨auth, ha, hf⟩ => ?_⟩
    exact absurd (hacc.1 auth ha) (by simp [hf])

/-- Under the contract, the answer is 400 exactly for an `add_provider` that passes the check with a body that is not
complete. -/
theorem status_eq_400_iff (h : Answers s r answer) :
    answer.status = 400 ↔
      ∃ auth data iv, r = .addProvider auth data iv ∧ s.authorized auth = true ∧ ¬ data.Complete := by
  cases h with
  | unauthorized hauth hfail =>
    refine ⟨nofun, fun ⟨auth, data, iv, hr, ha, _⟩ => ?_⟩
    cases hr
    cases hauth
    exact absurd ha (by simp [hfail])
  | missingFields hauth hmissing => exact ⟨fun _ => ⟨_, _, _, rfl, hauth, hmissing⟩, fun _ => rfl⟩
  | ok hacc _ | raised hacc =>
    exact ⟨nofun, fun ⟨auth, data, iv, hr, _, hm⟩ => absurd (hacc.2 auth data iv hr) hm⟩

end Answers

namespace OutcomesAux

section Protocol

variable {σ : Type} (route : Router σ) (policy : Option RoutingPolicy) (next : List ChatResponse → ChatRequest)

/-- The run: a protocol that raises made some calls that returned, then one that raised, in the state it ends in. -/
theorem runProtocol_error (n : Nat) : ∀ responses s e s', runProtocol route policy next n responses s = (.error e, s') →
    ∃ k < n, ∃ out s₁, runProtocol route policy next k responses s = (.ok out, s₁) ∧
      route (next (responses ++ out)) policy s₁ = (.error e, s') := by
  induction n with
  | zero => exact fun _ _ _ _ h => nomatch h
  | succ n ih =>
    intro responses s e s' h
    rcases Run.bind_eq_error h with hr | ⟨r, s₁, hr, h⟩
    · exact ⟨0, n.succ_pos, [], s, rfl, by rwa [List.append_nil]⟩
    rcases Run.bind_eq_error h with h | ⟨_, _, -, h⟩
    · obtain ⟨k, hk, out, s₂, hrun, hraise⟩ := ih _ _ _ _ h
      refine ⟨k + 1, by omega, r :: out, s₂, ?_, by simpa using hraise⟩
      simp only [runProtocol, Run.bind_apply, hr, hrun, Run.pure_apply]
    · exact nomatch h

/-- The converse: calls that returned, then one that raised, make every longer protocol raise that error there. -/
theorem runProtocol_error_of_call (k : Nat) : ∀ responses s out s₁ e s',
    runProtocol route policy next k responses s = (.ok out, s₁) →
    route (next (responses ++ out)) policy s₁ = (.error e, s') →
    ∀ m, runProtocol route policy next (k + m + 1) responses s = (.error e, s') := by
  induction k with
  | zero =>
    intro responses s out s₁ e s' h hr m
    cases h
    rw [List.append_nil] at hr
    simp only [Nat.zero_add, runProtocol, Run.bind_apply, hr]
  | succ k ih =>
    intro responses s out s₁ e s' h hr m
    obtain ⟨r, s₀, hr₀, h⟩ := Run.bind_eq_ok h
    obtain ⟨rs, s₂, hrs, h⟩ := Run.bind_eq_ok h
    cases h
    have hrest := ih _ _ _ _ _ _ hrs (by simpa using hr) m
    rw [show k + 1 + m + 1 = k + m + 1 + 1 by omega, runProtocol]
    simp only [Run.bind_apply, hr₀, hrest]

end Protocol

/-- An orchestrated request raises exactly when the protocol of its mode does, with the same error and state. -/
theorem execute_error_iff {σ : Type} (o : OrchestrationEngine σ) (request : ChatRequest) (config : OrchestrationConfig)
    (policy : Option RoutingPolicy) (s s' : σ) (e : HubError) :
    o.execute request (some config) policy s = (.error e, s') ↔
      runProtocol o.routingEngine policy (modeCall request config) (routedCallCount config) [] s = (.error e, s') := by
  unfold execute
  cases hmode : config.mode
  · simp only [Option.getD_some, hmode, modeCall, routedCallCount, executeSimple, runProtocol, Run.bind_apply,
      Run.pure_apply]
    rcases o.routingEngine request policy s with ⟨_ | _, _⟩ <;> simp
  · simp only [Option.getD_some, hmode, modeCall, routedCallCount, executeAdversarial_eq]
    exact Run.map_eq_error

variable (crypto : Crypto) (env : String → Option String) (w : World)

/-- `chat` answers 500 with a text, or 200 with a final response. -/
theorem chat_fst (s : TokenHubAPI) (data : ChatBody) (calls : List ProviderCall) :
    (∃ text, (s.chat w data calls).1 = ⟨500, .error text⟩) ∨
      ∃ r summary, (s.chat w data calls).1 = ⟨200, .chat r summary⟩ := by
  unfold chat
  rcases data.parse with e | ⟨chatRequest, config⟩
  · exact .inl ⟨_, rfl⟩
  dsimp only
  rcases (s.orchestrationEngine w).execute chatRequest (some config) none calls with ⟨_ | result, calls'⟩
  · exact .inl ⟨_, rfl⟩
  dsimp only
  split
  · exact .inl ⟨_, rfl⟩
  · exact .inr ⟨_, _, rfl⟩

/-- A text sent is true exactly when it is not empty. -/
theorem textTruthy_some_iff (t : String) : textTruthy (some t) = true ↔ t ≠ "" := by
  rw [ne_eq, ← String.isEmpty_iff]
  simp [textTruthy]

/-- `POST /admin/providers` keeps to the contract. -/
theorem addProvider_answers (s : TokenHubAPI) (auth : String) (data : ProviderBody) (iv : Urandom) :
    Answers s (.addProvider auth data iv) (s.addProvider crypto env auth data iv).1 := by
  unfold TokenHubAPI.addProvider
  by_cases ha : s.authorized auth
  swap
  · rw [if_pos (by simp [ha])]
    exact .unauthorized rfl (by simpa using ha)
  rw [if_neg (by simp [ha])]
  have hacc : data.Complete → (Request.addProvider auth data iv).Accepted s :=
    fun hc => ⟨fun _ h => by cases h; exact ha, fun _ _ _ h => by cases h; exact hc⟩
  rcases data with ⟨_ | name, _ | providerType, _ | apiKey⟩ <;> dsimp only
  all_goals try exact .missingFields ha (by simp [ProviderBody.Complete, textTruthy])
  have hcomplete : ProviderBody.Complete ⟨some name, some providerType, some apiKey⟩ ↔
      ¬ (name = "" ∨ providerType = "" ∨ apiKey = "") := by
    simp only [ProviderBody.Complete, textTruthy_some_iff, not_or, ne_eq]
  split_ifs with hempty
  · exact .missingFields ha (fun hc => hcomplete.mp hc hempty)
  split
  · exact .ok (hacc (hcomplete.mpr hempty)) (fun _ h => Reply.noConfusion h)
  · exact .raised (hacc (hcomplete.mpr hempty))

/-- `GET /admin/providers` keeps to the contract. -/
theorem listProviders_answers (s : TokenHubAPI) (auth : String) :
    Answers s (.listProviders auth) (s.listProviders auth) := by
  unfold TokenHubAPI.listProviders
  by_cases ha : s.authorized auth
  · rw [if_neg (by simp [ha])]
    exact .ok ⟨fun _ h => by cases h; exact ha, fun _ _ _ => nofun⟩ (fun _ h => Reply.noConfusion h)
  · rw [if_pos (by simp [ha])]
    exact .unauthorized rfl (by simpa using ha)

/-- `POST /admin/models` keeps to the contract. -/
theorem addModel_answers (s : TokenHubAPI) (auth : String) (data : ModelBody) :
    Answers s (.addModel auth data) (s.addModel auth data).1 := by
  unfold TokenHubAPI.addModel
  by_cases ha : s.authorized auth
  swap
  · rw [if_pos (by simp [ha])]
    exact .unauthorized rfl (by simpa using ha)
  rw [if_neg (by simp [ha])]
  have hacc : (Request.addModel auth data).Accepted s := ⟨fun _ h => by cases h; exact ha, fun _ _ _ => nofun⟩
  rcases data.parse with e | model
  · exact .raised hacc
  dsimp only [saveModels]
  rcases s.persistence.saveModels (s.modelRegistry.registerModel model).exportModels with e | db
  · exact .raised hacc
  · exact .ok hacc (fun _ h => Reply.noConfusion h)

end OutcomesAux

open OutcomesAux

/-- The results of the orchestrator have the shape their fields are meant to have: for every routing engine, a result returned
under a configuration has its iterations equal to one more than its refinements; as many refinements as the mode makes
(none in simple mode, the configured count in adversarial mode), the list being absent rather than empty; and a plan and a
critique exactly in adversarial mode. -/
theorem execute_ok_shape {σ : Type} (o : OrchestrationEngine σ) (request : ChatRequest) (config : OrchestrationConfig)
    (policy : Option RoutingPolicy) (s s' : σ) (result : OrchestrationResult)
    (h : o.execute request (some config) policy s = (.ok result, s')) : ResultShape config result := by
  unfold execute at h
  cases hmode : config.mode <;> simp only [Option.getD_some, hmode, executeSimple] at h
  · -- simple mode: the one routed call's response, with nothing else
    obtain ⟨r, s₁, -, h⟩ := Run.bind_eq_ok h
    cases h
    exact ⟨rfl, by simp [hmode], nofun, by simp [hmode], by simp [hmode]⟩
  · -- adversarial mode: the result built from the protocol's responses
    rw [executeAdversarial_eq] at h
    obtain ⟨rs, hrun, rfl⟩ := Run.map_eq_ok h
    have hlen := runProtocol_length _ _ _ _ _ _ _ _ hrun
    rcases rs with _ | ⟨plan, _ | ⟨critique, refinements⟩⟩ <;> simp at hlen
    have hget : (adversarialResult (plan :: critique :: refinements)).refinementResponses.getD [] = refinements := by
      cases refinements <;> rfl
    refine ⟨by rw [hget]; rfl, by rw [hget, hmode]; exact hlen, ?_, by simp [adversarialResult, hmode],
      by simp [adversarialResult, hmode]⟩
    cases refinements <;> simp [adversarialResult]

/-- One refinement under the counting engine. -/
theorem execute_ok_shape_counting :
    (OrchestrationEngine.init countingRouter none).execute { messages := [⟨"user", "Hi"⟩] }
        (some { mode := .adversarial, enableRefinement := true }) none 0 =
      (.ok { finalResponse := ⟨"3", "mock", 1, "stop"⟩, planResponse := some ⟨"3", "mock", 1, "stop"⟩,
             critiqueResponse := some ⟨"2", "mock", 1, "stop"⟩, refinementResponses := some [⟨"3", "mock", 1, "stop"⟩],
             iterations := 2 }, 3) ∧
    ResultShape { mode := .adversarial, enableRefinement := true }
      { finalResponse := ⟨"3", "mock", 1, "stop"⟩, planResponse := some ⟨"3", "mock", 1, "stop"⟩,
        critiqueResponse := some ⟨"2", "mock", 1, "stop"⟩, refinementResponses := some [⟨"3", "mock", 1, "stop"⟩],
        iterations := 2 } :=
  have h : (OrchestrationEngine.init countingRouter none).execute { messages := [⟨"user", "Hi"⟩] }
      (some { mode := .adversarial, enableRefinement := true }) none 0 =
      (.ok { finalResponse := ⟨"3", "mock", 1, "stop"⟩, planResponse := some ⟨"3", "mock", 1, "stop"⟩,
             critiqueResponse := some ⟨"2", "mock", 1, "stop"⟩, refinementResponses := some [⟨"3", "mock", 1, "stop"⟩],
             iterations := 2 }, 3) := rfl
  ⟨h, execute_ok_shape _ _ _ _ _ _ _ h⟩

/-- The orchestrator recovers from nothing: for every routing engine, an orchestrated request raises an error exactly when,
after some of its mode's routed calls returned, the next one raised that same error; and it then ends in the state that
call left, so no call is retried or made after it, and no partial result comes back. In simple mode the routed call is the
request's one; in adversarial mode the plan, the critique and the refinements. -/
theorem execute_error_iff_call_raises {σ : Type} (o : OrchestrationEngine σ) (request : ChatRequest)
    (config : OrchestrationConfig) (policy : Option RoutingPolicy) (s s' : σ) (e : HubError) :
    o.execute request (some config) policy s = (.error e, s') ↔
      ∃ k < routedCallCount config, ∃ out s₁,
        runProtocol o.routingEngine policy (modeCall request config) k [] s = (.ok out, s₁) ∧
        o.routingEngine (modeCall request config out) policy s₁ = (.error e, s') := by
  rw [execute_error_iff]
  constructor
  · intro h
    simpa using runProtocol_error o.routingEngine policy (modeCall request config) _ [] s e s' h
  · rintro ⟨k, hk, out, s₁, h, hr⟩
    obtain ⟨m, hm⟩ : ∃ m, routedCallCount config = k + m + 1 := ⟨routedCallCount config - k - 1, by omega⟩
    rw [hm]
    exact runProtocol_error_of_call o.routingEngine policy (modeCall request config) k [] s out s₁ e s' h hr m

/-- The service keeps to the status contract of its routes: from any service, every request, whatever the backends answer,
is answered 401 with `Unauthorized` exactly when it is an admin request that fails the check, 400 with
`Missing required fields` exactly when it is an `add_provider` that passes the check with a field missing or empty, and
otherwise 200 with a reply that is not an error or 500 with an error. -/
theorem handle_answers (crypto : Crypto) (env : String → Option String) (w : World) (r : Request)
    (st : TokenHubAPI × List ProviderCall) : Answers st.1 r (handle crypto env w r st).1 := by
  cases r with
  | chat data =>
    have hacc : (Request.chat data).Accepted st.1 := ⟨fun _ => nofun, fun _ _ _ => nofun⟩
    rcases chat_fst w st.1 data st.2 with ⟨text, h⟩ | ⟨r, summary, h⟩
    · exact h ▸ .raised hacc
    · exact h ▸ .ok hacc (fun _ h => Reply.noConfusion h)
  | addProvider auth data iv => exact addProvider_answers crypto env st.1 auth data iv
  | listProviders auth => exact listProviders_answers st.1 auth
  | addModel auth data => exact addModel_answers st.1 auth data
  | health => exact .ok ⟨fun _ => nofun, fun _ _ _ => nofun⟩ (fun _ h => Reply.noConfusion h)

end TokenHub
