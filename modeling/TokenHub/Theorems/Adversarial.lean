import TokenHub.AdversarialSpec

/-!
# Adversarial orchestration

Whatever the routing engine does, adversarial orchestration is the adversarial protocol: the same calls with the same
requests in the same order, and the same first raise (`execute_adversarial_calls`). The loop's invariant is that its
`plan_response` is the latest draft (`refineLoop_eq`), which is what makes the refinement requests the protocol's.

The same invariant says what the result is. The source reuses `plan_response` as the draft, so after a refinement the
result's `plan_response`, and the summary's `initial_plan`, are the last refinement and not the first call's response
(`execute_adversarial_result`, and `execute_plan_response_refined` on one refinement).
-/

namespace TokenHub

open OrchestrationEngine

namespace AdversarialAux

variable {σ : Type} (o : OrchestrationEngine σ) (request : ChatRequest) (config : OrchestrationConfig)
  (policy : Option RoutingPolicy)

/-- The latest draft after the plan and the refinements so far. -/
def draft (plan : ChatResponse) (refinements : List ChatResponse) : ChatResponse := refinements.getLast?.getD plan

@[simp] theorem draft_nil (plan : ChatResponse) : draft plan [] = plan := rfl

@[simp] theorem draft_concat (plan r : ChatResponse) (refinements : List ChatResponse) :
    draft plan (refinements ++ [r]) = r := by
  simp [draft]

/-- The result `_execute_adversarial` builds from the responses of its calls: the latest draft is both the final response
and the plan. Fewer than two responses are never the responses of a run. -/
def adversarialResult : List ChatResponse → OrchestrationResult
  | plan :: critique :: refinements =>
    { finalResponse := draft plan refinements, planResponse := some (draft plan refinements),
      critiqueResponse := some critique,
      refinementResponses := if refinements.isEmpty then none else some refinements,
      iterations := 1 + (refinements.length : Int) }
  | _ => { finalResponse := ⟨"", "", 0, ""⟩ }

/-- The loop's invariant: run from the latest draft of the refinements so far, it makes the protocol's next calls, and
ends with the latest draft as both `plan_response` and `final_response`. -/
theorem refineLoop_eq (plan critique : ChatResponse) (n : Nat) (refinements : List ChatResponse) :
    o.refineLoop request config policy critique n (draft plan refinements) refinements (draft plan refinements) =
      (fun rs => (draft plan (refinements ++ rs), refinements ++ rs, draft plan (refinements ++ rs))) <$>
        runProtocol o.routingEngine policy (adversarialCall request config) n (plan :: critique :: refinements) := by
  induction n generalizing refinements with
  | zero => simp [refineLoop, runProtocol]
  | succ n ih =>
    simp only [refineLoop, runProtocol, map_bind, map_pure]
    refine bind_congr fun r => ?_
    have h := ih (refinements ++ [r])
    simp only [draft_concat, List.append_assoc, List.singleton_append] at h
    rw [h, List.cons_append, List.cons_append]
    rfl

/-- The protocol's first two calls are the plan and the critique. -/
theorem runProtocol_add_two (route : Router σ) (next : List ChatResponse → ChatRequest) (k : Nat) :
    runProtocol route policy next (k + 2) [] =
      route (next []) policy >>= fun plan => route (next [plan]) policy >>= fun critique =>
        runProtocol route policy next k [plan, critique] >>= fun rs => pure (plan :: critique :: rs) := by
  simp only [runProtocol, bind_assoc, pure_bind]
  rfl

/-- `_execute_adversarial` is the adversarial protocol, its result built from the responses. -/
theorem executeAdversarial_eq :
    o.executeAdversarial request config policy =
      adversarialResult <$> runProtocol o.routingEngine policy (adversarialCall request config)
        (refinementCount config + 2) [] := by
  rw [runProtocol_add_two]
  simp only [executeAdversarial, map_bind, map_pure]
  refine bind_congr fun plan => bind_congr fun critique => ?_
  unfold refinementCount
  split
  · rw [← draft_nil plan, refineLoop_eq, bind_map_left]
    simp only [List.nil_append, draft_nil]
    refine bind_congr fun rs => ?_
    simp [adversarialResult, List.isEmpty_iff]
  · simp [runProtocol, adversarialResult]

/-- A run of the protocol that succeeds returns one response per call. -/
theorem runProtocol_length (route : Router σ) (next : List ChatResponse → ChatRequest) (n : Nat)
    (responses rs : List ChatResponse) (s s' : σ)
    (h : runProtocol route policy next n responses s = (.ok rs, s')) : rs.length = n := by
  induction n generalizing responses rs s s' with
  | zero =>
    cases h
    rfl
  | succ n ih =>
    obtain ⟨r, s₁, -, h⟩ := Run.bind_eq_ok h
    obtain ⟨rs', s₂, hrs, h⟩ := Run.bind_eq_ok h
    cases h
    rw [List.length_cons, ih _ _ _ _ hrs]

/-- The summary of a result with a plan: its plan's text under `initial_plan`, and its refinements' texts under
`refinements` when it has some. -/
theorem createAdversarialSummary_get (result : OrchestrationResult) (p : ChatResponse)
    (hp : result.planResponse = some p) :
    (createAdversarialSummary result).get? "initial_plan" = some (.text p.content) ∧
    (createAdversarialSummary result).get? "refinements" =
      match result.refinementResponses with
      | some rs => if rs.isEmpty then none else some (.texts (rs.map (·.content)))
      | none => none := by
  unfold createAdversarialSummary
  rw [hp]
  constructor <;> rcases result.critiqueResponse with _ | c <;> rcases result.refinementResponses with _ | rs <;>
    simp only [PyDict.get?_set, PyDict.get?_empty] <;> split <;> simp_all

end AdversarialAux

open AdversarialAux

/-- Adversarial orchestration is the adversarial protocol, for every routing engine: the plan pinned to the planner, the
critique of it pinned to the critic, and the refinements of the latest draft under that one critique pinned to the
planner, all with the request's `max_tokens` and `temperature`, in that order, stopping at the first raise and raising it.
The result is a function of the responses. -/
theorem execute_adversarial_calls {σ : Type} (o : OrchestrationEngine σ) (request : ChatRequest)
    (config : OrchestrationConfig) (policy : Option RoutingPolicy) (hmode : config.mode = .adversarial) :
    ∃ outcome : List ChatResponse → OrchestrationResult,
      o.execute request (some config) policy =
        outcome <$> runProtocol o.routingEngine policy (adversarialCall request config) (refinementCount config + 2) [] := by
  refine ⟨adversarialResult, ?_⟩
  simp only [execute, Option.getD_some, hmode]
  exact executeAdversarial_eq o request config policy

/-- A routing engine that answers its `n`-th call with the text `n`, and counts its calls. -/
def countingRouter : Router Nat := fun _ _ n => (.ok ⟨toString (n + 1), "mock", 1, "stop"⟩, n + 1)

/-- One refinement, under the counting engine. -/
theorem execute_adversarial_calls_counting :
    ({ mode := .adversarial, enableRefinement := true } : OrchestrationConfig).mode = .adversarial ∧
    ∃ outcome : List ChatResponse → OrchestrationResult,
      (OrchestrationEngine.init countingRouter none).execute { messages := [⟨"user", "Hi"⟩] }
          (some { mode := .adversarial, enableRefinement := true }) none =
        outcome <$> runProtocol (OrchestrationEngine.init countingRouter none).routingEngine none
          (adversarialCall { messages := [⟨"user", "Hi"⟩] } { mode := .adversarial, enableRefinement := true })
          (refinementCount { mode := .adversarial, enableRefinement := true } + 2) [] :=
  ⟨rfl, execute_adversarial_calls (OrchestrationEngine.init countingRouter none) { messages := [⟨"user", "Hi"⟩] }
    { mode := .adversarial, enableRefinement := true } none rfl⟩

/-- When every call succeeds, the result is the responses': the critique is the second, the refinements those after it,
the final response the last refinement (the plan when there is none), and the plan is the final response, not the first
call's response. The summary's `initial_plan` is the final response's text. -/
theorem execute_adversarial_result {σ : Type} (o : OrchestrationEngine σ) (request : ChatRequest)
    (config : OrchestrationConfig) (policy : Option RoutingPolicy) (hmode : config.mode = .adversarial) (s s' : σ)
    (responses : List ChatResponse)
    (hrun : runProtocol o.routingEngine policy (adversarialCall request config) (refinementCount config + 2) [] s =
      (.ok responses, s')) :
    ∃ plan critique refinements result, responses = plan :: critique :: refinements ∧
      refinements.length = refinementCount config ∧ o.execute request (some config) policy s = (.ok result, s') ∧
      result.finalResponse = refinements.getLast?.getD plan ∧ result.planResponse = some result.finalResponse ∧
      result.critiqueResponse = some critique ∧
      result.refinementResponses = (if refinements = [] then none else some refinements) ∧
      result.iterations = 1 + (refinementCount config : Int) ∧
      (createAdversarialSummary result).get? "initial_plan" = some (.text result.finalResponse.content) ∧
      (createAdversarialSummary result).get? "refinements" =
        if refinements = [] then none else some (.texts (refinements.map (·.content))) := by
  have hlen := runProtocol_length policy _ _ _ _ _ _ _ hrun
  have hexec : o.execute request (some config) policy s = (.ok (adversarialResult responses), s') := by
    simp only [execute, Option.getD_some, hmode, executeAdversarial_eq, Run.map_apply, hrun]
  -- a run that returns has the plan, the critique and the refinements
  rcases responses with _ | ⟨plan, _ | ⟨critique, refinements⟩⟩ <;> simp at hlen
  have hsum := createAdversarialSummary_get (adversarialResult (plan :: critique :: refinements)) _ rfl
  refine ⟨plan, critique, refinements, _, rfl, hlen, hexec, rfl, rfl, rfl, ?_, by simp [adversarialResult, hlen],
    hsum.1, ?_⟩
  · simp [adversarialResult, List.isEmpty_iff]
  · rw [hsum.2]
    simp [adversarialResult, List.isEmpty_iff]
    split <;> simp_all

/-- One refinement under the counting engine: the three calls answer `1`, `2` and `3`. -/
theorem execute_adversarial_result_counting :
    ({ mode := .adversarial, enableRefinement := true } : OrchestrationConfig).mode = .adversarial ∧
    runProtocol (OrchestrationEngine.init countingRouter none).routingEngine none
        (adversarialCall { messages := [⟨"user", "Hi"⟩] } { mode := .adversarial, enableRefinement := true })
        (refinementCount { mode := .adversarial, enableRefinement := true } + 2) [] 0 =
      (.ok [⟨"1", "mock", 1, "stop"⟩, ⟨"2", "mock", 1, "stop"⟩, ⟨"3", "mock", 1, "stop"⟩], 3) ∧
    ∃ plan critique refinements result,
      [⟨"1", "mock", 1, "stop"⟩, ⟨"2", "mock", 1, "stop"⟩, ⟨"3", "mock", 1, "stop"⟩] =
        plan :: critique :: refinements ∧
      refinements.length = refinementCount { mode := .adversarial, enableRefinement := true } ∧
      (OrchestrationEngine.init countingRouter none).execute { messages := [⟨"user", "Hi"⟩] }
          (some { mode := .adversarial, enableRefinement := true }) none 0 = (.ok result, 3) ∧
      result.finalResponse = refinements.getLast?.getD plan ∧ result.planResponse = some result.finalResponse ∧
      result.critiqueResponse = some critique ∧
      result.refinementResponses = (if refinements = [] then none else some refinements) ∧
      result.iterations = 1 + (refinementCount { mode := .adversarial, enableRefinement := true } : Int) ∧
      (createAdversarialSummary result).get? "initial_plan" = some (.text result.finalResponse.content) ∧
      (createAdversarialSummary result).get? "refinements" =
        if refinements = [] then none else some (.texts (refinements.map (·.content))) :=
  ⟨rfl, rfl, execute_adversarial_result (OrchestrationEngine.init countingRouter none) { messages := [⟨"user", "Hi"⟩] }
    { mode := .adversarial, enableRefinement := true } none rfl 0 3 _ rfl⟩

/-- One refinement under the counting engine: the plan call answers `1`, the critique `2`, the refinement `3`; the
result's `plan_response`, and the summary's `initial_plan`, are the refinement's `3`, not the plan's `1`. -/
theorem execute_plan_response_refined :
    runProtocol countingRouter none
        (adversarialCall { messages := [⟨"user", "Hi"⟩] } { mode := .adversarial, enableRefinement := true })
        (refinementCount { mode := .adversarial, enableRefinement := true } + 2) [] 0 =
      (.ok [⟨"1", "mock", 1, "stop"⟩, ⟨"2", "mock", 1, "stop"⟩, ⟨"3", "mock", 1, "stop"⟩], 3) ∧
    (OrchestrationEngine.init countingRouter none).execute { messages := [⟨"user", "Hi"⟩] }
        (some { mode := .adversarial, enableRefinement := true }) none 0 =
      (.ok { finalResponse := ⟨"3", "mock", 1, "stop"⟩, planResponse := some ⟨"3", "mock", 1, "stop"⟩,
             critiqueResponse := some ⟨"2", "mock", 1, "stop"⟩, refinementResponses := some [⟨"3", "mock", 1, "stop"⟩],
             iterations := 2 }, 3) ∧
    (createAdversarialSummary
        { finalResponse := ⟨"3", "mock", 1, "stop"⟩, planResponse := some ⟨"3", "mock", 1, "stop"⟩,
          critiqueResponse := some ⟨"2", "mock", 1, "stop"⟩, refinementResponses := some [⟨"3", "mock", 1, "stop"⟩],
          iterations := 2 }).get? "initial_plan" = some (.text "3") :=
  ⟨rfl, rfl, rfl⟩

end TokenHub
