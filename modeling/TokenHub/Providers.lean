import TokenHub.Python
import Mathlib.Data.Rat.Defs

/-!
# Providers: requests, responses, and what a backend answers

`providers.py`. The data classes are records; `temperature` and the costs (Python floats) are rationals, which every finite
float is and which compare as the floats do. An adapter is the value its class built (class, key, keyword arguments);
what its `chat_completion` answers is not in the source, so it is a parameter: a `World` answers each call from the calls
made before it, which covers every backend that is a function of what it was sent, stateful ones included. Every call is
recorded in the trace it is answered from (`chatCompletion`), so a theorem about the calls is a theorem about the trace.

The errors are one type, one constructor per `raise` of the modelled code, each with the text the source gives it
(`HubError.message`); what an adapter or a library raises is `external`.
-/

namespace TokenHub

/-- `ChatMessage`. -/
structure ChatMessage where
  role : String
  content : String
  deriving DecidableEq, Repr

/-- `ChatRequest`. -/
structure ChatRequest where
  messages : List ChatMessage
  model : Option String := none
  maxTokens : Option Int := none
  temperature : Option ℚ := none
  deriving DecidableEq, Repr

/-- `ChatResponse`. -/
structure ChatResponse where
  content : String
  model : String
  tokensUsed : Int
  finishReason : String
  deriving DecidableEq, Repr

/-- Every `raise` of the modelled code, and what an adapter, a provider class or a library raises (`external`). -/
inductive HubError where
  /-- `RoutingEngine.execute_with_routing`: `select_model` found nothing. -/
  | noSuitableModel
  /-- `execute_with_routing` and `_escalate_request`: the directory has no adapter under the model's provider. -/
  | providerNotFound (provider : String)
  /-- `_escalate_request`: no candidate to escalate to; carries the error of the failed call. -/
  | noEscalationPath (original : HubError)
  /-- `ProviderRegistry.add_provider`: no key given, in the vault or in the environment. -/
  | noApiKey (name : String)
  /-- `ProviderRegistry.add_provider`: no class registered under the type. -/
  | unknownProviderType (providerType : String)
  /-- `SecureVault._encrypt`: the library's CBC encryptor was given data that is not a whole number of blocks. -/
  | notBlockAligned
  /-- Raised by code outside the model: an adapter, a provider class, a decoder of the library. -/
  | external (message : String)
  deriving DecidableEq, Repr

/-- `str(e)` for each error: the text the source raises it with. -/
def HubError.message : HubError → String
  | .noSuitableModel => "No suitable model found for request"
  | .providerNotFound p => "Provider " ++ p ++ " not found"
  | .noEscalationPath e => "No escalation path available. Original error: " ++ e.message
  | .noApiKey name => "No API key provided for provider " ++ name
  | .unknownProviderType t => "Unknown provider type: " ++ t
  | .notBlockAligned => "The length of the provided data is not a multiple of the block length."
  | .external m => m

/-- The keyword arguments of a provider class (`**config`), their values as text. -/
abbrev Config := List (String × String)

/-- A `ProviderAdapter` instance: the class it was built by, and the key and keyword arguments it was built with. -/
structure ProviderAdapter where
  providerType : String
  apiKey : String
  config : Config
  deriving DecidableEq, Repr

/-- A provider class: its constructor `provider_class(api_key, **config)`, which may raise. -/
abbrev ProviderClass := String → Config → Except HubError ProviderAdapter

/-- `MockProviderAdapter`: builds an adapter of type `"mock"` and never raises. -/
def mockProviderAdapter : ProviderClass := fun apiKey config => .ok ⟨"mock", apiKey, config⟩

/-- One call of an adapter's `chat_completion`: the adapter and the request as it was sent. -/
structure ProviderCall where
  adapter : ProviderAdapter
  request : ChatRequest
  deriving DecidableEq, Repr

/-- What the backends answer: for each call, given every call made before it, a response or a raise. -/
def World := List ProviderCall → ProviderAdapter → ChatRequest → Except HubError ChatResponse

/-- `provider.chat_completion(request)`: the call is appended to the trace and answered by the world. -/
def chatCompletion (w : World) (adapter : ProviderAdapter) (request : ChatRequest) :
    Run HubError (List ProviderCall) ChatResponse :=
  fun calls => (w calls adapter request, calls ++ [⟨adapter, request⟩])

@[simp] theorem chatCompletion_apply (w : World) (adapter : ProviderAdapter) (request : ChatRequest)
    (calls : List ProviderCall) :
    chatCompletion w adapter request calls = (w calls adapter request, calls ++ [⟨adapter, request⟩]) := rfl

/-- `MockProviderAdapter.chat_completion` with its default models: it answers every call, under the request's model or,
when none is set, the first default model. -/
def mockWorld : World := fun _ _ request =>
  let model := if textTruthy request.model then request.model.getD "" else "mock-gpt-3.5"
  .ok ⟨"Mock response from " ++ model, model, 50, "stop"⟩

end TokenHub
