import TokenHub.Providers
import Mathlib.Algebra.Order.Ring.Rat

/-!
# The model catalog

`models.py`. A registry is a dict from names to metadata; the catalog the routing engine reads is its values in insertion
order (`listModels`). `register_model` keys a model by its own name, but `import_models` keys it by the name the data gives,
which need not be the model's: so two models of one name can both be listed, and nothing below assumes otherwise.

A cost is the value of a float, a rational, and costs compare as floats do, by value. The source types it `float`; a
JSON body that gives an integer cost is outside the model.
-/

namespace TokenHub

/-- `ModelMetadata`. -/
structure ModelMetadata where
  name : String
  provider : String
  costPer1kTokens : ℚ
  contextSize : Int
  weight : Int
  deriving DecidableEq, Repr

/-- `ModelRegistry`: its `_models` dict. -/
structure ModelRegistry where
  models : PyDict ModelMetadata

namespace ModelRegistry

/-- The models of `_initialize_default_models`, in order. -/
def defaultModels : List ModelMetadata :=
  [⟨"mock-gpt-3.5", "mock", 0.002, 4096, 50⟩, ⟨"mock-gpt-4", "mock", 0.03, 8192, 100⟩]

/-- `register_model`: the model under its own name. -/
def registerModel (r : ModelRegistry) (metadata : ModelMetadata) : ModelRegistry :=
  ⟨r.models.set metadata.name metadata⟩

/-- `ModelRegistry()`: an empty dict, then the default models registered in order. -/
def init : ModelRegistry := defaultModels.foldl registerModel ⟨PyDict.empty⟩

/-- `get_model`. -/
def getModel (r : ModelRegistry) (name : String) : Option ModelMetadata := r.models.get? name

/-- `list_models`: the models in insertion order, only those of the provider when one is given. -/
def listModels (r : ModelRegistry) (provider : Option String := none) : List ModelMetadata :=
  let models := r.models.values
  if textTruthy provider then models.filter (fun m => some m.provider = provider) else models

/-- `remove_model`: the registry without the model, and whether it was there. -/
def removeModel (r : ModelRegistry) (name : String) : ModelRegistry × Bool :=
  if r.models.contains name then (⟨r.models.erase name⟩, true) else (r, false)

/-- The registry's models that pass a test, heaviest first: `sorted(..., key=lambda m: m.weight, reverse=True)` of the
comprehension both `get_models_by_*` methods build, each with its own test. -/
def modelsByWeight (r : ModelRegistry) (keep : ModelMetadata → Bool) : List ModelMetadata :=
  pySort (·.weight) true (r.models.values.filter keep)

/-- `get_models_by_context_size`: the models of at least that context, heaviest first. -/
def getModelsByContextSize (r : ModelRegistry) (minContext : Int) : List ModelMetadata :=
  r.modelsByWeight (fun m => decide (m.contextSize ≥ minContext))

/-- `get_models_by_max_cost`: the models of at most that cost, heaviest first. -/
def getModelsByMaxCost (r : ModelRegistry) (maxCost : ℚ) : List ModelMetadata :=
  r.modelsByWeight (fun m => decide (m.costPer1kTokens ≤ maxCost))

/-- `export_models`: each model under its key, as `to_dict` gives it (a record of the same five fields). -/
def exportModels (r : ModelRegistry) : List (String × ModelMetadata) := r.models.entries

/-- `import_models`: each item of the data under the name it is given with (`from_dict` of a `to_dict` is the same
model). -/
def importModels (r : ModelRegistry) (data : List (String × ModelMetadata)) : ModelRegistry :=
  data.foldl (fun r d => ⟨r.models.set d.1 d.2⟩) r

@[simp] theorem getModel_registerModel (r : ModelRegistry) (m : ModelMetadata) (name : String) :
    (r.registerModel m).getModel name = if name = m.name then some m else r.getModel name := by
  simp [registerModel, getModel]

/-- A fresh registry lists the two default models, the cheaper one first. -/
example : init.listModels = defaultModels := rfl

end ModelRegistry

end TokenHub
