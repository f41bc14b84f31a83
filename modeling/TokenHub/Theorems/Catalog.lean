import TokenHub.Models
import TokenHub.Lemmas.StableSort

/-!
# The catalog: a save and a reload

The service saves the catalog with `export_models` and, on start, loads it into a fresh `ModelRegistry()` with
`import_models`. Setting a key that is there keeps its place and a new key goes last, so loading an export into a registry
whose keys begin the exported ones gives back exactly the exported registry, models and order (`importModels_exportModels`).
The two default models are the first keys of every registry the service reaches by registering and importing models
(`CatalogOp`), so a save and a reload restore each of them exactly (`reload_restores_catalog`): the routing engine, which
breaks ties by catalog order, chooses as before.
-/

namespace TokenHub

open ModelRegistry PyDict

/-- What the service does to its catalog: `register_model` (the `/admin/models` route) and `import_models` (the load at
start). -/
inductive CatalogOp where
  | registerModel (m : ModelMetadata)
  | importModels (data : List (String × ModelMetadata))

/-- The catalog after an operation. -/
def CatalogOp.apply (r : ModelRegistry) : CatalogOp → ModelRegistry
  | .registerModel m => r.registerModel m
  | .importModels data => r.importModels data

namespace CatalogAux

variable {α : Type}

theorem setItems_append_of_not_mem (k : String) (v : α) (pre rest : List (String × α)) (h : k ∉ pre.map Prod.fst) :
    setItems k v (pre ++ rest) = pre ++ setItems k v rest := by
  induction pre with
  | nil => rfl
  | cons e pre ih =>
    simp only [List.map_cons, List.mem_cons, not_or] at h
    rw [List.cons_append, setItems, if_neg (Ne.symm h.1), ih h.2, List.cons_append]

/-- Setting, one by one, the items of a dict of distinct keys into a list whose keys begin theirs gives those items. -/
theorem foldl_setItems_of_prefix (post : List (String × α)) :
    ∀ pre ds : List (String × α), ((pre ++ post).map Prod.fst).Nodup →
      List.IsPrefix (ds.map Prod.fst) (post.map Prod.fst) →
      post.foldl (fun acc d => setItems d.1 d.2 acc) (pre ++ ds) = pre ++ post := by
  induction post with
  | nil =>
    intro pre ds _ hp
    rw [List.map_nil, List.prefix_nil, List.map_eq_nil_iff] at hp
    subst hp
    rfl
  | cons e post ih =>
    intro pre ds hnd hp
    have hk : e.1 ∉ pre.map Prod.fst := by
      rw [List.map_append, List.map_cons, List.nodup_append] at hnd
      exact fun h => hnd.2.2 h (List.mem_cons_self _ _)
    have hnd' : ((pre ++ [e] ++ post).map Prod.fst).Nodup := by simpa using hnd
    rw [List.foldl_cons]
    rcases ds with _ | ⟨d, ds⟩
    · have h1 : setItems e.1 e.2 (pre ++ []) = pre ++ [e] := by
        rw [setItems_append_of_not_mem _ _ _ _ hk]
        rfl
      rw [h1]
      simpa using ih (pre ++ [e]) [] hnd' List.nil_prefix
    · rw [List.map_cons, List.map_cons, List.cons_prefix_cons] at hp
      have hd : setItems e.1 e.2 (d :: ds) = e :: ds := by rw [setItems, if_pos hp.1]
      rw [setItems_append_of_not_mem _ _ _ _ hk, hd, ← List.singleton_append, ← List.append_assoc,
        ih (pre ++ [e]) ds hnd' hp.2]
      simp

theorem entries_importModels (data : List (String × ModelMetadata)) :
    ∀ r : ModelRegistry, (r.importModels data).models.entries =
      data.foldl (fun acc d => setItems d.1 d.2 acc) r.models.entries := by
  induction data with
  | nil => intro r; rfl
  | cons d data ih => intro r; exact ih _

/-- Setting a key keeps the keys there as a prefix. -/
theorem keys_prefix_set (d : PyDict ModelMetadata) (k : String) (v : ModelMetadata) :
    List.IsPrefix d.keys (d.set k v).keys := by
  show List.IsPrefix (d.entries.map Prod.fst) ((setItems k v d.entries).map Prod.fst)
  rw [keys_setItems]
  split
  · exact List.prefix_refl _
  · exact List.prefix_append _ _

/-- Each operation of the service keeps the keys there as a prefix. -/
theorem keys_prefix_apply (r : ModelRegistry) (op : CatalogOp) : List.IsPrefix r.models.keys (op.apply r).models.keys := by
  cases op with
  | registerModel m => exact keys_prefix_set _ _ _
  | importModels data =>
    induction data generalizing r with
    | nil => exact List.prefix_refl _
    | cons d data ih => exact (keys_prefix_set r.models d.1 d.2).trans (ih _)

/-- Loading an export into a registry whose keys begin the exported ones gives back the exported registry. -/
theorem importModels_exportModels (r₀ r : ModelRegistry) (h : List.IsPrefix r₀.models.keys r.models.keys) :
    r₀.importModels r.exportModels = r := by
  have heta : ∀ r' : ModelRegistry, r' = ⟨r'.models⟩ := fun _ => rfl
  rw [heta (r₀.importModels _), heta r]
  congr 1
  apply PyDict.ext_entries
  rw [entries_importModels]
  exact foldl_setItems_of_prefix r.models.entries [] r₀.models.entries r.models.nodup h

end CatalogAux

open CatalogAux

/-- Every catalog the service reaches from `ModelRegistry()` by registering and importing models is restored exactly by a
save and a reload into a fresh `ModelRegistry()`. -/
theorem reload_restores_catalog (ops : List CatalogOp) :
    ModelRegistry.init.importModels (ops.foldl CatalogOp.apply ModelRegistry.init).exportModels =
      ops.foldl CatalogOp.apply ModelRegistry.init := by
  apply importModels_exportModels
  suffices h : ∀ r, List.IsPrefix ModelRegistry.init.models.keys r.models.keys →
      List.IsPrefix ModelRegistry.init.models.keys (ops.foldl CatalogOp.apply r).models.keys from
    h _ (List.prefix_refl _)
  induction ops with
  | nil => exact fun _ h => h
  | cons op ops ih => exact fun r h => ih _ (h.trans (keys_prefix_apply r op))

end TokenHub
