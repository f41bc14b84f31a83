import TokenHub.Persistence
import TokenHub.Theorems.Catalog

/-!
# The database's two writes and two reads, each said once

`save_models` writes every item when each model's context size and weight fit in 64 bits, and raises before the commit
otherwise (`saveModels_eq`). Written over a table whose names are among the items', the table is the items' rows in order
(`writeRows_entries`), and `load_models` reads a table of distinct names back row by row (`loadModels_eq`). The vault's
row is read back as it was written (`loadVaultData_saveVaultData`).
-/

namespace TokenHub

namespace PyDict

theorem mem_setItems {α : Type} {k : String} {v : α} {e : String × α} :
    ∀ {es : List (String × α)}, e ∈ setItems k v es → e = (k, v) ∨ e ∈ es
  | [], h => .inl (List.mem_singleton.mp h)
  | d :: es, h => by
    unfold setItems at h
    split at h
    · rcases List.mem_cons.mp h with h | h
      · exact .inl h
      · exact .inr (List.mem_cons_of_mem _ h)
    · rcases List.mem_cons.mp h with h | h
      · exact .inr (h ▸ List.mem_cons_self _ _)
      · exact (mem_setItems h).imp id (List.mem_cons_of_mem _)

theorem mem_entries_of_get? {α : Type} {d : PyDict α} {k : String} {v : α} (h : d.get? k = some v) :
    (k, v) ∈ d.entries := by
  obtain ⟨es, _⟩ := d
  show (k, v) ∈ es
  induction es with
  | nil => cases h
  | cons e es ih =>
    change (e :: es).lookup k = some v at h
    rw [lookup_cons_eq] at h
    split at h
    · cases h
      rename_i hk
      exact hk ▸ List.mem_cons_self _ _
    · exact List.mem_cons_of_mem _ (ih (List.nodup_cons.mp ‹_›).2 h)

/-- A value of `d[k] = v` is `v` or a value `d` had. -/
theorem mem_values_set {α : Type} {d : PyDict α} {k : String} {v a : α} (h : a ∈ (d.set k v).values) :
    a = v ∨ a ∈ d.values := by
  obtain ⟨e, he, rfl⟩ := List.mem_map.mp h
  exact (mem_setItems he).imp (congrArg Prod.snd) (List.mem_map_of_mem Prod.snd)

/-- A key of `d[k] = v` is `k` or a key `d` had. -/
theorem mem_keys_set {α : Type} (d : PyDict α) (k j : String) (v : α) :
    j ∈ (d.set k v).keys ↔ j = k ∨ j ∈ d.keys := by
  show j ∈ (setItems k v d.entries).map Prod.fst ↔ j = k ∨ j ∈ d.entries.map Prod.fst
  rw [keys_setItems]
  split
  · exact ⟨.inr, fun h => h.elim (fun hj => hj ▸ ‹_›) id⟩
  · rw [List.mem_append, List.mem_singleton, or_comm]

end PyDict

namespace Database

open PyDict CatalogAux

/-- A model whose context size and weight fit in 64 bits: `save_models` can bind its row. -/
def Bindable (m : ModelMetadata) : Prop :=
  (-2 ^ 63 ≤ m.contextSize ∧ m.contextSize < 2 ^ 63) ∧ (-2 ^ 63 ≤ m.weight ∧ m.weight < 2 ^ 63)

instance (m : ModelMetadata) : Decidable (Bindable m) := inferInstanceAs (Decidable (_ ∧ _))

/-- The row `save_models` writes for an item. -/
def rowOf (item : String × ModelMetadata) : ModelRow :=
  ⟨item.1, item.2.provider, item.2.costPer1kTokens, item.2.contextSize, item.2.weight⟩

@[simp] theorem rowOf_name (item : String × ModelMetadata) : (rowOf item).name = item.1 := rfl

/-- The table after writing the rows of some items, one `INSERT OR REPLACE` each. -/
def writeRows (rows : List ModelRow) (items : List (String × ModelMetadata)) : List ModelRow :=
  items.foldl (fun rows item => insertOrReplace rows (rowOf item)) rows

theorem saveModel_eq (rows : List ModelRow) (item : String × ModelMetadata) :
    saveModel rows item = if Bindable item.2 then .ok (insertOrReplace rows (rowOf item)) else .error overflowError := by
  unfold saveModel bindInteger
  by_cases hc : -2 ^ 63 ≤ item.2.contextSize ∧ item.2.contextSize < 2 ^ 63
  · by_cases hw : -2 ^ 63 ≤ item.2.weight ∧ item.2.weight < 2 ^ 63
    · rw [if_pos (show Bindable item.2 from ⟨hc, hw⟩), if_pos hc, if_pos hw]
      rfl
    · rw [if_neg (show ¬Bindable item.2 from fun h => hw h.2), if_pos hc, if_neg hw]
      rfl
  · rw [if_neg (show ¬Bindable item.2 from fun h => hc h.1), if_neg hc]
    rfl

theorem foldlM_saveModel (items : List (String × ModelMetadata)) : ∀ rows : List ModelRow,
    items.foldlM saveModel rows =
      if ∀ item ∈ items, Bindable item.2 then .ok (writeRows rows items) else .error overflowError := by
  induction items with
  | nil => intro rows; rfl
  | cons item items ih =>
    intro rows
    rw [List.foldlM_cons, saveModel_eq]
    by_cases h : Bindable item.2
    · simp only [if_pos h, List.forall_mem_cons, h, true_and]
      exact ih _
    · simp only [if_neg h, List.forall_mem_cons, h, false_and]
      rfl

/-- `save_models`: the rows written and committed when every model can be bound, else the `OverflowError` and no change. -/
theorem saveModels_eq (db : Database) (items : List (String × ModelMetadata)) :
    db.saveModels items =
      if ∀ item ∈ items, Bindable item.2 then .ok { db with models := writeRows db.models items }
      else .error overflowError := by
  unfold saveModels
  rw [foldlM_saveModel]
  split <;> rfl

/-- Writing items of distinct keys: the rows of other names, then the items' rows in order. -/
theorem writeRows_eq (items : List (String × ModelMetadata)) (h : (items.map Prod.fst).Nodup) :
    ∀ rows : List ModelRow, writeRows rows items = rows.filter (fun r => r.name ∉ items.map Prod.fst) ++ items.map rowOf := by
  induction items with
  | nil => intro rows; simp [writeRows]
  | cons item items ih =>
    intro rows
    rw [List.map_cons, List.nodup_cons] at h
    have hrest : ∀ rows, writeRows rows items = _ := ih h.2
    show writeRows (insertOrReplace rows (rowOf item)) items = _
    have hkept : (rowOf item).name ∉ items.map Prod.fst := h.1
    rw [hrest, insertOrReplace, List.filter_append, List.filter_filter, List.filter_singleton, decide_eq_true hkept,
      cond_true, List.append_assoc, List.singleton_append, List.map_cons]
    congr 1
    apply List.filter_congr
    intro r _
    by_cases hr : r.name = item.1 <;> simp [hr]

/-- Writing the items of a dict over a table whose names are among its keys gives the dict's rows, in its order. -/
theorem writeRows_entries (d : PyDict ModelMetadata) (rows : List ModelRow) (hrows : ∀ r ∈ rows, r.name ∈ d.keys) :
    writeRows rows d.entries = d.entries.map rowOf := by
  rw [writeRows_eq _ d.nodup, List.filter_eq_nil_iff.mpr, List.nil_append]
  intro r hr
  simpa only [decide_eq_true_eq, not_not] using hrows r hr

theorem entries_foldl_set {β : Type} (f : β → String × ModelMetadata) (rows : List β) :
    ∀ d : PyDict ModelMetadata, (rows.foldl (fun d row => d.set (f row).1 (f row).2) d).entries =
      (rows.map f).foldl (fun acc e => setItems e.1 e.2 acc) d.entries := by
  induction rows with
  | nil => intro d; rfl
  | cons row rows ih => intro d; exact ih _

/-- `load_models` on a table of distinct names: each row's data under its name, in rowid order. -/
theorem loadModels_eq (db : Database) (h : (db.models.map ModelRow.name).Nodup) :
    db.loadModels = db.models.map fun row => (row.name, row.data) := by
  unfold loadModels
  rw [entries_foldl_set (fun row : ModelRow => (row.name, row.data))]
  exact foldl_setItems_of_prefix _ [] [] (by simpa [Function.comp_def] using h) List.nil_prefix

@[simp] theorem loadVaultData_saveVaultData (db : Database) (e : Exported) :
    (db.saveVaultData e).loadVaultData = some e := rfl

@[simp] theorem loadVaultData_empty : empty.loadVaultData = none := rfl

@[simp] theorem loadModels_empty : empty.loadModels = [] := rfl

end Database

end TokenHub
