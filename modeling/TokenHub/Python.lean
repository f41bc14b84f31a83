import Mathlib.Data.List.Nodup
import Mathlib.Data.List.Sort

/-!
# What the model takes from Python

The pieces of the language that the modules read through: a `dict` keeps its keys in insertion order, an assignment to a
key it holds replaces the value in place, and no key is held twice (`PyDict`, whose key list is `Nodup` by construction);
`sorted` is stable (`pySort`); an `Optional` number or text is false when it is `None` or zero or empty (`numTruthy`,
`textTruthy`); and a method that raises
keeps every assignment it made before the raise (`Run`: a state function whose result is an `Except`, so that the state
comes back on both paths). `Run` is `ExceptT ε (StateM σ)` unfolded, with its own `bind` so that `simp` reads a `do` block
step by step.
-/

namespace TokenHub

/-! ## Dictionaries in insertion order -/

namespace PyDict

variable {α : Type}

/-- `d[k] = v` on the items of a dict: the item of key `k` takes the new value in its place, and a new key goes last. -/
def setItems (k : String) (v : α) : List (String × α) → List (String × α)
  | [] => [(k, v)]
  | e :: es => if e.1 = k then (k, v) :: es else e :: setItems k v es

theorem lookup_cons_eq (j : String) (e : String × α) (es : List (String × α)) :
    (e :: es).lookup j = if j = e.1 then some e.2 else es.lookup j := by
  obtain ⟨k, b⟩ := e
  rw [List.lookup_cons]
  by_cases h : j = k
  · subst h
    simp
  · simp [beq_false_of_ne h, h]

theorem lookup_setItems (k j : String) (v : α) (es : List (String × α)) :
    (setItems k v es).lookup j = if j = k then some v else es.lookup j := by
  induction es with
  | nil => simp [setItems, lookup_cons_eq]
  | cons e es ih =>
    by_cases he : e.1 = k
    · by_cases hj : j = k <;> simp [setItems, he, lookup_cons_eq, hj]
    · by_cases hj : j = e.1
      · simp [setItems, he, lookup_cons_eq, hj, Ne.symm he]
      · simp [setItems, he, lookup_cons_eq, hj, ih]

theorem keys_setItems (k : String) (v : α) (es : List (String × α)) :
    (setItems k v es).map Prod.fst = if k ∈ es.map Prod.fst then es.map Prod.fst else es.map Prod.fst ++ [k] := by
  induction es with
  | nil => simp [setItems]
  | cons e es ih =>
    by_cases he : e.1 = k
    · simp [setItems, he]
    · by_cases hk : k ∈ es.map Prod.fst <;> simp_all [setItems, Ne.symm he]

theorem lookup_filter_ne (k j : String) (es : List (String × α)) :
    (es.filter (fun e => e.1 ≠ k)).lookup j = if j = k then none else es.lookup j := by
  induction es with
  | nil => simp
  | cons e es ih =>
    rw [List.filter_cons, lookup_cons_eq]
    by_cases he : e.1 = k
    · rw [if_neg (by simp [he]), ih]
      by_cases hj : j = k
      · simp [hj]
      · rw [if_neg hj, if_neg hj, if_neg (fun h => hj (h.trans he))]
    · rw [if_pos (by simp [he]), lookup_cons_eq, ih]
      by_cases hj : j = e.1
      · rw [if_pos hj, if_neg (fun h => he (hj ▸ h)), if_pos hj]
      · rw [if_neg hj, if_neg hj]

end PyDict

/-- A Python `dict` with text keys: its items in insertion order, no key twice. -/
structure PyDict (α : Type) where
  entries : List (String × α)
  nodup : (entries.map Prod.fst).Nodup

namespace PyDict

variable {α : Type}

/-- `{}`. -/
def empty : PyDict α := ⟨[], List.nodup_nil⟩

/-- `list(d.keys())`. -/
def keys (d : PyDict α) : List String := d.entries.map Prod.fst

/-- `list(d.values())`. -/
def values (d : PyDict α) : List α := d.entries.map Prod.snd

/-- `d.get(k)`. -/
def get? (d : PyDict α) (k : String) : Option α := d.entries.lookup k

/-- `k in d`. -/
def contains (d : PyDict α) (k : String) : Bool := (d.get? k).isSome

/-- `d[k] = v`. -/
def set (d : PyDict α) (k : String) (v : α) : PyDict α :=
  ⟨setItems k v d.entries, by
    rw [keys_setItems]
    split
    · exact d.nodup
    · rename_i h
      exact d.nodup.append (List.nodup_singleton k) (List.disjoint_singleton.mpr h)⟩

/-- `del d[k]` (the source deletes only a key it has checked for). -/
def erase (d : PyDict α) (k : String) : PyDict α :=
  ⟨d.entries.filter (fun e => e.1 ≠ k), d.nodup.sublist ((List.filter_sublist _).map _)⟩

/-- `d.clear()`. -/
def clear (_ : PyDict α) : PyDict α := empty

/-- Two dicts of the same items are the same dict. -/
theorem ext_entries {d e : PyDict α} (h : d.entries = e.entries) : d = e := by
  cases d
  cases e
  cases h
  rfl

@[simp] theorem get?_empty (k : String) : (empty : PyDict α).get? k = none := rfl

@[simp] theorem get?_set (d : PyDict α) (k j : String) (v : α) :
    (d.set k v).get? j = if j = k then some v else d.get? j :=
  lookup_setItems k j v d.entries

@[simp] theorem get?_erase (d : PyDict α) (k j : String) :
    (d.erase k).get? j = if j = k then none else d.get? j :=
  lookup_filter_ne k j d.entries

@[simp] theorem get?_clear (d : PyDict α) (k : String) : d.clear.get? k = none := rfl

end PyDict

/-! ## Sorting -/

/-- Python's `sum` over naturals: added from the left, starting at `0`. -/
def pySum (l : List Nat) : Nat := l.foldl (· + ·) 0

/-- `sorted(l, key=key, reverse=reverse)`, and `l.sort(key=key, reverse=reverse)` in place. Python's sort is stable, with
`reverse` too: items of equal key keep their order. The library's insertion sort is stable, and a stable sort's result is
fixed by the order of the keys, so the two agree on every list. -/
def pySort {α β : Type} [LinearOrder β] (key : α → β) (reverse : Bool) (l : List α) : List α :=
  l.insertionSort (fun a b => if reverse then key b ≤ key a else key a ≤ key b)

/-! ## Truth values -/

/-- Python's truth value of an optional number: `None` and zero are false. -/
def numTruthy {α : Type} [Zero α] [DecidableEq α] : Option α → Bool
  | some x => x ≠ 0
  | none => false

/-- Python's truth value of an optional text: `None` and the empty text are false. -/
def textTruthy : Option String → Bool
  | some s => !s.isEmpty
  | none => false

@[simp] theorem numTruthy_none {α : Type} [Zero α] [DecidableEq α] : numTruthy (none : Option α) = false := rfl

@[simp] theorem numTruthy_some {α : Type} [Zero α] [DecidableEq α] (x : α) : numTruthy (some x) = decide (x ≠ 0) := rfl

/-! ## Raising with the state kept -/

/-- A method of an object of state `σ` that returns an `α` or raises an `ε`: the state comes back on both paths, with every
assignment made before a raise. -/
def Run (ε σ α : Type) : Type := σ → Except ε α × σ

namespace Run

variable {ε σ α β : Type}

/-- Sequencing: a raise skips the rest, and keeps the state it was raised in. -/
def bind (x : Run ε σ α) (f : α → Run ε σ β) : Run ε σ β := fun s =>
  match x s with
  | (.ok a, s') => f a s'
  | (.error e, s') => (.error e, s')

instance : Monad (Run ε σ) where
  pure a := fun s => (.ok a, s)
  bind := Run.bind

instance : MonadExceptOf ε (Run ε σ) where
  throw e := fun s => (.error e, s)
  tryCatch x h := fun s =>
    match x s with
    | (.ok a, s') => (.ok a, s')
    | (.error e, s') => h e s'

/-- Read the state. -/
def get : Run ε σ σ := fun s => (.ok s, s)

/-- Replace the state. -/
def set (s : σ) : Run ε σ Unit := fun _ => (.ok (), s)

/-- A computation that touches no state: it raises or returns, and the state is as it was. -/
def lift (x : Except ε α) : Run ε σ α := fun s => (x, s)

@[simp] theorem bind_apply (x : Run ε σ α) (f : α → Run ε σ β) (s : σ) :
    (x >>= f) s = match x s with
      | (.ok a, s') => f a s'
      | (.error e, s') => (.error e, s') := rfl

@[simp] theorem pure_apply (a : α) (s : σ) : (pure a : Run ε σ α) s = (.ok a, s) := rfl

@[simp] theorem throw_apply (e : ε) (s : σ) : (throw e : Run ε σ α) s = (.error e, s) := rfl

@[simp] theorem tryCatch_apply (x : Run ε σ α) (h : ε → Run ε σ α) (s : σ) :
    (tryCatch x h) s = match x s with
      | (.ok a, s') => (.ok a, s')
      | (.error e, s') => h e s' := rfl

@[simp] theorem get_apply (s : σ) : (get : Run ε σ σ) s = (.ok s, s) := rfl

@[simp] theorem set_apply (s s' : σ) : (set s' : Run ε σ Unit) s = (.ok (), s') := rfl

@[simp] theorem lift_apply (x : Except ε α) (s : σ) : (lift x : Run ε σ α) s = (x, s) := rfl

@[simp] theorem map_apply (f : α → β) (x : Run ε σ α) (s : σ) :
    (f <$> x) s = match x s with
      | (.ok a, s') => (.ok (f a), s')
      | (.error e, s') => (.error e, s') := by
  show (x >>= fun a => pure (f a)) s = _
  simp only [bind_apply, pure_apply]

/-- A sequence that returns: its first part returned, and the rest returned from there. -/
theorem bind_eq_ok {x : Run ε σ α} {f : α → Run ε σ β} {s s' : σ} {b : β} (h : (x >>= f) s = (.ok b, s')) :
    ∃ a s₁, x s = (.ok a, s₁) ∧ f a s₁ = (.ok b, s') := by
  rw [bind_apply] at h
  rcases hx : x s with ⟨_ | a, s₁⟩ <;> rw [hx] at h
  · cases h
  · exact ⟨a, s₁, rfl, h⟩

/-- A sequence that raises: its first part raised, or it returned and the rest raised. -/
theorem bind_eq_error {x : Run ε σ α} {f : α → Run ε σ β} {s s' : σ} {e : ε} (h : (x >>= f) s = (.error e, s')) :
    x s = (.error e, s') ∨ ∃ a s₁, x s = (.ok a, s₁) ∧ f a s₁ = (.error e, s') := by
  rw [bind_apply] at h
  rcases hx : x s with ⟨_ | a, s₁⟩ <;> rw [hx] at h
  · cases h
    exact .inl rfl
  · exact .inr ⟨a, s₁, rfl, h⟩

/-- A mapped computation raises exactly when the computation raises, with the same state. -/
theorem map_eq_error {f : α → β} {x : Run ε σ α} {s s' : σ} {e : ε} :
    (f <$> x) s = (.error e, s') ↔ x s = (.error e, s') := by
  rw [map_apply]
  rcases x s with ⟨_ | a, s₁⟩ <;> simp

/-- A mapped computation that returns: the computation returned, and its result is mapped. -/
theorem map_eq_ok {f : α → β} {x : Run ε σ α} {s s' : σ} {b : β} (h : (f <$> x) s = (.ok b, s')) :
    ∃ a, x s = (.ok a, s') ∧ f a = b := by
  rw [map_apply] at h
  rcases hx : x s with ⟨_ | a, s₁⟩ <;> rw [hx] at h <;> cases h
  exact ⟨a, rfl, rfl⟩

/-- Mapping the result leaves the state as it is. -/
@[simp] theorem bind_pure_snd (x : Run ε σ α) (f : α → β) (s : σ) : ((x >>= fun a => pure (f a)) s).2 = (x s).2 := by
  simp only [bind_apply, pure_apply]
  rcases x s with ⟨_ | _, _⟩ <;> rfl

theorem bind_pure_comp (x : Run ε σ α) : (x >>= fun a => pure a) = x := by
  funext s
  simp only [bind_apply, pure_apply]
  rcases x s with ⟨_ | _, _⟩ <;> rfl

theorem bind_assoc' {γ : Type} (x : Run ε σ α) (f : α → Run ε σ β) (g : β → Run ε σ γ) :
    x >>= f >>= g = x >>= fun a => f a >>= g := by
  funext s
  simp only [bind_apply]
  rcases x s with ⟨_ | _, _⟩ <;> rfl

instance : LawfulMonad (Run ε σ) := LawfulMonad.mk' (Run ε σ) bind_pure_comp (fun _ _ => rfl) bind_assoc'

end Run

end TokenHub
