import TokenHub.Python

/-!
# The first item of a stable sort

`select_model` and `_escalate_request` sort their candidates and return the first. Here, which item that is: the first item
of the list, in the list's own order, among those that stand in the sort's relation to every item (`head?_insertionSort`).
For `pySort` by a key this is the first item of greatest key, with `reverse`, or of least key without
(`head?_pySort_reverse`, `head?_pySort`). The proof follows the insertion sort: inserting an item in front of a sorted tail
puts it first exactly when it stands in the relation to the tail's first item.
-/

namespace TokenHub

namespace StableSortAux

variable {α : Type} (r : α → α → Prop) [DecidableRel r]

/-- Inserting `a` puts it first when it is in relation to the first item, and keeps the first item otherwise. -/
theorem head?_orderedInsert (a : α) (s : List α) :
    (s.orderedInsert r a).head? = some (match s.head? with
      | none => a
      | some b => if r a b then a else b) := by
  cases s with
  | nil => rfl
  | cons b s => by_cases h : r a b <;> simp [List.orderedInsert, h]

/-- The first item of a sort by a total and transitive relation is the first item of the list that stands in the
relation to every item of the list. -/
theorem head?_insertionSort (total : ∀ a b, r a b ∨ r b a) (trans : ∀ a b c, r a b → r b c → r a c) (l : List α) :
    (l.insertionSort r).head? = (l.filter (fun m => decide (∀ x ∈ l, r m x))).head? := by
  induction l with
  | nil => rfl
  | cons a l ih =>
    have refl : r a a := (total a a).elim id id
    rw [List.insertionSort, head?_orderedInsert]
    rcases hH : (l.insertionSort r).head? with _ | b
    · have hl : l = [] := by
        rw [← List.length_eq_zero, ← List.length_insertionSort r l, List.length_eq_zero, ← List.head?_eq_none_iff, hH]
      subst hl
      simp [refl]
    · rw [ih] at hH
      have hb : b ∈ l ∧ ∀ x ∈ l, r b x := by simpa using List.mem_of_mem_head? hH
      by_cases hab : r a b
      · have hlead : ∀ x ∈ l, r a x := fun x hx => trans _ _ _ hab (hb.2 x hx)
        rw [List.filter_cons, if_pos (by simpa using ⟨refl, hlead⟩)]
        simp [hab]
      · have hba : r b a := (total a b).resolve_left hab
        have hcongr : ∀ m ∈ l, decide (∀ x ∈ a :: l, r m x) = decide (∀ x ∈ l, r m x) := by
          intro m _
          simp only [List.mem_cons, forall_eq_or_imp, decide_eq_decide, and_iff_right_iff_imp]
          exact fun h => trans _ _ _ (h b hb.1) hba
        rw [List.filter_cons, if_neg (by simpa using fun _ => ⟨b, hb.1, hab⟩), List.filter_congr hcongr, hH]
        simp [hab]

end StableSortAux

open StableSortAux

variable {α β : Type} [LinearOrder β] (key : α → β) (l : List α)

/-- The first item of a sort by a key, `reverse=True`: the first item of the list among those of greatest key. -/
theorem head?_pySort_reverse :
    (pySort key true l).head? = (l.filter (fun m => decide (∀ x ∈ l, key x ≤ key m))).head? := by
  simpa using head?_insertionSort (fun a b => if true then key b ≤ key a else key a ≤ key b)
    (fun a b => by simpa using le_total (key b) (key a)) (fun a b c h h' => by simpa using h'.trans h) l

/-- The first item of a sort by a key: the first item of the list among those of least key. -/
theorem head?_pySort :
    (pySort key false l).head? = (l.filter (fun m => decide (∀ x ∈ l, key m ≤ key x))).head? := by
  simpa using head?_insertionSort (fun a b => if false then key b ≤ key a else key a ≤ key b)
    (fun a b => by simpa using le_total (key a) (key b)) (fun a b c h h' => by simpa using h.trans h') l

/-- A sort loses and adds nothing: its items are the list's. -/
@[simp] theorem mem_pySort (reverse : Bool) (x : α) : x ∈ pySort key reverse l ↔ x ∈ l :=
  List.mem_insertionSort _

/-- A sort of a list is empty only when the list is. -/
@[simp] theorem pySort_eq_nil (reverse : Bool) : pySort key reverse l = [] ↔ l = [] := by
  rw [← List.length_eq_zero, pySort, List.length_insertionSort, List.length_eq_zero]

end TokenHub
