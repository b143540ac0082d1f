import Mathlib.Data.Fintype.Basic
import Mathlib.Data.List.FinRange
import Mathlib.Data.List.Perm.Basic

/-!
# Tables

A table of `n` slots is a function on `Fin n`. `firstIndex` is the linear search of such
tables: the lowest index whose slot meets a condition. A slot that is cleared is occupied no more,
and the others are as before (`occupied_clear`).

A dense table is a list without holes. `fillHole` removes an entry by moving the last one into its
place, which is the table without the entry up to order (`fillHole_perm`). `removeFirst` searches for
the entry first; tables whose entries stand for each other stay in step (`removeFirst_map`).
-/

set_option autoImplicit false

namespace SlotTable

variable {n : ℕ} {α : Type*}

/-- The lowest index whose slot meets the condition. -/
def firstIndex (meets : α → Bool) (table : Fin n → α) : Option (Fin n) :=
  (List.finRange n).find? fun i => meets (table i)

theorem firstIndex_meets {meets : α → Bool} {table : Fin n → α} {i : Fin n}
    (found : firstIndex meets table = some i) : meets (table i) = true :=
  List.find?_some (p := fun i => meets (table i)) found

/-- An occupied slot of a table in which one slot was cleared is another slot, left alone. -/
theorem occupied_clear (occupied : α → Prop) {empty : α} (free : ¬ occupied empty)
    {table : Fin n → α} {i j : Fin n} (stays : occupied (Function.update table i empty j)) :
    j ≠ i ∧ Function.update table i empty j = table j := by
  have differs : j ≠ i := by
    rintro rfl
    rw [Function.update_self] at stays
    exact free stays
  exact ⟨differs, Function.update_of_ne differs _ _⟩

/-! ## Dense tables -/

/-- The last entry of a dense table takes the place of the entry at an index. -/
def fillHole (table : List α) (i : ℕ) (noEntry : α) : List α :=
  (table.set i (table.getLastD noEntry)).dropLast

theorem fillHole_concat_of_lt {init : List α} {i : ℕ} (inside : i < init.length)
    (last noEntry : α) : fillHole (init ++ [last]) i noEntry = init.set i last := by
  rw [fillHole, List.getLastD_concat, List.set_append_left i _ inside, List.dropLast_concat]

theorem fillHole_concat_length (init : List α) (last noEntry : α) :
    fillHole (init ++ [last]) init.length noEntry = init := by
  rw [fillHole, List.set_append_right _ _ le_rfl, Nat.sub_self, List.set_cons_zero,
    List.dropLast_concat]

/-- **Moving the last entry into a hole removes the entry of the hole**, and no other. -/
theorem fillHole_perm {table : List α} {i : ℕ} (bound : i < table.length) (noEntry : α) :
    (fillHole table i noEntry).Perm (table.eraseIdx i) := by
  rcases List.eq_nil_or_concat' table with rfl | ⟨init, last, rfl⟩
  · cases bound
  rw [List.length_append, List.length_singleton, Nat.lt_succ_iff] at bound
  rcases bound.lt_or_eq with inside | rfl
  · rw [fillHole_concat_of_lt inside, List.eraseIdx_append_of_lt_length inside]
    exact (List.set_perm_cons_eraseIdx inside last).trans (List.perm_append_singleton _ _).symm
  · rw [fillHole_concat_length, List.eraseIdx_append_of_length_le le_rfl]
    simp

/-- The entries in front of the hole stay. -/
theorem fillHole_getElem? {table : List α} {i j : ℕ} (bound : i < table.length) (before : j < i)
    (noEntry : α) : (fillHole table i noEntry)[j]? = table[j]? := by
  rw [fillHole, List.getElem?_dropLast, List.length_set, if_pos (by omega),
    List.getElem?_set_ne (by omega)]

theorem fillHole_take {table : List α} {i : ℕ} (bound : i < table.length) (noEntry : α) :
    (fillHole table i noEntry).take i = table.take i := by
  apply List.ext_getElem?
  intro j
  rw [List.getElem?_take, List.getElem?_take]
  split
  · rename_i before
    exact fillHole_getElem? bound before noEntry
  · rfl

/-- Behind the hole are the entries that were behind it, up to order. -/
theorem fillHole_drop_perm {table : List α} {i : ℕ} (bound : i < table.length) (noEntry : α) :
    ((fillHole table i noEntry).drop i).Perm (table.drop (i + 1)) := by
  have whole := fillHole_perm bound noEntry
  rw [List.eraseIdx_eq_take_drop_succ, ← List.take_append_drop i (fillHole table i noEntry),
    fillHole_take bound] at whole
  exact (List.perm_append_left_iff _).mp whole

theorem fillHole_map {β : Type*} (f : α → β) {table : List α} {i : ℕ} (bound : i < table.length)
    (noEntry : α) (noImage : β) :
    (fillHole table i noEntry).map f = fillHole (table.map f) i noImage := by
  rcases List.eq_nil_or_concat' table with rfl | ⟨init, last, rfl⟩
  · cases bound
  · simp only [fillHole, List.getLastD_concat, List.map_append, List.map_singleton,
      List.map_dropLast, List.map_set]

/-- Remove the first occurrence of an entry. -/
def removeFirst [DecidableEq α] (table : List α) (x noEntry : α) : List α :=
  (table.findIdx? fun entry => decide (entry = x)).elim table fun i => fillHole table i noEntry

theorem removeFirst_perm [DecidableEq α] (table : List α) (x noEntry : α) :
    (removeFirst table x noEntry).Perm (table.erase x) := by
  rw [removeFirst, List.erase_eq_eraseP', List.eraseP_eq_eraseIdx]
  have same : (fun entry => decide (entry = x)) = fun entry => entry == x := rfl
  rw [same]
  cases found : table.findIdx? fun entry => entry == x with
  | none => rfl
  | some i => exact fillHole_perm (List.findIdx?_eq_some_iff_getElem.mp found).1 noEntry

theorem removeFirst_of_not_mem [DecidableEq α] {table : List α} {x : α} (absent : x ∉ table)
    (noEntry : α) : removeFirst table x noEntry = table := by
  have nowhere : table.findIdx? (fun entry => decide (entry = x)) = none := by
    refine List.findIdx?_eq_none_iff.mpr fun entry member => decide_eq_false ?_
    rintro rfl
    exact absent member
  rw [removeFirst, nowhere]
  rfl

/-- An entry that was added last is removed again. -/
theorem removeFirst_concat [DecidableEq α] {table : List α} {x : α} (absent : x ∉ table)
    (noEntry : α) : removeFirst (table ++ [x]) x noEntry = table := by
  have last : (table ++ [x]).findIdx? (fun entry => decide (entry = x)) = some table.length := by
    refine List.findIdx?_eq_some_iff_getElem.mpr ⟨by simp, by simp, fun i before => ?_⟩
    rw [List.getElem_append_left before, decide_eq_true_eq]
    rintro rfl
    exact absent (List.getElem_mem before)
  rw [removeFirst, last]
  exact fillHole_concat_length table x noEntry

/-- **An entry and its image are removed from both tables.** -/
theorem removeFirst_map {β : Type*} [DecidableEq α] [DecidableEq β] {f : α → β} {table : List α}
    {x : α} (distinct : ∀ entry ∈ table, f entry = f x → entry = x) (noEntry : α) (noImage : β) :
    (removeFirst table x noEntry).map f = removeFirst (table.map f) (f x) noImage := by
  have same : (table.map f).findIdx? (fun entry => decide (entry = f x)) =
      table.findIdx? fun entry => decide (entry = x) := by
    clear noEntry noImage
    induction table with
    | nil => rfl
    | cons first rest ih =>
        have here : decide (f first = f x) = decide (first = x) :=
          decide_eq_decide.mpr ⟨distinct first List.mem_cons_self, congrArg f⟩
        have later := ih fun entry member => distinct entry (List.mem_cons_of_mem first member)
        rw [List.map_cons, List.findIdx?_cons, List.findIdx?_cons, here, later]
  rw [removeFirst, removeFirst, same]
  cases found : table.findIdx? fun entry => decide (entry = x) with
  | none => rfl
  | some i => exact fillHole_map f (List.findIdx?_eq_some_iff_getElem.mp found).1 noEntry noImage

theorem fillHole_length (table : List α) (i : ℕ) (noEntry : α) :
    (fillHole table i noEntry).length = table.length - 1 := by
  rw [fillHole, List.length_dropLast, List.length_set]

end SlotTable
