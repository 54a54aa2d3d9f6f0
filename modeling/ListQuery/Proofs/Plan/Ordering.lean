import ListQuery.Proofs.Order.StableSort
import ListQuery.Proofs.Value.Sorting

/-! Rows in the order of a plan. Where the values under each key are of one kind, nulls among them,
the keys put the rows in a line, one key after the other and each in its direction. Then sorting is
stable, any other stable sort comes to the same list, and so does sorting by one key at a time, the
least important first. -/

namespace ListQuery

variable {α : Type} [Record α] {rows : List α}

/-- The order of two rows by a key. -/
def SortKey.rowOrder (key : SortKey) (a b : α) : Ordering :=
  key.order (Record.value a) (Record.value b)

/-- The order of two rows by a plan. -/
def SortPlan.rowOrder (plan : SortPlan) (a b : α) : Ordering :=
  plan.order (Record.value a) (Record.value b)

/-- Under each key the rows have values of one kind, or null. -/
def SortPlan.Uniform (plan : SortPlan) (rows : List α) : Prop :=
  ∀ key ∈ plan.keys, Value.OfOneKind (rows.map fun row => key.target.key (Record.value row))

/-- A key puts rows in a line, in either direction. -/
theorem SortKey.orders {key : SortKey}
    (one : Value.OfOneKind (rows.map fun row => key.target.key (Record.value row))) :
    Orders key.rowOrder (· ∈ rows) := by
  have values := Value.sortCompare_orders (Value.roundsApart_of_oneKind one)
  have ascending : Orders (fun a b : α => (key.target.key (Record.value a)).sortCompare
      (key.target.key (Record.value b))) (· ∈ rows) :=
    values.byKey fun row among => List.mem_map_of_mem among
  obtain ⟨target, direction⟩ := key
  cases direction with
  | true => exact ascending
  | false => exact ascending.reversed

namespace SortPlan

variable {key : SortKey} {keys : List SortKey}

/-- A first key, and the others for what it leaves tied. -/
theorem rowOrder_cons (key : SortKey) (keys : List SortKey) :
    (⟨key :: keys⟩ : SortPlan).rowOrder =
      fun a b : α => (key.rowOrder a b).then ((⟨keys⟩ : SortPlan).rowOrder a b) :=
  rfl

theorem rowOrder_singleton (key : SortKey) :
    (⟨[key]⟩ : SortPlan).rowOrder = (key.rowOrder : α → α → Ordering) := by
  rw [rowOrder_cons]
  funext a b
  exact Ordering.then_eq

theorem uniform_cons :
    (⟨key :: keys⟩ : SortPlan).Uniform rows ↔
      Value.OfOneKind (rows.map fun row => key.target.key (Record.value row)) ∧
        (⟨keys⟩ : SortPlan).Uniform rows :=
  List.forall_mem_cons

theorem Uniform.perm {plan : SortPlan} {rows' : List α} (uniform : plan.Uniform rows)
    (perm : rows'.Perm rows) : plan.Uniform rows' := by
  intro key among
  obtain ⟨kind, each⟩ := uniform key among
  exact ⟨kind, fun value held => each value ((perm.map _).mem_iff.mp held)⟩

theorem Uniform.orders {plan : SortPlan} (uniform : plan.Uniform rows) :
    Orders plan.rowOrder (· ∈ rows) := by
  obtain ⟨keys⟩ := plan
  induction keys with
  | nil => exact ⟨fun _ _ _ _ => rfl, fun _ _ _ _ _ _ _ _ => nofun⟩
  | cons key keys ih =>
    obtain ⟨first, rest⟩ := uniform_cons.mp uniform
    exact (SortKey.orders first).andThen fun _ _ => (ih rest).mono fun _ mem => mem.1

theorem stablySorted_sort {plan : SortPlan} (uniform : plan.Uniform rows) :
    StablySorted plan.rowOrder rows (plan.sort rows) := by
  unfold sort
  split
  · exact stablySorted_insertionSort uniform.orders
  · -- A plan without keys leaves all rows tied, and where they are.
    rename_i unordered
    obtain ⟨keys⟩ := plan
    have none : keys = [] := by simpa [isOrdered] using unordered
    subst none
    exact ⟨.refl rows, List.pairwise_of_forall fun _ _ => nofun, fun _ _ => rfl⟩

/-- The rows sorted by one key after the other, the last key first. -/
def sortByEach (keys : List SortKey) (rows : List α) : List α :=
  keys.foldr (fun key sorted => (⟨[key]⟩ : SortPlan).sort sorted) rows

theorem stablySorted_sortByEach (uniform : (⟨keys⟩ : SortPlan).Uniform rows) :
    StablySorted (⟨keys⟩ : SortPlan).rowOrder rows (sortByEach keys rows) := by
  induction keys with
  | nil => exact stablySorted_sort uniform
  | cons key keys ih =>
    obtain ⟨first, rest⟩ := uniform_cons.mp uniform
    have inner := ih rest
    have single : (⟨[key]⟩ : SortPlan).Uniform rows := uniform_cons.mpr ⟨first, by simp [Uniform]⟩
    have outer := stablySorted_sort (single.perm inner.perm)
    rw [rowOrder_singleton] at outer
    rw [rowOrder_cons]
    exact inner.andThen (SortKey.orders first) outer

/-- Sorting is the stable sort by all keys: it keeps every row, leaves none behind a greater one,
and keeps ties as they stood. There is no other such list, and sorting by each key alone, from the
last to the first, makes it too. -/
theorem sort_is_stable_composite (plan : SortPlan) (rows : List α) (uniform : plan.Uniform rows) :
    StablySorted plan.rowOrder rows (plan.sort rows) ∧
      (∀ sorted, StablySorted plan.rowOrder rows sorted → sorted = plan.sort rows) ∧
      sortByEach plan.keys rows = plan.sort rows := by
  have stable := stablySorted_sort uniform
  have only : ∀ sorted, StablySorted plan.rowOrder rows sorted → sorted = plan.sort rows :=
    fun sorted other => other.unique uniform.orders stable
  exact ⟨stable, only, only _ (stablySorted_sortByEach uniform)⟩

/-- A rated item. -/
def rated (id : Int64) (rating : Value) : Value :=
  .record [("id", .int id), ("rating", rating)]

/-- Items by their rating, the best first, then by their number. -/
def bestFirst : SortPlan :=
  ⟨[⟨.field ["rating"], false⟩, ⟨.field ["id"], true⟩]⟩

/-- Items with ratings, without one, and with one that is no number. -/
def ratedItems : List Value :=
  [rated 4 (.float .nan), rated 2 (.float (.ofInt 3)), rated 5 .null, rated 1 (.float .nan),
    rated 3 (.float (.ofInt 3)), rated 5 .null]

/-- From the best down, nulls come first and what is no number second. -/
theorem ratedItems_best_first :
    bestFirst.Uniform ratedItems ∧
      bestFirst.sort ratedItems =
        [rated 5 .null, rated 5 .null, rated 1 (.float .nan), rated 4 (.float .nan),
          rated 2 (.float (.ofInt 3)), rated 3 (.float (.ofInt 3))] ∧
      sortByEach bestFirst.keys ratedItems = bestFirst.sort ratedItems := by
  have uniform : bestFirst.Uniform ratedItems := by
    intro key among
    rcases List.mem_cons.mp among with rfl | among
    · exact ⟨.float, by decide⟩
    · rw [List.mem_singleton.mp among]
      exact ⟨.int, by decide⟩
  exact ⟨uniform, rfl, (sort_is_stable_composite bestFirst ratedItems uniform).2.2⟩

end SortPlan

end ListQuery
