import Mathlib.Data.List.Forall2
import ListQuery.Query

/-! Which rows a plan keeps, by their positions. Of a row a plan sees no more than whether it meets
the filter and how it stands to the other rows in the order; lists whose rows agree in both keep
the same positions in the same order. -/

namespace ListQuery

variable {α β : Type}

/-- Functions that agree on related elements map related lists to one list. -/
theorem map_eq_of_forall₂ {γ : Type} {R : α → β → Prop} {f : α → γ} {g : β → γ}
    (same : ∀ a b, R a b → f a = g b) {xs : List α} {ys : List β}
    (related : List.Forall₂ R xs ys) : xs.map f = ys.map g := by
  rw [← List.forall₂_eq_eq_eq]
  exact List.rel_map same related

/-! ### Sorts and windows -/

namespace SortPlan

variable {R : α → β → Prop} {less : α → α → Bool} {less' : β → β → Bool}

theorem insertBehind_rel (same : ∀ a b a' b', R a a' → R b b' → less a b = less' a' b')
    {x : α} {x' : β} (first : R x x') {earlier : List α} {earlier' : List β}
    (related : List.Forall₂ R earlier earlier') :
    List.Forall₂ R (insertBehind less x earlier) (insertBehind less' x' earlier') := by
  induction related with
  | nil => exact .cons first .nil
  | cons head tail ih =>
    rw [insertBehind, insertBehind, same _ _ _ _ first head]
    split
    · exact .cons head ih
    · exact .cons first (.cons head tail)

/-- Rows that stand alike to each other are sorted alike. -/
theorem insertionSort_rel (same : ∀ a b a' b', R a a' → R b b' → less a b = less' a' b')
    {rows : List α} {rows' : List β} (related : List.Forall₂ R rows rows') :
    List.Forall₂ R (insertionSort less rows) (insertionSort less' rows') := by
  refine List.forall₂_reverse_iff.mpr (List.rel_foldl ?_ .nil related)
  intro earlier earlier' before x x' first
  exact insertBehind_rel same first before

end SortPlan

theorem Window.apply_rel {R : α → β → Prop} (window : Window) {rows : List α} {rows' : List β}
    (related : List.Forall₂ R rows rows') :
    List.Forall₂ R (window.apply rows) (window.apply rows') := by
  obtain ⟨_ | offset, _ | limit⟩ := window
  · exact related
  · exact List.forall₂_take limit related
  · exact List.forall₂_drop offset related
  · exact List.forall₂_take limit (List.forall₂_drop offset related)

/-! ### Plans -/

/-- Rows that fare alike with the filter and stand alike in the order are kept alike. -/
theorem Plan.apply_rel [Record α] [Record β] (plan : Plan) {R : α → β → Prop}
    (meets : ∀ p, plan.filter = some p → ∀ a a', R a a' →
      p.holds (Record.value a) = p.holds (Record.value a'))
    (stands : ∀ a b a' b', R a a' → R b b' →
      plan.ordering.order (Record.value a) (Record.value b) =
        plan.ordering.order (Record.value a') (Record.value b'))
    {rows : List α} {rows' : List β} (related : List.Forall₂ R rows rows') :
    List.Forall₂ R (plan.apply rows) (plan.apply rows') := by
  have filtered : List.Forall₂ R (plan.applyFilter rows) (plan.applyFilter rows') := by
    unfold applyFilter
    cases accepts : plan.filter with
    | none => exact related
    | some p =>
      refine List.rel_filter (fun a a' same => ?_) related
      exact Bool.eq_iff_iff.mp (meets p accepts a a' same)
  have sorted : List.Forall₂ R (plan.ordering.sort (plan.applyFilter rows))
      (plan.ordering.sort (plan.applyFilter rows')) := by
    unfold SortPlan.sort
    split
    · refine SortPlan.insertionSort_rel (fun a b a' b' first second => ?_) filtered
      rw [stands a b a' b' first second]
    · exact filtered
  exact plan.window.apply_rel sorted

/-! ### Positions -/

/-- A row and its position in the list that it comes from. -/
structure Placed (α : Type) where
  row : α
  position : Nat

/-- A position is nothing that a plan sees. -/
instance [Record α] : Record (Placed α) := ⟨fun placed => Record.value placed.row⟩

/-- The rows of a list with their positions. -/
def placed (rows : List α) : List (Placed α) :=
  rows.zipIdx.map fun (row, position) => ⟨row, position⟩

theorem forall₂_placed {R : α → β → Prop} {rows : List α} {rows' : List β}
    (related : List.Forall₂ R rows rows') :
    List.Forall₂ (fun a b => a.position = b.position ∧ R a.row b.row) (placed rows)
      (placed rows') := by
  obtain ⟨same, each⟩ := List.forall₂_iff_get.mp related
  refine List.forall₂_iff_get.mpr ⟨by simp [placed, same], fun i bound bound' => ?_⟩
  simp only [placed, List.get_eq_getElem, List.getElem_map, List.getElem_zipIdx, true_and]
  exact each i _ _

variable [Record α]

/-- The positions of the rows that a plan keeps, in the order in which it returns them. -/
def Plan.positions (plan : Plan) (rows : List α) : List Nat :=
  (plan.apply (placed rows)).map (·.position)

/-- The rows that a plan returns are those at the positions that it keeps. -/
theorem Plan.getElem?_positions (plan : Plan) (rows : List α) :
    (plan.positions rows).map (rows[·]?) = (plan.apply rows).map some := by
  have found : List.Forall₂ (fun (a : Placed α) row => a.row = row ∧ rows[a.position]? = some row)
      (placed rows) rows := by
    refine List.forall₂_iff_get.mpr ⟨by simp [placed], fun i bound bound' => ?_⟩
    simp [placed]
  have kept := plan.apply_rel (fun p _ a row ⟨same, _⟩ => by rw [← same]; rfl)
    (fun a b row row' ⟨first, _⟩ ⟨second, _⟩ => by rw [← first, ← second]; rfl) found
  rw [positions, List.map_map]
  exact map_eq_of_forall₂ (fun _ _ both => both.2) kept

end ListQuery
