import ListQuery.Proofs.Order.Preorder
import ListQuery.Proofs.Plan.Paging

/-! Stable sorts. Rows are sorted when none stands behind a greater one, and stably so when rows
that are tied stand as they did before: for each row, the rows tied with it are the same list before
and after. That leaves one list only, and sorting by a first comparison what has been sorted by a
second one is to sort by both, one after the other. -/

namespace ListQuery

variable {α : Type}

/-! ### Ties -/

/-- The rows that are tied with a row. -/
def ties (compares : α → α → Ordering) (z : α) (rows : List α) : List α :=
  rows.filter fun row => compares z row == .eq

section Ties
variable {compares later : α → α → Ordering} {x z : α} {rows rows' : List α}

theorem ties_cons_of_tied (tied : compares z x = .eq) :
    ties compares z (x :: rows) = x :: ties compares z rows :=
  List.filter_cons_of_pos (by simp [tied])

theorem ties_cons_of_apart (apart : compares z x ≠ .eq) :
    ties compares z (x :: rows) = ties compares z rows :=
  List.filter_cons_of_neg (by simp [apart])

theorem ties_cons_congr (same : ties compares z rows = ties compares z rows') :
    ties compares z (x :: rows) = ties compares z (x :: rows') := by
  by_cases tied : compares z x = .eq
  · rw [ties_cons_of_tied tied, ties_cons_of_tied tied, same]
  · rw [ties_cons_of_apart tied, ties_cons_of_apart tied, same]

theorem ties_append (rows rows' : List α) :
    ties compares z (rows ++ rows') = ties compares z rows ++ ties compares z rows' :=
  List.filter_append ..

theorem ties_reverse (rows : List α) :
    ties compares z rows.reverse = (ties compares z rows).reverse :=
  List.filter_reverse ..

/-- Rows are tied by two comparisons if they are by each. -/
theorem ties_then :
    ties (fun a b => (compares a b).then (later a b)) z rows =
      ties later z (ties compares z rows) := by
  rw [ties, ties, ties, List.filter_filter]
  refine List.filter_congr fun row _ => ?_
  cases compares z row <;> cases later z row <;> rfl

theorem ties_comm : ties later z (ties compares z rows) = ties compares z (ties later z rows) := by
  simp only [ties, List.filter_filter, Bool.and_comm]

end Ties

/-- The rows in order, those that are tied as they stood. -/
structure StablySorted (compares : α → α → Ordering) (rows sorted : List α) : Prop where
  perm : sorted.Perm rows
  ordered : sorted.Pairwise fun a b => compares a b ≠ .gt
  stable : ∀ z ∈ rows, ties compares z sorted = ties compares z rows

theorem Orders.tail {compares : α → α → Ordering} {x : α} {rows : List α}
    (orders : Orders compares (· ∈ x :: rows)) : Orders compares (· ∈ rows) :=
  orders.mono fun _ among => List.mem_cons_of_mem x among

/-- Where no two rows are tied, a row is tied with itself alone. -/
theorem Orders.eq_of_tied {compares : α → α → Ordering} {rows : List α}
    (orders : Orders compares (· ∈ rows)) (told : rows.Pairwise fun a b => compares a b ≠ .eq)
    {a b : α} (memA : a ∈ rows) (memB : b ∈ rows) (tied : compares a b = .eq) : a = b := by
  induction rows with
  | nil => cases memA
  | cons x rows ih =>
    obtain ⟨first, rest⟩ := List.pairwise_cons.mp told
    rcases List.mem_cons.mp memA with rfl | laterA <;>
      rcases List.mem_cons.mp memB with rfl | laterB
    · rfl
    · exact absurd tied (first b laterB)
    · exact absurd (orders.tied_back memA memB tied) (first a laterA)
    · exact ih orders.tail rest laterA laterB

/-! ### Insertion -/

namespace SortPlan

variable {compares : α → α → Ordering} {members : α → Prop} {x : α} {earlier : List α}

/-- Among rows with the greatest first a row finds a place where they stay so. -/
theorem insertBehind_ordered (orders : Orders compares members) (memX : members x)
    (mem : ∀ y ∈ earlier, members y) (ordered : earlier.Pairwise fun a b => compares b a ≠ .gt) :
    (insertBehind (fun a b => compares a b == .lt) x earlier).Pairwise
      fun a b => compares b a ≠ .gt := by
  induction earlier with
  | nil => exact List.pairwise_singleton _ _
  | cons y earlier ih =>
    obtain ⟨below, rest⟩ := List.pairwise_cons.mp ordered
    obtain ⟨memY, memRest⟩ := List.forall_mem_cons.mp mem
    rw [insertBehind]
    split
    · rename_i less
      refine List.pairwise_cons.mpr ⟨fun b among => ?_, ih memRest rest⟩
      rcases List.mem_cons.mp ((insertBehind_perm x earlier).mem_iff.mp among) with rfl | among
      · simp [beq_iff_eq.mp less]
      · exact below b among
    · rename_i least
      have above : compares y x ≠ .gt := by
        rw [orders.swap x y memX memY, swap_ne_gt_iff]
        simpa using least
      refine List.pairwise_cons.mpr ⟨fun b among => ?_, ordered⟩
      rcases List.mem_cons.mp among with rfl | among
      · exact above
      · exact orders.trans b y x (memRest b among) memY memX (below b among) above

/-- A row passes no row that it is tied with. -/
theorem ties_insertBehind (orders : Orders compares members) (memX : members x)
    (mem : ∀ y ∈ earlier, members y) {z : α} (memZ : members z) :
    ties compares z (insertBehind (fun a b => compares a b == .lt) x earlier) =
      ties compares z (x :: earlier) := by
  induction earlier with
  | nil => rfl
  | cons y earlier ih =>
    obtain ⟨memY, memRest⟩ := List.forall_mem_cons.mp mem
    have kept := ih memRest
    rw [insertBehind]
    split
    · rename_i less
      by_cases tied : compares z x = .eq
      · have apart : compares z y ≠ .eq := by
          rw [orders.congr_left memZ memX memY tied, beq_iff_eq.mp less]
          decide
        rw [ties_cons_of_apart apart, kept, ties_cons_of_tied tied, ties_cons_of_tied tied,
          ties_cons_of_apart apart]
      · rw [ties_cons_of_apart tied] at kept ⊢
        exact ties_cons_congr kept
    · rfl

/-- Sorting by insertion sorts stably. -/
theorem stablySorted_insertionSort {rows : List α} (orders : Orders compares (· ∈ rows)) :
    StablySorted compares rows (insertionSort (fun a b => compares a b == .lt) rows) := by
  -- Each further row is inserted among those before it, which stand with the greatest first.
  have inserted (rest earlier : List α) (mem : ∀ y ∈ rest, y ∈ rows)
      (memEarlier : ∀ y ∈ earlier, y ∈ rows)
      (ordered : earlier.Pairwise fun a b => compares b a ≠ .gt) :
      let all := rest.foldl
        (fun earlier x => insertBehind (fun a b => compares a b == .lt) x earlier) earlier
      (all.Pairwise fun a b => compares b a ≠ .gt) ∧
        ∀ z ∈ rows, ties compares z all = ties compares z (rest.reverse ++ earlier) := by
    induction rest generalizing earlier with
    | nil => exact ⟨ordered, fun _ _ => rfl⟩
    | cons x rest ih =>
      obtain ⟨memX, memRest⟩ := List.forall_mem_cons.mp mem
      have memNext : ∀ y ∈ insertBehind (fun a b => compares a b == .lt) x earlier, y ∈ rows := by
        intro y among
        rcases List.mem_cons.mp ((insertBehind_perm x earlier).mem_iff.mp among) with rfl | among
        · exact memX
        · exact memEarlier y among
      obtain ⟨descending, kept⟩ :=
        ih _ memRest memNext (insertBehind_ordered orders memX memEarlier ordered)
      refine ⟨descending, fun z memZ => (kept z memZ).trans ?_⟩
      rw [ties_append, ties_insertBehind orders memX memEarlier memZ, ← ties_append,
        List.reverse_cons, List.append_assoc, List.singleton_append]
  obtain ⟨descending, kept⟩ := inserted rows [] (fun _ among => among) (by simp) .nil
  refine ⟨insertionSort_perm rows, List.pairwise_reverse.mpr descending, fun z memZ => ?_⟩
  rw [insertionSort, ties_reverse, kept z memZ, List.append_nil, ties_reverse, List.reverse_reverse]

end SortPlan

/-! ### One list only -/

namespace StablySorted

variable {compares later : α → α → Ordering} {rows sorted other : List α}

theorem eq_of_ordered (orders : Orders compares (· ∈ sorted)) (perm : sorted.Perm other)
    (ordered : sorted.Pairwise fun a b => compares a b ≠ .gt)
    (ordered' : other.Pairwise fun a b => compares a b ≠ .gt)
    (same : ∀ z ∈ sorted, ties compares z sorted = ties compares z other) : sorted = other := by
  induction sorted generalizing other with
  | nil => exact perm.nil_eq
  | cons x sorted ih =>
    cases other with
    | nil => exact perm.eq_nil
    | cons y other =>
      obtain ⟨first, rest⟩ := List.pairwise_cons.mp ordered
      obtain ⟨first', rest'⟩ := List.pairwise_cons.mp ordered'
      have memX : x ∈ x :: sorted := List.mem_cons_self
      have memY : y ∈ x :: sorted := perm.mem_iff.mpr List.mem_cons_self
      -- Each of the two first rows comes before the other, so they are tied, and first among ties.
      have upper : compares x y ≠ .gt := by
        rcases List.mem_cons.mp memY with rfl | among
        · simp [orders.self memY]
        · exact first y among
      have lower : compares y x ≠ .gt := by
        rcases List.mem_cons.mp (perm.mem_iff.mp memX) with rfl | among
        · simp [orders.self memX]
        · exact first' x among
      have tied := orders.tied_of_both memX memY upper lower
      have firsts := same x memX
      rw [ties_cons_of_tied (orders.self memX), ties_cons_of_tied tied] at firsts
      obtain ⟨rfl, -⟩ := List.cons.inj firsts
      congr 1
      refine ih orders.tail perm.cons_inv rest rest' fun z among => ?_
      have kept := same z (List.mem_cons_of_mem x among)
      by_cases tiedZ : compares z x = .eq
      · rw [ties_cons_of_tied tiedZ, ties_cons_of_tied tiedZ] at kept
        exact (List.cons.inj kept).2
      · rwa [ties_cons_of_apart tiedZ, ties_cons_of_apart tiedZ] at kept

theorem unique (orders : Orders compares (· ∈ rows)) (one : StablySorted compares rows sorted)
    (two : StablySorted compares rows other) : sorted = other := by
  have among : ∀ z ∈ sorted, z ∈ rows := fun z => one.perm.mem_iff.mp
  refine eq_of_ordered (orders.mono among) (one.perm.trans two.perm.symm) one.ordered two.ordered ?_
  intro z mem
  rw [one.stable z (among z mem), two.stable z (among z mem)]

/-! ### One comparison after the other -/

/-- Rows in order whose ties are in order. -/
theorem pairwise_then (orders : Orders compares (· ∈ sorted))
    (ordered : sorted.Pairwise fun a b => compares a b ≠ .gt)
    (tied : ∀ z ∈ sorted, (ties compares z sorted).Pairwise fun a b => later a b ≠ .gt) :
    sorted.Pairwise fun a b => (compares a b).then (later a b) ≠ .gt := by
  induction sorted with
  | nil => exact .nil
  | cons x sorted ih =>
    obtain ⟨first, rest⟩ := List.pairwise_cons.mp ordered
    refine List.pairwise_cons.mpr ⟨fun y among => ?_, ih orders.tail rest fun z among => ?_⟩
    · have tiesX := tied x List.mem_cons_self
      rw [ties_cons_of_tied (orders.self List.mem_cons_self)] at tiesX
      cases held : compares x y with
      | lt => exact nofun
      | gt => exact absurd held (first y among)
      | eq => exact (List.pairwise_cons.mp tiesX).1 y (List.mem_filter.mpr ⟨among, by simp [held]⟩)
    · exact (tied z (List.mem_cons_of_mem x among)).sublist
        ((List.sublist_cons_self x sorted).filter _)

/-- Sorting by the comparison that decides last comes first. -/
theorem andThen {middle : List α} (orders : Orders compares (· ∈ rows))
    (inner : StablySorted later rows middle) (outer : StablySorted compares middle sorted) :
    StablySorted (fun a b => (compares a b).then (later a b)) rows sorted where
  perm := outer.perm.trans inner.perm
  ordered := by
    have among : ∀ z ∈ sorted, z ∈ middle := fun z => outer.perm.mem_iff.mp
    refine pairwise_then (orders.mono fun z mem => inner.perm.mem_iff.mp (among z mem))
      outer.ordered fun z mem => ?_
    rw [outer.stable z (among z mem)]
    exact inner.ordered.filter _
  stable z mem := by
    rw [ties_then, ties_then, outer.stable z (inner.perm.mem_iff.mpr mem), ties_comm,
      inner.stable z mem, ties_comm]

end StablySorted

end ListQuery
