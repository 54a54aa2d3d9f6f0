import Mathlib.Control.Monad.Basic
import ListQuery.Proofs.Compile.Outcome
import ListQuery.Query
import ListQuery.Sample.Models

/-! Filtering, ordering and paging in steps. A query that filters, orders and pages at once is the
one that filters, followed by the one that orders and pages what is left; the number of rows in
between knows nothing of order and window. Windows of one size, next to each other, make up the
whole. -/

namespace ListQuery

/-! ### Rows in order -/

namespace SortPlan

variable {α : Type} {less : α → α → Bool}

theorem insertBehind_perm (x : α) (earlier : List α) :
    (insertBehind less x earlier).Perm (x :: earlier) := by
  induction earlier with
  | nil => exact .refl _
  | cons y earlier ih =>
    rw [insertBehind]
    split
    · exact (ih.cons y).trans (.swap x y earlier)
    · exact .refl _

/-- Sorting keeps every row, as often as it is there. -/
theorem insertionSort_perm (rows : List α) : (insertionSort less rows).Perm rows := by
  have inserted (earlier : List α) :
      (rows.foldl (fun earlier x => insertBehind less x earlier) earlier).Perm
        (rows ++ earlier) := by
    induction rows generalizing earlier with
    | nil => exact .refl _
    | cons x rows ih =>
      have first := (ih (insertBehind less x earlier)).trans
        ((insertBehind_perm x earlier).append_left rows)
      exact first.trans List.perm_middle
  have all := (List.reverse_perm _).trans (inserted [])
  rwa [List.append_nil] at all

theorem sort_perm [Record α] (plan : SortPlan) (rows : List α) : (plan.sort rows).Perm rows := by
  unfold sort
  split
  · exact insertionSort_perm rows
  · exact .refl rows

end SortPlan

/-! ### Windows -/

namespace Window

variable {α : Type}

/-- A number that is absent or not above zero asks for nothing. -/
def Idle (n : Option Int64) : Prop :=
  ∀ number ∈ n, number.toInt ≤ 0

theorem idle_none : Idle none := by
  rintro _ ⟨⟩

theorem positive_of_idle {n : Option Int64} (idle : Idle n) : ofNumbers.positive n = none := by
  cases n with
  | none => rfl
  | some number =>
    have low := idle number rfl
    simp [ofNumbers.positive, Option.filter, Int.not_lt.mpr low]

/-- Without an offset and a limit above zero the window is the whole list. -/
theorem apply_of_idle {offset limit : Option Int64} (noOffset : Idle offset) (noLimit : Idle limit)
    (rows : List α) : (ofNumbers offset limit).apply rows = rows := by
  rw [ofNumbers, positive_of_idle noOffset, positive_of_idle noLimit]
  rfl

/-- A window passes over its offset and keeps its limit, whether or not there are as many rows. -/
theorem apply_ofNumbers {limit : Int64} (positive : 0 < limit.toInt) (offset : Int64)
    (rows : List α) :
    (ofNumbers (some offset) (some limit)).apply rows =
      (rows.drop offset.toInt.toNat).take limit.toInt.toNat := by
  have kept : ofNumbers.positive (some limit) = some limit.toInt.toNat := by
    simp [ofNumbers.positive, Option.filter, positive]
  by_cases low : offset.toInt ≤ 0
  · have absent : ofNumbers.positive (some offset) = none :=
      positive_of_idle (by simpa [Idle] using low)
    rw [ofNumbers, absent, kept, Int.toNat_of_nonpos low]
    rfl
  · have passed : ofNumbers.positive (some offset) = some offset.toInt.toNat := by
      simp [ofNumbers.positive, Option.filter, Int.not_le.mp low]
    rw [ofNumbers, passed, kept]
    rfl

/-- The windows of one size, next to each other, are the rows up to where the last one ends. -/
theorem flatten_windows (rows : List α) (size count : Nat) :
    ((List.range count).map fun number => (rows.drop (number * size)).take size).flatten =
      rows.take (count * size) := by
  induction count with
  | zero => simp
  | succ count ih =>
    rw [List.range_succ, List.map_append, List.flatten_append, ih, List.map_singleton,
      List.flatten_singleton, ← List.take_add, Nat.succ_mul]

end Window

/-! ### Queries in steps -/

namespace Query

variable {M : Type} [Schema M] [DecidableEq M] {α : Type} [Record α] {config : Config M} {model : M}
  {query : Query} {rows : List α}

/-- All at once is one step after the other. -/
theorem run_eq_run_runPage (config : Config M) (model : M) (query : Query) (rows : List α) :
    query.run config model true rows = (do
      let kept ← query.run config model false rows
      runPage config model query.orderBy query.offset query.limit kept) := by
  have paged (filter : Option Predicate) :
      (Traced.bind (compileOrder config model query.orderBy) fun ordering =>
        Traced.pure ((⟨filter, ordering, .ofNumbers query.offset query.limit⟩ : Plan).apply rows)) =
      runPage config model query.orderBy query.offset query.limit
        (({ filter } : Plan).apply rows) := rfl
  calc query.run config model true rows
      = Traced.bind (compileFilter config model query.filter) fun filter =>
          Traced.bind (compileOrder config model query.orderBy) fun ordering =>
            Traced.pure ((⟨filter, ordering, .ofNumbers query.offset query.limit⟩ : Plan).apply
              rows) :=
        (Traced.bind_assoc _ _ _).trans
          (congrArg _ (funext fun filter => Traced.bind_assoc _ _ _))
    _ = Traced.bind (compileFilter config model query.filter) fun filter =>
          Traced.bind (Traced.pure (({ filter } : Plan).apply rows))
            (runPage config model query.orderBy query.offset query.limit) :=
        congrArg _ (funext paged)
    _ = Traced.bind (query.run config model false rows)
          (runPage config model query.orderBy query.offset query.limit) :=
        (Traced.bind_assoc (compileFilter config model query.filter)
          (fun filter => Traced.pure (({ filter } : Plan).apply rows)) _).symm

/-- A query is answered when its filter and its order are compiled. The answer is the window on the
kept rows in order. -/
theorem run_eq_ok_iff {page : List α} :
    (query.run config model true rows).result = .ok page ↔
      ∃ kept ordering, (query.run config model false rows).result = .ok kept ∧
        (compileOrder config model query.orderBy).result = .ok ordering ∧
        page = (Window.ofNumbers query.offset query.limit).apply (ordering.sort kept) := by
  rw [run_eq_run_runPage, Traced.result_bind_eq_ok]
  refine exists_congr fun kept => ?_
  rw [runPage, Traced.result_bind_eq_ok]
  constructor
  · rintro ⟨ran, ordering, ordered, same⟩
    cases same
    exact ⟨ordering, ran, ordered, rfl⟩
  · rintro ⟨ordering, ran, ordered, rfl⟩
    exact ⟨ran, ordering, ordered, rfl⟩

/-- Orders of which no more than the number is known. -/
def numbered (ids : List Int64) : List Value :=
  ids.map fun id => .record [("id", .int id)]

/-- The orders after the first, the latest first. -/
def laterOrders : Query :=
  { filter := "id>1", orderBy := "-id" }

theorem run_laterOrders :
    (laterOrders.run ({} : Config Sample.Model) .order false (numbered [1, 2, 3, 4, 5])).result =
      .ok (numbered [2, 3, 4, 5]) := by
  have parsed : Filter.parse "id>1" =
      .ok (some (.clause "id" .greater [some "1"] false false)) := by
    decide +kernel
  change (compileFilter _ _ _ >>= _).result = _
  rw [laterOrders, Traced.result_bind, compileFilter_result parsed]
  rfl

theorem order_laterOrders :
    (compileOrder ({} : Config Sample.Model) .order laterOrders.orderBy).result =
      .ok ⟨[⟨.field ["id"], false⟩]⟩ := by
  have entries : OrderBy.parse "-id" = [⟨"id", false⟩] := by
    decide +kernel
  rw [laterOrders, compileOrder, entries]
  rfl

/-- To filter first and to order and page afterwards is to do all at once: the same rows in the same
order, or the same error, which is the filter's if there are two. The rows in between are the same
whatever the order and the window, and as many as there are in the end if the window is idle. -/
theorem count_then_page_is_one_shot (config : Config M) (model : M) (query : Query)
    (rows : List α) :
    query.run config model true rows = (do
      let kept ← query.run config model false rows
      runPage config model query.orderBy query.offset query.limit kept) ∧
    (∀ error, (compileFilter config model query.filter).result = .error error →
      (query.run config model true rows).result = .error error ∧
        (query.run config model false rows).result = .error error) ∧
    (∀ orderBy offset limit,
      ({ query with orderBy, offset, limit } : Query).run config model false rows =
        query.run config model false rows) ∧
    ∀ kept ordering, (query.run config model false rows).result = .ok kept →
      (compileOrder config model query.orderBy).result = .ok ordering →
      Window.Idle query.offset → Window.Idle query.limit →
      ∃ page, (query.run config model true rows).result = .ok page ∧
        page.length = kept.length := by
  refine ⟨run_eq_run_runPage config model query rows, ?fails, fun _ _ _ => rfl, ?counts⟩
  case fails =>
    intro error failed
    have first : (query.run config model false rows).result = .error error := by
      change (compileFilter config model query.filter >>= _).result = _
      rw [Traced.result_bind, failed]
      rfl
    refine ⟨?_, first⟩
    rw [run_eq_run_runPage, Traced.result_bind, first]
    rfl
  case counts =>
    intro kept ordering ran ordered noOffset noLimit
    refine ⟨ordering.sort kept, run_eq_ok_iff.mpr ⟨kept, ordering, ran, ordered, ?_⟩,
      (ordering.sort_perm kept).length_eq⟩
    exact (Window.apply_of_idle noOffset noLimit _).symm

/-- The number of later orders is known before they are put in order. -/
theorem laterOrders_counted_first :
    (laterOrders.run ({} : Config Sample.Model) .order false (numbered [1, 2, 3, 4, 5])).result =
      .ok (numbered [2, 3, 4, 5]) ∧
    ∃ page, (laterOrders.run ({} : Config Sample.Model) .order true
      (numbered [1, 2, 3, 4, 5])).result = .ok page ∧ page.length = 4 := by
  obtain ⟨-, -, -, counts⟩ := count_then_page_is_one_shot ({} : Config Sample.Model) .order
    laterOrders (numbered [1, 2, 3, 4, 5])
  exact ⟨run_laterOrders,
    counts _ _ run_laterOrders order_laterOrders Window.idle_none Window.idle_none⟩

/-- The query for one page of a size, by its number from zero. -/
def page (query : Query) (size : Int64) (number : Nat) : Query :=
  { query with offset := some (.ofInt (number * size.toInt)), limit := some size }

/-- The offset of a page that begins within the range of numbers. -/
theorem toInt_offset {size : Int64} (positive : 0 < size.toInt) {number : Nat}
    (within : number * size.toInt ≤ Int64.maxValue.toInt) :
    (Int64.ofInt (number * size.toInt)).toInt.toNat = number * size.toInt.toNat := by
  have low : 0 ≤ number * size.toInt :=
    Int.mul_nonneg (Int.natCast_nonneg number) (Int.le_of_lt positive)
  have high : number * size.toInt < Int64.maxValue.toInt + 1 := Int.lt_add_one_of_le within
  rw [Int64.toInt_ofInt_of_le (Int.le_trans (by decide) low) high,
    Int.toNat_mul (Int.natCast_nonneg number) (Int.le_of_lt positive), Int.toNat_natCast]

/-- The pages of an answer, one after the other, are the whole answer: no row is lost, none comes
twice, and the order is kept. A page is empty when it begins at the end of the rows or later. -/
theorem pages_tile_answer {size : Int64} {all : List α} (positive : 0 < size.toInt)
    (answered : (({ query with offset := none, limit := none } : Query).run config model true
      rows).result = .ok all) :
    ∃ kept, (query.run config model false rows).result = .ok kept ∧
      ∀ count : Nat, (∀ number < count, number * size.toInt ≤ Int64.maxValue.toInt) →
        ∃ pages : List (List α), pages.length = count ∧
          (∀ number page, pages[number]? = some page →
            ((query.page size number).run config model true rows).result = .ok page ∧
              (page = [] ↔ kept.length ≤ number * size.toInt.toNat)) ∧
          pages.flatten = all.take (count * size.toInt.toNat) ∧
          (kept.length ≤ count * size.toInt.toNat → pages.flatten = all) := by
  obtain ⟨kept, ordering, ran, ordered, whole⟩ := run_eq_ok_iff.mp answered
  rw [Window.apply_of_idle Window.idle_none Window.idle_none] at whole
  have length : all.length = kept.length := by
    rw [whole]
    exact (ordering.sort_perm kept).length_eq
  refine ⟨kept, ran, fun count within => ?_⟩
  have tiled := Window.flatten_windows all size.toInt.toNat count
  refine ⟨_, ?_, ?pages, tiled, fun enough => ?_⟩
  · rw [List.length_map, List.length_range]
  case pages =>
    intro number page found
    obtain ⟨bound, same⟩ := List.getElem?_eq_some_iff.mp found
    rw [List.length_map, List.length_range] at bound
    rw [List.getElem_map, List.getElem_range] at same
    subst same
    have offset := toInt_offset positive (within number bound)
    refine ⟨run_eq_ok_iff.mpr ⟨kept, ordering, ran, ordered, ?_⟩, ?_⟩
    · rw [page, Window.apply_ofNumbers positive, offset, whole]
    · have filled : size.toInt.toNat ≠ 0 := by omega
      rw [List.take_eq_nil_iff, or_iff_right filled, List.drop_eq_nil_iff, length]
  · rw [tiled]
    exact List.take_of_length_le (length ▸ enough)

/-- The later orders in pages of three. -/
theorem laterOrders_in_pages :
    0 < (3 : Int64).toInt ∧
    (laterOrders.run ({} : Config Sample.Model) .order true (numbered [1, 2, 3, 4, 5])).result =
      .ok (numbered [5, 4, 3, 2]) ∧
    ∃ pages : List (List Value), pages.length = 2 ∧
      (∀ number page, pages[number]? = some page →
        ((laterOrders.page 3 number).run ({} : Config Sample.Model) .order true
          (numbered [1, 2, 3, 4, 5])).result = .ok page) ∧
      pages.flatten = numbered [5, 4, 3, 2] := by
  have answered : (laterOrders.run ({} : Config Sample.Model) .order true
      (numbered [1, 2, 3, 4, 5])).result = .ok (numbered [5, 4, 3, 2]) :=
    run_eq_ok_iff.mpr ⟨_, _, run_laterOrders, order_laterOrders, rfl⟩
  obtain ⟨kept, ran, tiled⟩ := @pages_tile_answer Sample.Model _ _ Value _ {} .order laterOrders
    (numbered [1, 2, 3, 4, 5]) 3 _ (by decide) answered
  cases run_laterOrders.symm.trans ran
  obtain ⟨pages, count, each, -, whole⟩ := tiled 2 (by decide)
  exact ⟨by decide, answered, pages, count, fun number page found => (each number page found).1,
    whole (by decide)⟩

end Query

end ListQuery
