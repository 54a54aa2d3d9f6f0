import ListQuery.Predicate

/-! Sort plans: the keys that records are sorted by. -/

namespace ListQuery

/-- A key computed by the program. Two keys are the same when they have one identity, which
copies keep. -/
structure ComputedKey where
  name : String
  identity : Nat
  key : Value → Value

/-- What a key is read from. -/
inductive SortTarget where
  | field (path : FieldPath)
  | computed (key : ComputedKey)

/-- A key and its direction. -/
structure SortKey where
  target : SortTarget
  ascending : Bool

/-- Keys in their order of importance. -/
structure SortPlan where
  keys : List SortKey := []

namespace SortTarget

/-- The key of a record. A field without a value counts as null. -/
def key (target : SortTarget) (record : Value) : Value :=
  match target with
  | field path => (record.lookup? path).getD .null
  | computed key => key.key record

/-- Whether two targets are the same. -/
def same : SortTarget → SortTarget → Bool
  | field path, field path' => path == path'
  | computed key, computed key' => key.identity == key'.identity
  | _, _ => false

/-- The target by its constructor. -/
def term : SortTarget → Text.Term
  | field path => .tuple "Field" [path.term]
  | computed key => .tuple "Computed" [.tuple "ComputedKey" [.word key.name]]

end SortTarget

namespace SortKey

/-- The order of two records by one key. -/
def order (key : SortKey) (a b : Value) : Ordering :=
  let ascending := (key.target.key a).sortCompare (key.target.key b)
  if key.ascending then ascending else ascending.swap

end SortKey

namespace SortPlan

/-- Whether the plan has a key. -/
def isOrdered (plan : SortPlan) : Bool :=
  !plan.keys.isEmpty

/-- The plan with one key and no other. -/
def orderBy (_plan : SortPlan) (target : SortTarget) (ascending : Bool) : SortPlan :=
  ⟨[⟨target, ascending⟩]⟩

/-- The plan with a further key of the least importance. -/
def thenBy (plan : SortPlan) (target : SortTarget) (ascending : Bool) : SortPlan :=
  ⟨plan.keys ++ [⟨target, ascending⟩]⟩

/-- A first key or a further one. -/
def nextBy (plan : SortPlan) (target : SortTarget) (ascending : Bool) : SortPlan :=
  if plan.isOrdered then plan.thenBy target ascending else plan.orderBy target ascending

theorem nextBy_eq_thenBy (plan : SortPlan) (target : SortTarget) (ascending : Bool) :
    plan.nextBy target ascending = plan.thenBy target ascending := by
  obtain ⟨_ | _⟩ := plan <;> rfl

/-- The order of two records: the first key that tells them apart decides. -/
def order (plan : SortPlan) (a b : Value) : Ordering :=
  plan.keys.foldr (fun key later => (key.order a b).then later) .eq

/-- Puts an element among those before it, the nearest first: behind the first that is not
greater. -/
def insertBehind {α : Type} (less : α → α → Bool) (x : α) : List α → List α
  | [] => [x]
  | y :: earlier => if less x y then y :: insertBehind less x earlier else x :: y :: earlier

/-- Sorts by inserting each element in turn among those before it. Elements that are not told
apart keep their order. -/
def insertionSort {α : Type} (less : α → α → Bool) (xs : List α) : List α :=
  (xs.foldl (fun earlier x => insertBehind less x earlier) []).reverse

/-- Sorts records by the plan. -/
def sort {α : Type} [Record α] (plan : SortPlan) (rows : List α) : List α :=
  if plan.isOrdered then
    insertionSort (fun a b => plan.order (Record.value a) (Record.value b) == .lt) rows
  else rows

/-- Whether two plans have the same keys. -/
def same (a b : SortPlan) : Bool :=
  a.keys.length == b.keys.length
    && (a.keys.zip b.keys).all fun (k, k') => k.target.same k'.target && k.ascending == k'.ascending

/-- The plan by its constructors. -/
def term (plan : SortPlan) : Text.Term :=
  .record "SortPlan"
    [("keys", .list (plan.keys.map fun key =>
      .record "SortKey" [("target", key.target.term), ("ascending", .ofBool key.ascending)]))]

end SortPlan

end ListQuery
