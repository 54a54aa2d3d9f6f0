import ListQuery.Proofs.Number.Rounding
import ListQuery.Proofs.Order.Preorder
import ListQuery.Value.Order

/-! The order that sorting uses, as far as it is one. Values of different kinds stand in the order
of their kinds, and a kind has an order of its own. Integers and floating-point numbers are one kind
of two: an integer meets a float as the float that it is rounded to, but another integer as itself.
So a float can be tied with two integers that are not tied with each other, and this is all that
can go wrong. -/

namespace ListQuery

/-! ### Instants -/

instance : Std.TransCmp Date.order :=
  inferInstanceAs (Std.TransCmp (compareLex (compareOn Date.year)
    (compareLex (compareOn Date.month) (compareOn Date.day))))

instance : Std.TransCmp fun a b : Instant => a.date.order b.date where
  eq_swap {a b} := @Std.OrientedCmp.eq_swap _ Date.order _ a.date b.date
  isLE_trans {a b c} := @Std.TransCmp.isLE_trans _ Date.order _ a.date b.date c.date

instance : Std.TransCmp Instant.order :=
  inferInstanceAs (Std.TransCmp (compareLex (fun a b : Instant => a.date.order b.date)
    (compareLex (compareOn Instant.second) (compareOn Instant.nano))))

namespace Value

/-! ### Kinds first -/

/-- The order of two values of one rank. What is no number is tied with its like. -/
def within : Value → Value → Ordering
  | int x, int y => compare x.toInt y.toInt
  | int x, float y => compare (Binary64.ofInt x.toInt).place y.place
  | float x, int y => compare x.place (Binary64.ofInt y.toInt).place
  | float x, float y => if x.isNaN || y.isNaN then .eq else compare x.place y.place
  | text x, text y => compare x y
  | bool x, bool y => compare x y
  | instant x, instant y => x.order y
  | _, _ => .eq

theorem sortCompare_eq (a b : Value) :
    a.sortCompare b = (compare a.rank b.rank).then (within a b) := by
  have apart : compare 1 6 = Ordering.lt ∧ compare 6 1 = Ordering.gt := ⟨rfl, rfl⟩
  cases a <;> cases b
  case int.float x y =>
    cases number : y.isNaN <;>
      simp [sortCompare, rank, within, Binary64.compare?, Binary64.isNaN_ofInt, number, apart]
  case float.int x y =>
    cases number : x.isNaN <;>
      simp [sortCompare, rank, within, Binary64.compare?, Binary64.isNaN_ofInt, number, apart]
  case float.float x y =>
    cases left : x.isNaN <;> cases right : y.isNaN <;>
      simp [sortCompare, rank, within, Binary64.compare?, left, right, apart]
  all_goals simp [sortCompare, rank, within]

theorem within_swap (a b : Value) : within b a = (within a b).swap := by
  have turned {α : Type} [Ord α] [Std.TransOrd α] (x y : α) : compare y x = (compare x y).swap :=
    Std.OrientedCmp.eq_swap
  cases a <;> cases b
  case int.int x y => exact turned x.toInt y.toInt
  case int.float x y => exact turned (Binary64.ofInt x.toInt).place y.place
  case float.int x y => exact turned x.place (Binary64.ofInt y.toInt).place
  case float.float x y =>
    simp only [within, Bool.or_comm y.isNaN]
    split
    · rfl
    · exact turned x.place y.place
  case text.text x y => exact turned x y
  case bool.bool x y => exact turned x y
  case instant.instant x y => exact @Std.OrientedCmp.eq_swap _ Instant.order _ _ _
  all_goals rfl

theorem sortCompare_swap (a b : Value) : b.sortCompare a = (a.sortCompare b).swap := by
  have ranks : compare b.rank a.rank = (compare a.rank b.rank).swap := Std.OrientedCmp.eq_swap
  rw [sortCompare_eq, sortCompare_eq, Ordering.swap_then, within_swap a b, ranks]

theorem sortCompare_self (a : Value) : a.sortCompare a = .eq := by
  have same := sortCompare_swap a a
  cases held : a.sortCompare a <;> simp [held] at same ⊢

/-! ### Numbers -/

/-- The place of a number among the floating-point numbers. -/
def place : Value → Int
  | int x => (Binary64.ofInt x.toInt).place
  | float x => x.place
  | _ => 0

variable {a b : Value}

/-- The numbers are the integers and those floating-point values that are one. -/
theorem number_of_rank (ranked : a.rank = 1) :
    (∃ x, a = int x) ∨ ∃ x, a = float x ∧ x.isNaN = false := by
  cases a with
  | int x => exact Or.inl ⟨x, rfl⟩
  | float x =>
    refine Or.inr ⟨x, rfl, ?_⟩
    cases number : x.isNaN <;> simp [rank, number] at ranked ⊢
  | null | bool | text | instant | list | record => simp [rank] at ranked

/-- Beside a floating-point number everything is one. -/
theorem within_float (rankA : a.rank = 1) (rankB : b.rank = 1)
    (float : (∃ x, a = float x) ∨ ∃ x, b = float x) :
    within a b = compare a.place b.place := by
  rcases number_of_rank rankA with ⟨x, rfl⟩ | ⟨x, rfl, numberA⟩ <;>
    rcases number_of_rank rankB with ⟨y, rfl⟩ | ⟨y, rfl, numberB⟩
  · rcases float with ⟨_, ⟨⟩⟩ | ⟨_, ⟨⟩⟩
  · rfl
  · rfl
  · simp [within, place, numberA, numberB]

/-- Rounding may bring numbers together, but leaves none behind another. -/
theorem place_le_of_within (rankA : a.rank = 1) (rankB : b.rank = 1)
    (ordered : within a b ≠ .gt) : a.place ≤ b.place := by
  by_cases float : (∃ x, a = float x) ∨ ∃ x, b = float x
  · rw [within_float rankA rankB float] at ordered
    exact Int.compare_ne_gt.mp ordered
  · rw [not_or] at float
    obtain ⟨x, rfl⟩ := (number_of_rank rankA).resolve_right fun ⟨x, same, _⟩ => float.1 ⟨x, same⟩
    obtain ⟨y, rfl⟩ := (number_of_rank rankB).resolve_right fun ⟨y, same, _⟩ => float.2 ⟨y, same⟩
    exact Binary64.place_ofInt_mono (Int.compare_ne_gt.mp ordered)

/-- No floating-point number of the set is what two integers of the set are rounded to. -/
def RoundsApart (members : Value → Prop) : Prop :=
  ∀ x y f, members (int x) → members (int y) → members (float f) →
    (Binary64.ofInt x.toInt).compare? f = some .eq →
    (Binary64.ofInt y.toInt).compare? f = some .eq → x = y

/-- The kinds of values. Null has none. -/
inductive Kind where
  | bool
  | int
  | float
  | text
  | instant
  | list
  | record
deriving DecidableEq

/-- The kind of a value. -/
def kind? : Value → Option Kind
  | null => none
  | bool _ => some .bool
  | int _ => some .int
  | float _ => some .float
  | text _ => some .text
  | instant _ => some .instant
  | list _ => some .list
  | record _ => some .record

/-- All values are of one kind or null. -/
def OfOneKind (values : List Value) : Prop :=
  ∃ kind, ∀ value ∈ values, ∀ held ∈ value.kind?, held = kind

theorem roundsApart_of_oneKind {values : List Value} (one : OfOneKind values) :
    RoundsApart (· ∈ values) := by
  obtain ⟨kind, each⟩ := one
  intro x y f memX _ memF _ _
  cases (each _ memX .int rfl).trans (each _ memF .float rfl).symm

variable {members : Value → Prop}

theorem compare?_ofInt_of_place {x : Int64} {f : Binary64} (number : f.isNaN = false)
    (same : (Binary64.ofInt x.toInt).place = f.place) :
    (Binary64.ofInt x.toInt).compare? f = some .eq := by
  rw [Binary64.compare?_of_numbers (Binary64.isNaN_ofInt _) number, same]
  exact congrArg some Std.ReflCmp.compare_self

theorem numbers_order (apart : RoundsApart members) :
    Orders within fun a => members a ∧ a.rank = 1 where
  swap a b _ _ := within_swap a b
  trans a b c memA memB memC first second := by
    have lower := place_le_of_within memA.2 memB.2 first
    have upper := place_le_of_within memB.2 memC.2 second
    by_cases float : (∃ x, a = .float x) ∨ ∃ x, c = .float x
    · rw [within_float memA.2 memC.2 float]
      exact Int.compare_ne_gt.mpr (Int.le_trans lower upper)
    · rw [not_or] at float
      obtain ⟨x, rfl⟩ :=
        (number_of_rank memA.2).resolve_right fun ⟨x, same, _⟩ => float.1 ⟨x, same⟩
      obtain ⟨z, rfl⟩ :=
        (number_of_rank memC.2).resolve_right fun ⟨z, same, _⟩ => float.2 ⟨z, same⟩
      rcases number_of_rank memB.2 with ⟨y, rfl⟩ | ⟨f, rfl, number⟩
      · exact Int.compare_ne_gt.mpr
          (Int.le_trans (Int.compare_ne_gt.mp first) (Int.compare_ne_gt.mp second))
      · -- Two integers the wrong way round would both be rounded to the float between them.
        intro greater
        have less := Int.compare_eq_gt.mp greater
        have back := Binary64.place_ofInt_mono (Int.le_of_lt less)
        have same := apart x z f memA.1 memC.1 memB.1
          (compare?_ofInt_of_place number (Int.le_antisymm lower (Int.le_trans upper back)))
          (compare?_ofInt_of_place number (Int.le_antisymm (Int.le_trans back lower) upper))
        exact Int.lt_irrefl _ (same ▸ less)

/-! ### All values -/

/-- Values that are all built in one way are ordered as what they are built from. -/
theorem orders_of_form {β : Type} (form : β → Value) (compares : β → β → Ordering)
    [Std.TransCmp compares] (forms : ∀ a, members a → ∃ b, form b = a)
    (same : ∀ x y, within (form x) (form y) = compares x y) : Orders within members where
  swap a b _ _ := within_swap a b
  trans a b c memA memB memC := by
    obtain ⟨x, rfl⟩ := forms a memA
    obtain ⟨y, rfl⟩ := forms b memB
    obtain ⟨z, rfl⟩ := forms c memC
    rw [same, same, same]
    exact (Orders.of_transCmp compares fun _ => True).trans x y z trivial trivial trivial

/-- Beyond the instants nothing is told apart within a rank. -/
theorem within_of_rank (ranked : 3 < a.rank) (same : a.rank = b.rank) : within a b = .eq := by
  cases a <;> cases b
  case float.float x y =>
    cases number : x.isNaN with
    | false => simp [rank, number] at ranked
    | true => simp [within, number]
  case int.float => simp [rank] at ranked
  case float.int =>
    rw [same] at ranked
    simp [rank] at ranked
  all_goals first
    | rfl
    | simp [rank] at ranked

/-- Up to the instants a rank has one constructor, that of the numbers apart. -/
theorem forms_of_rank (a : Value) :
    (a.rank = 0 → ∃ x, bool x = a) ∧ (a.rank = 2 → ∃ x, text x = a) ∧
      (a.rank = 3 → ∃ x, instant x = a) := by
  cases a with
  | float x => cases number : x.isNaN <;> simp [rank, number]
  | _ => simp [rank]

theorem within_orders (apart : RoundsApart members) (rank : Nat) :
    Orders within fun a => members a ∧ a.rank = rank := by
  match rank with
  | 0 =>
    exact orders_of_form bool compare
      (fun a mem => (forms_of_rank a).1 mem.2) fun _ _ => rfl
  | 1 => exact numbers_order apart
  | 2 =>
    exact orders_of_form text compare
      (fun a mem => (forms_of_rank a).2.1 mem.2) fun _ _ => rfl
  | 3 =>
    exact orders_of_form instant Instant.order
      (fun a mem => (forms_of_rank a).2.2 mem.2) fun _ _ => rfl
  | rank + 4 =>
    refine ⟨fun a b _ _ => within_swap a b, fun a b c memA _ memC _ _ => ?_⟩
    have tied := within_of_rank (a := a) (b := c) (by omega) (by omega)
    simp [tied]

theorem sortCompare_orders (apart : RoundsApart members) : Orders sortCompare members := by
  have ranks : Orders (fun a b : Value => compare a.rank b.rank) members :=
    (Orders.of_transCmp compare fun _ => True).byKey fun _ _ => trivial
  have both := ranks.andThen fun z _ => (within_orders apart z.rank).mono fun a mem =>
    ⟨mem.1, (Std.compare_eq_iff_eq.mp mem.2).symm⟩
  have same : sortCompare = fun a b => (compare a.rank b.rank).then (within a b) :=
    funext fun a => funext fun b => sortCompare_eq a b
  exact same ▸ both

/-- A float that two integers are rounded to is tied with both. -/
theorem sortCompare_of_rounded {x : Int64} {f : Binary64}
    (rounded : (Binary64.ofInt x.toInt).compare? f = some .eq) :
    (int x).sortCompare (float f) = .eq := by
  simp [sortCompare, rounded]

/-- Every value is tied with itself, and two values stand to each other the same way from both
sides. But the values of a set stand in a line exactly when no float among them is what two integers
among them are rounded to. -/
theorem sortCompare_is_preorder_iff (members : Value → Prop) :
    (∀ a : Value, a.sortCompare a = .eq) ∧
    (∀ a b : Value, b.sortCompare a = (a.sortCompare b).swap) ∧
    ((∀ a b c, members a → members b → members c →
        a.sortCompare b ≠ .gt → b.sortCompare c ≠ .gt →
        a.sortCompare c ≠ .gt ∧
          (a.sortCompare c = .eq → a.sortCompare b = .eq ∧ b.sortCompare c = .eq)) ↔
      RoundsApart members) := by
  refine ⟨sortCompare_self, sortCompare_swap, fun laws => ?apart, fun apart => ?laws⟩
  case apart =>
    intro x y f memX memY memF roundedX roundedY
    have tiedX := sortCompare_of_rounded roundedX
    have tiedY := sortCompare_of_rounded roundedY
    have backX : (float f).sortCompare (int x) = .eq := by rw [sortCompare_swap, tiedX]; rfl
    have backY : (float f).sortCompare (int y) = .eq := by rw [sortCompare_swap, tiedY]; rfl
    -- Through the float neither integer may be greater than the other.
    have upper := (laws (int x) (float f) (int y) memX memF memY (by simp [tiedX])
      (by simp [backY])).1
    have lower := (laws (int y) (float f) (int x) memY memF memX (by simp [tiedY])
      (by simp [backX])).1
    exact Int64.toInt_inj.mp (Int.le_antisymm (Int.compare_ne_gt.mp upper)
      (Int.compare_ne_gt.mp lower))
  case laws =>
    intro a b c memA memB memC first second
    have orders := sortCompare_orders apart
    exact ⟨orders.trans a b c memA memB memC first second,
      orders.ties_of_tie memA memB memC first second⟩

/-- The float of two to the fifty-third is tied with the next integer too. -/
theorem sortCompare_is_no_preorder :
    ¬ ∀ a b c : Value, a.sortCompare b ≠ .gt → b.sortCompare c ≠ .gt →
      a.sortCompare c ≠ .gt ∧
        (a.sortCompare c = .eq → a.sortCompare b = .eq ∧ b.sortCompare c = .eq) := by
  intro laws
  have tied : (float (.ofInt 9007199254740992)).sortCompare (int 9007199254740993) = .eq := by
    decide
  have least : (float (.ofInt 9007199254740992)).sortCompare (int 9007199254740992) = .eq := by
    decide
  have less : (int 9007199254740992).sortCompare (int 9007199254740993) = .lt := by decide
  have ties := (laws (float (.ofInt 9007199254740992)) (int 9007199254740992)
    (int 9007199254740993) (by simp [least]) (by simp [less])).2 tied
  exact absurd (less.symm.trans ties.2) (by decide)

end Value

end ListQuery
