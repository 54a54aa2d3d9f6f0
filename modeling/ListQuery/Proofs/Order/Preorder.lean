/-! Comparisons that put values in a line, ties allowed. A comparison need not do so for all values
of its type; what is asked for is said of the members of a set, and is kept by the ways in which
comparisons are built: by a key, the other way round, and one after the other. -/

namespace ListQuery

variable {α β : Type}

/-- The members of a set stand in a line: seen from the other side they stand the other way round,
and what stands before or beside its neighbour does so for all that follow. -/
structure Orders (compares : α → α → Ordering) (members : α → Prop) : Prop where
  swap : ∀ a b, members a → members b → compares b a = (compares a b).swap
  trans : ∀ a b c, members a → members b → members c →
    compares a b ≠ .gt → compares b c ≠ .gt → compares a c ≠ .gt

theorem swap_ne_gt_iff {o : Ordering} : o.swap ≠ .gt ↔ o ≠ .lt := by
  cases o <;> simp

namespace Orders

variable {compares later : α → α → Ordering} {members : α → Prop} {a b c : α}

theorem self (orders : Orders compares members) (mem : members a) : compares a a = .eq := by
  have same := orders.swap a a mem mem
  cases held : compares a a <;> simp [held] at same ⊢

theorem tied_back (orders : Orders compares members) (memA : members a) (memB : members b)
    (tied : compares a b = .eq) : compares b a = .eq := by
  rw [orders.swap a b memA memB, tied]
  rfl

/-- Values of which neither is greater are tied. -/
theorem tied_of_both (orders : Orders compares members) (memA : members a) (memB : members b)
    (upper : compares a b ≠ .gt) (lower : compares b a ≠ .gt) : compares a b = .eq := by
  rw [orders.swap a b memA memB, swap_ne_gt_iff] at lower
  cases held : compares a b <;> simp_all

/-- What is tied with a value stands to all others as that value does. -/
theorem congr_left (orders : Orders compares members) (memA : members a) (memB : members b)
    (memC : members c) (tied : compares a b = .eq) : compares a c = compares b c := by
  have back := orders.tied_back memA memB tied
  have before : compares a c ≠ .gt ↔ compares b c ≠ .gt :=
    ⟨orders.trans b a c memB memA memC (by simp [back]),
      orders.trans a b c memA memB memC (by simp [tied])⟩
  have after : compares a c ≠ .lt ↔ compares b c ≠ .lt := by
    rw [← swap_ne_gt_iff, ← swap_ne_gt_iff, ← orders.swap a c memA memC,
      ← orders.swap b c memB memC]
    exact ⟨fun held => orders.trans c a b memC memA memB held (by simp [tied]),
      fun held => orders.trans c b a memC memB memA held (by simp [back])⟩
  cases first : compares a c <;> cases second : compares b c <;> simp_all

/-- Only ties make up a tie. -/
theorem ties_of_tie (orders : Orders compares members) (memA : members a) (memB : members b)
    (memC : members c) (first : compares a b ≠ .gt) (second : compares b c ≠ .gt)
    (tied : compares a c = .eq) : compares a b = .eq ∧ compares b c = .eq := by
  have below : compares b a ≠ .gt := by
    have back := orders.tied_back memA memC tied
    exact orders.trans b c a memB memC memA second (by simp [back])
  have even := orders.tied_of_both memA memB first below
  exact ⟨even, by rw [← orders.congr_left memA memB memC even, tied]⟩

theorem of_transCmp (compares : α → α → Ordering) [Std.TransCmp compares]
    (members : α → Prop) : Orders compares members where
  swap _ _ _ _ := Std.OrientedCmp.eq_swap
  trans _ _ _ _ _ _ first second := by
    have ordered := Std.TransCmp.isLE_trans (Ordering.isLE_iff_ne_gt.mpr first)
      (Ordering.isLE_iff_ne_gt.mpr second)
    exact Ordering.isLE_iff_ne_gt.mp ordered

theorem reversed (orders : Orders compares members) :
    Orders (fun a b => (compares a b).swap) members where
  swap a b memA memB := congrArg Ordering.swap (orders.swap a b memA memB)
  trans a b c memA memB memC first second := by
    rw [← orders.swap a b memA memB] at first
    rw [← orders.swap b c memB memC] at second
    rw [← orders.swap a c memA memC]
    exact orders.trans c b a memC memB memA second first

/-- Values are ordered as their keys are. -/
theorem byKey (orders : Orders compares members) {key : β → α} {keyed : β → Prop}
    (keys : ∀ b, keyed b → members (key b)) :
    Orders (fun a b => compares (key a) (key b)) keyed where
  swap a b memA memB := orders.swap _ _ (keys a memA) (keys b memB)
  trans a b c memA memB memC := orders.trans _ _ _ (keys a memA) (keys b memB) (keys c memC)

/-- A second comparison decides what the first one leaves tied. It need not order any more than
that. -/
theorem andThen (orders : Orders compares members)
    (decides : ∀ z, members z → Orders later fun a => members a ∧ compares z a = .eq) :
    Orders (fun a b => (compares a b).then (later a b)) members where
  swap a b memA memB := by
    have turned := orders.swap a b memA memB
    cases held : compares a b with
    | lt => simp [turned, held]
    | gt => simp [turned, held]
    | eq =>
      have within := (decides a memA).swap a b ⟨memA, orders.self memA⟩ ⟨memB, held⟩
      simp [turned, held, within]
  trans a b c memA memB memC first second := by
    simp only [ne_eq, Ordering.then_eq_gt, not_or, not_and] at first second ⊢
    refine ⟨orders.trans a b c memA memB memC first.1 second.1, fun tied => ?_⟩
    -- A tie at the ends is a tie all along, and the second comparison orders what is tied.
    obtain ⟨left, right⟩ := orders.ties_of_tie memA memB memC first.1 second.1 tied
    exact (decides a memA).trans a b c ⟨memA, orders.self memA⟩ ⟨memB, left⟩ ⟨memC, tied⟩
      (first.2 left) (second.2 right)

theorem mono (orders : Orders compares members) {fewer : α → Prop}
    (sub : ∀ a, fewer a → members a) : Orders compares fewer where
  swap a b memA memB := orders.swap a b (sub a memA) (sub b memB)
  trans a b c memA memB memC := orders.trans a b c (sub a memA) (sub b memB) (sub c memC)

end Orders

end ListQuery
