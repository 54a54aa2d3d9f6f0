import ListQuery.Proofs.Compile.Strictness

/-! What a lenient configuration makes of a filter is what a strict one makes of the filter without
its unknown and ignored properties. What is left of a filter is again a filter: a collection goes
with all of its inside, and a pair with one side left is that side, which takes over the pair's
negation. -/

namespace ListQuery.Compile

variable {M : Type} [Schema M] [DecidableEq M]

/-! ### Pruned filters -/

/-- A pair of what is left of its sides. One side alone takes over the pair's negation. -/
def rejoined (join : Filter → Filter → Bool → Filter) (negated : Bool) :
    Option Filter → Option Filter → Option Filter
  | some left, some right => some (join left right negated)
  | some one, none | none, some one => some (one.toggled negated)
  | none, none => none

/-- What is left of a filter without the clauses and collections whose properties are unknown or
ignored in their scopes. A filter on elements of what is no list has no scope, and stays. -/
def prune (config : Config M) : Scope M → Filter → Option Filter
  | scope, .clause property operator raw negated caseInsensitive =>
    (visible? config scope property).map fun _ =>
      .clause property operator raw negated caseInsensitive
  | scope, .collection property inner quantifier negated =>
    (visible? config scope property).bind fun target =>
      match target.type.element? with
      | none => some (.collection property inner quantifier negated)
      | some element =>
        (prune config (elementScope element) inner).map (.collection property · quantifier negated)
  | scope, .and left right negated =>
    rejoined .and negated (prune config scope left) (prune config scope right)
  | scope, .or left right negated =>
    rejoined .or negated (prune config scope left) (prune config scope right)

/-! ### Conditions that agree -/

variable {config : Config M} {scope : Scope M}

/-- What is left of a filter comes to a condition under a strict configuration, and this agrees
with the condition that is given; or there is neither a filter nor a condition. -/
inductive Agrees (config : Config M) (scope : Scope M) : Option Predicate → Option Filter → Prop
  where
  | nothing : Agrees config scope none none
  | condition {p q : Predicate} {f : Filter}
      (compiled : (filter (config.withStrict true) scope f).result = .ok (some q))
      (same : q.holds = p.holds) : Agrees config scope (some p) (some f)

theorem holds_negatedIf (p : Predicate) (negated : Bool) (value : Value) :
    (p.negatedIf negated).holds value = (p.holds value ^^ negated) := by
  cases negated <;> simp [Predicate.negatedIf, Predicate.holds]

theorem holds_negatedIf_congr {p q : Predicate} (same : q.holds = p.holds) (negated : Bool) :
    (q.negatedIf negated).holds = (p.negatedIf negated).holds := by
  funext value
  rw [holds_negatedIf, holds_negatedIf, same]

theorem holds_quantify_congr {p q : Predicate} (same : q.holds = p.holds)
    (quantifier : Filter.Quantifier) (path : FieldPath) :
    (quantify quantifier path q).holds = (quantify quantifier path p).holds := by
  funext value
  cases quantifier <;> simp only [quantify, Predicate.holds, same]

/-- A condition that a side is left with alone is negated by negating the side. -/
theorem Agrees.toggled {p : Predicate} {f : Filter} (agrees : Agrees config scope (some p) (some f))
    (negated : Bool) :
    Agrees config scope (some (p.negatedIf negated)) (some (f.toggled negated)) := by
  cases agrees with
  | @condition _ q _ compiled same =>
    obtain ⟨plain, own, change⟩ := filter_toggled_result (config.withStrict true) scope f
    have unchanged := change false
    rw [Filter.toggled_false, Bool.xor_false, compiled] at unchanged
    rcases plain with error | _ | inside
    · cases unchanged
    · cases unchanged
    · cases unchanged
      refine .condition (change negated) (funext fun value => ?_)
      rw [holds_negatedIf, holds_negatedIf, ← same, holds_negatedIf, Bool.xor_assoc]

/-- Two sides that agree are joined to pairs that agree, if the compiler and the values join as the
filters do. -/
theorem Agrees.rejoined {join : Filter → Filter → Bool → Filter}
    {joinConditions : Predicate → Predicate → Predicate} {joinAnswers : Bool → Bool → Bool}
    (compiles : ∀ {left right p q negated},
      (filter (config.withStrict true) scope left).result = .ok (some p) →
      (filter (config.withStrict true) scope right).result = .ok (some q) →
        (filter (config.withStrict true) scope (join left right negated)).result =
          .ok (some ((joinConditions p q).negatedIf negated)))
    (decides : ∀ p q value,
      (joinConditions p q).holds value = joinAnswers (p.holds value) (q.holds value))
    {a b : Option Predicate} {f g : Option Filter} (left : Agrees config scope a f)
    (right : Agrees config scope b g) (negated : Bool) :
    Agrees config scope ((combine joinConditions a b).map (·.negatedIf negated))
      (Compile.rejoined join negated f g) := by
  cases left with
  | nothing =>
    cases right with
    | nothing => exact .nothing
    | condition compiled same => exact (Agrees.condition compiled same).toggled negated
  | condition compiled same =>
    cases right with
    | nothing => exact (Agrees.condition compiled same).toggled negated
    | condition compiled' same' =>
      refine .condition (compiles compiled compiled') (holds_negatedIf_congr ?_ negated)
      funext value
      rw [decides, decides, same, same']

/-- What a lenient configuration makes of a filter agrees with what is left of it. -/
theorem agrees_of_filter {f : Filter} {r : Option Predicate}
    (compiled : (filter (config.withStrict false) scope f).result = .ok r) :
    Agrees config scope r (prune config scope f) := by
  induction f generalizing scope r with
  | clause property operator raw negated caseInsensitive =>
    cases found : visible? config scope property with
    | none =>
      obtain ⟨reason, same⟩ := clause_of_hidden
        ((visible?_withStrict config false scope property).trans found) operator raw negated
        caseInsensitive
      rw [filter, same, result_dropped] at compiled
      cases compiled
      rw [prune, found]
      exact .nothing
    | some target =>
      have same (strict : Bool) := clause_of_visible
        ((visible?_withStrict config strict scope property).trans found) operator raw negated
        caseInsensitive
      rw [filter, same] at compiled
      rw [prune, found]
      cases made : condition property target caseInsensitive operator raw with
      | error error =>
        rw [made] at compiled
        cases compiled
      | ok p =>
        rw [made] at compiled
        cases compiled
        refine .condition ?_ rfl
        rw [filter, same, made]
        rfl
  | collection property inner quantifier negated ih =>
    cases found : visible? config scope property with
    | none =>
      obtain ⟨reason, same⟩ := collection_of_hidden
        ((visible?_withStrict config false scope property).trans found) inner quantifier negated
      rw [same, result_dropped] at compiled
      cases compiled
      rw [prune, found]
      exact .nothing
    | some target =>
      have same (inside : Filter) (strict : Bool) := collection_of_visible
        ((visible?_withStrict config strict scope property).trans found) inside quantifier negated
      rw [same] at compiled
      rw [prune, found, Option.bind_some]
      cases type : target.type.element? with
      | none =>
        rw [type] at compiled
        cases compiled
      | some element =>
        rw [type] at compiled
        obtain ⟨inside, within, last⟩ := Traced.result_bind_eq_ok.mp compiled
        cases last
        have agrees := ih within
        dsimp only
        generalize prune config (elementScope element) inner = left at agrees
        cases agrees with
        | nothing => exact .nothing
        | condition strictly agree =>
          refine .condition ?_ (holds_negatedIf_congr (holds_quantify_congr agree _ _) negated)
          rw [same, type]
          exact Traced.result_bind_eq_ok.mpr ⟨_, strictly, rfl⟩
  | and left right negated ihLeft ihRight =>
    obtain ⟨a, b, first, second, rfl⟩ := filter_and_eq_ok.mp compiled
    exact (ihLeft first).rejoined
      (fun one two => filter_and_eq_ok.mpr ⟨_, _, one, two, rfl⟩) (fun _ _ _ => rfl)
      (ihRight second) negated
  | or left right negated ihLeft ihRight =>
    obtain ⟨a, b, first, second, rfl⟩ := filter_or_eq_ok.mp compiled
    exact (ihLeft first).rejoined
      (fun one two => filter_or_eq_ok.mpr ⟨_, _, one, two, rfl⟩) (fun _ _ _ => rfl)
      (ihRight second) negated

/-- When a lenient configuration compiles a filter, it comes to nothing exactly when nothing is left
of the filter, and else to a condition that decides every value as the one does that a strict
configuration makes of what is left. -/
theorem lenient_filter_is_strict_on_pruned {f : Filter} {r : Option Predicate}
    (compiled : (filter (config.withStrict false) scope f).result = .ok r) :
    (r = none ↔ prune config scope f = none) ∧
      ∀ pruned, prune config scope f = some pruned →
        ∃ p q, r = some p ∧ (filter (config.withStrict true) scope pruned).result = .ok (some q) ∧
          ∀ value, q.holds value = p.holds value := by
  have agrees := agrees_of_filter compiled
  generalize prune config scope f = left at agrees
  cases agrees with
  | nothing => exact ⟨Iff.intro (fun _ => rfl) (fun _ => rfl), nofun⟩
  | condition strictly same =>
    refine ⟨Iff.intro nofun nofun, ?_⟩
    rintro _ ⟨⟩
    exact ⟨_, _, rfl, strictly, congrFun same⟩

/-- Both of a negated pair's sides lose something: one is gone, and the other is again a negated
pair, inside a collection, with one side left. -/
theorem lenient_filter_on_lines :
    ∃ f pruned p q,
      (filter (({} : Config Sample.Model).withStrict false) (.model .order) f).result =
        .ok (some p) ∧
      prune ({} : Config Sample.Model) (.model .order) f = some pruned ∧
      pruned = .collection "lines" (.clause "qty" .greater [some "3"] true false) .any true ∧
      (filter (({} : Config Sample.Model).withStrict true) (.model .order) pruned).result =
        .ok (some q) ∧
      ∀ value, q.holds value = p.holds value := by
  let f : Filter := .or (.clause "nope" .equal [some "1"] false false)
    (.collection "lines" (.and (.clause "nope" .equal [some "2"] false false)
      (.clause "qty" .greater [some "3"] false false) true) .any false) true
  have compiled : (filter (({} : Config Sample.Model).withStrict false) (.model .order) f).result =
      .ok (some (.not (.any ["lines"] (.not (.compare ⟨["qty"], false⟩ .gt (.int 3)))))) := rfl
  have left : prune ({} : Config Sample.Model) (.model .order) f =
      some (.collection "lines" (.clause "qty" .greater [some "3"] true false) .any true) := rfl
  obtain ⟨p, q, same, strictly, agree⟩ := (lenient_filter_is_strict_on_pruned compiled).2 _ left
  cases same
  exact ⟨f, _, _, q, compiled, left, rfl, strictly, agree⟩

end ListQuery.Compile
