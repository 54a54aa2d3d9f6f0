import ListQuery.Proofs.Compile.Outcome
import ListQuery.Sample.Hooks
import ListQuery.Sample.Models

/-! What an order-by text comes to where properties that cannot be sorted by are passed over. Each
entry adds a key, or a hook, or nothing, and what it adds depends on the entry alone. So the keys are
those of the entries in their order, and then the hooks change the plan in theirs, wherever in the
text they stand. -/

namespace ListQuery

namespace OrderCompile

variable {M : Type} [Schema M] [DecidableEq M]

/-- The key that an entry adds, if it can be sorted by and has no hook. -/
def key? (config : Config M) (model : M) (entry : OrderBy.Entry) : Option SortKey :=
  match orderable? config model entry.property with
  | some resolved =>
    if resolved.customSort.isSome then none else some ⟨.field resolved.path, entry.ascending⟩
  | none => none

/-- The hook that an entry adds, if it has one. -/
def hook? (config : Config M) (model : M) (entry : OrderBy.Entry) : Option Deferred :=
  match orderable? config model entry.property with
  | some resolved => resolved.customSort.map (⟨·, entry.ascending⟩)
  | none => none

/-- What a hook makes of a plan. It is told its direction and whether the plan has a key. -/
def Deferred.apply (plan : SortPlan) (deferred : Deferred) : SortPlan :=
  deferred.hook plan deferred.ascending plan.isOrdered

theorem runHooks_result (plan : SortPlan) (deferred : List Deferred) :
    (runHooks plan deferred).result = .ok (deferred.foldl Deferred.apply plan) := by
  induction deferred generalizing plan with
  | nil => rfl
  | cons first rest ih =>
    rw [runHooks, Traced.result_bind]
    exact ih _

variable {config : Config M} (lenient : config.strict = false) (model : M)

include lenient

omit [Schema M] [DecidableEq M] in
theorem skipped_bind_result {α : Type} (property : String) (reason : PassedOver)
    (next : Traced QueryError α) :
    (do skipped config property reason; next).result = next.result := by
  rw [Traced.result_bind, skipped, lenient]
  rfl

/-- One entry adds its key and its hook, as far as it has them. -/
theorem collect_cons_result (plan : SortPlan) (deferred : List Deferred) (entry : OrderBy.Entry)
    (rest : List OrderBy.Entry) :
    (collect config model plan deferred (entry :: rest)).result =
      (collect config model ⟨plan.keys ++ (key? config model entry).toList⟩
        (deferred ++ (hook? config model entry).toList) rest).result := by
  cases found : orderable? config model entry.property with
  | none =>
    obtain ⟨reason, same⟩ := collect_of_hidden plan deferred rest found
    rw [same, skipped_bind_result lenient]
    simp [key?, hook?, found]
  | some resolved =>
    rw [collect_of_orderable plan deferred rest found]
    cases custom : resolved.customSort with
    | some hook => simp [key?, hook?, found, custom]
    | none =>
      rw [SortPlan.nextBy_eq_thenBy]
      simp [key?, hook?, found, custom, SortPlan.thenBy]

/-- What is collected are the keys and the hooks of all entries. -/
theorem collect_result (plan : SortPlan) (deferred : List Deferred)
    (entries : List OrderBy.Entry) :
    (collect config model plan deferred entries).result =
      .ok (⟨plan.keys ++ entries.filterMap (key? config model)⟩,
        deferred ++ entries.filterMap (hook? config model)) := by
  induction entries generalizing plan deferred with
  | nil => simp [collect, pure, Traced.pure]
  | cons entry rest ih =>
    rw [collect_cons_result lenient, ih]
    cases key : key? config model entry <;> cases hook : hook? config model entry <;>
      simp [key, hook]

end OrderCompile

open OrderCompile

/-- Entries add what those of them add that add anything. -/
theorem filterMap_eq_of_filter {α β : Type} {adds? : α → Option β} {entries others : List α}
    (same : (entries.filter fun entry => (adds? entry).isSome) =
      others.filter fun entry => (adds? entry).isSome) :
    entries.filterMap adds? = others.filterMap adds? := by
  have only : (fun entry => if (adds? entry).isSome then adds? entry else none) = adds? :=
    funext fun entry => by cases adds? entry <;> rfl
  have kept (entries : List α) :
      (entries.filter fun entry => (adds? entry).isSome).filterMap adds? =
        entries.filterMap adds? := by
    rw [List.filterMap_filter, only]
  rw [← kept, same, kept]

/-- Where nothing is refused, a text comes to the plan of its keys, changed by its hooks one after
the other, each told its direction and whether there is a key so far. So what it comes to depends
on the entries with keys and on those with hooks, and not on how they stand to each other or on what
is passed over between them. -/
theorem hooks_run_after_keys {M : Type} [Schema M] [DecidableEq M] (config : Config M)
    (lenient : config.strict = false) (model : M) (text : String) :
    (compileOrder config model text).result =
      .ok (((OrderBy.parse text).filterMap (hook? config model)).foldl Deferred.apply
        ⟨(OrderBy.parse text).filterMap (key? config model)⟩) ∧
    ∀ other,
      ((OrderBy.parse text).filter fun entry => (key? config model entry).isSome) =
        ((OrderBy.parse other).filter fun entry => (key? config model entry).isSome) →
      ((OrderBy.parse text).filter fun entry => (hook? config model entry).isSome) =
        ((OrderBy.parse other).filter fun entry => (hook? config model entry).isSome) →
      (compileOrder config model text).result = (compileOrder config model other).result := by
  have comes (text : String) : (compileOrder config model text).result =
      .ok (((OrderBy.parse text).filterMap (hook? config model)).foldl Deferred.apply
        ⟨(OrderBy.parse text).filterMap (key? config model)⟩) := by
    rw [compileOrder, Traced.result_bind, collect_result lenient]
    exact runHooks_result _ _
  refine ⟨comes text, fun other keys hooks => ?_⟩
  rw [comes, comes, filterMap_eq_of_filter keys, filterMap_eq_of_filter hooks]

/-- Users sort by hooks for their names, which count the letters, and for their scores, which start
the plan anew. -/
def hookedUsers : Config Sample.Model where
  mappings := [(.user, { customSorts :=
    (Sample.customSort? "name_length").toList.map (("name", ·)) ++
      (Sample.customSort? "reset").toList.map (("score", ·)) })]

/-- The plan starts anew behind the age and goes on by the letters of the name, wherever the age
stands and whatever is passed over. -/
theorem hookedUsers_run_hooks_last :
    hookedUsers.strict = false ∧
    (compileOrder hookedUsers .user "-score,age,ghost,name").result =
      .ok ⟨[⟨.field ["id"], true⟩, ⟨Sample.computed 0 "name_length", true⟩]⟩ ∧
    (compileOrder hookedUsers .user "-score,age,ghost,name").result =
      (compileOrder hookedUsers .user "-score,items,name,age").result := by
  have parsed : OrderBy.parse "-score,age,ghost,name" =
      [⟨"score", false⟩, ⟨"age", true⟩, ⟨"ghost", true⟩, ⟨"name", true⟩] := by decide +kernel
  have parsedOther : OrderBy.parse "-score,items,name,age" =
      [⟨"score", false⟩, ⟨"items", true⟩, ⟨"name", true⟩, ⟨"age", true⟩] := by decide +kernel
  obtain ⟨comes, alike⟩ := hooks_run_after_keys hookedUsers rfl .user "-score,age,ghost,name"
  refine ⟨rfl, ?_, alike _ ?_ ?_⟩
  · rw [comes, parsed]
    rfl
  · rw [parsed, parsedOther]
    rfl
  · rw [parsed, parsedOther]
    rfl

end ListQuery
