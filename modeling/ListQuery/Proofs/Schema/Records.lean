import ListQuery.Predicate
import ListQuery.Proofs.Schema.Leads

/-! Values of declared types. Null is of every type, a record holds each of its declared fields,
and so a path along declared fields always finds a value of the type that it leads to. -/

namespace ListQuery

namespace Value

variable {M : Type} [Schema M]

/-- A value is of a type. A record may hold more than is declared, but it holds all that is. -/
inductive HasType : Value → FieldType M → Prop where
  | null {type : FieldType M} : HasType .null type
  | bool {b : Bool} : HasType (.bool b) .bool
  | int {i : Int64} : HasType (.int i) .int
  | float {x : Binary64} : HasType (.float x) .float
  | text {s : String} : HasType (.text s) .text
  | instant {t : Instant} : HasType (.instant t) .instant
  | list {items : List Value} {element : FieldType M}
      (each : ∀ item ∈ items, HasType item element) : HasType (.list items) (.list element)
  | record {held : List (String × Value)} {model : M}
      (complete : ∀ field ∈ Schema.fields model, (fieldOf? field.name held).isSome)
      (each : ∀ field ∈ Schema.fields model, ∀ value, fieldOf? field.name held = some value →
        HasType value field.type) : HasType (.record held) (.record model)

theorem lookup?_null (path : FieldPath) : lookup? .null path = some .null := by
  cases path <;> rfl

theorem lookup?_record (held : List (String × Value)) (name : String) (rest : FieldPath) :
    (record held).lookup? (name :: rest) = (fieldOf? name held).bind (·.lookup? rest) := by
  rw [lookup?]
  cases fieldOf? name held <;> rfl

theorem lookup?_cons {held : List (String × Value)} {name : String} {value : Value}
    (found : fieldOf? name held = some value) (rest : FieldPath) :
    (record held).lookup? (name :: rest) = value.lookup? rest := by
  rw [lookup?_record, found, Option.bind_some]

/-- A declared field of a record has a value of its type. -/
theorem HasType.fieldOf? {held : List (String × Value)} {model : M}
    (typed : (Value.record held).HasType (.record model)) {field : Field M}
    (declared : field ∈ Schema.fields model) :
    ∃ value, Value.fieldOf? field.name held = some value ∧ value.HasType field.type := by
  cases typed with
  | record complete each =>
    obtain ⟨value, found⟩ := Option.isSome_iff_exists.mp (complete field declared)
    exact ⟨value, found, each field declared value found⟩

/-- A path along declared fields finds a value of the type that it leads to. -/
theorem HasType.lookup? {root owner : M} {path : FieldPath} {last : Field M}
    (leads : Schema.Leads root path owner last) {value : Value}
    (typed : value.HasType (.record root)) :
    ∃ found, value.lookup? path = some found ∧ found.HasType last.type := by
  induction leads generalizing value with
  | last declared =>
    cases value with
    | record held =>
      obtain ⟨found, same, foundTyped⟩ := typed.fieldOf? (List.mem_of_find?_eq_some declared)
      rw [Schema.name_of_declared declared] at same
      exact ⟨found, lookup?_cons same [], foundTyped⟩
    | null => exact ⟨.null, lookup?_null _, .null⟩
    | _ => cases typed
  | through declared isRecord _ ih =>
    cases value with
    | record held =>
      obtain ⟨next, same, nextTyped⟩ := typed.fieldOf? (List.mem_of_find?_eq_some declared)
      rw [Schema.name_of_declared declared] at same
      rw [isRecord] at nextTyped
      rw [lookup?_cons same]
      exact ih nextTyped
    | null => exact ⟨.null, lookup?_null _, .null⟩
    | _ => cases typed

end Value

end ListQuery
