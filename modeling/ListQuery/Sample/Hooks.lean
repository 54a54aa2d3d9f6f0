import ListQuery.Mapping

/-! Hooks for the sample schema, by name: converters, conditions and keys such as a program
brings with it. -/

namespace ListQuery.Sample

/-- Tests on a value. -/
def test? (name : String) : Option (Value → Bool) :=
  match name with
  | "everyone" => some fun _ => true
  | "nobody" => some fun _ => false
  | "has_items" => some fun
    | .record fields =>
      match Value.fieldOf? "items" fields with
      | some (.list items) => !items.isEmpty
      | _ => false
    | _ => false
  | "is_null" => some Value.isNull
  | "is_long" => some fun
    | .text s => 3 < s.utf8ByteSize
    | _ => false
  | _ => none

/-- A test as a condition, under an identity. -/
def native (identity : Nat) (name : String) : Predicate :=
  .native ⟨name, identity, (test? name).getD fun _ => false⟩

/-- Keys read from a record. -/
def computed? (name : String) : Option (Value → Value) :=
  match name with
  | "name_length" => some fun
    | .record fields =>
      match Value.fieldOf? "name" fields with
      | some (.text s) => .int (Int64.ofNat s.utf8ByteSize)
      | _ => .null
    | _ => .null
  | "item_count" => some fun
    | .record fields =>
      match Value.fieldOf? "items" fields with
      | some (.list items) => .int (Int64.ofNat items.length)
      | _ => .int (-1)
    | _ => .int (-1)
  | _ => none

/-- A key as a sort target, under an identity. -/
def computed (identity : Nat) (name : String) : SortTarget :=
  .computed ⟨name, identity, (computed? name).getD fun _ => .null⟩

/-- Converters. -/
def converter? (name : String) : Option Converter :=
  match name with
  | "decade" => some fun raw => (Literal.int64 raw).map fun n => .int (n * 10)
  | "prefix" => some fun raw =>
    (Literal.int64 raw).map fun n => .text ("user-" ++ toString n.toInt)
  | "byte" => some fun raw => (Literal.integer 0 255 raw).map fun n => .int (Int64.ofInt n)
  | "percent" => some fun raw =>
    (Literal.float raw).map fun x => .float (x.div (Binary64.ofInt 100))
  | "yesno" => some fun raw =>
    if raw = "yes" then .ok (.bool true)
    else if raw = "no" then .ok (.bool false)
    else .error (.rejected "not yes or no")
  | "maybe" => some fun raw =>
    if raw = "none" then .ok .null
    else
      match Literal.int64 raw with
      | .ok n => .ok (.int n)
      | .error fault => .error (.rejected ("maybe: " ++ fault.message))
  | "day" => some fun raw => (Literal.instant raw).map .instant
  | "shout" => some fun raw => .ok (.text (raw ++ "!"))
  | _ => none

/-- A comparison of a field with the first value. -/
private def first {α : Type} (comparison : Comparison) (scalar : α → Scalar) :
    FieldPath → List α → Filter.Operator → Predicate
  | path, value :: _, _ => .compare ⟨path, false⟩ comparison (scalar value)
  | _, [], _ => native 0 "none"

private def equalTo (path : FieldPath) (text : String) : Predicate :=
  .compare ⟨path, false⟩ .eq (.text text)

/-- Conditions. -/
def customFilter? (name : String) : Option CustomFilter :=
  match name with
  | "times100" => some (.typed (first .gt fun (n : Int64) => .int (n * 100)))
  | "any_eq" => some (.typed fun path (values : List String) _ =>
    match values with
    | [] => native 0 "none"
    | value :: rest => rest.foldl (fun p v => .or p (equalTo path v)) (equalTo path value))
  | "echo" => some (.typed fun path (values : List String) operator =>
    equalTo path (operator.symbol ++ ":" ++ "/".intercalate values))
  | "opt" => some (.typed fun path (values : List (Option Int64)) _ =>
    .oneOf ⟨path, false⟩ (values.map fun value => (value.map Scalar.int).getD .null))
  | "i32" => some (.typed (first .lt fun (n : Int32) => .int (Int64.ofInt n.toInt)))
  | "u32" => some (.typed (first .ge fun (n : UInt32) => .int (Int64.ofNat n.toNat)))
  | "f64" => some (.typed (first .le Scalar.float))
  | "bool" => some (.typed (first .ne Scalar.bool))
  | "since" => some (.typed (first .ge Scalar.instant))
  | "everyone" => some (.typed fun _ (_ : List String) _ => native 0 "everyone")
  | "nobody" => some (.typed fun _ (_ : List Int64) _ => native 0 "nobody")
  | "has_items" => some (.typed fun _ (_ : List (Option String)) _ => native 0 "has_items")
  | _ => none

/-- A computed key after the keys so far, or as the first. -/
private def byComputed (name : String) : CustomSort := fun plan ascending ordered =>
  if ordered then plan.thenBy (computed 0 name) ascending
  else plan.orderBy (computed 0 name) ascending

/-- Changes of a plan. -/
def customSort? (name : String) : Option CustomSort :=
  match name with
  | "name_length" | "item_count" => some (byComputed name)
  | "by_id" => some fun plan ascending _ => plan.nextBy (.field ["id"]) ascending
  | "reset" => some fun plan ascending _ => plan.orderBy (.field ["id"]) !ascending
  | "nested" => some fun plan ascending _ => plan.thenBy (.field ["address", "city"]) ascending
  | "drop" => some fun _ _ _ => {}
  | "noop" => some fun plan _ _ => plan
  | _ => none

end ListQuery.Sample
