import ListQuery.Json.Decode
import ListQuery.Proofs.Calendar.Reading
import ListQuery.Proofs.Json.Reading

/-! Constants through JSON. What is written for a constant does not name its kind: a JSON value is
read as the first kind that takes it, in the order in which the kinds are declared. Null, truth
values, integers and texts come back. An instant is written as a text and comes back as that text,
because texts are tried first. -/

namespace ListQuery.Scalar

/-! ### Kinds -/

/-- The float that any number is read as. -/
def float? : Json → Option Binary64
  | .number n =>
    n.meaning?.map fun
      | .int i => Binary64.ofInt i
      | .float x => x
  | _ => none

/-- Null. -/
def null? : Json → Option Scalar
  | .null => some null
  | _ => none

/-- The readers of the kinds of constants, in the order in which the kinds are declared. Instants
are read from texts by some reader of their own. -/
def kinds (instant? : String → Option Instant) : List (Json → Option Scalar) :=
  [ null?,
    fun json => (Json.bool? json).map bool,
    fun json => (Json.int64? json).map int,
    fun json => (float? json).map float,
    fun json => (Json.text? json).map text,
    fun json => ((Json.text? json).bind instant?).map instant ]

/-- A JSON value is read as the first kind that takes it, whatever texts instants are read from. -/
theorem ofJson?_eq_findSome? (instant? : String → Option Instant) (json : Json) :
    ofJson? json = (kinds instant?).findSome? fun kind => kind json := by
  cases json with
  | null => rfl
  | bool value => rfl
  | number n =>
    -- Only the readers of integers and of floats take a number.
    have tried : (kinds instant?).findSome? (fun kind => kind (.number n)) =
        ((Json.int64? (.number n)).map int).or ((float? (.number n)).map float) := by
      simp only [kinds, null?, Json.bool?, Json.text?, List.findSome?_cons, List.findSome?_nil,
        Option.map_none, Option.bind_none]
      cases (Json.int64? (.number n)).map int <;> cases (float? (.number n)).map float <;> rfl
    rw [tried, ofJson?, Json.int64?, float?]
    cases n.meaning? with
    | none => rfl
    | some value =>
      cases value with
      | float x => rfl
      | int i => by_cases fits : Json.fitsInt64 i = true <;> simp [fits]
  | text value => cases value <;> rfl
  | array items => rfl
  | object members => rfl

/-! ### Round trips -/

/-- What a constant comes back as: an instant as the text that it is written as, and every other
constant as itself. -/
def throughJson : Scalar → Scalar
  | instant i => text i.zulu
  | other => other

theorem throughJson_eq_self_iff {constant : Scalar} :
    constant.throughJson = constant ↔ ∀ i, constant ≠ instant i := by
  cases constant with
  | instant i => exact ⟨nofun, fun other => absurd rfl (other i)⟩
  | _ => exact ⟨fun _ _ => nofun, fun _ => rfl⟩

theorem ofJson?_int (i : Int64) : ofJson? (.number (.ofInt i.toInt)) = some (int i) := by
  have meaning := JsonNumber.meaning?_ofInt i.minValue_le_toInt i.toInt_le
  have fits : Json.fitsInt64 i.toInt = true := by
    rw [Json.fitsInt64, Bool.and_eq_true, decide_eq_true_iff, decide_eq_true_iff]
    exact ⟨i.minValue_le_toInt, i.toInt_le⟩
  simp [ofJson?, meaning, fits]

/-- Floats apart, this is what the JSON of a constant is read as. -/
theorem ofJson?_json {constant : Scalar} (notFloat : ∀ x, constant ≠ float x) :
    (Json.read? constant.json).bind ofJson? = some constant.throughJson := by
  cases constant with
  | null => rfl
  | bool value => cases value <;> rfl
  | int value =>
    rw [json, Json.read?_toString]
    exact ofJson?_int value
  | float x => exact absurd rfl (notFloat x)
  | text value =>
    rw [json, Json.read?_writtenText]
    rfl
  | instant value =>
    rw [json, Json.read?_writtenText]
    rfl

/-- A JSON value is read as a constant of the first kind that takes it, whatever texts instants are
read from. So a constant that is no float comes back from its JSON exactly when it is no instant. An
instant comes back as the text that it is written as, which in a year of four digits still stands
for it. -/
theorem comes_back_iff_not_instant (instant? : String → Option Instant) {constant : Scalar}
    (notFloat : ∀ x, constant ≠ float x) :
    (∀ json, ofJson? json = (kinds instant?).findSome? fun kind => kind json) ∧
    ((Json.read? constant.json).bind ofJson? = some constant ↔ ∀ i, constant ≠ instant i) ∧
    ∀ i, constant = instant i →
      (Json.read? constant.json).bind ofJson? = some (text i.zulu) ∧
      (i.date.FourDigits → Calendar.read? i.zulu = some i) := by
  have read := ofJson?_json notFloat
  refine ⟨ofJson?_eq_findSome? instant?, ?_, ?_⟩
  · rw [read, Option.some_inj]
    exact throughJson_eq_self_iff
  · rintro i rfl
    exact ⟨read, Instant.read?_zulu⟩

/-- The first instant of a leap day. -/
def leapDay : Instant :=
  Instant.midnight ⟨2024, 2, 29, by decide, by decide, by decide⟩

/-- The least integer comes back, and so do a text of a control, of what is escaped and of what is
not, and a text that reads like an instant. The instant does not, though its text stands for it. -/
theorem touchy_constants_come_back :
    (Json.read? "-9223372036854775808").bind ofJson? = some (int Int64.minValue) ∧
    (Json.read? "\"\\u001f\\\"\\\\/\\n'é\"").bind ofJson? = some (text "\x1f\"\\/\n'é") ∧
    (Json.read? "\"2024-02-29T00:00:00Z\"").bind ofJson? = some (text "2024-02-29T00:00:00Z") ∧
    leapDay.date.FourDigits ∧ Calendar.read? "2024-02-29T00:00:00Z" = some leapDay := by
  have comesBack (constant : Scalar) (notFloat : ∀ x, constant ≠ float x)
      (notInstant : ∀ i, constant ≠ instant i) {written : String}
      (spelled : constant.json = written) :
      (Json.read? written).bind ofJson? = some constant :=
    spelled ▸ (comes_back_iff_not_instant Calendar.read? notFloat).2.1.mpr notInstant
  have fourDigits : leapDay.date.FourDigits := ⟨by decide, by decide⟩
  refine ⟨?least, ?escapes, ?stamp, fourDigits, ?still⟩
  case least => exact comesBack (int Int64.minValue) nofun (fun _ => nofun) (by decide +kernel)
  case escapes => exact comesBack (text "\x1f\"\\/\n'é") nofun (fun _ => nofun) (by decide +kernel)
  case stamp =>
    exact comesBack (text "2024-02-29T00:00:00Z") nofun (fun _ => nofun) (by decide +kernel)
  case still =>
    have spelled : leapDay.zulu = "2024-02-29T00:00:00Z" := by decide +kernel
    obtain ⟨-, -, instants⟩ :=
      @comes_back_iff_not_instant Calendar.read? (instant leapDay) nofun
    exact spelled ▸ (instants leapDay rfl).2 fourDigits

/-- The first instant of a leap day is written as a text, and it is read as that text. -/
theorem leapDay_comes_back_as_text :
    leapDay.date.FourDigits ∧ (instant leapDay).json = "\"2024-02-29T00:00:00Z\"" ∧
    (Json.read? "\"2024-02-29T00:00:00Z\"").bind ofJson? = some (text "2024-02-29T00:00:00Z") ∧
    (Json.read? (instant leapDay).json).bind ofJson? ≠ some (instant leapDay) := by
  have written : (instant leapDay).json = "\"2024-02-29T00:00:00Z\"" := by decide +kernel
  have read := @ofJson?_json (instant leapDay) nofun
  refine ⟨⟨by decide, by decide⟩, written, written ▸ read, ?_⟩
  rw [read]
  nofun

end ListQuery.Scalar
