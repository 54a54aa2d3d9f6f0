/-! Associations: values under keys, in the order in which the keys first came. -/

namespace ListQuery

/-- Values under keys. Each key stands once. -/
abbrev Association (κ α : Type) := List (κ × α)

namespace Association

variable {κ α : Type} [DecidableEq κ]

/-- The value under a key. -/
def get? (key : κ) : Association κ α → Option α
  | [] => none
  | (k, value) :: rest => if k = key then some value else get? key rest

/-- Puts a value under a key. A key that is there keeps its place. -/
def put (key : κ) (value : α) : Association κ α → Association κ α
  | [] => [(key, value)]
  | (k, old) :: rest => if k = key then (k, value) :: rest else (k, old) :: put key value rest

/-- Takes a key away. -/
def erase (key : κ) : Association κ α → Association κ α
  | [] => []
  | (k, old) :: rest => if k = key then erase key rest else (k, old) :: erase key rest

/-- Puts many values in turn. -/
def ofList (pairs : List (κ × α)) : Association κ α :=
  pairs.foldl (fun association pair => put pair.1 pair.2 association) []

@[simp] theorem get?_put (key other : κ) (value : α) (association : Association κ α) :
    get? other (put key value association) =
      if key = other then some value else get? other association := by
  induction association with
  | nil => simp [put, get?]
  | cons pair rest ih =>
    obtain ⟨k, old⟩ := pair
    by_cases same : k = key
    · subst same
      by_cases here : k = other <;> simp [put, get?, here]
    · by_cases here : k = other
      · subst here
        simp [put, get?, same, Ne.symm same]
      · simp [put, get?, same, here, ih]

@[simp] theorem get?_erase (key other : κ) (association : Association κ α) :
    get? other (erase key association) =
      if key = other then none else get? other association := by
  induction association with
  | nil => simp [erase, get?]
  | cons pair rest ih =>
    obtain ⟨k, old⟩ := pair
    by_cases same : k = key
    · subst same
      by_cases here : k = other
      · subst here
        simpa [erase] using ih
      · simp [erase, get?, here, ih]
    · by_cases here : k = other
      · subst here
        simp [erase, get?, same, Ne.symm same]
      · simp [erase, get?, same, here, ih]

end Association

end ListQuery
