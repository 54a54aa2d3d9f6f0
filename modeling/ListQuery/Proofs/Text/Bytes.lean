import Mathlib.Data.String.Basic

/-! Texts in the order of their bytes. The bytes of characters are in the order of the characters:
one that takes more bytes has the greater first byte, and of two that take as many the greater one
has the greater byte where they first differ. So texts compare by bytes as they do by characters. -/

namespace ListQuery.Text

/-- The bytes of a text. -/
def bytes (text : String) : List UInt8 :=
  text.toByteArray.data.toList

theorem bytes_eq (text : String) : bytes text = text.toList.flatMap String.utf8EncodeChar := by
  rw [bytes, ← String.utf8Encode_toList, List.utf8Encode, List.toList_data_toByteArray]

variable {u v : List UInt8}

/-- The first bytes decide, and what follows them where they are the same. -/
theorem compare_lead {m n : Nat} (ordered : m ≤ n) (small : n < 256)
    (rest : m = n → compare u v = .lt) :
    compare (UInt8.ofNat m :: u) (UInt8.ofNat n :: v) = .lt := by
  rw [List.compare_cons_cons, Ordering.then_eq_lt, Std.compare_eq_lt, UInt8.lt_iff_toNat_lt,
    UInt8.toNat_ofNat', UInt8.toNat_ofNat']
  rcases Nat.lt_or_eq_of_le ordered with less | same
  · left
    omega
  · subst same
    exact Or.inr ⟨Std.ReflOrd.compare_self, rest rfl⟩

/-- A greater character has greater bytes, whatever follows them. -/
theorem compare_encoded {c d : Char} (less : c < d) :
    compare (String.utf8EncodeChar c ++ u) (String.utf8EncodeChar d ++ v) = .lt := by
  have values : c.val.toNat < d.val.toNat := UInt32.lt_iff_toNat_lt.mp less
  have last : d.val.toNat < 1114112 := by
    rcases d.valid with low | ⟨_, high⟩
    · omega
    · exact high
  simp only [String.utf8EncodeChar]
  split_ifs
  -- Either the lengths are the wrong way round, or the bytes decide one after the other.
  all_goals first
    | omega
    | simp only [List.cons_append, List.nil_append]
      repeat' refine compare_lead (by omega) (by omega) fun same => ?_
      omega

theorem compare_append_left (w : List UInt8) : compare (w ++ u) (w ++ v) = compare u v := by
  induction w with
  | nil => rfl
  | cons x w ih =>
    rw [List.cons_append, List.cons_append, List.compare_cons_cons, Std.ReflOrd.compare_self]
    exact ih

theorem compare_encodings {xs ys : List Char} (less : xs < ys) :
    compare (xs.flatMap String.utf8EncodeChar) (ys.flatMap String.utf8EncodeChar) = .lt := by
  induction less with
  | nil =>
    rw [List.flatMap_cons, List.flatMap_nil]
    cases encoded : String.utf8EncodeChar _ with
    | nil => exact absurd encoded String.utf8EncodeChar_ne_nil
    | cons x w => exact List.compare_nil_cons
  | rel first =>
    rw [List.flatMap_cons, List.flatMap_cons]
    exact compare_encoded first
  | cons _ ih =>
    rw [List.flatMap_cons, List.flatMap_cons, compare_append_left]
    exact ih

/-- Comparing texts by their bytes is comparing them by their characters. -/
theorem compare_bytes (a b : String) : compare (bytes a) (bytes b) = compare a b := by
  have less {a b : String} (before : a < b) : compare (bytes a) (bytes b) = .lt := by
    rw [bytes_eq, bytes_eq]
    exact compare_encodings (String.lt_iff_toList_lt.mp before)
  cases order : compare a b with
  | lt => exact less (compareOfLessAndEq_eq_lt.mp order)
  | eq =>
    rw [Std.LawfulEqOrd.eq_of_compare order]
    exact Std.ReflOrd.compare_self
  | gt =>
    have turned : compare b a = .lt := Std.OrientedCmp.gt_iff_lt.mp order
    rw [Std.OrientedOrd.eq_swap, less (compareOfLessAndEq_eq_lt.mp turned)]
    rfl

end ListQuery.Text
