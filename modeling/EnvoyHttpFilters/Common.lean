import Mathlib.Data.List.Basic

/-!
# Protobuf structs and filter statuses shared by the HTTP filters

`ProtobufWkt::Struct` is kept only as far as the filters use it: a map from
field names to string values, written with `*fields[key].mutable_string_value()`,
which inserts the field or overwrites it. Field order carries no meaning, so
every statement about a struct goes through `Struct.lookup`.
-/

namespace EnvoyHttpFilters

/-- `Http::FilterHeadersStatus`, restricted to the two values the filters return. -/
inductive FilterHeadersStatus
  | Continue
  | StopIteration
  deriving DecidableEq, Repr

/-- `ProtobufWkt::Struct` holding string values. -/
structure Struct where
  fields : List (String × String)
  deriving DecidableEq, Repr

namespace Struct

def empty : Struct := ⟨[]⟩

/-- `*fields[key].mutable_string_value() = value`. -/
def set (m : Struct) (key value : String) : Struct :=
  ⟨(key, value) :: m.fields.filter (fun f => f.1 != key)⟩

def lookup (m : Struct) (key : String) : Option String := m.fields.lookup key

lemma lookup_cons_ite (fs : List (String × String)) (a b k : String) :
    ((a, b) :: fs).lookup k = if k = a then some b else fs.lookup k := by
  by_cases hk : k = a
  · simp [hk]
  · simp [List.lookup_cons, beq_false_of_ne hk, hk]

lemma lookup_filter_ne (fs : List (String × String)) (key k : String) :
    (fs.filter (fun f => f.1 != key)).lookup k = if k = key then none else fs.lookup k := by
  induction fs with
  | nil => simp
  | cons f fs ih =>
    obtain ⟨a, b⟩ := f
    by_cases ha : a = key
    · rw [List.filter_cons_of_neg (by simp [ha]), ih, lookup_cons_ite]
      by_cases hk : k = key <;> simp [hk, ha]
    · rw [List.filter_cons_of_pos (by simp [ha]), lookup_cons_ite, lookup_cons_ite, ih]
      by_cases hk : k = a <;> simp [hk, ha]

@[simp] lemma lookup_empty (k : String) : empty.lookup k = none := rfl

@[simp] lemma lookup_set (m : Struct) (key value k : String) :
    (m.set key value).lookup k = if k = key then some value else m.lookup k := by
  simp only [set, lookup, lookup_cons_ite, lookup_filter_ne]
  split <;> rfl

end Struct

end EnvoyHttpFilters
