import Talia.Lib.Serde

/-!
# TOML values

The values of a TOML document and the data a derived decoder sees of them. A date and time reaches
a decoder as a map with one private key. No value of a document is nothing: a key is present with
a value or absent (`Value.content_ne_unit`), so an optional field is absent only when its key is.
-/

namespace Toml

open Serde

inductive Value where
  | string (s : String)
  | integer (n : Int64)
  | float (spelling : String)
  | boolean (b : Bool)
  | datetime (spelling : String)
  | array (items : List Value)
  | table (entries : List (String × Value))

/-- The key under which a date and time is handed to a decoder. -/
def datetimeKey : String := "$__toml_private_datetime"

mutual

def Value.content : Value → Content
  | .string s => .str s
  | .integer n => .int n.toInt
  | .float spelling => .float spelling
  | .boolean b => .bool b
  | .datetime spelling => .map [(datetimeKey, .str spelling)]
  | .array items => .seq (contents items)
  | .table entries => .map (fields entries)

def contents : List Value → List Content
  | [] => []
  | item :: items => item.content :: contents items

def fields : List (String × Value) → List (String × Content)
  | [] => []
  | (key, value) :: entries => (key, value.content) :: fields entries

end

/-- TOML has no null. -/
theorem Value.content_ne_unit (value : Value) : value.content ≠ .unit := by
  cases value <;> simp only [content, ne_eq, reduceCtorEq, not_false_eq_true]

/-- So no table holds one, -/
theorem fields_ne_unit {entries : List (String × Value)} :
    ∀ e ∈ fields entries, e.2 ≠ .unit := by
  induction entries with
  | nil =>
    intro e h
    simp only [fields, List.not_mem_nil] at h
  | cons entry entries ih =>
    intro e h
    simp only [fields, List.mem_cons] at h
    rcases h with rfl | h
    · exact entry.2.content_ne_unit
    · exact ih e h

/-- and no array does. -/
theorem contents_ne_unit {items : List Value} : ∀ c ∈ contents items, c ≠ .unit := by
  induction items with
  | nil =>
    intro c h
    simp only [contents, List.not_mem_nil] at h
  | cons item items ih =>
    intro c h
    simp only [contents, List.mem_cons] at h
    rcases h with rfl | h
    · exact item.content_ne_unit
    · exact ih c h

/-- Nor is any value of a record, by name or by position. -/
theorem Value.entries_ne_unit {value : Value} {format : Format} {names : List String} {least : Nat}
    {es : List (String × Content)} (read : entries format names least value.content = some es) :
    ∀ e ∈ es, e.2 ≠ .unit := by
  cases value with
  | table entries =>
    cases read
    exact fields_ne_unit
  | datetime spelling =>
    cases read
    intro e mem
    rw [List.mem_singleton.mp mem]
    exact str_ne_unit spelling
  | array items =>
    have same := eq_zip_of_entries_seq read
    intro e mem
    rw [same] at mem
    exact contents_ne_unit e.2 (List.of_mem_zip mem).2
  | _ => cases read

end Toml
