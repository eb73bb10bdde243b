import Mathlib.Data.List.Nodup
import Mathlib.Logic.Function.Basic
import Talia.Lib.Json

/-!
# JSON trees

`serde_json::Value`, the tree that a value is read into when no type decodes it: an object has each
of its keys once, the entry that came last standing for it, and has them in order (`tree`). What a
tree holds under a key can be looked up (`get?`) and replaced (`put`).

`get?_table` and `put_table` are about an object whose entries come from a list, one for each of its
elements: replacing the entry of an element is updating its value.
-/

namespace Json

open Serde

/-! ## Reading -/

/-- The object with an entry more, in the order of its keys, or with another value in it. -/
def insertEntry (key : String) (value : Content) :
    List (String × Content) → List (String × Content)
  | [] => [(key, value)]
  | entry :: entries =>
    if entry.1 = key then (key, value) :: entries
    else if key < entry.1 then (key, value) :: entry :: entries
    else entry :: insertEntry key value entries

mutual

/-- The tree of a value. -/
def tree : Content → Content
  | .seq items => .seq (treeItems items)
  | .map entries => .map (treeEntries [] entries)
  | c => c

def treeItems : List Content → List Content
  | [] => []
  | item :: items => tree item :: treeItems items

/-- An object with further entries. -/
def treeEntries (object : List (String × Content)) :
    List (String × Content) → List (String × Content)
  | [] => object
  | (key, value) :: entries => treeEntries (insertEntry key (tree value) object) entries

end

/-- The items of a list are made trees one by one. -/
theorem treeItems_eq (items : List Content) : treeItems items = items.map tree := by
  induction items with
  | nil => rfl
  | cons item items ih => rw [treeItems, ih, List.map_cons]

/-! ## What decodes alike -/

/-- A boolean is read off the tree as off the text, -/
theorem bool_tree (c : Content) : bool (tree c) = bool c := by
  cases c <;> rfl

/-- so is a number, -/
theorem u64_tree (c : Content) : u64 (tree c) = u64 c := by
  cases c <;> rfl

/-- so is a string, -/
theorem str_tree (c : Content) : str (tree c) = str c := by
  cases c <;> rfl

/-- and so is a list of strings. -/
theorem seqOf_str_tree (c : Content) : seqOf str (tree c) = seqOf str c := by
  cases c with
  | seq items =>
    have same : str ∘ tree = str := funext str_tree
    show (treeItems items).mapM str = items.mapM str
    rw [treeItems_eq, List.mapM_map, same]
  | _ => rfl

/-! ## Entries -/

/-- `Value::get`, for an object. -/
def get? (key : String) : Content → Option Content
  | .map entries => (entries.find? (·.1 = key)).map Prod.snd
  | _ => none

/-- The object with another value under a key that it has. -/
def put (key : String) (value : Content) : Content → Content
  | .map entries => .map (entries.map fun entry => if entry.1 = key then (key, value) else entry)
  | c => c

/-- What is put under a key passes over the others. -/
theorem put_cons_of_ne {key other : String} (apart : other ≠ key) (c d : Content)
    {entries entries' : List (String × Content)} (rest : put key c (.map entries) = .map entries') :
    put key c (.map ((other, d) :: entries)) = .map ((other, d) :: entries') := by
  rw [put, Content.map.injEq] at rest
  rw [put, List.map_cons, if_neg apart, rest]

section Table

variable {ι : Type} (name : ι → String)

/-- The entries of the elements of a list. -/
def table (value : ι → Content) (l : List ι) : List (String × Content) :=
  l.map fun i => (name i, value i)

/-- A table is looked up by the names of its indices. -/
theorem get?_table (value : ι → Content) (l : List ι) (key : String) :
    get? key (.map (table name value l)) = (l.find? (name · = key)).map value := by
  rw [get?, table, List.find?_map, Option.map_map]
  rfl

/-- To put a value under a name updates the table there. -/
theorem put_table [DecidableEq ι] (value : ι → Content) {l : List ι} {i : ι}
    (distinct : ∀ j ∈ l, name j = name i → j = i) (c : Content) :
    put (name i) c (.map (table name value l)) =
      .map (table name (Function.update value i c) l) := by
  rw [put, table, table, List.map_map]
  refine congrArg Content.map (List.map_congr_left fun j mem => ?_)
  by_cases same : j = i
  · subst same
    simp
  · have apart : name j ≠ name i := fun h => same (distinct j mem h)
    simp [apart, same]

end Table

/-- Under a key that no entry has, nothing is replaced. -/
theorem replace_of_notMem {key : String} {entries : List (String × Content)}
    (absent : key ∉ entries.map Prod.fst) (c : Content) :
    entries.map (fun entry => if entry.1 = key then (key, c) else entry) = entries := by
  induction entries with
  | nil => rfl
  | cons entry entries ih =>
    rw [List.map_cons, List.mem_cons, not_or] at absent
    rw [List.map_cons, if_neg fun same => absent.1 same.symm, ih absent.2]

/-- Putting under a key that an object has once replaces one entry. -/
theorem exists_put_eq {entries : List (String × Content)} {key : String}
    (once : (entries.map Prod.fst).Nodup) (mem : key ∈ entries.map Prod.fst) :
    ∃ front back, ∀ c, put key c (.map entries) = .map (front ++ (key, c) :: back) := by
  obtain ⟨entry, held, rfl⟩ := List.mem_map.mp mem
  obtain ⟨front, back, rfl⟩ := List.append_of_mem held
  rw [List.map_append, List.map_cons, List.nodup_middle, List.nodup_cons, List.mem_append,
    not_or] at once
  refine ⟨front, back, fun c => ?_⟩
  rw [put, List.map_append, List.map_cons, if_pos rfl, replace_of_notMem once.1.1,
    replace_of_notMem once.1.2]

/-! ## Places in the text -/

/-- Entries are printed one after the other. -/
theorem printEntries_append (f : Layout) (indent : ℕ) (before after : List (String × Content)) :
    printEntries f indent (before ++ after) =
      printEntries f indent before ++ printEntries f indent after := by
  induction before with
  | nil => rfl
  | cons entry before ih =>
    obtain ⟨key, value⟩ := entry
    rw [List.cons_append, printEntries, printEntries, ih]
    simp only [List.cons_append, List.append_assoc]

/-- What fills a place in a value stands at one place in its text, between what does not depend on
it. -/
def Frames (f : Layout) (indent : ℕ) (fill : Content → Content) : Prop :=
  ∃ depth before after, ∀ c, print f indent (fill c) = before ++ print f depth c ++ after

/-- A text stands in no frame. -/
theorem frames_id (f : Layout) (indent : ℕ) : Frames f indent id :=
  ⟨indent, [], [], fun _ => by simp⟩

/-- The value of an entry is a place. -/
theorem Frames.entry {f : Layout} {indent : ℕ} {fill : Content → Content}
    (inner : Frames f (indent + 1) fill) (front back : List (String × Content)) (key : String) :
    Frames f indent fun c => .map (front ++ (key, fill c) :: back) := by
  obtain ⟨depth, before, after, framed⟩ := inner
  cases front with
  | nil =>
    refine ⟨depth, '{' :: (f.newline (indent + 1) ++ printStr key ++ f.colon ++ before),
      after ++ printEntries f (indent + 1) back ++ f.newline indent ++ ['}'], fun c => ?_⟩
    show print f indent (.map ((key, fill c) :: back)) = _
    rw [print, framed]
    simp only [List.cons_append, List.append_assoc]
  | cons first front =>
    obtain ⟨name, value⟩ := first
    refine ⟨depth, '{' :: (f.newline (indent + 1) ++ printStr name ++ f.colon ++
        print f (indent + 1) value ++ printEntries f (indent + 1) front ++
        ',' :: (f.newline (indent + 1) ++ printStr key ++ f.colon ++ before)),
      after ++ printEntries f (indent + 1) back ++ f.newline indent ++ ['}'], fun c => ?_⟩
    show print f indent (.map ((name, value) :: (front ++ (key, fill c) :: back))) = _
    rw [print, printEntries_append, printEntries, framed]
    simp only [List.cons_append, List.append_assoc]

/-- What is put under a key that an object has once stands at one place. -/
theorem Frames.put {f : Layout} {indent : ℕ} {fill : Content → Content}
    (inner : Frames f (indent + 1) fill) {entries : List (String × Content)} {key : String}
    (once : (entries.map Prod.fst).Nodup) (mem : key ∈ entries.map Prod.fst) :
    Frames f indent fun c => Json.put key (fill c) (.map entries) := by
  obtain ⟨front, back, placed⟩ := exists_put_eq once mem
  simp only [placed]
  exact inner.entry front back key

end Json
