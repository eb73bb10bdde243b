import Mathlib.Algebra.Group.Int.Defs
import Mathlib.Algebra.Group.Nat.Defs
import Mathlib.Data.List.Basic

/-!
# The data a self-describing format hands to a derived decoder

`Content` is what a text format (JSON, TOML) reduces to before a type decodes it: nothing, a
boolean, an integer, a fraction, a string, a sequence, or a map with its entries in order. A
derived decoder of a record reads its map once, field by field:

- a field is looked up under its name and its aliases; an entry that names the field a second
  time is an error (`lookup`);
- `fieldOr` decodes a field with a default, `fieldRequired` one without, and `fieldOption` one
  whose type is optional;
- an entry no field names is ignored.

A sequence is read as a record too: its items are the fields' values in order (`entries`). There a
field without a default of its own has to be given, also one whose type is optional, which a map
may leave out; so a record of optional fields takes fewer sequences than the same record with
defaults (`entries_of_not_short` says where they take the same). Whether a sequence may go on after
the last field is up to the format.

What is not here: numbers that a format cannot read, and formats that are not self-describing.
-/

namespace Serde

/-- The data model. Integers carry their value, whatever their sign; a fraction carries its
spelling, since nothing above computes with it. -/
inductive Content where
  | unit
  | bool (b : Bool)
  | int (n : Int)
  | float (spelling : String)
  | str (s : String)
  | seq (items : List Content)
  | map (entries : List (String × Content))

/-! ## Primitive decoders -/

/-- A 64-bit unsigned integer: an integer in range. -/
def u64 : Content → Option UInt64
  | .int n => if 0 ≤ n ∧ n < 2 ^ 64 then some (UInt64.ofNat n.toNat) else none
  | _ => none

def bool : Content → Option Bool
  | .bool b => some b
  | _ => none

def str : Content → Option String
  | .str s => some s
  | _ => none

/-- A sequence all of whose items decode. -/
def seqOf {α : Type} (decode : Content → Option α) : Content → Option (List α)
  | .seq items => items.mapM decode
  | _ => none

/-- An optional value: nothing is `none`, anything else must decode. -/
def option {α : Type} (decode : Content → Option α) : Content → Option (Option α)
  | .unit => some none
  | c => (decode c).map some

/-- A text format, as far as formats differ in how records are read. -/
inductive Format where
  | json
  | toml
  deriving DecidableEq

/-- Whether a sequence may hold more values than the record it is read as has fields. -/
def Format.ignoresSurplus : Format → Bool
  | .json => false
  | .toml => true

/-- The entries of a record with these fields, in order. A sequence gives the values by position;
it has to give `least` of them, since the fields after these have defaults. -/
def entries (format : Format) (fields : List String) (least : Nat) :
    Content → Option (List (String × Content))
  | .map es => some es
  | .seq items =>
    if least ≤ items.length ∧ (format.ignoresSurplus ∨ items.length ≤ fields.length) then
      some (fields.zip items)
    else none
  | _ => none

@[simp] theorem u64_int (n : UInt64) : u64 (.int n.toNat) = some n := by
  have h : (n.toNat : Int) < 2 ^ 64 := by exact_mod_cast n.toNat_lt
  rw [u64, if_pos ⟨Int.natCast_nonneg _, h⟩, Int.toNat_natCast, UInt64.ofNat_toNat]

@[simp] theorem bool_bool (b : Bool) : bool (.bool b) = some b := rfl

@[simp] theorem str_str (s : String) : str (.str s) = some s := rfl

@[simp] theorem entries_map (format : Format) (fields : List String) (least : Nat)
    (es : List (String × Content)) : entries format fields least (.map es) = some es := rfl

/-- What a sequence gives a record: values for its fields, by position. -/
theorem eq_zip_of_entries_seq {format : Format} {fields : List String} {least : Nat}
    {items : List Content} {es : List (String × Content)}
    (read : entries format fields least (.seq items) = some es) : es = fields.zip items := by
  simp only [entries, Option.ite_none_right_eq_some, Option.some.injEq] at read
  exact read.2.symm

@[simp] theorem seqOf_str (xs : List String) : seqOf str (.seq (xs.map .str)) = some xs := by
  induction xs with
  | nil => rfl
  | cons x xs ih =>
    simp only [seqOf, List.map_cons, List.mapM_cons, str_str, Option.bind_eq_bind,
      Option.bind_some] at ih ⊢
    rw [ih]
    rfl

/-- What decodes as a string is that string. -/
theorem str_eq_some_iff (c : Content) (s : String) : str c = some s ↔ c = .str s := by
  cases c <;> simp [str]

/-- A string is no null. -/
theorem str_ne_unit (s : String) : Content.str s ≠ .unit := Content.noConfusion

/-- An unsigned number is spelled as an integer in its range, and no other way. -/
theorem u64_eq_some_iff (c : Content) (n : UInt64) : u64 c = some n ↔ c = .int n.toNat := by
  constructor
  · intro h
    cases c with
    | int i =>
      rw [u64] at h
      split at h
      next range =>
        cases h
        have small : i.toNat < 2 ^ 64 := by omega
        rw [UInt64.toNat_ofNat_of_lt' small, Int.toNat_of_nonneg range.1]
      next => cases h
    | _ => cases h
  · rintro rfl
    exact u64_int n

/-- A list of strings is spelled as one. -/
theorem seqOf_str_eq_some_iff (c : Content) (xs : List String) :
    seqOf str c = some xs ↔ c = .seq (xs.map .str) := by
  constructor
  · intro h
    cases c with
    | seq items =>
      rw [seqOf] at h
      congr 1
      induction items generalizing xs with
      | nil =>
        cases h
        rfl
      | cons item items ih =>
        rw [List.mapM_cons] at h
        obtain ⟨x, first, h⟩ := Option.bind_eq_some_iff.mp h
        obtain ⟨rest, later, h⟩ := Option.bind_eq_some_iff.mp h
        cases h
        rw [(str_eq_some_iff item x).mp first, ih rest later, List.map_cons]
    | _ => cases h
  · rintro rfl
    exact seqOf_str xs

/-- An optional value that is there decodes as the value does. -/
theorem option_of_ne_unit {α : Type} (decode : Content → Option α) {c : Content}
    (h : c ≠ .unit) : option decode c = (decode c).map some := by
  cases c with
  | unit => exact absurd rfl h
  | _ => rfl

/-- An optional value is nothing, or the encoding of what it decodes to. -/
theorem option_eq_some_iff {α : Type} {decode : Content → Option α} {encode : α → Content}
    (exact : ∀ c a, decode c = some a ↔ c = encode a) (apart : ∀ a, encode a ≠ .unit) (c : Content)
    (o : Option α) : option decode c = some o ↔ c = o.elim .unit encode := by
  by_cases null : c = .unit
  · subst null
    cases o with
    | none => simp [option]
    | some a => simp [option, Ne.symm (apart a)]
  · cases o with
    | none => simp [option_of_ne_unit decode null, null]
    | some a => simp [option_of_ne_unit decode null, exact]

/-! ## Fields -/

/-- The entry of a field: absent, present, or (the outer `none`) present twice. -/
def lookup (names : List String) (es : List (String × Content)) : Option (Option Content) :=
  match es.filter (fun e => e.1 ∈ names) with
  | [] => some none
  | [e] => some (some e.2)
  | _ :: _ :: _ => none

/-- A field with a default. -/
def fieldOr {α : Type} (names : List String) (decode : Content → Option α) (default : α)
    (es : List (String × Content)) : Option α :=
  match lookup names es with
  | none => none
  | some none => some default
  | some (some c) => decode c

/-- A field that must be there. -/
def fieldRequired {α : Type} (names : List String) (decode : Content → Option α)
    (es : List (String × Content)) : Option α :=
  match lookup names es with
  | some (some c) => decode c
  | _ => none

/-- A field of an optional type: absent is `none`. -/
def fieldOption {α : Type} (names : List String) (decode : Content → Option α)
    (es : List (String × Content)) : Option (Option α) :=
  fieldOr names (option decode) none es

/-- Where no entry has one of the names, filtering by them leaves nothing. -/
theorem filter_of_absent {names : List String} {es : List (String × Content)}
    (h : ∀ e ∈ es, e.1 ∉ names) : es.filter (fun e => e.1 ∈ names) = [] := by
  rw [List.filter_eq_nil_iff]
  intro e he
  rw [decide_eq_true_eq]
  exact h e he

/-- A field none of whose names is a key is absent. -/
theorem lookup_of_absent {names : List String} {es : List (String × Content)}
    (h : ∀ e ∈ es, e.1 ∉ names) : lookup names es = some none := by
  rw [lookup, filter_of_absent h]

/-- An entry with one of the names is found, if there is no other. -/
theorem lookup_cons_of_mem {names : List String} {key : String} {c : Content}
    {es : List (String × Content)} (h : key ∈ names) (rest : ∀ e ∈ es, e.1 ∉ names) :
    lookup names ((key, c) :: es) = some (some c) := by
  rw [lookup, List.filter_cons_of_pos (by rw [decide_eq_true_eq]; exact h), filter_of_absent rest]

/-- An entry with another name is passed over. -/
theorem lookup_cons_of_notMem {names : List String} {key : String} {c : Content}
    {es : List (String × Content)} (h : key ∉ names) :
    lookup names ((key, c) :: es) = lookup names es := by
  rw [lookup, lookup, List.filter_cons_of_neg (by rw [decide_eq_true_eq]; exact h)]

/-- A field that is present has the value of one of the entries that name it. -/
theorem mem_of_lookup {names : List String} {es : List (String × Content)} {c : Content}
    (h : lookup names es = some (some c)) : ∃ e ∈ es, e.1 ∈ names ∧ e.2 = c := by
  unfold lookup at h
  split at h
  next => cases h
  next e he =>
    cases h
    obtain ⟨mem, named⟩ := List.mem_filter.mp (he ▸ List.mem_singleton_self e)
    exact ⟨e, mem, of_decide_eq_true named, rfl⟩
  next => cases h

/-- An entry that names a field gives it its value, unless the field is named twice. -/
theorem lookup_of_entry {names : List String} {es : List (String × Content)} {e : String × Content}
    (mem : e ∈ es) (named : e.1 ∈ names) :
    lookup names es = some (some e.2) ∨ lookup names es = none := by
  have kept : e ∈ es.filter fun e => e.1 ∈ names :=
    List.mem_filter.mpr ⟨mem, decide_eq_true named⟩
  unfold lookup
  split
  next none => simp [none] at kept
  next one =>
    rw [one, List.mem_singleton] at kept
    rw [kept]
    exact .inl rfl
  next => exact .inr rfl

/-- Where the entries stand does not matter. -/
theorem lookup_perm {names : List String} {es es' : List (String × Content)} (perm : es.Perm es') :
    lookup names es = lookup names es' := by
  have kept := perm.filter fun e => e.1 ∈ names
  unfold lookup
  generalize es.filter (fun e => e.1 ∈ names) = found at kept
  generalize es'.filter (fun e => e.1 ∈ names) = found' at kept
  have same := kept.length_eq
  match found, found' with
  | [], [] => rfl
  | [e], [e'] => rw [List.singleton_perm_singleton.mp kept]
  | _ :: _ :: _, _ :: _ :: _ => rfl
  | [], _ :: _ => cases same
  | _ :: _, [] => cases same
  | [_], _ :: _ :: _ => cases same
  | _ :: _ :: _, [_] => cases same

/-- Entries under other names do not matter. -/
theorem lookup_append_of_absent {names : List String} {es more : List (String × Content)}
    (absent : ∀ e ∈ more, e.1 ∉ names) : lookup names (es ++ more) = lookup names es := by
  rw [lookup, lookup, List.filter_append, filter_of_absent absent, List.append_nil]

/-- Dropping entries with other names changes nothing. -/
theorem lookup_filter {names : List String} {keep : String × Content → Bool}
    {es : List (String × Content)} (kept : ∀ e ∈ es, e.1 ∈ names → keep e = true) :
    lookup names (es.filter keep) = lookup names es := by
  have same : (es.filter keep).filter (fun e => e.1 ∈ names) = es.filter fun e => e.1 ∈ names := by
    rw [List.filter_filter]
    refine List.filter_congr fun e mem => ?_
    by_cases named : e.1 ∈ names
    · simp [named, kept e mem named]
    · simp [named]
  rw [lookup, lookup, same]

section Fields

variable {α β : Type} {names : List String} {decode : Content → Option α} {default : α}
  {es : List (String × Content)} {c : Content}

/-- A field that is there is decoded. -/
theorem fieldOr_of_lookup (h : lookup names es = some (some c)) :
    fieldOr names decode default es = decode c := by
  rw [fieldOr, h]

/-- So is one that must be there. -/
theorem fieldRequired_of_lookup (h : lookup names es = some (some c)) :
    fieldRequired names decode es = decode c := by
  rw [fieldRequired, h]

/-- A field whose decoder inverts an encoding holds the encoding of what it decodes to. -/
theorem fieldRequired_eq_some_iff {encode : α → Content} {a : α}
    (exact : ∀ c a, decode c = some a ↔ c = encode a) :
    fieldRequired names decode es = some a ↔ lookup names es = some (some (encode a)) := by
  unfold fieldRequired
  split
  next c found =>
    rw [found, exact, Option.some.injEq, Option.some.injEq]
  next absent =>
    exact ⟨fun h => (nomatch h), fun found => absurd found (absent _)⟩

/-- An optional field holds one, or is absent or null. -/
theorem fieldOption_eq_some_iff {encode : α → Content} {o : Option α}
    (exact : ∀ c a, decode c = some a ↔ c = encode a) (apart : ∀ a, encode a ≠ .unit) :
    fieldOption names decode es = some o ↔
      o.elim (lookup names es = some none ∨ lookup names es = some (some .unit)) fun a =>
        lookup names es = some (some (encode a)) := by
  unfold fieldOption fieldOr
  cases found : lookup names es with
  | none => cases o <;> simp
  | some value =>
    cases value with
    | none => cases o <;> simp
    | some c =>
      have read := option_eq_some_iff exact apart c o
      cases o with
      | none => simpa using read
      | some a => simpa using read

/-- An entry with another name does not bear on the field. -/
theorem fieldOr_cons_of_notMem {key : String} (h : key ∉ names) :
    fieldOr names decode default ((key, c) :: es) = fieldOr names decode default es := by
  rw [fieldOr, fieldOr, lookup_cons_of_notMem h]

/-- A field that is not there has its default. -/
theorem fieldOr_of_absent (h : ∀ e ∈ es, e.1 ∉ names) :
    fieldOr names decode default es = some default := by
  rw [fieldOr, lookup_of_absent h]

/-- Two ways to decode a field that agree on the values given for it and on the default agree on
the field. -/
theorem fieldOr_map {decode' : Content → Option β} {f : α → β}
    (decodes : ∀ e ∈ es, e.1 ∈ names → (decode e.2).map f = decode' e.2) :
    (fieldOr names decode default es).map f = fieldOr names decode' (f default) es := by
  unfold fieldOr
  cases found : lookup names es with
  | none => rfl
  | some value =>
    cases value with
    | none => rfl
    | some c =>
      obtain ⟨e, he, named, rfl⟩ := mem_of_lookup found
      exact decodes e he named

/-- A value that does not decode fails the field it is given for. -/
theorem fieldOr_eq_none {e : String × Content} (mem : e ∈ es) (named : e.1 ∈ names)
    (fails : decode e.2 = none) : fieldOr names decode default es = none := by
  unfold fieldOr
  rcases lookup_of_entry mem named with found | twice
  · rw [found]
    exact fails
  · rw [twice]

/-- **An optional field over a default is the field with that default.** Where no entry is
nothing, decoding a field as optional and falling back on `default` afterwards gives what decoding
it with the default gives, and rejects the same maps. -/
theorem fieldOption_map_getD (decode : Content → Option α) (default : α)
    (present : ∀ e ∈ es, e.2 ≠ .unit) :
    (fieldOption names decode es).map (·.getD default) = fieldOr names decode default es := by
  refine fieldOr_map fun e he _ => ?_
  rw [option_of_ne_unit decode (present e he)]
  cases decode e.2 <;> rfl

end Fields

/-! ## Records of optional fields -/

/-- A sequence with fewer values than there are fields. -/
def Short (fields : List String) (c : Content) : Prop :=
  ∃ items, c = .seq items ∧ items.length < fields.length

/-- Such a sequence is no record of fields none of which has a default. -/
theorem entries_of_short {format : Format} {fields : List String} {c : Content}
    (short : Short fields c) : entries format fields fields.length c = none := by
  obtain ⟨items, rfl, few⟩ := short
  exact if_neg fun given => absurd given.1 (Nat.not_le.mpr few)

/-- Any other value is a record of these fields whether or not they have defaults, with the same
entries. -/
theorem entries_of_not_short {format : Format} {fields : List String} {c : Content}
    (whole : ¬ Short fields c) :
    entries format fields fields.length c = entries format fields 0 c := by
  cases c with
  | seq items =>
    have enough : fields.length ≤ items.length := Nat.not_lt.mp fun few => whole ⟨items, rfl, few⟩
    simp only [entries, enough, Nat.zero_le, true_and]
  | _ => rfl

/-! ## Tagged maps -/

/-- A value tagged inside itself: the tag, and the rest of the map, or of the sequence that starts
with the tag. -/
def tagged (key : String) : Content → Option (String × Content)
  | .map es => do
    let tag ← fieldRequired [key] str es
    some (tag, .map (es.filter fun e => e.1 ≠ key))
  | .seq (item :: items) => do
    let tag ← str item
    some (tag, .seq items)
  | _ => none

/-- A tag is read off a table, from whichever entry has its key, and off a list as its first item.
-/
theorem tagged_eq_some_iff {key tag : String} {c rest : Content} :
    tagged key c = some (tag, rest) ↔
      (∃ es, c = .map es ∧ lookup [key] es = some (some (.str tag)) ∧
        rest = .map (es.filter fun e => e.1 ≠ key)) ∨
      ∃ items, c = .seq (.str tag :: items) ∧ rest = .seq items := by
  constructor
  · intro h
    unfold tagged at h
    split at h
    next es =>
      obtain ⟨tag', named, h⟩ := Option.bind_eq_some_iff.mp h
      cases h
      exact .inl ⟨es, rfl, (fieldRequired_eq_some_iff str_eq_some_iff).mp named, rfl⟩
    next item items =>
      obtain ⟨tag', named, h⟩ := Option.bind_eq_some_iff.mp h
      cases h
      rw [(str_eq_some_iff item tag).mp named]
      exact .inr ⟨items, rfl, rfl⟩
    next => cases h
  · rintro (⟨es, rfl, named, rfl⟩ | ⟨items, rfl, rfl⟩)
    · rw [tagged, (fieldRequired_eq_some_iff str_eq_some_iff).mpr named]
      rfl
    · rfl

/-- What is so of the rest of a tagged value. -/
theorem exists_tagged_iff {key tag : String} {c : Content} {P : Content → Prop} :
    (∃ rest, tagged key c = some (tag, rest) ∧ P rest) ↔
      (∃ es, c = .map es ∧ lookup [key] es = some (some (.str tag)) ∧
        P (.map (es.filter fun e => e.1 ≠ key))) ∨
      ∃ items, c = .seq (.str tag :: items) ∧ P (.seq items) := by
  constructor
  · rintro ⟨rest, tagged, holds⟩
    rcases tagged_eq_some_iff.mp tagged with ⟨es, rfl, named, rfl⟩ | ⟨items, rfl, rfl⟩
    · exact .inl ⟨es, rfl, named, holds⟩
    · exact .inr ⟨items, rfl, holds⟩
  · rintro (⟨es, rfl, named, holds⟩ | ⟨items, rfl, holds⟩)
    · exact ⟨_, tagged_eq_some_iff.mpr (.inl ⟨es, rfl, named, rfl⟩), holds⟩
    · exact ⟨_, tagged_eq_some_iff.mpr (.inr ⟨items, rfl, rfl⟩), holds⟩

/-- A field other than the tag is among the other entries. -/
theorem lookup_untagged {key name : String} (other : name ≠ key) (es : List (String × Content)) :
    lookup [name] (es.filter fun e => e.1 ≠ key) = lookup [name] es := by
  refine lookup_filter fun e _ named => ?_
  rw [List.mem_singleton.mp named]
  exact decide_eq_true other

/-- Of fields with names of their own each is found. -/
theorem lookup_of_mem {fields : List (String × Content)} (distinct : (fields.map Prod.fst).Nodup)
    {field : String × Content} (mem : field ∈ fields) :
    lookup [field.1] fields = some (some field.2) := by
  induction fields with
  | nil => cases mem
  | cons first rest ih =>
    obtain ⟨fresh, others⟩ := List.nodup_cons.mp distinct
    have apart : ∀ e ∈ rest, e.1 ≠ first.1 := fun e mem =>
      ne_of_mem_of_not_mem (List.mem_map_of_mem mem) fresh
    rcases List.mem_cons.mp mem with rfl | later
    · refine lookup_cons_of_mem (List.mem_singleton_self _) fun e mem named => ?_
      exact apart e mem (List.mem_singleton.mp named)
    · obtain ⟨name, c⟩ := first
      rw [lookup_cons_of_notMem, ih others later]
      intro named
      exact apart field later (List.mem_singleton.mp named).symm

/-- The entries hold the fields, in any order, among others whose names are not these. -/
def Carries (names : List String) (es fields : List (String × Content)) : Prop :=
  ∃ extra, es.Perm (fields ++ extra) ∧ ∀ e ∈ extra, e.1 ∉ names

/-- Fields carry themselves. -/
theorem carries_self (names : List String) (fields : List (String × Content)) :
    Carries names fields fields :=
  ⟨[], by rw [List.append_nil], fun _ mem => nomatch mem⟩

/-- What carries the fields is looked up as they are. -/
theorem Carries.lookup_eq {names : List String} {es fields : List (String × Content)}
    (carries : Carries names es fields) {name : String} (known : name ∈ names) :
    lookup [name] es = lookup [name] fields := by
  obtain ⟨extra, perm, unknown⟩ := carries
  rw [lookup_perm perm, lookup_append_of_absent]
  intro e mem named
  refine unknown e mem ?_
  rw [List.mem_singleton.mp named]
  exact known

end Serde
