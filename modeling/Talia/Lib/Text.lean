import Mathlib.Algebra.Group.Nat.Defs
import Mathlib.Data.List.DropRight
import Mathlib.Data.List.Infix

/-!
# Text as Rust's standard library treats it

`str::trim`, `str::strip_prefix`, `str::parse` and reading a file as UTF-8, with the facts the developments
above use, and ASCII bytes as the text they spell. White space is Unicode's `White_Space` property,
not the ASCII subset. `strip` is trimming for lists and predicates of any kind.

The one fact with an argument is `prefix_of_extract`: bytes cut off anywhere inside the UTF-8
encoding of a text, when they happen to be valid UTF-8 themselves, are the encoding of a prefix of
the text. A cut inside a character is not valid UTF-8, so a reader of a torn file sees either no
text or a prefix of the text, never something else.
-/

namespace Text

/-! ## Stripping -/

section Strip

variable {α β : Type*} {p q : α → Bool} {l : List α}

/-- The list without the elements at its two ends that satisfy the predicate. -/
def strip (p : α → Bool) (l : List α) : List α := (l.dropWhile p).rdropWhile p

/-- What is not dropped at the front is not dropped by dropping again. -/
theorem dropWhile_of_prefix {l' : List α} (h : l' <+: l.dropWhile p) : l'.dropWhile p = l' := by
  cases l' with
  | nil => rfl
  | cons a l' =>
    obtain ⟨rest, split⟩ := h
    have kept := List.head?_dropWhile_not p l
    rw [← split] at kept
    exact List.dropWhile_cons_of_neg (by simpa using kept)

/-- Dropping at the end stops at the last element that is kept. -/
theorem rdropWhile_append {k : List α} (h : ∃ x ∈ l, p x = false) :
    (k ++ l).rdropWhile p = k ++ l.rdropWhile p := by
  obtain ⟨x, mem, kept⟩ := h
  have nonempty : (l.reverse.dropWhile p).isEmpty = false := by
    rw [List.isEmpty_eq_false_iff, ne_eq, List.dropWhile_eq_nil_iff]
    intro all
    rw [all x (List.mem_reverse.mpr mem)] at kept
    cases kept
  rw [List.rdropWhile, List.rdropWhile, List.reverse_append, List.dropWhile_append, nonempty]
  simp

/-- An element that stops the run is still there after it. -/
theorem exists_of_dropWhile (h : ∃ x ∈ l, p x = false) : ∃ x ∈ l.dropWhile p, p x = false := by
  obtain ⟨x, mem, kept⟩ := h
  refine ⟨x, ?_, kept⟩
  rw [← List.takeWhile_append_dropWhile (p := p) (l := l)] at mem
  rcases List.mem_append.mp mem with taken | left
  · rw [List.mem_takeWhile_imp taken] at kept
    cases kept
  · exact left

/-- Stripping the end alone strips both ends when there is nothing to strip at the front. -/
theorem rdropWhile_eq_strip_iff (h : ∃ x ∈ l, p x = false) :
    l.rdropWhile p = strip p l ↔ l.dropWhile p = l := by
  have split : l.takeWhile p ++ l.dropWhile p = l := List.takeWhile_append_dropWhile
  constructor
  · intro same
    have front : l.rdropWhile p = l.takeWhile p ++ strip p l := by
      rw [strip, ← rdropWhile_append (exists_of_dropWhile h), split]
    rw [same, eq_comm] at front
    have none : l.takeWhile p = [] :=
      List.append_cancel_right (show l.takeWhile p ++ strip p l = [] ++ strip p l from front)
    rw [none, List.nil_append] at split
    exact split
  · intro front
    rw [strip, front]

/-- What was stripped is not stripped again. -/
theorem strip_strip : strip p (strip p l) = strip p l := by
  rw [strip, strip, dropWhile_of_prefix (List.rdropWhile_prefix ..), List.rdropWhile_idempotent]

/-- Stripping the images strips the elements whose images are to go. -/
theorem strip_map (p : β → Bool) (f : α → β) (l : List α) :
    strip p (l.map f) = (strip (p ∘ f) l).map f := by
  rw [strip, strip, List.rdropWhile, List.rdropWhile, List.dropWhile_map, ← List.map_reverse,
    List.dropWhile_map, ← List.map_reverse]

/-- It matters only what goes among the elements. -/
theorem dropWhile_congr (same : ∀ x ∈ l, p x = q x) : l.dropWhile p = l.dropWhile q := by
  induction l with
  | nil => rfl
  | cons a l ih =>
    rw [List.dropWhile_cons, List.dropWhile_cons, same a List.mem_cons_self,
      ih fun x mem => same x (List.mem_cons_of_mem a mem)]

/-- So it does for stripping. -/
theorem strip_congr (same : ∀ x ∈ l, p x = q x) : strip p l = strip q l := by
  rw [strip, strip, dropWhile_congr same, List.rdropWhile, List.rdropWhile]
  congr 1
  refine dropWhile_congr fun x mem => same x ?_
  exact (List.dropWhile_suffix q).subset (List.mem_reverse.mp mem)

end Strip

/-! ## White space -/

/-- `char::is_whitespace`: the Unicode property `White_Space`. -/
def isWhitespace (c : Char) : Bool :=
  (0x09 ≤ c.toNat && c.toNat ≤ 0x0d) || c.toNat == 0x20 || c.toNat == 0x85 || c.toNat == 0xa0 ||
    c.toNat == 0x1680 || (0x2000 ≤ c.toNat && c.toNat ≤ 0x200a) || c.toNat == 0x2028 ||
    c.toNat == 0x2029 || c.toNat == 0x202f || c.toNat == 0x205f || c.toNat == 0x3000

/-- `str::trim`: the text without the white space at its two ends. -/
def trim (s : String) : String :=
  String.ofList ((s.toList.dropWhile isWhitespace).rdropWhile isWhitespace)

/-- What was trimmed is not trimmed again. -/
theorem trim_trim (s : String) : trim (trim s) = trim s := by
  show String.ofList (strip isWhitespace (String.ofList (strip isWhitespace s.toList)).toList) = _
  rw [String.toList_ofList, strip_strip]
  rfl

/-- A text without white space is not trimmed. -/
theorem trim_eq_self {s : String} (visible : ∀ c ∈ s.toList, isWhitespace c = false) :
    trim s = s := by
  have front : s.toList.dropWhile isWhitespace = s.toList :=
    List.dropWhile_eq_self_iff.mpr fun _ => by simpa using visible _ (List.getElem_mem _)
  have back : s.toList.rdropWhile isWhitespace = s.toList :=
    List.rdropWhile_eq_self_iff.mpr fun hl => by simpa using visible _ (List.getLast_mem hl)
  rw [trim, front, back, String.ofList_toList]

/-- A line of visible text, without its end. -/
theorem trim_line {s : String} (visible : ∀ c ∈ s.toList, isWhitespace c = false) :
    trim (s ++ "\n") = s := by
  cases chars : s.toList with
  | nil =>
    rw [String.toList_eq_nil_iff.mp chars]
    rfl
  | cons c cs =>
    have first : isWhitespace c = false := visible c (chars ▸ List.mem_cons_self)
    have front : (s ++ "\n").toList.dropWhile isWhitespace = s.toList ++ ['\n'] := by
      rw [String.toList_append, chars]
      exact List.dropWhile_cons_of_neg (by simp [first])
    have back : (s.toList ++ ['\n']).rdropWhile isWhitespace = s.toList.rdropWhile isWhitespace :=
      List.rdropWhile_concat_pos _ _ _ (by decide)
    have kept : s.toList.rdropWhile isWhitespace = s.toList :=
      List.rdropWhile_eq_self_iff.mpr fun hl => by simpa using visible _ (List.getLast_mem hl)
    rw [trim, front, back, kept, String.ofList_toList]

/-- Trimming makes no text longer. -/
theorem length_trim_le (s : String) : (trim s).length ≤ s.length := by
  have front := (List.dropWhile_suffix isWhitespace (l := s.toList)).length_le
  have back := (List.rdropWhile_prefix isWhitespace (s.toList.dropWhile isWhitespace)).length_le
  rw [trim, String.length_ofList, ← String.length_toList]
  omega

/-- `s.trim().is_empty()`: the text is white space only. -/
def isBlank (s : String) : Bool := (trim s).isEmpty

/-- A text with a character that is not white space is not blank. -/
theorem isBlank_eq_false {s : String} {c : Char} (mem : c ∈ s.toList)
    (visible : isWhitespace c = false) : isBlank s = false := by
  have kept : c ∈ s.toList.dropWhile isWhitespace := by
    rcases List.mem_append.mp (by rw [List.takeWhile_append_dropWhile]; exact mem :
      c ∈ s.toList.takeWhile isWhitespace ++ s.toList.dropWhile isWhitespace) with h | h
    · rw [List.mem_takeWhile_imp h] at visible
      cases visible
    · exact h
  have nonempty : (s.toList.dropWhile isWhitespace).rdropWhile isWhitespace ≠ [] := by
    intro h
    rw [List.rdropWhile_eq_nil_iff.mp h c kept] at visible
    cases visible
  cases hb : isBlank s with
  | false => rfl
  | true =>
    refine absurd ?_ nonempty
    simpa only [isBlank, trim, String.isEmpty_iff, String.ofList_eq_empty_iff] using hb

/-- The first character is white space. -/
def startsBlank (s : String) : Bool := s.toList.head?.any isWhitespace

/-- `str::strip_prefix`. -/
def stripPrefix (p s : String) : Option String :=
  if p.toList <+: s.toList then some (String.ofList (s.toList.drop p.toList.length)) else none

/-- Stripping succeeds exactly on the texts that start with the prefix, and leaves the rest. -/
theorem stripPrefix_eq_some_iff {p s t : String} : stripPrefix p s = some t ↔ s = p ++ t := by
  unfold stripPrefix
  constructor
  · intro h
    split at h
    next hp =>
      obtain ⟨rest, hrest⟩ := hp
      cases h
      rw [← String.toList_inj, String.toList_append, ← hrest, String.toList_ofList,
        List.drop_left]
    next => cases h
  · rintro rfl
    rw [String.toList_append, if_pos (List.prefix_append _ _), List.drop_left,
      String.ofList_toList]

/-- `str::contains`. -/
def contains (s part : String) : Bool := decide (part.toList <:+: s.toList)

/-! ## Numbers -/

/-- `str::parse` at an unsigned integer type: digits, after a plus sign if there is one, and a value
within the type's width. -/
def parseUnsigned (bits : ℕ) (s : String) : Option ℕ :=
  let digits := match s.toList with
    | '+' :: digits => digits
    | digits => digits
  if digits.isEmpty || !digits.all Char.isDigit then none
  else
    let n := digits.foldl (fun n c => 10 * n + (c.toNat - '0'.toNat)) 0
    if n < 2 ^ bits then some n else none

def parseU32 (s : String) : Option UInt32 := (parseUnsigned 32 s).map UInt32.ofNat

def parseU64 (s : String) : Option UInt64 := (parseUnsigned 64 s).map UInt64.ofNat

/-! ## UTF-8 -/

/-- `String::from_utf8`, which `fs::read_to_string` applies to the contents of a file. -/
def decodeUtf8 (bytes : ByteArray) : Option String := String.fromUTF8? bytes

@[simp] theorem decodeUtf8_toByteArray (s : String) : decodeUtf8 s.toByteArray = some s := by
  unfold decodeUtf8 String.fromUTF8?
  rw [dif_pos s.isValidUTF8]
  rfl

/-- What reads as a text is the encoding of that text. -/
theorem toByteArray_of_decodeUtf8 {bytes : ByteArray} {s : String}
    (h : decodeUtf8 bytes = some s) : s.toByteArray = bytes := by
  unfold decodeUtf8 String.fromUTF8? at h
  split at h
  next valid =>
    cases h
    rfl
  next => cases h

/-- The first character is read off the bytes alone, so an encoding followed by anything is the
encoding of a longer text only if the texts agree up to there. -/
theorem prefix_of_utf8Encode_append : ∀ {cs ds : List Char} {rest : ByteArray},
    cs.utf8Encode ++ rest = ds.utf8Encode → cs <+: ds
  | [], _, _, _ => List.nil_prefix
  | c :: cs, [], rest, h => by
    rw [List.utf8Encode_cons, List.utf8Encode_nil, ByteArray.append_eq_empty_iff,
      ByteArray.append_eq_empty_iff] at h
    exact absurd h.1.1 (by simp only [List.utf8Encode_eq_empty, List.cons_ne_nil, not_false_eq_true])
  | c :: cs, d :: ds, rest, h => by
    rw [List.utf8Encode_cons, List.utf8Encode_cons (c := d), ByteArray.append_assoc,
      List.utf8Encode_singleton, List.utf8Encode_singleton] at h
    have first : some c = some d := by
      rw [← ByteArray.utf8DecodeChar?_utf8EncodeChar_append (c := c), h,
        ByteArray.utf8DecodeChar?_utf8EncodeChar_append]
    cases first
    exact List.cons_prefix_cons.mpr
      ⟨rfl, prefix_of_utf8Encode_append ((ByteArray.append_right_inj _).mp h)⟩

/-- Bytes past the end are not there to take. -/
theorem extract_of_size_le {bytes : ByteArray} {n : Nat} (all : bytes.size ≤ n) :
    bytes.extract 0 n = bytes := by
  apply ByteArray.ext
  rw [ByteArray.data_extract]
  exact Array.extract_eq_self_of_le all

/-- **A torn text is a prefix.** When the first `n` bytes of an encoded text read as a text, they
read as a prefix of it. -/
theorem prefix_of_extract {s t : String} {n : Nat}
    (h : decodeUtf8 (s.toByteArray.extract 0 n) = some t) : t.toList <+: s.toList := by
  have whole : s.toByteArray.extract 0 (max n s.toByteArray.size) = s.toByteArray :=
    extract_of_size_le (Nat.le_max_right n _)
  have split : t.toByteArray ++ s.toByteArray.extract n s.toByteArray.size = s.toByteArray := by
    rw [toByteArray_of_decodeUtf8 h, ByteArray.extract_append_extract,
      Nat.min_eq_left (Nat.zero_le _), whole]
  rw [← String.utf8Encode_toList, ← String.utf8Encode_toList] at split
  exact prefix_of_utf8Encode_append split

/-- Cutting an encoding short loses something: what is read is not the whole text. -/
theorem ne_of_extract {s t : String} {n : Nat} (short : n < s.toByteArray.size)
    (h : decodeUtf8 (s.toByteArray.extract 0 n) = some t) : t ≠ s := by
  rintro rfl
  have size := congrArg ByteArray.size (toByteArray_of_decodeUtf8 h)
  rw [ByteArray.size_extract] at size
  omega

/-! ## ASCII -/

/-- The bytes of a text. -/
def utf8 (s : String) : List UInt8 := s.toUTF8.data.toList

/-- The bytes of a longer text are those of its parts. -/
theorem utf8_append (s t : String) : utf8 (s ++ t) = utf8 s ++ utf8 t := by
  show (s ++ t).toByteArray.data.toList = _
  rw [String.toByteArray_append, ByteArray.data_append, Array.toList_append]
  rfl

/-- Different texts have different bytes. -/
theorem utf8_inj {s t : String} : utf8 s = utf8 t ↔ s = t := by
  constructor
  · intro h
    exact String.toByteArray_inj.mp (ByteArray.ext (Array.toList_inj.mp h))
  · rintro rfl
    rfl

/-- The bytes of a text are those of its characters. -/
theorem utf8_eq_flatMap (s : String) : utf8 s = s.toList.flatMap String.utf8EncodeChar := by
  show s.toByteArray.data.toList = _
  rw [← String.utf8Encode_toList, List.utf8Encode, List.toList_data_toByteArray]

/-- The text whose characters are the bytes. -/
def ofAscii (bytes : List UInt8) : String :=
  String.ofList (bytes.map fun b => Char.ofNat b.toNat)

/-- An ASCII character is one byte. -/
theorem utf8EncodeChar_of_lt {c : Char} (small : c.val.toNat < 128) :
    String.utf8EncodeChar c = [c.val.toUInt8] := by
  apply String.utf8EncodeChar_eq_singleton
  rw [Char.utf8Size_eq_one_iff, UInt32.le_iff_toNat_le]
  exact Nat.le_of_lt_succ small

/-- An ASCII character is encoded as its own byte. -/
theorem utf8EncodeChar_ascii {b : UInt8} (ascii : b < 128) :
    String.utf8EncodeChar (Char.ofNat b.toNat) = [b] := by
  have small : b.toNat < 128 := ascii
  have value : (Char.ofNat b.toNat).val.toNat = b.toNat := by
    have valid : b.toNat.isValidChar := Or.inl (by omega)
    rw [Char.ofNat, dif_pos valid]
    rfl
  have byte : (Char.ofNat b.toNat).val.toUInt8 = b := by
    rw [← UInt8.toNat_inj, UInt32.toNat_toUInt8, value]
    exact Nat.mod_eq_of_lt b.toNat_lt
  rw [utf8EncodeChar_of_lt (by rw [value]; exact small), byte]

/-- ASCII bytes are the encoding of the text they spell. -/
theorem utf8_ofAscii {bytes : List UInt8} (ascii : ∀ b ∈ bytes, b < 128) :
    utf8 (ofAscii bytes) = bytes := by
  rw [utf8_eq_flatMap, ofAscii, String.toList_ofList]
  induction bytes with
  | nil => rfl
  | cons b bytes ih =>
    rw [List.map_cons, List.flatMap_cons, utf8EncodeChar_ascii (ascii b List.mem_cons_self),
      ih fun c h => ascii c (List.mem_cons_of_mem b h)]
    rfl

/-- Each byte is a character of its own. -/
theorem toList_ofAscii (bytes : List UInt8) :
    (ofAscii bytes).toList = bytes.map fun b => Char.ofNat b.toNat := String.toList_ofList

/-- A text encoded in ASCII bytes is what they spell. -/
theorem ofAscii_utf8 {s : String} (ascii : ∀ b ∈ utf8 s, b < 128) : ofAscii (utf8 s) = s :=
  utf8_inj.mp (utf8_ofAscii ascii)

/-- Trimming an ASCII text, byte by byte. -/
theorem trim_ofAscii {bytes : List UInt8} {p : UInt8 → Bool}
    (same : ∀ b ∈ bytes, isWhitespace (Char.ofNat b.toNat) = p b) :
    trim (ofAscii bytes) = ofAscii (strip p bytes) := by
  show String.ofList (strip isWhitespace (ofAscii bytes).toList) = _
  rw [toList_ofAscii, strip_map]
  exact congrArg ofAscii (strip_congr same)

end Text
