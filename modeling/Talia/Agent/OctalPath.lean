import Mathlib.Algebra.Group.Nat.Defs
import Mathlib.Data.List.Basic
import Mathlib.Data.List.TakeWhile
import Mathlib.Data.Set.Basic
import Mathlib.Tactic.Common

/-!
# Octal escapes

In a path that the kernel writes, a backslash and three octal digits stand for a byte. Reading one
takes up to three digits after the backslash. When they are no byte, they are given back as they
were, and so is the backslash.

`decode_octalEncode` says that reading inverts escaping, whatever characters are escaped, as long as
the backslash is one of them. `exists_pieces` says what reading does to any text: the text is cut
into complete escapes and single characters, and each is read for itself.
-/

namespace Talia

/-! ## Reading -/

/-- At most three octal digits that a text starts with. -/
def octalDigits (chars : List Char) : List Char :=
  (chars.take 3).takeWhile fun next => next.isDigit && next < '8'

/-- `u8::from_str_radix` at radix 8, of three digits. -/
def octalByte (octal : List Char) : Option UInt8 :=
  let value := octal.foldl (fun n c => 8 * n + (c.toNat - '0'.toNat)) 0
  if octal.length = 3 ∧ value < 2 ^ 8 then some (.ofNat value) else none

def decodeMountinfoChars : List Char → List Char
  | [] => []
  | ch :: chars =>
    if ch ≠ '\\' then ch :: decodeMountinfoChars chars
    else
      let octal := octalDigits chars
      let rest := decodeMountinfoChars (chars.drop octal.length)
      match octalByte octal with
      | some byte => .ofNat byte.toNat :: rest
      | none => '\\' :: (octal ++ rest)
termination_by chars => chars.length

def decodeMountinfoPath (value : String) : String :=
  .ofList (decodeMountinfoChars value.toList)

/-! ## Escaping -/

/-- Three octal digits that are a byte. -/
structure Complete (a b d : Char) (byte : UInt8) : Prop where
  digits : octalDigits [a, b, d] = [a, b, d]
  value : octalByte [a, b, d] = some byte

/-- The three octal digits of a character. -/
def octalCode (c : Char) : List Char :=
  [(c.toNat / 64).digitChar, (c.toNat / 8 % 8).digitChar, (c.toNat % 8).digitChar]

section Escape

variable (S : Set Char) [DecidablePred (· ∈ S)]

/-- A character of `S` as a backslash and its code, another for itself. -/
def octalEncodeChar (c : Char) : List Char :=
  if c ∈ S then '\\' :: octalCode c else [c]

def octalEncode (path : List Char) : List Char := path.flatMap (octalEncodeChar S)

def octalEncodePath (path : String) : String := .ofList (octalEncode S path.toList)

end Escape

/-- The code of an ASCII character reads as its byte. -/
theorem octalCode_reads {c : Char} (ascii : c.toNat < 128) :
    octalDigits (octalCode c) = octalCode c ∧
      octalByte (octalCode c) = some (.ofNat c.toNat) := by
  have codes : ∀ n < 128,
      octalDigits [(n / 64).digitChar, (n / 8 % 8).digitChar, (n % 8).digitChar] =
          [(n / 64).digitChar, (n / 8 % 8).digitChar, (n % 8).digitChar] ∧
        octalByte [(n / 64).digitChar, (n / 8 % 8).digitChar, (n % 8).digitChar] =
          some (.ofNat n) := by
    decide
  exact codes c.toNat ascii

/-- A complete escape is read as its byte, whatever follows. -/
theorem decode_escape {a b d : Char} {byte : UInt8} (complete : Complete a b d byte)
    (rest : List Char) :
    decodeMountinfoChars ('\\' :: a :: b :: d :: rest) =
      .ofNat byte.toNat :: decodeMountinfoChars rest := by
  have three : octalDigits (a :: b :: d :: rest) = [a, b, d] := complete.digits
  rw [decodeMountinfoChars]
  simp [three, complete.value]

/-- What is no backslash stands for itself. -/
theorem decode_literal {c : Char} (plain : c ≠ '\\') (rest : List Char) :
    decodeMountinfoChars (c :: rest) = c :: decodeMountinfoChars rest := by
  rw [decodeMountinfoChars, if_pos plain]

/-- **Reading inverts escaping.** -/
theorem decode_octalEncode {S : Set Char} [DecidablePred (· ∈ S)]
    (ascii : ∀ c ∈ S, c.toNat < 128) (backslash : '\\' ∈ S) (path : List Char) :
    decodeMountinfoChars (octalEncode S path) = path := by
  induction path with
  | nil => simp [octalEncode, decodeMountinfoChars]
  | cons c path ih =>
    have split : octalEncode S (c :: path) = octalEncodeChar S c ++ octalEncode S path :=
      List.flatMap_cons
    rw [split, octalEncodeChar]
    by_cases escaped : c ∈ S
    · obtain ⟨digits, value⟩ := octalCode_reads (ascii c escaped)
      have small : (UInt8.ofNat c.toNat).toNat = c.toNat :=
        UInt8.toNat_ofNat_of_lt' (Nat.lt_trans (ascii c escaped) (by decide))
      rw [if_pos escaped]
      show decodeMountinfoChars ('\\' :: _ :: _ :: _ :: octalEncode S path) = _
      rw [decode_escape ⟨digits, value⟩, ih, small, Char.ofNat_toNat]
    · have plain : c ≠ '\\' := by
        intro same
        rw [same] at escaped
        exact escaped backslash
      rw [if_neg escaped, List.singleton_append, decode_literal plain, ih]

/-! ## Pieces -/

/-- A piece of a path: a character, or a complete escape. -/
inductive PathPiece where
  | literal (c : Char)
  | escape (a b d : Char) (byte : UInt8) (complete : Complete a b d byte)

namespace PathPiece

/-- What a piece is written as. -/
def spelled : PathPiece → List Char
  | .literal c => [c]
  | .escape a b d _ _ => ['\\', a, b, d]

/-- What a piece is read as. -/
def read : PathPiece → Char
  | .literal c => c
  | .escape _ _ _ byte _ => .ofNat byte.toNat

/-- No backslash for itself stands before three octal digits that are a byte. -/
def Tight : List PathPiece → Prop
  | [] => True
  | .literal c :: pieces =>
    (c = '\\' → octalByte (octalDigits (pieces.flatMap spelled)) = none) ∧ Tight pieces
  | .escape .. :: pieces => Tight pieces

/-- Characters are spelled as themselves, -/
theorem spelled_map_literal (cs : List Char) :
    (cs.map PathPiece.literal).flatMap spelled = cs := by
  rw [List.flatMap_map]
  exact List.flatMap_singleton' cs

/-- and read as themselves. -/
theorem read_map_literal (cs : List Char) : (cs.map PathPiece.literal).map read = cs := by
  rw [List.map_map]
  exact List.map_id cs

/-- Characters that are no backslash can stand for themselves. -/
theorem tight_literals {cs : List Char} (plain : ∀ c ∈ cs, c ≠ '\\') {pieces : List PathPiece}
    (tight : Tight pieces) : Tight (cs.map PathPiece.literal ++ pieces) := by
  induction cs with
  | nil => exact tight
  | cons c cs ih =>
    refine ⟨fun same => absurd same (plain c List.mem_cons_self), ih fun d mem => ?_⟩
    exact plain d (List.mem_cons_of_mem c mem)

end PathPiece

/-- The digits of a code are those that come first. -/
theorem octalDigits_initial (chars : List Char) : octalDigits chars <+: chars :=
  (List.takeWhile_prefix _).trans (List.take_prefix 3 chars)

/-- They are all digits. -/
theorem octalDigits_idem (chars : List Char) : octalDigits (octalDigits chars) = octalDigits chars := by
  have short : (octalDigits chars).length ≤ 3 :=
    (List.takeWhile_prefix _).length_le.trans (List.length_take_le 3 chars)
  rw [octalDigits, List.take_of_length_le short, octalDigits, List.takeWhile_idem]

/-- Only three digits make a byte. -/
theorem length_of_octalByte {octal : List Char} {byte : UInt8} (value : octalByte octal = some byte) :
    octal.length = 3 := by
  simp only [octalByte] at value
  split at value
  next found => exact found.1
  next => cases value

/-- A backslash is no digit. -/
theorem ne_backslash_of_mem_octalDigits {c : Char} {chars : List Char}
    (mem : c ∈ octalDigits chars) : c ≠ '\\' := by
  have digit := List.mem_takeWhile_imp mem
  intro same
  rw [same] at digit
  exact absurd digit (by decide)

/-- What a text is read as is what its pieces are read as. -/
theorem exists_pieces (chars : List Char) :
    ∃ pieces, PathPiece.Tight pieces ∧ pieces.flatMap PathPiece.spelled = chars ∧
      decodeMountinfoChars chars = pieces.map PathPiece.read := by
  induction chars using decodeMountinfoChars.induct with
  | case1 => exact ⟨[], trivial, rfl, by rw [decodeMountinfoChars]; rfl⟩
  | case2 ch chars plain ih =>
    obtain ⟨pieces, tight, spelled, read⟩ := ih
    refine ⟨.literal ch :: pieces, ⟨fun same => absurd same plain, tight⟩, ?_, ?_⟩
    · rw [List.flatMap_cons, spelled]
      rfl
    · rw [decode_literal plain, read]
      rfl
  | case3 ch chars backslash octal byte value ih =>
    obtain ⟨pieces, tight, spelled, read⟩ := ih
    obtain rfl : ch = '\\' := by simpa using backslash
    obtain ⟨a, b, d, digits⟩ := List.length_eq_three.mp (length_of_octalByte value)
    have whole : octal ++ chars.drop octal.length = chars :=
      List.prefix_iff_eq_append.mp (octalDigits_initial chars)
    have alone : octalDigits octal = octal := octalDigits_idem chars
    rw [digits] at alone value whole spelled read
    have complete : Complete a b d byte := ⟨alone, value⟩
    refine ⟨.escape a b d byte complete :: pieces, tight, ?_, ?_⟩
    · rw [List.flatMap_cons, spelled]
      exact congrArg ('\\' :: ·) whole
    · calc decodeMountinfoChars ('\\' :: chars)
          = decodeMountinfoChars ('\\' :: a :: b :: d :: chars.drop 3) :=
            congrArg (fun cs => decodeMountinfoChars ('\\' :: cs)) whole.symm
        _ = .ofNat byte.toNat :: decodeMountinfoChars (chars.drop 3) := decode_escape complete _
        _ = .ofNat byte.toNat :: pieces.map PathPiece.read := congrArg _ read
  | case4 ch chars backslash octal value ih =>
    obtain ⟨pieces, tight, spelled, read⟩ := ih
    obtain rfl : ch = '\\' := by simpa using backslash
    refine ⟨.literal '\\' :: (octal.map PathPiece.literal ++ pieces), ⟨fun _ => ?_, ?_⟩, ?_, ?_⟩
    · rw [List.flatMap_append, PathPiece.spelled_map_literal, spelled,
        List.prefix_iff_eq_append.mp (octalDigits_initial chars)]
      exact value
    · exact PathPiece.tight_literals (fun c mem => ne_backslash_of_mem_octalDigits mem) tight
    · rw [List.flatMap_cons, List.flatMap_append, PathPiece.spelled_map_literal, spelled,
        List.prefix_iff_eq_append.mp (octalDigits_initial chars)]
      rfl
    · rw [decodeMountinfoChars, if_neg backslash, List.map_cons, List.map_append,
        PathPiece.read_map_literal, ← read]
      show (match octalByte octal with
        | some byte => _
        | none => _) = _
      rw [value]
      rfl

/-- A text without a backslash is read as it is. -/
theorem decode_of_no_backslash {chars : List Char} (absent : '\\' ∉ chars) :
    decodeMountinfoChars chars = chars := by
  induction chars with
  | nil => rw [decodeMountinfoChars]
  | cons c chars ih =>
    rw [List.mem_cons, not_or] at absent
    rw [decode_literal fun same => absent.1 same.symm, ih absent.2]

/-- **Decoding a path inverts encoding it**, whatever ASCII characters are escaped, the backslash
among them. Of any text it replaces complete escapes, and nothing else. -/
theorem mountinfo_path_decoding :
    (∀ (S : Set Char) [DecidablePred (· ∈ S)], (∀ c ∈ S, c.toNat < 128) → '\\' ∈ S →
      ∀ path, decodeMountinfoPath (octalEncodePath S path) = path) ∧
    (∀ value : String, ∃ pieces, PathPiece.Tight pieces ∧
      value = .ofList (pieces.flatMap PathPiece.spelled) ∧
      decodeMountinfoPath value = .ofList (pieces.map PathPiece.read)) ∧
    (∀ value : String, '\\' ∉ value.toList → decodeMountinfoPath value = value) := by
  refine ⟨?_, ?_, ?_⟩
  · intro S _ ascii backslash path
    rw [decodeMountinfoPath, octalEncodePath, String.toList_ofList,
      decode_octalEncode ascii backslash, String.ofList_toList]
  · intro value
    obtain ⟨pieces, tight, spelled, read⟩ := exists_pieces value.toList
    refine ⟨pieces, tight, ?_, congrArg String.ofList read⟩
    rw [spelled, String.ofList_toList]
  · intro value absent
    rw [decodeMountinfoPath, decode_of_no_backslash absent, String.ofList_toList]

/-- A path with a space, and with what would be read as an escape. -/
theorem mountinfo_path_decoding_space :
    decodeMountinfoPath (octalEncodePath {c | c = ' ' ∨ c = '\\'} "/mnt/a\\101 b") =
        "/mnt/a\\101 b" ∧
      decodeMountinfoPath "/mnt/data" = "/mnt/data" := by
  refine ⟨mountinfo_path_decoding.1 _ ?_ (.inr rfl) _, mountinfo_path_decoding.2.2 _ (by decide)⟩
  intro c mem
  rcases mem with rfl | rfl <;> decide

end Talia
