import Mathlib.Data.List.TakeWhile

/-!
# IP addresses as Rust's standard library reads them

`IpAddr::from_str`: four octets in decimal, without leading zeros, or groups of hexadecimal digits
with one `::` for a run of zeros, the last two groups possibly written as four octets. A reader
takes the characters it reads off the front and leaves the rest.

An IPv4 address has one text, the dotted decimal (`parse_eq_v4_iff`). Nothing but digits and dots is
read for it, and nothing but hexadecimal digits, dots and colons for an IPv6 address, which has a
colon (`colon_mem_of_parse_v6`).
-/

/-- Four octets. -/
structure Ipv4Addr where
  a : UInt8
  b : UInt8
  c : UInt8
  d : UInt8
  deriving DecidableEq

/-- An address of either kind. -/
inductive IpAddr where
  | v4 (addr : Ipv4Addr)
  | v6 (groups : List UInt16)
  deriving DecidableEq

namespace IpAddr

/-- `IpAddr::is_loopback`: `127.0.0.0/8` and `::1`. -/
def isLoopback : IpAddr → Bool
  | .v4 addr => addr.a = 127
  | .v6 groups => groups = [0, 0, 0, 0, 0, 0, 0, 1]

/-! ## Reading -/

/-- `char::to_digit`, up to sixteen. -/
def toDigit (radix : ℕ) (c : Char) : Option ℕ :=
  if '0' ≤ c ∧ c ≤ '9' ∧ c.toNat - 48 < radix then some (c.toNat - 48)
  else if 'a' ≤ c ∧ c ≤ 'f' ∧ c.toNat - 87 < radix then some (c.toNat - 87)
  else if 'A' ≤ c ∧ c ≤ 'F' ∧ c.toNat - 55 < radix then some (c.toNat - 55)
  else none

/-- A number of at most `maxDigits` digits, below `bound`. -/
def readNumber (radix maxDigits : ℕ) (allowZeroPrefix : Bool) (bound : ℕ) (cs : List Char) :
    Option (ℕ × List Char) :=
  let digits := cs.takeWhile fun c => (toDigit radix c).isSome
  if maxDigits < digits.length then none
  else if digits = [] then none
  else if !allowZeroPrefix ∧ digits.head? = some '0' ∧ 1 < digits.length then none
  else
    let value := digits.foldl (fun n c => n * radix + (toDigit radix c).getD 0) 0
    if value < bound then some (value, cs.dropWhile fun c => (toDigit radix c).isSome) else none

/-- The one character. -/
def readGivenChar (given : Char) : List Char → Option (List Char)
  | [] => none
  | c :: cs => if c = given then some cs else none

/-- What stands after a separator, or at the beginning. -/
def readSeparator {α : Type} (sep : Char) (first : Bool)
    (inner : List Char → Option (α × List Char)) (cs : List Char) : Option (α × List Char) :=
  if first then inner cs else (readGivenChar sep cs).bind inner

/-- Up to three digits, of a number below 256 that has no leading zero. -/
def readOctet (cs : List Char) : Option (UInt8 × List Char) :=
  (readNumber 10 3 false 256 cs).map fun p => (.ofNat p.1, p.2)

/-- Four octets with dots between them. -/
def readIpv4Addr (cs : List Char) : Option (Ipv4Addr × List Char) := do
  let (a, cs) ← readSeparator '.' true readOctet cs
  let (b, cs) ← readSeparator '.' false readOctet cs
  let (c, cs) ← readSeparator '.' false readOctet cs
  let (d, cs) ← readSeparator '.' false readOctet cs
  some (⟨a, b, c, d⟩, cs)

/-- Up to four hexadecimal digits. -/
def readGroup (cs : List Char) : Option (UInt16 × List Char) :=
  (readNumber 16 4 true 65536 cs).map fun p => (.ofNat p.1, p.2)

/-- Two octets of an embedded IPv4 address make a group. -/
def groupOf (high low : UInt8) : UInt16 := high.toUInt16 * 256 + low.toUInt16

/-- At most `limit` groups, whether an IPv4 address ends them, and the rest. An embedded address
takes two groups. -/
def readGroups : ℕ → Bool → List Char → List UInt16 × Bool × List Char
  | 0, _, cs => ([], false, cs)
  | limit + 1, first, cs =>
    match if limit = 0 then none else readSeparator ':' first readIpv4Addr cs with
    | some (addr, cs) => ([groupOf addr.a addr.b, groupOf addr.c addr.d], true, cs)
    | none =>
      match readSeparator ':' first readGroup cs with
      | some (group, cs) =>
        let (groups, ipv4, cs) := readGroups limit false cs
        (group :: groups, ipv4, cs)
      | none => ([], false, cs)

/-- Eight groups, or fewer around a double colon. -/
def readIpv6Addr (cs : List Char) : Option (List UInt16 × List Char) :=
  let (head, ipv4, cs) := readGroups 8 true cs
  if head.length = 8 then some (head, cs)
  else if ipv4 then none
  else do
    let cs ← readGivenChar ':' cs
    let cs ← readGivenChar ':' cs
    let (tail, _, cs) := readGroups (8 - (head.length + 1)) true cs
    some (head ++ List.replicate (8 - head.length - tail.length) 0 ++ tail, cs)

/-- An address of the one kind, or else of the other. -/
def readIpAddr (cs : List Char) : Option (IpAddr × List Char) :=
  match readIpv4Addr cs with
  | some (addr, cs) => some (.v4 addr, cs)
  | none => (readIpv6Addr cs).map fun p => (.v6 p.1, p.2)

/-- `IpAddr::from_str`: an address and nothing after it. -/
def parse (cs : List Char) : Option IpAddr :=
  match readIpAddr cs with
  | some (addr, []) => some addr
  | _ => none

/-- What is read as a number: all the digits at the front, in range. -/
theorem readNumber_eq_some {radix maxDigits bound value : ℕ} {allowZeroPrefix : Bool}
    {cs rest : List Char}
    (read : readNumber radix maxDigits allowZeroPrefix bound cs = some (value, rest)) :
    let digits := cs.takeWhile fun c => (toDigit radix c).isSome
    digits ≠ [] ∧ (allowZeroPrefix = false → digits.head? = some '0' → digits.length ≤ 1) ∧
      value = digits.foldl (fun n c => n * radix + (toDigit radix c).getD 0) 0 ∧ value < bound ∧
      rest = cs.dropWhile fun c => (toDigit radix c).isSome := by
  simp only [readNumber] at read
  split at read
  next => cases read
  next =>
    split at read
    next => cases read
    next nonempty =>
      split at read
      next => cases read
      next leading =>
        split at read
        next small =>
          cases read
          refine ⟨nonempty, ?_, rfl, small, rfl⟩
          intro allow zero
          simpa [allow, zero] using leading
        next => cases read

/-! ## The dotted decimal -/

/-- The text of an IPv4 address. -/
def print (addr : Ipv4Addr) : List Char :=
  Nat.toDigits 10 addr.a.toNat ++ '.' :: (Nat.toDigits 10 addr.b.toNat ++
    '.' :: (Nat.toDigits 10 addr.c.toNat ++ '.' :: Nat.toDigits 10 addr.d.toNat))

/-- Nothing, or something else than a digit. -/
def Stops (rest : List Char) : Prop := ∀ c ∈ rest.head?, c.isDigit = false

/-- At the end of the text a number stops. -/
theorem stops_nil : Stops [] := by
  intro c mem
  cases mem

/-- It stops at what is no digit. -/
theorem stops_cons {c : Char} {cs : List Char} (other : c.isDigit = false) : Stops (c :: cs) := by
  intro d mem
  cases mem
  exact other

/-- Where it stops no digit follows. -/
theorem Stops.takeWhile {rest : List Char} (stops : Stops rest) :
    rest.takeWhile Char.isDigit = [] := by
  cases rest with
  | nil => rfl
  | cons c cs => exact List.takeWhile_cons_of_neg (by simp [stops c rfl])

/-- So nothing is dropped there. -/
theorem Stops.dropWhile {rest : List Char} (stops : Stops rest) :
    rest.dropWhile Char.isDigit = rest := by
  cases rest with
  | nil => rfl
  | cons c cs => exact List.dropWhile_cons_of_neg (by simp [stops c rfl])

/-- In base ten the digits are the ten decimal ones. -/
theorem toDigit_ten (c : Char) : toDigit 10 c = if c.isDigit then some (c.toNat - 48) else none := by
  by_cases digit : c.isDigit
  · have range : 48 ≤ c.val ∧ c.val ≤ 57 := by simpa [Char.isDigit] using digit
    have bounds : '0' ≤ c ∧ c ≤ '9' := range
    have value : c.toNat - 48 < 10 := by
      have high : c.toNat ≤ 57 := bounds.2
      omega
    rw [if_pos digit, toDigit, if_pos ⟨bounds.1, bounds.2, value⟩]
  · have noDigit : ¬ ('0' ≤ c ∧ c ≤ '9' ∧ c.toNat - 48 < 10) := by
      intro h
      exact digit (by simpa [Char.isDigit] using ⟨h.1, h.2.1⟩)
    have noLower : ¬ ('a' ≤ c ∧ c ≤ 'f' ∧ c.toNat - 87 < 10) := by
      intro ⟨low, _, small⟩
      have low' : 97 ≤ c.toNat := low
      omega
    have noUpper : ¬ ('A' ≤ c ∧ c ≤ 'F' ∧ c.toNat - 55 < 10) := by
      intro ⟨low, _, small⟩
      have low' : 65 ≤ c.toNat := low
      omega
    rw [if_neg digit, toDigit, if_neg noDigit, if_neg noLower, if_neg noUpper]

/-- A character is read as a digit if it is one. -/
theorem isSome_toDigit_ten (c : Char) : (toDigit 10 c).isSome = c.isDigit := by
  rw [toDigit_ten]
  cases c.isDigit <;> rfl

/-- A digit is below ten, and spelled by its character. -/
theorem digit_spelled {c : Char} (digit : c.isDigit = true) :
    c.toNat - 48 < 10 ∧ Nat.digitChar (c.toNat - 48) = c := by
  have range : 48 ≤ c.val ∧ c.val ≤ 57 := by simpa [Char.isDigit] using digit
  have low : 48 ≤ c.toNat := range.1
  have high : c.toNat ≤ 57 := range.2
  have digits : ∀ n < 10, (Nat.digitChar n).toNat = 48 + n := by decide
  have small : c.toNat - 48 < 10 := by omega
  refine ⟨small, Char.toNat_inj.mp ?_⟩
  rw [digits _ small]
  omega

/-- The value of digits that follow those of a number. -/
def foldDigits (n : ℕ) (digits : List Char) : ℕ :=
  digits.foldl (fun n c => n * 10 + (toDigit 10 c).getD 0) n

/-- Appending digits to a number that is not zero appends them to its text. -/
theorem toDigits_foldDigits {n : ℕ} (pos : 0 < n) {digits : List Char}
    (each : ∀ c ∈ digits, c.isDigit = true) :
    Nat.toDigits 10 (foldDigits n digits) = Nat.toDigits 10 n ++ digits := by
  induction digits generalizing n with
  | nil => rw [foldDigits, List.foldl_nil, List.append_nil]
  | cons c digits ih =>
    have digit : c.isDigit = true := each c List.mem_cons_self
    obtain ⟨small, spelled⟩ := digit_spelled digit
    have appended := Nat.toDigits_append_toDigits (b := 10) (n := n) (d := c.toNat - 48)
      (by decide) pos small
    rw [Nat.toDigits_of_lt_base small, spelled] at appended
    have rest := ih (n := n * 10 + (c.toNat - 48)) (by omega)
      fun c mem => each c (List.mem_cons_of_mem _ mem)
    rw [foldDigits, List.foldl_cons, toDigit_ten, if_pos digit, Option.getD_some]
    rw [Nat.mul_comm 10 n] at appended
    exact rest.trans (by rw [← appended, List.append_assoc]; rfl)

/-- The text of the value of digits without a leading zero is the digits. -/
theorem toDigits_value {digits : List Char} (nonempty : digits ≠ [])
    (each : ∀ c ∈ digits, c.isDigit = true)
    (leading : digits.head? = some '0' → digits.length ≤ 1) :
    Nat.toDigits 10 (foldDigits 0 digits) = digits := by
  obtain ⟨c, rest, rfl⟩ := List.exists_cons_of_ne_nil nonempty
  have digit : c.isDigit = true := each c List.mem_cons_self
  obtain ⟨small, spelled⟩ := digit_spelled digit
  have first : foldDigits 0 (c :: rest) = foldDigits (c.toNat - 48) rest := by
    rw [foldDigits, List.foldl_cons, toDigit_ten, if_pos digit, Option.getD_some, Nat.zero_mul,
      Nat.zero_add]
    rfl
  rw [first]
  cases rest with
  | nil =>
    rw [foldDigits, List.foldl_nil, Nat.toDigits_of_lt_base small, spelled]
  | cons d rest =>
    have pos : 0 < c.toNat - 48 := by
      refine Nat.pos_of_ne_zero fun zero => ?_
      rw [zero] at spelled
      have short := leading (congrArg some spelled.symm)
      simp at short
    rw [toDigits_foldDigits pos fun c mem => each c (List.mem_cons_of_mem _ mem),
      Nat.toDigits_of_lt_base small, spelled]
    rfl

/-- An octet is read off its decimal text, and off nothing else. -/
theorem readOctet_eq_some_iff {octet : UInt8} {cs rest : List Char} :
    readOctet cs = some (octet, rest) ↔ cs = Nat.toDigits 10 octet.toNat ++ rest ∧ Stops rest := by
  have same : (fun c => (toDigit 10 c).isSome) = Char.isDigit := funext isSome_toDigit_ten
  constructor
  · intro read
    obtain ⟨⟨value, rest'⟩, number, octets⟩ := Option.map_eq_some_iff.mp read
    cases octets
    obtain ⟨nonempty, leading, same', small, rfl⟩ := readNumber_eq_some number
    rw [same] at nonempty leading same'
    have text := toDigits_value nonempty (fun c mem => List.mem_takeWhile_imp mem) (leading rfl)
    have value' : value = foldDigits 0 (cs.takeWhile Char.isDigit) := same'
    refine ⟨?_, ?_⟩
    · rw [UInt8.toNat_ofNat_of_lt' small, value', text, same, List.takeWhile_append_dropWhile]
    · intro c mem
      have kept := List.head?_dropWhile_not Char.isDigit cs
      rw [same] at mem
      rw [mem] at kept
      simpa using kept
  · intro ⟨text, stops⟩
    have digits : ∀ n < 256, (Nat.toDigits 10 n).length ≤ 3 ∧
        ((Nat.toDigits 10 n).head? = some '0' → (Nat.toDigits 10 n).length ≤ 1) ∧
        foldDigits 0 (Nat.toDigits 10 n) = n := by decide +kernel
    obtain ⟨length, leading, value⟩ := digits octet.toNat octet.toNat_lt
    have each : ∀ c ∈ Nat.toDigits 10 octet.toNat, c.isDigit = true := fun c mem =>
      Nat.isDigit_of_mem_toDigits (by decide) (by decide) mem
    have taken : (Nat.toDigits 10 octet.toNat ++ rest).takeWhile Char.isDigit =
        Nat.toDigits 10 octet.toNat := by
      rw [List.takeWhile_append_of_pos each, stops.takeWhile, List.append_nil]
    have dropped : (Nat.toDigits 10 octet.toNat ++ rest).dropWhile Char.isDigit = rest := by
      rw [List.dropWhile_append_of_pos each, stops.dropWhile]
    have value' : (Nat.toDigits 10 octet.toNat).foldl
        (fun n c => n * 10 + (toDigit 10 c).getD 0) 0 = octet.toNat := value
    refine Option.map_eq_some_iff.mpr ⟨(octet.toNat, rest), ?_, by simp⟩
    simp only [readNumber, same]
    rw [text, taken, dropped, if_neg (by omega), if_neg Nat.toDigits_ne_nil, if_neg, value',
      if_pos octet.toNat_lt]
    intro h
    have short := leading h.2.1
    omega

/-- The dotted decimal, and nothing else, is read as the address. -/
theorem readIpv4Addr_eq_some_iff {addr : Ipv4Addr} {cs rest : List Char} :
    readIpv4Addr cs = some (addr, rest) ↔ cs = print addr ++ rest ∧ Stops rest := by
  have dot (cs : List Char) (octet : UInt8) (rest : List Char) :
      readSeparator '.' false readOctet cs = some (octet, rest) ↔
        cs = '.' :: (Nat.toDigits 10 octet.toNat ++ rest) ∧ Stops rest := by
    cases cs with
    | nil => simp [readSeparator, readGivenChar]
    | cons c cs =>
      by_cases same : c = '.'
      · subst same
        simp [readSeparator, readGivenChar, readOctet_eq_some_iff]
      · simp [readSeparator, readGivenChar, same]
  obtain ⟨a, b, c, d⟩ := addr
  unfold readIpv4Addr
  constructor
  · intro h
    obtain ⟨⟨a', cs₁⟩, first, h⟩ := Option.bind_eq_some_iff.mp h
    obtain ⟨⟨b', cs₂⟩, second, h⟩ := Option.bind_eq_some_iff.mp h
    obtain ⟨⟨c', cs₃⟩, third, h⟩ := Option.bind_eq_some_iff.mp h
    obtain ⟨⟨d', cs₄⟩, fourth, h⟩ := Option.bind_eq_some_iff.mp h
    cases h
    obtain ⟨text₁, -⟩ := readOctet_eq_some_iff.mp first
    obtain ⟨text₂, -⟩ := (dot _ _ _).mp second
    obtain ⟨text₃, -⟩ := (dot _ _ _).mp third
    obtain ⟨text₄, stops⟩ := (dot _ _ _).mp fourth
    refine ⟨?_, stops⟩
    subst text₄ text₃ text₂ text₁
    simp [print]
  · intro given
    obtain ⟨text, stops⟩ := given
    have dotStops (cs : List Char) : Stops ('.' :: cs) := stops_cons (by decide)
    have first : readOctet (Nat.toDigits 10 a.toNat ++ '.' :: (Nat.toDigits 10 b.toNat ++
        '.' :: (Nat.toDigits 10 c.toNat ++ '.' :: (Nat.toDigits 10 d.toNat ++ rest)))) =
        some (a, _) := readOctet_eq_some_iff.mpr ⟨rfl, dotStops _⟩
    have second := (dot _ b _).mpr ⟨rfl, dotStops
      (Nat.toDigits 10 c.toNat ++ '.' :: (Nat.toDigits 10 d.toNat ++ rest))⟩
    have third := (dot _ c _).mpr ⟨rfl, dotStops (Nat.toDigits 10 d.toNat ++ rest)⟩
    have fourth := (dot _ d rest).mpr ⟨rfl, stops⟩
    have whole : cs = Nat.toDigits 10 a.toNat ++ '.' :: (Nat.toDigits 10 b.toNat ++
        '.' :: (Nat.toDigits 10 c.toNat ++ '.' :: (Nat.toDigits 10 d.toNat ++ rest))) := by
      rw [text]
      simp [print]
    rw [whole, readSeparator, if_pos rfl, first]
    simp only [Option.bind_eq_bind, Option.bind_some, second, third, fourth]

/-! ## The characters of an address -/

/-- A character of the text of an address. -/
def IsText (c : Char) : Prop := (toDigit 16 c).isSome = true ∨ c = '.' ∨ c = ':'

/-- A dotted address is printed with digits and dots only. -/
theorem isDigit_or_dot_of_mem_print {addr : Ipv4Addr} {c : Char} (mem : c ∈ print addr) :
    c.isDigit = true ∨ c = '.' := by
  have digits (n : ℕ) (mem : c ∈ Nat.toDigits 10 n) : c.isDigit = true :=
    Nat.isDigit_of_mem_toDigits (by decide) (by decide) mem
  simp only [print, List.mem_append, List.mem_cons] at mem
  rcases mem with h | h | h | h | h | h | h
  · exact .inl (digits _ h)
  · exact .inr h
  · exact .inl (digits _ h)
  · exact .inr h
  · exact .inl (digits _ h)
  · exact .inr h
  · exact .inl (digits _ h)

/-- So its characters are among those an address may have. -/
theorem isText_of_mem_print {addr : Ipv4Addr} {c : Char} (mem : c ∈ print addr) : IsText c := by
  rcases isDigit_or_dot_of_mem_print mem with digit | dot
  · refine .inl ?_
    have range : 48 ≤ c.val ∧ c.val ≤ 57 := by simpa [Char.isDigit] using digit
    have bounds : '0' ≤ c ∧ c ≤ '9' := range
    have small := (digit_spelled digit).1
    rw [toDigit, if_pos ⟨bounds.1, bounds.2, by omega⟩]
    rfl
  · exact .inr (.inl dot)

/-- What a reader takes off the front of a text: characters of an address, with a colon among them
if `colon` holds. -/
def Takes (colon : Prop) (cs rest : List Char) : Prop :=
  ∃ used, cs = used ++ rest ∧ (∀ c ∈ used, IsText c) ∧ (colon → ':' ∈ used)

/-- A reader may take no characters. -/
theorem takes_nothing (cs : List Char) : Takes False cs cs := ⟨[], rfl, by simp, False.elim⟩

/-- What two readers take one after the other has a colon if either has. -/
theorem Takes.trans {p q : Prop} {cs cs' rest : List Char} (first : Takes p cs cs')
    (second : Takes q cs' rest) : Takes (p ∨ q) cs rest := by
  obtain ⟨used, rfl, text, colon⟩ := first
  obtain ⟨used', rfl, text', colon'⟩ := second
  refine ⟨used ++ used', (List.append_assoc ..).symm, ?_, ?_⟩
  · intro c mem
    rcases List.mem_append.mp mem with h | h
    · exact text c h
    · exact text' c h
  · intro either
    rcases either with h | h
    · exact List.mem_append_left _ (colon h)
    · exact List.mem_append_right _ (colon' h)

/-- To promise fewer colons is to promise less. -/
theorem Takes.weaken {p q : Prop} {cs rest : List Char} (takes : Takes p cs rest) (h : q → p) :
    Takes q cs rest := by
  obtain ⟨used, split, text, colon⟩ := takes
  exact ⟨used, split, text, fun hq => colon (h hq)⟩

/-- The colon is taken. -/
theorem takes_colon {cs rest : List Char} (read : readGivenChar ':' cs = some rest) :
    Takes True cs rest := by
  cases cs with
  | nil => cases read
  | cons c cs =>
    rw [readGivenChar] at read
    by_cases same : c = ':'
    · rw [if_pos same] at read
      cases read
      exact ⟨[c], rfl, by simp [same, IsText], by simp [same]⟩
    · rw [if_neg same] at read
      cases read

/-- A dotted address is taken without a promise of colons. -/
theorem takes_ipv4 {cs rest : List Char} {addr : Ipv4Addr}
    (read : readIpv4Addr cs = some (addr, rest)) : Takes False cs rest := by
  obtain ⟨text, -⟩ := readIpv4Addr_eq_some_iff.mp read
  exact ⟨print addr, text, fun c mem => isText_of_mem_print mem, False.elim⟩

/-- So is a group. -/
theorem takes_group {cs rest : List Char} {group : UInt16}
    (read : readGroup cs = some (group, rest)) : Takes False cs rest := by
  obtain ⟨⟨value, rest'⟩, number, same⟩ := Option.map_eq_some_iff.mp read
  cases same
  obtain ⟨-, -, -, -, rfl⟩ := readNumber_eq_some number
  have digits (c : Char) (mem : c ∈ cs.takeWhile fun c => (toDigit 16 c).isSome) : IsText c := by
    have digit := List.mem_takeWhile_imp mem
    exact .inl digit
  exact ⟨_, List.takeWhile_append_dropWhile.symm, digits, False.elim⟩

/-- After a separator, which is a colon, the promise holds unless it was the first. -/
theorem takes_separator {α : Type} {first : Bool} {inner : List Char → Option (α × List Char)}
    {cs rest : List Char} {x : α}
    (takes : ∀ cs, inner cs = some (x, rest) → Takes False cs rest)
    (read : readSeparator ':' first inner cs = some (x, rest)) :
    Takes (first = false) cs rest := by
  cases first with
  | true => exact (takes cs read).weaken (by simp)
  | false =>
    obtain ⟨cs', colon, read⟩ := Option.bind_eq_some_iff.mp read
    exact ((takes_colon colon).trans (takes cs' read)).weaken fun _ => .inl trivial

/-- More than two groups, or one after others, take a colon. -/
theorem takes_groups (limit : ℕ) (first : Bool) (cs : List Char) :
    Takes (first = false ∧ (readGroups limit first cs).1 ≠ [] ∨
      2 < (readGroups limit first cs).1.length) cs (readGroups limit first cs).2.2 := by
  induction limit generalizing first cs with
  | zero => exact (takes_nothing cs).weaken (by simp [readGroups])
  | succ limit ih =>
    unfold readGroups
    split
    next addr rest embedded =>
      have read : readSeparator ':' first readIpv4Addr cs = some (addr, rest) := by
        split at embedded
        next => cases embedded
        next => exact embedded
      exact (takes_separator (fun _ => takes_ipv4) read).weaken (by simp)
    next =>
      split
      next group rest read =>
        have later := ih false rest
        have takes := (takes_separator (fun _ => takes_group) read).trans later
        refine takes.weaken fun h => ?_
        rcases h with ⟨h, -⟩ | long
        · exact .inl h
        · refine .inr (.inl ⟨rfl, ?_⟩)
          intro none
          simp [none] at long
      next => exact (takes_nothing cs).weaken (by simp)

/-- An IPv6 address has a colon. -/
theorem takes_ipv6 {cs rest : List Char} {groups : List UInt16}
    (read : readIpv6Addr cs = some (groups, rest)) : Takes True cs rest := by
  have head := takes_groups 8 true cs
  unfold readIpv6Addr at read
  simp only at read
  split at read
  next eight =>
    cases read
    exact head.weaken fun _ => .inr (by omega)
  next =>
    split at read
    next => cases read
    next =>
      obtain ⟨cs₁, colon₁, read⟩ := Option.bind_eq_some_iff.mp read
      obtain ⟨cs₂, colon₂, read⟩ := Option.bind_eq_some_iff.mp read
      cases read
      have tail := takes_groups (8 - ((readGroups 8 true cs).1.length + 1)) true cs₂
      exact (head.trans ((takes_colon colon₁).trans ((takes_colon colon₂).trans tail))).weaken
        fun _ => .inr (.inl trivial)

/-! ## Parsing -/

/-- A text is an address if one is read and nothing is left. -/
theorem parse_eq_some_iff {cs : List Char} {addr : IpAddr} :
    parse cs = some addr ↔ readIpAddr cs = some (addr, []) := by
  unfold parse
  split
  next addr' read => simp [read]
  next other =>
    constructor
    · intro h
      cases h
    · intro read
      exact absurd read (other addr)

/-- An address is read as a dotted one first, and as a grouped one if that fails. -/
theorem readIpAddr_eq_some_iff {cs rest : List Char} {addr : IpAddr} :
    readIpAddr cs = some (addr, rest) ↔
      (∃ v4, addr = .v4 v4 ∧ readIpv4Addr cs = some (v4, rest)) ∨
      (∃ groups, addr = .v6 groups ∧ readIpv4Addr cs = none ∧
        readIpv6Addr cs = some (groups, rest)) := by
  unfold readIpAddr
  cases four : readIpv4Addr cs with
  | some p =>
    obtain ⟨v4, rest'⟩ := p
    simp only [Option.some.injEq, Prod.mk.injEq, reduceCtorEq, false_and, and_false, exists_false,
      or_false]
    constructor
    · intro ⟨same, ends⟩
      exact ⟨v4, same.symm, rfl, ends⟩
    · intro ⟨_, same, read, ends⟩
      exact ⟨by rw [same, read], ends⟩
  | none =>
    simp only [reduceCtorEq, and_false, exists_false, false_or, true_and, Option.map_eq_some_iff,
      Prod.exists, Prod.mk.injEq]
    constructor
    · intro ⟨groups, _, read, same, ends⟩
      exact ⟨groups, same.symm, ends ▸ read⟩
    · intro ⟨groups, same, read⟩
      exact ⟨groups, rest, read, same.symm, rfl⟩

/-- **An IPv4 address is its dotted decimal.** -/
theorem parse_eq_v4_iff {cs : List Char} {addr : Ipv4Addr} :
    parse cs = some (.v4 addr) ↔ cs = print addr := by
  have text : readIpv4Addr cs = some (addr, []) ↔ cs = print addr := by
    rw [readIpv4Addr_eq_some_iff, List.append_nil]
    exact and_iff_left stops_nil
  rw [parse_eq_some_iff, readIpAddr_eq_some_iff, ← text]
  constructor
  · intro h
    rcases h with ⟨_, same, read⟩ | ⟨_, same, -⟩
    · cases same
      exact read
    · cases same
  · intro read
    exact .inl ⟨addr, rfl, read⟩

/-- An IPv6 address has a colon. -/
theorem colon_mem_of_parse_v6 {cs : List Char} {groups : List UInt16}
    (parsed : parse cs = some (.v6 groups)) : ':' ∈ cs := by
  rcases readIpAddr_eq_some_iff.mp (parse_eq_some_iff.mp parsed) with
    ⟨_, same, -⟩ | ⟨_, -, -, read⟩
  · cases same
  · obtain ⟨used, split, -, colon⟩ := takes_ipv6 read
    rw [split]
    exact List.mem_append_left _ (colon trivial)

/-- What is parsed is characters of an address. -/
theorem isText_of_parse {cs : List Char} {addr : IpAddr} (parsed : parse cs = some addr) :
    ∀ c ∈ cs, IsText c := by
  have takes : Takes False cs [] := by
    rcases readIpAddr_eq_some_iff.mp (parse_eq_some_iff.mp parsed) with
      ⟨_, -, read⟩ | ⟨_, -, -, read⟩
    · exact takes_ipv4 read
    · exact (takes_ipv6 read).weaken False.elim
  obtain ⟨used, split, text, -⟩ := takes
  rw [split, List.append_nil]
  exact text

end IpAddr
