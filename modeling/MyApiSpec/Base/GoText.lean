import Mathlib.Algebra.GroupWithZero.Nat
import Mathlib.Algebra.Ring.Int.Defs
import Mathlib.Data.List.DropRight

/-!
# Text of the Go standard library

Go strings are modelled by Lean strings. This module holds the parts of the standard
library that the modelled code calls on them: `strings.TrimSpace`, format characters,
`strconv.Atoi`, hexadecimal digests, and the byte length of the text `encoding/json` produces for
strings, integers, booleans and objects (HTML characters, the line separators and control
characters are escaped).
-/

namespace MyApiSpec.Base

open List

/-- `unicode.IsSpace`. -/
def isSpace (c : Char) : Bool :=
  let n := c.toNat
  (0x09 ≤ n && n ≤ 0x0d) || n = 0x20 || n = 0x85 || n = 0xa0 || n = 0x1680 ||
    (0x2000 ≤ n && n ≤ 0x200a) || n = 0x2028 || n = 0x2029 || n = 0x202f || n = 0x205f ||
    n = 0x3000

/-- `unicode.Is(unicode.Cf, c)`: the format characters. -/
def isFormat (c : Char) : Bool :=
  let n := c.toNat
  n = 0xad || (0x600 ≤ n && n ≤ 0x605) || n = 0x61c || n = 0x6dd || n = 0x70f ||
    (0x890 ≤ n && n ≤ 0x891) || n = 0x8e2 || n = 0x180e || (0x200b ≤ n && n ≤ 0x200f) ||
    (0x202a ≤ n && n ≤ 0x202e) || (0x2060 ≤ n && n ≤ 0x2064) || (0x2066 ≤ n && n ≤ 0x206f) ||
    n = 0xfeff || (0xfff9 ≤ n && n ≤ 0xfffb) || n = 0x110bd || n = 0x110cd ||
    (0x13430 ≤ n && n ≤ 0x1343f) || (0x1bca0 ≤ n && n ≤ 0x1bca3) ||
    (0x1d173 ≤ n && n ≤ 0x1d17a) || n = 0xe0001 || (0xe0020 ≤ n && n ≤ 0xe007f)

/-- `strings.TrimSpace`. -/
def trimSpace (s : String) : String :=
  String.ofList ((s.toList.dropWhile isSpace).reverse.dropWhile isSpace).reverse

private theorem dropWhile_of_prefix {α : Type} {p : α → Bool} {l l' : List α}
    (h : l' <+: l.dropWhile p) : l'.dropWhile p = l' := by
  cases l' with
  | nil => rfl
  | cons a l' =>
    obtain ⟨r, hr⟩ := h
    have hhead : (l.dropWhile p).head? = some a := by rw [← hr]; rfl
    have ha : p a = false := by
      have := head?_dropWhile_not p l
      rw [hhead] at this
      simpa using this
    rw [dropWhile_cons_of_neg (by simp [ha])]

/-- A trimmed text is trimmed. -/
@[simp]
theorem trimSpace_trimSpace (s : String) : trimSpace (trimSpace s) = trimSpace s := by
  have hleft := dropWhile_of_prefix ( rdropWhile_prefix isSpace (s.toList.dropWhile isSpace))
  show String.ofList (((String.ofList
    ((s.toList.dropWhile isSpace).rdropWhile isSpace)).toList.dropWhile isSpace).rdropWhile
      isSpace) = _
  rw [String.toList_ofList, hleft, rdropWhile_idempotent]
  rfl

/-- The value of a text of decimal digits. -/
def digitsValue (digits : List Char) : Nat :=
  digits.foldl (fun n c => 10 * n + (c.toNat - '0'.toNat)) 0

/-- `strconv.Atoi`, with the text of its error. -/
def atoi (s : String) : Except String Int :=
  let (sign, digits) : Int × List Char :=
    match s.toList with
    | '+' :: rest => (1, rest)
    | '-' :: rest => (-1, rest)
    | rest => (1, rest)
  let failure (reason : String) := "strconv.Atoi: parsing \"" ++ s ++ "\": " ++ reason
  if digits = [] ∨ ¬ digits.all Char.isDigit then .error (failure "invalid syntax")
  else
    let n := sign * digitsValue digits
    if n < -2 ^ 63 ∨ 2 ^ 63 ≤ n then .error (failure "value out of range") else .ok n

/-- A text of lower-case hexadecimal digits of a given length: what `hex.DecodeString` accepts and
`hex.EncodeToString` writes again. -/
def canonicalLowerHex (value : String) (expectedLength : Nat) : Bool :=
  value.toList.length = expectedLength && expectedLength % 2 = 0 &&
    value.toList.all (fun c => c.isDigit || ('a' ≤ c && c ≤ 'f'))

/-- Encoded size of one character inside a JSON string. -/
def jsonCharSize (c : Char) : Nat :=
  if c = '"' || c = '\\' || c = '\n' || c = '\r' || c = '\t' then 2
  else if c.toNat = 0x08 || c.toNat = 0x0c then 2
  else if c.toNat < 0x20 || c = '<' || c = '>' || c = '&' then 6
  else if c.toNat = 0x2028 || c.toNat = 0x2029 then 6
  else c.utf8Size

/-- Encoded size of a string value. -/
def jsonStringSize (s : String) : Nat := 2 + (s.toList.map jsonCharSize).sum

/-- Encoded size of an integer value. -/
def jsonIntSize (n : Int) : Nat := (toString n).utf8ByteSize

theorem utf8ByteSize_ofList_le : ∀ cs : List Char, (String.ofList cs).utf8ByteSize ≤ 4 * cs.length
  | [] => by simp
  | c :: cs => by
    have ih := utf8ByteSize_ofList_le cs
    have hc := c.utf8Size_le_four
    rw [String.ofList_cons, String.utf8ByteSize_append, String.utf8ByteSize_singleton, length_cons]
    omega

/-- A number with at most `d` digits is encoded in at most `4 * d` bytes. -/
theorem jsonIntSize_le {k d : Nat} (hd : 0 < d) (h : k < 10 ^ d) : jsonIntSize (k : Nat) ≤ 4 * d := by
  have hlen := (Nat.length_toDigits_le_iff (by decide) hd).mpr h
  have hsize := utf8ByteSize_ofList_le (Nat.toDigits 10 k)
  show k.repr.utf8ByteSize ≤ _
  rw [Nat.repr_eq_ofList_toDigits]
  omega

/-- Encoded size of a boolean value. -/
def jsonBoolSize (b : Bool) : Nat := if b then 4 else 5

/-- Encoded size of a struct field name; the tags hold no character that is escaped. -/
def jsonKeySize (name : String) : Nat := 2 + name.utf8ByteSize

/-- Encoded size of an object from the sizes of its keys and values. -/
def jsonObjectSize (fields : List (Nat × Nat)) : Nat :=
  if fields.isEmpty then 2
  else 1 + fields.length + (fields.map (fun f => f.1 + 1 + f.2)).sum

end MyApiSpec.Base
