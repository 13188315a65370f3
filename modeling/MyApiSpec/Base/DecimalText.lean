import Mathlib.Data.Char
import Mathlib.Data.List.Lex
import Mathlib.Data.Nat.Digits.Defs

/-!
# Canonical decimal texts

The decimal text of an integer has no sign but a minus, and no leading zero. A program that reads such texts may
compare them as texts: the longer one is larger, and among texts of one length the lexicographic order is that of
the numbers.
-/

namespace MyApiSpec.Base

open List

variable {c : Char} {digits : List Char}

/-- The number of a text of decimal digits. -/
def decimalValue (digits : List Char) : Nat := Nat.ofDigitChars 10 digits 0

/-- Digits without a leading zero, at least one. -/
def positiveDigits : List Char → Bool
  | [] => false
  | c :: rest => c.isDigit && c ≠ '0' && rest.all Char.isDigit

/-- The digits of a number: `0`, or digits without a leading zero. -/
def canonicalDigits (digits : List Char) : Bool := digits = ['0'] || positiveDigits digits

theorem digitChar_of_isDigit (h : c.isDigit = true) : Nat.digitChar (c.toNat - '0'.toNat) = c := by
  simp only [Char.isDigit, Bool.and_eq_true, decide_eq_true_eq] at h
  have hlow : 48 ≤ c.toNat := h.1
  have hhigh : c.toNat ≤ 57 := h.2
  obtain ⟨d, hd⟩ : ∃ d, c.toNat = 48 + d := ⟨c.toNat - 48, by omega⟩
  have hc : c = Char.ofNat (48 + d) := by rw [← hd, Char.ofNat_toNat]
  have hd10 : d < 10 := by omega
  rw [hc]
  clear hc hd hlow hhigh h
  revert d
  decide

theorem digit_lt_ten (h : c.isDigit = true) : c.toNat - '0'.toNat < 10 := by
  simp only [Char.isDigit, Bool.and_eq_true, decide_eq_true_eq] at h
  have hhigh : c.toNat ≤ 57 := h.2
  have hzero : '0'.toNat = 48 := rfl
  omega

theorem positiveDigits_cons {rest : List Char} : positiveDigits (c :: rest) = true ↔
    c.isDigit = true ∧ c ≠ '0' ∧ ∀ d ∈ rest, d.isDigit = true := by
  simp [positiveDigits, and_assoc]

theorem canonicalDigits_digits (h : canonicalDigits digits = true) :
    ∀ c ∈ digits, c.isDigit = true := by
  simp only [canonicalDigits, Bool.or_eq_true, decide_eq_true_eq] at h
  rcases h with rfl | h
  · intro c hc
    obtain rfl := mem_singleton.mp hc
    rfl
  · cases digits with
    | nil => cases h
    | cons c rest =>
      obtain ⟨hc, -, hrest⟩ := positiveDigits_cons.mp h
      exact forall_mem_cons.mpr ⟨hc, hrest⟩

theorem canonicalDigits_length (h : canonicalDigits digits = true) : 0 < digits.length := by
  cases digits with
  | nil => cases h
  | cons c rest => exact Nat.succ_pos _

/-! ### Texts and numbers -/

theorem decimalValue_cons (c : Char) (rest : List Char) :
    decimalValue (c :: rest) = 10 ^ rest.length * (c.toNat - '0'.toNat) + decimalValue rest := by
  rw [decimalValue, Nat.ofDigitChars_cons, Nat.mul_zero, Nat.zero_add, Nat.ofDigitChars_eq_ofDigitChars_zero]
  rfl

/-- Appending digits to a positive number. -/
theorem toDigits_append {acc : Nat} (hacc : 0 < acc) : ∀ {digits : List Char}, (∀ c ∈ digits, c.isDigit = true) →
    Nat.toDigits 10 acc ++ digits = Nat.toDigits 10 (Nat.ofDigitChars 10 digits acc)
  | [], _ => by simp
  | c :: rest, h => by
    obtain ⟨hc, hrest⟩ := forall_mem_cons.mp h
    have hstep := Nat.toDigits_append_toDigits (by decide : 1 < 10) hacc (digit_lt_ten hc)
    rw [Nat.toDigits_of_lt_base (digit_lt_ten hc), digitChar_of_isDigit hc] at hstep
    rw [Nat.ofDigitChars_cons, ← toDigits_append (by omega) hrest, ← hstep, append_assoc]
    rfl

/-- Canonical digits are the digits of their number. -/
theorem toDigits_decimalValue (h : canonicalDigits digits = true) :
    Nat.toDigits 10 (decimalValue digits) = digits := by
  simp only [canonicalDigits, Bool.or_eq_true, decide_eq_true_eq] at h
  rcases h with rfl | h
  · decide
  · cases digits with
    | nil => cases h
    | cons c rest =>
      obtain ⟨hc, hzero, hrest⟩ := positiveDigits_cons.mp h
      have hpos : 0 < c.toNat - '0'.toNat := by
        refine Nat.pos_of_ne_zero fun h0 => hzero ?_
        rw [← digitChar_of_isDigit hc, h0]
        rfl
      rw [decimalValue, Nat.ofDigitChars_cons, Nat.mul_zero, Nat.zero_add, ← toDigits_append hpos hrest,
        Nat.toDigits_of_lt_base (digit_lt_ten hc), digitChar_of_isDigit hc]
      rfl

theorem positiveDigits_toDigits {n : Nat} (hn : 0 < n) : positiveDigits (Nat.toDigits 10 n) = true := by
  induction n using Nat.strongRecOn with
  | ind n ih =>
    rw [Nat.toDigits_eq_if (by decide)]
    split
    · next hlt =>
      have hone : ∀ d < 10, 0 < d → positiveDigits [d.digitChar] = true := by decide
      exact hone n hlt hn
    · next hge =>
      have hprefix := ih (n / 10) (by omega) (by omega)
      have hlast : (n % 10).digitChar.isDigit = true := by
        have hlt : n % 10 < 10 := Nat.mod_lt _ (by decide)
        generalize n % 10 = d at hlt
        revert d
        decide
      generalize Nat.toDigits 10 (n / 10) = digits at hprefix
      cases digits with
      | nil => cases hprefix
      | cons c rest =>
        obtain ⟨hc, hzero, hrest⟩ := positiveDigits_cons.mp hprefix
        refine positiveDigits_cons.mpr ⟨hc, hzero, ?_⟩
        exact forall_mem_append.mpr ⟨hrest, forall_mem_singleton.mpr hlast⟩

theorem canonicalDigits_toDigits (n : Nat) : canonicalDigits (Nat.toDigits 10 n) = true := by
  rcases n.eq_zero_or_pos with rfl | hn
  · decide
  · simp [canonicalDigits, positiveDigits_toDigits hn]

theorem decimalValue_toDigits (n : Nat) : decimalValue (Nat.toDigits 10 n) = n := Nat.ofDigitChars_ten_toDigits

/-! ### The order of texts -/

theorem decimalValue_lt_pow : ∀ {digits : List Char}, (∀ c ∈ digits, c.isDigit = true) →
    decimalValue digits < 10 ^ digits.length
  | [], _ => by decide
  | c :: rest, h => by
    obtain ⟨hc, hrest⟩ := forall_mem_cons.mp h
    have ih := decimalValue_lt_pow hrest
    have hdigit := digit_lt_ten hc
    rw [decimalValue_cons, length_cons, Nat.pow_succ]
    calc 10 ^ rest.length * (c.toNat - '0'.toNat) + decimalValue rest
        < 10 ^ rest.length * (c.toNat - '0'.toNat) + 10 ^ rest.length := by omega
      _ = 10 ^ rest.length * (c.toNat - '0'.toNat + 1) := by rw [Nat.mul_add, Nat.mul_one]
      _ ≤ 10 ^ rest.length * 10 := Nat.mul_le_mul_left _ (by omega)

/-- A larger leading digit decides. -/
theorem decimalValue_lt_of_head {d : Char} {l l' : List Char} (hc : c.isDigit = true) (hcd : c < d)
    (hl : ∀ c ∈ l, c.isDigit = true) (hlen : l.length = l'.length) :
    decimalValue (c :: l) < decimalValue (d :: l') := by
  have hlow : '0'.toNat ≤ c.toNat := by
    simp only [Char.isDigit, Bool.and_eq_true, decide_eq_true_eq] at hc
    exact hc.1
  have hstep : c.toNat - '0'.toNat + 1 ≤ d.toNat - '0'.toNat := by
    have hlt : c.toNat < d.toNat := hcd
    omega
  have hbound := decimalValue_lt_pow hl
  rw [decimalValue_cons, decimalValue_cons, ← hlen]
  calc 10 ^ l.length * (c.toNat - '0'.toNat) + decimalValue l
      < 10 ^ l.length * (c.toNat - '0'.toNat) + 10 ^ l.length := by omega
    _ = 10 ^ l.length * (c.toNat - '0'.toNat + 1) := by rw [Nat.mul_add, Nat.mul_one]
    _ ≤ 10 ^ l.length * (d.toNat - '0'.toNat) := Nat.mul_le_mul_left _ hstep
    _ ≤ 10 ^ l.length * (d.toNat - '0'.toNat) + decimalValue l' := Nat.le_add_right _ _

/-- Among texts of one length the lexicographic order is the order of the numbers. -/
theorem lt_iff_decimalValue_lt : ∀ {l l' : List Char}, (∀ c ∈ l, c.isDigit = true) →
    (∀ c ∈ l', c.isDigit = true) → l.length = l'.length → (l < l' ↔ decimalValue l < decimalValue l')
  | [], [], _, _, _ => by simp
  | c :: l, d :: l', h, h', hlen => by
    obtain ⟨hc, hl⟩ := forall_mem_cons.mp h
    obtain ⟨hd, hl'⟩ := forall_mem_cons.mp h'
    replace hlen : l.length = l'.length := by simpa using hlen
    rw [cons_lt_cons_iff]
    rcases lt_trichotomy c d with hcd | rfl | hcd
    · exact ⟨fun _ => decimalValue_lt_of_head hc hcd hl hlen, fun _ => .inl hcd⟩
    · rw [decimalValue_cons, decimalValue_cons, hlen, lt_iff_decimalValue_lt hl hl' hlen]
      simp
    · have hgt := decimalValue_lt_of_head hd hcd hl' hlen.symm
      refine ⟨fun hlt => ?_, fun hlt => absurd hgt hlt.asymm⟩
      rcases hlt with hlt | ⟨rfl, -⟩
      · exact absurd hcd hlt.asymm
      · exact absurd hcd (lt_irrefl c)

/-- The comparison by length and then as texts is that of the numbers. -/
theorem canonicalDigits_above {maximum : List Char} (hmax : canonicalDigits maximum = true)
    (h : canonicalDigits digits = true) :
    (maximum.length < digits.length ∨ (digits.length = maximum.length ∧ maximum < digits)) ↔
      decimalValue maximum < decimalValue digits := by
  -- a canonical text has at most `k` digits exactly when its number is below the `k`-th power
  have hshort : ∀ {l : List Char}, canonicalDigits l = true → ∀ {k}, 0 < k →
      (l.length ≤ k ↔ decimalValue l < 10 ^ k) := by
    intro l hl k hk
    rw [← Nat.length_toDigits_le_iff (by decide) hk, toDigits_decimalValue hl]
  have hbelow := decimalValue_lt_pow (canonicalDigits_digits hmax)
  have hbelow' := decimalValue_lt_pow (canonicalDigits_digits h)
  rcases lt_trichotomy maximum.length digits.length with hlt | heq | hgt
  · have hlarge := (hshort h (canonicalDigits_length hmax)).not.mp (by omega)
    exact ⟨fun _ => by omega, fun _ => .inl hlt⟩
  · rw [lt_iff_decimalValue_lt (canonicalDigits_digits hmax) (canonicalDigits_digits h) heq]
    omega
  · have hlarge := (hshort hmax (canonicalDigits_length h)).not.mp (by omega)
    omega

/-! ### Signed texts -/

/-- `0`, or digits without a leading zero behind an optional minus. -/
def canonicalSigned : List Char → Bool
  | '-' :: rest => positiveDigits rest
  | digits => canonicalDigits digits

/-- The number of a signed text. -/
def signedValue : List Char → Int
  | '-' :: rest => -(decimalValue rest : Int)
  | digits => decimalValue digits

theorem signed_of_digits (h : ∀ c ∈ digits, c.isDigit = true) :
    canonicalSigned digits = canonicalDigits digits ∧ signedValue digits = decimalValue digits := by
  unfold canonicalSigned signedValue
  split
  · next rest =>
    exact absurd (h '-' mem_cons_self) (by decide)
  · exact ⟨rfl, rfl⟩

theorem decimalValue_pos (h : positiveDigits digits = true) : 0 < decimalValue digits := by
  refine Nat.pos_of_ne_zero fun hzero => ?_
  have hcanonical : canonicalDigits digits = true := by simp [canonicalDigits, h]
  have hdigits := toDigits_decimalValue hcanonical
  rw [hzero] at hdigits
  rw [← hdigits] at h
  revert h
  decide

/-- A canonical text is a minus before the digits of a positive number, or the digits of a number. -/
theorem canonicalSigned_cases {text : List Char} (h : canonicalSigned text = true) :
    (∃ digits, text = '-' :: digits ∧ canonicalDigits digits = true ∧ 0 < decimalValue digits ∧
        signedValue text = -(decimalValue digits : Int)) ∨
      (text.head? ≠ some '-' ∧ canonicalDigits text = true ∧ signedValue text = decimalValue text) := by
  unfold canonicalSigned at h
  split at h
  · next digits => exact .inl ⟨digits, rfl, by simp [canonicalDigits, h], decimalValue_pos h, rfl⟩
  · next digits hminus =>
    have hdigits := canonicalDigits_digits h
    refine .inr ⟨fun hhead => ?_, h, (signed_of_digits hdigits).2⟩
    exact absurd (hdigits '-' (mem_of_head? hhead)) (by decide)

/-- The text of an integer. -/
theorem toList_toString (n : Int) : (toString n).toList =
    if 0 ≤ n then Nat.toDigits 10 n.toNat else '-' :: Nat.toDigits 10 (-n).toNat := by
  rw [Int.toString_eq_repr, Int.repr_eq_if]
  split <;> simp [Nat.repr_eq_ofList_toDigits]

/-- The canonical texts are the texts of the integers. -/
theorem canonicalSigned_iff {text : List Char} {n : Int} :
    (canonicalSigned text = true ∧ signedValue text = n) ↔ text = (toString n).toList := by
  rw [toList_toString]
  constructor
  · rintro ⟨htext, rfl⟩
    rcases canonicalSigned_cases htext with ⟨digits, rfl, hcanonical, hpos, hvalue⟩ | ⟨-, hcanonical, hvalue⟩
    · rw [hvalue, if_neg (by omega), Int.neg_neg, Int.toNat_natCast, toDigits_decimalValue hcanonical]
    · rw [hvalue, if_pos (Int.natCast_nonneg _), Int.toNat_natCast, toDigits_decimalValue hcanonical]
  · rintro rfl
    split
    · next hn =>
      have hcanonical := canonicalDigits_toDigits n.toNat
      obtain ⟨hsigned, hvalue⟩ := signed_of_digits (canonicalDigits_digits hcanonical)
      rw [hsigned, hvalue, decimalValue_toDigits, Int.toNat_of_nonneg hn]
      exact ⟨hcanonical, rfl⟩
    · next hn =>
      refine ⟨positiveDigits_toDigits (by omega), ?_⟩
      show -(decimalValue (Nat.toDigits 10 (-n).toNat) : Int) = n
      rw [decimalValue_toDigits]
      omega

end MyApiSpec.Base
