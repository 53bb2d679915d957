/-
Decimal numbers as text: digit strings of a fixed width, and signed
numbers with a fixed number of decimals.

# Digit strings

`fixed w n` is `n` in exactly `w` digits. Digit strings of one length are
told apart by their values (`eq_of_ofDigitChars_eq`), so a digit string
of the right length and value is `fixed` (`eq_fixed`), whatever it was
put together from; padding a number with zeros is one case
(`replicate_append_toDigits`).

# Numbers

A `Number` is `mantissa * 10 ^ (-scale)`. Its canonical text has no
leading zeros and exactly `scale` digits behind the point; `parse` takes
any text of a sign, digits, a point and digits. Reading the canonical
text gives the number back (`parseUnsigned_unsignedText`).
-/
import Mathlib.Data.List.Basic
import Mathlib.Data.List.TakeWhile
import Mathlib.Algebra.Order.Ring.Nat
import Mathlib.Algebra.Order.Ring.Int

namespace Lib.Decimal

-- ========================================================= digit strings

/-- Every character is a digit. -/
def Digits (l : List Char) : Prop := ∀ c ∈ l, c.isDigit = true

instance (l : List Char) : Decidable (Digits l) :=
  decidable_of_iff (l.all Char.isDigit = true) List.all_eq_true

/-- The number `n` in exactly `w` digits; higher digits are lost. -/
def fixed : Nat → Nat → List Char
  | 0, _ => []
  | w + 1, n => fixed w (n / 10) ++ [(n % 10).digitChar]

variable {l l₁ l₂ : List Char} {w n v s : Nat}

theorem Digits.append (h₁ : Digits l₁) (h₂ : Digits l₂) :
    Digits (l₁ ++ l₂) := by
  intro c hc
  cases List.mem_append.mp hc with
  | inl hleft => exact h₁ c hleft
  | inr hright => exact h₂ c hright

theorem digits_toDigits (n : Nat) : Digits (Nat.toDigits 10 n) :=
  fun _ hc => Nat.isDigit_of_mem_toDigits (by decide) (by decide) hc

theorem digits_replicate_zero (n : Nat) : Digits (List.replicate n '0') := by
  intro c hc
  obtain rfl := List.eq_of_mem_replicate hc
  rfl

@[simp] theorem length_fixed (w n : Nat) : (fixed w n).length = w := by
  induction w generalizing n with
  | zero => rfl
  | succ w ih => rw [fixed, List.length_append, ih, List.length_singleton]

theorem digits_fixed (w n : Nat) : Digits (fixed w n) := by
  induction w generalizing n with
  | zero => exact fun c hc => nomatch hc
  | succ w ih =>
      refine (ih (n / 10)).append fun c hc => ?_
      obtain rfl := List.mem_singleton.mp hc
      rw [Nat.isDigit_digitChar]
      exact decide_eq_true (Nat.mod_lt n (by decide))

/-- A digit is the digit of its value. -/
theorem toNat_lt_of_isDigit {c : Char} (hc : c.isDigit = true) :
    48 ≤ c.toNat ∧ c.toNat < 58 := by
  rw [Char.isDigit, Bool.and_eq_true, decide_eq_true_iff,
    decide_eq_true_iff] at hc
  have hlo : (48 : Nat) ≤ c.toNat := hc.1
  have hhi : c.toNat ≤ (57 : Nat) := hc.2
  omega

/-- The value of a digit string behind a number. -/
theorem ofDigitChars_append_eq (l₁ l₂ : List Char) :
    Nat.ofDigitChars 10 (l₁ ++ l₂) 0
      = 10 ^ l₂.length * Nat.ofDigitChars 10 l₁ 0
        + Nat.ofDigitChars 10 l₂ 0 := by
  rw [Nat.ofDigitChars_append, Nat.ofDigitChars_eq_ofDigitChars_zero]

/-- The value of a digit string is below the power of its length. -/
theorem ofDigitChars_lt (h : Digits l) :
    Nat.ofDigitChars 10 l 0 < 10 ^ l.length := by
  induction l with
  | nil => simp
  | cons c l ih =>
      have hc := toNat_lt_of_isDigit (h c List.mem_cons_self)
      have hl := ih fun d hd => h d (List.mem_cons_of_mem c hd)
      have hsplit := ofDigitChars_append_eq [c] l
      have hone : Nat.ofDigitChars 10 [c] 0 = c.toNat - 48 := by
        rw [Nat.ofDigitChars_cons, Nat.ofDigitChars_nil, Nat.mul_zero,
          Nat.zero_add]
        rfl
      rw [List.singleton_append, hone] at hsplit
      rw [hsplit, List.length_cons, Nat.pow_succ]
      have hle : 10 ^ l.length * (c.toNat - 48) ≤ 10 ^ l.length * 9 :=
        Nat.mul_le_mul_left _ (by omega)
      omega

/-- Digit strings of one length are told apart by their values. -/
theorem eq_of_ofDigitChars_eq (h₁ : Digits l₁) (h₂ : Digits l₂)
    (hlen : l₁.length = l₂.length)
    (h : Nat.ofDigitChars 10 l₁ 0 = Nat.ofDigitChars 10 l₂ 0) :
    l₁ = l₂ := by
  induction l₁ generalizing l₂ with
  | nil => exact (List.length_eq_zero_iff.mp hlen.symm).symm
  | cons c l₁ ih =>
      cases l₂ with
      | nil => cases hlen
      | cons d l₂ =>
          have hl : l₁.length = l₂.length := Nat.succ.inj hlen
          have hc := toNat_lt_of_isDigit (h₁ c List.mem_cons_self)
          have hd := toNat_lt_of_isDigit (h₂ d List.mem_cons_self)
          have hd₁ : Digits l₁ := fun x hx => h₁ x (List.mem_cons_of_mem c hx)
          have hd₂ : Digits l₂ := fun x hx => h₂ x (List.mem_cons_of_mem d hx)
          have hlt₁ := ofDigitChars_lt hd₁
          have hlt₂ := ofDigitChars_lt hd₂
          rw [Nat.ofDigitChars_cons, Nat.ofDigitChars_cons,
            Nat.ofDigitChars_eq_ofDigitChars_zero,
            Nat.ofDigitChars_eq_ofDigitChars_zero (l := l₂), hl] at h
          rw [hl] at hlt₁
          -- the heads are the quotients, the tails the remainders
          have hpos : 0 < 10 ^ l₂.length := Nat.pow_pos (by decide)
          have hhead : c.toNat - 48 = d.toNat - 48 := by
            have hdiv := congrArg (· / 10 ^ l₂.length) h
            simpa [Nat.mul_add_div hpos, Nat.div_eq_of_lt hlt₁,
              Nat.div_eq_of_lt hlt₂] using hdiv
          have hcd : c = d := by
            apply Char.toNat_inj.mp
            omega
          subst hcd
          rw [ih hd₁ hd₂ hl (Nat.add_left_cancel h)]

theorem ofDigitChars_fixed (h : n < 10 ^ w) :
    Nat.ofDigitChars 10 (fixed w n) 0 = n := by
  induction w generalizing n with
  | zero =>
      rw [fixed, Nat.ofDigitChars_nil]
      omega
  | succ w ih =>
      rw [Nat.pow_succ] at h
      rw [fixed, ofDigitChars_append_eq, ih (by omega),
        Nat.ofDigitChars_cons_digitChar_of_lt_ten (Nat.mod_lt n (by decide)),
        Nat.ofDigitChars_nil, List.length_singleton, Nat.pow_one,
        Nat.mul_zero, Nat.zero_add]
      exact Nat.div_add_mod n 10

/-- A digit string is its value in as many digits. -/
theorem eq_fixed (h : Digits l) :
    l = fixed l.length (Nat.ofDigitChars 10 l 0) :=
  eq_of_ofDigitChars_eq h (digits_fixed _ _) (length_fixed _ _).symm
    (ofDigitChars_fixed (ofDigitChars_lt h)).symm

/-- A number padded with zeros in front. -/
theorem replicate_append_toDigits (h : n < 10 ^ w) (hw : 0 < w) :
    List.replicate (w - (Nat.toDigits 10 n).length) '0' ++ Nat.toDigits 10 n
      = fixed w n := by
  have hle := (Nat.length_toDigits_le_iff (by decide) hw).mpr h
  apply eq_of_ofDigitChars_eq
  · exact (digits_replicate_zero _).append (digits_toDigits n)
  · exact digits_fixed w n
  · rw [List.length_append, List.length_replicate, length_fixed]
    omega
  · rw [ofDigitChars_append_eq, Nat.ofDigitChars_replicate_zero,
      Nat.ofDigitChars_ten_toDigits, ofDigitChars_fixed h]
    simp

/-- The high digits and the low digits. -/
theorem fixed_append_fixed (v s n : Nat) :
    fixed v (n / 10 ^ s) ++ fixed s (n % 10 ^ s) = fixed (v + s) n := by
  induction s generalizing n with
  | zero => simp [fixed]
  | succ s ih =>
      have hhigh : n / 10 ^ (s + 1) = n / 10 / 10 ^ s := by
        rw [Nat.pow_succ, Nat.mul_comm, Nat.div_div_eq_div_mul]
      have hmid : n % 10 ^ (s + 1) / 10 = n / 10 % 10 ^ s := by
        rw [Nat.pow_succ, Nat.mul_comm, Nat.mod_mul_right_div_self]
      have hlow : n % 10 ^ (s + 1) % 10 = n % 10 := by
        rw [Nat.pow_succ, Nat.mul_comm, Nat.mod_mul_right_mod]
      rw [fixed, hhigh, hmid, hlow, ← List.append_assoc, ih (n / 10),
        ← Nat.add_assoc, fixed]

-- =============================================================== numbers

/-- The number `mantissa * 10 ^ (-scale)`. -/
structure Number where
  mantissa : Int
  scale : Nat
deriving DecidableEq

/-- Two numbers of one value. -/
def Number.Same (a b : Number) : Prop :=
  a.mantissa * 10 ^ b.scale = b.mantissa * 10 ^ a.scale

theorem Number.Same.refl (a : Number) : a.Same a := rfl

/-- An unsigned number with `s` decimals, without leading zeros. -/
def unsignedText (s n : Nat) : List Char :=
  Nat.toDigits 10 (n / 10 ^ s)
    ++ if s = 0 then [] else '.' :: fixed s (n % 10 ^ s)

/-- The canonical text of a number. -/
def Number.text (d : Number) : List Char :=
  (if d.mantissa < 0 then ['-'] else [])
    ++ unsignedText d.scale d.mantissa.natAbs

/-- What stands in front of the point. -/
def whole (t : List Char) : List Char := t.takeWhile (· ≠ '.')

/-- What stands behind the point. -/
def frac (t : List Char) : List Char := (t.dropWhile (· ≠ '.')).drop 1

/-- An unsigned text: all digits, and how many are decimals. -/
def parseUnsigned (t : List Char) : Nat × Nat :=
  (Nat.ofDigitChars 10 (whole t ++ frac t) 0, (frac t).length)

/-- The number a text stands for. -/
def parse : List Char → Number
  | '-' :: t => ⟨-(parseUnsigned t).1, (parseUnsigned t).2⟩
  | '+' :: t => ⟨(parseUnsigned t).1, (parseUnsigned t).2⟩
  | t => ⟨(parseUnsigned t).1, (parseUnsigned t).2⟩

/-- The two parts by position. -/
theorem take_length_whole (t : List Char) :
    t.take (t.takeWhile (· ≠ '.')).length = whole t :=
  (List.prefix_iff_eq_take.mp (List.takeWhile_prefix _)).symm

theorem drop_length_whole (t : List Char) :
    t.drop ((t.takeWhile (· ≠ '.')).length + 1) = frac t := by
  have hsplit : t.drop (t.takeWhile (· ≠ '.')).length
      = t.dropWhile (· ≠ '.') := by
    calc t.drop (t.takeWhile (· ≠ '.')).length
        = (t.takeWhile (· ≠ '.') ++ t.dropWhile (· ≠ '.')).drop
            (t.takeWhile (· ≠ '.')).length := by
          rw [List.takeWhile_append_dropWhile]
      _ = t.dropWhile (· ≠ '.') := List.drop_left' rfl
  rw [frac, ← hsplit, List.drop_drop]

theorem length_frac (t : List Char) :
    (frac t).length = t.length - ((whole t).length + 1) := by
  rw [← drop_length_whole, List.length_drop, whole]

-- =============================================================== reading

theorem ne_point_of_isDigit {c : Char} (hc : c.isDigit = true) : c ≠ '.' := by
  rintro rfl
  cases hc

/-- A digit string is all in front of the point. -/
theorem whole_append (h : Digits l) (t : List Char) :
    whole (l ++ '.' :: t) = l := by
  rw [whole, List.takeWhile_append_of_pos]
  · simp
  · intro c hc
    exact decide_eq_true (ne_point_of_isDigit (h c hc))

theorem frac_append (h : Digits l) (t : List Char) :
    frac (l ++ '.' :: t) = t := by
  rw [frac, List.dropWhile_append_of_pos]
  · simp
  · intro c hc
    exact decide_eq_true (ne_point_of_isDigit (h c hc))

theorem whole_digits (h : Digits l) : whole l = l := by
  rw [whole, List.takeWhile_eq_self_iff]
  intro c hc
  exact decide_eq_true (ne_point_of_isDigit (h c hc))

theorem frac_digits (h : Digits l) : frac l = [] := by
  rw [frac, List.dropWhile_eq_nil_iff.mpr, List.drop_nil]
  intro c hc
  exact decide_eq_true (ne_point_of_isDigit (h c hc))

/-- Digits with a point behind all but the last `s` of them; without
decimals there is no point. -/
def point (s : Nat) (l₁ l₂ : List Char) : List Char :=
  l₁ ++ if s = 0 then [] else '.' :: l₂

theorem whole_point (h₁ : Digits l₁) (s : Nat) (l₂ : List Char) :
    whole (point s l₁ l₂) = l₁ := by
  rw [point]
  split
  · rw [List.append_nil, whole_digits h₁]
  · exact whole_append h₁ l₂

theorem frac_point (h₁ : Digits l₁) (hlen : l₂.length = s) :
    frac (point s l₁ l₂) = l₂ := by
  rw [point]
  split
  case isTrue hs =>
      rw [List.append_nil, frac_digits h₁]
      exact (List.length_eq_zero_iff.mp (hlen.trans hs)).symm
  case isFalse => exact frac_append h₁ l₂

/-- An unsigned number in two pieces. -/
theorem parseUnsigned_point (h₁ : Digits l₁) (hlen : l₂.length = s) :
    parseUnsigned (point s l₁ l₂)
      = (Nat.ofDigitChars 10 (l₁ ++ l₂) 0, s) := by
  rw [parseUnsigned, whole_point h₁, frac_point h₁ hlen, hlen]

theorem unsignedText_eq_point (s n : Nat) :
    unsignedText s n
      = point s (Nat.toDigits 10 (n / 10 ^ s)) (fixed s (n % 10 ^ s)) := rfl

theorem parseUnsigned_unsignedText (s n : Nat) :
    parseUnsigned (unsignedText s n) = (n, s) := by
  rw [unsignedText_eq_point,
    parseUnsigned_point (digits_toDigits _) (length_fixed _ _),
    ofDigitChars_append_eq, Nat.ofDigitChars_ten_toDigits, length_fixed,
    ofDigitChars_fixed (Nat.mod_lt _ (Nat.pow_pos (by decide))),
    Nat.div_add_mod]

/-- A text that begins with a digit has no sign. -/
theorem parse_of_digit {c : Char} {t : List Char} (hc : c.isDigit = true) :
    parse (c :: t)
      = ⟨(parseUnsigned (c :: t)).1, (parseUnsigned (c :: t)).2⟩ := by
  unfold parse
  split
  case h_1 h =>
      cases h
      cases hc
  case h_2 h =>
      cases h
      cases hc
  case h_3 => rfl

/-- Canonical texts begin with a digit. -/
theorem unsignedText_eq_cons (s n : Nat) :
    ∃ c t, unsignedText s n = c :: t ∧ c.isDigit = true := by
  cases hd : Nat.toDigits 10 (n / 10 ^ s) with
  | nil => exact absurd hd Nat.toDigits_ne_nil
  | cons c t =>
      refine ⟨c, t ++ if s = 0 then [] else '.' :: fixed s (n % 10 ^ s),
        ?_, ?_⟩
      · rw [unsignedText, hd]
        rfl
      · apply digits_toDigits (n / 10 ^ s)
        rw [hd]
        exact List.mem_cons_self

example : (Number.text ⟨-305, 2⟩) = "-3.05".toList := by decide

end Lib.Decimal
