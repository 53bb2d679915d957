/-
Numbers in host variables: what `create_coboldata` makes of a number from
the server, and what `create_realdata` makes of the item then.

# The digits

All numeric types place the digits of a value the same way. Where the
writes stay inside is `isSome_placeDigits_iff`; what they leave there is
`placeDigits_eq`: behind the digits the buffer is as it was, and a value
with fewer decimals than the item gets its zeros in front, over its first
digits.
-/
import CobolExercises.Database.HostVar
import CobolExercises.Lib.Packed

namespace CobolExercises.Database

open Lib Lib.Decimal

variable {n s k : Nat} {t final : List Char}

-- ============================================================ the digits

/-- The writes of `placeDigits`, in terms of the two parts of a value. -/
theorem placeDigits_parts (sign n : Nat) (power : Int)
    (t final : List Char) :
    placeDigits sign n power t final
      = (Buffer.write 0
          (List.replicate ((n : Int) - (whole t).length + power).toNat '0')
          final).bind fun final =>
        (Buffer.write (sign + ((n : Int) - (whole t).length + power))
          (whole t) final).bind fun final =>
        if power < 0 then
          (Buffer.write
            (sign + ((n : Int) - (whole t).length + power)
              + (whole t).length) (frac t) final).bind fun final =>
          Buffer.write 0
            (List.replicate (-power - (frac t).length).toNat '0') final
        else some final := by
  unfold placeDigits
  dsimp only
  rw [take_length_whole, drop_length_whole, length_frac]
  rfl

/-- Placing the digits of a value in a buffer of one byte more than the
item keeps to the buffer exactly when there are not too many digits in
front of the point, nor more than one too many behind it. -/
theorem isSome_placeDigits_iff (hs : s ≤ n) (t : List Char) :
    (placeDigits 0 n (-s) t (calloc (n + 1))).isSome = true
      ↔ (whole t).length + s ≤ n ∧ (0 < s → (frac t).length ≤ s + 1) := by
  -- with decimals one more than the item has still fits: the buffer has a byte
  -- for the NUL
  have hbehind (buf : List Char) (hbuf : buf.length = n + 1) :
      ((Buffer.write
          (0 + ((n : Int) - (whole t).length + -s) + (whole t).length)
          (frac t) buf).bind fun final =>
        Buffer.write 0
          (List.replicate (- -(s : Int) - (frac t).length).toNat '0')
          final).isSome = true
        ↔ (frac t).length ≤ s + 1 := by
    rw [Buffer.isSome_write_bind (p := True), hbuf, and_true,
      ← List.length_eq_zero_iff]
    · omega
    · intro buf' hbuf'
      rw [Buffer.write_isSome_iff, hbuf', hbuf, List.length_replicate,
        iff_true]
      omega
  rw [placeDigits_parts, Buffer.isSome_write_bind
    (p := (whole t).length + s ≤ n ∧ (0 < s → (frac t).length ≤ s + 1))]
  · rw [List.length_replicate, calloc, List.length_replicate]
    omega
  · intro buf hbuf
    rw [calloc, List.length_replicate] at hbuf
    rw [Buffer.isSome_write_bind (p := 0 < s → (frac t).length ≤ s + 1),
      hbuf, ← List.length_eq_zero_iff]
    · omega
    · intro buf' hbuf'
      by_cases hpos : 0 < s
      · rw [if_pos (by omega), forall_prop_of_true hpos]
        exact hbehind buf' (hbuf'.trans hbuf)
      · rw [if_neg (by omega)]
        simp [hpos]

/-- A value with at most the decimals of the item. The zeros for those it
does not have replace the first bytes of what was there before. -/
theorem placeDigits_eq (hw : (whole t).length + s ≤ n)
    (hf : (frac t).length ≤ s) (k : Nat) :
    placeDigits 0 n (-s) t (calloc (n + k))
      = some (List.replicate (s - (frac t).length) '0'
          ++ (List.replicate (n - s - (whole t).length) '0'
            ++ (whole t ++ (frac t ++ calloc (s - (frac t).length + k)))).drop
            (s - (frac t).length)) := by
  -- the buffer, cut where the digits go
  have hbuf : calloc (n + k)
      = calloc (n - s - (whole t).length) ++ (calloc (whole t).length
        ++ (calloc (frac t).length ++ calloc (s - (frac t).length + k))) := by
    simp only [calloc, List.replicate_append_replicate]
    congr 1
    omega
  have hzeros : ((n : Int) - (whole t).length + -s).toNat
      = n - s - (whole t).length := by omega
  rw [placeDigits_parts, hbuf, hzeros,
    Buffer.write_front (by simp [calloc]), Option.bind_some,
    Buffer.write_segment (by simp [calloc]) (by simp; omega),
    Option.bind_some]
  by_cases hs : 0 < s
  · rw [if_pos (by omega), ← List.append_assoc,
      Buffer.write_segment (by simp [calloc]) (by simp; omega),
      Option.bind_some, List.append_assoc]
    generalize hrest : List.replicate (n - s - (whole t).length) '0'
      ++ (whole t ++ (frac t ++ calloc (s - (frac t).length + k))) = rest
    -- the zeros for decimals that are missing are written at the front
    have hmissing : (- -(s : Int) - (frac t).length).toNat
        = s - (frac t).length := by omega
    have hlen : rest.length = n + k := by
      rw [← hrest]
      simp only [calloc, List.length_append, List.length_replicate]
      omega
    conv_lhs => rw [← List.take_append_drop (s - (frac t).length) rest]
    rw [hmissing, Buffer.write_front]
    rw [List.length_take, List.length_replicate, hlen]
    omega
  · rw [if_neg (by omega)]
    have hnone : (frac t).length = 0 := by omega
    rw [show s - (frac t).length = 0 by omega,
      List.length_eq_zero_iff.mp hnone]
    simp [calloc]

/-- A value with no more decimals than the item leaves the last byte of the
work buffer a NUL. -/
theorem nul_mem_of_placeDigits (hw : (whole t).length + s ≤ n)
    (hf : (frac t).length ≤ s)
    (h : placeDigits 0 n (-s) t (calloc (n + 1)) = some final) :
    '\x00' ∈ final := by
  rw [placeDigits_eq hw hf 1] at h
  rw [← Option.some.inj h]
  apply List.mem_append_right
  -- the NULs behind the decimals are more than the zeros replace
  have hnuls : calloc (s - (frac t).length + 1)
      = calloc (s - (frac t).length) ++ calloc 1 := by
    simp only [calloc, List.replicate_append_replicate]
  rw [hnuls, ← List.append_assoc, ← List.append_assoc, ← List.append_assoc,
    List.drop_append_of_le_length]
  · exact List.mem_append_right _ List.mem_cons_self
  · simp only [calloc, List.length_append, List.length_replicate]
    omega

/-- The work buffer keeps its size. -/
theorem length_of_placeDigits {sign : Nat} {power : Int} {final' : List Char}
    (h : placeDigits sign n power t final = some final') :
    final'.length = final.length := by
  rw [placeDigits_parts] at h
  obtain ⟨buf₁, h₁, h⟩ := Option.bind_eq_some_iff.mp h
  obtain ⟨buf₂, h₂, h⟩ := Option.bind_eq_some_iff.mp h
  have hlen := (Buffer.length_of_write h₂).trans (Buffer.length_of_write h₁)
  split at h
  case isTrue =>
      obtain ⟨buf₃, h₃, h₄⟩ := Option.bind_eq_some_iff.mp h
      rw [Buffer.length_of_write h₄, Buffer.length_of_write h₃, hlen]
  case isFalse =>
      rw [← Option.some.inj h, hlen]

/-- A value with all the decimals of the item. -/
theorem placeDigits_exact (hd : Digits (whole t ++ frac t))
    (hw : (whole t).length + s ≤ n) (hf : (frac t).length = s) (k : Nat) :
    placeDigits 0 n (-s) t (calloc (n + k))
      = some (fixed n (Nat.ofDigitChars 10 (whole t ++ frac t) 0)
          ++ calloc k) := by
  have hdigits : List.replicate (n - s - (whole t).length) '0'
        ++ (whole t ++ frac t)
      = fixed n (Nat.ofDigitChars 10 (whole t ++ frac t) 0) := by
    have hlen : (List.replicate (n - s - (whole t).length) '0'
        ++ (whole t ++ frac t)).length = n := by
      simp only [List.length_append, List.length_replicate]
      omega
    have heq := eq_fixed
      ((digits_replicate_zero (n - s - (whole t).length)).append hd)
    rw [hlen, ofDigitChars_append_eq, Nat.ofDigitChars_replicate_zero,
      Nat.mul_zero, Nat.mul_zero, Nat.zero_add] at heq
    exact heq
  rw [placeDigits_eq hw hf.le, hf, Nat.sub_self, List.replicate_zero,
    List.nil_append, List.drop_zero, Nat.zero_add, ← hdigits]
  simp only [List.append_assoc]

-- ====================================================== packed decimals

/-- The half bytes `pack` makes: digits, then the sign. -/
theorem pack_eq {signBits m : Nat} {skip : Bool} {ds : List Char}
    (hsign : signBits < 16) (hm : 0 < m)
    (hlen : ds.length = 2 * m - 1 - skip.toNat) (post : List Char) :
    ∃ bytes, pack signBits m skip (ds ++ post) = some bytes
      ∧ bytes.length = m
      ∧ Packed.halves bytes
        = (if skip then [0] else [])
          ++ (ds.map (fun c => c.toNat % 16) ++ [signBits]) := by
  induction m generalizing skip ds with
  | zero => cases hm
  | succ m ih =>
      cases skip with
      -- the first byte of an even number of digits: its upper half is zero
      | true =>
          rw [Bool.toNat_true] at hlen
          by_cases hlast : m = 0
          · subst hlast
            -- the only byte: no digit, or one, and the sign
            obtain rfl := List.length_eq_zero_iff.mp hlen
            refine ⟨[Char.ofNat (16 * 0 + signBits)], by simp [pack], rfl, ?_⟩
            rw [Packed.halves_ofNat (by decide) hsign]
            rfl
          · cases ds with
            | nil =>
                rw [List.length_nil] at hlen
                omega
            | cons d ds =>
                rw [List.length_cons] at hlen
                have hrest : ds.length = 2 * m - 1 - false.toNat := by
                  rw [Bool.toNat_false]
                  omega
                obtain ⟨bytes, hbytes, hcount, hhalves⟩ :=
                  ih (by omega) hrest
                refine ⟨Char.ofNat (16 * 0 + d.toNat % 16) :: bytes,
                  by simp [pack, hlast, hbytes], by simp [hcount], ?_⟩
                rw [Packed.halves_ofNat (by decide)
                  (Nat.mod_lt _ (by decide)), hhalves]
                rfl
      -- two digits in a byte, or one and the sign
      | false =>
          rw [Bool.toNat_false] at hlen
          cases ds with
          | nil =>
              rw [List.length_nil] at hlen
              omega
          | cons d ds =>
              rw [List.length_cons] at hlen
              by_cases hlast : m = 0
              · subst hlast
                obtain rfl := List.length_eq_zero_iff.mp
                  (show ds.length = 0 by omega)
                refine ⟨[Char.ofNat (16 * (d.toNat % 16) + signBits)],
                  by simp [pack], rfl, ?_⟩
                rw [Packed.halves_ofNat (Nat.mod_lt _ (by decide)) hsign]
                rfl
              · cases ds with
                | nil =>
                    rw [List.length_nil] at hlen
                    omega
                | cons e ds =>
                    rw [List.length_cons] at hlen
                    have hrest : ds.length = 2 * m - 1 - false.toNat := by
                      rw [Bool.toNat_false]
                      omega
                    obtain ⟨bytes, hbytes, hcount, hhalves⟩ :=
                      ih (by omega) hrest
                    refine ⟨Char.ofNat (16 * (d.toNat % 16) + e.toNat % 16)
                        :: bytes,
                      by simp [pack, hlast, hbytes], by simp [hcount], ?_⟩
                    rw [Packed.halves_ofNat (Nat.mod_lt _ (by decide))
                      (Nat.mod_lt _ (by decide)), hhalves]
                    rfl

/-- Reading past the end of the digits. -/
theorem pack_eq_none {signBits m : Nat} {skip : Bool} {ds : List Char}
    (hlen : ds.length < 2 * m - 1 - skip.toNat) :
    pack signBits m skip ds = none := by
  induction m generalizing skip ds with
  | zero => omega
  | succ m ih =>
      cases skip with
      | true =>
          rw [Bool.toNat_true] at hlen
          have hm : m ≠ 0 := by omega
          cases ds with
          | nil => simp [pack, hm]
          | cons d ds =>
              rw [List.length_cons] at hlen
              have hrest : pack signBits m false ds = none :=
                ih (by rw [Bool.toNat_false]; omega)
              simp [pack, hm, hrest]
      | false =>
          rw [Bool.toNat_false] at hlen
          cases ds with
          | nil => simp [pack]
          | cons d ds =>
              rw [List.length_cons] at hlen
              have hm : m ≠ 0 := by omega
              cases ds with
              | nil => simp [pack, hm]
              | cons e ds =>
                  rw [List.length_cons] at hlen
                  have hrest : pack signBits m false ds = none :=
                    ih (by rw [Bool.toNat_false]; omega)
                  simp [pack, hm, hrest]

/-- A digit is found again in its half byte. -/
theorem sprintDigit_mod {c : Char} (hc : c.isDigit = true) :
    sprintDigit (c.toNat % 16) = some c := by
  obtain ⟨hlo, hhi⟩ := toNat_lt_of_isDigit hc
  rw [sprintDigit, if_pos (by omega)]
  congr 1
  apply Char.toNat_inj.mp
  rw [Nat.toNat_digitChar_of_lt_ten (by omega)]
  omega

/-- `unpack` gives the digits back. -/
theorem unpack_eq {skip : Bool} {signBits : Nat} {ds bytes : List Char}
    (hd : Digits ds)
    (h : Packed.halves bytes
      = (if skip then [0] else [])
        ++ (ds.map (fun c => c.toNat % 16) ++ [signBits])) :
    unpack skip bytes = some ds := by
  induction bytes generalizing skip ds with
  | nil =>
      have hlen := congrArg List.length h
      simp [Packed.halves] at hlen
  | cons b bytes ih =>
      have hlen : 2 * (bytes.length + 1)
          = (if skip then 1 else 0) + (ds.length + 1) := by
        have hcount := congrArg List.length h
        rw [Packed.length_halves, List.length_cons] at hcount
        rw [hcount, List.length_append, List.length_append, List.length_map,
          List.length_singleton, apply_ite List.length, List.length_singleton,
          List.length_nil]
      rw [Packed.halves] at h
      by_cases hlast : bytes = []
      -- the last byte has the sign in its lower half
      · subst hlast
        cases skip with
        | true =>
            have hnone : ds.length = 0 := by
              rw [if_pos rfl, List.length_nil] at hlen
              omega
            obtain rfl := List.length_eq_zero_iff.mp hnone
            simp [unpack]
        | false =>
            cases ds with
            | nil =>
                rw [if_neg Bool.false_ne_true, List.length_nil] at hlen
                omega
            | cons d ds =>
                have hnone : ds.length = 0 := by
                  rw [if_neg Bool.false_ne_true, List.length_nil,
                    List.length_cons] at hlen
                  omega
                obtain rfl := List.length_eq_zero_iff.mp hnone
                have hupper : b.toNat / 16 = d.toNat % 16 :=
                  (List.cons.inj h).1
                have hdigit := sprintDigit_mod (hd d List.mem_cons_self)
                simp [unpack, hupper, hdigit]
      -- a byte in front of it; only the first one skips its upper half
      · have hpos := List.length_pos_iff.mpr hlast
        cases skip with
        | true =>
            cases ds with
            | nil =>
                rw [if_pos rfl, List.length_nil] at hlen
                omega
            | cons d ds =>
                have htail := (List.cons.inj h).2
                have hlower : b.toNat % 16 = d.toNat % 16 :=
                  (List.cons.inj htail).1
                have hdigit := sprintDigit_mod (hd d List.mem_cons_self)
                have hrest : unpack false bytes = some ds := ih
                  (fun c hc => hd c (List.mem_cons_of_mem d hc))
                  (List.cons.inj htail).2
                simp [unpack, hlast, hlower, hdigit, hrest]
        | false =>
            cases ds with
            | nil =>
                rw [if_neg Bool.false_ne_true, List.length_nil] at hlen
                omega
            | cons d ds =>
                cases ds with
                | nil =>
                    rw [if_neg Bool.false_ne_true, List.length_cons,
                      List.length_nil] at hlen
                    omega
                | cons e ds =>
                    have hupper : b.toNat / 16 = d.toNat % 16 :=
                      (List.cons.inj h).1
                    have htail := (List.cons.inj h).2
                    have hlower : b.toNat % 16 = e.toNat % 16 :=
                      (List.cons.inj htail).1
                    have hmem : e ∈ d :: e :: ds := by simp
                    have hd₁ := sprintDigit_mod (hd d List.mem_cons_self)
                    have hd₂ := sprintDigit_mod (hd e hmem)
                    have hrest : unpack false bytes = some ds := ih
                      (fun c hc => hd c (List.mem_cons_of_mem d
                        (List.mem_cons_of_mem e hc)))
                      (List.cons.inj htail).2
                    simp [unpack, hlast, hupper, hlower, hd₁, hd₂, hrest]

-- ============================================================= the point

theorem ne_nul_of_isDigit {c : Char} (hc : c.isDigit = true) :
    c ≠ '\x00' := by
  rintro rfl
  cases hc

/-- A string ends at its NUL. -/
theorem cstring_append_calloc {l : List Char} (h : ∀ c ∈ l, c ≠ '\x00')
    (k : Nat) : cstring (l ++ calloc k) = l := by
  have hnul : (calloc k).takeWhile (· ≠ '\x00') = [] := by
    cases k with
    | zero => rfl
    | succ k => simp [calloc, List.replicate_succ]
  rw [cstring, List.takeWhile_append_of_pos, hnul, List.append_nil]
  intro c hc
  exact decide_eq_true (h c hc)

/-- A buffer with a NUL in it has a string with an end. -/
theorem strlen_isSome_of_mem {buf : List Char} (h : '\x00' ∈ buf) :
    (strlen buf).isSome = true := by
  have hlt : (cstring buf).length < buf.length := by
    refine lt_of_le_of_ne (List.takeWhile_prefix _).length_le fun heq => ?_
    have hall : cstring buf = buf :=
      (List.takeWhile_prefix _).eq_of_length heq
    rw [← hall] at h
    have hne := List.mem_takeWhile_imp h
    exact absurd hne (by decide)
  rw [strlen, if_pos hlt]
  rfl

/-- The point goes in front of the last `s` characters if there is
something in front of it. -/
theorem cstring_insertDecimalPoint {l₁ l₂ : List Char}
    (h : ∀ c ∈ l₁ ++ l₂, c ≠ '\x00') (hlen : l₂.length = s)
    (hne : l₁ ≠ []) (hs : 0 < s) :
    cstring (insertDecimalPoint (l₁ ++ l₂ ++ calloc 2)
        ((l₁ ++ l₂).length + 1) (-s))
      = l₁ ++ '.' :: l₂ := by
  have hbefore : (cstring (l₁ ++ l₂ ++ calloc 2)).length
      = l₁.length + s := by
    rw [cstring_append_calloc h, List.length_append, hlen]
  have hpos := List.length_pos_iff.mpr hne
  have hn : (- -(s : Int)).toNat = s := by omega
  unfold insertDecimalPoint
  dsimp only
  rw [hbefore, hn, if_neg (by rw [List.length_append, hlen]; omega),
    if_neg (by omega), Nat.add_sub_cancel]
  have htake : (l₁ ++ l₂ ++ calloc 2).take l₁.length = l₁ := by
    rw [List.append_assoc, List.take_left]
  have hmid : ((l₁ ++ l₂ ++ calloc 2).drop l₁.length).take s = l₂ := by
    rw [List.append_assoc, List.drop_left, ← hlen, List.take_left]
  have hdrop : (l₁ ++ l₂ ++ calloc 2).drop (l₁.length + s + 1)
      = calloc 1 := by
    rw [← hlen, ← List.length_append, ← List.drop_drop, List.drop_left]
    rfl
  rw [htake, hmid, hdrop, ← List.cons_append, ← List.append_assoc]
  apply cstring_append_calloc
  intro c hc
  rcases List.mem_append.mp hc with hleft | hright
  · exact h c (List.mem_append_left _ hleft)
  · rcases List.mem_cons.mp hright with rfl | hright
    · decide
    · exact h c (List.mem_append_right _ hright)

/-- With nothing in front of it no point is put in. -/
theorem cstring_insertDecimalPoint_of_le {l : List Char}
    (h : ∀ c ∈ l, c ≠ '\x00') (hlen : l.length ≤ s) (k : Nat) (d : Nat) :
    cstring (insertDecimalPoint (l ++ calloc k) d (-s)) = l := by
  unfold insertDecimalPoint
  dsimp only
  rw [cstring_append_calloc h]
  split
  · exact cstring_append_calloc h k
  · rw [if_pos (by omega), cstring_append_calloc h]

-- ============================================================= the items

/-- The digits of a negative number, the sign in the last one. -/
def overpunched : Nat → Nat → List Char
  | 0, _ => []
  | w + 1, m =>
      fixed w (m / 10) ++ [typeTcNegativeFinalNumber.getD (m % 10) '\x00']

/-- An item of a numeric type with `n` digits holds the integer `m`: the
representations of COBOL, the scale left out. -/
def HostType.Holds (type : HostType) (n : Nat) (m : Int)
    (bytes : List Char) : Prop :=
  m.natAbs < 10 ^ n ∧
  match type with
  | .unsignedNumber => 0 ≤ m ∧ bytes = fixed n m.natAbs
  | .signedNumberTc =>
      bytes = if m < 0 then overpunched n m.natAbs else fixed n m.natAbs
  | .signedNumberLs =>
      bytes = (if m < 0 then '-' else '+') :: fixed n m.natAbs
  | .unsignedNumberPd =>
      0 ≤ m ∧ Packed.halves bytes
        = (if skipFirst n then [0] else [])
          ++ ((fixed n m.natAbs).map (fun c => c.toNat % 16) ++ [15])
  | .signedNumberPd =>
      Packed.halves bytes
        = (if skipFirst n then [0] else [])
          ++ ((fixed n m.natAbs).map (fun c => c.toNat % 16)
            ++ [if m < 0 then 13 else 12])
  | _ => False

/-- The bytes of an item. -/
def SqlVar.size (sv : SqlVar) : Nat :=
  match sv.type with
  | .signedNumberLs => sv.length + 1
  | .unsignedNumberPd | .signedNumberPd => packedLength sv.length
  | .japanese => sv.length * 2
  | .alphanumericVarying => sv.length + 4
  | .japaneseVarying => sv.length * 2 + 4
  | _ => sv.length

/-- The text an item with `n` digits, `s` of them decimals, is sent as. -/
def digitsText (n s m : Nat) : List Char :=
  point s (fixed (n - s) (m / 10 ^ s)) (fixed s (m % 10 ^ s))

/-- The digits in front of the point and those behind it. -/
theorem fixed_split (hs : s ≤ n) (m : Nat) :
    fixed (n - s) (m / 10 ^ s) ++ fixed s (m % 10 ^ s) = fixed n m := by
  rw [fixed_append_fixed, Nat.sub_add_cancel hs]

/-- The text of the digits is read back as its number. -/
theorem parseUnsigned_digitsText (hs : s ≤ n) {m : Nat} (hm : m < 10 ^ n) :
    parseUnsigned (digitsText n s m) = (m, s) := by
  rw [digitsText, parseUnsigned_point (digits_fixed _ _) (length_fixed _ _),
    fixed_split hs, ofDigitChars_fixed hm]

/-- The text of a signed item. -/
theorem parse_signed_digitsText (hs : s ≤ n) {m : Int}
    (hm : m.natAbs < 10 ^ n) :
    parse ((if m < 0 then '-' else '+') :: digitsText n s m.natAbs)
      = ⟨m, s⟩ := by
  by_cases hneg : m < 0
  · rw [if_pos hneg, parse, parseUnsigned_digitsText hs hm]
    simp only [Number.mk.injEq, and_true]
    omega
  · rw [if_neg hneg, parse, parseUnsigned_digitsText hs hm]
    simp only [Number.mk.injEq, and_true]
    omega

/-- The text of an unsigned item. -/
theorem parse_digitsText (hs : s < n) {m : Nat} (hm : m < 10 ^ n) :
    parse (digitsText n s m) = ⟨m, s⟩ := by
  have hread := parseUnsigned_digitsText hs.le hm
  cases hd : fixed (n - s) (m / 10 ^ s) with
  | nil =>
      have hlen := congrArg List.length hd
      rw [length_fixed, List.length_nil] at hlen
      omega
  | cons c l =>
      have hc : c.isDigit = true := by
        apply digits_fixed (n - s) (m / 10 ^ s)
        rw [hd]
        exact List.mem_cons_self
      rw [digitsText, hd] at hread ⊢
      rw [point, List.cons_append] at hread ⊢
      rw [parse_of_digit hc, hread]

-- ============================================================ to the server

/-- A string of digits behind something, with the point put in. -/
theorem realdataText_append_fixed (front : List Char)
    (hfront : ∀ c ∈ front, c ≠ '\x00') (hs : s ≤ n)
    (hne : front = [] → s < n) (m : Nat) :
    realdataText (-s) (front ++ fixed n m) = front ++ digitsText n s m := by
  have hnul : ∀ c ∈ front ++ fixed n m, c ≠ '\x00' := by
    intro c hc
    rcases List.mem_append.mp hc with hleft | hright
    · exact hfront c hleft
    · exact ne_nul_of_isDigit (digits_fixed n m c hright)
  unfold realdataText
  dsimp only
  by_cases hpos : 0 < s
  · have hif : (-(s : Int)) < 0 := by omega
    rw [if_pos hif, if_pos hif, Nat.add_assoc, Nat.add_sub_cancel_left]
    rw [← fixed_split hs m, ← List.append_assoc] at hnul ⊢
    rw [cstring_insertDecimalPoint hnul (length_fixed _ _) _ hpos, digitsText,
      point, if_neg hpos.ne', List.append_assoc]
    intro hnil
    obtain ⟨hfront', hfixed⟩ := List.append_eq_nil_iff.mp hnil
    have hlen := congrArg List.length hfixed
    rw [length_fixed, List.length_nil] at hlen
    have := hne hfront'
    omega
  · obtain rfl : s = 0 := by omega
    have hif : ¬(-((0 : Nat) : Int)) < 0 := by decide
    rw [if_neg hif, cstring_append_calloc hnul, digitsText, point,
      if_pos rfl, List.append_nil, Nat.pow_zero, Nat.div_one, Nat.sub_zero]

/-- Without integer digits an unsigned item is sent without its point. -/
theorem realdataUnsigned_of_all_decimals (m : Nat) :
    realdataUnsigned (-n) (fixed n m) = fixed n m := by
  have hnul : ∀ c ∈ fixed n m, c ≠ '\x00' := fun c hc =>
    ne_nul_of_isDigit (digits_fixed n m c hc)
  unfold realdataUnsigned realdataText
  dsimp only
  split
  · rw [cstring_insertDecimalPoint_of_le hnul (length_fixed n m).le]
  · exact cstring_append_calloc hnul _

/-- What the last digit says. -/
theorem typeTcIsPositive_digit {c : Char} (hc : c.isDigit = true) :
    typeTcIsPositive c = (true, c) := if_pos hc

/-- The last byte of a negative number gives sign and digit. -/
theorem typeTcIsPositive_negative {d : Nat} (hd : d < 10) :
    typeTcIsPositive (typeTcNegativeFinalNumber.getD d '\x00')
      = (false, d.digitChar) := by
  revert d
  decide

/-- The item's last byte becomes a sign in front and a last digit. -/
theorem realdataTc_concat {l : List Char} {w : Nat} (hlen : l.length = w)
    (power : Int) (c : Char) :
    realdataTc (w + 1) power (l ++ [c])
      = realdataText power
          ((if (typeTcIsPositive c).1 then '+' else '-')
            :: (l ++ [(typeTcIsPositive c).2])) := by
  subst hlen
  have hlast : (l ++ [c]).getD l.length '\x00' = c := by simp
  unfold realdataTc
  dsimp only
  rw [List.getD_cons_succ, hlast, List.set_cons_succ,
    List.set_append_right _ _ le_rfl, Nat.sub_self]
  rfl

/-- A number that is not negative is sent with a plus. -/
theorem realdataTc_nonneg (hs : s ≤ n) (m : Nat) (hn : 0 < n) :
    realdataTc n (-s) (fixed n m) = '+' :: digitsText n s m := by
  obtain ⟨w, rfl⟩ : ∃ w, n = w + 1 := ⟨n - 1, by omega⟩
  have hdigit : (m % 10).digitChar.isDigit = true :=
    digits_fixed (w + 1) m _ (List.mem_append_right _ List.mem_cons_self)
  rw [fixed, realdataTc_concat (length_fixed _ _),
    typeTcIsPositive_digit hdigit, if_pos rfl]
  exact realdataText_append_fixed ['+'] (by simp) hs (by simp) m

/-- A negative one with a minus, and its plain last digit. -/
theorem realdataTc_negative (hs : s ≤ n) (m : Nat) (hn : 0 < n) :
    realdataTc n (-s) (overpunched n m) = '-' :: digitsText n s m := by
  obtain ⟨w, rfl⟩ : ∃ w, n = w + 1 := ⟨n - 1, by omega⟩
  rw [overpunched, realdataTc_concat (length_fixed _ _),
    typeTcIsPositive_negative (Nat.mod_lt m (by decide)),
    if_neg Bool.false_ne_true]
  exact realdataText_append_fixed ['-'] (by simp) hs (by simp) m

/-- With a sign in front of the digits. -/
theorem realdataText_signed (hs : s ≤ n) (m : Int) :
    realdataText (-s) ((if m < 0 then '-' else '+') :: fixed n m.natAbs)
      = (if m < 0 then '-' else '+') :: digitsText n s m.natAbs := by
  refine realdataText_append_fixed [if m < 0 then '-' else '+'] ?_ hs
    (by simp) m.natAbs
  intro c hc
  obtain rfl := List.mem_singleton.mp hc
  split <;> decide

/-- What the item is sent as, whatever its type: the digits with the point
in its place, and a sign if the type has one. -/
theorem createRealdata_of_holds {table : HostTable} {mem : Storage}
    {sv : SqlVar} {index : Nat} {m : Int}
    (hn : 0 < sv.length) (hpower : sv.power = -s) (hs : s ≤ sv.length)
    (hunsigned : sv.type = .unsignedNumber ∨ sv.type = .unsignedNumberPd →
      s < sv.length)
    (h : sv.type.Holds sv.length m
      (mem.read (sv.elementAddr table index) sv.size)) :
    ∃ r, createRealdata table mem sv index = some r ∧ parse r = ⟨m, s⟩ := by
  obtain ⟨type, n, power, addr⟩ := sv
  dsimp only at hn hpower hs hunsigned h
  subst hpower
  have hdig := digits_fixed n m.natAbs
  unfold createRealdata
  cases type with
  | unsignedNumber =>
      obtain ⟨hlt, hpos, hbytes⟩ := h
      have hsn := hunsigned (.inl rfl)
      refine ⟨digitsText n s m.natAbs, ?_, ?_⟩
      · dsimp only [SqlVar.size] at hbytes ⊢
        rw [hbytes, realdataUnsigned]
        exact congrArg some
          (realdataText_append_fixed [] (by simp) hs (fun _ => hsn) _)
      · rw [parse_digitsText hsn hlt]
        simp only [Number.mk.injEq, and_true]
        omega
  | signedNumberTc =>
      obtain ⟨hlt, hbytes⟩ := h
      refine ⟨(if m < 0 then '-' else '+') :: digitsText n s m.natAbs, ?_,
        parse_signed_digitsText hs hlt⟩
      dsimp only [SqlVar.size] at hbytes ⊢
      rw [hbytes]
      split
      · rw [realdataTc_negative hs _ hn]
      · rw [realdataTc_nonneg hs _ hn]
  | signedNumberLs =>
      obtain ⟨hlt, hbytes⟩ := h
      refine ⟨(if m < 0 then '-' else '+') :: digitsText n s m.natAbs, ?_,
        parse_signed_digitsText hs hlt⟩
      dsimp only [SqlVar.size] at hbytes ⊢
      rw [hbytes, realdataLs]
      exact congrArg some (realdataText_signed hs m)
  | unsignedNumberPd =>
      obtain ⟨hlt, hpos, hbytes⟩ := h
      have hsn := hunsigned (.inr rfl)
      refine ⟨digitsText n s m.natAbs, ?_, ?_⟩
      · dsimp only [SqlVar.size] at hbytes ⊢
        rw [realdataUnsignedPd, unpack_eq hdig hbytes]
        exact congrArg some
          (realdataText_append_fixed [] (by simp) hs (fun _ => hsn) _)
      · rw [parse_digitsText hsn hlt]
        simp only [Number.mk.injEq, and_true]
        omega
  | signedNumberPd =>
      obtain ⟨hlt, hbytes⟩ := h
      refine ⟨(if m < 0 then '-' else '+') :: digitsText n s m.natAbs, ?_,
        parse_signed_digitsText hs hlt⟩
      dsimp only [SqlVar.size] at hbytes ⊢
      -- the sign is the half byte 12 or 13
      have hsign := Packed.toNat_getLastD_mod '\x00'
        (hbytes.trans (List.append_assoc _ _ _).symm)
      rw [realdataSignedPd, unpack_eq hdig hbytes, hsign]
      have hchar : (if (if m < 0 then 13 else 12) = 12 then '+' else '-')
          = if m < 0 then '-' else '+' := by
        split <;> rfl
      rw [hchar]
      exact congrArg some (realdataText_signed hs m)
  | alphanumeric => exact absurd h.2 id
  | japanese => exact absurd h.2 id
  | alphanumericVarying => exact absurd h.2 id
  | japaneseVarying => exact absurd h.2 id
  | other => exact absurd h.2 id

/-- Unsigned items with decimals only are sent without a point. -/
theorem createRealdata_of_all_decimals {table : HostTable} {mem : Storage}
    {sv : SqlVar} {index : Nat} {m : Int}
    (htype : sv.type = .unsignedNumber ∨ sv.type = .unsignedNumberPd)
    (hpower : sv.power = -sv.length)
    (h : sv.type.Holds sv.length m
      (mem.read (sv.elementAddr table index) sv.size)) :
    0 ≤ m ∧ createRealdata table mem sv index
      = some (fixed sv.length m.natAbs) := by
  obtain ⟨type, n, power, addr⟩ := sv
  dsimp only at htype hpower h
  subst hpower
  unfold createRealdata
  rcases htype with rfl | rfl
  · obtain ⟨-, hpos, hbytes⟩ := h
    refine ⟨hpos, ?_⟩
    dsimp only [SqlVar.size] at hbytes ⊢
    rw [hbytes, realdataUnsigned_of_all_decimals]
  · obtain ⟨-, hpos, hbytes⟩ := h
    refine ⟨hpos, ?_⟩
    dsimp only [SqlVar.size] at hbytes ⊢
    rw [realdataUnsignedPd, unpack_eq (digits_fixed n m.natAbs) hbytes]
    exact congrArg some (realdataUnsigned_of_all_decimals m.natAbs)

/-- A digit string read as a number. -/
theorem parse_fixed (hn : 0 < n) {m : Nat} (hm : m < 10 ^ n) :
    parse (fixed n m) = ⟨m, 0⟩ := by
  have hread := parse_digitsText hn hm
  rw [digitsText, point, if_pos rfl, List.append_nil, Nat.pow_zero,
    Nat.div_one, Nat.sub_zero] at hread
  exact hread

-- ========================================================== from the server

theorem whole_unsignedText (s k : Nat) :
    whole (unsignedText s k) = Nat.toDigits 10 (k / 10 ^ s) := by
  rw [unsignedText_eq_point, whole_point (digits_toDigits _)]

theorem frac_unsignedText (s k : Nat) :
    frac (unsignedText s k) = fixed s (k % 10 ^ s) := by
  rw [unsignedText_eq_point,
    frac_point (digits_toDigits _) (length_fixed _ _)]

/-- How many digits a number has in front of its point. -/
theorem length_whole_le (hs : s < n) {m : Nat} (hm : m < 10 ^ n) :
    (Nat.toDigits 10 (m / 10 ^ s)).length + s ≤ n := by
  have hpow : 10 ^ n = 10 ^ (n - s) * 10 ^ s := by
    rw [← Nat.pow_add, Nat.sub_add_cancel hs.le]
  have hlt : m / 10 ^ s < 10 ^ (n - s) := by
    rw [Nat.div_lt_iff_lt_mul (Nat.pow_pos (by decide)), ← hpow]
    exact hm
  have hle := (Nat.length_toDigits_le_iff (by decide)
    (Nat.sub_pos_of_lt hs)).mpr hlt
  omega

/-- A number of the server in an item with integer digits. -/
theorem placeDigits_unsignedText (hs : s < n) {m : Nat} (hm : m < 10 ^ n)
    (k : Nat) :
    placeDigits 0 n (-s) (unsignedText s m) (calloc (n + k))
      = some (fixed n m ++ calloc k) := by
  have hparse := congrArg Prod.fst (parseUnsigned_unsignedText s m)
  rw [parseUnsigned] at hparse
  rw [placeDigits_exact _ _ _ k]
  · exact congrArg (fun v => some (fixed n v ++ calloc k)) hparse
  · rw [whole_unsignedText, frac_unsignedText]
    exact (digits_toDigits _).append (digits_fixed _ _)
  · rw [whole_unsignedText]
    exact length_whole_le hs hm
  · rw [frac_unsignedText, length_fixed]

/-- The sign of a text, and what follows it. -/
theorem head?_unsignedText (s k : Nat) :
    ((unsignedText s k).head? == some '-') = false := by
  obtain ⟨c, t, htext, hc⟩ := unsignedText_eq_cons s k
  rw [htext]
  apply beq_eq_false_iff_ne.mpr
  intro heq
  obtain rfl := Option.some.inj heq
  cases hc

/-- The text of a number that is not negative has no sign. -/
theorem text_of_nonneg {m : Int} (hm : 0 ≤ m) (s : Nat) :
    Number.text ⟨m, s⟩ = unsignedText s m.natAbs := by
  rw [Number.text, if_neg (Int.not_lt.mpr hm), List.nil_append]

theorem isNegative_text (m : Int) (s : Nat) :
    ((Number.text ⟨m, s⟩).head? == some '-') = decide (m < 0) := by
  rw [Number.text]
  by_cases hneg : m < 0
  · rw [if_pos hneg, decide_eq_true hneg]
    rfl
  · rw [if_neg hneg, List.nil_append, head?_unsignedText,
      decide_eq_false hneg]

theorem value_text (m : Int) (s : Nat) :
    (if decide (m < 0) then (Number.text ⟨m, s⟩).tail
      else Number.text ⟨m, s⟩) = unsignedText s m.natAbs := by
  rw [Number.text]
  by_cases hneg : m < 0
  · rw [if_pos (decide_eq_true hneg), if_pos hneg]
    rfl
  · rw [if_neg (by simpa using hneg), if_neg hneg, List.nil_append]

@[simp] theorem length_overpunched (n m : Nat) :
    (overpunched n m).length = n := by
  cases n with
  | zero => rfl
  | succ w =>
      rw [overpunched, List.length_append, length_fixed,
        List.length_singleton]

/-- The sign goes into the last digit. -/
theorem overpunch_fixed (hn : 0 < n) (m : Nat) :
    overpunch (fixed n m ++ calloc 1) = some (overpunched n m ++ calloc 1) := by
  obtain ⟨w, rfl⟩ : ∃ w, n = w + 1 := ⟨n - 1, by omega⟩
  have hnul : ∀ c ∈ fixed (w + 1) m, c ≠ '\x00' := fun c hc =>
    ne_nul_of_isDigit (digits_fixed _ m c hc)
  have htable : ∀ d < 10,
      ¬(d.digitChar.toNat < 48)
        ∧ typeTcNegativeFinalNumber[d.digitChar.toNat - 48]?
          = some (typeTcNegativeFinalNumber.getD d '\x00') := by
    decide
  obtain ⟨hge, hget⟩ := htable (m % 10) (Nat.mod_lt m (by decide))
  have hlast : (fixed (w + 1) m ++ calloc 1).getD w '\x00'
      = (m % 10).digitChar := by
    simp [fixed]
  have hset (p : Char) : (fixed (w + 1) m ++ calloc 1).set w p
      = (fixed w (m / 10) ++ [p]) ++ calloc 1 := by
    simp [fixed]
  unfold overpunch
  dsimp only
  rw [cstring_append_calloc hnul, length_fixed, if_pos (by simp [calloc]),
    Nat.add_sub_cancel, hlast, if_neg hge, hget, Option.map_some, hset]
  rfl

end CobolExercises.Database
