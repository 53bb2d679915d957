/-
Numbers there and back: which values from the server end up in their
items, and what is sent for them afterwards.

# What is sent

Every item sends the number in it, except unsigned items that have
decimals only: their point gets lost (`send_number_iff`).

# What fits

PostgreSQL writes a NUMERIC with all its decimals and at least one digit
in front of the point. Where an item has room for that, unsigned items,
items with the sign in the last digit and packed items hold the value
(`fetch_send_number`), the signed packed ones up to four digits: from five
on their work buffer is too small (`fetch_signedPacked_overrun`). Behind an
item with the sign in the last digit one more byte is overwritten. A leading
sign is overwritten by the zeros for missing digits
(`fetch_leadingSign_iff`), and an item that has decimals only has no place
for the digit in front of the point (`fetch_unsigned_isSome_iff`).

# Missing decimals

A text with fewer decimals than the item is never stored right
(`fetch_display_exact_iff`).
-/
import CobolExercises.Database.HostNumber

namespace CobolExercises.Database

open Lib Lib.Decimal

variable {n s : Nat} {t : List Char}

-- ========================================================== what is sent

/-- What is sent for an item has the value of the item, unless the item is
unsigned and has decimals only: then only zero arrives as what it is. -/
theorem send_number_iff {sv : SqlVar} {m : Int} (table : HostTable)
    (index : Nat) (mem : Storage) (hn : 0 < sv.length)
    (hpower : sv.power = -s) (hs : s ≤ sv.length)
    (h : sv.type.Holds sv.length m
      (mem.read (sv.elementAddr table index) sv.size)) :
    ∃ r, createRealdata table mem sv index = some r
      ∧ ((parse r).Same ⟨m, s⟩
        ↔ (sv.type = .unsignedNumber ∨ sv.type = .unsignedNumberPd →
            s = sv.length → m = 0)) := by
  by_cases hlost : (sv.type = .unsignedNumber ∨ sv.type = .unsignedNumberPd)
      ∧ s = sv.length
  -- the text has no point, so it reads 10 to the power of s times too large
  · obtain ⟨htype, rfl⟩ := hlost
    obtain ⟨hpos, hsent⟩ := createRealdata_of_all_decimals htype hpower h
    refine ⟨_, hsent, ?_⟩
    rw [parse_fixed hn h.1]
    unfold Number.Same
    dsimp only
    have hpow : (1 : Int) < 10 ^ sv.length :=
      one_lt_pow₀ (by decide) hn.ne'
    constructor
    · intro heq _ _
      rw [pow_zero, mul_one, Int.natAbs_of_nonneg hpos] at heq
      -- a number that is not zero is not its own multiple
      by_contra hne
      have := (mul_eq_left₀ hne).mp heq
      omega
    · intro hzero
      rw [hzero htype rfl]
      simp
  · obtain ⟨r, hsent, hparse⟩ := createRealdata_of_holds hn hpower hs
      (fun htype => lt_of_le_of_ne hs fun heq => hlost ⟨htype, heq⟩) h
    refine ⟨r, hsent, ?_⟩
    rw [hparse]
    exact ⟨fun _ htype heq => absurd ⟨htype, heq⟩ hlost,
      fun _ => Number.Same.refl _⟩

/-- PIC V99 holding .05 is sent as 05. -/
theorem send_number_all_decimals :
    ∃ r, createRealdata ⟨0, 0, false⟩ (fun a => if a = 0 then '0' else '5')
          ⟨.unsignedNumber, 2, -2, 0⟩ 0 = some r
      ∧ ((parse r).Same ⟨5, 2⟩
        ↔ (HostType.unsignedNumber = .unsignedNumber
              ∨ HostType.unsignedNumber = .unsignedNumberPd →
            2 = 2 → (5 : Int) = 0)) :=
  send_number_iff (s := 2)
    ⟨0, 0, false⟩ 0 _ (by decide) rfl (by decide)
    ⟨by decide, by decide, by decide⟩

-- ========================================================== type by type

/-- An item whose digits are those of the value. -/
theorem coboldataUnsigned_unsignedText (hs : s < n) {m : Nat}
    (hm : m < 10 ^ n) :
    coboldataUnsigned n (-s) (unsignedText s m) = some (fixed n m) := by
  unfold coboldataUnsigned
  rw [placeDigits_unsignedText hs hm]
  exact congrArg some (List.take_left' (length_fixed n m))

/-- The item and the byte behind it. -/
theorem coboldataTc_text (hs : s < n) {m : Int} (hm : m.natAbs < 10 ^ n) :
    coboldataTc n (-s) (Number.text ⟨m, s⟩)
      = some ((if m < 0 then overpunched n m.natAbs else fixed n m.natAbs)
          ++ calloc 1) := by
  have htake {l : List Char} (hl : l.length = n) :
      (l ++ calloc 1).take (n + 1) = l ++ calloc 1 := by
    apply List.take_of_length_le
    rw [List.length_append, hl]
    exact le_rfl
  unfold coboldataTc
  dsimp only
  rw [isNegative_text, value_text, placeDigits_unsignedText hs hm]
  dsimp only [Option.bind_eq_bind, Option.bind_some]
  have hend : (strlen (fixed n m.natAbs ++ calloc 1)).isSome = true :=
    strlen_isSome_of_mem (List.mem_append_right _ List.mem_cons_self)
  obtain ⟨l, hl⟩ := Option.isSome_iff_exists.mp hend
  rw [hl, Option.bind_some]
  by_cases hneg : m < 0
  · rw [if_pos (decide_eq_true hneg), if_pos hneg,
      overpunch_fixed (by omega)]
    exact congrArg some (htake (length_overpunched n _))
  · rw [if_neg (by simpa using hneg), if_neg hneg]
    exact congrArg some (htake (length_fixed n _))

theorem packedLength_pos (n : Nat) : 0 < packedLength n := by
  unfold packedLength
  omega

/-- How many digits an item of `n` digits is packed from. -/
theorem packedLength_digits (n : Nat) :
    2 * packedLength n - 1 - (skipFirst n).toNat = n := by
  unfold packedLength skipFirst
  rcases Nat.mod_two_eq_zero_or_one (n + 1) with heven | hodd
  · rw [heven]
    show 2 * ((n + 2) / 2) - 1 - 0 = n
    omega
  · rw [hodd]
    show 2 * ((n + 2) / 2) - 1 - 1 = n
    omega

/-- Packing the digits of a value. -/
theorem pack_fixed {signBits : Nat} (hsign : signBits < 16) (n m : Nat)
    (post : List Char) :
    ∃ bytes, pack signBits (packedLength n) (skipFirst n) (fixed n m ++ post)
        = some bytes
      ∧ bytes.length = packedLength n
      ∧ Packed.halves bytes
        = (if skipFirst n then [0] else [])
          ++ ((fixed n m).map (fun c => c.toNat % 16) ++ [signBits]) := by
  apply pack_eq hsign (packedLength_pos n)
  rw [length_fixed, packedLength_digits]

theorem coboldataUnsignedPd_unsignedText (hs : s < n) {m : Nat}
    (hm : m < 10 ^ n) :
    ∃ bytes, coboldataUnsignedPd n (-s) (unsignedText s m) = some bytes
      ∧ bytes.length = packedLength n
      ∧ Packed.halves bytes
        = (if skipFirst n then [0] else [])
          ++ ((fixed n m).map (fun c => c.toNat % 16) ++ [15]) := by
  unfold coboldataUnsignedPd
  rw [placeDigits_unsignedText hs hm]
  exact pack_fixed (by decide) n m (calloc 1)

/-- Up to four digits the work buffer is big enough. -/
theorem coboldataSignedPd_text (hs : s < n) (hn : n ≤ 4) {m : Int}
    (hm : m.natAbs < 10 ^ n) :
    ∃ bytes, coboldataSignedPd n (-s) (Number.text ⟨m, s⟩) = some bytes
      ∧ bytes.length = packedLength n
      ∧ Packed.halves bytes
        = (if skipFirst n then [0] else [])
          ++ ((fixed n m.natAbs).map (fun c => c.toNat % 16)
            ++ [if m < 0 then 13 else 12]) := by
  obtain ⟨k, hk⟩ : ∃ k, packedLength n + 1 = n + k := by
    refine ⟨packedLength n + 1 - n, ?_⟩
    unfold packedLength
    omega
  have hsign : (if decide (m < 0) = true then 13 else 12)
      = if m < 0 then 13 else 12 := by
    by_cases hneg : m < 0
    · rw [if_pos (decide_eq_true hneg), if_pos hneg]
    · rw [if_neg (by simpa using hneg), if_neg hneg]
  unfold coboldataSignedPd
  dsimp only
  rw [isNegative_text, value_text, hk, placeDigits_unsignedText hs hm, hsign]
  apply pack_fixed
  split <;> decide

-- ======================================================== there and back

/-- How many bytes are written behind an item. -/
def SqlVar.spill (sv : SqlVar) : Nat :=
  if sv.type = .signedNumberTc then 1 else 0

/-- Storing a number of the server in an item it fits: what is written,
and the item in it. -/
theorem coboldata_text {sv : SqlVar} {m : Int}
    (htype : sv.type = .unsignedNumber ∨ sv.type = .signedNumberTc
      ∨ sv.type = .unsignedNumberPd
      ∨ sv.type = .signedNumberPd ∧ sv.length ≤ 4)
    (hpower : sv.power = -s) (hs : s < sv.length)
    (hm : m.natAbs < 10 ^ sv.length)
    (hsign : sv.type = .unsignedNumber ∨ sv.type = .unsignedNumberPd →
      0 ≤ m) :
    ∃ bytes, coboldata sv (Number.text ⟨m, s⟩) = some bytes
      ∧ bytes.length = sv.size + sv.spill
      ∧ sv.type.Holds sv.length m (bytes.take sv.size)
      ∧ (0 < sv.spill → bytes[sv.size]? = some '\x00') := by
  obtain ⟨type, n, power, addr⟩ := sv
  dsimp only at htype hpower hs hm hsign
  subst hpower
  rcases htype with rfl | rfl | rfl | ⟨rfl, hfour⟩
  · have hpos := hsign (.inl rfl)
    refine ⟨fixed n m.natAbs, ?_, length_fixed n _, ⟨hm, hpos, ?_⟩,
      fun hspill => absurd hspill (Nat.lt_irrefl 0)⟩
    · rw [text_of_nonneg hpos]
      exact coboldataUnsigned_unsignedText hs hm
    · exact List.take_of_length_le (length_fixed n _).le
  -- the one more that is copied is the NUL behind the digits
  · have hlen : (if m < 0 then overpunched n m.natAbs
        else fixed n m.natAbs).length = n := by
      rw [apply_ite List.length, length_overpunched, length_fixed, ite_self]
    refine ⟨_, coboldataTc_text hs hm, ?_, ⟨hm, List.take_left' hlen⟩,
      fun _ => ?_⟩
    · rw [List.length_append, hlen]
      rfl
    · show (_ ++ calloc 1)[n]? = _
      rw [List.getElem?_append_right hlen.le, hlen, Nat.sub_self]
      rfl
  · have hpos := hsign (.inr rfl)
    obtain ⟨bytes, hbytes, hlen, hhalves⟩ :=
      coboldataUnsignedPd_unsignedText hs hm
    refine ⟨bytes, ?_, hlen, ⟨hm, hpos, ?_⟩,
      fun hspill => absurd hspill (Nat.lt_irrefl 0)⟩
    · rw [text_of_nonneg hpos]
      exact hbytes
    · show Packed.halves (bytes.take (packedLength n)) = _
      rw [List.take_of_length_le hlen.le, hhalves]
  · obtain ⟨bytes, hbytes, hlen, hhalves⟩ := coboldataSignedPd_text hs hfour hm
    refine ⟨bytes, hbytes, hlen, ⟨hm, ?_⟩,
      fun hspill => absurd hspill (Nat.lt_irrefl 0)⟩
    show Packed.halves (bytes.take (packedLength n)) = _
    rw [List.take_of_length_le hlen.le, hhalves]

/-- A number of the server is stored in the item it fits, and what is sent
for the item afterwards is that number. Nothing else in the storage is
touched, but the byte behind an item with its sign in the last digit: the
copy is one byte too long, and a NUL ends up there. -/
theorem fetch_send_number {sv : SqlVar} {m : Int} (table : HostTable)
    (index : Nat) (mem : Storage)
    (htype : sv.type = .unsignedNumber ∨ sv.type = .signedNumberTc
      ∨ sv.type = .unsignedNumberPd
      ∨ sv.type = .signedNumberPd ∧ sv.length ≤ 4)
    (hpower : sv.power = -s) (hs : s < sv.length)
    (hm : m.natAbs < 10 ^ sv.length)
    (hsign : sv.type = .unsignedNumber ∨ sv.type = .unsignedNumberPd →
      0 ≤ m) :
    ∃ mem', createCoboldata table sv index (Number.text ⟨m, s⟩) mem
        = some mem'
      ∧ sv.type.Holds sv.length m
        (mem'.read (sv.elementAddr table index) sv.size)
      ∧ (∀ a, a < sv.elementAddr table index
          ∨ sv.elementAddr table index + sv.size + sv.spill ≤ a →
        mem' a = mem a)
      ∧ (0 < sv.spill →
        mem' (sv.elementAddr table index + sv.size) = '\x00')
      ∧ ∃ r, createRealdata table mem' sv index = some r
        ∧ parse r = ⟨m, s⟩ := by
  obtain ⟨bytes, hbytes, hlen, hholds, hspill⟩ :=
    coboldata_text htype hpower hs hm hsign
  have hsize : sv.size ≤ bytes.length := by omega
  have hread := mem.read_write (sv.elementAddr table index) hsize
  rw [← hread] at hholds
  refine ⟨_, ?_, hholds, ?_, ?_,
    createRealdata_of_holds (by omega) hpower hs.le (fun _ => hs) hholds⟩
  · rw [createCoboldata, hbytes, Option.map_some]
  · intro a ha
    exact mem.write_of_outside (by omega)
  · intro hpos
    rw [Storage.write, if_pos (by omega), Nat.add_sub_cancel_left,
      List.getD_eq_getElem?_getD, hspill hpos]
    rfl

/-- A signed item with two decimals: -3.05. -/
theorem fetch_send_number_signed :
    ∃ mem', createCoboldata ⟨0, 0, false⟩ ⟨.signedNumberTc, 4, -2, 0⟩ 0
          (Number.text ⟨-305, 2⟩) (fun _ => ' ') = some mem'
      ∧ HostType.signedNumberTc.Holds 4 (-305) (mem'.read 0 4)
      ∧ (∀ a, a < 0 ∨ 0 + 4 + 1 ≤ a → mem' a = ' ')
      ∧ (0 < 1 → mem' (0 + 4) = '\x00')
      ∧ ∃ r, createRealdata ⟨0, 0, false⟩ mem' ⟨.signedNumberTc, 4, -2, 0⟩ 0
          = some r
        ∧ parse r = ⟨-305, 2⟩ :=
  fetch_send_number (s := 2)
    ⟨0, 0, false⟩ 0 (fun _ => ' ') (.inr (.inl rfl)) rfl (by decide)
    (by decide) (by decide)

-- =================================================== what does not fit

/-- A text is stored in an unsigned item without leaving the work buffer
exactly when it has no more digits in front of its point than the item,
and at most one more behind it. An item with decimals only (`s = n`) has
no room for the digit that every number of the server has in front. -/
theorem fetch_unsigned_isSome_iff {sv : SqlVar} (table : HostTable)
    (index : Nat) (mem : Storage) (t : List Char)
    (htype : sv.type = .unsignedNumber ∨ sv.type = .unsignedNumberPd)
    (hpower : sv.power = -s) (hs : s ≤ sv.length) :
    (createCoboldata table sv index t mem).isSome = true
      ↔ (whole t).length + s ≤ sv.length
        ∧ (0 < s → (frac t).length ≤ s + 1) := by
  obtain ⟨type, n, power, addr⟩ := sv
  dsimp only at htype hpower hs ⊢
  subst hpower
  rw [createCoboldata, Option.isSome_map, ← isSome_placeDigits_iff hs t]
  rcases htype with rfl | rfl
  · dsimp only [coboldata, coboldataUnsigned]
    cases placeDigits 0 n (-s) t (calloc (n + 1)) with
    | none => rfl
    | some final => rfl
  · dsimp only [coboldata, coboldataUnsignedPd]
    cases hplace : placeDigits 0 n (-s) t (calloc (n + 1)) with
    | none => rfl
    | some final =>
        have hlen := length_of_placeDigits hplace
        rw [calloc, List.length_replicate] at hlen
        have hcount : (final.take n).length
            = 2 * packedLength n - 1 - (skipFirst n).toNat := by
          rw [packedLength_digits, List.length_take]
          omega
        have hbits : 15 < 16 := by decide
        obtain ⟨bytes, hbytes, -⟩ :=
          pack_eq hbits (packedLength_pos n) hcount (final.drop n)
        rw [List.take_append_drop] at hbytes
        simp [hbytes]

/-- PIC V99: "0.05" does not fit. -/
theorem fetch_unsigned_all_decimals :
    (createCoboldata ⟨0, 0, false⟩ ⟨.unsignedNumber, 2, -2, 0⟩ 0
        "0.05".toList fun _ => ' ').isSome = true
      ↔ (whole "0.05".toList).length + 2 ≤ 2
        ∧ (0 < 2 → (frac "0.05".toList).length ≤ 2 + 1) :=
  fetch_unsigned_isSome_iff (s := 2) ⟨0, 0, false⟩ 0 (fun _ => ' ')
    "0.05".toList (.inl rfl) rfl (by decide)

/-- The work buffer of a signed packed item is too small from five digits
on, whatever the value. -/
theorem fetch_signedPacked_overrun {sv : SqlVar} (table : HostTable)
    (index : Nat) (mem : Storage) (t : List Char)
    (htype : sv.type = .signedNumberPd) (hlength : 5 ≤ sv.length) :
    createCoboldata table sv index t mem = none := by
  obtain ⟨type, n, power, addr⟩ := sv
  dsimp only at htype hlength
  subst htype
  rw [createCoboldata, Option.map_eq_none_iff]
  dsimp only [coboldata, coboldataSignedPd]
  rw [Option.bind_eq_bind, Option.bind_eq_none_iff]
  intro final hplace
  apply pack_eq_none
  rw [packedLength_digits, length_of_placeDigits hplace, calloc,
    List.length_replicate]
  unfold packedLength
  omega

/-- PIC S9(5) COMP-3. -/
theorem fetch_signedPacked_overrun_five :
    createCoboldata ⟨0, 0, false⟩ ⟨.signedNumberPd, 5, 0, 0⟩ 0 "7".toList
      (fun _ => ' ') = none :=
  fetch_signedPacked_overrun ⟨0, 0, false⟩ 0 (fun _ => ' ') "7".toList rfl
    (by decide)

-- ==================================================== missing decimals

/-- Without all decimals the last byte of the item stays a NUL. -/
theorem placeDigits_missing (hs : s < n)
    (hw : (whole t).length + s ≤ n) (hf : (frac t).length < s) :
    ∃ final, placeDigits 0 n (-s) t (calloc (n + 1)) = some final
      ∧ final.length = n + 1 ∧ final[n - 1]? = some '\x00' := by
  have hplace := placeDigits_eq hw hf.le 1
  refine ⟨_, hplace, ?_, ?_⟩
  · rw [length_of_placeDigits hplace, calloc, List.length_replicate]
  · rw [List.getElem?_append_right (by rw [List.length_replicate]; omega),
      List.length_replicate, List.getElem?_drop, ← List.append_assoc,
      ← List.append_assoc, List.getElem?_append_right]
    · rw [calloc, List.getElem?_replicate, if_pos]
      simp only [List.length_append, List.length_replicate]
      omega
    · simp only [List.length_append, List.length_replicate]
      omega

/-- The sign goes into a byte that is no NUL. -/
theorem getElem?_of_overpunch {final final' : List Char} {i : Nat}
    (h : overpunch final = some final') (hi : final[i]? = some '\x00') :
    final'[i]? = some '\x00' := by
  unfold overpunch at h
  dsimp only at h
  split at h
  case isFalse => cases h
  case isTrue hlen =>
      split at h
      case isTrue => cases h
      case isFalse =>
          obtain ⟨p, -, rfl⟩ := Option.map_eq_some_iff.mp h
          rw [List.getElem?_set_ne _, hi]
          rintro rfl
          have hpre : cstring final <+: final := List.takeWhile_prefix _
          have hmem := List.getElem_mem
            (l := cstring final) (n := (cstring final).length - 1) (by omega)
          have hne := List.mem_takeWhile_imp hmem
          rw [hpre.getElem (by omega)] at hne
          rw [List.getElem?_eq_getElem (by omega)] at hi
          rw [Option.some.inj hi] at hne
          exact absurd hne (by decide)

/-- The last byte of a DISPLAY item is never a NUL. -/
theorem getElem?_of_holds {type : HostType} {m : Int} {bytes : List Char}
    (htype : type = .unsignedNumber ∨ type = .signedNumberTc) (hn : 0 < n)
    (h : type.Holds n m bytes) : bytes[n - 1]? ≠ some '\x00' := by
  obtain ⟨w, rfl⟩ : ∃ w, n = w + 1 := ⟨n - 1, by omega⟩
  rw [Nat.add_sub_cancel]
  have hdigit : (fixed (w + 1) m.natAbs)[w]? ≠ some '\x00' := by
    intro heq
    have hmem := List.mem_of_getElem? heq
    exact ne_nul_of_isDigit (digits_fixed _ _ _ hmem) rfl
  rcases htype with rfl | rfl
  · rw [h.2.2]
    exact hdigit
  · rw [h.2]
    split
    case isTrue =>
        have htable : ∀ d < 10,
            typeTcNegativeFinalNumber.getD d '\x00' ≠ '\x00' := by
          decide
        have hlast : (overpunched (w + 1) m.natAbs)[w]?
            = some (typeTcNegativeFinalNumber.getD (m.natAbs % 10) '\x00') := by
          rw [overpunched, List.getElem?_append_right (length_fixed _ _).le,
            length_fixed, Nat.sub_self]
          rfl
        rw [hlast]
        intro heq
        exact htable _ (Nat.mod_lt _ (by decide)) (Option.some.inj heq)
    case isFalse => exact hdigit

/-- Digits and a point begin with no sign. -/
theorem head?_of_digits (hd : Digits (whole t)) :
    (t.head? == some '-') = false := by
  cases t with
  | nil => rfl
  | cons c t =>
      apply beq_eq_false_iff_ne.mpr
      intro heq
      obtain rfl := Option.some.inj heq
      have hwhole : whole ('-' :: t) = '-' :: whole t := by
        simp [whole]
      have hsign := hd '-' (by rw [hwhole]; exact List.mem_cons_self)
      cases hsign

/-- Storing a signed text in a DISPLAY item. -/
theorem coboldata_display {sv : SqlVar} {negative : Bool}
    (htype : sv.type = .unsignedNumber ∧ negative = false
      ∨ sv.type = .signedNumberTc)
    (hpower : sv.power = -s) (hd : Digits (whole t))
    (hw : (whole t).length + s ≤ sv.length) (hf : (frac t).length ≤ s) :
    coboldata sv (if negative then '-' :: t else t)
      = ((placeDigits 0 sv.length (-s) t (calloc (sv.length + 1))).bind
          fun final => if negative then overpunch final else some final).map
          (fun final => final.take (sv.length + sv.spill)) := by
  obtain ⟨type, n, power, addr⟩ := sv
  dsimp only at htype hpower hw ⊢
  subst hpower
  have hhead := head?_of_digits hd
  have hend {final : List Char}
      (h : placeDigits 0 n (-s) t (calloc (n + 1)) = some final) :
      ∃ l, strlen final = some l :=
    Option.isSome_iff_exists.mp
      (strlen_isSome_of_mem (nul_mem_of_placeDigits hw hf h))
  rcases htype with ⟨rfl, rfl⟩ | rfl
  · dsimp only [coboldata, coboldataUnsigned]
    simp only [Bool.false_eq_true, if_false]
    cases placeDigits 0 n (-s) t (calloc (n + 1)) with
    | none => rfl
    | some final => rfl
  · dsimp only [coboldata, coboldataTc]
    cases negative with
    | true =>
        simp only [if_true, List.head?_cons, List.tail_cons,
          beq_self_eq_true]
        cases hplace : placeDigits 0 n (-s) t (calloc (n + 1)) with
        | none => rfl
        | some final =>
            obtain ⟨l, hl⟩ := hend hplace
            dsimp only [Option.bind_eq_bind, Option.bind_some]
            rw [hl, Option.bind_some]
            cases overpunch final with
            | none => rfl
            | some final' => rfl
    | false =>
        simp only [Bool.false_eq_true, if_false, hhead]
        cases hplace : placeDigits 0 n (-s) t (calloc (n + 1)) with
        | none => rfl
        | some final =>
            obtain ⟨l, hl⟩ := hend hplace
            dsimp only [Option.bind_eq_bind, Option.bind_some]
            rw [hl]
            rfl

/-- The item that holds a number, with the sign in its last digit if there is
one. -/
theorem exists_display_item {sv : SqlVar} {negative : Bool} {v : Nat}
    (htype : sv.type = .unsignedNumber ∧ negative = false
      ∨ sv.type = .signedNumberTc)
    (hn : 0 < sv.length) (hlt : v < 10 ^ sv.length)
    (hzero : negative = true → v ≠ 0) :
    ∃ item, item.length = sv.length
      ∧ (if negative then overpunch (fixed sv.length v ++ calloc 1)
          else some (fixed sv.length v ++ calloc 1))
        = some (item ++ calloc 1)
      ∧ sv.type.Holds sv.length (if negative then -v else v) item := by
  cases negative with
  | true =>
      refine ⟨_, length_overpunched _ _, overpunch_fixed hn v, ?_⟩
      have hpos := hzero rfl
      rcases htype with ⟨-, hfalse⟩ | htype
      · cases hfalse
      · rw [htype, if_pos rfl]
        refine ⟨by omega, ?_⟩
        dsimp only
        rw [if_pos (by omega), Int.natAbs_neg, Int.natAbs_natCast]
  | false =>
      refine ⟨_, length_fixed _ _, rfl, ?_⟩
      rw [if_neg Bool.false_ne_true]
      rcases htype with ⟨htype, -⟩ | htype
      · rw [htype]
        exact ⟨hlt, Int.natCast_nonneg v, rfl⟩
      · rw [htype]
        refine ⟨hlt, ?_⟩
        dsimp only
        rw [if_neg (by omega), Int.natAbs_natCast]

/-- A text of digits with no more decimals than the item is stored right
in a DISPLAY item exactly when it has all of them. `negative` is a sign in
front of it. -/
theorem fetch_display_exact_iff {sv : SqlVar} (table : HostTable)
    (index : Nat) (mem : Storage) {t : List Char} {negative : Bool} {v : Nat}
    (htype : sv.type = .unsignedNumber ∧ negative = false
      ∨ sv.type = .signedNumberTc)
    (hpower : sv.power = -s) (hs : s < sv.length)
    (hd : Digits (whole t ++ frac t))
    (hw : (whole t).length + s ≤ sv.length) (hf : (frac t).length ≤ s)
    (hv : v = Nat.ofDigitChars 10 (whole t ++ frac t) 0
      * 10 ^ (s - (frac t).length))
    (hzero : negative = true → v ≠ 0) :
    (∃ mem', createCoboldata table sv index
          (if negative then '-' :: t else t) mem = some mem'
        ∧ sv.type.Holds sv.length (if negative then -v else v)
          (mem'.read (sv.elementAddr table index) sv.size))
      ↔ (frac t).length = s := by
  have hdw : Digits (whole t) := fun c hc =>
    hd c (List.mem_append_left _ hc)
  have hsize : sv.size = sv.length := by
    unfold SqlVar.size
    rcases htype with ⟨h, -⟩ | h <;> rw [h]
  have hstore := coboldata_display htype hpower hdw hw hf
  constructor
  · intro h
    -- with a decimal missing the last byte is a NUL, which is no digit and
    -- carries no sign
    obtain ⟨mem', hmem', hholds⟩ := h
    by_contra hne
    obtain ⟨final, hplace, hlen, hlast⟩ :=
      placeDigits_missing hs hw (by omega)
    rw [createCoboldata, hstore, hplace, Option.bind_some] at hmem'
    obtain ⟨bytes, hbytes, rfl⟩ := Option.map_eq_some_iff.mp hmem'
    obtain ⟨final', hfinal', rfl⟩ := Option.map_eq_some_iff.mp hbytes
    have hlast' : final'[sv.length - 1]? = some '\x00' := by
      cases negative with
      | true => exact getElem?_of_overpunch hfinal' hlast
      | false =>
          obtain rfl := Option.some.inj hfinal'
          exact hlast
    obtain ⟨hlt, -⟩ := List.getElem?_eq_some_iff.mp hlast'
    rw [hsize, Storage.read_write _ _ (by
      rw [List.length_take]
      omega), List.take_take] at hholds
    apply getElem?_of_holds (htype.imp_left And.left) (by omega) hholds
    rw [List.getElem?_take_of_lt (by omega), hlast']
  · intro h
    have hlt : v < 10 ^ sv.length := by
      have hbound := ofDigitChars_lt hd
      rw [List.length_append, h] at hbound
      rw [hv, h, Nat.sub_self, Nat.pow_zero, Nat.mul_one]
      exact hbound.trans_le (Nat.pow_le_pow_right (by decide) hw)
    have hplace := placeDigits_exact hd hw h 1
    rw [show Nat.ofDigitChars 10 (whole t ++ frac t) 0 = v by
      rw [hv, h, Nat.sub_self, Nat.pow_zero, Nat.mul_one]] at hplace
    obtain ⟨item, hlen, hsigned, hholds⟩ :=
      exists_display_item htype (by omega) hlt hzero
    rw [hplace, Option.bind_some, hsigned, Option.map_some] at hstore
    refine ⟨_, congrArg (Option.map _) hstore, ?_⟩
    rw [hsize, Storage.read_write _ _ (by
      rw [List.length_take, List.length_append]
      omega), List.take_take, Nat.min_eq_left (by omega),
      List.take_left' hlen]
    exact hholds

/-- PIC S9(2)V99 from the text "-1.5". -/
theorem fetch_display_exact_missing :
    (∃ mem', createCoboldata ⟨0, 0, false⟩ ⟨.signedNumberTc, 4, -2, 0⟩ 0
          (if true then '-' :: "1.5".toList else "1.5".toList) (fun _ => ' ')
          = some mem'
        ∧ HostType.signedNumberTc.Holds 4 (if true then -(150 : Nat) else 150)
          (mem'.read 0 4))
      ↔ (frac "1.5".toList).length = 2 :=
  fetch_display_exact_iff (s := 2) (v := 150)
    ⟨0, 0, false⟩ 0 (fun _ => ' ') (.inr rfl) rfl (by decide) (by decide)
    (by decide) (by decide) (by decide) (by decide)

-- ==================================================== the leading sign

/-- What is in front of the digits of an item with a leading sign when `z`
digits are missing: the zeros start at the sign, and the byte behind them
is left over. -/
def signLead (sign : Char) (z : Nat) : List Char :=
  if z = 0 then [sign] else List.replicate z '0' ++ calloc 1

theorem length_signLead (sign : Char) (z : Nat) :
    (signLead sign z).length = z + 1 := by
  unfold signLead
  split
  case isTrue hz => rw [hz, List.length_singleton]
  case isFalse =>
      rw [List.length_append, List.length_replicate, calloc,
        List.length_replicate]

theorem placeDigits_leadingSign (hs : s < n) {m : Nat} (hm : m < 10 ^ n)
    (sign : Char) :
    placeDigits 1 n (-s) (unsignedText s m) (sign :: calloc (n + 1))
      = some (signLead sign (n - s - (Nat.toDigits 10 (m / 10 ^ s)).length)
          ++ (Nat.toDigits 10 (m / 10 ^ s)
            ++ (fixed s (m % 10 ^ s) ++ calloc 1))) := by
  have hle := length_whole_le hs hm
  rw [placeDigits_parts, whole_unsignedText, frac_unsignedText]
  generalize hd : Nat.toDigits 10 (m / 10 ^ s) = d at *
  generalize hz : n - s - d.length = z
  -- the zeros in front start where the sign is, so the first of them replaces
  -- it
  have hzeros : Buffer.write 0 (List.replicate z '0') (sign :: calloc (n + 1))
      = some (signLead sign z
          ++ (calloc d.length ++ (calloc s ++ calloc 1))) := by
    have hrest : calloc d.length ++ (calloc s ++ calloc 1)
        = calloc (n + 1 - z) := by
      simp only [calloc, List.replicate_append_replicate]
      congr 1
      omega
    rw [hrest]
    cases z with
    | zero => rfl
    | succ z =>
        have hsplit : sign :: calloc (n + 1)
            = (sign :: calloc z) ++ (calloc 1 ++ calloc (n + 1 - (z + 1))) := by
          simp only [calloc, List.cons_append,
            List.replicate_append_replicate]
          congr 2
          omega
        rw [hsplit, Buffer.write_front (by simp [calloc]), signLead,
          if_neg (Nat.succ_ne_zero z), List.append_assoc]
  have hcount : ((n : Int) - d.length + -s).toNat = z := by omega
  rw [hcount, hzeros, Option.bind_some,
    Buffer.write_segment (by simp [calloc])
      (by rw [length_signLead]; push_cast; omega),
    Option.bind_some]
  -- without decimals there is nothing behind the point to write
  by_cases hpos : 0 < s
  · rw [if_pos (by omega), ← List.append_assoc,
      Buffer.write_segment (by simp [calloc])
        (by rw [List.length_append, length_signLead]; push_cast; omega),
      Option.bind_some, length_fixed]
    have hnone : (- -(s : Int) - s).toNat = 0 := by omega
    rw [hnone, List.replicate_zero, Buffer.write_nil, List.append_assoc]
  · obtain rfl : s = 0 := by omega
    rw [if_neg (by omega)]
    rfl

/-- An item that has decimals only: the digit in front of the point goes
where the sign is. -/
theorem placeDigits_leadingSign_decimals {m : Nat} (hm : m < 10 ^ n)
    (hn : 0 < n) (sign : Char) :
    placeDigits 1 n (-n) (unsignedText n m) (sign :: calloc (n + 1))
      = some ('0' :: (fixed n m ++ calloc 1)) := by
  have hwhole : whole (unsignedText n m) = ['0'] := by
    rw [whole_unsignedText, Nat.div_eq_of_lt hm]
    rfl
  have hfrac : frac (unsignedText n m) = fixed n m := by
    rw [frac_unsignedText, Nat.mod_eq_of_lt hm]
  have hdigit : Buffer.write 0 ['0'] (sign :: calloc (n + 1))
      = some ('0' :: calloc (n + 1)) := by
    show Buffer.write 0 ['0'] ([sign] ++ calloc (n + 1))
      = some (['0'] ++ calloc (n + 1))
    exact Buffer.write_front rfl
  have hdecimals : Buffer.write 1 (fixed n m) ('0' :: calloc (n + 1))
      = some ('0' :: (fixed n m ++ calloc 1)) := by
    have hsplit : calloc (n + 1) = calloc n ++ calloc 1 := by
      simp only [calloc, List.replicate_append_replicate]
    rw [hsplit]
    show Buffer.write 1 (fixed n m) (['0'] ++ (calloc n ++ calloc 1))
      = some (['0'] ++ (fixed n m ++ calloc 1))
    exact Buffer.write_segment (by simp [calloc]) rfl
  have hcount : ((n : Int) - (1 : Nat) + -n).toNat = 0 := by omega
  have hfirst : ((1 : Nat) : Int) + ((n : Int) - (1 : Nat) + -n) = 0 := by
    omega
  have hnone : (- -(n : Int) - n).toNat = 0 := by omega
  rw [placeDigits_parts, hwhole, hfrac, List.length_singleton, hcount,
    List.replicate_zero, Buffer.write_nil, Option.bind_some, hfirst, hdigit,
    Option.bind_some, if_pos (by omega)]
  show (Buffer.write 1 _ _).bind _ = _
  rw [hdecimals, Option.bind_some, length_fixed, hnone, List.replicate_zero,
    Buffer.write_nil]

/-- What is written into an item with a leading sign: the sign if the text
has all integer digits of the item, otherwise a zero. -/
theorem coboldataLs_text (hn : 0 < n) (hs : s ≤ n) {m : Int}
    (hm : m.natAbs < 10 ^ n) :
    ∃ lead item, coboldataLs n (-s) (Number.text ⟨m, s⟩) = some (lead :: item)
      ∧ item.length = n
      ∧ ((whole (unsignedText s m.natAbs)).length + s = n →
        lead = (if m < 0 then '-' else '+') ∧ item = fixed n m.natAbs)
      ∧ ((whole (unsignedText s m.natAbs)).length + s ≠ n → lead = '0') := by
  have hsign : (if decide (m < 0) = true then '-' else '+')
      = if m < 0 then '-' else '+' := by
    by_cases hneg : m < 0
    · rw [if_pos hneg, if_pos (decide_eq_true hneg)]
    · rw [if_neg hneg, if_neg (by simpa using hneg)]
  have hplaced : coboldataLs n (-s) (Number.text ⟨m, s⟩)
      = (placeDigits 1 n (-s) (unsignedText s m.natAbs)
          ((if m < 0 then '-' else '+') :: calloc (n + 1))).map
        (·.take (n + 1)) := by
    unfold coboldataLs
    dsimp only
    rw [isNegative_text, value_text, hsign]
    cases placeDigits 1 n (-s) (unsignedText s m.natAbs)
        ((if m < 0 then '-' else '+') :: calloc (n + 1)) with
    | none => rfl
    | some final => rfl
  rw [hplaced]
  cases Nat.lt_or_eq_of_le hs with
  | inr heq =>
      subst heq
      refine ⟨'0', fixed s m.natAbs, ?_, length_fixed _ _, fun h => ?_,
        fun _ => rfl⟩
      · rw [placeDigits_leadingSign_decimals hm hn, Option.map_some,
          ← List.cons_append, List.take_left' (by simp)]
      · -- every number has a digit in front of its point
        rw [whole_unsignedText] at h
        have hpos : 0 < (Nat.toDigits 10 (m.natAbs / 10 ^ s)).length :=
          Nat.length_toDigits_pos
        omega
  | inl hlt =>
      have hle := length_whole_le hlt hm
      have hfit : List.replicate
            (n - s - (Nat.toDigits 10 (m.natAbs / 10 ^ s)).length) '0'
          ++ (Nat.toDigits 10 (m.natAbs / 10 ^ s)
            ++ fixed s (m.natAbs % 10 ^ s)) = fixed n m.natAbs := by
        have hpow : 10 ^ n = 10 ^ (n - s) * 10 ^ s := by
          rw [← Nat.pow_add, Nat.sub_add_cancel hs]
        rw [← List.append_assoc, replicate_append_toDigits _ (by omega),
          fixed_split hs]
        rw [Nat.div_lt_iff_lt_mul (Nat.pow_pos (by decide)), ← hpow]
        exact hm
      rw [placeDigits_leadingSign hlt hm, whole_unsignedText, Option.map_some]
      generalize hz :
        n - s - (Nat.toDigits 10 (m.natAbs / 10 ^ s)).length = z at *
      generalize (if m < 0 then '-' else '+') = sign
      have hlen : (signLead sign z ++ (Nat.toDigits 10 (m.natAbs / 10 ^ s)
          ++ fixed s (m.natAbs % 10 ^ s))).length = n + 1 := by
        rw [List.length_append, List.length_append, length_signLead,
          length_fixed]
        omega
      rw [← List.append_assoc _ _ (calloc 1), ← List.append_assoc,
        List.take_left' hlen]
      cases z with
      -- as many digits as the item has: the sign stays
      | zero =>
          rw [List.replicate_zero, List.nil_append] at hfit
          rw [hfit]
          exact ⟨sign, _, rfl, length_fixed _ _, fun _ => ⟨rfl, rfl⟩,
            fun h => absurd (by omega) h⟩
      -- any zero in front replaces it
      | succ z =>
          rw [List.length_append, length_signLead] at hlen
          refine ⟨'0', List.replicate z '0' ++ calloc 1
            ++ (Nat.toDigits 10 (m.natAbs / 10 ^ s)
              ++ fixed s (m.natAbs % 10 ^ s)), rfl, ?_,
            fun h => absurd h (by omega), fun _ => rfl⟩
          rw [List.length_append, List.length_append, List.length_replicate,
            calloc, List.length_replicate]
          omega

/-- A number is stored in an item with a leading sign exactly when its text
has as many digits in front of the point as the item; otherwise a zero is
where the sign should be. A number below 1 has one such digit, and so never
fits an item that has decimals only. -/
theorem fetch_leadingSign_iff {sv : SqlVar} {m : Int} (table : HostTable)
    (index : Nat) (mem : Storage) (htype : sv.type = .signedNumberLs)
    (hpower : sv.power = -s) (hn : 0 < sv.length) (hs : s ≤ sv.length)
    (hm : m.natAbs < 10 ^ sv.length) :
    ∃ mem', createCoboldata table sv index (Number.text ⟨m, s⟩) mem
        = some mem'
      ∧ (sv.type.Holds sv.length m
          (mem'.read (sv.elementAddr table index) sv.size)
        ↔ (whole (unsignedText s m.natAbs)).length + s = sv.length)
      ∧ ((whole (unsignedText s m.natAbs)).length + s ≠ sv.length →
        mem' (sv.elementAddr table index) = '0') := by
  obtain ⟨type, n, power, addr⟩ := sv
  dsimp only at htype hpower hn hs hm ⊢
  subst htype hpower
  obtain ⟨lead, item, hbytes, hlen, hall, hmissing⟩ :=
    coboldataLs_text hn hs hm
  refine ⟨_, congrArg (Option.map _) hbytes, ?_, fun h => ?_⟩
  · have hlen' : (lead :: item).length = n + 1 := by
      rw [List.length_cons, hlen]
    have hread := mem.read_write
      (SqlVar.elementAddr ⟨.signedNumberLs, n, -s, addr⟩ table index)
      hlen'.ge
    rw [List.take_of_length_le hlen'.le] at hread
    show m.natAbs < 10 ^ n
      ∧ Storage.read _ _ (n + 1) = (if m < 0 then '-' else '+') :: _ ↔ _
    rw [hread]
    constructor
    · intro h
      obtain ⟨-, h⟩ := h
      by_contra hne
      have hhead := (List.cons.inj h).1
      rw [hmissing hne] at hhead
      split at hhead <;> cases hhead
    · intro h
      obtain ⟨rfl, rfl⟩ := hall h
      exact ⟨hm, rfl⟩
  · rw [Storage.write, if_pos ⟨Nat.le_refl _, by simp⟩, Nat.sub_self,
      ← hmissing h]
    rfl

/-- PIC S9(4) SIGN LEADING SEPARATE and the number 42. -/
theorem fetch_leadingSign_short :
    ∃ mem', createCoboldata ⟨0, 0, false⟩ ⟨.signedNumberLs, 4, 0, 0⟩ 0
          (Number.text ⟨42, 0⟩) (fun _ => ' ') = some mem'
      ∧ (HostType.signedNumberLs.Holds 4 42 (mem'.read 0 5)
        ↔ (whole (unsignedText 0 42)).length + 0 = 4)
      ∧ ((whole (unsignedText 0 42)).length + 0 ≠ 4 → mem' 0 = '0') :=
  fetch_leadingSign_iff (s := 0) (m := 42) ⟨0, 0, false⟩ 0 (fun _ => ' ')
    rfl rfl (by decide) (by decide) (by decide)

end CobolExercises.Database
