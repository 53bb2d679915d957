/-
Host variables: the text the runtime sends for a COBOL item
(`create_realdata`) and the bytes it stores into one for a value from the
server (`create_coboldata`).

# Representation

- A C string stands for the characters in front of its NUL. A buffer is
  the list of its bytes, NULs included; one byte is one `Char`.
- A store outside its buffer is undefined in C. It is `none` here, and so
  is a read past the end of a buffer: a `some` says that the function
  kept to its buffers.
- The length header of a VARYING item is an `int` of the machine, taken
  as little-endian.

# The items of a record

The storage of the program is a function of the address. What a function
here returns is what it writes from the address of the item on; that may
be more than the item has bytes.
-/
import CobolExercises.Lib.Buffer
import CobolExercises.Lib.Decimal

namespace CobolExercises.Database

open Lib

-- ============================================================ C strings

/-- The string at the front of a buffer. -/
def cstring (buf : List Char) : List Char := buf.takeWhile (· ≠ '\x00')

/-- `strlen`: a buffer without an end in it is read past its last byte. -/
def strlen (buf : List Char) : Option Nat :=
  if (cstring buf).length < buf.length then some (cstring buf).length
  else none

/-- `calloc(n, sizeof(char))`. -/
def calloc (n : Nat) : List Char := List.replicate n '\x00'

/-- An `int` in memory. -/
def intBytes (i : Int) : List Char :=
  let n := (i % 4294967296).toNat
  [ Char.ofNat (n % 256), Char.ofNat (n / 256 % 256),
    Char.ofNat (n / 65536 % 256), Char.ofNat (n / 16777216) ]

/-- The `int` whose bytes these are. -/
def intOfBytes (bytes : List Char) : Int :=
  let n := bytes.foldr (fun c (n : Nat) => c.toNat + 256 * n) 0
  if n < 2147483648 then n else n - 4294967296

-- ================================================== the numeric helpers

/-- `insert_decimal_point`. -/
def insertDecimalPoint (data : List Char) (dataSize : Nat) (power : Int) :
    List Char :=
  let beforeLength := (cstring data).length
  let afterLength := beforeLength + 1
  let nDecimalPlaces := -power
  if dataSize < afterLength then data
  else if nDecimalPlaces ≤ 0 ∨ (beforeLength : Int) ≤ nDecimalPlaces then data
  else
    let n := nDecimalPlaces.toNat
    data.take (beforeLength - n) ++ '.' ::
      ((data.drop (beforeLength - n)).take n ++ data.drop afterLength)

/-- `type_tc_negative_final_number`. -/
def typeTcNegativeFinalNumber : List Char :=
  ['p', 'q', 'r', 's', 't', 'u', 'v', 'w', 'x', 'y']

/-- `type_tc_is_positive`: the answer, and what is left in `*lastchar`. -/
def typeTcIsPositive (lastchar : Char) : Bool × Char :=
  if lastchar.isDigit then (true, lastchar)
  else match typeTcNegativeFinalNumber.findIdx? (· == lastchar) with
  | some i => (false, i.digitChar)
  | none => (true, '\x00')

/-- `dlength`: the bytes of a packed decimal item. -/
def packedLength (length : Nat) : Nat := (length + 2) / 2

/-- `skip_first`: the first half byte is not a digit. -/
def skipFirst (length : Nat) : Bool := (length + 1) % 2 == 1

/-- `com_sprintf(val, 2, "%d", ...)`: more than one digit does not fit. -/
def sprintDigit (n : Nat) : Option Char :=
  if n < 10 then some n.digitChar else none

/-- The loop over the bytes of a packed decimal item: its digits. -/
def unpack (skip : Bool) : List Char → Option (List Char)
  | [] => some []
  | b :: bytes => do
      let upper ← if skip then some []
        else (sprintDigit (b.toNat / 16)).map ([·])
      let lower ← if bytes = [] then some []
        else (sprintDigit (b.toNat % 16)).map ([·])
      let rest ← unpack false bytes
      some (upper ++ lower ++ rest)

-- ====================================================== create_realdata

/-- What the numeric cases of `create_realdata` end with: `content` in a
buffer with room for the point if there is one, the point, and the copy of
the string. `content` has as many bytes as `realdata_length` counts before
the point. -/
def realdataText (power : Int) (content : List Char) : List Char :=
  let realdataLength :=
    if power < 0 then content.length + 1 else content.length
  let realdata := content ++ calloc (realdataLength + 1 - content.length)
  cstring (if power < 0 then insertDecimalPoint realdata realdataLength power
    else realdata)

/-- `create_realdata`, OCDB_TYPE_UNSIGNED_NUMBER. -/
def realdataUnsigned (power : Int) (item : List Char) : List Char :=
  realdataText power item

/-- `create_realdata`, OCDB_TYPE_SIGNED_NUMBER_TC: the sign is in the last
digit. -/
def realdataTc (length : Nat) (power : Int) (item : List Char) :
    List Char :=
  let realdata := '\x00' :: item
  let last := typeTcIsPositive (realdata.getD length '\x00')
  realdataText power
    ((realdata.set length last.2).set 0 (if last.1 then '+' else '-'))

/-- `create_realdata`, OCDB_TYPE_SIGNED_NUMBER_LS: the item has one byte
more than digits. -/
def realdataLs (power : Int) (item : List Char) : List Char :=
  realdataText power item

/-- `create_realdata`, OCDB_TYPE_UNSIGNED_NUMBER_PD. -/
def realdataUnsignedPd (length : Nat) (power : Int) (item : List Char) :
    Option (List Char) := do
  let digits ← unpack (skipFirst length) item
  some (realdataText power digits)

/-- `create_realdata`, OCDB_TYPE_SIGNED_NUMBER_PD: the sign is in the last
half byte. -/
def realdataSignedPd (length : Nat) (power : Int) (item : List Char) :
    Option (List Char) := do
  let digits ← unpack (skipFirst length) item
  let sign := if (item.getLastD '\x00').toNat % 16 = 12 then '+' else '-'
  some (realdataText power (sign :: digits))

/-- `create_realdata`, OCDB_TYPE_ALPHANUMERIC_VARYING and
OCDB_TYPE_JAPANESE_VARYING: `lensize` from the header, in bytes, and what
follows it. -/
def realdataVarying (lensize : Int) (text : Nat → List Char) :
    Option (List Char) :=
  if 0 ≤ lensize then some (cstring (text lensize.toNat)) else none

-- ===================================================== create_coboldata

/-- What the numeric cases of `create_coboldata` have in common: zeros in
front, then the digits before and behind the point, then zeros for the
decimals the value does not have. `sign` is `SIGN_LENGTH` where a sign is
in front of the digits. Both loops for the zeros start at the first byte
of the buffer. -/
def placeDigits (sign length : Nat) (power : Int) (value final : List Char) :
    Option (List Char) := do
  let beforedp := (value.takeWhile (· ≠ '.')).length
  let fillzero : Int := length - beforedp + power
  let final ← Buffer.write 0 (List.replicate fillzero.toNat '0') final
  let final ← Buffer.write (sign + fillzero) (value.take beforedp) final
  if power < 0 then
    let afterdp := value.length - (beforedp + 1)
    let final ← Buffer.write (sign + fillzero + beforedp)
      (value.drop (beforedp + 1)) final
    Buffer.write 0 (List.replicate (-power - afterdp).toNat '0') final
  else some final

/-- The last digit of a negative number. A string without an end in the
buffer, an empty one, and a last character that is no digit lead outside
the buffer or the table. -/
def overpunch (final : List Char) : Option (List Char) :=
  let finalLength := (cstring final).length
  if finalLength < final.length ∧ 0 < finalLength then
    let c := final.getD (finalLength - 1) '\x00'
    if c.toNat < 48 then none
    else (typeTcNegativeFinalNumber[c.toNat - 48]?).map
      fun p => final.set (finalLength - 1) p
  else none

/-- The loop that packs the digits at `ptr` into `m` bytes; `signBits` is
the last half byte. -/
def pack (signBits : Nat) : Nat → Bool → List Char → Option (List Char)
  | 0, _, _ => some []
  | m + 1, skip, ptr => do
      let vubit ← if skip then some 0
        else ptr.head?.map fun c => 16 * (c.toNat % 16)
      let ptr := if skip then ptr else ptr.tail
      let vlbit ← if m ≠ 0 then ptr.head?.map fun c => c.toNat % 16
        else some signBits
      let ptr := if m ≠ 0 then ptr.tail else ptr
      let rest ← pack signBits m false ptr
      some (Char.ofNat (vubit + vlbit) :: rest)

/-- `create_coboldata`, OCDB_TYPE_UNSIGNED_NUMBER. -/
def coboldataUnsigned (length : Nat) (power : Int) (retstr : List Char) :
    Option (List Char) := do
  let final ← placeDigits 0 length power retstr (calloc (length + 1))
  some (final.take length)

/-- `create_coboldata`, OCDB_TYPE_SIGNED_NUMBER_TC: `length + SIGN_LENGTH`
bytes are copied, one more than the item has. -/
def coboldataTc (length : Nat) (power : Int) (retstr : List Char) :
    Option (List Char) := do
  let isNegative := retstr.head? == some '-'
  let value := if isNegative then retstr.tail else retstr
  let final ← placeDigits 0 length power value (calloc (length + 1))
  -- the length is taken of every value, and used for the negative ones
  let _ ← strlen final
  let final ← if isNegative then overpunch final else some final
  some (final.take (length + 1))

/-- `create_coboldata`, OCDB_TYPE_SIGNED_NUMBER_LS. -/
def coboldataLs (length : Nat) (power : Int) (retstr : List Char) :
    Option (List Char) := do
  let isNegative := retstr.head? == some '-'
  let value := if isNegative then retstr.tail else retstr
  let final := (if isNegative then '-' else '+') :: calloc (length + 1)
  let final ← placeDigits 1 length power value final
  some (final.take (length + 1))

/-- `create_coboldata`, OCDB_TYPE_UNSIGNED_NUMBER_PD. -/
def coboldataUnsignedPd (length : Nat) (power : Int) (retstr : List Char) :
    Option (List Char) := do
  let preFinal ← placeDigits 0 length power retstr (calloc (length + 1))
  pack 15 (packedLength length) (skipFirst length) preFinal

/-- `create_coboldata`, OCDB_TYPE_SIGNED_NUMBER_PD: the work buffer has the
size of the packed item and its terminator. -/
def coboldataSignedPd (length : Nat) (power : Int) (retstr : List Char) :
    Option (List Char) := do
  let isNegative := retstr.head? == some '-'
  let value := if isNegative then retstr.tail else retstr
  let preFinal ← placeDigits 0 length power value
    (calloc (packedLength length + 1))
  pack (if isNegative then 13 else 12) (packedLength length)
    (skipFirst length) preFinal

/-- `create_coboldata`, OCDB_TYPE_ALPHANUMERIC. -/
def coboldataAlphanumeric (length : Nat) (retstr : List Char) : List Char :=
  if length ≤ retstr.length then retstr.take length
  else retstr ++ List.replicate (length - retstr.length) ' '

/-- Full-width spaces. -/
def wideSpaces (length : Nat) : List Char :=
  (List.replicate length ['\x81', '\x40']).flatten

/-- `create_coboldata`, OCDB_TYPE_JAPANESE. -/
def coboldataJapanese (length : Nat) (retstr : List Char) : List Char :=
  if length * 2 ≤ retstr.length then retstr.take (length * 2)
  else retstr ++ (wideSpaces length).drop retstr.length

/-- `create_coboldata`, OCDB_TYPE_ALPHANUMERIC_VARYING. -/
def coboldataVarying (length : Nat) (retstr : List Char) : List Char :=
  if length ≤ retstr.length then intBytes length ++ retstr.take length
  else intBytes retstr.length
    ++ (retstr ++ List.replicate (length - retstr.length) ' ')

/-- `create_coboldata`, OCDB_TYPE_JAPANESE_VARYING: a value that fills the
item is copied to the address of the item, over the header. -/
def coboldataJapaneseVarying (length : Nat) (retstr : List Char) :
    List Char :=
  if length * 2 ≤ retstr.length then
    retstr.take (length * 2) ++ (intBytes length).drop (length * 2)
  else
    let tmpLen := retstr.length / 2
    intBytes tmpLen
      ++ (retstr.take (tmpLen * 2) ++ (wideSpaces length).drop (tmpLen * 2))

-- ========================================================= host variables

/-- `OCDB_TYPE_*`; the types without a case of their own are `other`. -/
inductive HostType where
  | unsignedNumber
  | signedNumberTc
  | signedNumberLs
  | unsignedNumberPd
  | signedNumberPd
  | alphanumeric
  | japanese
  | alphanumericVarying
  | japaneseVarying
  | other
deriving DecidableEq

/-- `SQLVAR`, without the buffers. -/
structure SqlVar where
  type : HostType
  length : Nat
  power : Int
  addr : Nat
deriving DecidableEq

/-- `_occurs_length`, `_occurs_iter`, `_occurs_is_parent`. -/
structure HostTable where
  occursLength : Nat
  occursIter : Nat
  occursIsParent : Bool
deriving DecidableEq

/-- The program's storage. -/
abbrev Storage := Nat → Char

/-- `memcpy(dest, addr, n)`. -/
def Storage.read (mem : Storage) (addr n : Nat) : List Char :=
  (List.range n).map fun i => mem (addr + i)

/-- `memcpy(addr, bytes, length)`. -/
def Storage.write (mem : Storage) (addr : Nat) (bytes : List Char) :
    Storage :=
  fun a => if addr ≤ a ∧ a < addr + bytes.length
    then bytes.getD (a - addr) '\x00' else mem a

/-- What is written is there. -/
theorem Storage.read_write (mem : Storage) (addr : Nat) {bytes : List Char}
    {n : Nat} (hn : n ≤ bytes.length) :
    (mem.write addr bytes).read addr n = bytes.take n := by
  apply List.ext_getElem
  · simp [read, hn]
  · intro i hi _
    rw [read, List.length_map, List.length_range] at hi
    simp only [read, write, List.getElem_map, List.getElem_range,
      List.getElem_take]
    rw [if_pos ⟨by omega, by omega⟩, Nat.add_sub_cancel_left,
      List.getD_eq_getElem?_getD, List.getElem?_eq_getElem (by omega),
      Option.getD_some]

/-- What is outside of a write stays. -/
theorem Storage.write_of_outside (mem : Storage) {addr a : Nat}
    {bytes : List Char} (h : a < addr ∨ addr + bytes.length ≤ a) :
    mem.write addr bytes a = mem a := by
  rw [write, if_neg (by omega)]

/-- The address of the element with subscript `index`, counted from 0. -/
def SqlVar.elementAddr (sv : SqlVar) (table : HostTable) (index : Nat) :
    Nat :=
  if table.occursIsParent then sv.addr + index * table.occursLength
  else sv.addr + index * sv.length

/-- `create_realdata`. -/
def createRealdata (table : HostTable) (mem : Storage) (sv : SqlVar)
    (index : Nat) : Option (List Char) :=
  let addr := sv.elementAddr table index
  match sv.type with
  | .unsignedNumber =>
      some (realdataUnsigned sv.power (mem.read addr sv.length))
  | .signedNumberTc =>
      some (realdataTc sv.length sv.power (mem.read addr sv.length))
  | .signedNumberLs =>
      some (realdataLs sv.power (mem.read addr (sv.length + 1)))
  | .unsignedNumberPd =>
      realdataUnsignedPd sv.length sv.power
        (mem.read addr (packedLength sv.length))
  | .signedNumberPd =>
      realdataSignedPd sv.length sv.power
        (mem.read addr (packedLength sv.length))
  | .japanese => some (cstring (mem.read addr (sv.length * 2)))
  | .alphanumericVarying =>
      realdataVarying (intOfBytes (mem.read addr 4)) (mem.read (addr + 4))
  | .japaneseVarying =>
      realdataVarying (intOfBytes (mem.read addr 4) * 2)
        (mem.read (addr + 4))
  | .alphanumeric | .other => some (cstring (mem.read addr sv.length))

/-- What `create_coboldata` writes from the address of the item on. -/
def coboldata (sv : SqlVar) (retstr : List Char) : Option (List Char) :=
  match sv.type with
  | .unsignedNumber => coboldataUnsigned sv.length sv.power retstr
  | .signedNumberTc => coboldataTc sv.length sv.power retstr
  | .signedNumberLs => coboldataLs sv.length sv.power retstr
  | .unsignedNumberPd => coboldataUnsignedPd sv.length sv.power retstr
  | .signedNumberPd => coboldataSignedPd sv.length sv.power retstr
  | .alphanumeric => some (coboldataAlphanumeric sv.length retstr)
  | .japanese => some (coboldataJapanese sv.length retstr)
  | .alphanumericVarying => some (coboldataVarying sv.length retstr)
  | .japaneseVarying => some (coboldataJapaneseVarying sv.length retstr)
  | .other => some []

/-- `create_coboldata`. -/
def createCoboldata (table : HostTable) (sv : SqlVar) (index : Nat)
    (retstr : List Char) (mem : Storage) : Option Storage :=
  (coboldata sv retstr).map (mem.write (sv.elementAddr table index))

/-- `create_coboldata_lowvalue`. -/
def createCoboldataLowvalue (table : HostTable) (sv : SqlVar) (index : Nat)
    (mem : Storage) : Storage :=
  mem.write (sv.elementAddr table index) (calloc sv.length)

end CobolExercises.Database
