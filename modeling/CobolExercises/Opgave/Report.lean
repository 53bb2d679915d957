/-
The customer and account records of opgave 8 and 9, the paragraphs both
programs contain word for word, and the report they are meant to write.

# Layouts

A group item is its bytes; an elementary item is a slice of them at the
offset the copybook gives it (`kundeopl.cpy`: 179 bytes, `KONTOOPL.cpy`:
52 bytes). `balance` is the edited item `PIC ZZZZZZ9V99`, nine characters
like any other here: it is only ever moved with its group and trimmed.

# The paragraphs

Every `format-…` paragraph clears the record area, strings some trimmed
fields and literals into it and writes it: one definition
(`Report.put`), one lemma (`Report.put_lines`), and a member a
paragraph. The lemma asks that the sources fit the 100 bytes of the
record, which the field widths guarantee for every content.

# The report

`joinReport` is the purpose: the grouped join of the two files on the
customer id, a block for each customer. It knows nothing of files,
flags and buffers.
-/
import CobolExercises.Field
import CobolExercises.Lib.Join

namespace CobolExercises.Opgave

open Lib

-- ============================================================== layouts

/-- `01 kunde-info`, the bytes of `kundeopl.cpy`. -/
abbrev KundeInfo := PicX 179

namespace KundeInfo

variable (k : KundeInfo)

def customerId : PicX 10 := k.slice 0 10 169
def firstName : PicX 20 := k.slice 10 20 149
def lastName : PicX 20 := k.slice 30 20 129
def streetName : PicX 30 := k.slice 50 30 99
def houseNumber : PicX 5 := k.slice 80 5 94
def etage : PicX 5 := k.slice 85 5 89
def side : PicX 5 := k.slice 90 5 84
def bynavn : PicX 20 := k.slice 95 20 64
def postnr : PicX 4 := k.slice 115 4 60
def telefon : PicX 8 := k.slice 121 8 50
def email : PicX 50 := k.slice 129 50 0

end KundeInfo

/-- `01 konto-info`, the bytes of `KONTOOPL.cpy`. -/
abbrev KontoInfo := PicX 52

namespace KontoInfo

variable (a : KontoInfo)

def customerId : PicX 10 := a.slice 0 10 42
def accountId : PicX 10 := a.slice 10 10 32
def accountType : PicX 20 := a.slice 20 20 12
def balance : PicX 9 := a.slice 40 9 3
def valutaId : PicX 3 := a.slice 49 3 0

end KontoInfo

-- ======================================================= the output file

/-- `output-file`: its record area `navn-adr` and the lines written. -/
structure Report where
  navnAdr : PicX 100
  lines : List Line
deriving DecidableEq

namespace Report

/-- The output file as OPEN OUTPUT leaves it. -/
def opened : Report := ⟨PicX.spaces 100, []⟩

/-- `write output-record`. -/
def write (o : Report) : Report :=
  { o with lines := o.lines ++ [o.navnAdr.written] }

/-- `move spaces to navn-adr`, `string sources into navn-adr`,
`write output-record`. -/
def put (sources : List Line) (o : Report) : Report :=
  { o with navnAdr := (PicX.spaces 100).string sources }.write

/-- A put adds the text of its sources, whole if it fits the record. -/
theorem put_lines {sources : List Line} (h : sources.flatten.length ≤ 100)
    (o : Report) :
    (o.put sources).lines
      = o.lines ++ [Blank.trimEnd ' ' sources.flatten] := by
  show o.lines ++ [((PicX.spaces 100).string sources).written] = _
  rw [PicX.written_string_spaces h]

end Report

-- ======================================================== the paragraphs

def formatId (k : KundeInfo) : Report → Report :=
  Report.put ["ID: ".toList, k.customerId.trim]

def formatNavn (k : KundeInfo) : Report → Report :=
  Report.put ["Navn: ".toList, k.firstName.trim, " ".toList,
    k.lastName.trim]

def formatAddresse (k : KundeInfo) : Report → Report :=
  Report.put ["Addresse: ".toList, k.streetName.trim, " ".toList,
    k.houseNumber.trim, ", ".toList, k.etage.trim, ".".toList,
    k.side.trim]

def formatBy (k : KundeInfo) : Report → Report :=
  Report.put ["By: ".toList, k.postnr.trim, " ".toList, k.bynavn.trim,
    " ".toList]

def formatKontakt (k : KundeInfo) : Report → Report :=
  Report.put ["Kontakt: ".toList, "tlf:".toList, k.telefon.trim,
    " email:".toList, k.email.trim]

def handleCustomer (k : KundeInfo) (o : Report) : Report :=
  formatKontakt k (formatBy k (formatAddresse k (formatNavn k
    (formatId k o))))

def formatKonto (a : KontoInfo) : Report → Report :=
  Report.put ["Konto ID: ".toList, a.accountId.trim,
    " Konto Type: ".toList, a.accountType.trim]

def formatBalance (a : KontoInfo) : Report → Report :=
  Report.put ["Balance: ".toList, a.balance.trim, " ".toList,
    a.valutaId.trim]

/-- The literal between two customers. -/
def separator : Line := "------------------------------------".toList

/-- `move "----…" to navn-adr`, `write output-record`. -/
def writeSeparator (o : Report) : Report :=
  { o with navnAdr := PicX.ofLine 100 separator }.write

-- ============================================================ the report

/-- The five lines that open a customer's block. -/
def headerLines (k : KundeInfo) : List Line :=
  [ "ID: ".toList ++ k.customerId.trim,
    "Navn: ".toList ++ k.firstName.trim ++ " ".toList ++ k.lastName.trim,
    "Addresse: ".toList ++ k.streetName.trim ++ " ".toList
      ++ k.houseNumber.trim ++ ", ".toList ++ k.etage.trim ++ ".".toList
      ++ k.side.trim,
    "By: ".toList ++ k.postnr.trim ++ " ".toList ++ k.bynavn.trim,
    "Kontakt: tlf:".toList ++ k.telefon.trim ++ " email:".toList
      ++ k.email.trim ]

/-- The two lines of an account. -/
def kontoLines (a : KontoInfo) : List Line :=
  [ "Konto ID: ".toList ++ a.accountId.trim ++ " Konto Type: ".toList
      ++ a.accountType.trim,
    "Balance: ".toList ++ a.balance.trim ++ " ".toList
      ++ a.valutaId.trim ]

/-- The block of a customer and the accounts that are the customer's. -/
def block (k : KundeInfo) (konti : List KontoInfo) : List Line :=
  headerLines k ++ konti.flatMap kontoLines ++ [separator]

/-- The join of the two files on the customer id, a block a customer. -/
def joinReport (kunder : List KundeInfo) (konti : List KontoInfo) :
    List Line :=
  (Join.groupJoin KundeInfo.customerId KontoInfo.customerId kunder
    konti).flatMap fun p => block p.1 p.2

/-- Lines as a LINE SEQUENTIAL file keeps them. -/
def stripped (lines : List Line) : List Line :=
  lines.map (Blank.trimEnd ' ')

theorem stripped_append (l m : List Line) :
    stripped (l ++ m) = stripped l ++ stripped m :=
  List.map_append

theorem stripped_flatMap {β : Type} (f : β → List Line) (l : List β) :
    stripped (l.flatMap f) = l.flatMap fun b => stripped (f b) :=
  List.map_flatMap

-- ============================================ the paragraphs meet the report

/-- `handle-customer` writes the header lines, none of them cut. -/
theorem handleCustomer_lines (k : KundeInfo) (o : Report) :
    (handleCustomer k o).lines = o.lines ++ stripped (headerLines k) := by
  have hid := k.customerId.length_trim_le
  have hfirst := k.firstName.length_trim_le
  have hlast := k.lastName.length_trim_le
  have hstreet := k.streetName.length_trim_le
  have hhouse := k.houseNumber.length_trim_le
  have hetage := k.etage.length_trim_le
  have hside := k.side.length_trim_le
  have hby := k.bynavn.length_trim_le
  have hpost := k.postnr.length_trim_le
  have htlf := k.telefon.length_trim_le
  have hemail := k.email.length_trim_le
  unfold handleCustomer formatKontakt formatBy formatAddresse formatNavn
    formatId
  rw [Report.put_lines (by simp; omega), Report.put_lines (by simp; omega),
    Report.put_lines (by simp; omega), Report.put_lines (by simp; omega),
    Report.put_lines (by simp; omega)]
  -- the city line alone ends in a literal space, which WRITE drops
  have hcity : Blank.trimEnd ' ' ["By: ".toList, k.postnr.trim,
        " ".toList, k.bynavn.trim, " ".toList].flatten
      = Blank.trimEnd ' ' ("By: ".toList ++ k.postnr.trim ++ " ".toList
        ++ k.bynavn.trim) := by
    rw [← Blank.trimEnd_append_blanks ' ' ("By: ".toList ++ k.postnr.trim
      ++ " ".toList ++ k.bynavn.trim) 1]
    simp
  rw [hcity]
  simp [stripped, headerLines]

/-- `format-konto` and `format-balance` write the lines of the account. -/
theorem formatKonto_formatBalance_lines (a : KontoInfo) (o : Report) :
    (formatBalance a (formatKonto a o)).lines
      = o.lines ++ stripped (kontoLines a) := by
  have hid := a.accountId.length_trim_le
  have htype := a.accountType.length_trim_le
  have hbalance := a.balance.length_trim_le
  have hvaluta := a.valutaId.length_trim_le
  unfold formatBalance formatKonto
  rw [Report.put_lines (by simp; omega), Report.put_lines (by simp; omega)]
  simp [stripped, kontoLines]

theorem writeSeparator_lines (o : Report) :
    (writeSeparator o).lines = o.lines ++ stripped [separator] := by
  show o.lines ++ [(PicX.ofLine 100 separator).written] = _
  rw [PicX.written, PicX.chars_ofLine, Blank.trimEnd_fit (by decide)]
  rfl

-- ============================================== the report, loop by loop

/-- The lines account `a` adds to the block of customer `k`. -/
def matchLines (k : KundeInfo) (a : KontoInfo) : List Line :=
  if k.customerId = a.customerId then stripped (kontoLines a) else []

/-- The block of a customer as the loops write it: every account record
is tested. -/
def kundeLines (konti : List KontoInfo) (k : KundeInfo) : List Line :=
  stripped (headerLines k) ++ konti.flatMap (matchLines k)
    ++ stripped [separator]

/-- The blocks of all customers as the loops write them. -/
def reportLines (kunder konti : List Line) : List Line :=
  (kunder.map (PicX.ofLine 179)).flatMap
    (kundeLines (konti.map (PicX.ofLine 52)))

/-- The two lines of an account are written exactly for the customer
whose id it carries. -/
theorem ite_formatKonto_lines (k : KundeInfo) (a : KontoInfo) (o : Report) :
    (if k.customerId = a.customerId then formatBalance a (formatKonto a o)
      else o).lines = o.lines ++ matchLines k a := by
  unfold matchLines
  split
  · exact formatKonto_formatBalance_lines a o
  · rw [List.append_nil]

/-- The blocks the loops write are the report. -/
theorem reportLines_eq_joinReport (kunder konti : List Line) :
    reportLines kunder konti
      = stripped (joinReport (kunder.map (PicX.ofLine 179))
        (konti.map (PicX.ofLine 52))) := by
  have hmatch : ∀ k : KundeInfo,
      (konti.map (PicX.ofLine 52)).flatMap (matchLines k)
        = stripped (((konti.map (PicX.ofLine 52)).filter fun a =>
            k.customerId = KontoInfo.customerId a).flatMap kontoLines) := by
    intro k
    unfold matchLines
    rw [Join.flatMap_ite, stripped_flatMap]
  rw [reportLines, joinReport, ← Join.flatMap_groupJoin block,
    stripped_flatMap]
  refine List.flatMap_congr fun k _ => ?_
  rw [kundeLines, block, hmatch, stripped_append, stripped_append]

end CobolExercises.Opgave
