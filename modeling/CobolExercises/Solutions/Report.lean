/-
The records of the reference solutions 8 and 9, the paragraphs both
contain, and what they write for a customer.

# Buffers that survive

`FULDT-NAVN`, `ADR-LINJE1` and `ADR-LINJE2` start blank and are never
cleared again. The two address lines are overwritten to the same length
for every customer, so what lies behind it stays blank (`AdrClean`). The
name is strung up to the first space of each part: how far it reaches
depends on the customer, and behind it the earlier names show through.

# The report

So a customer's block depends on the customer, the accounts and the name
buffer (`kundeLinjer`), and the report is that of a machine that carries
the name buffer (`rapport`).
-/
import CobolExercises.Field
import CobolExercises.Lib.Residue

namespace CobolExercises.Solutions

open Lib

-- ============================================================== layouts

/-- `01 KUNDE-REKORD`, the bytes of `KUNDEOPL.cpy`. -/
abbrev KundeRekord := PicX 211

namespace KundeRekord

variable (k : KundeRekord)

def kundeId : PicX 10 := k.slice 0 10 201
def fornavn : PicX 20 := k.slice 10 20 181
def efternavn : PicX 20 := k.slice 30 20 161
def kontonummer : PicX 20 := k.slice 50 20 141
def balance : PicX 9 := k.slice 70 9 132
def valutakode : PicX 3 := k.slice 79 3 129
def vejnavn : PicX 30 := k.slice 82 30 99
def husnr : PicX 5 := k.slice 112 5 94
def etage : PicX 5 := k.slice 117 5 89
def side : PicX 5 := k.slice 122 5 84
def byX : PicX 20 := k.slice 127 20 64
def postnr : PicX 4 := k.slice 147 4 60
def telefon : PicX 8 := k.slice 153 8 50
def email : PicX 50 := k.slice 161 50 0

end KundeRekord

/-- `01 KONTO-REKORD`, the bytes of `KONTOOPL.cpy`. -/
abbrev KontoRekord := PicX 52

namespace KontoRekord

variable (a : KontoRekord)

def kundeId : PicX 10 := a.slice 0 10 42
def kontoId : PicX 10 := a.slice 10 10 32
def kontoType : PicX 20 := a.slice 20 20 12
def balance : PicX 9 := a.slice 40 9 3
def valutaKd : PicX 3 := a.slice 49 3 0

end KontoRekord

-- ======================================================= the output file

/-- The buffers of the paragraphs, the record area and the lines of
`OUT-FIL`. -/
structure Report where
  fuldtNavn : PicX 40
  adrLinje1 : PicX 60
  adrLinje2 : PicX 40
  outputText : PicX 150
  lines : List Line

namespace Report

/-- Working storage at the start, after `OPEN OUTPUT OUT-FIL`. -/
def opened : Report where
  fuldtNavn := PicX.spaces 40
  adrLinje1 := PicX.spaces 60
  adrLinje2 := PicX.spaces 40
  outputText := PicX.spaces 150
  lines := []

/-- `WRITE OUT-REKORD`. -/
def write (r : Report) : Report :=
  { r with lines := r.lines ++ [r.outputText.written] }

/-- `MOVE SPACES TO OUTPUT-TEXT`, `STRING sources INTO OUTPUT-TEXT`,
`WRITE OUT-REKORD`. -/
def put (sources : List Line) (r : Report) : Report :=
  { r with outputText := (PicX.spaces 150).string sources }.write

end Report

-- ======================================================== the paragraphs

/-- The sources of FORMAT-NAVN. -/
def navnKilder (k : KundeRekord) : List Line :=
  [k.fornavn.untilSpace, " ".toList, k.efternavn.untilSpace]

/-- The sources of FORMAT-VEJ: 48 characters. -/
def vejKilder (k : KundeRekord) : List Line :=
  [k.vejnavn.chars, " ".toList, k.husnr.chars, " ".toList, k.etage.chars,
    " ".toList, k.side.chars]

/-- The sources of FORMAT-BY: 25 characters. -/
def byKilder (k : KundeRekord) : List Line :=
  [k.postnr.chars, " ".toList, k.byX.chars]

def formatNavn (k : KundeRekord) (r : Report) : Report :=
  { r with fuldtNavn := r.fuldtNavn.string (navnKilder k) }

def formatVej (k : KundeRekord) (r : Report) : Report :=
  { r with adrLinje1 := r.adrLinje1.string (vejKilder k) }

def formatBy (k : KundeRekord) (r : Report) : Report :=
  { r with adrLinje2 := r.adrLinje2.string (byKilder k) }

/-- The sources of the line with the name buffer. -/
def navnLinje (k : KundeRekord) (fuldtNavn : PicX 40) : List Line :=
  ["Kunde-ID: ".toList, k.kundeId.chars, " | Navn: ".toList,
    fuldtNavn.chars]

def adresseLinje (adrLinje1 adrLinje2 : Line) : List Line :=
  ["Adresse: ".toList, adrLinje1, ", ".toList, adrLinje2]

def kontaktLinje (k : KundeRekord) : List Line :=
  ["Tlf: ".toList, k.telefon.chars, " | Email: ".toList, k.email.chars]

def kontoLinje (a : KontoRekord) : List Line :=
  ["   Konto-ID: ".toList, a.kontoId.chars, " | Type: ".toList,
    a.kontoType.chars, " | Saldo: ".toList, a.balance.chars, " ".toList,
    a.valutaKd.chars]

def skrivKunde (k : KundeRekord) (r : Report) : Report :=
  let r := r.put (navnLinje k r.fuldtNavn)
  let r := r.put (adresseLinje r.adrLinje1.chars r.adrLinje2.chars)
  r.put (kontaktLinje k)

/-- What a customer READ performs before the accounts. -/
def hoved (k : KundeRekord) (r : Report) : Report :=
  skrivKunde k (formatBy k (formatVej k (formatNavn k r)))

def skrivKonti (a : KontoRekord) : Report → Report :=
  Report.put (kontoLinje a)

/-- The test of one account for customer `k`. -/
def matchKonto (k : KundeRekord) (r : Report) (a : KontoRekord) : Report :=
  if a.kundeId = k.kundeId then skrivKonti a r else r

/-- `MOVE SPACES TO OUTPUT-TEXT`, `WRITE OUT-REKORD`. -/
def skrivBlank (r : Report) : Report :=
  { r with outputText := PicX.spaces 150 }.write

-- ========================================================== what they write

/-- The name buffer after a customer. -/
def nextNavn (navn : PicX 40) (k : KundeRekord) : PicX 40 :=
  navn.string (navnKilder k)

/-- Sources as the line they leave in the file. -/
def linje (sources : List Line) : Line := Blank.trimEnd ' ' sources.flatten

/-- The lines of a customer up to the accounts, the name buffer being
`navn`. -/
def hovedLinjer (navn : PicX 40) (k : KundeRekord) : List Line :=
  [ linje (navnLinje k navn),
    linje (adresseLinje (Blank.fit ' ' 60 (vejKilder k).flatten)
      (Blank.fit ' ' 40 (byKilder k).flatten)),
    linje (kontaktLinje k) ]

/-- The line account `a` adds to the block of customer `k`. -/
def matchLinjer (k : KundeRekord) (a : KontoRekord) : List Line :=
  if a.kundeId = k.kundeId then [linje (kontoLinje a)] else []

/-- The block of customer `k`, the name buffer being `navn`. -/
def kundeLinjer (konti : List KontoRekord) (navn : PicX 40)
    (k : KundeRekord) : List Line :=
  hovedLinjer navn k ++ konti.flatMap (matchLinjer k) ++ [[]]

/-- The report on a customer file, the name buffer starting as `navn`. -/
def rapport (konti : List KontoRekord) (navn : PicX 40)
    (kunder : List KundeRekord) : List Line :=
  Residue.emit nextNavn (kundeLinjer konti) navn kunder

-- ================================================== the paragraphs write it

namespace Report

/-- A put adds the text of its sources, whole if it fits the record. -/
theorem put_lines {sources : List Line} (h : sources.flatten.length ≤ 150)
    (r : Report) :
    (r.put sources).lines = r.lines ++ [linje sources] := by
  show r.lines ++ [((PicX.spaces 150).string sources).written] = _
  rw [PicX.written_string_spaces h, linje]

@[simp] theorem put_fuldtNavn (sources : List Line) (r : Report) :
    (r.put sources).fuldtNavn = r.fuldtNavn := by
  unfold put write
  rfl

@[simp] theorem put_adrLinje1 (sources : List Line) (r : Report) :
    (r.put sources).adrLinje1 = r.adrLinje1 := by
  unfold put write
  rfl

@[simp] theorem put_adrLinje2 (sources : List Line) (r : Report) :
    (r.put sources).adrLinje2 = r.adrLinje2 := by
  unfold put write
  rfl

/-- Behind the text of every customer the address lines are blank. -/
structure AdrClean (r : Report) : Prop where
  linje1 : r.adrLinje1.chars.drop 48 = List.replicate 12 ' '
  linje2 : r.adrLinje2.chars.drop 25 = List.replicate 15 ' '

theorem AdrClean.opened : AdrClean opened :=
  ⟨List.drop_replicate, List.drop_replicate⟩

/-- A put leaves the buffers alone. -/
theorem AdrClean.put {r : Report} (h : r.AdrClean) (sources : List Line) :
    (r.put sources).AdrClean := by
  refine ⟨?_, ?_⟩
  · rw [put_adrLinje1, h.linje1]
  · rw [put_adrLinje2, h.linje2]

end Report

theorem length_vejKilder (k : KundeRekord) :
    (vejKilder k).flatten.length = 48 := by
  simp [vejKilder]

theorem length_byKilder (k : KundeRekord) :
    (byKilder k).flatten.length = 25 := by
  simp [byKilder]

/-- Over a buffer that is blank behind the text, a text is padded. -/
theorem chars_string_clean {n m : Nat} {buf : PicX n}
    {sources : List Line} (hlen : sources.flatten.length = m)
    (hclean : buf.chars.drop m = List.replicate (n - m) ' ') :
    (buf.string sources).chars = Blank.fit ' ' n sources.flatten := by
  rw [PicX.chars_string, Blank.overlay, Blank.fit, hlen, hclean,
    buf.length_chars]

/-- Padding is blank. -/
theorem drop_fit {n m : Nat} {l : Line} (hlen : l.length = m)
    (hm : m ≤ n) :
    (Blank.fit ' ' n l).drop m = List.replicate (n - m) ' ' := by
  rw [Blank.fit, List.take_of_length_le (by omega), ← hlen,
    List.drop_left]

theorem formatVej_spec (k : KundeRekord) (r : Report) (h : r.AdrClean) :
    (formatVej k r).adrLinje1.chars
      = Blank.fit ' ' 60 (vejKilder k).flatten :=
  chars_string_clean (length_vejKilder k) h.linje1

theorem formatBy_spec (k : KundeRekord) (r : Report) (h : r.AdrClean) :
    (formatBy k r).adrLinje2.chars
      = Blank.fit ' ' 40 (byKilder k).flatten :=
  chars_string_clean (length_byKilder k) h.linje2

/-- SKRIV-KUNDE writes its three lines, none of them cut. -/
theorem skrivKunde_lines (k : KundeRekord) (r : Report) :
    (skrivKunde k r).lines = r.lines
      ++ [ linje (navnLinje k r.fuldtNavn),
        linje (adresseLinje r.adrLinje1.chars r.adrLinje2.chars),
        linje (kontaktLinje k) ] := by
  have hnavn : (navnLinje k r.fuldtNavn).flatten.length ≤ 150 := by
    simp [navnLinje]
  have hadresse : (adresseLinje r.adrLinje1.chars
      r.adrLinje2.chars).flatten.length ≤ 150 := by
    simp [adresseLinje]
  have hkontakt : (kontaktLinje k).flatten.length ≤ 150 := by
    simp [kontaktLinje]
  unfold skrivKunde
  simp only [Report.put_adrLinje1, Report.put_adrLinje2]
  rw [Report.put_lines hkontakt, Report.put_lines hadresse,
    Report.put_lines hnavn]
  simp

/-- The lines of a customer up to the accounts, and the buffers they
leave. -/
theorem hoved_spec (k : KundeRekord) (r : Report) (h : r.AdrClean) :
    (hoved k r).lines
        = r.lines ++ hovedLinjer (nextNavn r.fuldtNavn k) k
      ∧ (hoved k r).fuldtNavn = nextNavn r.fuldtNavn k
      ∧ (hoved k r).AdrClean := by
  have hvej := formatVej_spec k (formatNavn k r) ⟨h.linje1, h.linje2⟩
  have hclean1 : (formatVej k (formatNavn k r)).adrLinje1.chars.drop 48
      = List.replicate 12 ' ' := by
    rw [hvej]
    exact drop_fit (length_vejKilder k) (by omega)
  have hby := formatBy_spec k (formatVej k (formatNavn k r))
    ⟨hclean1, h.linje2⟩
  have hclean2 : (formatBy k (formatVej k
      (formatNavn k r))).adrLinje2.chars.drop 25
      = List.replicate 15 ' ' := by
    rw [hby]
    exact drop_fit (length_byKilder k) (by omega)
  have hclean : (formatBy k (formatVej k (formatNavn k r))).AdrClean :=
    ⟨hclean1, hclean2⟩
  unfold hoved
  refine ⟨?_, ?_, ?_⟩
  · rw [skrivKunde_lines, hby]
    show r.lines ++ [linje (navnLinje k (nextNavn r.fuldtNavn k)),
      linje (adresseLinje (formatVej k (formatNavn k r)).adrLinje1.chars _),
      _] = _
    rw [hvej]
    rfl
  · rw [skrivKunde, Report.put_fuldtNavn, Report.put_fuldtNavn,
      Report.put_fuldtNavn]
    rfl
  · exact ((hclean.put _).put _).put _

-- ============================================================ the accounts

theorem skrivKonti_lines (a : KontoRekord) (r : Report) :
    (skrivKonti a r).lines = r.lines ++ [linje (kontoLinje a)] := by
  have hlen : (kontoLinje a).flatten.length ≤ 150 := by
    simp [kontoLinje]
  rw [skrivKonti, Report.put_lines hlen]

theorem skrivBlank_lines (r : Report) :
    (skrivBlank r).lines = r.lines ++ [[]] := by
  show r.lines ++ [(PicX.spaces 150).written] = _
  rw [PicX.written, PicX.chars_spaces, Blank.trimEnd_replicate]

/-- The line of an account is written exactly for the customer whose id it
carries. -/
theorem matchKonto_lines (k : KundeRekord) (r : Report)
    (a : KontoRekord) :
    (matchKonto k r a).lines = r.lines ++ matchLinjer k a := by
  unfold matchKonto matchLinjer
  split
  · exact skrivKonti_lines a r
  · rw [List.append_nil]

/-- An account leaves the buffers alone. -/
theorem matchKonto_buffers (k : KundeRekord) (r : Report)
    (a : KontoRekord) :
    (matchKonto k r a).fuldtNavn = r.fuldtNavn
      ∧ (r.AdrClean → (matchKonto k r a).AdrClean) := by
  unfold matchKonto
  split
  · exact ⟨Report.put_fuldtNavn _ r, fun h => h.put _⟩
  · exact ⟨rfl, id⟩

/-- The accounts of a customer, one after the other. -/
theorem foldl_matchKonto_spec (k : KundeRekord) (r : Report)
    (konti : List KontoRekord) :
    (konti.foldl (matchKonto k) r).lines
        = r.lines ++ konti.flatMap (matchLinjer k)
      ∧ (konti.foldl (matchKonto k) r).fuldtNavn = r.fuldtNavn
      ∧ (r.AdrClean → (konti.foldl (matchKonto k) r).AdrClean) := by
  induction konti generalizing r with
  | nil => simp
  | cons a konti ih =>
      obtain ⟨hlines, hnavn, hclean⟩ := ih (matchKonto k r a)
      obtain ⟨hnavn', hclean'⟩ := matchKonto_buffers k r a
      rw [List.foldl_cons, List.flatMap_cons, ← List.append_assoc,
        ← matchKonto_lines, hlines, hnavn, hnavn']
      exact ⟨rfl, rfl, fun h => hclean (hclean' h)⟩

/-- What both programs do for a customer. -/
def behandl (konti : List KontoRekord) (r : Report) (k : KundeRekord) :
    Report :=
  skrivBlank (konti.foldl (matchKonto k) (hoved k r))

/-- A whole customer file handled so leaves the report. -/
theorem foldl_behandl_lines (konti : List KontoRekord) (r : Report)
    (h : r.AdrClean) (kunder : List KundeRekord) :
    (kunder.foldl (behandl konti) r).lines
      = r.lines ++ rapport konti r.fuldtNavn kunder := by
  induction kunder generalizing r with
  | nil => simp [rapport, Residue.emit]
  | cons k kunder ih =>
      obtain ⟨hlines, hnavn, hclean⟩ := hoved_spec k r h
      obtain ⟨hklines, hknavn, hkclean⟩ :=
        foldl_matchKonto_spec k (hoved k r) konti
      have hbclean : (behandl konti r k).AdrClean :=
        ⟨(hkclean hclean).linje1, (hkclean hclean).linje2⟩
      have hbnavn : (behandl konti r k).fuldtNavn
          = nextNavn r.fuldtNavn k := hknavn.trans hnavn
      have hblines : (behandl konti r k).lines = r.lines
          ++ kundeLinjer konti (nextNavn r.fuldtNavn k) k := by
        rw [behandl, skrivBlank_lines, hklines, hlines, kundeLinjer]
        simp only [List.append_assoc]
      rw [List.foldl_cons, ih _ hbclean, hblines, hbnavn,
        List.append_assoc]
      rfl

end CobolExercises.Solutions
