/-
Reference solution 7: every customer as a block of labelled lines.

# Two STRINGs for a line

A FORMAT paragraph strings the fields of a line into a cleared buffer,
each field up to its first space, and BEHANDL-KUNDE strings the label and
the whole buffer into the cleared record. Every buffer is cleared before
it is filled, so a block depends on the customer's record alone
(`writes_blokke`).

# What is lost

The buffers of the address, the city and the contact hold their fields
whatever these are, and what the record cuts off `ADR-LINJE` is blank.
So those lines are complete exactly when no field has a letter behind a
space. The name has one byte too few for two full fields, and FUNCTION
TRIM takes the separator when there is no first name (`Reportable`).
-/
import CobolExercises.Solutions.Report
import CobolExercises.Lib.Delimited
import CobolExercises.Lib.Join

namespace CobolExercises.Solutions.Opgave7

open Lib

-- =========================================================== the program

/-- The files, the flag, the record areas and the buffers. -/
structure State where
  kundefilIn : List Line
  eofFlag : Char
  kundeRekordIn : KundeRekord
  fuldtNavn : PicX 40
  adrLinje : PicX 100
  byLinje : PicX 60
  kontoLinje : PicX 60
  kontaktLinje : PicX 80
  navnAdr : PicX 100
  kundefilOut : List Line

/-- After `OPEN INPUT KUNDEFIL-IN OUTPUT KUNDEFIL-OUT`. -/
def initial (kunder : List Line) : State where
  kundefilIn := kunder
  eofFlag := 'N'
  kundeRekordIn := PicX.spaces 211
  fuldtNavn := PicX.spaces 40
  adrLinje := PicX.spaces 100
  byLinje := PicX.spaces 60
  kontoLinje := PicX.spaces 60
  kontaktLinje := PicX.spaces 80
  navnAdr := PicX.spaces 100
  kundefilOut := []

/-- `WRITE KUNDE-ADR`. -/
def State.write (s : State) : State :=
  { s with kundefilOut := s.kundefilOut ++ [s.navnAdr.written] }

/-- `MOVE SPACES TO NAVN-ADR`, `STRING sources INTO NAVN-ADR`,
`WRITE KUNDE-ADR`. -/
def State.put (sources : List Line) (s : State) : State :=
  { s with navnAdr := (PicX.spaces 100).string sources }.write

/-- The sources of FORMAT-KONTO: 36 characters. -/
def kontoKilder (k : KundeRekord) : List Line :=
  [k.kontonummer.chars, " - ".toList, k.balance.chars, " ".toList,
    k.valutakode.chars]

/-- The sources of FORMAT-ADR. -/
def adrKilder (k : KundeRekord) : List Line :=
  [k.vejnavn.untilSpace, " ".toList, k.husnr.untilSpace, " ".toList,
    k.etage.untilSpace, " ".toList, k.side.untilSpace]

/-- The sources of FORMAT-BY. -/
def byKilder (k : KundeRekord) : List Line :=
  [k.postnr.untilSpace, " ".toList, k.byX.untilSpace]

/-- The sources of FORMAT-KONTAKT. -/
def kontaktKilder (k : KundeRekord) : List Line :=
  [k.telefon.untilSpace, " ".toList, k.email.untilSpace]

/-- FORMAT-NAVN, its `MOVE FUNCTION TRIM(FULDT-NAVN) TO FULDT-NAVN`
included. -/
def formatNavn (s : State) : State :=
  let fuldtNavn := (PicX.spaces 40).string (navnKilder s.kundeRekordIn)
  { s with fuldtNavn := PicX.ofLine 40 fuldtNavn.trim }

def formatKonto (s : State) : State :=
  { s with
    kontoLinje := (PicX.spaces 60).string (kontoKilder s.kundeRekordIn) }

def formatAdr (s : State) : State :=
  { s with
    adrLinje := (PicX.spaces 100).string (adrKilder s.kundeRekordIn) }

def formatBy (s : State) : State :=
  { s with byLinje := (PicX.spaces 60).string (byKilder s.kundeRekordIn) }

def formatKontakt (s : State) : State :=
  { s with
    kontaktLinje :=
      (PicX.spaces 80).string (kontaktKilder s.kundeRekordIn) }

/-- BEHANDL-KUNDE. -/
def behandlKunde (s : State) : State :=
  let s := formatKontakt (formatBy (formatAdr (formatKonto (formatNavn s))))
  let s := s.put ["KUNDE-ID: ".toList, s.kundeRekordIn.kundeId.chars]
  let s := s.put ["NAVN: ".toList, s.fuldtNavn.chars]
  let s := s.put ["KONTO: ".toList, s.kontoLinje.chars]
  let s := s.put ["ADRESSE: ".toList, s.adrLinje.chars]
  let s := s.put ["BY: ".toList, s.byLinje.chars]
  let s := s.put ["KONTAKT: ".toList, s.kontaktLinje.chars]
  { s with navnAdr := PicX.spaces 100 }.write

/-- `READ KUNDEFIL-IN … END-READ`. -/
def kundeBody (s : State) : Exec State :=
  match s.kundefilIn with
  | [] => .ok { s with eofFlag := 'Y' }
  | line :: rest =>
      .ok (behandlKunde { s with
        kundefilIn := rest
        kundeRekordIn := PicX.ofLine 211 line })

/-- MAIN-PROGRAM: the lines of `KundeoplysningerOut.txt` at STOP RUN. -/
def mainProgram (kunder : List Line) (fuel : Nat) : Exec (List Line) := do
  let s ← loopUntil (fun s => s.eofFlag == 'Y') kundeBody fuel
    (initial kunder)
  pure s.kundefilOut

/-- The program ends and leaves the lines `out`. -/
def Writes (kunder out : List Line) : Prop :=
  Settles (mainProgram kunder) (.ok out)

-- ======================================================== complete blocks

def navnFelter (k : KundeRekord) : List Line :=
  [k.fornavn.chars, k.efternavn.chars]

def adrFelter (k : KundeRekord) : List Line :=
  [k.vejnavn.chars, k.husnr.chars, k.etage.chars, k.side.chars]

def byFelter (k : KundeRekord) : List Line := [k.postnr.chars, k.byX.chars]

def kontaktFelter (k : KundeRekord) : List Line :=
  [k.telefon.chars, k.email.chars]

/-- A label and the whole of the fields behind it, trimmed and separated
by single spaces. -/
def completeLine (label : String) (felter : List Line) : Line :=
  linje [label.toList, Words.unwords ' ' (felter.map (Blank.trim ' '))]

/-- The block of a customer with nothing cut. -/
def completeBlock (k : KundeRekord) : List Line :=
  [ linje ["KUNDE-ID: ".toList, k.kundeId.chars],
    completeLine "NAVN: " (navnFelter k),
    linje ("KONTO: ".toList :: kontoKilder k),
    completeLine "ADRESSE: " (adrFelter k),
    completeLine "BY: " (byFelter k),
    completeLine "KONTAKT: " (kontaktFelter k),
    [] ]

/-- The program ends with the complete blocks of the customers and
nothing else. -/
def Complete (kunder : List Line) : Prop :=
  Writes kunder ((kunder.map (PicX.ofLine 211)).flatMap completeBlock)

/-- What the two STRINGs of every line let through: no field has a letter
behind a space, the two names leave one byte blank, and there is no last
name without a first. -/
structure Reportable (k : KundeRekord) : Prop where
  gapless : ∀ f ∈ navnFelter k ++ adrFelter k ++ byFelter k
    ++ kontaktFelter k, Delimited.Gapless ' ' f
  room : ' ' ∈ k.fornavn.chars ∨ ' ' ∈ k.efternavn.chars
  fornavn : k.fornavn = PicX.spaces 20 → k.efternavn = PicX.spaces 20

-- ============================================================== one block

/-- Sources as the line a put leaves in the file. -/
def skrevet (sources : List Line) : Line :=
  ((PicX.spaces 100).string sources).written

/-- FULDT-NAVN behind FORMAT-NAVN. -/
def fuldtNavn (k : KundeRekord) : PicX 40 :=
  PicX.ofLine 40 ((PicX.spaces 40).string (navnKilder k)).trim

/-- What BEHANDL-KUNDE writes for a record. -/
def blok (k : KundeRekord) : List Line :=
  [ skrevet ["KUNDE-ID: ".toList, k.kundeId.chars],
    skrevet ["NAVN: ".toList, (fuldtNavn k).chars],
    skrevet ["KONTO: ".toList,
      ((PicX.spaces 60).string (kontoKilder k)).chars],
    skrevet ["ADRESSE: ".toList,
      ((PicX.spaces 100).string (adrKilder k)).chars],
    skrevet ["BY: ".toList, ((PicX.spaces 60).string (byKilder k)).chars],
    skrevet ["KONTAKT: ".toList,
      ((PicX.spaces 80).string (kontaktKilder k)).chars],
    (PicX.spaces 100).written ]

/-- A put changes the record area and the output file only. -/
theorem put_eq (sources : List Line) (s : State) :
    s.put sources = { s with
      navnAdr := (PicX.spaces 100).string sources
      kundefilOut := s.kundefilOut ++ [skrevet sources] } := rfl

/-- BEHANDL-KUNDE adds the block of its record and keeps the rest of the
file; no buffer of an earlier customer is in it. -/
theorem behandlKunde_spec (s : State) :
    (behandlKunde s).kundefilOut = s.kundefilOut ++ blok s.kundeRekordIn
      ∧ (behandlKunde s).kundefilIn = s.kundefilIn
      ∧ (behandlKunde s).eofFlag = s.eofFlag := by
  simp only [behandlKunde, put_eq, State.write, formatKontakt, formatBy,
    formatAdr, formatKonto, formatNavn, List.append_assoc, and_true]
  rfl

-- ============================================================== the run

/-- With `rest` unread, its blocks complete the file to `goal`. -/
structure KundeInv (goal : List Line) (rest : List Line) (s : State) :
    Prop where
  file : s.kundefilIn = rest
  more : s.eofFlag = 'N'
  out : s.kundefilOut ++ (rest.map (PicX.ofLine 211)).flatMap blok = goal

/-- Every run ends with one block for each customer, in order. -/
theorem writes_blokke (kunder : List Line) :
    Writes kunder ((kunder.map (PicX.ofLine 211)).flatMap blok) := by
  have hloop := LoopSettles.reading
    (fun s : State => s.eofFlag == 'Y')
    (fun _ => kundeBody)
    (P := KundeInv ((kunder.map (PicX.ofLine 211)).flatMap blok))
    (Q := fun s => s.kundefilOut
      = (kunder.map (PicX.ofLine 211)).flatMap blok) ?_ ?_ kunder
    (initial kunder) ⟨rfl, rfl, rfl⟩
  · obtain ⟨s, hs, hout⟩ := hloop
    refine .bind hs.settles ?_
    rw [hout]
    exact .const _
  · intro s h
    refine ⟨by simp [h.more], { s with eofFlag := 'Y' }, ?_, rfl, ?_⟩
    · simp only [kundeBody, h.file]
      exact .const _
    · have hout := h.out
      rwa [List.map_nil, List.flatMap_nil, List.append_nil] at hout
  · intro line rest s h
    obtain ⟨hout, hfile, hmore⟩ := behandlKunde_spec { s with
      kundefilIn := rest
      kundeRekordIn := PicX.ofLine 211 line }
    refine ⟨by simp [h.more], behandlKunde { s with
        kundefilIn := rest
        kundeRekordIn := PicX.ofLine 211 line }, ?_, hfile,
      hmore.trans h.more, ?_⟩
    · simp only [kundeBody, h.file]
      exact .const _
    · rw [hout, List.append_assoc, ← h.out, List.map_cons,
        List.flatMap_cons]

/-- Customers do not show in each other's blocks: two files in a row are
written as each alone. -/
theorem writes_append {A B a b : List Line} (ha : Writes A a)
    (hb : Writes B b) : Writes (A ++ B) (a ++ b) := by
  obtain rfl : a = (A.map (PicX.ofLine 211)).flatMap blok := by
    simpa using ha.unique (writes_blokke A)
  obtain rfl : b = (B.map (PicX.ofLine 211)).flatMap blok := by
    simpa using hb.unique (writes_blokke B)
  rw [← List.flatMap_append, ← List.map_append]
  exact writes_blokke (A ++ B)

-- ============================================================== the lines

/-- A put whose text fits the record but for blanks writes all of it. -/
theorem skrevet_eq_linje {sources : List Line}
    (h : (Blank.trimEnd ' ' sources.flatten).length ≤ 100) :
    skrevet sources = linje sources := by
  rw [skrevet, PicX.written, PicX.chars_string, PicX.chars_spaces,
    Blank.overlay_replicate, Blank.trimEnd_fit_of_trimEnd h, linje]

theorem linje_pair (label text : Line) :
    linje [label, text] = Blank.trimEnd ' ' (label ++ text) := by
  simp [linje]

/-- A label in front of a buffer is written as a label in front of the
text of the buffer. -/
theorem skrevet_buffer {n : Nat} {label text : Line} (hn : text.length ≤ n)
    (h : label.length + text.length ≤ 100) :
    skrevet [label, Blank.fit ' ' n text] = linje [label, text] := by
  have htrim : linje [label, Blank.fit ' ' n text] = linje [label, text] := by
    rw [linje_pair, linje_pair, Blank.trimEnd_append_eq_iff,
      Blank.trimEnd_fit hn]
  rw [skrevet_eq_linje, htrim]
  show (linje [label, Blank.fit ' ' n text]).length ≤ 100
  rw [htrim, linje_pair]
  apply (Blank.length_trimEnd_le ..).trans
  rw [List.length_append]
  exact h

/-- So a line is complete exactly when the text of its buffer is the
trimmed fields. -/
theorem skrevet_buffer_iff {n : Nat} {label : String} {text : Line}
    (hn : text.length ≤ n) (h : label.toList.length + text.length ≤ 100)
    (felter : List Line) :
    skrevet [label.toList, Blank.fit ' ' n text] = completeLine label felter
      ↔ Blank.trimEnd ' ' text = Blank.trimEnd ' '
        (Words.unwords ' ' (felter.map (Blank.trim ' '))) := by
  rw [skrevet_buffer hn h, completeLine, linje_pair, linje_pair,
    Blank.trimEnd_append_eq_iff]

/-- Fields strung up to their first space into a buffer that holds them,
and from there into the record, are complete exactly when no field has a
letter behind a space. -/
theorem skrevet_felter_iff {n : Nat} {label : String}
    {kilder felter : List Line}
    (hkilder : kilder.flatten
      = Words.unwords ' ' (felter.map (Delimited.cutAt ' ')))
    (hn : kilder.flatten.length ≤ n)
    (h : label.toList.length + kilder.flatten.length ≤ 100) :
    skrevet [label.toList, ((PicX.spaces n).string kilder).chars]
        = completeLine label felter
      ↔ ∀ f ∈ felter, Delimited.Gapless ' ' f := by
  rw [PicX.chars_string, PicX.chars_spaces, Blank.overlay_replicate,
    skrevet_buffer_iff hn h, hkilder,
    Delimited.trimEnd_unwords_cutAt_eq_iff]

theorem adrLinje_iff (k : KundeRekord) :
    skrevet ["ADRESSE: ".toList,
        ((PicX.spaces 100).string (adrKilder k)).chars]
        = completeLine "ADRESSE: " (adrFelter k)
      ↔ ∀ f ∈ adrFelter k, Delimited.Gapless ' ' f := by
  have hkilder : (adrKilder k).flatten
      = Words.unwords ' ' ((adrFelter k).map (Delimited.cutAt ' ')) := by
    simp [adrKilder, adrFelter, Words.unwords_cons, PicX.untilSpace,
      Delimited.cutAt]
  have hlen : (adrKilder k).flatten.length ≤ 48 := by
    have hvejnavn := k.vejnavn.length_untilSpace_le
    have hhusnr := k.husnr.length_untilSpace_le
    have hetage := k.etage.length_untilSpace_le
    have hside := k.side.length_untilSpace_le
    simp [adrKilder]
    omega
  have hlabel : "ADRESSE: ".toList.length = 9 := rfl
  exact skrevet_felter_iff hkilder (by omega) (by omega)

theorem byLinje_iff (k : KundeRekord) :
    skrevet ["BY: ".toList, ((PicX.spaces 60).string (byKilder k)).chars]
        = completeLine "BY: " (byFelter k)
      ↔ ∀ f ∈ byFelter k, Delimited.Gapless ' ' f := by
  have hkilder : (byKilder k).flatten
      = Words.unwords ' ' ((byFelter k).map (Delimited.cutAt ' ')) := by
    simp [byKilder, byFelter, Words.unwords_cons, PicX.untilSpace,
      Delimited.cutAt]
  have hlen : (byKilder k).flatten.length ≤ 25 := by
    have hpostnr := k.postnr.length_untilSpace_le
    have hbyX := k.byX.length_untilSpace_le
    simp [byKilder]
    omega
  have hlabel : "BY: ".toList.length = 4 := rfl
  exact skrevet_felter_iff hkilder (by omega) (by omega)

theorem kontaktLinje_iff (k : KundeRekord) :
    skrevet ["KONTAKT: ".toList,
        ((PicX.spaces 80).string (kontaktKilder k)).chars]
        = completeLine "KONTAKT: " (kontaktFelter k)
      ↔ ∀ f ∈ kontaktFelter k, Delimited.Gapless ' ' f := by
  have hkilder : (kontaktKilder k).flatten
      = Words.unwords ' ' ((kontaktFelter k).map (Delimited.cutAt ' ')) := by
    simp [kontaktKilder, kontaktFelter, Words.unwords_cons,
      PicX.untilSpace, Delimited.cutAt]
  have hlen : (kontaktKilder k).flatten.length ≤ 59 := by
    have htelefon := k.telefon.length_untilSpace_le
    have hemail := k.email.length_untilSpace_le
    simp [kontaktKilder]
    omega
  have hlabel : "KONTAKT: ".toList.length = 9 := rfl
  exact skrevet_felter_iff hkilder (by omega) (by omega)

/-- The name line is complete when no name has a letter behind a space,
the two fit FULDT-NAVN, and the separator is not in front. -/
theorem navnLinje_iff (k : KundeRekord) :
    skrevet ["NAVN: ".toList, (fuldtNavn k).chars]
        = completeLine "NAVN: " (navnFelter k)
      ↔ (∀ f ∈ navnFelter k, Delimited.Gapless ' ' f)
        ∧ (' ' ∈ k.fornavn.chars ∨ ' ' ∈ k.efternavn.chars)
        ∧ (k.fornavn = PicX.spaces 20 → k.efternavn = PicX.spaces 20) := by
  have hkilder : (navnKilder k).flatten = Words.unwords ' '
      [Delimited.cutAt ' ' k.fornavn.chars,
        Delimited.cutAt ' ' k.efternavn.chars] := by
    simp [navnKilder, Words.unwords_cons, PicX.untilSpace, Delimited.cutAt]
  have hlabel : "NAVN: ".toList.length = 6 := rfl
  have hlen := PicX.length_trim_le ((PicX.spaces 40).string (navnKilder k))
  rw [fuldtNavn, PicX.chars_ofLine, skrevet_buffer_iff hlen (by omega),
    PicX.trim, PicX.chars_string, PicX.chars_spaces,
    Blank.overlay_replicate, hkilder, Blank.trimEnd_trim]
  show _ = Blank.trimEnd ' ' (Words.unwords ' '
    [Blank.trim ' ' k.fornavn.chars, Blank.trim ' ' k.efternavn.chars]) ↔ _
  rw [Delimited.trim_fit_unwords_cutAt_eq_iff (by simp) (by simp)]
  have hfelter : (∀ f ∈ navnFelter k, Delimited.Gapless ' ' f)
      ↔ Delimited.Gapless ' ' k.fornavn.chars
        ∧ Delimited.Gapless ' ' k.efternavn.chars := by
    simp [navnFelter]
  rw [hfelter]
  refine and_congr_right fun hgap => ?_
  obtain ⟨hfornavn, hefternavn⟩ := hgap
  have hroom : (Delimited.cutAt ' ' k.fornavn.chars).length
        + (Delimited.cutAt ' ' k.efternavn.chars).length < 40
      ↔ ' ' ∈ k.fornavn.chars ∨ ' ' ∈ k.efternavn.chars := by
    have hfle := Delimited.length_cutAt_le ' ' k.fornavn.chars
    have hele := Delimited.length_cutAt_le ' ' k.efternavn.chars
    rw [← Delimited.length_cutAt_lt_iff, ← Delimited.length_cutAt_lt_iff]
    rw [PicX.length_chars] at hfle hele ⊢
    rw [PicX.length_chars]
    omega
  rw [hroom, Delimited.cutAt_eq_nil_iff hfornavn,
    Delimited.cutAt_eq_nil_iff hefternavn, PicX.eq_spaces_iff,
    PicX.eq_spaces_iff]

-- ============================================================== the block

theorem kundeIdLinje_eq (k : KundeRekord) :
    skrevet ["KUNDE-ID: ".toList, k.kundeId.chars]
      = linje ["KUNDE-ID: ".toList, k.kundeId.chars] := by
  apply skrevet_eq_linje
  apply (Blank.length_trimEnd_le ..).trans
  simp

theorem kontoLinje_eq (k : KundeRekord) :
    skrevet ["KONTO: ".toList,
        ((PicX.spaces 60).string (kontoKilder k)).chars]
      = linje ("KONTO: ".toList :: kontoKilder k) := by
  have hlen : (kontoKilder k).flatten.length = 36 := by
    simp [kontoKilder]
  have hlabel : "KONTO: ".toList.length = 7 := rfl
  rw [PicX.chars_string, PicX.chars_spaces, Blank.overlay_replicate,
    skrevet_buffer (by omega) (by omega), linje, linje]
  simp

/-- A block is complete exactly when its record is reportable. -/
theorem blok_eq_iff (k : KundeRekord) :
    blok k = completeBlock k ↔ Reportable k := by
  have hblank : (PicX.spaces 100).written = [] :=
    Blank.trimEnd_replicate ' ' 100
  unfold blok completeBlock
  simp only [List.cons.injEq, kundeIdLinje_eq, kontoLinje_eq, hblank,
    navnLinje_iff, adrLinje_iff, byLinje_iff, kontaktLinje_iff, true_and,
    and_true]
  constructor
  · intro h
    obtain ⟨⟨hnavn, hroom, hfornavn⟩, hadr, hby, hkontakt⟩ := h
    refine ⟨?_, hroom, hfornavn⟩
    simp only [List.forall_mem_append]
    exact ⟨⟨⟨hnavn, hadr⟩, hby⟩, hkontakt⟩
  · intro h
    have hgapless := h.gapless
    simp only [List.forall_mem_append] at hgapless
    obtain ⟨⟨⟨hnavn, hadr⟩, hby⟩, hkontakt⟩ := hgapless
    exact ⟨⟨hnavn, h.room, h.fornavn⟩, hadr, hby, hkontakt⟩

-- ================================================ when they are complete

/-- What the program leaves is compared block by block. -/
theorem complete_iff_blok (kunder : List Line) :
    Complete kunder ↔ ∀ l ∈ kunder,
      blok (PicX.ofLine 211 l) = completeBlock (PicX.ofLine 211 l) := by
  have hblokke : Complete kunder
      ↔ (kunder.map (PicX.ofLine 211)).flatMap blok
        = (kunder.map (PicX.ofLine 211)).flatMap completeBlock := by
    have hwrites := writes_blokke kunder
    constructor
    · intro hcomplete
      simpa using hwrites.unique hcomplete
    · intro heq
      rwa [heq] at hwrites
  have hlen : ∀ k, (blok k).length = (completeBlock k).length := by
    intro k
    calc (blok k).length = 7 := rfl
      _ = (completeBlock k).length := rfl
  rw [hblokke, Join.flatMap_eq_flatMap_iff hlen, List.forall_mem_map]

/-- The program reports a customer file completely exactly when every
record of it is reportable. -/
theorem complete_iff (kunder : List Line) :
    Complete kunder ↔ ∀ l ∈ kunder, Reportable (PicX.ofLine 211 l) := by
  rw [complete_iff_blok]
  exact forall₂_congr fun l _ => blok_eq_iff (PicX.ofLine 211 l)

/-- The first line of `Kundeoplysninger.txt`. -/
def michaelB : Line :=
  "K123456789".toList ++ Blank.fit ' ' 20 "Michael B".toList
    ++ Blank.fit ' ' 20 "Nielsen".toList
    ++ Blank.fit ' ' 20 "DK0987654321".toList ++ "98765.43 DKK".toList
    ++ Blank.fit ' ' 30 "Vejnavn".toList ++ "12A  1    Th   ".toList
    ++ Blank.fit ' ' 20 "Koebenhavn".toList ++ "2100DK12345678".toList
    ++ "michael@nielsen.dk".toList

/-- Its second first name is not written. -/
theorem not_complete_michaelB : ¬ Complete [michaelB] := by
  rw [complete_iff_blok]
  intro h
  have hreportable := (blok_eq_iff _).mp (h _ List.mem_cons_self)
  have hgap := hreportable.gapless _ List.mem_cons_self
  revert hgap
  decide

/-- The line the sample run recorded for it. -/
example : skrevet ["NAVN: ".toList,
      (fuldtNavn (PicX.ofLine 211 michaelB)).chars]
    = "NAVN: Michael Nielsen".toList := by
  decide

end CobolExercises.Solutions.Opgave7
