/-
Reference solution 8: the account file read again for every customer.

Both loops read a file to its end, and each is the fold of one paragraph
over the records: the accounts with `matchKonto`, the customers with
`behandl`. The report follows from the folds (`foldl_behandl_lines`).
-/
import CobolExercises.Solutions.Report

namespace CobolExercises.Solutions.Opgave8

open Lib

-- =========================================================== the program

/-- The files, flags and record areas of the program, and its report. -/
structure State where
  kundefil : List Line
  kontofil : List Line
  eofKunde : Char
  eofKonti : Char
  kundeRekord : KundeRekord
  kontoRekord : KontoRekord
  report : Report

/-- After `OPEN INPUT KUNDEFIL`, `OPEN OUTPUT OUT-FIL`. -/
def initial (kunder : List Line) : State where
  kundefil := kunder
  kontofil := []
  eofKunde := 'N'
  eofKonti := 'N'
  kundeRekord := PicX.spaces 211
  kontoRekord := PicX.spaces 52
  report := Report.opened

/-- `READ KONTOFIL … END-READ`. -/
def kontiBody (s : State) : Exec State :=
  match s.kontofil with
  | [] => .ok { s with eofKonti := 'Y' }
  | line :: rest =>
      let s := { s with kontofil := rest, kontoRekord := PicX.ofLine 52 line }
      .ok { s with report := matchKonto s.kundeRekord s.report s.kontoRekord }

/-- LÆS-KONTI; `konti` is what `OPEN INPUT KONTOFIL` finds. -/
def laesKonti (konti : List Line) (fuel : Nat) (s : State) : Exec State :=
  loopUntil (fun s => s.eofKonti == 'Y') kontiBody fuel
    { s with kontofil := konti, eofKonti := 'N' }

/-- `READ KUNDEFIL … END-READ`. -/
def kundeBody (konti : List Line) (fuel : Nat) (s : State) : Exec State :=
  match s.kundefil with
  | [] => .ok { s with eofKunde := 'Y' }
  | line :: rest => do
      let s := { s with kundefil := rest, kundeRekord := PicX.ofLine 211 line }
      let s := { s with report := hoved s.kundeRekord s.report }
      let s ← laesKonti konti fuel s
      pure { s with report := skrivBlank s.report }

/-- MAIN-PROGRAM: the lines of `KUNDEKONTO.txt` at STOP RUN. -/
def mainProgram (kunder konti : List Line) (fuel : Nat) :
    Exec (List Line) := do
  let s ← loopUntil (fun s => s.eofKunde == 'Y') (kundeBody konti fuel)
    fuel (initial kunder)
  pure s.report.lines

/-- The program ends and leaves the lines `out`. -/
def Writes (kunder konti out : List Line) : Prop :=
  Settles (mainProgram kunder konti) (.ok out)

-- ======================================================== the account loop

/-- With `rest` unread, its accounts take the report to `goal`; the
customer side is `k`, `kunder`. -/
structure KontiInv (k : KundeRekord) (kunder : List Line) (goal : Report)
    (rest : List Line) (s : State) : Prop where
  file : s.kontofil = rest
  more : s.eofKonti = 'N'
  report : (rest.map (PicX.ofLine 52)).foldl (matchKonto k) s.report = goal
  kunde : s.kundeRekord = k
  kundefil : s.kundefil = kunder
  eofKunde : s.eofKunde = 'N'

/-- LÆS-KONTI matches every account. -/
theorem laesKonti_settles (konti : List Line) {s : State}
    (h : s.eofKunde = 'N') :
    ∃ s', Settles (fun fuel => laesKonti konti fuel s) (.ok s')
      ∧ s'.report = (konti.map (PicX.ofLine 52)).foldl
        (matchKonto s.kundeRekord) s.report
      ∧ s'.kundefil = s.kundefil ∧ s'.eofKunde = 'N' := by
  have hloop := LoopSettles.reading
    (fun s : State => s.eofKonti == 'Y')
    (fun _ => kontiBody)
    (P := KontiInv s.kundeRekord s.kundefil
      ((konti.map (PicX.ofLine 52)).foldl (matchKonto s.kundeRekord)
        s.report))
    (Q := fun s' => s'.report = (konti.map (PicX.ofLine 52)).foldl
        (matchKonto s.kundeRekord) s.report
      ∧ s'.kundefil = s.kundefil ∧ s'.eofKunde = 'N') ?_ ?_ konti
    { s with kontofil := konti, eofKonti := 'N' }
    ⟨rfl, rfl, rfl, rfl, rfl, h⟩
  · obtain ⟨s', hs', hQ⟩ := hloop
    exact ⟨s', hs'.settles, hQ⟩
  · intro t h
    refine ⟨by simp [h.more], { t with eofKonti := 'Y' }, ?_, rfl,
      h.report, h.kundefil, h.eofKunde⟩
    simp only [kontiBody, h.file]
    exact .const _
  · intro line rest t h
    refine ⟨by simp [h.more], { t with
        kontofil := rest
        kontoRekord := PicX.ofLine 52 line
        report := matchKonto t.kundeRekord t.report
          (PicX.ofLine 52 line) }, ?_,
      rfl, h.more, ?_, h.kunde, h.kundefil, h.eofKunde⟩
    · simp only [kontiBody, h.file]
      exact .const _
    · rw [← h.report, h.kunde]
      rfl

-- ======================================================= the customer loop

/-- With `rest` unread, its customers take the report to `goal`. -/
structure KundeInv (konti : List KontoRekord) (goal : Report)
    (rest : List Line) (s : State) : Prop where
  file : s.kundefil = rest
  more : s.eofKunde = 'N'
  report : (rest.map (PicX.ofLine 211)).foldl (behandl konti) s.report
    = goal

/-- Every run ends with the report. -/
theorem writes_rapport (kunder konti : List Line) :
    Writes kunder konti (rapport (konti.map (PicX.ofLine 52))
      (PicX.spaces 40) (kunder.map (PicX.ofLine 211))) := by
  have hloop := LoopSettles.reading
    (fun s : State => s.eofKunde == 'Y')
    (kundeBody konti)
    (P := KundeInv (konti.map (PicX.ofLine 52))
      ((kunder.map (PicX.ofLine 211)).foldl
        (behandl (konti.map (PicX.ofLine 52))) Report.opened))
    (Q := fun s => s.report = (kunder.map (PicX.ofLine 211)).foldl
        (behandl (konti.map (PicX.ofLine 52))) Report.opened) ?_ ?_ kunder
    (initial kunder) ⟨rfl, rfl, rfl⟩
  · obtain ⟨s, hs, hreport⟩ := hloop
    refine .bind hs.settles ?_
    rw [hreport, foldl_behandl_lines _ _ Report.AdrClean.opened]
    exact .const _
  · intro s h
    refine ⟨by simp [h.more], { s with eofKunde := 'Y' }, ?_, rfl,
      h.report⟩
    simp only [kundeBody, h.file]
    exact .const _
  · intro line rest s h
    obtain ⟨t, ht, hreport, hfile, hmore⟩ := laesKonti_settles konti
      (s := { s with
        kundefil := rest
        kundeRekord := PicX.ofLine 211 line
        report := hoved (PicX.ofLine 211 line) s.report }) h.more
    refine ⟨by simp [h.more], { t with report := skrivBlank t.report }, ?_,
      hfile, hmore, ?_⟩
    · simp only [kundeBody, h.file]
      exact .bind ht (.const _)
    · rw [← h.report, hreport]
      rfl

end CobolExercises.Solutions.Opgave8
