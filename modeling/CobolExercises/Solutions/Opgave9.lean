/-
Reference solution 9: the account file loaded into `KONTO-ARRAY`, the
table scanned for every customer.

The table has 50 entries and the counters three digits, so within the
table no counter wraps. `KONTO-COUNT` is the next free subscript: it
starts at one, and the scan ends where it reaches it.
-/
import CobolExercises.Lib.Table
import CobolExercises.Solutions.Report

namespace CobolExercises.Solutions.Opgave9

open Lib

-- =========================================================== the program

/-- The files, flags, table, counters and record areas of the program,
and its report. -/
structure State where
  kontofil : List Line
  kundefil : List Line
  eofKunde : Char
  eofKonti : Char
  kundeRekord : KundeRekord
  kontoRekord : KontoRekord
  kontoArray : Nat → KontoRekord
  kontoCount : Pic9 3
  ixKonti : Pic9 3
  report : Report

/-- After `OPEN INPUT KONTOFIL`, `MOVE 1 TO KONTO-COUNT`. -/
def initial (konti : List Line) : State where
  kontofil := konti
  kundefil := []
  eofKunde := 'N'
  eofKonti := 'N'
  kundeRekord := PicX.spaces 211
  kontoRekord := PicX.spaces 52
  kontoArray := fun _ => PicX.spaces 52
  kontoCount := 1
  ixKonti := 1
  report := Report.opened

/-- `READ KONTOFIL … END-READ`. -/
def loadBody (s : State) : Exec State :=
  match s.kontofil with
  | [] => .ok { s with eofKonti := 'Y' }
  | line :: rest => do
      let s := { s with kontofil := rest, kontoRekord := PicX.ofLine 52 line }
      let i ← subscript (some 50) s.kontoCount.val
      let s := { s with
        kontoArray := Function.update s.kontoArray i s.kontoRekord }
      pure { s with kontoCount := s.kontoCount + 1 }

/-- `PERFORM UNTIL END-KONTI`. -/
def load (konti : List Line) (fuel : Nat) : Exec State :=
  loopUntil (fun s => s.eofKonti == 'Y') loadBody fuel (initial konti)

/-- One iteration of MATCH-KONTI, its `BY 1` included. -/
def matchBody (s : State) : Exec State := do
  let i ← subscript (some 50) s.ixKonti.val
  let s := { s with
    report := matchKonto s.kundeRekord s.report (s.kontoArray i) }
  pure { s with ixKonti := s.ixKonti + 1 }

/-- MATCH-KONTI. -/
def matchKonti (fuel : Nat) (s : State) : Exec State :=
  loopUntil (fun s => decide (s.ixKonti ≥ s.kontoCount)) matchBody fuel
    { s with ixKonti := 1 }

/-- `READ KUNDEFIL … END-READ`. -/
def kundeBody (fuel : Nat) (s : State) : Exec State :=
  match s.kundefil with
  | [] => .ok { s with eofKunde := 'Y' }
  | line :: rest => do
      let s := { s with kundefil := rest, kundeRekord := PicX.ofLine 211 line }
      let s := { s with report := hoved s.kundeRekord s.report }
      let s ← matchKonti fuel s
      pure { s with report := skrivBlank s.report }

/-- MAIN-PROGRAM: the lines of `KUNDEKONTO.txt` at STOP RUN. -/
def mainProgram (kunder konti : List Line) (fuel : Nat) :
    Exec (List Line) := do
  let s ← load konti fuel
  let s ← loopUntil (fun s => s.eofKunde == 'Y') (kundeBody fuel) fuel
    { s with kundefil := kunder }
  pure s.report.lines

/-- The program ends and leaves the lines `out`. -/
def Writes (kunder konti out : List Line) : Prop :=
  Settles (mainProgram kunder konti) (.ok out)

-- =========================================================== the load loop

/-- `pre` is loaded and `rest` unread. -/
structure LoadInv (pre rest : List Line) (s : State) : Prop where
  file : s.kontofil = rest
  count : s.kontoCount.val = pre.length + 1
  table : Table.entries s.kontoArray pre.length
    = pre.map (PicX.ofLine 52)
  eofKunde : s.eofKunde = 'N'
  report : s.report = Report.opened

/-- One account record keeps the invariant. -/
theorem LoadInv.read {pre rest : List Line} {line : Line} {s : State}
    (h : LoadInv pre (line :: rest) s) (hlen : pre.length < 50) :
    ∃ s', loadBody s = .ok s' ∧ s'.eofKonti = s.eofKonti
      ∧ LoadInv (pre ++ [line]) rest s' := by
  have hsub : subscript (some 50) s.kontoCount.val
      = .ok (pre.length + 1) := by
    rw [h.count]
    refine subscript_eq_ok ?_
    intro m hm
    cases hm
    omega
  simp only [loadBody, h.file, hsub, Run.ok_bind]
  refine ⟨_, rfl, rfl, rfl, ?_, ?_, h.eofKunde, h.report⟩
  · show (s.kontoCount + 1).val = _
    rw [Pic9.val_add_one (by omega) _ (by rw [h.count]; omega), h.count,
      List.length_append, List.length_singleton]
  · show Table.entries (Function.update s.kontoArray (pre.length + 1) _) _
      = _
    rw [List.length_append, List.length_singleton, Table.entries_store,
      h.table, List.map_append, List.map_singleton]

/-- A file within the table is loaded to its end. -/
theorem load_settles {konti : List Line} (hlen : konti.length ≤ 50) :
    ∃ s, Settles (load konti) (.ok s) ∧ LoadInv konti [] s := by
  have hloop := LoopSettles.reading
    (fun s : State => s.eofKonti == 'Y')
    (fun _ => loadBody)
    (P := fun rest s => s.eofKonti = 'N'
      ∧ ∃ pre, pre ++ rest = konti ∧ LoadInv pre rest s)
    (Q := LoadInv konti []) ?_ ?_ konti (initial konti)
    ⟨rfl, [], rfl, rfl, rfl, rfl, rfl, rfl⟩
  · obtain ⟨s, hs, hQ⟩ := hloop
    exact ⟨s, hs.settles, hQ⟩
  · intro s hs
    obtain ⟨hmore, pre, hpre, h⟩ := hs
    rw [List.append_nil] at hpre
    subst hpre
    refine ⟨by simp [hmore], { s with eofKonti := 'Y' }, ?_, rfl, h.file,
      h.count, h.table, h.eofKunde, h.report⟩
    simp only [loadBody, h.file]
    exact .const _
  · intro line rest s hs
    obtain ⟨hmore, pre, rfl, h⟩ := hs
    rw [List.length_append, List.length_cons] at hlen
    obtain ⟨s', hs', heof, h'⟩ := h.read (by omega)
    refine ⟨by simp [hmore], s', ?_, heof.trans hmore, pre ++ [line],
      by simp, h'⟩
    simp only [hs']
    exact .const _

-- ================================================================ the scan

/-- `m` subscripts are to go in the scan that `t` enters; their accounts
take the report where the whole table takes it. -/
structure MatchInv (t : State) (n m : Nat) (s : State) : Prop where
  index : s.ixKonti.val + m = n + 1
  report : (Table.scan t.kontoArray s.ixKonti.val m).foldl
      (matchKonto t.kundeRekord) s.report
    = (Table.entries t.kontoArray n).foldl (matchKonto t.kundeRekord)
      t.report
  kundeRekord : s.kundeRekord = t.kundeRekord
  kundefil : s.kundefil = t.kundefil
  eofKunde : s.eofKunde = t.eofKunde
  kontoCount : s.kontoCount = t.kontoCount
  kontoArray : s.kontoArray = t.kontoArray

/-- One iteration keeps the invariant. -/
theorem MatchInv.step {t s : State} {n m : Nat}
    (h : MatchInv t n (m + 1) s) (hlo : 1 ≤ s.ixKonti.val)
    (hn : n ≤ 50) :
    ∃ s', matchBody s = .ok s' ∧ 1 ≤ s'.ixKonti.val
      ∧ MatchInv t n m s' := by
  have hindex := h.index
  have hsub : subscript (some 50) s.ixKonti.val = .ok s.ixKonti.val := by
    refine subscript_eq_ok ?_
    intro m hm
    cases hm
    omega
  have hnext : (s.ixKonti + 1).val = s.ixKonti.val + 1 :=
    Pic9.val_add_one (by omega) _ (by omega)
  simp only [matchBody, hsub, Run.ok_bind]
  refine ⟨_, rfl, ?_, ?_, ?_, h.kundeRekord, h.kundefil, h.eofKunde,
    h.kontoCount, h.kontoArray⟩
  · show 1 ≤ (s.ixKonti + 1).val
    omega
  · show (s.ixKonti + 1).val + m = _
    omega
  · show (Table.scan t.kontoArray (s.ixKonti + 1).val m).foldl _
      (matchKonto s.kundeRekord s.report (s.kontoArray _)) = _
    rw [← h.report, hnext, Table.scan_cons, List.foldl_cons,
      h.kundeRekord, h.kontoArray]

/-- MATCH-KONTI matches every entry loaded. -/
theorem matchKonti_settles {t : State} {n : Nat}
    (hcount : t.kontoCount.val = n + 1) (hn : n ≤ 50) :
    ∃ s, Settles (fun fuel => matchKonti fuel t) (.ok s)
      ∧ s.report = (Table.entries t.kontoArray n).foldl
        (matchKonto t.kundeRekord) t.report
      ∧ MatchInv t n 0 s := by
  have hdone : ∀ m s, MatchInv t n m s →
      decide (s.ixKonti ≥ s.kontoCount) = decide (m = 0) := by
    intro m s h
    have hindex := h.index
    rw [h.kontoCount]
    refine decide_eq_decide.mpr ?_
    rw [ge_iff_le, Fin.le_def, hcount]
    omega
  have hloop := LoopSettles.total
    (fun s : State => decide (s.ixKonti ≥ s.kontoCount))
    (fun _ => matchBody)
    (P := fun m s => 1 ≤ s.ixKonti.val ∧ MatchInv t n m s)
    (Q := fun r => ∃ s, r = .ok s ∧ MatchInv t n 0 s) ?_ ?_ n
    { t with ixKonti := 1 }
    ⟨le_rfl, Nat.add_comm _ _, rfl, rfl, rfl, rfl, rfl, rfl⟩
  · obtain ⟨r, hr, s, rfl, h⟩ := hloop
    exact ⟨s, hr.settles, h.report, h⟩
  · intro s hs
    obtain ⟨-, h⟩ := hs
    exact ⟨.ok s, .exit (hdone 0 s h), s, rfl, h⟩
  · intro m s hs
    obtain ⟨hlo, h⟩ := hs
    obtain ⟨s', hs', hlo', h'⟩ := h.step hlo hn
    refine ⟨hdone (m + 1) s h, s', ?_, hlo', h'⟩
    simp only [hs']
    exact .const _

-- ======================================================= the customer loop

/-- The table holds `konti`; with `rest` unread, its customers take the
report to `goal`. -/
structure KundeInv (konti : List KontoRekord) (goal : Report)
    (rest : List Line) (s : State) : Prop where
  file : s.kundefil = rest
  more : s.eofKunde = 'N'
  count : s.kontoCount.val = konti.length + 1
  table : Table.entries s.kontoArray konti.length = konti
  report : (rest.map (PicX.ofLine 211)).foldl (behandl konti) s.report
    = goal

/-- One customer keeps the invariant. -/
theorem kundeBody_settles {konti : List KontoRekord} {goal : Report}
    {rest : List Line} {line : Line} {s : State} (hlen : konti.length ≤ 50)
    (h : KundeInv konti goal (line :: rest) s) :
    ∃ s', Settles (fun fuel => kundeBody fuel s) (.ok s')
      ∧ KundeInv konti goal rest s' := by
  obtain ⟨t, ht, hreport, hmatch⟩ := matchKonti_settles
    (t := { s with
      kundefil := rest
      kundeRekord := PicX.ofLine 211 line
      report := hoved (PicX.ofLine 211 line) s.report }) h.count hlen
  refine ⟨{ t with report := skrivBlank t.report }, ?_, hmatch.kundefil,
    hmatch.eofKunde.trans h.more, ?_, ?_, ?_⟩
  · simp only [kundeBody, h.file]
    exact .bind ht (.const _)
  · rw [← h.count]
    exact congrArg Fin.val hmatch.kontoCount
  · show Table.entries t.kontoArray _ = _
    rw [hmatch.kontoArray]
    exact h.table
  · rw [← h.report, hreport, h.table]
    rfl

/-- Every run over a file within the table ends with the report. -/
theorem writes_rapport {kunder konti : List Line}
    (hlen : konti.length ≤ 50) :
    Writes kunder konti (rapport (konti.map (PicX.ofLine 52))
      (PicX.spaces 40) (kunder.map (PicX.ofLine 211))) := by
  obtain ⟨t, ht, hload⟩ := load_settles hlen
  have hinit : KundeInv (konti.map (PicX.ofLine 52))
      ((kunder.map (PicX.ofLine 211)).foldl
        (behandl (konti.map (PicX.ofLine 52))) Report.opened) kunder
      { t with kundefil := kunder } := by
    refine ⟨rfl, hload.eofKunde, ?_, ?_, ?_⟩
    · rw [List.length_map]
      exact hload.count
    · rw [List.length_map]
      exact hload.table
    · rw [← hload.report]
  have hloop := LoopSettles.reading
    (fun s : State => s.eofKunde == 'Y') kundeBody
    (P := KundeInv (konti.map (PicX.ofLine 52))
      ((kunder.map (PicX.ofLine 211)).foldl
        (behandl (konti.map (PicX.ofLine 52))) Report.opened))
    (Q := fun s => s.report = (kunder.map (PicX.ofLine 211)).foldl
        (behandl (konti.map (PicX.ofLine 52))) Report.opened) ?_ ?_ kunder
    _ hinit
  · obtain ⟨s, hs, hreport⟩ := hloop
    refine .bind ht (.bind hs.settles ?_)
    rw [hreport, foldl_behandl_lines _ _ Report.AdrClean.opened]
    exact .const _
  · intro s h
    refine ⟨by simp [h.more], { s with eofKunde := 'Y' }, ?_, rfl,
      h.report⟩
    simp only [kundeBody, h.file]
    exact .const _
  · intro line rest s h
    exact ⟨by simp [h.more], kundeBody_settles (by simpa using hlen) h⟩

end CobolExercises.Solutions.Opgave9
