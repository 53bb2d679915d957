/-
Opgave 8: the customer file read once, the account file opened and read
again for every customer.

# The program

Two nested read loops share one output file. The inner loop is entered
with the account file re-opened and `end-of-konto` reset; both happen in
the outer body, before the loop (`kundeLoopBody`), so every customer
meets the whole account file.

# The proof

Both loops read a list to its end (`LoopSettles.reading`). Their
invariants say what is still to come: the lines written so far, followed
by the lines the unread records will add, are the lines of the whole
loop. The inner invariant also pins the customer side, which the inner
loop must not touch.
-/
import CobolExercises.Opgave.Report

namespace CobolExercises.Opgave.Opgave8

open Lib

-- =========================================================== the program

/-- The files, flags and record areas of the program. -/
structure State where
  kundeFile : List Line
  kontoFile : List Line
  endOfFile : Char
  endOfKonto : Char
  kundeInfo : KundeInfo
  kontoInfo : KontoInfo
  output : Report

/-- After `open input kunde-file`, `open output output-file`. -/
def initial (kunder : List Line) : State where
  kundeFile := kunder
  kontoFile := []
  endOfFile := 'N'
  endOfKonto := 'N'
  kundeInfo := PicX.spaces 179
  kontoInfo := PicX.spaces 52
  output := Report.opened

/-- NOT AT END of the account READ. -/
def kontoRead (s : State) (line : Line) (rest : List Line) : State :=
  let s := { s with kontoFile := rest, kontoInfo := PicX.ofLine 52 line }
  if s.kundeInfo.customerId = s.kontoInfo.customerId then
    { s with output :=
        formatBalance s.kontoInfo (formatKonto s.kontoInfo s.output) }
  else s

/-- `read konto-file into konto-info … end-read`. -/
def kontoLoopBody (s : State) : Exec State :=
  match s.kontoFile with
  | [] => .ok { s with endOfKonto := 'Y' }
  | line :: rest => .ok (kontoRead s line rest)

/-- `perform until end-of-konto = "Y"`. -/
def kontoLoop (fuel : Nat) : State → Exec State :=
  loopUntil (fun s => s.endOfKonto == 'Y') kontoLoopBody fuel

/-- `read kunde-file into kunde-info … end-read`; `konti` is what
`open input konto-file` finds. -/
def kundeLoopBody (konti : List Line) (fuel : Nat) (s : State) :
    Exec State :=
  match s.kundeFile with
  | [] => .ok { s with endOfFile := 'Y' }
  | line :: rest => do
      let s := { s with kundeFile := rest, kundeInfo := PicX.ofLine 179 line }
      let s := { s with output := handleCustomer s.kundeInfo s.output }
      let s := { s with kontoFile := konti }
      let s := { s with endOfKonto := 'N' }
      let s ← kontoLoop fuel s
      pure { s with output := writeSeparator s.output }

/-- The procedure division: the lines of `output.txt` at `stop run`. -/
def readWriteFile (kunder konti : List Line) (fuel : Nat) :
    Exec (List Line) := do
  let s ← loopUntil (fun s => s.endOfFile == 'Y')
    (kundeLoopBody konti fuel) fuel (initial kunder)
  pure s.output.lines

/-- The program ends and leaves the lines `out`. -/
def Writes (kunder konti out : List Line) : Prop :=
  Settles (readWriteFile kunder konti) (.ok out)

-- ========================================================= the inner loop

/-- With `rest` unread, the lines written and the lines `rest` will add
make up `goal`; the customer side is `k`, `kunder`. -/
structure KontoInv (k : KundeInfo) (kunder goal rest : List Line)
    (s : State) : Prop where
  file : s.kontoFile = rest
  open_ : s.endOfKonto = 'N'
  lines : s.output.lines
    ++ (rest.map (PicX.ofLine 52)).flatMap (matchLines k) = goal
  kunde : s.kundeInfo = k
  kundeFile : s.kundeFile = kunder
  more : s.endOfFile = 'N'

/-- One account record keeps the invariant. -/
theorem KontoInv.read {k : KundeInfo} {kunder goal rest : List Line}
    {line : Line} {s : State} (h : KontoInv k kunder goal (line :: rest) s) :
    KontoInv k kunder goal rest (kontoRead s line rest) := by
  have hout : (kontoRead s line rest).output.lines
      = s.output.lines ++ matchLines k (PicX.ofLine 52 line) := by
    rw [← h.kunde, ← ite_formatKonto_lines]
    unfold kontoRead
    dsimp only
    split <;> rfl
  constructor
  · unfold kontoRead; dsimp only; split <;> rfl
  · rw [← h.open_]; unfold kontoRead; dsimp only; split <;> rfl
  · rw [hout, List.append_assoc]
    exact h.lines
  · rw [← h.kunde]; unfold kontoRead; dsimp only; split <;> rfl
  · rw [← h.kundeFile]; unfold kontoRead; dsimp only; split <;> rfl
  · rw [← h.more]; unfold kontoRead; dsimp only; split <;> rfl

/-- The inner loop ends with its goal written and the customer side as
it was. -/
theorem kontoLoop_settles {k : KundeInfo} {kunder goal konti : List Line}
    {s : State} (h : KontoInv k kunder goal konti s) :
    ∃ s', Settles (fun fuel => kontoLoop fuel s) (.ok s')
      ∧ s'.output.lines = goal ∧ s'.kundeFile = kunder
      ∧ s'.endOfFile = 'N' := by
  have hloop := LoopSettles.reading
    (fun s : State => s.endOfKonto == 'Y')
    (fun _ => kontoLoopBody) (P := KontoInv k kunder goal)
    (Q := fun s' => s'.output.lines = goal ∧ s'.kundeFile = kunder
      ∧ s'.endOfFile = 'N') ?_ ?_ konti s h
  · obtain ⟨s', hs', hQ⟩ := hloop
    exact ⟨s', hs'.settles, hQ⟩
  · intro s h
    refine ⟨by simp [h.open_], { s with endOfKonto := 'Y' }, ?_, rfl, ?_⟩
    · simp only [kontoLoopBody, h.file]
      exact .const _
    · exact ⟨by simpa using h.lines, h.kundeFile, h.more⟩
  · intro line rest s h
    refine ⟨by simp [h.open_], kontoRead s line rest, ?_, h.read⟩
    simp only [kontoLoopBody, h.file]
    exact .const _

-- ========================================================= the outer loop

/-- With `rest` unread, the lines written and the blocks of `rest` make
up `goal`. -/
structure KundeInv (konti : List KontoInfo) (goal rest : List Line)
    (s : State) : Prop where
  file : s.kundeFile = rest
  more : s.endOfFile = 'N'
  lines : s.output.lines
    ++ (rest.map (PicX.ofLine 179)).flatMap (kundeLines konti) = goal

/-- One customer: enough fuel brings the body to its end, and the
invariant holds again. -/
theorem kundeLoopBody_settles {konti goal rest : List Line} {line : Line}
    {s : State}
    (h : KundeInv (konti.map (PicX.ofLine 52)) goal (line :: rest) s) :
    ∃ s', Settles (fun fuel => kundeLoopBody konti fuel s) (.ok s')
      ∧ KundeInv (konti.map (PicX.ofLine 52)) goal rest s' := by
  have hinner : KontoInv (PicX.ofLine 179 line) rest
      ((handleCustomer (PicX.ofLine 179 line) s.output).lines
        ++ (konti.map (PicX.ofLine 52)).flatMap
          (matchLines (PicX.ofLine 179 line))) konti
      { s with
        kundeFile := rest
        kundeInfo := PicX.ofLine 179 line
        output := handleCustomer (PicX.ofLine 179 line) s.output
        kontoFile := konti
        endOfKonto := 'N' } :=
    ⟨rfl, rfl, rfl, rfl, rfl, h.more⟩
  obtain ⟨t, ht, hlines, hfile, hmore⟩ := kontoLoop_settles hinner
  refine ⟨{ t with output := writeSeparator t.output }, ?_, hfile, hmore, ?_⟩
  · simp only [kundeLoopBody, h.file]
    exact .bind ht (.const _)
  · show (writeSeparator t.output).lines ++ _ = goal
    rw [writeSeparator_lines, hlines, handleCustomer_lines, ← h.lines,
      List.map_cons, List.flatMap_cons, kundeLines]
    simp only [List.append_assoc]

/-- Every run ends, with the block of every customer in file order. -/
theorem writes_reportLines (kunder konti : List Line) :
    Writes kunder konti (reportLines kunder konti) := by
  have hloop := LoopSettles.reading
    (fun s : State => s.endOfFile == 'Y')
    (kundeLoopBody konti)
    (P := KundeInv (konti.map (PicX.ofLine 52)) (reportLines kunder konti))
    (Q := fun s' => s'.output.lines = reportLines kunder konti) ?_ ?_ kunder
    (initial kunder) ⟨rfl, rfl, rfl⟩
  · obtain ⟨s', hs', hlines⟩ := hloop
    refine .bind hs'.settles ?_
    rw [← hlines]
    exact .const _
  · intro s h
    refine ⟨by simp [h.more], { s with endOfFile := 'Y' }, ?_, rfl, ?_⟩
    · simp only [kundeLoopBody, h.file]
      exact .const _
    · simpa using h.lines
  · intro line rest s h
    exact ⟨by simp [h.more], kundeLoopBody_settles h⟩

-- ============================================================= the report

/-- The report of opgave 8 is the join of its two files: for every
customer line the header lines, the two lines of every account record
with the customer's id in file order, and one separator, whatever the
contents of the records. -/
theorem writes_joinReport (kunder konti : List Line) :
    Writes kunder konti
      (stripped (joinReport (kunder.map (PicX.ofLine 179))
        (konti.map (PicX.ofLine 52)))) := by
  rw [← reportLines_eq_joinReport]
  exact writes_reportLines kunder konti

end CobolExercises.Opgave.Opgave8
