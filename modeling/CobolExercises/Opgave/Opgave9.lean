/-
Opgave 9: the account file loaded once into `konto-array`, the table
scanned by subscript for every customer.

# The program

`occurs` is the size of the table: `some 10` is the program as it is
declared, `none` a table that takes every subscript. A subscript outside
the table stops the run; a runtime built without subscript checks would
read and write neighbouring storage there instead.

Both counters have two digits. `scans` and `visits` record the
subscripts the scans use, finished and current; no statement reads them.

# The two limits

- The table: the load stops at record 11 (`load_overflow`).
- The counters: `konto-index` counts modulo 100 (`load_settles`), and a
  scan whose `konto-index` is 99 waits for a two-digit counter to exceed
  99 (`scan_hangs`).

Within both, the table holds the account records in file order and every
scan visits the filled part once (`scan_settles`), so the program writes
what opgave 8 writes (`readWriteFile_settles`).
-/
import CobolExercises.Lib.Table
import CobolExercises.Opgave.Opgave8

namespace CobolExercises.Opgave.Opgave9

open Lib

-- =========================================================== the program

/-- The files, flags, counters, table and record areas of the program. -/
structure State where
  kontoFile : List Line
  kundeFile : List Line
  endOfFile : Char
  endOfKonto : Char
  kundeInfo : KundeInfo
  kontoInfo : KontoInfo
  kontoIndex : Pic9 2
  currentIndex : Pic9 2
  kontoArray : Nat → KontoInfo
  output : Report
  visits : List Nat
  scans : List (List Nat)

/-- After `open input konto-file`. -/
def initial (konti : List Line) : State where
  kontoFile := konti
  kundeFile := []
  endOfFile := 'N'
  endOfKonto := 'N'
  kundeInfo := PicX.spaces 179
  kontoInfo := PicX.spaces 52
  kontoIndex := 0
  currentIndex := 0
  kontoArray := fun _ => PicX.spaces 52
  output := Report.opened
  visits := []
  scans := []

/-- `read konto-file into konto-info … end-read`. -/
def loadBody (occurs : Option Nat) (s : State) : Exec State :=
  match s.kontoFile with
  | [] => .ok { s with endOfKonto := 'Y' }
  | line :: rest => do
      let s := { s with kontoFile := rest, kontoInfo := PicX.ofLine 52 line }
      let s := { s with kontoIndex := s.kontoIndex + 1 }
      let i ← subscript occurs s.kontoIndex.val
      pure { s with
        kontoArray := Function.update s.kontoArray i s.kontoInfo }

/-- `perform until end-of-konto = "Y"`. -/
def load (occurs : Option Nat) (konti : List Line) (fuel : Nat) :
    Exec State :=
  loopUntil (fun s => s.endOfKonto == 'Y') (loadBody occurs) fuel
    (initial konti)

/-- One iteration of the scan, its `by 1` included. -/
def scanBody (occurs : Option Nat) (s : State) : Exec State := do
  let i ← subscript occurs s.currentIndex.val
  let s := { s with visits := s.visits ++ [i] }
  let a := s.kontoArray i
  let s :=
    if s.kundeInfo.customerId = a.customerId then
      { s with output := formatBalance a (formatKonto a s.output) }
    else s
  pure { s with currentIndex := s.currentIndex + 1 }

/-- `perform varying current-index from 1 by 1 until current-index >
konto-index`. -/
def scan (occurs : Option Nat) (fuel : Nat) (s : State) : Exec State := do
  let s := { s with currentIndex := 1, visits := [] }
  let s ← loopUntil (fun s => decide (s.currentIndex > s.kontoIndex))
    (scanBody occurs) fuel s
  pure { s with scans := s.scans ++ [s.visits] }

/-- `read kunde-file into kunde-info … end-read`. -/
def kundeLoopBody (occurs : Option Nat) (fuel : Nat) (s : State) :
    Exec State :=
  match s.kundeFile with
  | [] => .ok { s with endOfFile := 'Y' }
  | line :: rest => do
      let s := { s with kundeFile := rest, kundeInfo := PicX.ofLine 179 line }
      let s := { s with output := handleCustomer s.kundeInfo s.output }
      let s ← scan occurs fuel s
      pure { s with output := writeSeparator s.output }

/-- The procedure division: the state at `stop run`. -/
def readWriteFile (occurs : Option Nat) (kunder konti : List Line)
    (fuel : Nat) : Exec State := do
  let s ← load occurs konti fuel
  let s := { s with kundeFile := kunder }
  loopUntil (fun s => s.endOfFile == 'Y') (kundeLoopBody occurs fuel) fuel s

/-- The program as declared, `konto-array occurs 10 times`, ends and
leaves the lines `out`. -/
def Writes (kunder konti out : List Line) : Prop :=
  ∃ s, Settles (readWriteFile (some 10) kunder konti) (.ok s)
    ∧ s.output.lines = out

-- ============================================================= subscripts

/-- The table has room for `n` entries, and two digits count them. -/
def Fits (occurs : Option Nat) (n : Nat) : Prop :=
  ∀ m ∈ occurs, n ≤ m ∧ n < 100

/-- A subscript that counts up to `n` modulo 100 is in such a table. -/
theorem subscript_of_fits {occurs : Option Nat} {n j i : Nat}
    (hfit : Fits occurs n) (hi : i = j % 100) (hlo : 1 ≤ j)
    (hhi : j ≤ n) : subscript occurs i = .ok i := by
  refine subscript_eq_ok fun m hm => ?_
  obtain ⟨hroom, hlt⟩ := hfit m hm
  omega

/-- Adding one drops the hundreds digit. -/
theorem index_add_one (i : Pic9 2) : (i + 1).val = (i.val + 1) % 100 := by
  rw [Fin.val_add]
  rfl

-- ============================================================ the load loop

/-- `pre` is loaded and `rest` unread: the index counts `pre` modulo 100,
and the table holds it while two digits suffice. -/
structure LoadInv (pre rest : List Line) (s : State) : Prop where
  file : s.kontoFile = rest
  index : s.kontoIndex.val = pre.length % 100
  table : pre.length < 100 →
    Table.entries s.kontoArray pre.length = pre.map (PicX.ofLine 52)
  more : s.endOfFile = 'N'
  output : s.output = Report.opened
  scans : s.scans = []

theorem LoadInv.initial (konti : List Line) :
    LoadInv [] konti (initial konti) :=
  ⟨rfl, rfl, fun _ => rfl, rfl, rfl, rfl⟩

/-- The state after one more account record. -/
def loaded (s : State) (line : Line) (rest : List Line) : State :=
  { s with
    kontoFile := rest
    kontoInfo := PicX.ofLine 52 line
    kontoIndex := s.kontoIndex + 1
    kontoArray := Function.update s.kontoArray (s.kontoIndex + 1).val
      (PicX.ofLine 52 line) }

/-- One account record keeps the invariant. -/
theorem LoadInv.read {pre rest : List Line} {line : Line} {s : State}
    (h : LoadInv pre (line :: rest) s) :
    LoadInv (pre ++ [line]) rest (loaded s line rest) := by
  have hindex : (s.kontoIndex + 1).val = (pre ++ [line]).length % 100 := by
    rw [index_add_one, h.index, List.length_append, List.length_singleton]
    omega
  refine ⟨rfl, hindex, fun hlt => ?_, h.more, h.output, h.scans⟩
  rw [List.length_append, List.length_singleton] at hlt hindex ⊢
  show Table.entries (Function.update s.kontoArray _ _) _ = _
  rw [hindex, Nat.mod_eq_of_lt hlt, Table.entries_store,
    h.table (by omega), List.map_append, List.map_singleton]

/-- With a valid subscript the body reads one record. -/
theorem loadBody_read {occurs : Option Nat} {pre rest : List Line}
    {line : Line} {s : State} (h : LoadInv pre (line :: rest) s)
    (hsub : subscript occurs (s.kontoIndex + 1).val
      = .ok (s.kontoIndex + 1).val) :
    loadBody occurs s = .ok (loaded s line rest) := by
  simp only [loadBody, h.file, hsub, Run.ok_bind]
  rfl

/-- What the table has room for is loaded to its end. -/
theorem load_settles {occurs : Option Nat} {konti : List Line}
    (hfit : Fits occurs konti.length) :
    ∃ s, Settles (load occurs konti) (.ok s) ∧ LoadInv konti [] s := by
  have hloop := LoopSettles.reading
    (fun s : State => s.endOfKonto == 'Y')
    (fun _ => loadBody occurs)
    (P := fun rest s => s.endOfKonto = 'N'
      ∧ ∃ pre, pre ++ rest = konti ∧ LoadInv pre rest s)
    (Q := LoadInv konti []) ?_ ?_
    konti (initial konti) ⟨rfl, [], rfl, .initial konti⟩
  · obtain ⟨s, hs, hQ⟩ := hloop
    exact ⟨s, hs.settles, hQ⟩
  · intro s hs
    obtain ⟨hopen, pre, hpre, h⟩ := hs
    rw [List.append_nil] at hpre
    subst hpre
    refine ⟨by simp [hopen], { s with endOfKonto := 'Y' }, ?_, rfl,
      h.file, h.index, h.table, h.more, h.output, h.scans⟩
    simp only [loadBody, h.file]
    exact .const _
  · intro line rest s hs
    obtain ⟨hopen, pre, rfl, h⟩ := hs
    have hsub : subscript occurs (s.kontoIndex + 1).val
        = .ok (s.kontoIndex + 1).val :=
      subscript_of_fits (j := pre.length + 1) hfit
        (by rw [index_add_one, h.index]; omega) (by omega) (by simp)
    refine ⟨by simp [hopen], loaded s line rest, ?_, hopen, pre ++ [line],
      by simp, h.read⟩
    simp only [loadBody_read h hsub]
    exact .const _

/-- The record after the last entry of the table stops the run. -/
theorem load_overflow {m : Nat} {konti : List Line} (hm : m + 1 < 100)
    (hlong : m < konti.length) :
    Settles (load (some m) konti) (.abort (.subscript (m + 1))) := by
  have hloop := LoopSettles.total
    (fun s : State => s.endOfKonto == 'Y')
    (fun _ => loadBody (some m))
    (P := fun n s => s.endOfKonto = 'N' ∧ ∃ pre rest,
      pre ++ rest = konti ∧ pre.length + n = m ∧ LoadInv pre rest s)
    (Q := fun r => r = .abort (.subscript (m + 1))) ?_ ?_ m
    (initial konti) ⟨rfl, [], konti, rfl, by simp, .initial konti⟩
  · obtain ⟨r, hr, rfl⟩ := hloop
    exact hr.settles
  · intro s hs
    obtain ⟨hopen, pre, rest, rfl, hlen, h⟩ := hs
    cases rest with
    | nil => simp at hlong; omega
    | cons line rest =>
        have hindex : (s.kontoIndex + 1).val = m + 1 := by
          rw [index_add_one, h.index]
          omega
        have hsub : subscript (some m) (s.kontoIndex + 1).val
            = .abort (.subscript (m + 1)) := by
          rw [hindex, subscript_eq_abort (by omega)]
        refine ⟨_, .abort (by simp [hopen]) ?_, rfl⟩
        simp only [loadBody, h.file, hsub, Run.abort_bind]
        exact .const _
  · intro n s hs
    obtain ⟨hopen, pre, rest, rfl, hlen, h⟩ := hs
    cases rest with
    | nil => simp at hlong; omega
    | cons line rest =>
        have hindex : (s.kontoIndex + 1).val = pre.length + 1 := by
          rw [index_add_one, h.index]
          omega
        have hsub : subscript (some m) (s.kontoIndex + 1).val
            = .ok (s.kontoIndex + 1).val := by
          refine subscript_eq_ok ?_
          intro _ hnone
          cases hnone
          omega
        refine ⟨by simp [hopen], loaded s line rest, ?_, hopen,
          pre ++ [line], rest, by simp, by simp; omega, h.read⟩
        simp only [loadBody_read h hsub]
        exact .const _

-- ================================================================ the scan

/-- The state after one iteration with a valid subscript. -/
def scanned (s : State) : State :=
  let a := s.kontoArray s.currentIndex.val
  { s with
    visits := s.visits ++ [s.currentIndex.val]
    output :=
      if s.kundeInfo.customerId = a.customerId then
        formatBalance a (formatKonto a s.output)
      else s.output
    currentIndex := s.currentIndex + 1 }

theorem scanBody_eq {occurs : Option Nat} {s : State}
    (hsub : subscript occurs s.currentIndex.val = .ok s.currentIndex.val) :
    scanBody occurs s = .ok (scanned s) := by
  simp only [scanBody, hsub, Run.ok_bind, scanned]
  split <;> rfl

/-- What a scan leaves alone. -/
structure Unscanned (t s : State) : Prop where
  kundeFile : s.kundeFile = t.kundeFile
  endOfFile : s.endOfFile = t.endOfFile
  kundeInfo : s.kundeInfo = t.kundeInfo
  kontoIndex : s.kontoIndex = t.kontoIndex
  kontoArray : s.kontoArray = t.kontoArray

/-- `m` subscripts are to go in the scan that `t` enters: the subscripts
used and those to go are `1 … konto-index`, the lines written and those
to come are the matching accounts of the whole table. -/
structure ScanInv (t : State) (m : Nat) (s : State) : Prop
    extends Unscanned t s where
  index : s.currentIndex.val + m = t.kontoIndex.val + 1
  visits : s.visits ++ List.range' s.currentIndex.val m
    = List.range' 1 t.kontoIndex.val
  lines : s.output.lines
      ++ (Table.scan t.kontoArray s.currentIndex.val m).flatMap
        (matchLines t.kundeInfo)
    = t.output.lines
      ++ (Table.entries t.kontoArray t.kontoIndex.val).flatMap
        (matchLines t.kundeInfo)
  scans : s.scans = t.scans

theorem ScanInv.initial (t : State) :
    ScanInv t t.kontoIndex.val { t with currentIndex := 1, visits := [] } :=
  ⟨⟨rfl, rfl, rfl, rfl, rfl⟩, Nat.add_comm _ _, rfl, rfl, rfl⟩

/-- One iteration keeps the invariant while the index has digits left. -/
theorem ScanInv.step {t s : State} {m : Nat}
    (h : ScanInv t (m + 1) s) (ht : t.kontoIndex.val ≤ 98) :
    ScanInv t m (scanned s) := by
  have hindex : (s.currentIndex + 1).val = s.currentIndex.val + 1 := by
    have := h.index
    rw [index_add_one]
    omega
  have hlines : (scanned s).output.lines
      = s.output.lines
        ++ matchLines t.kundeInfo (t.kontoArray s.currentIndex.val) := by
    rw [← ite_formatKonto_lines, ← h.kontoArray, ← h.kundeInfo]
    rfl
  constructor
  · exact ⟨h.kundeFile, h.endOfFile, h.kundeInfo, h.kontoIndex,
      h.kontoArray⟩
  · show (s.currentIndex + 1).val + m = _
    have := h.index
    omega
  · show s.visits ++ [s.currentIndex.val]
      ++ List.range' (s.currentIndex + 1).val m = _
    rw [hindex, List.append_assoc, List.singleton_append,
      ← List.range'_succ]
    exact h.visits
  · show (scanned s).output.lines
      ++ (Table.scan t.kontoArray (s.currentIndex + 1).val m).flatMap _ = _
    rw [hlines, hindex, List.append_assoc, ← List.flatMap_cons,
      ← Table.scan_cons]
    exact h.lines
  · exact h.scans

/-- The exit test compares the index with the number of entries. -/
theorem ScanInv.done_eq {t s : State} {m : Nat} (h : ScanInv t m s) :
    decide (s.currentIndex > s.kontoIndex) = decide (m = 0) := by
  have hindex := h.index
  rw [h.kontoIndex]
  refine decide_eq_decide.mpr ?_
  rw [gt_iff_lt, Fin.lt_def]
  omega

/-- A scan that two digits can finish visits every filled entry once, in
order, and writes the matching accounts. -/
theorem scan_settles (occurs : Option Nat) {t : State}
    (hfit : Fits occurs t.kontoIndex.val) (ht : t.kontoIndex.val ≤ 98) :
    ∃ s, Settles (fun fuel => scan occurs fuel t) (.ok s)
      ∧ Unscanned t s
      ∧ s.scans = t.scans ++ [List.range' 1 t.kontoIndex.val]
      ∧ s.output.lines = t.output.lines
        ++ (Table.entries t.kontoArray t.kontoIndex.val).flatMap
          (matchLines t.kundeInfo) := by
  have hloop := LoopSettles.total
    (fun s : State => decide (s.currentIndex > s.kontoIndex))
    (fun _ => scanBody occurs)
    (P := fun m s => m ≤ t.kontoIndex.val ∧ ScanInv t m s)
    (Q := fun r => ∃ s, r = .ok s ∧ ScanInv t 0 s) ?_ ?_ t.kontoIndex.val
    { t with currentIndex := 1, visits := [] } ⟨le_rfl, .initial t⟩
  · obtain ⟨r, hr, s, rfl, h⟩ := hloop
    have hvisits : s.visits = List.range' 1 t.kontoIndex.val := by
      simpa using h.visits
    refine ⟨{ s with scans := s.scans ++ [s.visits] },
      .bind hr.settles (.const _),
      ⟨h.kundeFile, h.endOfFile, h.kundeInfo, h.kontoIndex, h.kontoArray⟩,
      ?_, ?_⟩
    · show s.scans ++ [s.visits] = _
      rw [hvisits, h.scans]
    · simpa [Table.scan_zero] using h.lines
  · intro s hs
    obtain ⟨-, h⟩ := hs
    exact ⟨.ok s, .exit h.done_eq, s, rfl, h⟩
  · intro m s hs
    obtain ⟨hm, h⟩ := hs
    have hindex := h.index
    have hsub : subscript occurs s.currentIndex.val
        = .ok s.currentIndex.val :=
      subscript_of_fits hfit (Nat.mod_eq_of_lt s.currentIndex.isLt).symm
        (by omega) (by omega)
    refine ⟨h.done_eq, scanned s, ?_, by omega, h.step ht⟩
    simp only [scanBody_eq hsub]
    exact .const _

/-- With 99 entries counted the exit test never holds. -/
theorem scan_hangs {t : State} (ht : t.kontoIndex.val = 99) :
    Settles (fun fuel => scan none fuel t) .running := by
  refine .bind_running (LoopSettles.diverge
    (P := fun s => s.kontoIndex.val = 99) ?_ ht).settles
  intro s hs
  refine ⟨?_, scanned s, fun _ => scanBody_eq rfl, hs⟩
  rw [decide_eq_false_iff_not, gt_iff_lt, Fin.lt_def, hs]
  have := s.currentIndex.isLt
  omega

-- ==================================================== the customer loop

/-- The table holds `konti`; with `rest` unread, the lines written and
the blocks of `rest` make up `goal`, and a whole scan is recorded for
every customer read. -/
structure KundeInv (konti : List KontoInfo) (goal : List Line) (total : Nat)
    (rest : List Line) (s : State) : Prop where
  file : s.kundeFile = rest
  more : s.endOfFile = 'N'
  index : s.kontoIndex.val = konti.length
  table : Table.entries s.kontoArray konti.length = konti
  lines : s.output.lines
    ++ (rest.map (PicX.ofLine 179)).flatMap (kundeLines konti) = goal
  scans : s.scans ++ List.replicate rest.length (List.range' 1 konti.length)
    = List.replicate total (List.range' 1 konti.length)

/-- One customer: the scan ends, and the invariant holds again. -/
theorem kundeLoopBody_settles {occurs : Option Nat}
    {konti : List KontoInfo} {goal rest : List Line} {total : Nat}
    {line : Line} {s : State} (hfit : Fits occurs konti.length)
    (hlen : konti.length ≤ 98)
    (h : KundeInv konti goal total (line :: rest) s) :
    ∃ s', Settles (fun fuel => kundeLoopBody occurs fuel s) (.ok s')
      ∧ KundeInv konti goal total rest s' := by
  obtain ⟨t, ht, hrest, hscans, hlines⟩ := scan_settles occurs
    (t := { s with
      kundeFile := rest
      kundeInfo := PicX.ofLine 179 line
      output := handleCustomer (PicX.ofLine 179 line) s.output })
    (by rw [h.index]; exact hfit) (by rw [h.index]; exact hlen)
  refine ⟨{ t with output := writeSeparator t.output }, ?_, hrest.kundeFile,
    ?_, ?_, ?_, ?_, ?_⟩
  · simp only [kundeLoopBody, h.file]
    exact .bind ht (.const _)
  · rw [← h.more]
    exact hrest.endOfFile
  · rw [← h.index]
    exact congrArg Fin.val hrest.kontoIndex
  · show Table.entries t.kontoArray _ = _
    rw [hrest.kontoArray]
    exact h.table
  · show (writeSeparator t.output).lines ++ _ = goal
    rw [writeSeparator_lines, hlines, handleCustomer_lines, ← h.lines,
      h.index, h.table, List.map_cons, List.flatMap_cons, kundeLines]
    simp only [List.append_assoc]
  · show t.scans ++ _ = _
    rw [hscans, h.index, ← h.scans, List.append_assoc,
      List.singleton_append, ← List.replicate_succ, List.length_cons]

/-- Every run over a file that the table and the counters take ends, with
the block of every customer in file order and a whole scan for each. -/
theorem readWriteFile_settles {occurs : Option Nat}
    (kunder : List Line) {konti : List Line} (hfit : Fits occurs konti.length)
    (hlen : konti.length ≤ 98) :
    ∃ s, Settles (readWriteFile occurs kunder konti) (.ok s)
      ∧ s.output.lines = reportLines kunder konti
      ∧ s.scans = List.replicate kunder.length
        (List.range' 1 konti.length) := by
  obtain ⟨t, ht, hload⟩ := load_settles hfit
  have hinit : KundeInv (konti.map (PicX.ofLine 52))
      (reportLines kunder konti) kunder.length kunder
      { t with kundeFile := kunder } := by
    refine ⟨rfl, hload.more, ?_, ?_, ?_, ?_⟩
    · rw [List.length_map]
      exact hload.index.trans (Nat.mod_eq_of_lt (by omega))
    · rw [List.length_map]
      exact hload.table (by omega)
    · show t.output.lines ++ _ = _
      rw [hload.output]
      rfl
    · show t.scans ++ _ = _
      rw [hload.scans]
      rfl
  have hloop := LoopSettles.reading
    (fun s : State => s.endOfFile == 'Y')
    (kundeLoopBody occurs)
    (P := KundeInv (konti.map (PicX.ofLine 52))
      (reportLines kunder konti) kunder.length)
    (Q := fun s => s.output.lines = reportLines kunder konti
      ∧ s.scans = List.replicate kunder.length
        (List.range' 1 konti.length)) ?_ ?_ kunder _ hinit
  · obtain ⟨s, hs, hQ⟩ := hloop
    exact ⟨s, .bind ht hs.settles, hQ⟩
  · intro s h
    refine ⟨by simp [h.more], { s with endOfFile := 'Y' }, ?_, rfl, ?_, ?_⟩
    · simp only [kundeLoopBody, h.file]
      exact .const _
    · simpa using h.lines
    · simpa using h.scans
  · intro line rest s h
    exact ⟨by simp [h.more],
      kundeLoopBody_settles (by simpa using hfit) (by simpa using hlen) h⟩

-- ============================================ in place of opgave 8

/-- The two programs agree on a pair of files: the table holds every
account record in file order, so no subscript has been outside it, and
both programs end with the same lines. -/
def Faithful (kunder konti : List Line) : Prop :=
  (∃ s, Settles (load (some 10) konti) (.ok s)
    ∧ Table.entries s.kontoArray s.kontoIndex.val
      = konti.map (PicX.ofLine 52))
  ∧ ∃ out, Opgave8.Writes kunder konti out ∧ Writes kunder konti out

/-- A file within the table goes through it unharmed. -/
theorem faithful_of_length_le {kunder konti : List Line}
    (h : konti.length ≤ 10) : Faithful kunder konti := by
  have hfit : Fits (some 10) konti.length := by
    intro m hm
    cases hm
    omega
  obtain ⟨s, hs, hload⟩ := load_settles hfit
  obtain ⟨t, ht, hlines, -⟩ := readWriteFile_settles kunder
    hfit (by omega)
  refine ⟨⟨s, hs, ?_⟩, reportLines kunder konti,
    Opgave8.writes_reportLines kunder konti, t, ht, hlines⟩
  rw [hload.index, Nat.mod_eq_of_lt (by omega)]
  exact hload.table (by omega)

/-- A longer file stops the load at subscript 11. -/
theorem not_faithful_of_lt_length {kunder konti : List Line}
    (h : 10 < konti.length) : ¬ Faithful kunder konti := by
  intro hfaithful
  obtain ⟨⟨s, hs, -⟩, -⟩ := hfaithful
  have := hs.unique (load_overflow (by omega) h)
  cases this

/-- Opgave 9 stands in for opgave 8 exactly on account files of at most
ten records, whatever the records hold and whoever the customers are. -/
theorem faithful_iff (kunder konti : List Line) :
    Faithful kunder konti ↔ konti.length ≤ 10 := by
  constructor
  · intro h
    by_contra hlong
    exact not_faithful_of_lt_length (by omega) h
  · exact faithful_of_length_le

/-- Eleven account lines, all blank, are one too many. -/
theorem not_faithful_eleven : ¬ Faithful [[]] (List.replicate 11 []) :=
  not_faithful_of_lt_length (by simp)

-- ====================================================== the two counters

/-- On a table that is large enough: the load counts the records, and
the program ends after one visit to each of `1 … n` for every
customer. -/
def CountsAndEnds (kunder konti : List Line) : Prop :=
  (∃ s, Settles (load none konti) (.ok s)
    ∧ s.kontoIndex.val = konti.length)
  ∧ ∃ s, Settles (readWriteFile none kunder konti) (.ok s)
    ∧ s.scans = List.replicate kunder.length
      (List.range' 1 konti.length)

theorem fits_none (n : Nat) : Fits none n := fun _ h => nomatch h

/-- The load counts what two digits can count. -/
theorem load_counts {konti : List Line} (h : konti.length < 100) :
    ∃ s, Settles (load none konti) (.ok s)
      ∧ s.kontoIndex.val = konti.length := by
  obtain ⟨s, hs, hload⟩ := load_settles (fits_none konti.length)
  exact ⟨s, hs, hload.index.trans (Nat.mod_eq_of_lt h)⟩

/-- Without customers the program ends after the load. -/
theorem readWriteFile_nil (konti : List Line) :
    ∃ s, Settles (readWriteFile none [] konti) (.ok s) ∧ s.scans = [] := by
  obtain ⟨t, ht, hload⟩ := load_settles (fits_none konti.length)
  refine ⟨{ t with kundeFile := [], endOfFile := 'Y' },
    .bind ht (LoopSettles.step ?_ (.const _) (.exit rfl)).settles,
    hload.scans⟩
  simp [hload.more]

/-- With 99 records the first customer's scan never ends. -/
theorem readWriteFile_hangs {kunder konti : List Line}
    (hlen : konti.length = 99) (hkunder : kunder ≠ []) :
    Settles (readWriteFile none kunder konti) .running := by
  obtain ⟨t, ht, hload⟩ := load_settles (fits_none konti.length)
  cases kunder with
  | nil => contradiction
  | cons line rest =>
      refine .bind ht (LoopSettles.hang (by simp [hload.more]) ?_).settles
      refine .bind_running (scan_hangs ?_)
      show t.kontoIndex.val = 99
      rw [hload.index, hlen]

/-- From 100 records on the count is wrong. -/
theorem not_countsAndEnds_of_hundred {kunder konti : List Line}
    (h : 100 ≤ konti.length) : ¬ CountsAndEnds kunder konti := by
  intro hcounts
  obtain ⟨⟨s, -, hs⟩, -⟩ := hcounts
  have := s.kontoIndex.isLt
  omega

theorem not_countsAndEnds_of_ninetyNine {kunder konti : List Line}
    (hlen : konti.length = 99) (hkunder : kunder ≠ []) :
    ¬ CountsAndEnds kunder konti := by
  intro hcounts
  obtain ⟨-, s, hs, -⟩ := hcounts
  have := hs.unique (readWriteFile_hangs hlen hkunder)
  cases this

/-- The counters are right and the scans end exactly up to 98 records;
99 are counted right, and then no customer may follow. -/
theorem countsAndEnds_iff (kunder konti : List Line) :
    CountsAndEnds kunder konti
      ↔ konti.length ≤ 98 ∨ konti.length = 99 ∧ kunder = [] := by
  constructor
  · intro h
    by_contra hcon
    rcases Nat.lt_or_ge konti.length 100 with hlt | hge
    · have hlen : konti.length = 99 := by omega
      have hkunder : kunder ≠ [] := fun hnil => hcon (.inr ⟨hlen, hnil⟩)
      exact not_countsAndEnds_of_ninetyNine hlen hkunder h
    · exact not_countsAndEnds_of_hundred hge h
  · rintro (hlen | ⟨hlen, rfl⟩)
    · obtain ⟨s, hs, -, hscans⟩ := readWriteFile_settles
        kunder (fits_none konti.length) hlen
      exact ⟨load_counts (by omega), s, hs, hscans⟩
    · exact ⟨load_counts (by omega), readWriteFile_nil konti⟩

/-- One customer and 99 account records: the report never ends. -/
theorem not_countsAndEnds_ninetyNine :
    ¬ CountsAndEnds [[]] (List.replicate 99 []) :=
  not_countsAndEnds_of_ninetyNine (by simp) (by simp)

end CobolExercises.Opgave.Opgave9
