/-
READ-JSON-FILE and APPEND-JSON-LINE of insertmany: a text file collected
line by line in one buffer.

# The program

READ delivers a line in a record of 32000 bytes. A longer line is cut
there or comes in several records, depending on the runtime; `Overlong`
leaves that open. The buffer is its own STRING source: the front that is
filled is copied onto itself, and the record goes behind it. A reference
modification of length zero is an empty source, as it is without runtime
checks. The lengths of all reference modifications are recorded
(`refMods`).

# What is loaded

The buffer is filled with the trimmed records until one does not fit
(`Lib.fill`, `readJsonFile_settles`). The caller looks at the length
only, and the length is positive as soon as one record is not blank
(`loaded_eq_nil_iff`).
-/
import CobolExercises.Lib.Fill
import CobolExercises.Database.Esql

namespace CobolExercises.Database.ReadJson

open Lib

-- ============================================================== the file

/-- What READ does with a line that is longer than the record: cut it, or
deliver the rest as further records. -/
inductive Overlong where
  | cut
  | split
deriving DecidableEq

/-- The number of records a line comes in. -/
def Overlong.pieces (mode : Overlong) (l : Line) : Nat :=
  match mode with
  | .cut => 1
  | .split => (l.length - 1) / 32000 + 1

/-- The contents of JSON-RECORD after each READ of a line. -/
def Overlong.records (mode : Overlong) (l : Line) : List (PicX 32000) :=
  (List.range (mode.pieces l)).map fun i =>
    PicX.ofLine 32000 (l.drop (32000 * i))

-- =========================================================== the program

/-- A reference modification `item(1:length)` of an item of `width`
bytes. -/
structure RefMod where
  length : Nat
  width : Nat
deriving DecidableEq

/-- The file, the working storage of the two paragraphs, and the records
of what was displayed and which reference modifications were used. -/
structure State where
  jsonFile : List (PicX 32000)
  jsonRecord : PicX 32000
  eof : Char
  jsonData : PicX 100000
  jsonLength : Pic9 8
  recordLen : Pic9 8
  console : List Display
  refMods : List RefMod

/-- After `OPEN INPUT JSON-FILE` and the two MOVEs. -/
def initial (mode : Overlong) (file : List Line) : State where
  jsonFile := file.flatMap mode.records
  jsonRecord := PicX.spaces 32000
  eof := 'N'
  jsonData := PicX.spaces 100000
  jsonLength := 0
  recordLen := 0
  console := []
  refMods := []

/-- The STRING statement and the ADD behind it. -/
def stringRecord (s : State) : State :=
  let data := s.jsonData.chars.take s.jsonLength.val
  let record := s.jsonRecord.chars.take s.recordLen.val
  { s with
    jsonData := s.jsonData.string [data, record]
    jsonLength := s.jsonLength + s.recordLen
    refMods := s.refMods
      ++ [⟨s.jsonLength.val, 100000⟩, ⟨s.recordLen.val, 32000⟩] }

/-- APPEND-JSON-LINE. -/
def appendJsonLine (s : State) : State :=
  let s := { s with
    recordLen := Pic9.ofNat 8 s.jsonRecord.trimTrailing.length }
  if s.jsonLength.val + s.recordLen.val < 100000 then stringRecord s
  else
    { s with
      console := s.console ++ [[.lit "JSON file too large"]]
      eof := 'Y' }

/-- `READ JSON-FILE … END-READ`. -/
def readBody (s : State) : Exec State :=
  match s.jsonFile with
  | [] => .ok { s with eof := 'Y' }
  | record :: rest =>
      .ok (appendJsonLine { s with jsonFile := rest, jsonRecord := record })

/-- READ-JSON-FILE. -/
def readJsonFile (mode : Overlong) (file : List Line) (fuel : Nat) :
    Exec State := do
  let s ← loopUntil (fun s => s.eof == 'Y') readBody fuel
    (initial mode file)
  pure { s with console := s.console ++
    [[.lit "JSON file read: ", .num s.jsonLength.val, .lit " bytes"]] }

/-- `IF WS-JSON-LENGTH > 0`: the test on which MAIN-ROUTINE performs
PARSE-JSON-DATA and INSERT-ALL-ORDERS, and stops otherwise. -/
def State.performsParse (s : State) : Bool := s.jsonLength > 0

-- ========================================================== a loaded text

/-- The text of a file: its lines without their trailing blanks. -/
def text (file : List Line) : Line :=
  (file.map (Blank.trimEnd ' ')).flatten

/-- Every line fits the record, trailing blanks aside, and the text fits
the buffer. -/
def Fits (file : List Line) : Prop :=
  (∀ l ∈ file, (Blank.trimEnd ' ' l).length ≤ 32000)
    ∧ (text file).length ≤ 100000

/-- READ delivers nothing but blank records. -/
def AllBlank (mode : Overlong) (file : List Line) : Prop :=
  ∀ l ∈ file, ∀ r ∈ mode.records l, r.trimTrailing = []

/-- PARSE-JSON-DATA is performed on the whole text only, and not at all if
that does not fit. -/
def LoadsWhole (mode : Overlong) (file : List Line) : Prop :=
  ∃ s, Settles (readJsonFile mode file) (.ok s)
    ∧ (s.performsParse = true → s.jsonLength.val = (text file).length
      ∧ s.jsonData.chars.take s.jsonLength.val = text file)
    ∧ (¬ Fits file → s.performsParse = false)

/-- Every reference modification has a length of at least 1 and stays
inside its item. -/
def RefModsInside (mode : Overlong) (file : List Line) : Prop :=
  ∃ s, Settles (readJsonFile mode file) (.ok s)
    ∧ ∀ r ∈ s.refMods, 1 ≤ r.length ∧ r.length ≤ r.width

/-- What the paragraph is there for. -/
def Loads (mode : Overlong) (file : List Line) : Prop :=
  LoadsWhole mode file ∧ RefModsInside mode file

-- ============================================================ the records

variable {mode : Overlong} {file : List Line} {l : Line} {s : State}
  {t : Line}

theorem pieces_pos (mode : Overlong) (l : Line) : 0 < mode.pieces l := by
  cases mode with
  | cut => exact Nat.one_pos
  | split => exact Nat.succ_pos _

/-- The first record of a line. -/
theorem records_eq_cons (mode : Overlong) (l : Line) :
    ∃ rest, mode.records l = PicX.ofLine 32000 l :: rest := by
  obtain ⟨n, hn⟩ := Nat.exists_eq_succ_of_ne_zero (pieces_pos mode l).ne'
  rw [Overlong.records, hn, Nat.succ_eq_add_one, List.range_succ_eq_map]
  exact ⟨_, rfl⟩

/-- A trimmed record fits the record. -/
theorem length_trimTrailing_le (r : PicX 32000) :
    r.trimTrailing.length ≤ 32000 := by
  calc r.trimTrailing.length ≤ r.chars.length :=
        Blank.length_trimEnd_le ' ' _
    _ = 32000 := r.length_chars

/-- Behind the trimmed form there is nothing but blanks. -/
theorem trimEnd_drop {i : Nat} (h : (Blank.trimEnd ' ' l).length ≤ i) :
    Blank.trimEnd ' ' (l.drop i) = [] := by
  rw [← Blank.trimEnd_nil ' ', Blank.trimEnd_eq_iff]
  intro j
  have hblank : l.getD (i + j) ' ' = ' ' := by
    rw [← Blank.getD_trimEnd, List.getD_eq_default _ _ (by omega)]
  rw [List.getD_eq_getElem?_getD, List.getElem?_drop,
    ← List.getD_eq_getElem?_getD, hblank, List.getD_nil]

/-- A line that fits comes out of its records as its trimmed form. -/
theorem flatten_records (h : (Blank.trimEnd ' ' l).length ≤ 32000) :
    ((mode.records l).map PicX.trimTrailing).flatten
      = Blank.trimEnd ' ' l := by
  obtain ⟨n, hn⟩ := Nat.exists_eq_succ_of_ne_zero (pieces_pos mode l).ne'
  have hfirst : (PicX.ofLine 32000 l).trimTrailing
      = Blank.trimEnd ' ' l := by
    rw [PicX.trimTrailing, PicX.chars_ofLine, Blank.trimEnd_fit_of_trimEnd h]
  have hrest : ∀ i : Nat, (PicX.ofLine 32000
      (l.drop (32000 * (i + 1)))).trimTrailing = [] := by
    intro i
    have hdrop : Blank.trimEnd ' ' (l.drop (32000 * (i + 1))) = [] :=
      trimEnd_drop (by omega)
    rw [PicX.trimTrailing, PicX.chars_ofLine, Blank.trimEnd_fit_of_trimEnd,
      hdrop]
    rw [hdrop]
    exact Nat.zero_le _
  rw [Overlong.records, hn, Nat.succ_eq_add_one, List.range_succ_eq_map]
  simp only [List.map_cons, List.map_map, List.flatten_cons, Nat.mul_zero,
    List.drop_zero, hfirst]
  rw [List.append_right_eq_self, List.flatten_eq_nil_iff]
  intro p hp
  obtain ⟨i, -, rfl⟩ := List.mem_map.mp hp
  rw [Function.comp_apply, Function.comp_apply, Nat.succ_eq_add_one, hrest]

-- ======================================================== what is loaded

/-- The text READ-JSON-FILE collects. -/
def loaded (mode : Overlong) (file : List Line) : Line :=
  fill 100000 [] ((file.flatMap mode.records).map PicX.trimTrailing)

theorem length_loaded_lt (mode : Overlong) (file : List Line) :
    (loaded mode file).length < 100000 :=
  length_fill_lt (Nat.zero_lt_succ _)

/-- The records of a file whose lines fit are its text. -/
theorem flatten_flatMap_records (mode : Overlong)
    (h : ∀ l ∈ file, (Blank.trimEnd ' ' l).length ≤ 32000) :
    ((file.flatMap mode.records).map PicX.trimTrailing).flatten
      = text file := by
  induction file with
  | nil => rfl
  | cons l file ih =>
      rw [List.forall_mem_cons] at h
      rw [List.flatMap_cons, List.map_append, List.flatten_append,
        flatten_records h.1, ih h.2]
      rfl

/-- A text that fits is loaded whole. -/
theorem loaded_eq_text
    (hlines : ∀ l ∈ file, (Blank.trimEnd ' ' l).length ≤ 32000)
    (htext : (text file).length < 100000) :
    loaded mode file = text file := by
  have hflat := flatten_flatMap_records mode hlines
  rw [loaded, fill_eq_append_flatten, List.nil_append, hflat]
  rwa [hflat, List.length_nil, Nat.zero_add]

/-- Nothing is loaded exactly when every record is blank. -/
theorem loaded_eq_nil_iff :
    loaded mode file = [] ↔ AllBlank mode file := by
  unfold AllBlank
  rw [loaded, fill_nil_eq_nil_iff]
  · simp only [List.forall_mem_map, List.forall_mem_flatMap]
  · intro p hp
    obtain ⟨r, -, rfl⟩ := List.mem_map.mp hp
    have := length_trimTrailing_le r
    omega

/-- A line that does not start with a space is a record that is not
blank. -/
theorem not_allBlank (hl : l ∈ file) (hhead : l.getD 0 ' ' ≠ ' ') :
    ¬ AllBlank mode file := by
  intro hblank
  obtain ⟨rest, hrest⟩ := records_eq_cons mode l
  have hnil : Blank.trimEnd ' ' (Blank.fit ' ' 32000 l) = [] := by
    refine hblank l hl (PicX.ofLine 32000 l) ?_
    rw [hrest]
    exact List.mem_cons_self
  have hfirst := Blank.getD_trimEnd ' ' (Blank.fit ' ' 32000 l) 0
  rw [hnil, Blank.getD_fit, if_pos (by decide)] at hfirst
  exact hhead hfirst.symm

-- =============================================================== the loop

/-- The buffer holds the text `t`. -/
structure Holds (t : Line) (s : State) : Prop where
  lt : t.length < 100000
  length : s.jsonLength.val = t.length
  data : s.jsonData.chars = Blank.fit ' ' 100000 t

/-- The length of a record is its trimmed length. -/
theorem val_recordLen (r : PicX 32000) :
    (Pic9.ofNat 8 r.trimTrailing.length).val
      = r.trimTrailing.length := by
  have := length_trimTrailing_le r
  exact Nat.mod_eq_of_lt (by omega)

/-- STRING puts the record behind the text. -/
theorem Holds.stringRecord (h : Holds t s)
    (hlen : s.recordLen.val = s.jsonRecord.trimTrailing.length)
    (hfit : t.length + s.jsonRecord.trimTrailing.length < 100000) :
    Holds (t ++ s.jsonRecord.trimTrailing) (stringRecord s) := by
  have hdata : s.jsonData.chars.take s.jsonLength.val = t := by
    rw [h.data, h.length, Blank.take_fit h.lt.le]
  have hrecord : s.jsonRecord.chars.take s.recordLen.val
      = s.jsonRecord.trimTrailing := by
    rw [hlen]
    exact Blank.take_length_trimEnd ' ' _
  refine ⟨by rwa [List.length_append], ?_, ?_⟩
  · show (s.jsonLength + s.recordLen).val = _
    rw [Fin.val_add, h.length, hlen, List.length_append]
    exact Nat.mod_eq_of_lt (by omega)
  · show (s.jsonData.string [_, _]).chars = _
    rw [hdata, hrecord, PicX.chars_string, h.data, List.flatten_cons,
      List.flatten_singleton, Blank.overlay_fit (by simp)]

/-- What the loop leaves untouched or only adds to, from `s` to `s'`. -/
structure Grown (s s' : State) : Prop where
  refMods : s.refMods ⊆ s'.refMods
  console : s'.console ⊆ s.console ++ [[.lit "JSON file too large"]]

/-- A record that fits is appended. -/
theorem appendJsonLine_of_lt (h : Holds t s)
    (hfit : t.length + s.jsonRecord.trimTrailing.length < 100000) :
    Holds (t ++ s.jsonRecord.trimTrailing) (appendJsonLine s)
      ∧ (appendJsonLine s).jsonFile = s.jsonFile
      ∧ (appendJsonLine s).eof = s.eof
      ∧ (appendJsonLine s).console = s.console
      ∧ (appendJsonLine s).refMods = s.refMods
        ++ [⟨t.length, 100000⟩,
          ⟨s.jsonRecord.trimTrailing.length, 32000⟩] := by
  have hlen := val_recordLen s.jsonRecord
  have happend : appendJsonLine s = ReadJson.stringRecord { s with
      recordLen := Pic9.ofNat 8 s.jsonRecord.trimTrailing.length } := by
    unfold appendJsonLine
    dsimp only
    rw [if_pos (by rwa [h.length, hlen])]
  rw [happend]
  have hheld : Holds t { s with
      recordLen := Pic9.ofNat 8 s.jsonRecord.trimTrailing.length } :=
    ⟨h.lt, h.length, h.data⟩
  refine ⟨hheld.stringRecord hlen hfit, rfl, rfl, rfl, ?_⟩
  show s.refMods ++ [⟨s.jsonLength.val, _⟩, ⟨_, _⟩] = _
  rw [h.length, hlen]

/-- A record that does not fit ends the loop. -/
theorem appendJsonLine_of_ge (h : Holds t s)
    (hfull : ¬ t.length + s.jsonRecord.trimTrailing.length < 100000) :
    Holds t (appendJsonLine s) ∧ (appendJsonLine s).eof = 'Y'
      ∧ Grown s (appendJsonLine s) := by
  have happend : appendJsonLine s = { s with
      recordLen := Pic9.ofNat 8 s.jsonRecord.trimTrailing.length
      console := s.console ++ [[.lit "JSON file too large"]]
      eof := 'Y' } := by
    unfold appendJsonLine
    dsimp only
    rw [if_neg (by rwa [h.length, val_recordLen])]
  rw [happend]
  exact ⟨⟨h.lt, h.length, h.data⟩, rfl, List.Subset.refl _,
    List.Subset.refl _⟩

theorem Grown.refl (s : State) : Grown s s :=
  ⟨List.Subset.refl _, List.subset_append_left _ _⟩

theorem readBody_cons {r : PicX 32000} {rest : List (PicX 32000)}
    (h : s.jsonFile = r :: rest) :
    readBody s
      = .ok (appendJsonLine { s with jsonFile := rest, jsonRecord := r }) := by
  rw [readBody, h]

/-- With `rs` unread and `t` in the buffer, the loop ends with the buffer
filled as far as the records fit. The first record always fits, and its
STRING takes none of the buffer. -/
theorem loop_settles (rs : List (PicX 32000)) (h : Holds t s)
    (hfile : s.jsonFile = rs) (hmore : s.eof = 'N') :
    ∃ s', LoopSettles (fun s => s.eof == 'Y') (fun _ => readBody) s (.ok s')
      ∧ Holds (fill 100000 t (rs.map PicX.trimTrailing)) s'
      ∧ Grown s s'
      ∧ (t = [] → rs ≠ [] → ⟨0, 100000⟩ ∈ s'.refMods) := by
  have hdone : (s.eof == 'Y') = false := by simp [hmore]
  induction rs generalizing s t with
  | nil =>
      have hbody : readBody s = .ok { s with eof := 'Y' } := by
        rw [readBody, hfile]
      refine ⟨{ s with eof := 'Y' }, .step hdone ?_ (.exit rfl),
        ⟨h.lt, h.length, h.data⟩, ⟨List.Subset.refl _,
          List.subset_append_left _ _⟩, fun _ hne => absurd rfl hne⟩
      rw [hbody]
      exact .const _
  | cons r rest ih =>
      have hread : Holds t { s with jsonFile := rest, jsonRecord := r } :=
        ⟨h.lt, h.length, h.data⟩
      have hbody := readBody_cons hfile
      by_cases hfit : t.length + r.trimTrailing.length < 100000
      · obtain ⟨hheld, hrest, heof, hconsole, hrefs⟩ :=
          appendJsonLine_of_lt hread hfit
        have hnext := heof.trans hmore
        obtain ⟨s', hloop, hs', hgrown, -⟩ :=
          ih hheld hrest hnext (by simp [hnext])
        rw [List.map_cons, fill, if_pos hfit]
        refine ⟨s', .step hdone ?_ hloop, hs', ⟨?_, ?_⟩, ?_⟩
        · rw [hbody]
          exact .const _
        · exact fun x hx => hgrown.refMods (hrefs ▸ List.mem_append_left _ hx)
        · exact hconsole ▸ hgrown.console
        · rintro rfl -
          exact hgrown.refMods (hrefs ▸ by simp)
      · obtain ⟨hheld, heof, hgrown⟩ := appendJsonLine_of_ge hread hfit
        rw [List.map_cons, fill, if_neg hfit]
        refine ⟨_, .step hdone ?_ (.exit (by simp [heof])), hheld,
          ⟨hgrown.refMods, hgrown.console⟩, ?_⟩
        · rw [hbody]
          exact .const _
        · rintro rfl -
          have := length_trimTrailing_le r
          rw [List.length_nil] at hfit
          omega

/-- Every run of READ-JSON-FILE ends, with the text in the buffer. -/
theorem readJsonFile_settles (mode : Overlong) (file : List Line) :
    ∃ s, Settles (readJsonFile mode file) (.ok s)
      ∧ Holds (loaded mode file) s
      ∧ s.console ⊆ [[.lit "JSON file too large"],
        [.lit "JSON file read: ", .num s.jsonLength.val, .lit " bytes"]]
      ∧ (file ≠ [] → ⟨0, 100000⟩ ∈ s.refMods) := by
  have hinit : Holds [] (initial mode file) := by
    refine ⟨Nat.zero_lt_succ _, rfl, ?_⟩
    show List.replicate 100000 ' ' = _
    rw [← Blank.overlay_replicate, Blank.overlay, List.take_nil,
      List.length_nil, List.drop_zero, List.nil_append]
  obtain ⟨s, hloop, hs, hgrown, hfirst⟩ := loop_settles _ hinit rfl rfl
  refine ⟨_, .bind hloop.settles (.const _), ⟨hs.lt, hs.length, hs.data⟩,
    ?_, fun hne => hfirst rfl ?_⟩
  · refine List.append_subset.mpr ⟨fun d hd => ?_,
      List.subset_cons_self _ _⟩
    rw [List.mem_singleton.mp (hgrown.console hd)]
    exact List.mem_cons_self
  · cases file with
    | nil => exact absurd rfl hne
    | cons l file =>
        obtain ⟨rest, hrest⟩ := records_eq_cons mode l
        show (l :: file).flatMap mode.records ≠ []
        rw [List.flatMap_cons, hrest]
        exact List.cons_ne_nil _ _

-- ================================================= when it is loaded whole

theorem Holds.performsParse_iff (h : Holds t s) :
    s.performsParse = true ↔ t ≠ [] := by
  rw [State.performsParse, decide_eq_true_iff, gt_iff_lt, Fin.lt_def,
    h.length, ← List.length_pos_iff]
  rfl

/-- What counts is the loaded text: it is nothing, or a text that fits. -/
theorem loadsWhole_iff_loaded :
    LoadsWhole mode file ↔ loaded mode file = []
      ∨ (loaded mode file = text file ∧ Fits file) := by
  obtain ⟨s, hs, hheld, -⟩ := readJsonFile_settles mode file
  have hdata : s.jsonData.chars.take s.jsonLength.val
      = loaded mode file := by
    rw [hheld.data, hheld.length, Blank.take_fit hheld.lt.le]
  have hparse := hheld.performsParse_iff
  constructor
  · intro hloads
    obtain ⟨s', hs', hwhole, hstop⟩ := hloads
    obtain rfl : s = s' := by
      simpa using hs.unique hs'
    by_cases hnil : loaded mode file = []
    · exact .inl hnil
    · refine .inr ⟨?_, ?_⟩
      · rw [← hdata]
        exact (hwhole (hparse.mpr hnil)).2
      · by_contra hfits
        have := hstop hfits
        rw [hparse.mpr hnil] at this
        cases this
  · intro h
    refine ⟨s, hs, fun hperf => ?_, fun hfits => ?_⟩
    · have hnil := hparse.mp hperf
      obtain ⟨htext, -⟩ := h.resolve_left hnil
      exact ⟨by rw [hheld.length, htext], by rw [hdata, htext]⟩
    · have hnil := h.resolve_right fun h => hfits h.2
      rw [← Bool.not_eq_true]
      exact fun hperf => hparse.mp hperf hnil

/-- The file is loaded whole, or not at all where it does not fit, exactly
when its lines fit the record and its text leaves a byte of the buffer
free, or when READ delivers blank records only. -/
theorem loadsWhole_iff_fits :
    LoadsWhole mode file
      ↔ ((∀ l ∈ file, (Blank.trimEnd ' ' l).length ≤ 32000)
          ∧ (text file).length < 100000)
        ∨ AllBlank mode file := by
  rw [loadsWhole_iff_loaded, ← loaded_eq_nil_iff, or_comm]
  refine or_congr_left ⟨?_, ?_⟩
  · intro hwhole
    obtain ⟨htext, hlines, -⟩ := hwhole
    refine ⟨hlines, ?_⟩
    rw [← htext]
    exact length_loaded_lt mode file
  · intro hfits
    obtain ⟨hlines, htext⟩ := hfits
    exact ⟨loaded_eq_text hlines htext, hlines, htext.le⟩

/-- The first line of a file is appended with an empty
`WS-JSON-DATA(1:0)`. -/
theorem refModsInside_iff : RefModsInside mode file ↔ file = [] := by
  obtain ⟨s, hs, -, -, hfirst⟩ := readJsonFile_settles mode file
  constructor
  · intro hrefs
    obtain ⟨s', hs', hinside⟩ := hrefs
    obtain rfl : s = s' := by
      simpa using hs.unique hs'
    by_contra hne
    exact absurd (hinside _ (hfirst hne)).1 (by decide)
  · rintro rfl
    refine ⟨_, .bind (LoopSettles.step rfl (.const _) (.exit rfl)).settles
      (.const _), nofun⟩

/-- The whole promise is kept on the file without lines only; the part
about loading, on the files that fit and on those that come as blank
records. -/
theorem loads_iff (mode : Overlong) (file : List Line) :
    (Loads mode file ↔ file = [])
      ∧ (LoadsWhole mode file
        ↔ ((∀ l ∈ file, (Blank.trimEnd ' ' l).length ≤ 32000)
            ∧ (text file).length < 100000)
          ∨ AllBlank mode file) := by
  refine ⟨⟨fun h => refModsInside_iff.mp h.2, ?_⟩, loadsWhole_iff_fits⟩
  rintro rfl
  refine ⟨?_, refModsInside_iff.mpr rfl⟩
  rw [loadsWhole_iff_fits]
  exact .inr nofun

/-- A line that does not fit and starts with a letter is not loaded
whole, and yet parsed. -/
theorem not_loadsWhole_of_long
    (hlong : 32000 < (Blank.trimEnd ' ' l).length)
    (hhead : l.getD 0 ' ' ≠ ' ') : ¬ LoadsWhole mode [l] := by
  rw [loadsWhole_iff_fits]
  rintro (⟨hlines, -⟩ | hblank)
  · have := hlines l List.mem_cons_self
    omega
  · exact not_allBlank List.mem_cons_self hhead hblank

theorem trimEnd_replicate_letter (n : Nat) :
    Blank.trimEnd ' ' (List.replicate n 'x') = List.replicate n 'x' := by
  rw [Blank.trimEnd, List.rdropWhile_eq_self_iff]
  intro hne
  simp

/-- The smallest JSON file uses `WS-JSON-DATA(1:0)`, and a single line of
the length of the one in `orders.json` is parsed in part. -/
theorem not_loads_singleLine :
    ¬ Loads .cut ["[]".toList]
      ∧ ¬ LoadsWhole .cut [List.replicate 303938 'x'] := by
  refine ⟨fun h => ?_, not_loadsWhole_of_long ?_ ?_⟩
  · cases refModsInside_iff.mp h.2
  · rw [trimEnd_replicate_letter, List.length_replicate]
    decide
  · rw [List.getD_replicate _ (by decide)]
    decide

end CobolExercises.Database.ReadJson
