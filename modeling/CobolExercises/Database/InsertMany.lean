/-
insertmany: replace the table `orders` by a fresh one and insert the
orders of a JSON file into it, one by one.

# The program

CONNECT and CREATE are followed by a check that stops the run; DROP and
COMMIT are not checked at all. A rejected INSERT is displayed and the
loop goes on; an accepted one is counted. The paragraph PARSE-JSON-DATA
breaks off in the source, so the table it leaves is a parameter
(`Orders`), whatever the text it is given.

# What becomes of the database

DROP, CREATE and the INSERTs are one script (`InsertInv`): the counter
counts the accepted INSERTs, while the rows become permanent only
together, and only if none has been rejected and COMMIT is accepted
(`insertAndCommit_settles`).
-/
import CobolExercises.Database.ReadJson
import CobolExercises.Database.Script

namespace CobolExercises.Database.InsertMany

open Lib ReadJson

-- ============================================================= the orders

/-- One ORDER-ITEM; the SQL variables have the same shape. -/
structure Order where
  customerId : PicX 255
  orderDate : PicX 255
  orderId : PicX 255
  orderStatus : PicX 255
  requiredDate : PicX 255
  shippedDate : PicX 255
  staffName : PicX 255
  store : PicX 255

/-- The SQL variables at the start. -/
def Order.blank : Order :=
  let spaces := PicX.spaces 255
  ⟨spaces, spaces, spaces, spaces, spaces, spaces, spaces, spaces⟩

/-- The items by the names of their columns. -/
def Order.fields (o : Order) : List (String × PicX 255) :=
  [ ("customer_id", o.customerId), ("order_date", o.orderDate),
    ("order_id", o.orderId), ("order_status", o.orderStatus),
    ("required_date", o.requiredDate), ("shipped_date", o.shippedDate),
    ("staff_name", o.staffName), ("store", o.store) ]

/-- ORDER-COUNT and `ORDER-ITEM OCCURS 1615 TIMES`. -/
structure Orders where
  item : Nat → Order
  count : Pic9 4
  count_le : count.val ≤ 1615

-- ========================================================= the statements

def columns : List Column :=
  [ ⟨"customer_id", false⟩, ⟨"order_date", false⟩, ⟨"order_id", false⟩,
    ⟨"order_status", false⟩, ⟨"required_date", false⟩,
    ⟨"shipped_date", false⟩, ⟨"staff_name", false⟩, ⟨"store", false⟩ ]

def dropOrders : Query := .dropTableIfExists "orders"

def createOrders : Query := .createTable "orders" columns

/-- `INSERT INTO orders (customer_id, …) VALUES (:SQL-CUSTOMER-ID, …)`. -/
def insertOrder (o : Order) : Query :=
  .insert "orders" (o.fields.map fun f => (f.1, hostText f.2))

-- =========================================================== the program

/-- The world and the working storage of INSERT-ALL-ORDERS. -/
structure State where
  world : World
  orderIdx : Pic9 4
  insertCount : Pic9 5
  sqlOrder : Order

section Program

variable (ses : Session) (mode : Overlong) (file : List Line)
  (orders : Orders)

/-- ERROR-RTN. -/
def errorRtn : World → World :=
  Database.errorRtn ses (fun c => [.lit "SQLCODE: ", .num c])
    "Connection failed"

/-- The INSERT and what depends on its SQLCODE. -/
def insertSqlOrder (s : State) : State :=
  let id := s.sqlOrder.orderId.trim
  let w := ocesqlExec ses (insertOrder s.sqlOrder) s.world
  if w.sqlca.sqlcode = 0 then
    { s with
      world := w.display [.lit "Inserted order: ", .text id]
      insertCount := s.insertCount + 1 }
  else
    let w := w.display [.lit "Failed to insert order: ", .text id]
    { s with world := errorRtn ses w }

/-- One turn of INSERT-ALL-ORDERS. -/
def insertBody (s : State) : Exec State := do
  let i ← subscript (some 1615) s.orderIdx.val
  let s := insertSqlOrder ses { s with sqlOrder := orders.item i }
  pure { s with orderIdx := s.orderIdx + 1 }

/-- INSERT-ALL-ORDERS. -/
def insertAllOrders (fuel : Nat) (s : State) : Exec State :=
  loopUntil (fun s => s.orderIdx > orders.count) (insertBody ses orders) fuel
    { s with orderIdx := 1 }

/-- The display of the total. -/
def total (n : Int) : Display := [.lit "Total records inserted: ", .num n]

/-- INSERT-ALL-ORDERS and what follows it. -/
def insertAndCommit (fuel : Nat) (w : World) : Exec World := do
  let s ← insertAllOrders ses orders fuel ⟨w, 0, 0, Order.blank⟩
  let w := ocesqlExec ses .commit s.world
  let w := w.display (total s.insertCount.val)
  let w := ocesqlDisconnect w
  pure (w.display [.lit "Program Finished Successfully"])

/-- PARSE-JSON-DATA, as far as it displays. -/
def parseJsonData (json : ReadJson.State) (w : World) : World :=
  let w := w.display [.lit "Parsing JSON data..."]
  w.display [.lit "First 200 chars: ", .text (json.jsonData.chars.take 200)]

/-- From "Table created successfully" on. -/
def loadAndInsert (fuel : Nat) (w : World) : Exec World := do
  let w := w.display [.lit "Table created successfully"]
  let json ← readJsonFile mode file fuel
  let w := w.displayAll json.console
  if json.performsParse = true then
    insertAndCommit ses orders fuel (parseJsonData json w)
  else pure (w.display [.lit "No JSON data read from file"])

/-- `MAIN-ROUTINE`, to STOP RUN. -/
def mainRoutine (fuel : Nat) (w : World) : Exec World :=
  let w := w.display [.lit "JSON to PostgreSQL Insert Program Started"]
  let w := ocesqlConnect ses w
  if w.sqlca.sqlcode ≠ 0 then pure (errorRtn ses w)
  else
    let w := w.display [.lit "Connected to database successfully"]
    let w := ocesqlExec ses dropOrders w
    let w := ocesqlExec ses createOrders w
    if w.sqlca.sqlcode ≠ 0 then pure (errorRtn ses w)
    else loadAndInsert ses mode file orders fuel w

/-- A run on the database `db`. -/
def run (db : Tables) (fuel : Nat) : Exec World :=
  mainRoutine ses mode file orders fuel (World.initial db)

end Program

-- =========================================================== a true total

/-- The row of an order. -/
def row (o : Order) : Row := o.fields.map fun f => (f.1, .text f.2.chars)

/-- The first `i` orders. -/
def Orders.take (orders : Orders) (i : Nat) : List Order :=
  (List.range' 1 i).map orders.item

/-- All orders, in index order. -/
def Orders.all (orders : Orders) : List Order :=
  orders.take orders.count.val

/-- The orders whose INSERT the server accepted. The statements 0 to 2 are
BEGIN, DROP and CREATE; the INSERTs follow in index order. -/
def acceptedOrders (orders : Orders) (log : List Event) : List Order :=
  ((orders.all.zip (log.drop 3)).filter (·.2.accepted)).map (·.1)

/-- The table `orders` consists of the rows of `os`. -/
def HoldsOrders (db : Tables) (os : List Order) : Prop :=
  ∃ t, db "orders" = some t ∧ t.rows = os.map row

/-- When a total is displayed, the committed table `orders` consists of
that many rows, those of the accepted orders. -/
def TotalTrue (ses : Session) (mode : Overlong) (file : List Line)
    (orders : Orders) (db : Tables) : Prop :=
  ∃ w, Settles (run ses mode file orders db) (.ok w)
    ∧ ∀ n, total n ∈ w.console →
      n = (acceptedOrders orders w.log).length
        ∧ HoldsOrders w.server.committed (acceptedOrders orders w.log)

-- ============================================================= the script

variable {ses : Session} {mode : Overlong} {file : List Line}
  {orders : Orders} {db : Tables} {w : World} {s : State} {i : Nat}

/-- The row the server makes of the SQL variables. -/
def sentRow (o : Order) : Row :=
  o.fields.map fun f => (f.1, .text (hostText f.2))

/-- A fresh table with the rows of the first `i` orders. -/
def ordersTable (orders : Orders) (i : Nat) : Table :=
  ⟨columns, (orders.take i).map sentRow, i + 1⟩

/-- `db` with the table `orders` replaced by that one. -/
def replaced (db : Tables) (orders : Orders) (i : Nat) : Tables :=
  Function.update db "orders" (some (ordersTable orders i))

/-- DROP, CREATE and the first `i` INSERTs. -/
def script (orders : Orders) (i : Nat) : List Query :=
  dropOrders :: createOrders :: (orders.take i).map insertOrder

theorem length_take (orders : Orders) (i : Nat) :
    (orders.take i).length = i := by
  rw [Orders.take, List.length_map, List.length_range']

/-- DROP and CREATE come in front of the INSERTs. -/
theorem length_script (orders : Orders) (i : Nat) :
    (script orders i).length = i + 2 := by
  rw [script, List.length_cons, List.length_cons, List.length_map,
    length_take]

theorem take_succ (orders : Orders) (i : Nat) :
    orders.take (i + 1) = orders.take i ++ [orders.item (i + 1)] := by
  rw [Orders.take, List.range'_1_concat, List.map_append, Nat.add_comm 1 i]
  rfl

/-- One order more is one INSERT more. -/
theorem script_succ (orders : Orders) (i : Nat) :
    script orders (i + 1)
      = script orders i ++ [insertOrder (orders.item (i + 1))] := by
  rw [script, take_succ, List.map_append]
  rfl

/-- And one row more, with the next serial number. -/
theorem ordersTable_succ (orders : Orders) (i : Nat) :
    ordersTable orders (i + 1) = { ordersTable orders i with
      rows := (ordersTable orders i).rows ++ [sentRow (orders.item (i + 1))]
      nextSerial := i + 2 } := by
  rw [ordersTable, take_succ, List.map_append]
  rfl

/-- One more INSERT. -/
theorem effect_insertOrder (db : Tables) (orders : Orders) (i : Nat) :
    (insertOrder (orders.item (i + 1))).effect (replaced db orders i)
      = some (replaced db orders (i + 1)) := by
  refine effect_insert ?_
  have hnames : ((orders.item (i + 1)).fields.map
      fun f => (f.1, hostText f.2)).all (fun v =>
        (ordersTable orders i).columns.any fun c => c.name == v.1) = true :=
    rfl
  rw [Table.insert, if_pos hnames, ordersTable_succ]
  rfl

-- =========================================================== what counts

/-- Of the first `i` orders those whose INSERT is accepted. -/
def accepted (ses : Session) (orders : Orders) (i : Nat) : List Order :=
  ((List.range' 1 i).filter fun j => ses.accepts (j + 2)).map orders.item

/-- An order is counted if its INSERT was accepted. -/
theorem accepted_succ (ses : Session) (orders : Orders) (i : Nat) :
    accepted ses orders (i + 1) = accepted ses orders i
      ++ if ses.accepts (i + 3) then [orders.item (i + 1)] else [] := by
  rw [accepted, List.range'_1_concat, List.filter_append, List.map_append,
    Nat.add_comm 1 i, List.filter_singleton]
  cases ses.accepts (i + 3) <;> rfl

/-- No more orders are counted than there are. -/
theorem length_accepted_le (ses : Session) (orders : Orders) (i : Nat) :
    (accepted ses orders i).length ≤ i := by
  rw [accepted, List.length_map]
  calc _ ≤ (List.range' 1 i).length := List.length_filter_le _ _
    _ = i := List.length_range'

/-- If the last INSERT is accepted, all are. -/
theorem accepted_of_accepts (h : ses.accepts (i + 2) = true) :
    accepted ses orders i = orders.take i := by
  rw [accepted, Orders.take, List.filter_eq_self.mpr]
  intro j hj
  rw [List.mem_range'_1] at hj
  exact ses.accepts_of_le (by omega) h

/-- The log tells which they are. -/
theorem zip_events (ses : Session) (orders : Orders) (i : Nat) :
    (((orders.take i).zip
      ((connectEvent :: events ses (script orders i)).drop 3)).filter
        (·.2.accepted)).map (·.1) = accepted ses orders i := by
  induction i with
  | zero => rfl
  | succ i ih =>
      have hlen : 3 ≤ (connectEvent
          :: events ses (script orders i)).length := by
        rw [List.length_cons, length_events, length_script]
        omega
      have hzip : (orders.take i).length = ((connectEvent
          :: events ses (script orders i)).drop 3).length := by
        rw [length_take, List.length_drop, List.length_cons, length_events,
          length_script]
        omega
      rw [script_succ, events_concat, length_script, ← List.cons_append,
        List.drop_append_of_le_length hlen, take_succ, List.zip_append hzip,
        List.filter_append, List.map_append, ih, accepted_succ]
      cases ses.accepts (i + 3) <;> simp

-- ============================================================== the total

/-- No total has been displayed yet. -/
def Quiet (w : World) : Prop := ∀ n, total n ∉ w.console

/-- Showing other lines keeps the total unshown. -/
theorem Quiet.displayAll {shown : List Display} (h : Quiet w)
    (hshown : ∀ items ∈ shown, ∀ n, items ≠ total n) :
    Quiet (w.displayAll shown) := by
  intro n hn
  rcases List.mem_append.mp hn with hn | hn
  · exact h n hn
  · exact hshown _ hn n rfl

theorem Quiet.display {items : Display} (h : Quiet w)
    (hitems : ∀ n, items ≠ total n) : Quiet (w.display items) :=
  h.displayAll (List.forall_mem_singleton.mpr hitems)

/-- A statement shows nothing. -/
theorem Quiet.exec {q : Query} (h : Quiet w) :
    Quiet (ocesqlExec ses q w) := by
  unfold Quiet
  rw [ocesqlExec_console]
  exact h

/-- The texts of the error paragraph are no total. -/
theorem Quiet.errorRtn (h : Quiet w) : Quiet (errorRtn ses w) := by
  intro n hn
  rw [InsertMany.errorRtn, errorRtn_console, List.mem_append] at hn
  rcases hn with hn | hn
  · exact h n hn
  · unfold errorTexts at hn
    split_ifs at hn <;> simp [total] at hn

-- =============================================================== the loop

/-- `i` orders are done: DROP, CREATE and their INSERTs have been sent, and
the accepted ones counted. -/
structure InsertInv (ses : Session) (orders : Orders) (db : Tables)
    (i : Nat) (s : State) : Prop where
  index : s.orderIdx.val = i + 1
  count : s.insertCount.val = (accepted ses orders i).length
  script : Script ses db (script orders i) (replaced db orders i) s.world
  quiet : Quiet s.world

/-- The index and the counter have digits enough. -/
theorem InsertInv.val_succ (h : InsertInv ses orders db i s)
    (hi : i < orders.count.val) :
    (s.orderIdx + 1).val = i + 2
      ∧ (s.insertCount + 1).val = (accepted ses orders i).length + 1 := by
  have hcount := orders.count_le
  have hle := length_accepted_le ses orders i
  constructor
  · rw [Pic9.val_add_one (by decide) _ (by rw [h.index]; omega), h.index]
  · rw [Pic9.val_add_one (by decide) _ (by rw [h.count]; omega), h.count]

/-- One order. -/
theorem InsertInv.step (hses : ses.NoRestart)
    (h : InsertInv ses orders db i s) (hi : i < orders.count.val) :
    ∃ s', insertBody ses orders s = .ok s'
      ∧ InsertInv ses orders db (i + 1) s' := by
  obtain ⟨hindex, hcount⟩ := h.val_succ hi
  have hsub : subscript (some 1615) s.orderIdx.val = .ok (i + 1) := by
    rw [h.index, subscript_eq_ok]
    intro m hm
    cases hm
    have := orders.count_le
    omega
  have heffect := effect_insertOrder db orders i
  have hscript := h.script.exec rfl heffect
  have hcode := h.script.sqlcode_exec rfl heffect
  have hrestart := h.script.exec_ne_restart hses rfl heffect
  rw [length_script] at hcode
  rw [← script_succ] at hscript
  have hbody : insertBody ses orders s = .ok
      { insertSqlOrder ses { s with sqlOrder := orders.item (i + 1) } with
        orderIdx := s.orderIdx + 1 } := by
    unfold insertBody insertSqlOrder
    rw [hsub]
    dsimp only [Run.ok_bind, bind, Run.bind, pure]
    split <;> rfl
  refine ⟨_, hbody, ?_⟩
  unfold insertSqlOrder
  dsimp only
  split
  case isTrue hzero =>
      refine ⟨hindex, ?_, hscript.display _, h.quiet.exec.display ?_⟩
      · rw [accepted_succ, if_pos (hcode.mp hzero), List.length_append]
        exact hcount
      · simp [total]
  case isFalse hnonzero =>
      refine ⟨hindex, ?_, (hscript.display _).errorRtn hrestart,
        (h.quiet.exec.display ?_).errorRtn⟩
      · rw [accepted_succ, if_neg (mt hcode.mpr hnonzero),
          List.append_nil]
        exact h.count
      · simp [total]

/-- INSERT-ALL-ORDERS ends after the last order. -/
theorem insertAllOrders_settles (hses : ses.NoRestart)
    (hscript : Script ses db (script orders 0) (replaced db orders 0) w)
    (hquiet : Quiet w) :
    ∃ s, Settles (fun fuel => insertAllOrders ses orders fuel
        ⟨w, 0, 0, Order.blank⟩) (.ok s)
      ∧ InsertInv ses orders db orders.count.val s := by
  have hloop := LoopSettles.counting
    (fun s : State => decide (s.orderIdx > orders.count))
    (fun _ => insertBody ses orders)
    (P := InsertInv ses orders db) orders.count.val ?_ ?_
    (s := ⟨w, 1, 0, Order.blank⟩) ⟨rfl, rfl, hscript, hquiet⟩
  · obtain ⟨s, hs, h⟩ := hloop
    exact ⟨s, hs.settles, h⟩
  · intro s h
    rw [decide_eq_true_iff, gt_iff_lt, Fin.lt_def, h.index]
    omega
  · intro i s hi h
    obtain ⟨s', hbody, h'⟩ := h.step hses hi
    refine ⟨?_, s', ?_, h'⟩
    · rw [decide_eq_false_iff_not, gt_iff_lt, Fin.lt_def, h.index]
      omega
    · rw [hbody]
      exact .const _

-- ============================================================ the whole run

/-- All INSERTs and COMMIT are accepted. -/
def allAccepted (ses : Session) (orders : Orders) : Bool :=
  ses.accepts (orders.count.val + 2)
    && !ses.refuses (orders.count.val + 3)

/-- A run that has displayed the total: the rows are permanent if all
INSERTs and COMMIT were accepted, and behind COMMIT at most a BEGIN was
sent. -/
structure Finished (ses : Session) (orders : Orders) (db : Tables)
    (w : World) : Prop where
  committed : w.server.committed
    = if allAccepted ses orders then replaced db orders orders.count.val
      else db
  total : ∀ n, total n ∈ w.console
    ↔ n = (accepted ses orders orders.count.val).length
  log : ∃ post, w.log
      = (connectEvent :: events ses (script orders orders.count.val))
        ++ ⟨.commit, !ses.refuses (orders.count.val + 3),
          !ses.accepts (orders.count.val + 2)⟩ :: post
    ∧ ∀ e ∈ post, e.query = .begin ∧ e.inAborted = false

/-- A run that has stopped before the first INSERT. -/
structure Stopped (w : World) : Prop where
  quiet : Quiet w
  log : w.log.drop 3 = []

/-- The orders, COMMIT and the total. -/
theorem insertAndCommit_settles (hses : ses.NoRestart)
    (hscript : Script ses db (script orders 0) (replaced db orders 0) w)
    (hquiet : Quiet w) :
    ∃ w', Settles (fun fuel => insertAndCommit ses orders fuel w) (.ok w')
      ∧ Finished ses orders db w' := by
  obtain ⟨s, hs, h⟩ := insertAllOrders_settles hses hscript hquiet
  obtain ⟨hcommitted, hconsole, post, hlog, hpost⟩ :=
    ocesqlExec_commit ses h.script.inTxn
  rw [h.script.length_log, length_script] at hcommitted hlog
  rw [h.script.log] at hlog
  refine ⟨_, .bind hs (.const _), hcommitted, fun n => ?_, post, hlog, hpost⟩
  show total n ∈ (ocesqlExec ses .commit s.world).console ++ [_] ++ [_] ↔ _
  rw [hconsole, List.mem_append, List.mem_append, List.mem_singleton,
    List.mem_singleton, ← h.count]
  have hold := h.quiet n
  constructor
  · rintro ((hn | hn) | hn)
    · exact absurd hn hold
    · simpa [InsertMany.total] using hn
    · simp [InsertMany.total] at hn
  · rintro rfl
    exact .inl (.inr rfl)

/-- The world CONNECT finds. -/
def started (db : Tables) : World :=
  (World.initial db).display
    [.lit "JSON to PostgreSQL Insert Program Started"]

/-- The world behind CREATE. -/
def created (ses : Session) (db : Tables) : World :=
  ocesqlExec ses createOrders (ocesqlExec ses dropOrders
    ((ocesqlConnect ses (started db)).display
      [.lit "Connected to database successfully"]))

/-- Nothing is shown at the start. -/
theorem quiet_started (db : Tables) : Quiet (started db) :=
  Quiet.display (fun _ => List.not_mem_nil) (by simp [total])

theorem quiet_ocesqlConnect (h : Quiet w) : Quiet (ocesqlConnect ses w) := by
  unfold Quiet
  rw [ocesqlConnect_console]
  exact h

/-- Nor behind the CREATE. -/
theorem quiet_created (ses : Session) (db : Tables) :
    Quiet (created ses db) := by
  refine (Quiet.display ?_ ?_).exec.exec
  · exact quiet_ocesqlConnect (quiet_started db)
  · simp [total]

/-- DROP and CREATE. -/
theorem created_script (orders : Orders) (db : Tables)
    (hconnect : ses.connects = true) :
    Script ses db (script orders 0) (replaced db orders 0) (created ses db)
      ∧ ((created ses db).sqlca.sqlcode = 0 ↔ ses.accepts 2 = true)
      ∧ (ses.NoRestart → (created ses db).sqlca.sqlcode ≠ -30) := by
  have hconnected :=
    (ocesqlConnect_script (w := started db) hconnect rfl rfl).1.display
      [.lit "Connected to database successfully"]
  have hdrop := hconnected.exec (q := dropOrders) rfl rfl
  have hcreate := effect_createTable db "orders" columns
  exact ⟨hdrop.exec (q := createOrders) rfl hcreate,
    hdrop.sqlcode_exec rfl hcreate,
    fun hses => hdrop.exec_ne_restart hses rfl hcreate⟩

/-- INSERT-ALL-ORDERS is performed. -/
def Reached (ses : Session) (mode : Overlong) (file : List Line) : Prop :=
  ses.connects = true ∧ ses.accepts 2 = true ∧ ¬ AllBlank mode file

/-- A CONNECT that fails ends the run with its message. -/
theorem run_of_not_connects (hconnect : ses.connects = false)
    (fuel : Nat) :
    run ses mode file orders db fuel
      = .ok (errorRtn ses (ocesqlConnect ses (started db))) :=
  if_pos (ocesqlConnect_failed (w := started db) hconnect rfl rfl).1

/-- Otherwise the run ends behind a CREATE that fails, or goes on. -/
theorem run_of_connects (mode : Overlong) (file : List Line)
    (orders : Orders) (db : Tables) (hconnect : ses.connects = true)
    (fuel : Nat) :
    run ses mode file orders db fuel
      = if (created ses db).sqlca.sqlcode ≠ 0 then
          .ok (errorRtn ses (created ses db))
        else loadAndInsert ses mode file orders fuel (created ses db) :=
  if_neg (not_not.mpr
    (ocesqlConnect_script (w := started db) hconnect rfl rfl).2)

/-- The world that meets the test of the length. -/
def shown (json : ReadJson.State) (w : World) : World :=
  (w.display [.lit "Table created successfully"]).displayAll json.console

/-- READ-JSON-FILE displays no total. -/
theorem quiet_shown {json : ReadJson.State}
    (hconsole : json.console ⊆ [[.lit "JSON file too large"],
      [.lit "JSON file read: ", .num json.jsonLength.val, .lit " bytes"]])
    (h : Quiet w) : Quiet (shown json w) := by
  refine (h.display (by simp [total])).displayAll fun items hitems n => ?_
  have := hconsole hitems
  rw [List.mem_pair] at this
  rcases this with rfl | rfl <;> simp [total]

/-- Without text the run stops. -/
theorem loadAndInsert_of_blank (ses : Session) (orders : Orders)
    (hblank : AllBlank mode file)
    (hquiet : Quiet w) :
    ∃ w', Settles (fun fuel => loadAndInsert ses mode file orders fuel w)
        (.ok w')
      ∧ Quiet w' ∧ w'.log = w.log := by
  obtain ⟨json, hjson, hheld, hconsole, -⟩ := readJsonFile_settles mode file
  have hparse : ¬ json.performsParse = true := by
    rw [hheld.performsParse_iff, not_not, loaded_eq_nil_iff]
    exact hblank
  refine ⟨(shown json w).display [.lit "No JSON data read from file"],
    .bind hjson ?_, (quiet_shown hconsole hquiet).display (by simp [total]),
    rfl⟩
  refine (Settles.const _).congr fun fuel => ?_
  exact if_neg hparse

/-- With text it goes on to the orders, and finishes. -/
theorem loadAndInsert_of_text (hses : ses.NoRestart)
    (hjson : ¬ AllBlank mode file)
    (hscript : Script ses db (script orders 0) (replaced db orders 0) w)
    (hquiet : Quiet w) :
    ∃ w', Settles (fun fuel => loadAndInsert ses mode file orders fuel w)
        (.ok w')
      ∧ Finished ses orders db w' := by
  obtain ⟨json, hread, hheld, hconsole, -⟩ := readJsonFile_settles mode file
  have hparse : json.performsParse = true := by
    rw [hheld.performsParse_iff, Ne, loaded_eq_nil_iff]
    exact hjson
  have hshown := (hscript.display
    [.lit "Table created successfully"]).displayAll json.console
  have hparsed : Quiet (parseJsonData json (shown json w)) :=
    ((quiet_shown hconsole hquiet).display (by simp [total])).display
      (by simp [total])
  obtain ⟨w', hw', hfinished⟩ := insertAndCommit_settles hses
    ((hshown.display _).display _) hparsed
  refine ⟨w', .bind hread (hw'.congr fun fuel => ?_), hfinished⟩
  exact if_pos hparse

/-- A run that does not reach the orders stops without a total. -/
theorem run_stopped (orders : Orders) (db : Tables)
    (hses : ses.NoRestart) (h : ¬ Reached ses mode file) :
    ∃ w, Settles (run ses mode file orders db) (.ok w) ∧ Stopped w := by
  cases hconnect : ses.connects with
  | false =>
      refine ⟨errorRtn ses (ocesqlConnect ses (started db)),
        (Settles.const _).congr (run_of_not_connects hconnect),
        (quiet_ocesqlConnect (quiet_started db)).errorRtn, ?_⟩
      have hlen : (errorRtn ses (ocesqlConnect ses (started db))).log.length
          ≤ 1 :=
        (failed_log (w := started db) hses hconnect rfl rfl rfl).1
      exact List.drop_of_length_le (hlen.trans (by decide))
  | true =>
      obtain ⟨hscript, hcode, hrestart⟩ :=
        created_script orders db hconnect
      have hlen : (created ses db).log.length = 3 := hscript.length_log
      have hdrop : (created ses db).log.drop 3 = [] :=
        List.drop_of_length_le hlen.le
      have hrun := run_of_connects mode file orders db hconnect
      by_cases haccept : ses.accepts 2 = true
      · have hblank : AllBlank mode file := by
          by_contra hjson
          exact h ⟨hconnect, haccept, hjson⟩
        obtain ⟨w, hw, hquiet, hlog⟩ :=
          loadAndInsert_of_blank ses orders hblank (quiet_created ses db)
        refine ⟨w, hw.congr fun fuel => ?_, hquiet, by rw [hlog, hdrop]⟩
        rw [hrun, if_neg (not_not.mpr (hcode.mpr haccept))]
      · refine ⟨errorRtn ses (created ses db),
          (Settles.const _).congr fun fuel => ?_,
          (quiet_created ses db).errorRtn, ?_⟩
        · rw [hrun, if_pos (mt hcode.mp haccept)]
        · rw [errorRtn, errorRtn_eq (hrestart hses)]
          exact hdrop

/-- Any other run finishes. -/
theorem run_finished (orders : Orders) (db : Tables)
    (hses : ses.NoRestart) (h : Reached ses mode file) :
    ∃ w, Settles (run ses mode file orders db) (.ok w)
      ∧ Finished ses orders db w := by
  obtain ⟨hconnect, haccept, hjson⟩ := h
  obtain ⟨hscript, hcode, -⟩ := created_script orders db hconnect
  obtain ⟨w, hw, hfinished⟩ := loadAndInsert_of_text hses hjson hscript
    (quiet_created ses db)
  refine ⟨w, hw.congr fun fuel => ?_, hfinished⟩
  rw [run_of_connects mode file orders db hconnect,
    if_neg (not_not.mpr (hcode.mpr haccept))]

-- ================================================ when the total is true

/-- No field has a NUL in it. -/
def Order.Plain (o : Order) : Prop := ∀ f ∈ o.fields, '\x00' ∉ f.2.chars

/-- An item without NUL arrives as it is. -/
theorem hostText_eq_chars_iff {n : Nat} {item : PicX n} :
    hostText item = item.chars ↔ '\x00' ∉ item.chars := by
  rw [hostText, List.takeWhile_eq_self_iff]
  simp only [ne_eq, decide_not, Bool.not_eq_eq_eq_not, Bool.not_true,
    decide_eq_false_iff_not]
  exact ⟨fun h hmem => h _ hmem rfl, fun h c hc heq => h (heq ▸ hc)⟩

/-- So does an order. -/
theorem sentRow_eq_row_iff {o : Order} : sentRow o = row o ↔ o.Plain := by
  unfold sentRow row Order.Plain
  rw [List.map_inj_left]
  simp only [Prod.mk.injEq, true_and, Value.text.injEq,
    hostText_eq_chars_iff]

/-- The log tells the accepted orders. -/
theorem Finished.acceptedOrders (h : Finished ses orders db w) :
    acceptedOrders orders w.log
      = accepted ses orders orders.count.val := by
  obtain ⟨post, hlog, -⟩ := h.log
  have hlen : ((connectEvent
      :: events ses (script orders orders.count.val)).drop 3).length
        = orders.all.length := by
    rw [List.length_drop, List.length_cons, length_events, length_script,
      Orders.all, length_take]
    omega
  have hle : 3 ≤ (connectEvent
      :: events ses (script orders orders.count.val)).length := by
    rw [List.length_cons, length_events, length_script]
    omega
  rw [InsertMany.acceptedOrders, hlog, List.drop_append_of_le_length hle,
    ← List.append_nil orders.all, List.zip_append hlen.symm,
    List.zip_nil_left, List.append_nil]
  exact zip_events ses orders orders.count.val

/-- The total of a finished run is true if the table says so. -/
theorem totalTrue_iff_of_finished
    (hw : Settles (run ses mode file orders db) (.ok w))
    (h : Finished ses orders db w) :
    TotalTrue ses mode file orders db
      ↔ HoldsOrders w.server.committed
        (accepted ses orders orders.count.val) := by
  rw [← h.acceptedOrders]
  constructor
  · intro htrue
    obtain ⟨w', hw', htotal⟩ := htrue
    obtain rfl : w = w' := by
      simpa using hw.unique hw'
    have hn := (h.total _).mpr rfl
    exact (htotal _ hn).2
  · intro hholds
    refine ⟨w, hw, fun n hn => ⟨?_, hholds⟩⟩
    rw [h.acceptedOrders]
    exact (h.total n).mp hn

/-- Every row that was sent is there; the question is what was sent. -/
theorem holdsOrders_replaced
    (haccept : ses.accepts (orders.count.val + 2) = true) :
    HoldsOrders (replaced db orders orders.count.val)
        (accepted ses orders orders.count.val)
      ↔ ∀ o ∈ orders.all, o.Plain := by
  have hrows : HoldsOrders (replaced db orders orders.count.val)
        (accepted ses orders orders.count.val)
      ↔ orders.all.map sentRow = orders.all.map row := by
    rw [HoldsOrders, accepted_of_accepts haccept, replaced,
      Function.update_self]
    simp only [Option.some.injEq, exists_eq_left']
    rfl
  rw [hrows, List.map_inj_left]
  simp only [sentRow_eq_row_iff]

/-- The total is true in three cases: the run stops before it; all INSERTs
and COMMIT are accepted, and no field is cut at a NUL; or something is
rejected, and the old table consists of the rows of the accepted
orders. -/
theorem totalTrue_iff (ses : PgSession) (mode : Overlong)
    (file : List Line) (orders : Orders) (db : Tables) :
    TotalTrue ses.toSession mode file orders db
      ↔ ¬ Reached ses.toSession mode file
        ∨ (allAccepted ses.toSession orders = true
            ∧ ∀ o ∈ orders.all, o.Plain)
        ∨ (allAccepted ses.toSession orders = false
            ∧ HoldsOrders db
              (accepted ses.toSession orders orders.count.val)) := by
  by_cases hreach : Reached ses.toSession mode file
  · obtain ⟨w, hw, h⟩ := run_finished orders db ses.noRestart hreach
    rw [totalTrue_iff_of_finished hw h, h.committed]
    cases hall : allAccepted ses.toSession orders with
    | true =>
        have haccept := (Bool.and_eq_true_iff.mp hall).1
        rw [if_pos rfl, holdsOrders_replaced haccept]
        simp [hreach]
    | false =>
        rw [if_neg Bool.false_ne_true]
        simp [hreach]
  · obtain ⟨w, hw, h⟩ := run_stopped orders db ses.noRestart hreach
    exact ⟨fun _ => .inl hreach,
      fun _ => ⟨w, hw, fun n hn => absurd hn (h.quiet n)⟩⟩

/-- A server that refuses the second INSERT, for want of disk space. -/
def secondRefused : PgSession where
  connectError := none
  refuses i := i == 4
  errors _ := .fatal (some "53100") []

/-- Two orders without text. -/
def twoOrders : Orders := ⟨fun _ => Order.blank, 2, by decide⟩

/-- On an empty database the run displays that one record was inserted, and
leaves the database empty. -/
theorem not_totalTrue_secondRefused :
    ¬ TotalTrue secondRefused.toSession .cut ["[]".toList] twoOrders
      fun _ => none := by
  have hreach : Reached secondRefused.toSession .cut ["[]".toList] :=
    ⟨rfl, rfl, not_allBlank List.mem_cons_self (by decide)⟩
  obtain ⟨w, hw, h⟩ := run_finished twoOrders (fun _ => none)
    secondRefused.noRestart hreach
  rw [totalTrue_iff_of_finished hw h, h.committed]
  intro hholds
  obtain ⟨t, ht, -⟩ := hholds
  cases ht

end CobolExercises.Database.InsertMany
