/-
A small server whose portals behave as PostgreSQL's do, so that the laws
asked of a server (`View.Lawful`) are laws some server has.

# What it does

A statement gets the answer a table holds for it. DECLARE takes the rows of
that answer into a portal, under the cursor's name in lower case and cut at
63 characters; FETCH hands out the next ones, CLOSE, COMMIT and ROLLBACK
close. A duplicate portal is 42P03, an unknown one 34000. Connections
always come up, and transactions are not aborted.
-/
import CobolExercises.Runtime.Portals

namespace CobolExercises.Runtime

open Lib Database

-- ============================================================== the server

structure Portal where
  fields : Nat
  rows : List (List Text)

structure Server where
  answer : Text → Result
  portals : Nat → Text → Option Portal

namespace Server

/-- An identifier without quotes. -/
def fold (name : Text) : Text := (name.map Char.toLower).take 63

def setPortal (id : Nat) (p : Text) (portal : Option Portal) (s : Server) :
    Server :=
  { s with portals := fun i q =>
      if i = id ∧ q = p then portal else s.portals i q }

def closeAll (id : Nat) (s : Server) : Server :=
  { s with portals := fun i q => if i = id then none else s.portals i q }

def refusal (state : String) : Result := .failed (.fatal (some state) [])

def declare (id : Nat) (cname query : Text) (s : Server) : Result × Server :=
  match s.portals id (fold cname) with
  | some _ => (refusal "42P03", s)
  | none =>
      match s.answer query with
      | .tuplesOk fields rows =>
          (.commandOk 0, s.setPortal id (fold cname) (some ⟨fields, rows⟩))
      | .commandOk _ | .emptyQuery _ | .failed _ => (refusal "42601", s)

def fetch (id : Nat) (cname : Text) (count : Nat) (s : Server) :
    Result × Server :=
  match s.portals id (fold cname) with
  | none => (refusal "34000", s)
  | some portal =>
      (.tuplesOk portal.fields (portal.rows.take count),
        s.setPortal id (fold cname)
          (some { portal with rows := portal.rows.drop count }))

def close (id : Nat) (cname : Text) (s : Server) : Result × Server :=
  match s.portals id (fold cname) with
  | none => (refusal "34000", s)
  | some _ => (.commandOk 0, s.setPortal id (fold cname) none)

def statement (id : Nat) (query : Text) (s : Server) : Result × Server :=
  if query = commitText ∨ query = rollbackText then
    (.commandOk 0, s.closeAll id)
  else (s.answer query, s)

/-- Every request gets an answer. -/
def answered (reply : Result × Server) : Reply × Server :=
  (some reply.1, reply.2)

def pq : Libpq Server where
  connectdb id _ s := (true, s.closeAll id)
  status _ _ := true
  exec id req s := answered <|
    match req with
    | .exec query | .execParams query _ => s.statement id query
    | .cursorDeclare cname query | .cursorDeclareParams cname query _ =>
        s.declare id cname query
    | .cursorFetchOne cname => s.fetch id cname 1
    | .cursorFetchOccurs cname count => s.fetch id cname count
    | .cursorClose cname => s.close id cname
  finish id s := s.closeAll id

/-- The statements that are about cursors, by their first word. -/
def touches (query : Text) : Prop :=
  (query.takeWhile Char.isAlpha).map Char.toUpper
    ∈ ["DECLARE".toList, "FETCH".toList, "MOVE".toList, "CLOSE".toList]

def view : View Server where
  rows id p s := (s.portals id p).map Portal.rows
  fold := fold
  touches := touches

-- ================================================================ the laws

section Laws

variable {id i : Nat} {p q cname query : Text} {s : Server}

/-- The view of a portal is what is left in it. -/
theorem rows_eq : view.rows i q s = (s.portals i q).map Portal.rows := rfl

/-- Only the portal that is set changes. -/
theorem rows_setPortal (portal : Option Portal) :
    view.rows i q (s.setPortal id p portal)
      = if i = id ∧ q = p then portal.map Portal.rows
        else view.rows i q s := by
  show Option.map _ (if _ then _ else _) = _
  exact apply_ite (Option.map Portal.rows) _ _ _

/-- The end of a transaction takes the portals of its connection. -/
theorem rows_closeAll :
    view.rows i q (s.closeAll id)
      = if i = id then none else view.rows i q s := by
  show Option.map _ (if _ then _ else _) = _
  exact apply_ite (Option.map Portal.rows) _ _ _

/-- DECLARE: it is refused and changes nothing, or opens its portal. -/
theorem declare_cases (id : Nat) (cname query : Text) (s : Server) :
    (s.declare id cname query).1.isOk = false
        ∧ (s.declare id cname query).2 = s
      ∨ ∃ portal, (s.declare id cname query).1.isOk = true
        ∧ (s.declare id cname query).2
          = s.setPortal id (fold cname) (some portal) := by
  unfold declare
  cases hportal : s.portals id (fold cname) with
  | some _ => exact .inl ⟨rfl, rfl⟩
  | none =>
      cases hanswer : s.answer query with
      | tuplesOk fields rows => exact .inr ⟨⟨fields, rows⟩, rfl, rfl⟩
      | commandOk | emptyQuery | failed => exact .inl ⟨rfl, rfl⟩

/-- Every request leaves the server as it is or changes one portal or all
of its connection. -/
theorem rows_exec_other (req : Request) (h : i ≠ id) :
    view.rows i p (pq.exec id req s).2 = view.rows i p s := by
  -- whatever is done, it is done to portals of the connection
  have hset (q : Text) (portal : Option Portal) :
      view.rows i p (s.setPortal id q portal) = view.rows i p s := by
    rw [rows_setPortal, if_neg fun heq => h heq.1]
  have hstatement (query : Text) :
      view.rows i p (s.statement id query).2 = view.rows i p s := by
    unfold statement
    split
    · rw [rows_closeAll, if_neg h]
    · rfl
  have hdeclare (cname query : Text) :
      view.rows i p (s.declare id cname query).2 = view.rows i p s := by
    rcases declare_cases id cname query s with ⟨-, heq⟩ | ⟨_, -, heq⟩
    · rw [heq]
    · rw [heq, hset]
  have hfetch (cname : Text) (count : Nat) :
      view.rows i p (s.fetch id cname count).2 = view.rows i p s := by
    unfold fetch
    split
    · rfl
    · exact hset _ _
  cases req with
  | exec query => exact hstatement query
  | execParams query params => exact hstatement query
  | cursorDeclare cname query => exact hdeclare cname query
  | cursorDeclareParams cname query params => exact hdeclare cname query
  | cursorFetchOne cname => exact hfetch cname 1
  | cursorFetchOccurs cname count => exact hfetch cname count
  | cursorClose cname =>
      show view.rows i p (s.close id cname).2 = _
      unfold close
      split
      · rfl
      · exact hset _ _

/-- What a FETCH leaves of a portal. -/
theorem rows_fetch (count : Nat) :
    view.rows id p (s.fetch id cname count).2
      = if p = fold cname then (view.rows id p s).map (List.drop count)
        else view.rows id p s := by
  unfold fetch
  by_cases hp : p = fold cname
  · subst hp
    rw [if_pos rfl]
    cases hportal : s.portals id (fold cname) with
    | none =>
        rw [rows_eq, hportal]
        rfl
    | some portal =>
        dsimp only
        rw [rows_setPortal, if_pos ⟨rfl, rfl⟩, rows_eq, hportal]
        rfl
  · rw [if_neg hp]
    split
    · rfl
    · rw [rows_setPortal, if_neg fun h => hp h.2]

/-- CLOSE takes one of them. -/
theorem rows_close :
    view.rows id p (s.close id cname).2
      = if p = fold cname then none else view.rows id p s := by
  unfold close
  by_cases hp : p = fold cname
  · subst hp
    rw [if_pos rfl]
    cases hportal : s.portals id (fold cname) with
    | none =>
        rw [rows_eq, hportal]
        rfl
    | some portal => rw [rows_setPortal, if_pos ⟨rfl, rfl⟩, Option.map_none]
  · rw [if_neg hp]
    split
    · rfl
    · rw [rows_setPortal, if_neg fun h => hp h.2]

/-- Any statement but COMMIT and ROLLBACK leaves the portals of the
connection. -/
theorem rows_statement :
    view.rows id p (s.statement id query).2
      = if query = commitText ∨ query = rollbackText then none
        else view.rows id p s := by
  unfold statement
  split
  · rw [rows_closeAll, if_pos rfl]
  · rfl

/-- A DECLARE that is refused, or of another name, changes no portal. -/
theorem rows_declare
    (h : p ≠ fold cname ∨ (s.declare id cname query).1.isOk = false) :
    view.rows id p (s.declare id cname query).2 = view.rows id p s := by
  rcases declare_cases id cname query s with ⟨-, heq⟩ | ⟨portal, hok, heq⟩
  · rw [heq]
  · rw [heq, rows_setPortal, if_neg]
    intro hp
    rcases h with h | h
    · exact h hp.2
    · rw [hok] at h
      cases h

/-- A portal nothing was done to is kept. -/
theorem kept_self {rows : List (List Text)} {after : Option (List (List Text))}
    (h : after = some rows) : Kept rows after := by
  intro rest hrest
  rw [h] at hrest
  exact (Option.some.inj hrest).symm

/-- No portal comes into being without a DECLARE. -/
theorem exec_plain {req : Request} (hreq : req.declared = none)
    (h : view.rows id p s = none) :
    view.rows id p (pq.exec id req s).2 = none := by
  have hstatement (query : Text) :
      view.rows id p (s.statement id query).2 = none := by
    rw [rows_statement, h, ite_self]
  have hfetch (cname : Text) (count : Nat) :
      view.rows id p (s.fetch id cname count).2 = none := by
    rw [rows_fetch, h, Option.map_none, ite_self]
  cases req with
  | exec query => exact hstatement query
  | execParams query params => exact hstatement query
  | cursorDeclare | cursorDeclareParams => cases hreq
  | cursorFetchOne cname => exact hfetch cname 1
  | cursorFetchOccurs cname count => exact hfetch cname count
  | cursorClose cname =>
      show view.rows id p (s.close id cname).2 = none
      rw [rows_close, h, ite_self]

/-- A portal that is there keeps its rows, or is gone. -/
theorem exec_kept {req : Request} {rows : List (List Text)}
    (hdeclare : ∀ cname, req.declared = some cname → fold cname = p →
      (pq.exec id req s).1.isOk = false)
    (hfetch : ∀ cname, req.fetched = some cname → fold cname ≠ p)
    (h : view.rows id p s = some rows) :
    Kept rows (view.rows id p (pq.exec id req s).2) := by
  have hstatement (query : Text) :
      Kept rows (view.rows id p (s.statement id query).2) := by
    rw [rows_statement]
    split
    · exact nofun
    · exact kept_self h
  have hfetched (cname : Text) (count : Nat) (hne : fold cname ≠ p) :
      Kept rows (view.rows id p (s.fetch id cname count).2) := by
    rw [rows_fetch, if_neg hne.symm]
    exact kept_self h
  have hdeclared (cname query : Text)
      (hok : fold cname = p → (s.declare id cname query).1.isOk = false) :
      Kept rows (view.rows id p (s.declare id cname query).2) := by
    rw [rows_declare]
    · exact kept_self h
    · by_cases hp : p = fold cname
      · exact .inr (hok hp.symm)
      · exact .inl hp
  cases req with
  | exec query => exact hstatement query
  | execParams query params => exact hstatement query
  | cursorDeclare cname query =>
      exact hdeclared cname query (hdeclare cname rfl)
  | cursorDeclareParams cname query params =>
      exact hdeclared cname query (hdeclare cname rfl)
  | cursorFetchOne cname => exact hfetched cname 1 (hfetch cname rfl)
  | cursorFetchOccurs cname count =>
      exact hfetched cname count (hfetch cname rfl)
  | cursorClose cname =>
      show Kept rows (view.rows id p (s.close id cname).2)
      rw [rows_close]
      split
      · exact nofun
      · exact kept_self h

/-- A FETCH hands out the front of the portal and leaves the rest. -/
theorem exec_fetch {req : Request} {rows : List (List Text)}
    (hreq : req.fetched = some cname)
    (h : view.rows id (fold cname) s = some rows) :
    (pq.exec id req s).1.rows = rows.take req.limit
      ∧ Kept (rows.drop req.limit)
        (view.rows id (fold cname) (pq.exec id req s).2) := by
  have hfetched (count : Nat) :
      (s.fetch id cname count).1.rows = rows.take count
        ∧ Kept (rows.drop count)
          (view.rows id (fold cname) (s.fetch id cname count).2) := by
    constructor
    · obtain ⟨portal, hportal, rfl⟩ := Option.map_eq_some_iff.mp h
      unfold fetch
      rw [hportal]
      rfl
    · rw [rows_fetch, if_pos rfl, h]
      exact kept_self rfl
  cases req with
  | cursorFetchOne name =>
      obtain rfl := Option.some.inj hreq
      exact hfetched 1
  | cursorFetchOccurs name count =>
      obtain rfl := Option.some.inj hreq
      exact hfetched count
  | exec | execParams | cursorDeclare | cursorDeclareParams
  | cursorClose => cases hreq

/-- A FETCH from no portal hands out nothing. -/
theorem exec_unknown {req : Request} (hreq : req.fetched = some cname)
    (h : view.rows id (fold cname) s = none) :
    (pq.exec id req s).1.rows = [] := by
  have hfetched (count : Nat) : (s.fetch id cname count).1.rows = [] := by
    unfold fetch
    rw [Option.map_eq_none_iff.mp h]
    rfl
  cases req with
  | cursorFetchOne name =>
      obtain rfl := Option.some.inj hreq
      exact hfetched 1
  | cursorFetchOccurs name count =>
      obtain rfl := Option.some.inj hreq
      exact hfetched count
  | exec | execParams | cursorDeclare | cursorDeclareParams
  | cursorClose => cases hreq

/-- What is accepted is no error. -/
theorem sqlcode_of_ok {ca : Sqlca} {r : Result} (h : r.isOk = true) :
    (statusOf ca r).sqlcode ≠ -605 := by
  have hnonneg := (statusOf_sqlcode_nonneg ca r).mpr h
  omega

/-- A refusal is reported by its state. -/
theorem sqlcode_refusal {ca : Sqlca} {state : String}
    (h : sqlcodeOf state ≠ -605) :
    (statusOf ca (refusal state)).sqlcode ≠ -605 := h

/-- Only DECLARE finds a portal in its way. -/
theorem exec_duplicate {req : Request} {ca : Sqlca} {r : Result}
    (htext : req.text = none) (hr : (pq.exec id req s).1 = some r)
    (h : (statusOf ca r).sqlcode = -605) :
    ∃ cname, req.declared = some cname
      ∧ view.rows id (fold cname) s ≠ none := by
  have hdeclared (cname query : Text)
      (h : (statusOf ca (s.declare id cname query).1).sqlcode = -605) :
      view.rows id (fold cname) s ≠ none := by
    intro hnone
    unfold declare at h
    rw [Option.map_eq_none_iff.mp hnone] at h
    dsimp only at h
    split at h
    · exact sqlcode_of_ok rfl h
    · exact sqlcode_refusal (by decide) h
    · exact sqlcode_refusal (by decide) h
    · exact sqlcode_refusal (by decide) h
  have hfetched (cname : Text) (count : Nat) :
      (statusOf ca (s.fetch id cname count).1).sqlcode ≠ -605 := by
    unfold fetch
    split
    · exact sqlcode_refusal (by decide)
    · exact sqlcode_of_ok rfl
  have hclosed (cname : Text) :
      (statusOf ca (s.close id cname).1).sqlcode ≠ -605 := by
    unfold close
    split
    · exact sqlcode_refusal (by decide)
    · exact sqlcode_of_ok rfl
  -- only a DECLARE says that a name is taken
  cases hr
  cases req with
  | exec | execParams => cases htext
  | cursorDeclare cname query => exact ⟨cname, rfl, hdeclared cname query h⟩
  | cursorDeclareParams cname query params =>
      exact ⟨cname, rfl, hdeclared cname query h⟩
  | cursorFetchOne cname => exact absurd h (hfetched cname 1)
  | cursorFetchOccurs cname count => exact absurd h (hfetched cname count)
  | cursorClose cname => exact absurd h (hclosed cname)

/-- The server keeps the laws. -/
theorem lawful : view.Lawful pq where
  begin_plain := by
    show ¬touches beginText
    unfold touches
    decide
  connect_new id info s p := by
    show view.rows id p (s.closeAll id) = none
    rw [rows_closeAll, if_pos rfl]
  connect_other id id' info s p hne := by
    show view.rows id' p (s.closeAll id) = _
    rw [rows_closeAll, if_neg hne]
  finish_closes id s p := by
    show view.rows id p (s.closeAll id) = none
    rw [rows_closeAll, if_pos rfl]
  finish_other id id' s p hne := by
    show view.rows id' p (s.closeAll id) = _
    rw [rows_closeAll, if_neg hne]
  exec_other _ _ req _ _ hne := rows_exec_other req hne
  exec_plain _ _ _ _ hreq h := exec_plain hreq.1 h
  exec_declare id req s p cname hreq hp h := by
    cases req with
    | cursorDeclare name query =>
        obtain rfl := Option.some.inj hreq
        exact (rows_declare hp).trans h
    | cursorDeclareParams name query params =>
        obtain rfl := Option.some.inj hreq
        exact (rows_declare hp).trans h
    | exec | execParams | cursorFetchOne | cursorFetchOccurs
    | cursorClose => cases hreq
  exec_duplicate _ _ _ _ _ htext hr h := exec_duplicate htext hr h
  exec_close id cname s _ := by
    show view.rows id (fold cname) (s.close id cname).2 = none
    rw [rows_close, if_pos rfl]
  exec_ends id req s p hends _ := by
    have hstatement (query : Text)
        (h : some query = some commitText
          ∨ some query = some rollbackText) :
        view.rows id p (s.statement id query).2 = none := by
      rw [rows_statement, if_pos (h.imp Option.some.inj Option.some.inj)]
    cases req with
    | exec query => exact hstatement query hends
    | execParams query params => exact hstatement query hends
    | cursorDeclare | cursorDeclareParams | cursorFetchOne
    | cursorFetchOccurs | cursorClose => exact hends.elim nofun nofun
  exec_kept _ _ _ _ _ _ hdeclare hfetch h := exec_kept hdeclare hfetch h
  exec_unknown _ _ _ _ hreq h := exec_unknown hreq h
  exec_fetch _ _ _ _ _ hreq h := .inl (exec_fetch hreq h)

end Laws

/-- One statement with three rows; the others just succeed. -/
def sample : Server where
  answer query :=
    if query = "SELECT".toList then
      .tuplesOk 1 [["a".toList], ["b".toList], ["c".toList]]
    else .commandOk 0
  portals _ _ := none

end Server

end CobolExercises.Runtime
