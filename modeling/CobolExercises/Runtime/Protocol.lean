/-
The runtime's bookkeeping as a protocol with the server: which connections
there are, which cursors are noted as open, and what may happen to both
together.

# The core of a state

Of the runtime's state only the connections' ids and names, the next id
and each cursor's name, connection, `isOpened` and `tuples` matter here
(`Core`). A step of the protocol (`Core.Step`) is one exchange with the
server and the note taken of it: a cursor becomes open only together with
an accepted DECLARE, COMMIT takes every cursor of its connection along,
and a FETCH counts the rows it hands over.

# What holds in every run

Names and ids stay unique and no id is given out twice (`Core.Unique`).
An open cursor whose connection is gone stays open forever
(`Core.Stranded`).
-/
import CobolExercises.Runtime.Ocesql
import Mathlib.Logic.Relation

namespace CobolExercises.Runtime

open Lib Relation

variable {σ : Type}

-- =============================================================== the core

/-- What the bookkeeping says of a cursor. -/
structure Handle where
  cname : Text
  connid : Nat
  isOpened : Bool
  tuples : Int

/-- The part of the state the protocol is about. -/
structure Core (σ : Type) where
  server : σ
  conns : List (Nat × Text)
  next : Nat
  cursors : List Handle

def Cursor.handle (c : Cursor) : Handle :=
  ⟨c.cname, c.connid, c.isOpened, c.tuples⟩

def State.core (st : State σ) : Core σ where
  server := st.server
  conns := st.conns.map fun c => (c.id, c.cid)
  next := st.nextConnId
  cursors := st.cursors.map Cursor.handle

namespace Core

/-- The ids of the connections. -/
def ids (k : Core σ) : List Nat := k.conns.map Prod.fst

/-- Note whether a cursor is open. -/
def note (cname : Text) (opened : Bool) (cursors : List Handle) :
    List Handle :=
  Keyed.modify Handle.cname cname (fun h => { h with isOpened := opened })
    cursors

/-- Note that a cursor has handed over rows. -/
def count (cname : Text) (n : Int) (cursors : List Handle) : List Handle :=
  Keyed.modify Handle.cname cname (fun h => { h with tuples := h.tuples + n })
    cursors

/-- Note that no cursor of a connection is open. -/
def clear (id : Nat) (cursors : List Handle) : List Handle :=
  cursors.map fun h => if h.connid = id then { h with isOpened := false } else h

/-- A cursor and its connection, in place of what the name stood for. -/
def register (cname : Text) (id : Nat) (cursors : List Handle) :
    List Handle :=
  Keyed.put Handle.cname cname ⟨cname, 0, false, 0⟩
    (fun h => { h with connid := id, isOpened := false, tuples := 0 }) cursors

end Core

-- ============================================================ the protocol

/-- The cursor a request declares. -/
def Request.declared : Request → Option Text
  | .cursorDeclare cname _ => some cname
  | .cursorDeclareParams cname _ _ => some cname
  | _ => none

/-- The cursor a request fetches from. -/
def Request.fetched : Request → Option Text
  | .cursorFetchOne cname => some cname
  | .cursorFetchOccurs cname _ => some cname
  | _ => none

/-- How many rows a FETCH asks for. -/
def Request.limit : Request → Nat
  | .cursorFetchOccurs _ count => count
  | _ => 1

/-- How many rows of an answer are counted. -/
def Request.taken (req : Request) (r : Reply) : Int :=
  match req with
  | .cursorFetchOccurs _ count => (min r.rows.length count : Nat)
  | _ => r.rows.length

/-- The text of a statement that is sent as it is. -/
def Request.text : Request → Option Text
  | .exec query => some query
  | .execParams query _ => some query
  | _ => none

/-- A request that opens no cursor; `touches` are the texts that handle
cursors themselves. -/
def Request.Plain (touches : Text → Prop) (req : Request) : Prop :=
  req.declared = none ∧ ∀ query ∈ req.text, ¬touches query

/-- COMMIT or ROLLBACK. -/
def Request.Ends (req : Request) : Prop :=
  req.text = some commitText ∨ req.text = some rollbackText

/-- What a run is allowed: no statement is one of the texts that handle
cursors themselves, and only some cursors are opened and fetched from. -/
structure Rules where
  touches : Text → Prop
  opens : Text → Prop
  fetches : Text → Prop

/-- One exchange with the server and the note taken of it. -/
inductive Core.Step (pq : Libpq σ) (rules : Rules) : Core σ → Core σ → Prop
  | request {k : Core σ} {id : Nat} {req : Request} (hid : id ∈ k.ids)
      (hreq : req.Plain rules.touches) (hfetch : req.fetched = none) :
      Step pq rules k { k with server := (pq.exec id req k.server).2 }
  | refused {k : Core σ} {id : Nat} {req : Request} {cname : Text}
      (hid : id ∈ k.ids) (hreq : req.declared = some cname)
      (hres : (pq.exec id req k.server).1.isOk = false) :
      Step pq rules k { k with server := (pq.exec id req k.server).2 }
  | skipped {k : Core σ} {req : Request} {h : Handle}
      (hmem : Keyed.lookup Handle.cname h.cname k.cursors = some h)
      (hid : h.connid ∈ k.ids) (hfetches : rules.fetches h.cname)
      (hreq : req.fetched = some h.cname) :
      Step pq rules k { k with server := (pq.exec h.connid req k.server).2 }
  | fetched {k : Core σ} {req : Request} {h : Handle}
      (hmem : Keyed.lookup Handle.cname h.cname k.cursors = some h)
      (hid : h.connid ∈ k.ids) (hfetches : rules.fetches h.cname)
      (hreq : req.fetched = some h.cname) :
      Step pq rules k { k with
        server := (pq.exec h.connid req k.server).2
        cursors := count h.cname
          (req.taken (pq.exec h.connid req k.server).1) k.cursors }
  | opened {k : Core σ} {req : Request} {h : Handle}
      (hmem : Keyed.lookup Handle.cname h.cname k.cursors = some h)
      (hclosed : h.isOpened = false) (hid : h.connid ∈ k.ids)
      (hopens : rules.opens h.cname) (hreq : req.declared = some h.cname)
      (hres : (pq.exec h.connid req k.server).1.isOk = true) :
      Step pq rules k { k with
        server := (pq.exec h.connid req k.server).2
        cursors := note h.cname true k.cursors }
  | closed {k : Core σ} {h : Handle}
      (hmem : Keyed.lookup Handle.cname h.cname k.cursors = some h)
      (hid : h.connid ∈ k.ids)
      (hres : (pq.exec h.connid (.cursorClose h.cname) k.server).1.isOk
        = true) :
      Step pq rules k { k with
        server := (pq.exec h.connid (.cursorClose h.cname) k.server).2
        cursors := note h.cname false k.cursors }
  | ended {k : Core σ} {id : Nat} {req : Request} (hid : id ∈ k.ids)
      (hreq : req.Ends)
      (hres : (pq.exec id req k.server).1.isOk = true) :
      Step pq rules k { k with
        server := (pq.exec id req k.server).2
        cursors := clear id k.cursors }
  | registered {k : Core σ} {cname : Text} {id : Nat} (hid : id ∈ k.ids)
      (hfree : ∀ h ∈ Keyed.lookup Handle.cname cname k.cursors,
        h.isOpened = false) :
      Step pq rules k { k with cursors := register cname id k.cursors }
  | connected {k : Core σ} {name conninfo : Text}
      (hname : name ∉ k.conns.map Prod.snd) :
      Step pq rules k { k with
        server := (pq.connectdb k.next conninfo k.server).2
        conns := k.conns ++ [(k.next, name)]
        next := k.next + 1 }
  | notConnected {k : Core σ} {conninfo : Text}
      (hres : (pq.connectdb k.next conninfo k.server).1 = false) :
      Step pq rules k { k with
        server := (pq.connectdb k.next conninfo k.server).2 }
  | dropped {k : Core σ} {conninfo : Text} :
      Step pq rules k { k with
        server := pq.finish k.next
          (pq.connectdb k.next conninfo k.server).2 }
  | finished {k : Core σ} {id : Nat} (hid : id ∈ k.ids) :
      Step pq rules k { k with
        server := pq.finish id k.server
        conns := Keyed.erase Prod.fst id k.conns }

/-- Any number of exchanges. -/
abbrev Core.Steps (pq : Libpq σ) (rules : Rules) :
    Core σ → Core σ → Prop :=
  ReflTransGen (Core.Step pq rules)

/-- A property every step keeps holds after any number of them. -/
theorem Core.Steps.keeps {pq : Libpq σ} {rules : Rules}
    {P : Core σ → Prop} {k k' : Core σ} (hs : Core.Steps pq rules k k')
    (hstep : ∀ {k k'}, Core.Step pq rules k k' → P k → P k') (h : P k) :
    P k' := by
  induction hs with
  | refl => exact h
  | tail _ hlast ih => exact hstep hlast ih

-- ============================================================== uniqueness

namespace Core

section Lists

variable {cname : Text} {id : Nat} {opened : Bool} {cursors : List Handle}
  {h : Handle}

/-- A note about a cursor leaves all their names alone. -/
theorem cnames_note :
    (note cname opened cursors).map Handle.cname
      = cursors.map Handle.cname :=
  Keyed.map_modify fun _ => rfl

/-- And all their connections. -/
theorem connids_note :
    (note cname opened cursors).map Handle.connid
      = cursors.map Handle.connid :=
  Keyed.map_modify fun _ => rfl

theorem cnames_count {n : Int} :
    (count cname n cursors).map Handle.cname = cursors.map Handle.cname :=
  Keyed.map_modify fun _ => rfl

theorem connids_count {n : Int} :
    (count cname n cursors).map Handle.connid
      = cursors.map Handle.connid :=
  Keyed.map_modify fun _ => rfl

/-- Nor does the end of a transaction change a name. -/
theorem cnames_clear :
    (clear id cursors).map Handle.cname = cursors.map Handle.cname := by
  rw [clear, List.map_map]
  apply List.map_congr_left
  intro h _
  dsimp only [Function.comp]
  split <;> rfl

theorem connids_clear :
    (clear id cursors).map Handle.connid = cursors.map Handle.connid := by
  rw [clear, List.map_map]
  apply List.map_congr_left
  intro h _
  dsimp only [Function.comp]
  split <;> rfl

/-- A cursor after its registration. -/
theorem mem_register_iff (hnodup : (cursors.map Handle.cname).Nodup) :
    h ∈ register cname id cursors
      ↔ (h ∈ cursors ∧ h.cname ≠ cname) ∨ h = ⟨cname, id, false, 0⟩ := by
  rw [register, Keyed.mem_put_iff hnodup]
  refine or_congr_right ?_
  cases hlook : Keyed.lookup Handle.cname cname cursors with
  | none => rfl
  | some h' =>
      rw [Option.getD_some, Keyed.key_of_lookup hlook]

end Lists

/-- Connections are told apart by their ids and by their names, cursors by
their names, and every id in use has been given out. -/
structure Unique (k : Core σ) : Prop where
  ids : k.ids.Nodup
  names : (k.conns.map Prod.snd).Nodup
  cnames : (k.cursors.map Handle.cname).Nodup
  given : ∀ id ∈ k.ids, id < k.next
  connids : ∀ id ∈ k.cursors.map Handle.connid, id < k.next

section Step

variable {pq : Libpq σ} {rules : Rules} {k k' : Core σ}

/-- A change of the cursors that leaves their names and connections alone. -/
theorem Unique.kept (h : k.Unique) (server : σ) {cursors : List Handle}
    (hcnames : cursors.map Handle.cname = k.cursors.map Handle.cname)
    (hconnids : cursors.map Handle.connid = k.cursors.map Handle.connid) :
    Unique { k with server := server, cursors := cursors } := by
  refine ⟨h.ids, h.names, ?_, h.given, ?_⟩
  · rw [hcnames]
    exact h.cnames
  · rw [hconnids]
    exact h.connids

/-- Every step keeps ids and names apart. -/
theorem Unique.step (h : k.Unique) (hs : Step pq rules k k') :
    k'.Unique := by
  cases hs with
  | request | refused | skipped | notConnected | dropped =>
      exact ⟨h.ids, h.names, h.cnames, h.given, h.connids⟩
  | fetched hmem hid hfetches hreq =>
      exact h.kept _ cnames_count connids_count
  | opened hmem hclosed hid hopens hreq hres =>
      exact h.kept _ cnames_note connids_note
  | closed hmem hid hres => exact h.kept _ cnames_note connids_note
  | ended hid hreq hres => exact h.kept _ cnames_clear connids_clear
  | @registered cname id hid hfree =>
      refine ⟨h.ids, h.names, ?_, h.given, ?_⟩
      · exact Keyed.nodup_put h.cnames (fun _ => rfl) rfl
      · intro i hi
        obtain ⟨c, hc, rfl⟩ := List.mem_map.mp hi
        rcases (mem_register_iff h.cnames).mp hc with ⟨hmem, -⟩ | rfl
        · exact h.connids _ (List.mem_map.mpr ⟨c, hmem, rfl⟩)
        · exact h.given id hid
  | @connected name info hname =>
      refine ⟨?_, ?_, h.cnames, ?_, ?_⟩
      · rw [Core.ids, List.map_append, List.map_singleton, List.nodup_append]
        refine ⟨h.ids, List.nodup_singleton _, ?_⟩
        intro i hi j hj hij
        -- the id is new: those in the list are below the counter
        have hlt := h.given i hi
        rw [List.mem_singleton.mp hj] at hij
        omega
      · rw [List.map_append, List.map_singleton, List.nodup_append]
        refine ⟨h.names, List.nodup_singleton _, ?_⟩
        intro i hi j hj hij
        -- and so is the name, or there would be no new connection
        have heq : i = name := hij.trans (List.mem_singleton.mp hj)
        exact hname (heq ▸ hi)
      · intro i hi
        rw [Core.ids, List.map_append, List.mem_append] at hi
        rcases hi with hi | hi
        · exact Nat.lt_succ_of_lt (h.given i hi)
        · rw [List.map_singleton, List.mem_singleton] at hi
          rw [hi]
          exact Nat.lt_succ_self _
      · intro i hi
        exact Nat.lt_succ_of_lt (h.connids i hi)
  | finished hid =>
      refine ⟨Keyed.nodup_erase h.ids, Keyed.nodup_erase h.names, h.cnames,
        ?_, h.connids⟩
      intro i hi
      exact h.given i ((Keyed.erase_sublist.map Prod.fst).subset hi)

/-- The ids after a step are those before it and perhaps the next one; an
id that has been given out is never given out again. -/
theorem Step.ids_subset (hs : Step pq rules k k') :
    k.next ≤ k'.next ∧ ∀ id ∈ k'.ids, id ∈ k.ids ∨ k.next ≤ id := by
  cases hs with
  | connected hname =>
      refine ⟨Nat.le_succ _, ?_⟩
      intro i hi
      rw [Core.ids, List.map_append, List.mem_append] at hi
      refine hi.imp id ?_
      intro hi
      rw [List.map_singleton, List.mem_singleton] at hi
      exact hi.ge
  | finished hid =>
      refine ⟨le_rfl, ?_⟩
      intro i hi
      exact .inl ((Keyed.erase_sublist.map Prod.fst).subset hi)
  | request | refused | skipped | fetched | opened | closed | ended
  | registered | notConnected | dropped => exact ⟨le_rfl, fun _ => .inl⟩

/-- An id that is gone is not given out again. -/
theorem Steps.gone {id : Nat} (hs : Steps pq rules k k')
    (hgone : id ∉ k.ids) (hlt : id < k.next) : id ∉ k'.ids ∧ id < k'.next := by
  refine hs.keeps (P := fun k => id ∉ k.ids ∧ id < k.next) ?_ ⟨hgone, hlt⟩
  intro k k' hstep h
  obtain ⟨hle, hids⟩ := hstep.ids_subset
  refine ⟨fun hmem => ?_, h.2.trans_le hle⟩
  rcases hids id hmem with hmem | hge
  · exact h.1 hmem
  · omega

-- ================================================= a connection is gone

/-- The cursor is noted as open on a connection that is gone. -/
def Stranded (cname : Text) (id : Nat) (k : Core σ) : Prop :=
  (∃ h ∈ k.cursors, h.cname = cname ∧ h.connid = id ∧ h.isOpened = true)
    ∧ id ∉ k.ids ∧ id < k.next

/-- Nothing brings such a cursor back. -/
theorem Stranded.step {cname : Text} {id : Nat} (h : Stranded cname id k)
    (hu : k.Unique) (hs : Step pq rules k k') : Stranded cname id k' := by
  obtain ⟨⟨c, hmem, rfl, rfl, hopen⟩, hgone⟩ := h
  refine ⟨?_, Steps.gone (ReflTransGen.single hs) hgone.1 hgone.2⟩
  have hlook := (Keyed.lookup_eq_some_iff hu.cnames).mpr ⟨hmem, rfl⟩
  -- a change that leaves other cursors alone leaves this one alone
  have hkept {cname : Text} {f : Handle → Handle}
      (hne : c.cname ≠ cname) :
      ∃ d ∈ Keyed.modify Handle.cname cname f k.cursors,
        d.cname = c.cname ∧ d.connid = c.connid ∧ d.isOpened = true :=
    ⟨c, (Keyed.mem_modify_iff hu.cnames).mpr (.inl ⟨hmem, hne⟩), rfl, rfl,
      hopen⟩
  -- FETCH, OPEN and CLOSE need the connection of their cursor
  have hthere {other : Handle}
      (hother : Keyed.lookup Handle.cname other.cname k.cursors = some other)
      (hid : other.connid ∈ k.ids) : c.cname ≠ other.cname := by
    intro heq
    rw [← heq, hlook] at hother
    obtain rfl := Option.some.inj hother
    exact hgone.1 hid
  cases hs with
  | request | refused | skipped | connected | notConnected | dropped
  | finished => exact ⟨c, hmem, rfl, rfl, hopen⟩
  | fetched hother hid hfetches hreq => exact hkept (hthere hother hid)
  | opened hother hclosed hid hopens hreq hres =>
      exact hkept (hthere hother hid)
  | closed hother hid hres => exact hkept (hthere hother hid)
  | @ended other _ hid hreq hres =>
      refine ⟨c, List.mem_map.mpr ⟨c, hmem, if_neg ?_⟩, rfl, rfl, hopen⟩
      intro heq
      exact hgone.1 (heq ▸ hid)
  | @registered cname' id' hid hfree =>
      -- and a DECLARE needs a cursor that is closed
      refine ⟨c, (mem_register_iff hu.cnames).mpr (.inl ⟨hmem, ?_⟩), rfl,
        rfl, hopen⟩
      intro heq
      have hopened := hfree c (heq ▸ hlook)
      rw [hopen] at hopened
      cases hopened

/-- So it is behind any steps. -/
theorem Stranded.steps {cname : Text} {id : Nat} (h : Stranded cname id k)
    (hu : k.Unique) (hs : Steps pq rules k k') :
    Stranded cname id k' := by
  have hboth : k'.Unique ∧ Stranded cname id k' :=
    hs.keeps (P := fun k => k.Unique ∧ Stranded cname id k)
      (fun hstep h => ⟨h.1.step hstep, h.2.step h.1 hstep⟩) ⟨hu, h⟩
  exact hboth.2

end Step

end Core

end CobolExercises.Runtime
