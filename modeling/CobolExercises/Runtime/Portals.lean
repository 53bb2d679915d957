/-
The server's side of the protocol: portals, and what they have to do with
the cursors that are noted as open.

With a server whose portals behave as documented (`View.Lawful`) every
portal belongs to a cursor noted as open (`Core.Owned`), a connection that
is gone has none (`Core.Released`), and the rows a cursor has counted are
the ones its portal has handed out (`Core.InOrder`).
-/
import CobolExercises.Runtime.Protocol

namespace CobolExercises.Runtime

open Lib Relation

variable {σ : Type}

-- ================================================================= portals

/-- What there is to see of the server's portals: the rows a portal of a
connection has not handed out yet, the name PostgreSQL makes of a cursor's
name, and the texts that declare, move or close a cursor themselves. -/
structure View (σ : Type) where
  rows : Nat → Text → σ → Option (List (List Text))
  fold : Text → Text
  touches : Text → Prop

/-- A portal with these rows may go, but its rows do not change. -/
def Kept (rows : List (List Text)) (after : Option (List (List Text))) :
    Prop :=
  ∀ rest ∈ after, rest = rows

/-- What the runtime relies on. Connections do not see each other's
portals; a new one has none. DECLARE opens its portal if it is accepted,
no other request opens one; CLOSE, the end of the transaction and
`PQfinish` close what they are to close. FETCH hands out the next rows of
its portal, and no other request does. A request without an answer is one
of those that are not carried out. -/
structure View.Lawful (v : View σ) (pq : Libpq σ) : Prop where
  begin_plain : ¬v.touches beginText
  connect_new : ∀ id info s p,
    v.rows id p (pq.connectdb id info s).2 = none
  connect_other : ∀ id id' info s p, id' ≠ id →
    v.rows id' p (pq.connectdb id info s).2 = v.rows id' p s
  finish_closes : ∀ id s p, v.rows id p (pq.finish id s) = none
  finish_other : ∀ id id' s p, id' ≠ id →
    v.rows id' p (pq.finish id s) = v.rows id' p s
  exec_other : ∀ id id' req s p, id' ≠ id →
    v.rows id' p (pq.exec id req s).2 = v.rows id' p s
  exec_plain : ∀ id req s p, req.Plain v.touches →
    v.rows id p s = none → v.rows id p (pq.exec id req s).2 = none
  exec_declare : ∀ id req s p cname, req.declared = some cname →
    (p ≠ v.fold cname ∨ (pq.exec id req s).1.isOk = false) →
    v.rows id p s = none → v.rows id p (pq.exec id req s).2 = none
  exec_duplicate : ∀ id req s ca r, req.text = none →
    (pq.exec id req s).1 = some r → (statusOf ca r).sqlcode = -605 →
    ∃ cname, req.declared = some cname ∧ v.rows id (v.fold cname) s ≠ none
  exec_close : ∀ id cname s,
    (pq.exec id (.cursorClose cname) s).1.isOk = true →
    v.rows id (v.fold cname) (pq.exec id (.cursorClose cname) s).2 = none
  exec_ends : ∀ id req s p, req.Ends →
    (pq.exec id req s).1.isOk = true →
    v.rows id p (pq.exec id req s).2 = none
  exec_kept : ∀ id req s p rows, (∀ query ∈ req.text, ¬v.touches query) →
    (∀ cname, req.declared = some cname → v.fold cname = p →
      (pq.exec id req s).1.isOk = false) →
    (∀ cname, req.fetched = some cname → v.fold cname ≠ p) →
    v.rows id p s = some rows → Kept rows (v.rows id p (pq.exec id req s).2)
  exec_unknown : ∀ id req s cname, req.fetched = some cname →
    v.rows id (v.fold cname) s = none → (pq.exec id req s).1.rows = []
  exec_fetch : ∀ id req s cname rows, req.fetched = some cname →
    v.rows id (v.fold cname) s = some rows →
    (pq.exec id req s).1.rows = rows.take req.limit
      ∧ Kept (rows.drop req.limit)
        (v.rows id (v.fold cname) (pq.exec id req s).2)
    ∨ (pq.exec id req s).1.rows = []
      ∧ Kept rows (v.rows id (v.fold cname) (pq.exec id req s).2)

/-- Every portal of a connection belongs to a cursor noted as open on that
connection. -/
def Core.Owned (v : View σ) (k : Core σ) : Prop :=
  ∀ id ∈ k.ids, ∀ p, v.rows id p k.server ≠ none →
    ∃ h ∈ k.cursors, h.isOpened = true ∧ h.connid = id ∧ v.fold h.cname = p

namespace Core

variable {pq : Libpq σ} {v : View σ} {rules : Rules} {k k' : Core σ}

/-- An exchange that opens nothing. -/
theorem Owned.exec (h : Owned v k) (hv : v.Lawful pq) {id : Nat}
    {req : Request}
    (hkeep : ∀ p, v.rows id p k.server = none →
      v.rows id p (pq.exec id req k.server).2 = none) :
    Owned v { k with server := (pq.exec id req k.server).2 } := by
  intro i hi p hp
  apply h i hi p
  intro hnone
  apply hp
  by_cases heq : i = id
  · rw [heq] at hnone ⊢
    exact hkeep p hnone
  · exact (hv.exec_other id i req k.server p heq).trans hnone

/-- Noting that a cursor is open only adds to the cursors noted as open. -/
theorem exists_note {cname : Text} {p : Text} {id : Nat}
    (hu : (k.cursors.map Handle.cname).Nodup)
    (h : ∃ h ∈ k.cursors, h.isOpened = true ∧ h.connid = id
      ∧ v.fold h.cname = p) :
    ∃ h ∈ note cname true k.cursors, h.isOpened = true ∧ h.connid = id
      ∧ v.fold h.cname = p := by
  obtain ⟨h, hmem, hopened, hconn, hfold⟩ := h
  by_cases heq : h.cname = cname
  · refine ⟨{ h with isOpened := true }, ?_, rfl, hconn, hfold⟩
    exact (Keyed.mem_modify_iff hu).mpr (.inr ⟨h, hmem, heq, rfl⟩)
  · exact ⟨h, (Keyed.mem_modify_iff hu).mpr (.inl ⟨hmem, heq⟩), hopened,
      hconn, hfold⟩

/-- Counting rows leaves a cursor what it was otherwise. -/
theorem exists_count {cname : Text} {n : Int} {h : Handle}
    (hu : (k.cursors.map Handle.cname).Nodup) (hmem : h ∈ k.cursors) :
    ∃ h' ∈ count cname n k.cursors, h'.cname = h.cname
      ∧ h'.connid = h.connid ∧ h'.isOpened = h.isOpened := by
  by_cases heq : h.cname = cname
  · refine ⟨{ h with tuples := h.tuples + n }, ?_, rfl, rfl, rfl⟩
    exact (Keyed.mem_modify_iff hu).mpr (.inr ⟨h, hmem, heq, rfl⟩)
  · exact ⟨h, (Keyed.mem_modify_iff hu).mpr (.inl ⟨hmem, heq⟩), rfl, rfl,
      rfl⟩

/-- A FETCH sends no statement. -/
theorem plain_fetch {touches : Text → Prop} {req : Request} {cname : Text}
    (h : req.fetched = some cname) : req.Plain touches := by
  cases req with
  | cursorFetchOne | cursorFetchOccurs => exact ⟨rfl, nofun⟩
  | exec | execParams | cursorDeclare | cursorDeclareParams
  | cursorClose => cases h

/-- A DECLARE that is accepted: its portal has the cursor it is noted with. -/
theorem Owned.opened {c : Handle} {req : Request} (h : Owned v k)
    (hu : k.Unique) (hv : v.Lawful pq)
    (hmem : Keyed.lookup Handle.cname c.cname k.cursors = some c)
    (hreq : req.declared = some c.cname) :
    Owned v { k with
      server := (pq.exec c.connid req k.server).2
      cursors := note c.cname true k.cursors } := by
  intro i hi p hp
  by_cases hown : i = c.connid ∧ p = v.fold c.cname
  · obtain ⟨rfl, rfl⟩ := hown
    refine ⟨{ c with isOpened := true }, ?_, rfl, rfl, rfl⟩
    exact (Keyed.mem_modify_iff hu.cnames).mpr
      (.inr ⟨c, Keyed.mem_of_lookup hmem, rfl, rfl⟩)
  · -- any other portal was there before
    apply exists_note hu.cnames
    apply h i hi p
    intro hnone
    apply hp
    by_cases heq : i = c.connid
    · rw [heq] at hnone ⊢
      exact hv.exec_declare c.connid req k.server p c.cname hreq
        (.inl fun hp => hown ⟨heq, hp⟩) hnone
    · exact (hv.exec_other c.connid i req k.server p heq).trans hnone

/-- A CLOSE that is accepted takes the portal of its cursor, which alone is
noted as closed. -/
theorem Owned.closed {c : Handle} (h : Owned v k) (hu : k.Unique)
    (hv : v.Lawful pq)
    (hmem : Keyed.lookup Handle.cname c.cname k.cursors = some c)
    (hres : (pq.exec c.connid (.cursorClose c.cname) k.server).1.isOk
      = true) :
    Owned v { k with
      server := (pq.exec c.connid (.cursorClose c.cname) k.server).2
      cursors := note c.cname false k.cursors } := by
  intro i hi p hp
  have hplain : (Request.cursorClose c.cname).Plain v.touches := ⟨rfl, nofun⟩
  obtain ⟨d, hd, hopened, hconn, hfold⟩ := h.exec hv
    (fun p => hv.exec_plain c.connid _ k.server p hplain) i hi p hp
  refine ⟨d, (Keyed.mem_modify_iff hu.cnames).mpr (.inl ⟨hd, ?_⟩), hopened,
    hconn, hfold⟩
  -- the portal of the cursor itself is gone
  intro heq
  obtain rfl := Keyed.eq_of_key hu.cnames hd (Keyed.mem_of_lookup hmem) heq
  apply hp
  rw [← hconn, ← hfold]
  exact hv.exec_close d.connid d.cname k.server hres

/-- The end of a transaction takes the portals of its connection, and the
cursors of the other connections stay as they are. -/
theorem Owned.ended {id : Nat} {req : Request} (h : Owned v k)
    (hv : v.Lawful pq) (hreq : req.Ends)
    (hres : (pq.exec id req k.server).1.isOk = true) :
    Owned v { k with
      server := (pq.exec id req k.server).2
      cursors := clear id k.cursors } := by
  intro i hi p hp
  by_cases heq : i = id
  · rw [heq] at hp
    exact absurd (hv.exec_ends id req k.server p hreq hres) hp
  · have hrows : v.rows i p k.server ≠ none := by
      rw [← hv.exec_other id i req k.server p heq]
      exact hp
    obtain ⟨d, hd, hopened, hconn, hfold⟩ := h i hi p hrows
    refine ⟨d, List.mem_map.mpr ⟨d, hd, if_neg ?_⟩, hopened, hconn, hfold⟩
    rw [hconn]
    exact heq

/-- A cursor that is registered had no portal: it was not open. -/
theorem Owned.registered {cname : Text} {id : Nat} (h : Owned v k)
    (hu : k.Unique)
    (hfree : ∀ c, Keyed.lookup Handle.cname cname k.cursors = some c →
      c.isOpened = false) :
    Owned v { k with cursors := register cname id k.cursors } := by
  intro i hi p hp
  obtain ⟨d, hd, hopened, hconn, hfold⟩ := h i hi p hp
  refine ⟨d, (mem_register_iff hu.cnames).mpr (.inl ⟨hd, ?_⟩), hopened,
    hconn, hfold⟩
  rintro rfl
  have hclosed := hfree d
    ((Keyed.lookup_eq_some_iff hu.cnames).mpr ⟨hd, rfl⟩)
  rw [hopened] at hclosed
  cases hclosed

/-- A new connection has no portals. -/
theorem Owned.connected (h : Owned v k) (hv : v.Lawful pq)
    (name info : Text) :
    Owned v { k with
      server := (pq.connectdb k.next info k.server).2
      conns := k.conns ++ [(k.next, name)]
      next := k.next + 1 } := by
  intro i hi p hp
  rw [Core.ids, List.map_append, List.mem_append] at hi
  by_cases heq : i = k.next
  · rw [heq] at hp
    exact absurd (hv.connect_new k.next info k.server p) hp
  · rcases hi with hi | hi
    · apply h i hi p
      rw [← hv.connect_other k.next i info k.server p heq]
      exact hp
    · rw [List.map_singleton, List.mem_singleton] at hi
      exact absurd hi heq

/-- Every step keeps the portals owned. -/
theorem Owned.step (h : Owned v k) (hu : k.Unique) (hv : v.Lawful pq)
    (hrules : rules.touches = v.touches) (hs : Step pq rules k k') :
    Owned v k' := by
  cases hs with
  | @request id req hid hreq hfetch =>
      rw [hrules] at hreq
      exact h.exec hv fun p => hv.exec_plain id req k.server p hreq
  | @refused id req cname hid hreq hres =>
      exact h.exec hv fun p =>
        hv.exec_declare id req k.server p cname hreq (.inr hres)
  | @skipped req c hmem hid hfetches hreq =>
      exact h.exec hv fun p =>
        hv.exec_plain c.connid req k.server p (plain_fetch hreq)
  | @fetched req c hmem hid hfetches hreq =>
      intro i hi p hp
      obtain ⟨d, hd, hopened, hconn, hfold⟩ := h.exec hv
        (fun p => hv.exec_plain c.connid req k.server p (plain_fetch hreq))
        i hi p hp
      obtain ⟨d', hd', hcname, hconnid, hopened'⟩ :=
        exists_count hu.cnames hd
      exact ⟨d', hd', hopened'.trans hopened, hconnid.trans hconn,
        hcname ▸ hfold⟩
  | opened hmem hclosed hid hopens hreq hres =>
      exact h.opened hu hv hmem hreq
  | closed hmem hid hres => exact h.closed hu hv hmem hres
  | ended hid hreq hres => exact h.ended hv hreq hres
  | registered hid hfree => exact h.registered hu hfree
  | connected hname => exact h.connected hv _ _
  | @notConnected info hres =>
      -- the id was not given out before, so no connection loses a portal
      intro i hi p hp
      apply h i hi p
      rw [← hv.connect_other k.next i info k.server p (hu.given i hi).ne]
      exact hp
  | @dropped info =>
      intro i hi p hp
      have hne := (hu.given i hi).ne
      apply h i hi p
      rw [← hv.connect_other k.next i info k.server p hne,
        ← hv.finish_other k.next i _ p hne]
      exact hp
  | @finished id hid =>
      intro i hi p hp
      obtain ⟨c, hc, rfl⟩ := List.mem_map.mp hi
      obtain ⟨hmem, hne⟩ := (Keyed.mem_erase_iff hu.ids).mp hc
      apply h c.1 (List.mem_map.mpr ⟨c, hmem, rfl⟩) p
      rw [← hv.finish_other id c.1 k.server p hne]
      exact hp

/-- The portals are owned behind any steps. -/
theorem Owned.steps (h : Owned v k) (hu : k.Unique) (hv : v.Lawful pq)
    (hrules : rules.touches = v.touches) (hs : Steps pq rules k k') :
    Owned v k' := by
  have hboth : k'.Unique ∧ Owned v k' :=
    hs.keeps (P := fun k => k.Unique ∧ Owned v k)
      (fun hstep h => ⟨h.1.step hstep, h.2.step h.1 hv hrules hstep⟩) ⟨hu, h⟩
  exact hboth.2

-- ============================================ a connection that is gone

/-- A connection that was in the list and is gone has no portal. -/
def Released (v : View σ) (k : Core σ) : Prop :=
  ∀ id, 0 < id → id < k.next → id ∉ k.ids → ∀ p, v.rows id p k.server = none

/-- A request over a connection that is there makes no portal elsewhere. -/
theorem Released.exec (h : Released v k) (hv : v.Lawful pq) {id : Nat}
    {req : Request} {cursors : List Handle} (hid : id ∈ k.ids) :
    Released v { k with
      server := (pq.exec id req k.server).2, cursors := cursors } := by
  intro i hpos hlt hgone p
  have hne : i ≠ id := fun heq => hgone (heq ▸ hid)
  exact (hv.exec_other id i req k.server p hne).trans (h i hpos hlt hgone p)

/-- No step brings a portal back to a connection that is gone. -/
theorem Released.step (h : Released v k) (hv : v.Lawful pq)
    (hs : Step pq rules k k') : Released v k' := by
  cases hs with
  | request hid | refused hid | ended hid => exact h.exec hv hid
  | skipped hmem hid | fetched hmem hid | closed hmem hid =>
      exact h.exec hv hid
  | opened hmem hclosed hid => exact h.exec hv hid
  | registered => exact h
  | @connected name info hname =>
      intro i hpos hlt hgone p
      rw [Core.ids, List.map_append, List.mem_append, not_or,
        List.map_singleton, List.mem_singleton] at hgone
      have hlt' : i < k.next :=
        Nat.lt_of_le_of_ne (Nat.le_of_lt_succ hlt) hgone.2
      exact (hv.connect_other k.next i info k.server p hgone.2).trans
        (h i hpos hlt' hgone.1 p)
  | @notConnected info hres =>
      intro i hpos hlt hgone p
      exact (hv.connect_other k.next i info k.server p hlt.ne).trans
        (h i hpos hlt hgone p)
  | @dropped info =>
      intro i hpos hlt hgone p
      exact (hv.finish_other k.next i _ p hlt.ne).trans
        ((hv.connect_other k.next i info k.server p hlt.ne).trans
          (h i hpos hlt hgone p))
  | @finished id hid =>
      intro i hpos hlt hgone p
      by_cases heq : i = id
      · rw [heq]
        exact hv.finish_closes id k.server p
      · refine (hv.finish_other id i k.server p heq).trans
          (h i hpos hlt (fun hi => hgone ?_) p)
        obtain ⟨c, hc, rfl⟩ := List.mem_map.mp hi
        exact List.mem_map.mpr ⟨c, Keyed.mem_erase_of_ne hc heq, rfl⟩

/-- A connection that is gone stays without portals. -/
theorem Released.steps (h : Released v k) (hv : v.Lawful pq)
    (hs : Steps pq rules k k') : Released v k' :=
  hs.keeps (fun hstep h => h.step hv hstep) h

-- =================================================== rows in their order

/-- The cursor has one portal at most, that has handed out `n` of `rows`,
and the cursor's count is `tuples`. -/
def InOrder (v : View σ) (cname : Text) (id : Nat)
    (rows : List (List Text)) (n : Nat) (tuples : Int) (k : Core σ) : Prop :=
  ∀ i ∈ k.ids, ∀ rest, v.rows i (v.fold cname) k.server = some rest →
    i = id ∧ n ≤ rows.length ∧ rest = rows.drop n
      ∧ ∃ h ∈ k.cursors, h.cname = cname ∧ h.connid = id
        ∧ h.tuples = tuples

section InOrder

variable {cname : Text} {id : Nat} {rows : List (List Text)} {n : Nat}
  {tuples : Int}

/-- The names of the cursors only become more. -/
theorem Step.cnames_subset (hs : Step pq rules k k') :
    k.cursors.map Handle.cname ⊆ k'.cursors.map Handle.cname := by
  cases hs with
  | request | refused | skipped | connected | notConnected | dropped
  | finished => exact List.Subset.refl _
  | fetched =>
      rw [cnames_count]
      exact List.Subset.refl _
  | opened | closed =>
      rw [cnames_note]
      exact List.Subset.refl _
  | ended =>
      rw [cnames_clear]
      exact List.Subset.refl _
  | registered => exact Keyed.keys_subset_put fun _ => rfl

/-- A portal that is there behind an exchange was there before it. -/
theorem rows_before {id i : Nat} {req : Request} {p : Text}
    {rest : List (List Text)} {s : σ} (hv : v.Lawful pq)
    (hnone : v.rows i p s = none → v.rows i p (pq.exec i req s).2 = none)
    (hkept : ∀ rows, v.rows i p s = some rows →
      Kept rows (v.rows i p (pq.exec i req s).2))
    (h : v.rows id p (pq.exec i req s).2 = some rest) :
    v.rows id p s = some rest := by
  by_cases heq : id = i
  · subst heq
    cases hrows : v.rows id p s with
    | none =>
        rw [hnone hrows] at h
        cases h
    | some rows => rw [hkept rows hrows rest h]
  · rw [← hv.exec_other i id req s p heq]
    exact h

/-- The cursor is still there, on its connection, with its count. -/
def Stays (cname : Text) (id : Nat) (before after : List Handle) : Prop :=
  ∀ c ∈ before, c.cname = cname → c.connid = id →
    ∃ c' ∈ after, c'.cname = cname ∧ c'.connid = id
      ∧ c'.tuples = c.tuples

/-- A cursor nothing was done to stays. -/
theorem Stays.refl (cursors : List Handle) :
    Stays cname id cursors cursors :=
  fun c hc hname hconn => ⟨c, hc, hname, hconn, rfl⟩

/-- A change of another cursor, or one that leaves its count alone. -/
theorem Stays.modify {name : Text} {f : Handle → Handle}
    {cursors : List Handle} (hu : (cursors.map Handle.cname).Nodup)
    (hf : ∀ c, (f c).cname = c.cname ∧ (f c).connid = c.connid)
    (htuples : name = cname → ∀ c, (f c).tuples = c.tuples) :
    Stays cname id cursors (Keyed.modify Handle.cname name f cursors) := by
  intro c hc hname hconn
  by_cases heq : c.cname = name
  · refine ⟨f c, (Keyed.mem_modify_iff hu).mpr (.inr ⟨c, hc, heq, rfl⟩), ?_⟩
    exact ⟨(hf c).1.trans hname, (hf c).2.trans hconn,
      htuples (heq.symm.trans hname) c⟩
  · exact ⟨c, (Keyed.mem_modify_iff hu).mpr (.inl ⟨hc, heq⟩), hname, hconn,
      rfl⟩

/-- A cursor that is not changed counts on. -/
theorem InOrder.of_stays (h : InOrder v cname id rows n tuples k)
    (hrows : ∀ i ∈ k'.ids, ∀ rest,
      v.rows i (v.fold cname) k'.server = some rest →
      i ∈ k.ids ∧ v.rows i (v.fold cname) k.server = some rest)
    (hstays : Stays cname id k.cursors k'.cursors) :
    InOrder v cname id rows n tuples k' := by
  intro i hi rest hrest
  obtain ⟨hi, hrest⟩ := hrows i hi rest hrest
  obtain ⟨heq, hle, hdrop, c, hc, hname, hconn, hcount⟩ := h i hi rest hrest
  obtain ⟨c', hc', hname', hconn', htuples⟩ := hstays c hc hname hconn
  exact ⟨heq, hle, hdrop, c', hc', hname', hconn', htuples.trans hcount⟩

/-- An exchange that neither opens the portal nor takes rows from it. -/
theorem InOrder.exec (h : InOrder v cname id rows n tuples k)
    (hv : v.Lawful pq) {i : Nat} {req : Request} {cursors : List Handle}
    (hnone : v.rows i (v.fold cname) k.server = none →
      v.rows i (v.fold cname) (pq.exec i req k.server).2 = none)
    (hkept : ∀ rows, v.rows i (v.fold cname) k.server = some rows →
      Kept rows (v.rows i (v.fold cname) (pq.exec i req k.server).2))
    (hstays : Stays cname id k.cursors cursors) :
    InOrder v cname id rows n tuples { k with
      server := (pq.exec i req k.server).2, cursors := cursors } :=
  h.of_stays (fun _ hj _ hrest => ⟨hj, rows_before hv hnone hkept hrest⟩)
    hstays

/-- A FETCH has no text of the program. -/
theorem text_of_fetched {req : Request} (h : req.fetched = some cname) :
    req.text = none := by
  cases req with
  | cursorFetchOne | cursorFetchOccurs => rfl
  | exec | execParams | cursorDeclare | cursorDeclareParams
  | cursorClose => cases h

/-- A FETCH declares nothing. -/
theorem declared_of_fetched {req : Request} (h : req.fetched = some cname) :
    req.declared = none := by
  cases req with
  | cursorFetchOne | cursorFetchOccurs => rfl
  | exec | execParams | cursorDeclare | cursorDeclareParams
  | cursorClose => cases h

/-- A DECLARE neither has a text nor fetches. -/
theorem of_declared {req : Request} (h : req.declared = some cname) :
    req.text = none ∧ req.fetched = none := by
  cases req with
  | cursorDeclare | cursorDeclareParams => exact ⟨rfl, rfl⟩
  | exec | execParams | cursorFetchOne | cursorFetchOccurs
  | cursorClose => cases h

-- ------------------------------------------------ what other requests do

/-- A statement that handles no cursors, and CLOSE. -/
theorem InOrder.plain (h : InOrder v cname id rows n tuples k)
    (hv : v.Lawful pq) {i : Nat} {req : Request} {cursors : List Handle}
    (hreq : req.Plain v.touches) (hfetch : req.fetched = none)
    (hstays : Stays cname id k.cursors cursors) :
    InOrder v cname id rows n tuples { k with
      server := (pq.exec i req k.server).2, cursors := cursors } := by
  refine h.exec hv (hv.exec_plain i req _ _ hreq) (fun rows hrows => ?_)
    hstays
  refine hv.exec_kept i req _ _ rows hreq.2 ?_ ?_ hrows
  · intro name hname
    rw [hreq.1] at hname
    cases hname
  · intro name hname
    rw [hfetch] at hname
    cases hname

/-- A DECLARE that is refused, or of a cursor with another portal. -/
theorem InOrder.declared (h : InOrder v cname id rows n tuples k)
    (hv : v.Lawful pq) {i : Nat} {req : Request} {name : Text}
    {cursors : List Handle} (hreq : req.declared = some name)
    (hother : v.fold cname ≠ v.fold name
      ∨ (pq.exec i req k.server).1.isOk = false)
    (hstays : Stays cname id k.cursors cursors) :
    InOrder v cname id rows n tuples { k with
      server := (pq.exec i req k.server).2, cursors := cursors } := by
  refine h.exec hv (hv.exec_declare i req _ _ name hreq hother)
    (fun rows hrows => ?_) hstays
  refine hv.exec_kept i req _ _ rows ?_ (fun name' hname' heq => ?_) ?_ hrows
  · rw [(of_declared hreq).1]
    exact nofun
  · rw [hreq] at hname'
    obtain rfl := Option.some.inj hname'
    exact hother.resolve_left fun hne => hne heq.symm
  · rw [(of_declared hreq).2]
    exact nofun

/-- A FETCH from another portal. -/
theorem InOrder.otherFetch (h : InOrder v cname id rows n tuples k)
    (hv : v.Lawful pq) {i : Nat} {req : Request} {name : Text}
    {cursors : List Handle} (hreq : req.fetched = some name)
    (hother : v.fold name ≠ v.fold cname)
    (hstays : Stays cname id k.cursors cursors) :
    InOrder v cname id rows n tuples { k with
      server := (pq.exec i req k.server).2, cursors := cursors } := by
  refine h.exec hv (hv.exec_plain i req _ _ (plain_fetch hreq))
    (fun rows hrows => ?_) hstays
  refine hv.exec_kept i req _ _ rows ?_ ?_ ?_ hrows
  · rw [text_of_fetched hreq]
    exact nofun
  · intro name' hname'
    rw [declared_of_fetched hreq] at hname'
    cases hname'
  · intro name' hname'
    rw [hreq] at hname'
    obtain rfl := Option.some.inj hname'
    exact hother

/-- COMMIT or ROLLBACK: on the cursor's connection the portal is gone. -/
theorem InOrder.ended (h : InOrder v cname id rows n tuples k)
    (hv : v.Lawful pq) {i : Nat} {req : Request} (hreq : req.Ends)
    (hres : (pq.exec i req k.server).1.isOk = true) :
    InOrder v cname id rows n tuples { k with
      server := (pq.exec i req k.server).2
      cursors := clear i k.cursors } := by
  have hgone := hv.exec_ends i req k.server (v.fold cname) hreq hres
  refine h.exec hv (fun _ => hgone) (fun rows _ => ?_) ?_
  · rw [hgone]
    exact nofun
  · intro c hc hname hconn
    refine ⟨_, List.mem_map.mpr ⟨c, hc, rfl⟩, ?_⟩
    split
    · exact ⟨hname, hconn, rfl⟩
    · exact ⟨hname, hconn, rfl⟩

/-- A cursor is registered: with a portal it is open, and then it is not the
one. -/
theorem InOrder.registered (h : InOrder v cname id rows n tuples k)
    (hu : k.Unique) (ho : Owned v k) {name : Text} {i : Nat}
    (hinj : ∀ c ∈ k.cursors, v.fold c.cname = v.fold cname →
      c.cname = cname)
    (hfree : ∀ c ∈ Keyed.lookup Handle.cname name k.cursors,
      c.isOpened = false) :
    InOrder v cname id rows n tuples { k with
      cursors := register name i k.cursors } := by
  by_cases hname : name = cname
  · intro j hj rest hrest
    obtain ⟨d, hd, hopened, -, hfold⟩ := ho j hj (v.fold cname)
      (by rw [show v.rows j (v.fold cname) k.server = _ from hrest]
          exact Option.some_ne_none rest)
    have hclosed := hfree d ((Keyed.lookup_eq_some_iff hu.cnames).mpr
      ⟨hd, (hinj d hd hfold).trans hname.symm⟩)
    rw [hopened] at hclosed
    cases hclosed
  · refine h.of_stays (fun j hj rest hrest => ⟨hj, hrest⟩) ?_
    intro c hc hcname hconn
    exact ⟨c, (mem_register_iff hu.cnames).mpr
      (.inl ⟨hc, fun heq => hname (heq.symm.trans hcname)⟩), hcname, hconn,
      rfl⟩

/-- Another connection gets another id, and its own portals. -/
theorem InOrder.connected (h : InOrder v cname id rows n tuples k)
    (hv : v.Lawful pq) (name info : Text) :
    InOrder v cname id rows n tuples { k with
      server := (pq.connectdb k.next info k.server).2
      conns := k.conns ++ [(k.next, name)]
      next := k.next + 1 } := by
  refine h.of_stays (fun j hj rest hrest => ?_) (.refl _)
  by_cases heq : j = k.next
  · rw [heq, hv.connect_new] at hrest
    cases hrest
  · rw [hv.connect_other _ _ _ _ _ heq] at hrest
    refine ⟨?_, hrest⟩
    rw [Core.ids, List.map_append, List.mem_append] at hj
    refine hj.resolve_right fun hj => heq ?_
    exact List.mem_singleton.mp hj

/-- If the connection itself goes, the portal goes with it. -/
theorem InOrder.finished (h : InOrder v cname id rows n tuples k)
    (hu : k.Unique) (hv : v.Lawful pq) (i : Nat) :
    InOrder v cname id rows n tuples { k with
      server := pq.finish i k.server
      conns := Keyed.erase Prod.fst i k.conns } := by
  refine h.of_stays (fun j hj rest hrest => ?_) (.refl _)
  obtain ⟨c, hc, rfl⟩ := List.mem_map.mp hj
  obtain ⟨hmem, hne⟩ := (Keyed.mem_erase_iff hu.ids).mp hc
  refine ⟨List.mem_map.mpr ⟨c, hmem, rfl⟩, ?_⟩
  rw [← hv.finish_other _ _ _ _ hne]
  exact hrest

/-- Every step keeps the order, if the cursor is neither opened again nor
fetched from, and no other cursor's name stands for the same portal. -/
theorem InOrder.step (h : InOrder v cname id rows n tuples k)
    (hu : k.Unique) (ho : Owned v k) (hv : v.Lawful pq)
    (hrules : rules.touches = v.touches) (hopens : ¬rules.opens cname)
    (hfetches : ¬rules.fetches cname)
    (hinj : ∀ c ∈ k.cursors, v.fold c.cname = v.fold cname →
      c.cname = cname)
    (hs : Step pq rules k k') : InOrder v cname id rows n tuples k' := by
  -- a cursor that is not the one stands for another portal
  have hother {c : Handle} {allowed : Text → Prop}
      (hmem : Keyed.lookup Handle.cname c.cname k.cursors = some c)
      (hallowed : allowed c.cname) (hnot : ¬allowed cname) :
      c.cname ≠ cname ∧ v.fold c.cname ≠ v.fold cname := by
    have hne : c.cname ≠ cname := fun heq => hnot (heq ▸ hallowed)
    exact ⟨hne, fun heq => hne (hinj c (Keyed.mem_of_lookup hmem) heq)⟩
  cases hs with
  | request hid hreq hfetch =>
      exact h.plain hv (hrules ▸ hreq) hfetch (.refl _)
  | refused hid hreq hres => exact h.declared hv hreq (.inr hres) (.refl _)
  | skipped hmem hid hallowed hreq =>
      exact h.otherFetch hv hreq (hother hmem hallowed hfetches).2 (.refl _)
  | fetched hmem hid hallowed hreq =>
      have hne := hother hmem hallowed hfetches
      exact h.otherFetch hv hreq hne.2 (.modify hu.cnames
        (fun _ => ⟨rfl, rfl⟩) fun heq => absurd heq hne.1)
  | opened hmem hclosed hid hallowed hreq hres =>
      have hne := hother hmem hallowed hopens
      exact h.declared hv hreq (.inl hne.2.symm)
        (.modify hu.cnames (fun _ => ⟨rfl, rfl⟩) fun _ _ => rfl)
  | closed hmem hid hres =>
      exact h.plain hv ⟨rfl, nofun⟩ rfl
        (.modify hu.cnames (fun _ => ⟨rfl, rfl⟩) fun _ _ => rfl)
  | ended hid hreq hres => exact h.ended hv hreq hres
  | registered hid hfree => exact h.registered hu ho hinj hfree
  | @connected name info hname => exact h.connected hv name info
  | @notConnected info hres =>
      refine h.of_stays (fun j hj rest hrest => ⟨hj, ?_⟩) (.refl _)
      rw [← hv.connect_other _ _ _ _ _ (hu.given j hj).ne]
      exact hrest
  | @dropped info =>
      refine h.of_stays (fun j hj rest hrest => ⟨hj, ?_⟩) (.refl _)
      have hne := (hu.given j hj).ne
      rw [← hv.connect_other _ _ _ _ _ hne, ← hv.finish_other _ _ _ _ hne]
      exact hrest
  | @finished i hid => exact h.finished hu hv i

/-- No cursor leaves the list. -/
theorem Steps.cnames_subset (hs : Steps pq rules k k') :
    k.cursors.map Handle.cname ⊆ k'.cursors.map Handle.cname := by
  induction hs with
  | refl => exact List.Subset.refl _
  | tail _ hlast ih => exact List.Subset.trans ih hlast.cnames_subset

/-- Steps in which nobody else reads from the portal. -/
theorem InOrder.steps (h : InOrder v cname id rows n tuples k)
    (hu : k.Unique) (ho : Owned v k) (hv : v.Lawful pq)
    (hrules : rules.touches = v.touches) (hopens : ¬rules.opens cname)
    (hfetches : ¬rules.fetches cname) (hs : Steps pq rules k k')
    (hinj : ∀ name ∈ k'.cursors.map Handle.cname,
      v.fold name = v.fold cname → name = cname) :
    InOrder v cname id rows n tuples k' := by
  induction hs with
  | refl => exact h
  | @tail k₁ k₂ hfirst hlast ih =>
      have hinj₁ : ∀ name ∈ k₁.cursors.map Handle.cname,
          v.fold name = v.fold cname → name = cname :=
        fun name hname => hinj name (hlast.cnames_subset hname)
      have hu₁ : k₁.Unique := Steps.keeps hfirst (fun hs h => h.step hs) hu
      refine (ih hinj₁).step hu₁ (ho.steps hu hv hrules hfirst) hv hrules
        hopens hfetches ?_ hlast
      intro c hc
      exact hinj₁ c.cname (List.mem_map.mpr ⟨c, hc, rfl⟩)

/-- Counting starts wherever the cursor is. -/
theorem InOrder.initial {c : Handle} (hu : k.Unique) (ho : Owned v k)
    (hmem : Keyed.lookup Handle.cname c.cname k.cursors = some c)
    (hrows : v.rows c.connid (v.fold c.cname) k.server = some rows)
    (hinj : ∀ d ∈ k.cursors, v.fold d.cname = v.fold c.cname →
      d.cname = c.cname) :
    InOrder v c.cname c.connid rows 0 c.tuples k := by
  intro i hi rest hrest
  have hc := Keyed.mem_of_lookup hmem
  obtain ⟨d, hd, -, hconn, hfold⟩ := ho i hi (v.fold c.cname)
    (by rw [hrest]
        exact Option.some_ne_none rest)
  obtain rfl := Keyed.eq_of_key hu.cnames hd hc (hinj d hd hfold)
  subst hconn
  rw [hrows] at hrest
  obtain rfl := Option.some.inj hrest
  exact ⟨rfl, Nat.zero_le _, rfl, d, hc, rfl, rfl, rfl⟩

-- -------------------------------------------- a FETCH of the cursor itself

/-- What is counted of a FETCH that hands out rows. -/
theorem taken_eq {req : Request} {r : Reply} (hreq : req.fetched = some cname)
    (h : r.rows.length ≤ req.limit) : req.taken r = (r.rows.length : Nat) := by
  cases req with
  | cursorFetchOne => rfl
  | cursorFetchOccurs cname count =>
      exact congrArg Int.ofNat (Nat.min_eq_left h)
  | exec | execParams | cursorDeclare | cursorDeclareParams
  | cursorClose => cases hreq

/-- A FETCH hands out the rows behind those handed out before, or none; the
portal that is left holds the rest. -/
theorem InOrder.handed {c : Handle} {req : Request}
    (h : InOrder v c.cname id rows n tuples k) (hv : v.Lawful pq)
    (hid : c.connid ∈ k.ids) (hreq : req.fetched = some c.cname)
    {r : Reply} (hr : r = (pq.exec c.connid req k.server).1) :
    (r.rows = [] ∨ r.rows = (rows.drop n).take req.limit)
      ∧ ∀ i ∈ k.ids, ∀ rest,
        v.rows i (v.fold c.cname) (pq.exec c.connid req k.server).2
          = some rest →
        i = id ∧ n + r.rows.length ≤ rows.length
          ∧ rest = rows.drop (n + r.rows.length)
          ∧ ∃ d ∈ k.cursors, d.cname = c.cname ∧ d.connid = id
            ∧ d.tuples = tuples := by
  cases hbefore : v.rows c.connid (v.fold c.cname) k.server with
  | none =>
      have hnil : r.rows = [] := by
        rw [hr]
        exact hv.exec_unknown _ _ _ _ hreq hbefore
      refine ⟨.inl hnil, fun i hi rest hrest => ?_⟩
      rw [hnil, List.length_nil, Nat.add_zero]
      refine h i hi rest (rows_before hv ?_ ?_ hrest)
      · exact hv.exec_plain _ _ _ _ (plain_fetch hreq)
      · intro rows hrows
        rw [hbefore] at hrows
        cases hrows
  | some before =>
      obtain ⟨hconn, hle, hdrop, hcount⟩ := h c.connid hid before hbefore
      have hlength : before.length = rows.length - n := by
        rw [hdrop, List.length_drop]
      -- what is there behind the FETCH is there before it
      have hsame {i : Nat} (hi : i ∈ k.ids) {rest : List (List Text)}
          (hrest : v.rows i (v.fold c.cname)
            (pq.exec c.connid req k.server).2 = some rest) :
          i = c.connid := by
        by_contra hne
        have hrest := (hv.exec_other c.connid i req k.server _ hne).symm.trans
          hrest
        exact hne ((h i hi rest hrest).1.trans hconn.symm)
      rcases hv.exec_fetch c.connid req k.server c.cname before hreq hbefore
        with ⟨htake, hkept⟩ | ⟨hnil, hkept⟩
      · rw [← hr] at htake
        have hrows : r.rows.length = min req.limit before.length := by
          rw [htake, List.length_take]
        refine ⟨.inr (htake.trans (by rw [hdrop])), fun i hi rest hrest => ?_⟩
        obtain rfl := hsame hi hrest
        refine ⟨hconn, ?_, ?_, hcount⟩
        · omega
        · rw [hkept rest hrest, List.drop_eq_drop_min, hrows, hdrop,
            List.drop_drop, List.length_drop]
      · rw [← hr] at hnil
        refine ⟨.inl hnil, fun i hi rest hrest => ?_⟩
        obtain rfl := hsame hi hrest
        rw [hnil, List.length_nil, Nat.add_zero]
        exact ⟨hconn, hle, (hkept rest hrest).trans hdrop, hcount⟩

/-- Rows that are handed out are the next ones, and the count in front of
them is the cursor's. -/
theorem InOrder.next {c : Handle} {req : Request}
    (h : InOrder v c.cname id rows n tuples k) (hu : k.Unique)
    (hv : v.Lawful pq)
    (hmem : Keyed.lookup Handle.cname c.cname k.cursors = some c)
    (hid : c.connid ∈ k.ids) (hreq : req.fetched = some c.cname)
    (hrows : (pq.exec c.connid req k.server).1.rows ≠ []) :
    (pq.exec c.connid req k.server).1.rows = (rows.drop n).take req.limit
      ∧ c.tuples = tuples := by
  refine ⟨(h.handed hv hid hreq rfl).1.resolve_left hrows, ?_⟩
  cases hbefore : v.rows c.connid (v.fold c.cname) k.server with
  | none => exact absurd (hv.exec_unknown _ _ _ _ hreq hbefore) hrows
  | some rest =>
      obtain ⟨-, -, -, d, hd, hname, -, hcount⟩ := h c.connid hid rest hbefore
      obtain rfl := Keyed.eq_of_key hu.cnames hd (Keyed.mem_of_lookup hmem)
        hname
      exact hcount

/-- A FETCH of the cursor itself: what is counted is what is handed out. -/
theorem InOrder.fetched {c : Handle} {req : Request}
    (h : InOrder v c.cname id rows n tuples k) (hu : k.Unique)
    (hv : v.Lawful pq) (hid : c.connid ∈ k.ids)
    (hreq : req.fetched = some c.cname)
    {r : Reply} (hr : r = (pq.exec c.connid req k.server).1) :
    InOrder v c.cname id rows (n + r.rows.length)
      (tuples + r.rows.length) { k with
        server := (pq.exec c.connid req k.server).2
        cursors := count c.cname (req.taken r) k.cursors } := by
  obtain ⟨hhanded, hleft⟩ := h.handed hv hid hreq hr
  intro i hi rest hrest
  obtain ⟨heq, hle, hdrop, d, hd, hname, hconn, hcount⟩ :=
    hleft i hi rest hrest
  refine ⟨heq, hle, hdrop, _, (Keyed.mem_modify_iff hu.cnames).mpr
    (.inr ⟨d, hd, hname, rfl⟩), hname, hconn, ?_⟩
  have hlimit : r.rows.length ≤ req.limit := by
    rcases hhanded with hnil | htake
    · rw [hnil]
      exact Nat.zero_le _
    · rw [htake]
      exact List.length_take_le _ _
  dsimp only
  rw [taken_eq hreq hlimit, hcount]

/-- A FETCH whose rows are not counted. -/
theorem InOrder.skipped {c : Handle} {req : Request}
    (h : InOrder v c.cname id rows n tuples k) (hv : v.Lawful pq)
    (hid : c.connid ∈ k.ids) (hreq : req.fetched = some c.cname)
    {r : Reply} (hr : r = (pq.exec c.connid req k.server).1) :
    InOrder v c.cname id rows (n + r.rows.length) tuples { k with
      server := (pq.exec c.connid req k.server).2 } :=
  (h.handed hv hid hreq hr).2

end InOrder

end Core

end CobolExercises.Runtime
