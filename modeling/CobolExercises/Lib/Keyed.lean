/-
Lists of records found by a key: a linked list that is searched from its
head and changed in place.

# Searching and changing

`lookup` finds the first record with a key, `modify` changes it where it
stands, `erase` takes it out. `put` changes the record with a key or
appends one that has it.

# Unique keys

None of them makes a second record with the same key (`nodup_modify`,
`nodup_erase`, `nodup_put`). While the keys are unique, which record is
the first does not matter (`lookup_eq_some_iff`, `mem_modify_iff`,
`mem_erase_iff`).
-/
import Mathlib.Data.List.Nodup

namespace Lib.Keyed

variable {α β κ : Type*} [DecidableEq κ]

-- ========================================================== the operations

/-- The first record with the key. -/
def lookup (key : α → κ) (k : κ) (l : List α) : Option α :=
  l.find? fun a => key a = k

/-- Change the first record with the key. -/
def modify (key : α → κ) (k : κ) (f : α → α) : List α → List α
  | [] => []
  | a :: l => if key a = k then f a :: l else a :: modify key k f l

/-- Take the first record with the key out. -/
def erase (key : α → κ) (k : κ) (l : List α) : List α :=
  l.eraseP fun a => key a = k

/-- Change the record with the key, or append a new one. -/
def put (key : α → κ) (k : κ) (new : α) (f : α → α) (l : List α) : List α :=
  match lookup key k l with
  | some _ => modify key k f l
  | none => l ++ [f new]

section Lookup

variable {key : α → κ} {k : κ} {l : List α} {a : α}

/-- What is found is in the list. -/
theorem mem_of_lookup (h : lookup key k l = some a) : a ∈ l :=
  List.mem_of_find?_eq_some h

/-- And has the key it was looked for by. -/
theorem key_of_lookup (h : lookup key k l = some a) : key a = k := by
  have hkey := List.find?_some h
  exact of_decide_eq_true hkey

theorem lookup_cons (key : α → κ) (k : κ) (a : α) (l : List α) :
    lookup key k (a :: l) = if key a = k then some a else lookup key k l := by
  rw [lookup, List.find?_cons]
  by_cases h : key a = k
  · rw [if_pos h, decide_eq_true h]
  · rw [if_neg h, decide_eq_false h]
    rfl

/-- A key is not found if no entry has it. -/
theorem lookup_eq_none_iff : lookup key k l = none ↔ k ∉ l.map key := by
  rw [lookup, List.find?_eq_none]
  constructor
  · intro h hmem
    obtain ⟨a, ha, hkey⟩ := List.mem_map.mp hmem
    exact h a ha (decide_eq_true hkey)
  · intro h a ha hkey
    exact h (List.mem_map.mpr ⟨a, ha, of_decide_eq_true hkey⟩)

theorem mem_keys_of_lookup (h : lookup key k l = some a) : k ∈ l.map key :=
  List.mem_map.mpr ⟨a, mem_of_lookup h, key_of_lookup h⟩

omit [DecidableEq κ] in
/-- Two records with one key are one record. -/
theorem eq_of_key (hl : (l.map key).Nodup) {b : α} (ha : a ∈ l) (hb : b ∈ l)
    (h : key a = key b) : a = b :=
  List.inj_on_of_nodup_map hl ha hb h

/-- With distinct keys, any entry of the key is the one that is found. -/
theorem lookup_eq_some_iff (hl : (l.map key).Nodup) :
    lookup key k l = some a ↔ a ∈ l ∧ key a = k := by
  constructor
  · intro h
    exact ⟨mem_of_lookup h, key_of_lookup h⟩
  · intro h
    obtain ⟨ha, hkey⟩ := h
    cases hfind : lookup key k l with
    | none =>
        rw [lookup_eq_none_iff] at hfind
        exact absurd (List.mem_map.mpr ⟨a, ha, hkey⟩) hfind
    | some b =>
        have heq := eq_of_key hl (mem_of_lookup hfind) ha
          ((key_of_lookup hfind).trans hkey.symm)
        rw [heq]

end Lookup

-- ============================================================ the changes

section Changes

variable {key : α → κ} {k : κ} {f : α → α} {l : List α} {a b new : α}

/-- What the change does not touch stays. -/
theorem map_modify {g : α → β} (h : ∀ a, g (f a) = g a) :
    (modify key k f l).map g = l.map g := by
  induction l with
  | nil => rfl
  | cons a l ih =>
      rw [modify]
      split
      · rw [List.map_cons, h, List.map_cons]
      · rw [List.map_cons, ih, List.map_cons]

/-- The change seen through a projection that keeps the key. -/
theorem map_modify_comm {γ : Type*} {g : α → γ} {key' : γ → κ} {f' : γ → γ}
    (hkey : ∀ a, key' (g a) = key a) (hf : ∀ a, g (f a) = f' (g a)) :
    (modify key k f l).map g = modify key' k f' (l.map g) := by
  induction l with
  | nil => rfl
  | cons a l ih =>
      rw [modify, List.map_cons, modify, hkey]
      split
      · rw [List.map_cons, hf]
      · rw [List.map_cons, ih]

/-- Looking up commutes with a map that keeps the keys. -/
theorem lookup_map {γ : Type*} {g : α → γ} {key' : γ → κ}
    (hkey : ∀ a, key' (g a) = key a) :
    lookup key' k (l.map g) = (lookup key k l).map g := by
  rw [lookup, List.find?_map]
  congr 1
  apply congrArg (fun p => List.find? p l)
  funext a
  simp [hkey]

/-- The record that was changed. -/
theorem lookup_modify_self (hf : ∀ a, key (f a) = key a)
    (h : lookup key k l = some a) :
    lookup key k (modify key k f l) = some (f a) := by
  induction l with
  | nil => cases h
  | cons b l ih =>
      rw [lookup_cons] at h
      rw [modify]
      by_cases hb : key b = k
      · rw [if_pos hb] at h
        rw [if_pos hb, lookup_cons, if_pos ((hf b).trans hb),
          Option.some.inj h]
      · rw [if_neg hb] at h
        rw [if_neg hb, lookup_cons, if_neg hb]
        exact ih h

/-- An entry behind a change was there, or is the changed one. -/
theorem mem_modify_iff (hl : (l.map key).Nodup) :
    b ∈ modify key k f l
      ↔ (b ∈ l ∧ key b ≠ k) ∨ ∃ a ∈ l, key a = k ∧ b = f a := by
  induction l with
  | nil => simp [modify]
  | cons c l ih =>
      rw [List.map_cons, List.nodup_cons] at hl
      rw [modify]
      by_cases hc : key c = k
      · have hother : ∀ a ∈ l, key a ≠ k := by
          intro a ha hkey
          exact hl.1 (List.mem_map.mpr ⟨a, ha, hkey.trans hc.symm⟩)
        rw [if_pos hc, List.mem_cons]
        constructor
        · intro h
          rcases h with rfl | h
          · exact .inr ⟨c, List.mem_cons_self, hc, rfl⟩
          · exact .inl ⟨List.mem_cons_of_mem c h, hother b h⟩
        · intro h
          rcases h with ⟨hmem, hkey⟩ | ⟨a, hmem, hkey, rfl⟩
          · rcases List.mem_cons.mp hmem with rfl | hmem
            · exact absurd hc hkey
            · exact .inr hmem
          · rcases List.mem_cons.mp hmem with rfl | hmem
            · exact .inl rfl
            · exact absurd hkey (hother a hmem)
      · rw [if_neg hc, List.mem_cons, ih hl.2]
        constructor
        · intro h
          rcases h with rfl | ⟨hmem, hkey⟩ | ⟨a, hmem, hkey, rfl⟩
          · exact .inl ⟨List.mem_cons_self, hc⟩
          · exact .inl ⟨List.mem_cons_of_mem c hmem, hkey⟩
          · exact .inr ⟨a, List.mem_cons_of_mem c hmem, hkey, rfl⟩
        · intro h
          rcases h with ⟨hmem, hkey⟩ | ⟨a, hmem, hkey, rfl⟩
          · rcases List.mem_cons.mp hmem with rfl | hmem
            · exact .inl rfl
            · exact .inr (.inl ⟨hmem, hkey⟩)
          · rcases List.mem_cons.mp hmem with rfl | hmem
            · exact absurd hkey hc
            · exact .inr (.inr ⟨a, hmem, hkey, rfl⟩)

/-- A change that keeps keys keeps them distinct. -/
theorem nodup_modify (hl : (l.map key).Nodup) (hf : ∀ a, key (f a) = key a) :
    ((modify key k f l).map key).Nodup := by
  rw [map_modify hf]
  exact hl

theorem mem_erase_of_ne (hb : b ∈ l) (hne : key b ≠ k) :
    b ∈ erase key k l :=
  (List.mem_eraseP_of_neg (by simpa using hne)).mpr hb

/-- What is left is what has another key. -/
theorem mem_erase_iff (hl : (l.map key).Nodup) :
    b ∈ erase key k l ↔ b ∈ l ∧ key b ≠ k := by
  induction l with
  | nil => simp [erase]
  | cons c l ih =>
      rw [List.map_cons, List.nodup_cons] at hl
      by_cases hc : key c = k
      · have herase : erase key k (c :: l) = l :=
          List.eraseP_cons_of_pos (decide_eq_true hc)
        rw [herase, List.mem_cons]
        constructor
        · intro h
          refine ⟨.inr h, fun hkey => hl.1 ?_⟩
          exact List.mem_map.mpr ⟨b, h, hkey.trans hc.symm⟩
        · intro h
          obtain ⟨rfl | hmem, hkey⟩ := h
          · exact absurd hc hkey
          · exact hmem
      · have herase : erase key k (c :: l) = c :: erase key k l :=
          List.eraseP_cons_of_neg (by simpa using hc)
        rw [herase, List.mem_cons, ih hl.2, List.mem_cons]
        constructor
        · intro h
          rcases h with rfl | ⟨hmem, hkey⟩
          · exact ⟨.inl rfl, hc⟩
          · exact ⟨.inr hmem, hkey⟩
        · intro h
          obtain ⟨rfl | hmem, hkey⟩ := h
          · exact .inl rfl
          · exact .inr ⟨hmem, hkey⟩

theorem erase_sublist : (erase key k l).Sublist l := List.eraseP_sublist

/-- Erasing keeps any distinct marks distinct. -/
theorem nodup_erase {γ : Type*} {g : α → γ} (hl : (l.map g).Nodup) :
    ((erase key k l).map g).Nodup :=
  (erase_sublist.map g).nodup hl

/-- An entry that is there is changed. -/
theorem put_of_some (h : lookup key k l = some a) :
    put key k new f l = modify key k f l := by
  rw [put, h]

/-- One that is not is appended. -/
theorem put_of_none (h : lookup key k l = none) :
    put key k new f l = l ++ [f new] := by
  rw [put, h]

/-- `put` seen through a projection that keeps the key. -/
theorem map_put {γ : Type*} {g : α → γ} {key' : γ → κ} {f' : γ → γ}
    (hkey : ∀ a, key' (g a) = key a) (hf : ∀ a, g (f a) = f' (g a)) :
    (put key k new f l).map g = put key' k (g new) f' (l.map g) := by
  have hlook := lookup_map (k := k) (l := l) hkey
  cases h : lookup key k l with
  | some a =>
      rw [h, Option.map_some] at hlook
      rw [put_of_some h, put_of_some hlook, map_modify_comm hkey hf]
  | none =>
      rw [h, Option.map_none] at hlook
      rw [put_of_none h, put_of_none hlook, List.map_append,
        List.map_singleton, hf]

/-- Either way the keys stay distinct. -/
theorem nodup_put (hl : (l.map key).Nodup) (hf : ∀ a, key (f a) = key a)
    (hnew : key new = k) : ((put key k new f l).map key).Nodup := by
  cases h : lookup key k l with
  | some a =>
      rw [put_of_some h]
      exact nodup_modify hl hf
  | none =>
      rw [put_of_none h, List.map_append, List.map_singleton, hf, hnew]
      rw [lookup_eq_none_iff] at h
      rw [List.nodup_append]
      refine ⟨hl, List.nodup_singleton k, ?_⟩
      intro x hx y hy hxy
      rw [List.mem_singleton.mp hy] at hxy
      exact h (hxy ▸ hx)

/-- `put` takes no key away. -/
theorem keys_subset_put (hf : ∀ a, key (f a) = key a) :
    l.map key ⊆ (put key k new f l).map key := by
  cases h : lookup key k l with
  | some a =>
      rw [put_of_some h, map_modify hf]
      exact List.Subset.refl _
  | none =>
      rw [put_of_none h, List.map_append]
      exact List.subset_append_left _ _

/-- Behind `put` there is nothing but the old records and changed ones. -/
theorem mem_put_of (h : b ∈ put key k new f l) : b ∈ l ∨ ∃ a, b = f a := by
  cases hlook : lookup key k l with
  | some a =>
      rw [put_of_some hlook] at h
      clear hlook
      induction l with
      | nil => cases h
      | cons c l ih =>
          rw [modify] at h
          split at h
          · rcases List.mem_cons.mp h with rfl | h
            · exact .inr ⟨c, rfl⟩
            · exact .inl (List.mem_cons_of_mem c h)
          · rcases List.mem_cons.mp h with rfl | h
            · exact .inl List.mem_cons_self
            · exact (ih h).imp_left (List.mem_cons_of_mem c)
  | none =>
      rw [put_of_none hlook] at h
      rcases List.mem_append.mp h with h | h
      · exact .inl h
      · exact .inr ⟨new, List.mem_singleton.mp h⟩

/-- What is in the list after `put`. -/
theorem mem_put_iff (hl : (l.map key).Nodup) :
    b ∈ put key k new f l
      ↔ (b ∈ l ∧ key b ≠ k)
        ∨ b = f ((lookup key k l).getD new) := by
  cases h : lookup key k l with
  | some a =>
      rw [put_of_some h, mem_modify_iff hl, Option.getD_some]
      refine or_congr_right ?_
      constructor
      · intro hb
        obtain ⟨c, hc, hkey, rfl⟩ := hb
        rw [eq_of_key hl hc (mem_of_lookup h)
          (hkey.trans (key_of_lookup h).symm)]
      · intro hb
        exact ⟨a, mem_of_lookup h, key_of_lookup h, hb⟩
  | none =>
      rw [put_of_none h, List.mem_append, List.mem_singleton,
        Option.getD_none]
      refine or_congr_left ?_
      rw [lookup_eq_none_iff] at h
      constructor
      · intro hb
        exact ⟨hb, fun hkey => h (List.mem_map.mpr ⟨b, hb, hkey⟩)⟩
      · exact And.left

end Changes

end Lib.Keyed
