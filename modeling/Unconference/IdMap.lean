import Unconference.Identifier

/-!
# Finite maps on identifiers

An `IdMap` lists its entries by strictly ascending identifier.  There is one such list for every
finite map, so two maps are equal exactly when they agree at every identifier (`IdMap.ext`), and
whoever walks through a map meets its entries in ascending order.
-/

namespace Unconference

open Identifier

/-- Entries in strictly ascending order of their identifiers. -/
def Ascending {ι α : Type} [Identifier ι] (entries : List (ι × α)) : Prop :=
  entries.Pairwise fun a b => number a.1 < number b.1

structure IdMap (ι : Type) [Identifier ι] (α : Type) where
  entries : List (ι × α)
  ascending : Ascending entries

namespace IdMap

variable {ι α : Type} [Identifier ι]

/-- The value that a list of entries holds for `key`. -/
def valueIn (key : ι) : List (ι × α) → Option α
  | [] => none
  | (k, a) :: rest => if number k = number key then some a else valueIn key rest

/-- Puts an entry into its place, in front of the first larger identifier. -/
def insertInto (key : ι) (value : α) : List (ι × α) → List (ι × α)
  | [] => [(key, value)]
  | (k, a) :: rest =>
    if number key < number k then (key, value) :: (k, a) :: rest
    else if number key = number k then (key, value) :: rest
    else (k, a) :: insertInto key value rest

def eraseFrom (key : ι) (entries : List (ι × α)) : List (ι × α) :=
  entries.filter fun entry => number entry.1 ≠ number key

theorem mem_insertInto {key : ι} {value : α} {entries : List (ι × α)} {entry : ι × α}
    (h : entry ∈ insertInto key value entries) : entry = (key, value) ∨ entry ∈ entries := by
  induction entries with
  | nil => simpa [insertInto] using h
  | cons head rest ih =>
    obtain ⟨k, a⟩ := head
    simp only [insertInto] at h
    split at h
    · simpa using h
    · split at h
      · rcases List.mem_cons.1 h with rfl | h
        · exact .inl rfl
        · exact .inr (List.mem_cons_of_mem _ h)
      · rcases List.mem_cons.1 h with rfl | h
        · exact .inr (List.mem_cons_self ..)
        · rcases ih h with rfl | h
          · exact .inl rfl
          · exact .inr (List.mem_cons_of_mem _ h)

theorem ascending_insertInto {key : ι} {value : α} {entries : List (ι × α)}
    (h : Ascending entries) : Ascending (insertInto key value entries) := by
  induction entries with
  | nil => simp [insertInto, Ascending]
  | cons head rest ih =>
    obtain ⟨k, a⟩ := head
    obtain ⟨hhead, hrest⟩ := List.pairwise_cons.1 h
    simp only [insertInto]
    split
    · rename_i hlt
      refine List.pairwise_cons.2 ⟨?_, h⟩
      intro entry hmem
      rcases List.mem_cons.1 hmem with rfl | hmem
      · exact hlt
      · exact Nat.lt_trans hlt (hhead entry hmem)
    · split
      · rename_i heq
        refine List.pairwise_cons.2 ⟨?_, hrest⟩
        intro entry hmem
        have := hhead entry hmem
        simp only at this ⊢
        omega
      · rename_i hnlt hne
        refine List.pairwise_cons.2 ⟨?_, ih hrest⟩
        intro entry hmem
        rcases mem_insertInto hmem with rfl | hmem
        · simp only at *
          omega
        · exact hhead entry hmem

def empty : IdMap ι α := ⟨[], List.Pairwise.nil⟩

instance : EmptyCollection (IdMap ι α) := ⟨empty⟩

instance : Inhabited (IdMap ι α) := ⟨empty⟩

def get? (map : IdMap ι α) (key : ι) : Option α := valueIn key map.entries

def insert (map : IdMap ι α) (key : ι) (value : α) : IdMap ι α :=
  ⟨insertInto key value map.entries, ascending_insertInto map.ascending⟩

def erase (map : IdMap ι α) (key : ι) : IdMap ι α :=
  ⟨eraseFrom key map.entries, map.ascending.filter _⟩

def keys (map : IdMap ι α) : List ι := map.entries.map (·.1)

def values (map : IdMap ι α) : List α := map.entries.map (·.2)

instance [DecidableEq ι] [DecidableEq α] : DecidableEq (IdMap ι α) := fun a b =>
  decidable_of_iff (a.entries = b.entries)
    ⟨fun h => by cases a; cases b; simpa using h, fun h => h ▸ rfl⟩

theorem valueIn_eq_none_of_lt {key : ι} {entries : List (ι × α)}
    (h : ∀ entry ∈ entries, number key < number entry.1) : valueIn key entries = none := by
  induction entries with
  | nil => rfl
  | cons head rest ih =>
    have hhead := h head (List.mem_cons_self ..)
    have hne : ¬ number head.1 = number key := by omega
    simpa [valueIn, hne] using ih fun entry hmem => h entry (List.mem_cons_of_mem _ hmem)

theorem valueIn_eq_some_iff {key : ι} {value : α} {entries : List (ι × α)}
    (h : Ascending entries) : valueIn key entries = some value ↔ (key, value) ∈ entries := by
  induction entries with
  | nil => simp [valueIn]
  | cons head rest ih =>
    obtain ⟨k, a⟩ := head
    obtain ⟨hhead, hrest⟩ := List.pairwise_cons.1 h
    by_cases hk : number k = number key
    · have := eq_of_number_eq hk
      subst this
      simp only [valueIn, if_true, List.mem_cons, Prod.mk.injEq, true_and, Option.some.injEq]
      constructor
      · exact fun h => .inl h.symm
      · rintro (rfl | hmem)
        · rfl
        · have := hhead _ hmem
          simp at this
    · have hne : key ≠ k := fun h => hk (h ▸ rfl)
      simp [valueIn, hk, ih hrest, hne]

@[simp] theorem get?_empty (key : ι) : (∅ : IdMap ι α).get? key = none := rfl

/-- A map holds a value for a key exactly when the pair is among its entries. -/
theorem get?_eq_some_iff {map : IdMap ι α} {key : ι} {value : α} :
    map.get? key = some value ↔ (key, value) ∈ map.entries :=
  valueIn_eq_some_iff map.ascending

theorem valueIn_insertInto (key other : ι) (value : α) (entries : List (ι × α)) :
    valueIn other (insertInto key value entries) =
      if number key = number other then some value else valueIn other entries := by
  induction entries with
  | nil => simp [insertInto, valueIn]
  | cons head rest ih =>
    obtain ⟨k, a⟩ := head
    simp only [insertInto]
    split
    · simp [valueIn]
    · split
      · rename_i heq
        by_cases h : number key = number other
        · simp [valueIn, h]
        · have hk : ¬ number k = number other := by omega
          simp [valueIn, h, hk]
      · rename_i hne
        by_cases h : number k = number other
        · have hk : ¬ number key = number other := by omega
          simp [valueIn, h, hk]
        · simp [valueIn, h, ih]

theorem get?_insert (map : IdMap ι α) (key other : ι) (value : α) :
    (map.insert key value).get? other =
      if number key = number other then some value else map.get? other :=
  valueIn_insertInto ..

@[simp] theorem get?_insert_self (map : IdMap ι α) (key : ι) (value : α) :
    (map.insert key value).get? key = some value := by
  simp [get?_insert]

theorem get?_insert_of_ne (map : IdMap ι α) {key other : ι} (value : α) (h : key ≠ other) :
    (map.insert key value).get? other = map.get? other := by
  rw [get?_insert, if_neg fun hn => h (eq_of_number_eq hn)]

theorem valueIn_eraseFrom (key other : ι) (entries : List (ι × α)) :
    valueIn other (eraseFrom key entries) =
      if number key = number other then none else valueIn other entries := by
  unfold eraseFrom
  induction entries with
  | nil => simp [valueIn]
  | cons head rest ih =>
    by_cases h : number head.1 = number key <;> by_cases ho : number head.1 = number other <;>
      by_cases hk : number key = number other <;>
      simp_all [valueIn]

theorem get?_erase (map : IdMap ι α) (key other : ι) :
    (map.erase key).get? other = if number key = number other then none else map.get? other :=
  valueIn_eraseFrom ..

@[simp] theorem get?_erase_self (map : IdMap ι α) (key : ι) : (map.erase key).get? key = none := by
  simp [get?_erase]

theorem get?_erase_of_ne (map : IdMap ι α) {key other : ι} (h : key ≠ other) :
    (map.erase key).get? other = map.get? other := by
  rw [get?_erase, if_neg fun hn => h (eq_of_number_eq hn)]

theorem eq_of_valueIn_eq {left right : List (ι × α)} (hl : Ascending left) (hr : Ascending right)
    (h : ∀ key, valueIn key left = valueIn key right) : left = right := by
  induction left generalizing right with
  | nil =>
    cases right with
    | nil => rfl
    | cons head rest => simpa [valueIn] using h head.1
  | cons head rest ih =>
    obtain ⟨hhead, hrest⟩ := List.pairwise_cons.1 hl
    cases right with
    | nil => simpa [valueIn] using h head.1
    | cons head' rest' =>
      obtain ⟨hhead', hrest'⟩ := List.pairwise_cons.1 hr
      have hnumber : number head.1 = number head'.1 := by
        rcases Nat.lt_trichotomy (number head.1) (number head'.1) with hlt | heq | hlt
        · have habsent : valueIn head.1 (head' :: rest') = none := by
            refine valueIn_eq_none_of_lt fun entry hmem => ?_
            rcases List.mem_cons.1 hmem with rfl | hmem
            · exact hlt
            · exact Nat.lt_trans hlt (hhead' _ hmem)
          rw [← h head.1] at habsent
          simp [valueIn] at habsent
        · exact heq
        · have habsent : valueIn head'.1 (head :: rest) = none := by
            refine valueIn_eq_none_of_lt fun entry hmem => ?_
            rcases List.mem_cons.1 hmem with rfl | hmem
            · exact hlt
            · exact Nat.lt_trans hlt (hhead _ hmem)
          rw [h head'.1] at habsent
          simp [valueIn] at habsent
      have hkey := eq_of_number_eq hnumber
      obtain ⟨k, a⟩ := head
      obtain ⟨k', a'⟩ := head'
      simp only at hkey
      subst hkey
      have hvalue : a = a' := by simpa [valueIn] using h k
      subst hvalue
      congr 1
      refine ih hrest hrest' fun key => ?_
      by_cases hk : number k = number key
      · have := eq_of_number_eq hk
        subst this
        rw [valueIn_eq_none_of_lt hhead, valueIn_eq_none_of_lt hhead']
      · simpa [valueIn, hk] using h key

/-- Maps that agree at every identifier are equal. -/
@[ext] theorem ext {left right : IdMap ι α} (h : ∀ key, left.get? key = right.get? key) :
    left = right := by
  cases left with
  | mk entries hl =>
    cases right with
    | mk entries' hr =>
      have := eq_of_valueIn_eq hl hr h
      subst this
      rfl

end IdMap

end Unconference
