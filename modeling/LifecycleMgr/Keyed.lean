import Mathlib.Data.List.Nodup

/-!
Lists of elements with keys, and maps that keep the order of insertion. Erasing
or updating the first element under a key is, on a list whose keys are distinct,
the operation on all elements under it (`eraseP_eq_filter`,
`updateFirst_eq_map`), and a search that goes from element to element comes to it
(`eraseP_of_passed`, `updateFirst_of_passed`). An `OrderedMap` carries the
distinctness of its keys, so no operation can build a map with a key twice.
-/
namespace Keyed
variable {α κ ν : Type*} [DecidableEq κ]

/-- The list with its first element under `k` changed by `f`. -/
def updateFirst (key : α → κ) (k : κ) (f : α → α) : List α → List α
  | [] => []
  | a :: rest => if key a = k then f a :: rest else a :: updateFirst key k f rest

section
variable {key : α → κ} {k : κ}

theorem updateFirst_of_absent {f : α → α} {l : List α} (absent : k ∉ l.map key) : updateFirst key k f l = l := by
  induction l with
  | nil => rfl
  | cons a rest ih =>
    simp only [List.map_cons,List.mem_cons,not_or] at absent
    simp only [updateFirst,Ne.symm absent.1,if_false,ih absent.2]

/-- With distinct keys, updating the first element under a key updates every element under it. -/
theorem updateFirst_eq_map {f : α → α} {l : List α} (distinct : (l.map key).Nodup) :
    updateFirst key k f l = l.map (fun a => if key a = k then f a else a) := by
  induction l with
  | nil => rfl
  | cons a rest ih =>
    rw [List.map_cons,List.nodup_cons] at distinct
    by_cases same : key a = k
    · subst same
      have others : rest.map (fun b => if key b = key a then f b else b) = rest :=
        (ih distinct.2).symm.trans (updateFirst_of_absent distinct.1)
      simp [updateFirst,others]
    · simp [updateFirst,same,ih distinct.2]

/-- With distinct keys, erasing the first element under a key erases every element under it. -/
theorem eraseP_eq_filter [BEq κ] [LawfulBEq κ] {l : List α} (distinct : (l.map key).Nodup) :
    l.eraseP (fun a => key a == k) = l.filter (fun a => key a ≠ k) := by
  induction l with
  | nil => rfl
  | cons a rest ih =>
    rw [List.map_cons,List.nodup_cons] at distinct
    by_cases same : key a = k
    · subst same
      have others : rest.filter (fun b => key b ≠ key a) = rest := by
        rw [List.filter_eq_self]
        intro b member
        have different : key b ≠ key a := fun equal => distinct.1 (equal ▸ List.mem_map_of_mem member)
        simpa using different
      rw [List.eraseP_cons_of_pos (by simp),List.filter_cons_of_neg (by simp),others]
    · rw [List.eraseP_cons_of_neg (by simpa using same),List.filter_cons_of_pos (by simpa using same),ih distinct.2]

/-- With distinct keys, the order in which the elements stand does not matter to an erasure. -/
theorem perm_eraseP [BEq κ] [LawfulBEq κ] {l l' : List α} (distinct : (l.map key).Nodup) (same : l.Perm l') :
    (l.eraseP (fun a => key a == k)).Perm (l'.eraseP (fun a => key a == k)) := by
  have distinct' : (l'.map key).Nodup := (same.map key).nodup_iff.mp distinct
  rw [eraseP_eq_filter distinct,eraseP_eq_filter distinct']
  exact same.filter _

/-- Nor does it matter to an update. -/
theorem perm_updateFirst {f : α → α} {l l' : List α} (distinct : (l.map key).Nodup) (same : l.Perm l') :
    (updateFirst key k f l).Perm (updateFirst key k f l') := by
  have distinct' : (l'.map key).Nodup := (same.map key).nodup_iff.mp distinct
  rw [updateFirst_eq_map distinct,updateFirst_eq_map distinct']
  exact same.map _

theorem mem_updateFirst {f : α → α} {l : List α} {a : α} (member : a ∈ updateFirst key k f l) :
    a ∈ l ∨ ∃ b ∈ l, a = f b := by
  induction l with
  | nil => exact .inl member
  | cons b rest ih =>
    rw [updateFirst] at member
    split at member
    · rcases List.mem_cons.mp member with changed | kept
      · exact .inr ⟨b,List.mem_cons_self,changed⟩
      · exact .inl (List.mem_cons_of_mem b kept)
    · rcases List.mem_cons.mp member with rfl | later
      · exact .inl List.mem_cons_self
      · rcases ih later with kept | ⟨c,inside,changed⟩
        · exact .inl (List.mem_cons_of_mem b kept)
        · exact .inr ⟨c,List.mem_cons_of_mem b inside,changed⟩

theorem map_key_updateFirst {f : α → α} (kept : ∀ a, key (f a) = key a) (l : List α) :
    (updateFirst key k f l).map key = l.map key := by
  induction l with
  | nil => rfl
  | cons a rest ih =>
    by_cases same : key a = k
    · simp [updateFirst,same,kept]
    · simp [updateFirst,same,ih]

end

section
variable {key : α → κ} {k : κ} {l : List α} {n : ℕ} {a : α} (passed : ∀ b ∈ l.take n, key b ≠ k)
include passed

omit [DecidableEq κ] in
/-- A search that has come to the end has found nothing. -/
theorem absent_of_passed (atEnd : l[n]? = none) : k ∉ l.map key := by
  rw [List.getElem?_eq_none_iff] at atEnd
  rw [List.take_of_length_le atEnd] at passed
  rintro inside
  obtain ⟨b,member,same⟩ := List.mem_map.mp inside
  exact passed b member same

omit [DecidableEq κ] in
/-- Erasing what a search has come to erases the first element under the key. -/
theorem eraseP_of_passed [BEq κ] [LawfulBEq κ] (found : l[n]? = some a) (same : key a = k) :
    l.eraseP (fun a => key a == k) = l.eraseIdx n := by
  induction l generalizing n with
  | nil => cases found
  | cons b rest ih =>
    cases n with
    | zero =>
      cases found
      rw [List.eraseP_cons_of_pos (by simpa using same)]; rfl
    | succ n =>
      rw [List.take_succ_cons,List.forall_mem_cons] at passed
      rw [List.eraseP_cons_of_neg (by simpa using passed.1),ih passed.2 found]; rfl

/-- Changing it changes the first element under the key. -/
theorem updateFirst_of_passed {f : α → α} (found : l[n]? = some a) (same : key a = k) :
    updateFirst key k f l = l.modify n f := by
  induction l generalizing n with
  | nil => cases found
  | cons b rest ih =>
    cases n with
    | zero =>
      cases found
      rw [updateFirst,if_pos same]; rfl
    | succ n =>
      rw [List.take_succ_cons,List.forall_mem_cons] at passed
      rw [updateFirst,if_neg passed.1,ih passed.2 found,List.modify_succ_cons]

end

/-- Values under distinct keys, in the order the keys were inserted. -/
structure OrderedMap (κ ν : Type*) where
  entries : List (κ × ν)
  distinct : (entries.map Prod.fst).Nodup

namespace OrderedMap

def empty : OrderedMap κ ν := ⟨[],List.nodup_nil⟩

def keys (m : OrderedMap κ ν) : List κ := m.entries.map Prod.fst

/-- The entries under every key but `k`, in order. -/
def others (m : OrderedMap κ ν) (k : κ) : List (κ × ν) := m.entries.filter (fun e => e.1 ≠ k)

/-- The map with a value under a new key, inserted last. -/
def append (m : OrderedMap κ ν) (k : κ) (v : ν) (absent : k ∉ m.keys) : OrderedMap κ ν where
  entries := m.entries ++ [(k,v)]
  distinct := by
    rw [List.map_append,List.map_singleton,List.nodup_append]
    refine ⟨m.distinct,List.nodup_singleton _,?_⟩
    intro a member b single equal
    have same : a = k := equal.trans (List.mem_singleton.mp single)
    exact absent (same ▸ member)

/-- The map without the entry under `k`. -/
def erase (m : OrderedMap κ ν) (k : κ) : OrderedMap κ ν where
  entries := m.others k
  distinct := m.distinct.sublist (List.filter_sublist.map _)

/-- The map with the value under `k` changed by `f`. -/
def update (m : OrderedMap κ ν) (k : κ) (f : ν → ν) : OrderedMap κ ν where
  entries := m.entries.map (fun e => if e.1 = k then (e.1,f e.2) else e)
  distinct := by
    have kept : (fun e : κ × ν => (if e.1 = k then (e.1,f e.2) else e).1) = Prod.fst := by
      funext e; split <;> rfl
    rw [List.map_map,Function.comp_def,kept]
    exact m.distinct

theorem others_append (m : OrderedMap κ ν) (k : κ) (v : ν) (absent : k ∉ m.keys) :
    (m.append k v absent).others k = m.others k := by
  simp [others,append]

theorem others_erase (m : OrderedMap κ ν) (k : κ) : (m.erase k).others k = m.others k := by
  simp [others,erase,List.filter_filter]

theorem others_update (m : OrderedMap κ ν) (k : κ) (f : ν → ν) : (m.update k f).others k = m.others k := by
  simp only [others,update]
  induction m.entries with
  | nil => rfl
  | cons e rest ih =>
    rw [List.map_cons]
    by_cases same : e.1 = k
    · rw [if_pos same,List.filter_cons_of_neg (by simpa using same),List.filter_cons_of_neg (by simpa using same),ih]
    · rw [if_neg same,List.filter_cons_of_pos (by simpa using same),List.filter_cons_of_pos (by simpa using same),ih]

end OrderedMap
end Keyed
