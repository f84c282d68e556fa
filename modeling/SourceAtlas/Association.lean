/-!
Lists of keys with values in the order in which the keys first came, each key once.
-/

namespace SourceAtlas.Association

variable {κ α : Type} [DecidableEq κ]

/-- Sets the value of a key: in its place if the key is there, else at the end. -/
def set (key : κ) (value : α) : List (κ × α) → List (κ × α)
  | [] => [(key, value)]
  | (k, v) :: rest => if k = key then (k, value) :: rest else (k, v) :: set key value rest

/-- The list of a sequence of settings, from left to right. -/
def ofList (settings : List (κ × α)) : List (κ × α) :=
  settings.foldl (fun entries s => set s.1 s.2 entries) []

/-- The value of a key. -/
def find? (key : κ) : List (κ × α) → Option α
  | [] => none
  | (k, v) :: rest => if k = key then some v else find? key rest

theorem find?_set_self (key : κ) (value : α) (entries : List (κ × α)) :
    find? key (set key value entries) = some value := by
  induction entries with
  | nil => simp [set, find?]
  | cons e rest ih => by_cases h : e.1 = key <;> simp [set, find?, h, ih]

theorem find?_set_of_ne {key other : κ} (h : other ≠ key) (value : α) (entries : List (κ × α)) :
    find? other (set key value entries) = find? other entries := by
  induction entries with
  | nil => simp [set, find?, h.symm]
  | cons e rest ih =>
    by_cases hk : e.1 = key
    · simp [set, find?, hk, h.symm]
    · simp [set, find?, hk, ih]

theorem set_of_not_mem {key : κ} {entries : List (κ × α)} (h : key ∉ entries.map Prod.fst) (value : α) :
    set key value entries = entries ++ [(key, value)] := by
  induction entries with
  | nil => rfl
  | cons e rest ih =>
    rw [List.map_cons, List.mem_cons, not_or] at h
    simp [set, Ne.symm h.1, ih h.2]

theorem mem_of_find?_eq_some {key : κ} {value : α} {entries : List (κ × α)} (h : find? key entries = some value) :
    (key, value) ∈ entries := by
  induction entries with
  | nil => cases h
  | cons e rest ih =>
    obtain ⟨k, v⟩ := e
    unfold find? at h
    split at h
    · next hk =>
      rw [hk, Option.some.inj h]
      exact List.mem_cons_self
    · exact List.mem_cons_of_mem (k, v) (ih h)

theorem find?_eq_some_of_mem {key : κ} {value : α} {entries : List (κ × α)} (hkeys : (entries.map Prod.fst).Nodup)
    (h : (key, value) ∈ entries) : find? key entries = some value := by
  induction entries with
  | nil => cases h
  | cons e rest ih =>
    rw [List.map_cons, List.nodup_cons] at hkeys
    rcases List.mem_cons.1 h with rfl | h
    · exact if_pos rfl
    · have hne : e.1 ≠ key := fun heq => hkeys.1 (heq ▸ List.mem_map_of_mem h)
      exact (if_neg hne).trans (ih hkeys.2 h)

end SourceAtlas.Association
