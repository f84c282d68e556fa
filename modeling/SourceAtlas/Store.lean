import SourceAtlas.Payload
import SourceAtlas.Text.Utf8

/-!
The cache store: a table from paths to the fingerprint of a file's content and the chunks extracted from
it. The rows are kept in the order of their keys, each key once; a directory's rows lie in one stretch of
this order, together with others that merely begin alike.
-/

namespace SourceAtlas

/-- One row of a store. -/
structure Row where
  key : Text
  fingerprint : Text
  payload : Text
deriving DecidableEq, Repr

/-- Rows in ascending order of their keys. -/
structure Store where
  rows : List Row
  ascending : rows.Pairwise fun a b => a.key < b.key

namespace Store

/-! ## Keys -/

/-- The stored form of a path: surrogates are spelt out, since a key must be encodable. -/
def storageKey (path : Text) : Text := Utf8.spellSurrogates path

/-- What stands between the names in a key. -/
def separator : CodePoint := '/'

/-- A directory without the separators at its end, unless it consists of nothing else. -/
def directoryStem (directory : Text) : Text :=
  let stem := Text.dropEndWhile (· == separator) directory
  if stem.isEmpty then directory else stem

/-- Does a key that begins with `stem` lie in the directory of that name? -/
def liesUnder (stem key : Text) : Bool :=
  key = stem || stem.getLast? = some separator || key[stem.length]? = some separator

/-! ## The table -/

/-- The store without rows. -/
def empty : Store := ⟨[], .nil⟩

instance : Inhabited Store := ⟨empty⟩

/-- Puts a row in its place among ascending rows, instead of the one with its key if there is one. -/
def insertRow (row : Row) : List Row → List Row
  | [] => [row]
  | r :: rest =>
    if row.key < r.key then row :: r :: rest
    else if row.key = r.key then row :: rest
    else r :: insertRow row rest

theorem mem_insertRow {row r : Row} {rows : List Row} (h : r ∈ insertRow row rows) :
    r = row ∨ r ∈ rows := by
  induction rows with
  | nil => simpa [insertRow] using h
  | cons s rest ih =>
    unfold insertRow at h
    split at h
    · simpa using h
    · split at h
      · rcases List.mem_cons.1 h with h | h
        · exact .inl h
        · exact .inr (List.mem_cons_of_mem s h)
      · rcases List.mem_cons.1 h with h | h
        · exact .inr (h ▸ List.mem_cons_self)
        · exact (ih h).imp id (List.mem_cons_of_mem s)

theorem insertRow_ascending (row : Row) {rows : List Row}
    (h : rows.Pairwise fun a b => a.key < b.key) :
    (insertRow row rows).Pairwise fun a b => a.key < b.key := by
  induction rows with
  | nil => simp [insertRow]
  | cons r rest ih =>
    obtain ⟨hr, hrest⟩ := List.pairwise_cons.1 h
    unfold insertRow
    split
    · next lt =>
      refine List.pairwise_cons.2 ⟨fun s hs => ?_, h⟩
      rcases List.mem_cons.1 hs with rfl | hs
      · exact lt
      · exact List.lt_trans lt (hr s hs)
    · split
      · next eq => exact List.pairwise_cons.2 ⟨fun s hs => eq ▸ hr s hs, hrest⟩
      · next not_lt not_eq =>
        refine List.pairwise_cons.2 ⟨fun s hs => ?_, ih hrest⟩
        rcases mem_insertRow hs with rfl | hs
        · rcases Std.Trichotomous.rel_or_eq_or_rel_swap (r := fun a b : Text => a < b)
            (a := s.key) (b := r.key) with h | h | h
          · exact absurd h not_lt
          · exact absurd h not_eq
          · exact h
        · exact hr s hs

/-- Sets a row, replacing the one with its key. -/
def insert (s : Store) (row : Row) : Store := ⟨insertRow row s.rows, insertRow_ascending row s.ascending⟩

/-- The row of a stored key. -/
def row? (s : Store) (key : Text) : Option Row := s.rows.find? (·.key = key)

/-- The number of rows. -/
def count (s : Store) : Nat := s.rows.length

/-- The rows that a test keeps. -/
def filter (s : Store) (keep : Row → Bool) : Store := ⟨s.rows.filter keep, s.ascending.filter keep⟩

/-! ## Entries -/

/-- What a store holds for a path: nothing, a row whose payload cannot be read, or an entry. -/
inductive Finding where
  | missing
  | unreadable (payload : Text) (fault : Payload.Fault)
  | entry (fingerprint : Text) (chunks : List Chunk)

/-- Looks a path up. -/
def get (s : Store) (path : Text) : Finding :=
  match s.row? (storageKey path) with
  | none => .missing
  | some row => match Payload.read row.payload with
    | .error fault => .unreadable row.payload fault
    | .ok chunks => .entry row.fingerprint chunks

/-- The chunks of a finding, provided that its fingerprint is the given one. -/
def Finding.chunksFor? (fingerprint : Text) : Finding → Option (List Chunk)
  | .entry f chunks => if f = fingerprint then some chunks else none
  | _ => none

/-- The chunks stored for a path under a fingerprint. -/
def lookup (s : Store) (path fingerprint : Text) : Option (List Chunk) :=
  (s.get path).chunksFor? fingerprint

/-- Stores the chunks of a path whole, under a fingerprint that can be stored; the last put wins. -/
def put (s : Store) (path fingerprint : Text) (chunks : List Chunk) : Store :=
  s.insert ⟨storageKey path, fingerprint, Payload.write chunks⟩

/-- Stores the chunks of a path under any fingerprint; one with surrogates is refused, and the store stays as it is. -/
def enter (s : Store) (path fingerprint : Text) (chunks : List Chunk) : Except Utf8.EncodeError Store := do
  let _ ← Utf8.encode fingerprint
  return s.put path fingerprint chunks

/-! ## Clearing -/

/-- The stretch of rows from a stem on, up to the first key that begins otherwise. -/
def stretch (s : Store) (stem : Text) : List Row :=
  (s.rows.dropWhile fun r => r.key < stem).takeWhile fun r => Text.beginsWith stem r.key

/-- The rows that lie in a directory: of the stretch that begins at its stem, those at the end of a path
component. -/
def rowsUnder (s : Store) (stem : Text) : List Row := (s.stretch stem).filter fun r => liesUnder stem r.key

/-- Removes every row in a directory and says how many there were. -/
def clearUnder (s : Store) (directory : Text) : Store × Nat :=
  let doomed := s.rowsUnder (storageKey (directoryStem directory))
  (s.filter fun r => !(doomed.map Row.key).contains r.key, doomed.length)

/-- Removes every row and says how many there were. -/
def clear (s : Store) : Store × Nat := (empty, s.count)

end Store

end SourceAtlas
