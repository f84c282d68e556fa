import Mathlib.Data.Finset.Card
import SourceAtlas.Proofs.Store.Keys
import SourceAtlas.Proofs.Store.Table
import SourceAtlas.Proofs.Text.Encodable

/-!
The store as a finite map. Puts and clears come one after another on a store that is empty at first. What is
found for a path is what the last put under its stored form has left, unless a clear has come since. A put whose
fingerprint cannot be stored is refused and leaves everything as it is. The store is a map over the paths themselves
as far as no spelling of a surrogate occurs in them. Whatever is put and cleared, it is one at the paths that share
their stored forms with no other.

Main statement: `replay_refines_mapping`.
-/

namespace SourceAtlas.Store

/-! ## Operations -/

/-- What may be put under a path; it is refused if its fingerprint cannot be encoded. -/
structure Entry where
  fingerprint : Text
  chunks : List Chunk
  wellTyped : ∀ c ∈ chunks, c.WellTyped

/-- What changes a store. -/
inductive Operation where
  | put (path : Text) (entry : Entry)
  | clear
  | clearUnder (directory : Text)

/-- The path or the directory that an operation is about. -/
def Operation.subject? : Operation → Option Text
  | .put path _ => some path
  | .clear => none
  | .clearUnder directory => some directory

/-- The path that something is put under. -/
def Operation.putPath? : Operation → Option Text
  | .put path _ => some path
  | .clear => none
  | .clearUnder _ => none

/-- What an operation makes of a store. -/
def Operation.apply (s : Store) : Operation → Store
  | .put path entry => (s.enter path entry.fingerprint entry.chunks).toOption.getD s
  | .clear => s.clear.1
  | .clearUnder directory => (s.clearUnder directory).1

/-- The store that operations leave when it is empty at first. -/
def replay (ops : List Operation) : Store := ops.foldl Operation.apply .empty

/-! ## Maps -/

/-- What an operation makes of a map whose keys are the paths in some form. -/
def Operation.update (form : Text → Text) (m : Text → Option Entry) (o : Operation) (key : Text) :
    Option Entry :=
  match o with
  | .put path entry => if entry.fingerprint.IsEncodable ∧ form path = key then some entry else m key
  | .clear => none
  | .clearUnder directory => if InDirectory (form (directoryStem directory)) key then none else m key

/-- The map that operations leave when it is empty at first. -/
def mapping (form : Text → Text) (ops : List Operation) : Text → Option Entry :=
  ops.foldl (Operation.update form) fun _ => none

/-- The keys that lead to something. -/
def liveKeys (form : Text → Text) (ops : List Operation) : Finset Text :=
  ((ops.filterMap Operation.putPath?).map form).toFinset.filter fun key => (mapping form ops key).isSome

/-- What is found for a path that leads to an entry or to nothing. Stored chunks come back with the pairs in
their strings joined. -/
def found : Option Entry → Finding
  | none => .missing
  | some entry => .entry entry.fingerprint (entry.chunks.map Chunk.joined)

/-- Does an operation set or remove what a key leads to? -/
def Operation.Touches (form : Text → Text) (key : Text) : Operation → Prop
  | .put path entry => entry.fingerprint.IsEncodable ∧ form path = key
  | .clear => True
  | .clearUnder directory => InDirectory (form (directoryStem directory)) key

variable {form : Text → Text} {ops : List Operation}

/-- What a key leads to has just been put, or has been there and was not touched. -/
theorem Operation.update_eq_some_iff {m : Text → Option Entry} {o : Operation} {key : Text} {entry : Entry} :
    o.update form m key = some entry
      ↔ (∃ path, o = .put path entry ∧ entry.fingerprint.IsEncodable ∧ form path = key)
        ∨ ¬ o.Touches form key ∧ m key = some entry := by
  cases o with
  | put path other =>
    by_cases h : other.fingerprint.IsEncodable ∧ form path = key
    · rw [update, if_pos h]
      constructor
      · intro heq
        obtain rfl := Option.some.inj heq
        exact .inl ⟨path, rfl, h⟩
      · rintro (⟨_, heq, -⟩ | ⟨htouches, -⟩)
        · rw [(Operation.put.inj heq).2]
        · exact absurd h htouches
    · rw [update, if_neg h]
      constructor
      · exact fun hm => .inr ⟨h, hm⟩
      · rintro (⟨_, heq, hput⟩ | ⟨-, hm⟩)
        · obtain ⟨rfl, rfl⟩ := Operation.put.inj heq
          exact absurd hput h
        · exact hm
  | clear => simp [update, Touches]
  | clearUnder directory =>
    by_cases h : InDirectory (form (directoryStem directory)) key
    · simp [update, Touches, h]
    · simp [update, Touches, h]

theorem mapping_append_singleton (form : Text → Text) (ops : List Operation) (o : Operation) :
    mapping form (ops ++ [o]) = o.update form (mapping form ops) := by
  rw [mapping, List.foldl_concat, mapping]

/-- A key leads to what the last put under it has left that was not refused, if no clear of the key has come since. -/
theorem mapping_eq_some_iff {key : Text} {entry : Entry} :
    mapping form ops key = some entry
      ↔ ∃ before path after, ops = before ++ .put path entry :: after
        ∧ (entry.fingerprint.IsEncodable ∧ form path = key) ∧ ∀ o ∈ after, ¬ o.Touches form key := by
  induction ops using List.reverseRecOn with
  | nil => simp [mapping]
  | append_singleton ops o ih =>
    rw [mapping_append_singleton, Operation.update_eq_some_iff, ih]
    constructor
    · rintro (⟨path, rfl, hpath⟩ | ⟨hlast, before, path, after, rfl, hpath, hafter⟩)
      · exact ⟨ops, path, [], rfl, hpath, fun o ho => nomatch ho⟩
      · refine ⟨before, path, after ++ [o], by simp, hpath, ?_⟩
        intro other hother
        rcases List.mem_append.1 hother with hother | hother
        · exact hafter other hother
        · rwa [List.mem_singleton.1 hother]
    · rintro ⟨before, path, after, hops, hpath, hafter⟩
      -- the put is the last operation, or the last operation is one of those behind it
      rcases List.eq_nil_or_concat after with rfl | ⟨after, last, rfl⟩
      · obtain ⟨-, hput⟩ := List.append_inj' hops rfl
        exact .inl ⟨path, (List.cons.inj hput).1, hpath⟩
      · rw [List.concat_eq_append, ← List.cons_append, ← List.append_assoc] at hops
        obtain ⟨hfront, hlast⟩ := List.append_inj' hops rfl
        rw [(List.cons.inj hlast).1]
        rw [List.concat_eq_append, List.forall_mem_append, List.forall_mem_singleton] at hafter
        exact .inr ⟨hafter.2, before, path, after, hfront, hpath, hafter.1⟩

/-- Two maps agree on two keys that are touched by the same operations. -/
theorem mapping_congr {other : Text → Text} {key key' : Text}
    (h : ∀ o ∈ ops, o.Touches form key ↔ o.Touches other key') : mapping form ops key = mapping other ops key' := by
  induction ops using List.reverseRecOn with
  | nil => rfl
  | append_singleton ops o ih =>
    rw [List.forall_mem_append, List.forall_mem_singleton] at h
    obtain ⟨hfront, hlast⟩ := h
    rw [mapping_append_singleton, mapping_append_singleton]
    cases o with
    | put path entry => exact if_congr hlast rfl (ih hfront)
    | clear => rfl
    | clearUnder directory => exact if_congr hlast rfl (ih hfront)

/-- The live keys are those that lead to something. -/
theorem mem_liveKeys {key : Text} : key ∈ liveKeys form ops ↔ (mapping form ops key).isSome = true := by
  rw [liveKeys, Finset.mem_filter, and_iff_right_iff_imp, Option.isSome_iff_exists]
  rintro ⟨entry, hentry⟩
  obtain ⟨before, path, after, rfl, ⟨-, rfl⟩, -⟩ := mapping_eq_some_iff.1 hentry
  simp [Operation.putPath?]

/-! ## The store behind a map -/

/-- The rows of a store are those of the entries that keys lead to. -/
def Mirrors (s : Store) (m : Text → Option Entry) : Prop :=
  ∀ key, s.row? key = (m key).map fun entry => ⟨key, entry.fingerprint, Payload.write entry.chunks⟩

/-- A put is done if its fingerprint can be encoded, and is refused otherwise. -/
theorem toOption_enter (s : Store) (path fingerprint : Text) (chunks : List Chunk) :
    (s.enter path fingerprint chunks).toOption
      = if fingerprint.IsEncodable then some (s.put path fingerprint chunks) else none := by
  have encodes : (∃ bytes, Utf8.encode fingerprint = .ok bytes) ↔ fingerprint.IsEncodable := Utf8.exists_encode_iff
  unfold enter
  cases hencode : Utf8.encode fingerprint with
  | ok bytes =>
    rw [if_pos (encodes.1 ⟨bytes, hencode⟩)]
    rfl
  | error e =>
    have refused : ¬ fingerprint.IsEncodable := by
      rw [← encodes, hencode]
      rintro ⟨bytes, hbytes⟩
      cases hbytes
    rw [if_neg refused]
    rfl

/-- One operation does the same to the store and to the map of stored forms. -/
theorem Mirrors.apply {s : Store} {m : Text → Option Entry} (h : Mirrors s m) (o : Operation) :
    Mirrors (o.apply s) (o.update storageKey m) := by
  intro key
  cases o with
  | put path entry =>
    rw [Operation.apply, toOption_enter, Operation.update]
    by_cases hput : entry.fingerprint.IsEncodable
    · rw [if_pos hput, Option.getD_some]
      by_cases hkey : storageKey path = key
      · rw [if_pos ⟨hput, hkey⟩, ← hkey]
        exact row?_put_self s path entry.fingerprint entry.chunks
      · rw [if_neg fun touched => hkey touched.2, ← h key]
        exact row?_put_of_ne (Ne.symm hkey) s entry.fingerprint entry.chunks
    · rw [if_neg hput, Option.getD_none, if_neg fun touched => hput touched.1]
      exact h key
  | clear => rfl
  | clearUnder directory =>
    rw [Operation.apply, row?_clearUnder, Operation.update]
    split
    · rfl
    · exact h key

/-- So do operations one after another. -/
theorem mirrors_replay (ops : List Operation) : Mirrors (replay ops) (mapping storageKey ops) := by
  induction ops using List.reverseRecOn with
  | nil => exact fun key => rfl
  | append_singleton ops o ih =>
    have last : replay (ops ++ [o]) = o.apply (replay ops) := by rw [replay, List.foldl_concat, replay]
    rw [last, mapping_append_singleton]
    exact ih.apply o

/-- What is found for a path is what its stored form leads to. -/
theorem Mirrors.get_eq {s : Store} {m : Text → Option Entry} (h : Mirrors s m) (path : Text) :
    s.get path = found (m (storageKey path)) := by
  have row := h (storageKey path)
  cases hm : m (storageKey path) with
  | none =>
    rw [hm] at row
    rw [get, row]
    rfl
  | some entry =>
    rw [hm] at row
    exact get_eq_entry_iff.2 ⟨Payload.write entry.chunks, row, Payload.read_write entry.wellTyped⟩

/-- There are as many rows as stored forms that lead to something. -/
theorem replay_count (ops : List Operation) : (replay ops).count = (liveKeys storageKey ops).card := by
  have keys : ((replay ops).rows.map Row.key).toFinset = liveKeys storageKey ops := by
    ext key
    have row := mirrors_replay ops key
    rw [List.mem_toFinset, mem_liveKeys, List.mem_map]
    constructor
    · rintro ⟨r, hr, rfl⟩
      rw [mem_rows_iff.1 hr] at row
      rw [← Option.isSome_map, ← row]
      rfl
    · intro hsome
      obtain ⟨entry, hentry⟩ := Option.isSome_iff_exists.1 hsome
      rw [hentry] at row
      exact ⟨_, mem_of_row?_eq_some row⟩
  rw [← keys, List.toFinset_card_of_nodup (nodup_keys _), List.length_map]
  rfl

/-! ## Paths and their stored forms -/

/-- Among paths without spelt surrogates the stored forms do not show. -/
theorem mapping_storageKey (h : ∀ o ∈ ops, ∀ t ∈ o.subject?, Utf8.SpellsNone t) {path : Text}
    (hpath : Utf8.SpellsNone path) : mapping storageKey ops (storageKey path) = mapping id ops path := by
  refine mapping_congr fun o ho => ?_
  cases o with
  | put other entry => exact and_congr_right fun _ => storageKey_eq_iff (h _ ho other rfl) hpath
  | clear => exact Iff.rfl
  | clearUnder directory =>
    have stem : Utf8.SpellsNone (directoryStem directory) :=
      (h _ ho directory rfl).of_isInfix (isPrefix_directoryStem directory).isInfix
    exact inDirectory_storageKey_iff stem hpath

/-- A path whose stored form no other path has is told apart by it, whatever the operations are about. -/
theorem mapping_storageKey_of_unique {path : Text} (h : ∀ other, storageKey other = storageKey path → other = path)
    (ops : List Operation) : mapping storageKey ops (storageKey path) = mapping id ops path := by
  refine mapping_congr fun o _ => ?_
  cases o with
  | put other entry => exact and_congr_right fun _ => ⟨h other, congrArg storageKey⟩
  | clear => exact Iff.rfl
  | clearUnder directory => exact inDirectory_storageKey_iff_of_unique h

/-- Without spelt surrogates there are as many paths as stored forms that do. -/
theorem card_liveKeys (h : ∀ o ∈ ops, ∀ t ∈ o.subject?, Utf8.SpellsNone t) :
    (liveKeys storageKey ops).card = (liveKeys id ops).card := by
  -- what is live has been put
  have put : ∀ {form key entry}, mapping form ops key = some entry →
      ∃ path, Utf8.SpellsNone path ∧ form path = key := by
    intro form key entry hentry
    obtain ⟨before, path, after, rfl, ⟨-, hpath⟩, -⟩ := mapping_eq_some_iff.1 hentry
    exact ⟨path, h (.put path entry) (by simp) path rfl, hpath⟩
  have live : ∀ {path}, Utf8.SpellsNone path →
      (storageKey path ∈ liveKeys storageKey ops ↔ path ∈ liveKeys id ops) := by
    intro path hpath
    rw [mem_liveKeys, mem_liveKeys, mapping_storageKey h hpath]
  have plain : ∀ path ∈ liveKeys id ops, Utf8.SpellsNone path := by
    intro path hlive
    obtain ⟨entry, hentry⟩ := Option.isSome_iff_exists.1 (mem_liveKeys.1 hlive)
    obtain ⟨_, hplain, rfl⟩ := put hentry
    exact hplain
  have image : liveKeys storageKey ops = (liveKeys id ops).image storageKey := by
    ext key
    rw [Finset.mem_image]
    constructor
    · intro hlive
      obtain ⟨entry, hentry⟩ := Option.isSome_iff_exists.1 (mem_liveKeys.1 hlive)
      obtain ⟨path, hplain, rfl⟩ := put hentry
      exact ⟨path, (live hplain).1 hlive, rfl⟩
    · rintro ⟨path, hlive, rfl⟩
      exact (live (plain path hlive)).2 hlive
  rw [image, Finset.card_image_of_injOn]
  intro path hpath other hother heq
  exact (storageKey_eq_iff (plain path hpath) (plain other hother)).1 heq

/-- The store is a finite map over stored forms: after any operations a path is found with what its stored
form leads to, and there are as many rows as stored forms that lead to something. Where no operation names a
path with a spelt surrogate it is a finite map over the paths themselves. Whatever the operations name, it is
one at a path exactly if no other path has the same stored form. -/
theorem replay_refines_mapping (ops : List Operation) (path : Text) :
    (replay ops).get path = found (mapping storageKey ops (storageKey path))
      ∧ (replay ops).count = (liveKeys storageKey ops).card
      ∧ ((∀ o ∈ ops, ∀ t ∈ o.subject?, Utf8.SpellsNone t) →
        (Utf8.SpellsNone path → (replay ops).get path = found (mapping id ops path))
          ∧ (replay ops).count = (liveKeys id ops).card)
      ∧ ((∀ any, (replay any).get path = found (mapping id any path))
        ↔ ∀ other, storageKey other = storageKey path → other = path) := by
  refine ⟨(mirrors_replay ops).get_eq path, replay_count ops, fun h => ⟨fun hpath => ?_, ?_⟩, ?_⟩
  · rw [(mirrors_replay ops).get_eq, mapping_storageKey h hpath]
  · rw [replay_count, card_liveKeys h]
  constructor
  · intro h other hother
    by_contra hne
    -- what is put under the other path is found for this one
    have put := h [.put other ⟨[], [], nofun⟩]
    rw [(mirrors_replay _).get_eq] at put
    have stored : mapping storageKey [.put other ⟨[], [], nofun⟩] (storageKey path) = some ⟨[], [], nofun⟩ :=
      if_pos ⟨nofun, hother⟩
    have own : mapping id [.put other ⟨[], [], nofun⟩] path = none := if_neg fun touched => hne touched.2
    rw [stored, own] at put
    cases put
  · intro h any
    rw [(mirrors_replay any).get_eq, mapping_storageKey_of_unique h]

/-- A name with an undecodable byte is told apart from others, a cleared path leads to nothing, and the name that
is written as the byte is spelt shares a row. -/
theorem replay_refines_mapping_of_undecodable :
    let undecodable : Text := ("/r/a" : Text) ++ [CodePoint.ofNat 0xDCE9]
    let ops : List Operation := [.put undecodable ⟨"1", [], nofun⟩, .put "/r/b/x" ⟨"2", [], nofun⟩,
      .put "/r/bc" ⟨"3", [], nofun⟩, .put undecodable ⟨"4", [], nofun⟩, .clearUnder "/r/b/"]
    (∀ o ∈ ops, ∀ t ∈ o.subject?, Utf8.SpellsNone t)
      ∧ (replay ops).get undecodable = .entry "4" [] ∧ (replay ops).get "/r/b/x" = .missing
      ∧ (replay ops).get "/r/bc" = .entry "3" [] ∧ (replay ops).count = 2
      ∧ ¬ ∀ any, (replay any).get "/r/a\\udce9" = found (mapping id any "/r/a\\udce9") := by
  intro undecodable ops
  have plain : ∀ t ∈ ops.filterMap Operation.subject?, Utf8.SpellsNone t := by
    intro t ht
    refine Utf8.spellsNone_of_not_mem ?_
    revert t
    decide
  have subjects : ∀ o ∈ ops, ∀ t ∈ o.subject?, Utf8.SpellsNone t :=
    fun o ho t ht => plain t (List.mem_filterMap.2 ⟨o, ho, ht⟩)
  have among := fun path hpath => ((replay_refines_mapping ops path).2.2.1 subjects).1 hpath
  refine ⟨subjects, ?_, ?_, ?_, ?_, fun hall => ?_⟩
  · rw [among undecodable (plain _ (by simp [ops, Operation.subject?]))]
    rfl
  · rw [among "/r/b/x" (plain _ (by simp [ops, Operation.subject?]))]
    rfl
  · rw [among "/r/bc" (plain _ (by simp [ops, Operation.subject?]))]
    rfl
  · rw [((replay_refines_mapping ops []).2.2.1 subjects).2]
    decide
  · have unique := (replay_refines_mapping [] "/r/a\\udce9").2.2.2.1 hall
    exact absurd (unique undecodable (by decide)) (by decide)

end SourceAtlas.Store
