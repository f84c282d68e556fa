import SourceAtlas.Proofs.Json.Strings

/-!
Reading back written values. A value without numbers comes back as it was, but for the pairs of surrogates in
its strings, which are joined. Nothing is lost on the way: items keep their order, and members keep theirs as
long as no two names become one.

Main statement: `read_write`.
-/

namespace SourceAtlas.Json

/-! ## Values with joined pairs -/

mutual

/-- A value with the pairs in its strings joined. -/
def joined : Json → Json
  | .string t => .string (joinPairs t)
  | .array items => .array (joinedItems items)
  | .object members => .object (joinedMembers members)
  | v => v

/-- Items with the pairs in their strings joined. -/
def joinedItems : List Json → List Json
  | [] => []
  | v :: rest => joined v :: joinedItems rest

/-- Members with the pairs in their names and strings joined. -/
def joinedMembers : List (Text × Json) → List (Text × Json)
  | [] => []
  | (name, v) :: rest => (joinPairs name, joined v) :: joinedMembers rest

end

mutual

/-- A value holds no number, and no object in it has two names that become one when pairs are joined. -/
def IsTextual : Json → Prop
  | .number _ => False
  | .array items => AreTextual items
  | .object members => ((joinedMembers members).map Prod.fst).Nodup ∧ HoldTextual members
  | _ => True

/-- All items are textual. -/
def AreTextual : List Json → Prop
  | [] => True
  | v :: rest => IsTextual v ∧ AreTextual rest

/-- The values of all members are textual. -/
def HoldTextual : List (Text × Json) → Prop
  | [] => True
  | (_, v) :: rest => IsTextual v ∧ HoldTextual rest

end

/-! ## Cursors -/

/-- A text that does not begin with a blank. -/
def StartsSolid (t : Text) : Prop := ∃ c rest, t = c :: rest ∧ isSpace c = false

/-- There is no space in front of a solid text. -/
theorem skipSpace_solid {position : Nat} {t : Text} (h : StartsSolid t) :
    Cursor.skipSpace ⟨position, t⟩ = ⟨position, t⟩ := by
  obtain ⟨c, rest, rfl, hc⟩ := h
  simp [Cursor.skipSpace, Cursor.skip, hc]

/-- A single blank in front of a solid text is skipped. -/
theorem skipSpace_blank {position : Nat} {t : Text} (h : StartsSolid t) :
    Cursor.skipSpace ⟨position, (' ' : CodePoint) :: t⟩ = ⟨position + 1, t⟩ := by
  obtain ⟨c, rest, rfl, hc⟩ := h
  have blank : isSpace (' ' : CodePoint) = true := by decide
  simp [Cursor.skipSpace, Cursor.skip, hc, blank]

/-- A written value begins with an ASCII character that is no blank and closes no array. -/
theorem exists_write_eq_cons {v : Json} (hv : v.IsTextual) :
    ∃ c t, write v = c :: t ∧ isSpace c = false ∧ c ≠ ']' ∧ c.val < 128 := by
  cases v with
  | null => exact ⟨'n', _, rfl, by decide, by decide, by decide⟩
  | bool b =>
    cases b
    · exact ⟨'f', _, rfl, by decide, by decide, by decide⟩
    · exact ⟨'t', _, rfl, by decide, by decide, by decide⟩
  | number n => exact hv.elim
  | string t => exact ⟨'"', _, rfl, by decide, by decide, by decide⟩
  | array items => exact ⟨'[', _, rfl, by decide, by decide, by decide⟩
  | object members => exact ⟨'\x7b', _, rfl, by decide, by decide, by decide⟩

/-- What is written of a value begins with something solid. -/
theorem startsSolid_write {v : Json} (hv : v.IsTextual) (rest : Text) : StartsSolid (write v ++ rest) := by
  obtain ⟨c, t, hwrite, hc, -, -⟩ := exists_write_eq_cons hv
  rw [hwrite]
  exact ⟨c, t ++ rest, rfl, hc⟩

/-- Something is written of every value. -/
theorem length_write_pos {v : Json} (hv : v.IsTextual) : 0 < (write v).length := by
  obtain ⟨c, t, hwrite, -, -, -⟩ := exists_write_eq_cons hv
  simp [hwrite]

/-! ## Words and strings -/

/-- A word that stands for a value is read as it. -/
theorem readValue_word {fuel position : Nat} {first : CodePoint} {word rest : Text} {v : Json}
    (hquote : first ≠ '"') (hbracket : first ≠ '[') (hbrace : first ≠ '\x7b')
    (h : readWord? ⟨position, (first :: word) ++ rest⟩
      = some (v, ⟨position + (first :: word).length, rest⟩)) :
    readValue (fuel + 1) ⟨position, (first :: word) ++ rest⟩
      = .ok (v, ⟨position + (first :: word).length, rest⟩) := by
  rw [readValue]
  simp only [List.cons_append] at h ⊢
  rw [if_neg hquote, if_neg hbracket, if_neg hbrace, h]

theorem readValue_null {fuel position : Nat} {rest : Text} :
    readValue (fuel + 1) ⟨position, write .null ++ rest⟩
      = .ok (.null, ⟨position + (write .null).length, rest⟩) :=
  readValue_word (by decide) (by decide) (by decide) rfl

theorem readValue_bool {fuel position : Nat} {rest : Text} (b : Bool) :
    readValue (fuel + 1) ⟨position, write (.bool b) ++ rest⟩
      = .ok (.bool b, ⟨position + (write (.bool b)).length, rest⟩) := by
  cases b
  · exact readValue_word (by decide) (by decide) (by decide) rfl
  · exact readValue_word (by decide) (by decide) (by decide) rfl

theorem writeString_append (t rest : Text) :
    writeString t ++ rest = ('"' : CodePoint) :: (t.flatMap writeChar ++ ('"' : CodePoint) :: rest) := by
  simp [writeString, Text.ofString]

/-- A string is read back with its pairs joined. -/
theorem readValue_string {fuel position : Nat} {rest : Text} (t : Text) :
    readValue (fuel + 1) ⟨position, writeString t ++ rest⟩
      = .ok (.string (joinPairs t), ⟨position + (writeString t).length, rest⟩) := by
  rw [writeString_append, readValue]
  dsimp only
  rw [if_pos rfl, readString_writeString]
  rfl

/-! ## Arrays and objects -/

/-- Items are written with a comma and a blank between them. -/
theorem writeItems_cons_cons (v w : Json) (more : List Json) :
    writeItems (v :: w :: more) = write v ++ (',' : CodePoint) :: (' ' : CodePoint) :: writeItems (w :: more) := by
  rw [writeItems]
  simp [Text.ofString]

/-- Written items go on solidly: the first of them starts the text. -/
theorem writeItems_eq_write_append (v : Json) (more : List Json) :
    ∃ t, writeItems (v :: more) = write v ++ t := by
  cases more with
  | nil => exact ⟨[], by rw [writeItems, List.append_nil]⟩
  | cons w more => exact ⟨_, writeItems_cons_cons v w more⟩

/-- A member is written with a colon and a blank behind its name. -/
theorem writeMembers_singleton (k : Text) (v : Json) :
    writeMembers [(k, v)] = writeString k ++ (':' : CodePoint) :: (' ' : CodePoint) :: write v := by
  rw [writeMembers]
  simp [Text.ofString]

theorem writeMembers_cons_cons (k : Text) (v : Json) (m : Text × Json) (more : List (Text × Json)) :
    writeMembers ((k, v) :: m :: more) = writeString k ++ (':' : CodePoint) :: (' ' : CodePoint)
      :: (write v ++ (',' : CodePoint) :: (' ' : CodePoint) :: writeMembers (m :: more)) := by
  rw [writeMembers]
  simp [Text.ofString]

/-! ### Steps of the reader -/

section

variable {fuel position p : Nat} {c : Cursor} {v : Json} {t rest : Text}

/-- Behind the last item the array is closed. -/
theorem readItems_last {done : List Json} (h : readValue fuel c = .ok (v, ⟨p, (']' : CodePoint) :: rest⟩)) :
    readItems (fuel + 1) done c = .ok ((v :: done).reverse, ⟨p + 1, rest⟩) := by
  rw [readItems, h]
  rfl

/-- Behind a comma and a blank there are further items. -/
theorem readItems_more {done : List Json} (ht : StartsSolid t)
    (h : readValue fuel c = .ok (v, ⟨p, (',' : CodePoint) :: (' ' : CodePoint) :: t⟩)) :
    readItems (fuel + 1) done c = readItems fuel (v :: done) ⟨p + 2, t⟩ := by
  rw [readItems, h]
  exact congrArg (readItems fuel (v :: done)) (skipSpace_blank ht)

/-- The name of a member, and the way to its value. -/
theorem readMembers_name {done : List (Text × Json)} (name : Text) (ht : StartsSolid t)
    (h : readValue fuel ⟨position + (writeString name).length + 2, t⟩ = .ok (v, c)) :
    readMembers (fuel + 1) done ⟨position, writeString name ++ (':' : CodePoint) :: (' ' : CodePoint) :: t⟩
      = (let after := c.skipSpace
        let members := Association.set (joinPairs name) v done
        if after.rest.head? = some ('\x7d' : CodePoint) then .ok (members, after.skip 1)
        else if after.rest.head? = some (',' : CodePoint) then
          readMembers fuel members (after.skip 1).skipSpace
        else after.fault .noComma) := by
  rw [writeString_append, readMembers]
  refine (if_pos rfl).trans ?_
  simp only [List.drop_one, List.tail_cons]
  rw [readString_writeString]
  dsimp only [bind, Except.bind]
  refine (if_pos rfl).trans ?_
  have value : (Cursor.skip 1 (Cursor.skipSpace ⟨position + (writeString name).length,
      (':' : CodePoint) :: (' ' : CodePoint) :: t⟩)).skipSpace
      = ⟨position + (writeString name).length + 2, t⟩ := skipSpace_blank ht
  rw [value, h]
  rfl

/-- Behind the last member the object is closed. -/
theorem readMembers_last {done : List (Text × Json)} (name : Text) (ht : StartsSolid t)
    (h : readValue fuel ⟨position + (writeString name).length + 2, t⟩
      = .ok (v, ⟨p, ('\x7d' : CodePoint) :: rest⟩)) :
    readMembers (fuel + 1) done ⟨position, writeString name ++ (':' : CodePoint) :: (' ' : CodePoint) :: t⟩
      = .ok (Association.set (joinPairs name) v done, ⟨p + 1, rest⟩) :=
  (readMembers_name name ht h).trans rfl

/-- Behind a comma and a blank there are further members. -/
theorem readMembers_more {done : List (Text × Json)} {more : Text} (name : Text) (ht : StartsSolid t)
    (hmore : StartsSolid more)
    (h : readValue fuel ⟨position + (writeString name).length + 2, t⟩
      = .ok (v, ⟨p, (',' : CodePoint) :: (' ' : CodePoint) :: more⟩)) :
    readMembers (fuel + 1) done ⟨position, writeString name ++ (':' : CodePoint) :: (' ' : CodePoint) :: t⟩
      = readMembers fuel (Association.set (joinPairs name) v done) ⟨p + 2, more⟩ :=
  (readMembers_name name ht h).trans
    (congrArg (readMembers fuel (Association.set (joinPairs name) v done)) (skipSpace_blank hmore))

/-- An array with items is read as these. -/
theorem readValue_array (ht : StartsSolid t) (hnot : t.head? ≠ some (']' : CodePoint)) {items : List Json}
    (h : readItems fuel [] ⟨position + 1, t⟩ = .ok (items, c)) :
    readValue (fuel + 1) ⟨position, ('[' : CodePoint) :: t⟩ = .ok (.array items, c) := by
  have inside : (Cursor.skip 1 ⟨position, ('[' : CodePoint) :: t⟩).skipSpace = ⟨position + 1, t⟩ :=
    skipSpace_solid ht
  rw [readValue]
  dsimp only
  rw [if_neg (by decide), if_pos rfl, inside]
  refine (if_neg hnot).trans ?_
  rw [h]
  rfl

/-- An object with members is read as these. -/
theorem readValue_object (ht : StartsSolid t) (hnot : t.head? ≠ some ('\x7d' : CodePoint))
    {members : List (Text × Json)} (h : readMembers fuel [] ⟨position + 1, t⟩ = .ok (members, c)) :
    readValue (fuel + 1) ⟨position, ('\x7b' : CodePoint) :: t⟩ = .ok (.object members, c) := by
  have inside : (Cursor.skip 1 ⟨position, ('\x7b' : CodePoint) :: t⟩).skipSpace = ⟨position + 1, t⟩ :=
    skipSpace_solid ht
  rw [readValue]
  dsimp only
  rw [if_neg (by decide), if_neg (by decide), if_pos rfl, inside]
  refine (if_neg hnot).trans ?_
  rw [h]
  rfl

end

/-! ### Whole values -/

theorem writeItems_append (v : Json) (more : List Json) (rest : Text) :
    ∃ t, writeItems (v :: more) ++ rest = write v ++ t := by
  obtain ⟨t, ht⟩ := writeItems_eq_write_append v more
  exact ⟨t ++ rest, by rw [ht, List.append_assoc]⟩

/-- What is written of items begins with something solid. -/
theorem startsSolid_writeItems {v : Json} (hv : v.IsTextual) (more : List Json) (rest : Text) :
    StartsSolid (writeItems (v :: more) ++ rest) := by
  obtain ⟨t, ht⟩ := writeItems_append v more rest
  rw [ht]
  exact startsSolid_write hv t

/-- It does not begin with the end of the array. -/
theorem head?_writeItems_ne {v : Json} (hv : v.IsTextual) (more : List Json) (rest : Text) :
    (writeItems (v :: more) ++ rest).head? ≠ some (']' : CodePoint) := by
  obtain ⟨t, ht⟩ := writeItems_append v more rest
  obtain ⟨c, w, hwrite, -, hc, -⟩ := exists_write_eq_cons hv
  rw [ht, hwrite, List.cons_append, List.head?_cons]
  exact fun h => hc (Option.some.inj h)

/-- Written members begin with the quote of the first name. -/
theorem writeMembers_append (m : Text × Json) (more : List (Text × Json)) (rest : Text) :
    ∃ t, writeMembers (m :: more) ++ rest = ('"' : CodePoint) :: t := by
  cases more with
  | nil => exact ⟨_, by rw [writeMembers_singleton, List.append_assoc, writeString_append]⟩
  | cons n more => exact ⟨_, by rw [writeMembers_cons_cons, List.append_assoc, writeString_append]⟩

/-- A name that comes next is not among those before it if all are distinct. -/
theorem not_mem_of_nodup_append {done more : List (Text × Json)} {name : Text} {v : Json}
    (h : ((done ++ joinedMembers ((name, v) :: more)).map Prod.fst).Nodup) :
    joinPairs name ∉ done.map Prod.fst := by
  intro hmem
  rw [List.map_append, List.nodup_append] at h
  exact h.2.2 _ hmem _ List.mem_cons_self rfl

mutual

/-- A written value is read as the value with its pairs joined, whatever follows it. -/
theorem readValue_write (v : Json) (hv : v.IsTextual) {fuel position : Nat} {rest : Text}
    (hfuel : 2 * (write v).length ≤ fuel) :
    readValue fuel ⟨position, write v ++ rest⟩ = .ok (v.joined, ⟨position + (write v).length, rest⟩) := by
  have hpos := length_write_pos hv
  -- one unit of fuel goes to the value itself, one to each item; a bracket or comma pays for both
  obtain ⟨fuel, rfl⟩ := Nat.exists_eq_add_one_of_ne_zero (by omega : fuel ≠ 0)
  match v with
  | .null => exact readValue_null
  | .bool b => exact readValue_bool b
  | .number n => exact hv.elim
  | .string t => exact readValue_string t
  | .array [] => rfl
  | .array (w :: more) =>
    have length : (write (.array (w :: more))).length = (writeItems (w :: more)).length + 2 := by
      simp [write, Text.ofString]
    have text : write (.array (w :: more)) ++ rest
        = ('[' : CodePoint) :: (writeItems (w :: more) ++ (']' : CodePoint) :: rest) := by
      simp [write, Text.ofString]
    have items : readItems fuel []
        ⟨position + 1, writeItems (w :: more) ++ (']' : CodePoint) :: rest⟩ = .ok _ :=
      readItems_writeItems (w :: more) hv (List.cons_ne_nil w more) [] (by omega)
    rw [text, length, readValue_array (startsSolid_writeItems hv.1 more _)
      (head?_writeItems_ne hv.1 more _) items, List.reverse_nil, List.nil_append]
    exact congrArg (fun n => Except.ok (Json.array (joinedItems (w :: more)), (⟨n, rest⟩ : Cursor))) (by omega)
  | .object [] => rfl
  | .object (m :: more) =>
    have length : (write (.object (m :: more))).length = (writeMembers (m :: more)).length + 2 := by
      simp [write, Text.ofString]
    have text : write (.object (m :: more)) ++ rest
        = ('\x7b' : CodePoint) :: (writeMembers (m :: more) ++ ('\x7d' : CodePoint) :: rest) := by
      simp [write, Text.ofString]
    have members : readMembers fuel []
        ⟨position + 1, writeMembers (m :: more) ++ ('\x7d' : CodePoint) :: rest⟩ = .ok _ :=
      readMembers_writeMembers (m :: more) hv.2 (List.cons_ne_nil m more) [] hv.1 (by omega)
    obtain ⟨t, ht⟩ := writeMembers_append m more (('\x7d' : CodePoint) :: rest)
    have hnot : (('"' : CodePoint) :: t).head? ≠ some ('\x7d' : CodePoint) :=
      fun h => absurd (Option.some.inj h) (by decide)
    rw [text, length, readValue_object ⟨_, t, ht, by decide⟩ (ht ▸ hnot) members, List.nil_append]
    exact congrArg (fun n => Except.ok (Json.object (joinedMembers (m :: more)), (⟨n, rest⟩ : Cursor))) (by omega)

/-- Written items are read one after another, up to the closing bracket. -/
theorem readItems_writeItems (items : List Json) (hitems : AreTextual items) (hne : items ≠ [])
    (done : List Json) {fuel position : Nat} {rest : Text} (hfuel : 2 * (writeItems items).length + 1 ≤ fuel) :
    readItems fuel done ⟨position, writeItems items ++ (']' : CodePoint) :: rest⟩
      = .ok (done.reverse ++ joinedItems items, ⟨position + (writeItems items).length + 1, rest⟩) := by
  obtain ⟨fuel, rfl⟩ := Nat.exists_eq_add_one_of_ne_zero (by omega : fuel ≠ 0)
  match items with
  | [] => exact absurd rfl hne
  | [v] =>
    have text : writeItems [v] = write v := by rw [writeItems]
    rw [text] at hfuel ⊢
    rw [readItems_last (readValue_write v hitems.1 (by omega)), List.reverse_cons]
    rfl
  | v :: w :: more =>
    have text := writeItems_cons_cons v w more
    have length : (writeItems (v :: w :: more)).length
        = (write v).length + 2 + (writeItems (w :: more)).length := by
      rw [text, List.length_append, List.length_cons, List.length_cons]
      omega
    have value : readValue fuel ⟨position, write v ++ (',' : CodePoint) :: (' ' : CodePoint)
        :: (writeItems (w :: more) ++ (']' : CodePoint) :: rest)⟩ = .ok _ :=
      readValue_write v hitems.1 (by omega)
    rw [length, text, List.append_assoc, List.cons_append, List.cons_append,
      readItems_more (startsSolid_writeItems hitems.2.1 more _) value,
      readItems_writeItems (w :: more) hitems.2 (List.cons_ne_nil w more) (v.joined :: done) (by omega),
      List.reverse_cons, List.append_assoc]
    simp only [Nat.add_assoc]
    rfl

/-- Written members are read one after another, up to the closing brace. A name that comes again would set
the member that was there. -/
theorem readMembers_writeMembers (members : List (Text × Json)) (hmembers : HoldTextual members)
    (hne : members ≠ []) (done : List (Text × Json))
    (hnames : ((done ++ joinedMembers members).map Prod.fst).Nodup)
    {fuel position : Nat} {rest : Text} (hfuel : 2 * (writeMembers members).length + 1 ≤ fuel) :
    readMembers fuel done ⟨position, writeMembers members ++ ('\x7d' : CodePoint) :: rest⟩
      = .ok (done ++ joinedMembers members, ⟨position + (writeMembers members).length + 1, rest⟩) := by
  obtain ⟨fuel, rfl⟩ := Nat.exists_eq_add_one_of_ne_zero (by omega : fuel ≠ 0)
  match members with
  | [] => exact absurd rfl hne
  | [(name, v)] =>
    have text := writeMembers_singleton name v
    have length : (writeMembers [(name, v)]).length = (writeString name).length + 2 + (write v).length := by
      rw [text, List.length_append, List.length_cons, List.length_cons]
      omega
    have value : readValue fuel ⟨position + (writeString name).length + 2,
        write v ++ ('\x7d' : CodePoint) :: rest⟩ = .ok _ :=
      readValue_write v hmembers.1 (by omega)
    rw [length, text, List.append_assoc, List.cons_append, List.cons_append,
      readMembers_last name (startsSolid_write hmembers.1 _) value,
      Association.set_of_not_mem (not_mem_of_nodup_append hnames)]
    simp only [Nat.add_assoc]
    rfl
  | (name, v) :: m :: more =>
    have text := writeMembers_cons_cons name v m more
    have length : (writeMembers ((name, v) :: m :: more)).length
        = (writeString name).length + 2 + (write v).length + 2 + (writeMembers (m :: more)).length := by
      rw [text, List.length_append, List.length_cons, List.length_cons, List.length_append, List.length_cons,
        List.length_cons]
      omega
    obtain ⟨t, ht⟩ := writeMembers_append m more (('\x7d' : CodePoint) :: rest)
    have value : readValue fuel ⟨position + (writeString name).length + 2, write v ++ (',' : CodePoint)
        :: (' ' : CodePoint) :: (writeMembers (m :: more) ++ ('\x7d' : CodePoint) :: rest)⟩ = .ok _ :=
      readValue_write v hmembers.1 (by omega)
    -- the member that was read joins those done; the list whose names are distinct is the same
    have split : done ++ joinedMembers ((name, v) :: m :: more)
        = done ++ [(joinPairs name, v.joined)] ++ joinedMembers (m :: more) := by
      rw [joinedMembers, List.append_assoc, List.singleton_append]
    have new := not_mem_of_nodup_append hnames
    rw [split] at hnames ⊢
    rw [length, text, List.append_assoc, List.cons_append, List.cons_append, List.append_assoc,
      List.cons_append, List.cons_append, readMembers_more name (startsSolid_write hmembers.1 _)
        ⟨_, t, ht, by decide⟩ value, Association.set_of_not_mem new,
      readMembers_writeMembers (m :: more) hmembers.2 (List.cons_ne_nil m more) _ hnames (by omega)]
    simp only [Nat.add_assoc]

end

/-- A written value is read as the value with its pairs joined. -/
theorem read_write {v : Json} (hv : v.IsTextual) : read (write v) = .ok v.joined := by
  obtain ⟨c, t, hwrite, hc, -, hascii⟩ := exists_write_eq_cons hv
  -- the reader refuses a mark at the beginning, but a written value begins with an ASCII character
  have noMark : (write v).head? ≠ some (CodePoint.ofNat 0xFEFF) := by
    rw [hwrite, List.head?_cons]
    intro h
    rw [Option.some.inj h, CodePoint.val_ofNat (by decide)] at hascii
    omega
  have start : Cursor.skipSpace ⟨0, write v⟩ = ⟨0, write v⟩ := skipSpace_solid ⟨c, t, hwrite, hc⟩
  have value : readValue (2 * (write v).length + 2) ⟨0, write v ++ []⟩ = .ok _ :=
    readValue_write v hv (by omega)
  rw [List.append_nil] at value
  rw [read, if_neg noMark, start, value]
  rfl

end SourceAtlas.Json
