import SourceAtlas.Proofs.Json.Surrogates

/-!
Reading back written strings. One character at a time the reader takes in what the writer has put down, and
at the closing quote the surrogates read so far are joined.
-/

namespace SourceAtlas.Json

/-! ## Steps of the reader -/

variable {start position : Nat} {done rest : Text}

/-- A quote ends a string, whose pairs are joined then. -/
theorem readChars_quote : readChars start position done (('"' : CodePoint) :: rest)
    = .ok (joinPairs done.reverse, ⟨position + 1, rest⟩) := by
  rw [readChars.eq_def]
  exact if_pos rfl

/-- A plain character is read as it stands. -/
theorem readChars_plain {c : CodePoint} (hquote : c ≠ '"') (hcontrol : 32 ≤ c.val) (hback : c ≠ '\\') :
    readChars start position done (c :: rest) = readChars start (position + 1) (c :: done) rest := by
  rw [readChars.eq_def]
  dsimp only
  rw [if_neg hquote, if_neg (by omega), if_neg hback]

/-- A short escape is read as what it stands for. -/
theorem readChars_escape {e d : CodePoint} (hu : e ≠ 'u') (h : unescape? e = some d) :
    readChars start position done (('\\' : CodePoint) :: e :: rest)
      = readChars start (position + 2) (d :: done) rest := by
  rw [readChars.eq_def]
  dsimp only
  rw [if_neg (by decide), if_neg (by decide), if_pos rfl, if_neg hu, h]

/-! ## Hexadecimal escapes -/

/-- A hexadecimal digit has its value. -/
theorem digit?_hexDigit : ∀ n < 16, (Text.hexDigit n).digit? 16 = some n := by decide

/-- Four hexadecimal digits have the value of the number that is written with them. -/
theorem hexUnit?_hexDigits {n : Nat} (h : n < 0x10000) :
    hexUnit? (Text.hexDigit (n / 16 / 16 / 16 % 16)) (Text.hexDigit (n / 16 / 16 % 16))
      (Text.hexDigit (n / 16 % 16)) (Text.hexDigit (n % 16)) = some n := by
  have value : (((n / 16 / 16 / 16 % 16) * 16 + n / 16 / 16 % 16) * 16 + n / 16 % 16) * 16 + n % 16 = n := by
    omega
  simp only [hexUnit?, digit?_hexDigit _ (Nat.mod_lt _ (by decide : 0 < 16)), Option.bind_eq_bind,
    Option.bind_some, Option.pure_def, value]

/-- The escape of a code unit is read as the unit. -/
theorem readChars_escapeUnit {n : Nat} (h : n < 0x10000) (hrest : rest ≠ []) :
    readChars start position done (escapeUnit n ++ rest)
      = readChars start (position + 6) (CodePoint.ofNat n :: done) rest := by
  obtain ⟨next, more, rfl⟩ := List.exists_cons_of_ne_nil hrest
  have spelt : escapeUnit n ++ next :: more = ('\\' : CodePoint) :: ('u' : CodePoint)
      :: Text.hexDigit (n / 16 / 16 / 16 % 16) :: Text.hexDigit (n / 16 / 16 % 16)
      :: Text.hexDigit (n / 16 % 16) :: Text.hexDigit (n % 16) :: next :: more := rfl
  rw [spelt, readChars.eq_def]
  dsimp only
  rw [if_neg (by decide), if_neg (by decide), if_pos rfl, if_pos rfl, hexUnit?_hexDigits h]

/-! ## Written strings -/

/-- One of the escapes of one letter. -/
theorem readChars_short {e c : CodePoint} (hu : e ≠ 'u') (h : unescape? e = some c) (hc : c.val < 0x10000) :
    readChars start position done ([('\\' : CodePoint), e] ++ rest)
      = readChars start (position + 2) ((units c).reverse ++ done) rest := by
  rw [units_of_lt hc]
  exact readChars_escape hu h

/-- The reader takes in a written character as the code points that it was escaped as. -/
theorem readChars_writeChar (c : CodePoint) (hrest : rest ≠ []) :
    readChars start position done (writeChar c ++ rest)
      = readChars start (position + (writeChar c).length) ((units c).reverse ++ done) rest := by
  -- the cases are those of the writer: short escapes, plain characters, one escape, two escapes
  unfold writeChar
  split
  · next h =>
    subst h
    exact readChars_short (e := '"') (by decide) rfl (by decide)
  next hquote =>
  split
  · next h =>
    subst h
    exact readChars_short (e := '\\') (by decide) rfl (by decide)
  next hback =>
  split
  · next h =>
    subst h
    exact readChars_short (e := 'n') (by decide) rfl (by decide)
  split
  · next h =>
    subst h
    exact readChars_short (e := 'r') (by decide) rfl (by decide)
  split
  · next h =>
    subst h
    exact readChars_short (e := 't') (by decide) rfl (by decide)
  split
  · next h =>
    have hc : c = CodePoint.ofNat 8 := Fin.ext h
    exact readChars_short (e := 'b') (by decide) (hc ▸ rfl) (by omega)
  split
  · next h =>
    have hc : c = CodePoint.ofNat 12 := Fin.ext h
    exact readChars_short (e := 'f') (by decide) (hc ▸ rfl) (by omega)
  split
  · next h =>
    rw [Bool.and_eq_true, decide_eq_true_iff, decide_eq_true_iff] at h
    rw [units_of_lt (by omega)]
    exact readChars_plain hquote h.1 hback
  split
  · next h =>
    rw [units_of_lt h, readChars_escapeUnit h hrest, CodePoint.ofNat_val]
    rfl
  · next h =>
    have hc := c.isLt
    rw [units, if_neg h, List.append_assoc, readChars_escapeUnit (by omega) (by simp [escapeUnit, hrest]),
      readChars_escapeUnit (by omega) hrest]
    rfl

/-- What is written of a text is read as its code units. -/
theorem readChars_writeChars (t : Text) (hrest : rest ≠ []) :
    readChars start position done (t.flatMap writeChar ++ rest)
      = readChars start (position + (t.flatMap writeChar).length) ((t.flatMap units).reverse ++ done) rest := by
  induction t generalizing position done with
  | nil => rfl
  | cons c t ih =>
    rw [List.flatMap_cons, List.append_assoc, readChars_writeChar c (by simp [hrest]), ih]
    simp only [List.flatMap_cons, List.length_append, List.reverse_append, List.append_assoc, Nat.add_assoc]

/-- A written string is read as the text with its pairs joined. -/
theorem readString_writeString (t : Text) :
    readString start (t.flatMap writeChar ++ ('"' : CodePoint) :: rest)
      = .ok (joinPairs t, ⟨start + (writeString t).length, rest⟩) := by
  have length : (writeString t).length = 1 + (t.flatMap writeChar).length + 1 := by
    have quotes : writeString t = ('"' : CodePoint) :: (t.flatMap writeChar ++ [('"' : CodePoint)]) := rfl
    rw [quotes, List.length_cons, List.length_append, List.length_singleton]
    omega
  rw [readString, readChars_writeChars t (List.cons_ne_nil _ _), readChars_quote, List.append_nil,
    List.reverse_reverse, joinPairs_flatMap_units, length]
  simp only [Nat.add_assoc]

end SourceAtlas.Json
