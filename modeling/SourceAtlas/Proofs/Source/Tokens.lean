import Mathlib.Data.List.TakeWhile
import SourceAtlas.Source.Lexer
import SourceAtlas.Proofs.Source.Extent

/-!
Tokens in their places. Every reading step of the lexer leaves a text that is no longer than before, and one that
reads a keyword takes at least two characters. The place of the lexer and the length of the text that is left
make up one sum all the time, so the tokens of a source follow one another inside it.

Main statement: `inTurn_of_lex`.
-/

namespace SourceAtlas.Source

/-- A token lies between two places; the shortest keyword has two characters. -/
def Token.Lies (lo hi : Nat) (t : Token) : Prop :=
  lo ≤ t.start ∧ t.start ≤ t.stop ∧ (∀ w, t.kind = .keyword w → t.start + 1 < t.stop) ∧ t.stop ≤ hi

/-- Tokens that lie in a stretch lie in every larger one, and none ends before it starts. -/
theorem Token.isExtent_lies : IsExtent Token.Lies := by
  constructor
  · rintro lo hi lo' hi' t ⟨hlo, hle, hword, hhi⟩ hlo' hhi'
    exact ⟨by omega, hle, hword, by omega⟩
  · rintro lo hi t ⟨hlo, hle, -, hhi⟩
    omega

theorem two_le_length_of_mem_keywords : ∀ w ∈ keywords, 2 ≤ w.length := by decide +kernel

/-! ## Numbers -/

namespace Numeral

variable {t rest : Text} {reading : Reading}

/-- What is left behind digits is no longer than the text. -/
theorem length_le_of_afterDigits {isDigit : CodePoint → Bool} (h : afterDigits isDigit t = some rest) :
    rest.length ≤ t.length := by
  fun_induction afterDigits isDigit t with
  | case1 => simp_all
  | case2 c cs hdigit ih =>
    have hle := ih h
    simp only [List.length_cons]
    omega
  | case3 _ d ds hd ih =>
    have hle := ih h
    simp only [List.length_cons]
    omega
  | case4 => cases h
  | case5 => cases h
  | case6 => simp_all

/-- A reading that stops somewhere leaves the rest from there on. -/
theorem rest_eq_of_stopAt {imaginary : Bool} (h : stopAt imaginary t = some reading) : reading.rest = t := by
  unfold stopAt at h
  split at h
  · rw [← Option.some.inj h]
  · cases h

/-- What is left behind the end of a number is no longer than the text. -/
theorem length_le_of_ending (h : ending t = some reading) : reading.rest.length ≤ t.length := by
  unfold ending at h
  split at h
  · split at h
    · simp [rest_eq_of_stopAt h]
    · simp [rest_eq_of_stopAt h]
  · simp [← Option.some.inj h]

/-- So it is behind an exponent. -/
theorem length_le_of_exponent (h : exponent t = some reading) : reading.rest.length ≤ t.length := by
  cases t with
  | nil => simp [← Option.some.inj h]
  | cons c rest =>
    have hdigits : ∀ (signed : Bool) (digits : Text), digits.length ≤ rest.length →
        (if startsWith CodePoint.isAsciiDigit digits then afterDigits CodePoint.isAsciiDigit digits >>= ending
          else if signed then none else stopAt false (c :: rest)) = some reading →
        reading.rest.length ≤ (c :: rest).length := by
      intro signed digits hle h
      split at h
      · obtain ⟨more, hmore, h⟩ := Option.bind_eq_some_iff.1 h
        have hending := length_le_of_ending h
        have hdigits := length_le_of_afterDigits hmore
        simp only [List.length_cons]
        omega
      · split at h
        · cases h
        · rw [rest_eq_of_stopAt h]
    dsimp only [exponent] at h
    split at h
    · split at h
      · split at h
        · exact hdigits _ _ (Nat.le_succ _) h
        · exact hdigits _ _ le_rfl h
      · exact hdigits _ _ le_rfl h
    · exact length_le_of_ending h

/-- So it is behind a fraction. -/
theorem length_le_of_fraction (h : fraction t = some reading) : reading.rest.length ≤ t.length := by
  unfold fraction at h
  split at h
  · obtain ⟨digits, hdigits, h⟩ := Option.bind_eq_some_iff.1 h
    exact (length_le_of_exponent h).trans (length_le_of_afterDigits hdigits)
  · exact length_le_of_exponent h

/-- So it is behind the digits of another base. -/
theorem length_le_of_based {base : Nat} (h : based base t = some reading) : reading.rest.length ≤ t.length := by
  unfold based at h
  have hdigits : ((Text.after? "_" t).getD t).length ≤ t.length := by
    cases hafter : Text.after? "_" t with
    | none => exact le_rfl
    | some digits =>
      rw [Text.after?_eq_some_iff.1 hafter]
      simp
  dsimp only at h
  split at h
  · cases h
  · obtain ⟨rest, hrest, h⟩ := Option.bind_eq_some_iff.1 h
    split at h
    · cases h
    · rw [rest_eq_of_stopAt h]
      exact (length_le_of_afterDigits hrest).trans hdigits

/-- So it is behind a decimal number. -/
theorem length_le_of_decimal (h : decimal t = some reading) : reading.rest.length ≤ t.length := by
  unfold decimal at h
  obtain ⟨rest, hrest, h⟩ := Option.bind_eq_some_iff.1 h
  refine le_trans ?_ (length_le_of_afterDigits hrest)
  cases rest with
  | nil =>
    dsimp only at h
    split at h
    · cases h
    · simp [← Option.some.inj h]
  | cons c more =>
    dsimp only at h
    split at h
    · exact (length_le_of_fraction h).trans (Nat.le_succ _)
    · split at h
      · exact length_le_of_ending h
      · obtain ⟨whole, hwhole, h⟩ := Option.bind_eq_some_iff.1 h
        have hwhole := length_le_of_exponent hwhole
        split at h <;> split at h <;> cases h <;> exact hwhole

/-- So it is behind any number that is read. -/
theorem length_le_of_read? (h : read? t = some reading) : reading.rest.length ≤ t.length := by
  unfold read? at h
  split at h
  · split at h
    · exact (length_le_of_fraction h).trans (Nat.le_succ _)
    · split at h
      · split at h
        · split at h
          · have hle := length_le_of_based h
            simp only [List.length_cons]
            omega
          · exact length_le_of_decimal h
        · simp [← Option.some.inj h]
      · exact length_le_of_decimal h
  · cases h

end Numeral

/-! ## Literals -/

namespace StringLiteral

variable {t rest body : Text} {quote : CodePoint}

/-- What is left behind a string in single quotes is no longer than the text. -/
theorem length_le_of_shortBody? (h : shortBody? quote t = some (body, rest)) : rest.length ≤ t.length := by
  fun_induction shortBody? quote t generalizing body with
  | case1 => cases h
  | case2 => simp_all
  | case3 => cases h
  | case4 _ _ d ds ih =>
    obtain ⟨⟨inner, more⟩, hinner, heq⟩ := Option.map_eq_some_iff.1 h
    obtain ⟨-, rfl⟩ := Prod.mk.inj heq
    have hle := ih hinner
    simp only [List.length_cons]
    omega
  | case5 => cases h
  | case6 c cs _ _ _ ih =>
    obtain ⟨⟨inner, more⟩, hinner, heq⟩ := Option.map_eq_some_iff.1 h
    obtain ⟨-, rfl⟩ := Prod.mk.inj heq
    exact (ih hinner).trans (Nat.le_succ _)

/-- So it is behind a string in triple quotes. -/
theorem length_le_of_longBody? (h : longBody? quote t = some (body, rest)) : rest.length ≤ t.length := by
  fun_induction longBody? quote t generalizing body with
  | case1 => cases h
  | case2 d ds ih =>
    obtain ⟨⟨inner, more⟩, hinner, heq⟩ := Option.map_eq_some_iff.1 h
    obtain ⟨-, rfl⟩ := Prod.mk.inj heq
    have hle := ih hinner
    simp only [List.length_cons]
    omega
  | case3 => cases h
  | case4 c cs _ more hmore =>
    obtain ⟨-, rfl⟩ := Prod.mk.inj (Option.some.inj h)
    rw [Text.after?_eq_some_iff.1 hmore, List.length_append]
    exact Nat.le_add_left _ _
  | case5 c cs _ _ ih =>
    obtain ⟨⟨inner, more⟩, hinner, heq⟩ := Option.map_eq_some_iff.1 h
    obtain ⟨-, rfl⟩ := Prod.mk.inj heq
    exact (ih hinner).trans (Nat.le_succ _)

/-- So it is behind a string in any quotes. -/
theorem length_le_of_body? (h : body? t = some (body, rest)) : rest.length ≤ t.length := by
  unfold body? at h
  split at h
  · split at h
    · rename_i inner hinner
      have hle := length_le_of_longBody? h
      rw [Text.after?_eq_some_iff.1 hinner]
      simp only [List.length_cons, List.length_append]
      omega
    · exact (length_le_of_shortBody? h).trans (Nat.le_succ _)
  · cases h

/-- So it is behind a literal with its prefix. -/
theorem length_le_of_read? {literal : StringLiteral} (h : read? t = some (literal, rest)) :
    rest.length ≤ t.length := by
  obtain ⟨⟨marks, quoted⟩, hmarks, h⟩ := Option.bind_eq_some_iff.1 h
  obtain ⟨⟨body, more⟩, hbody, h⟩ := Option.bind_eq_some_iff.1 h
  obtain ⟨-, rfl⟩ := Prod.mk.inj (Option.some.inj h)
  refine (length_le_of_body? hbody).trans ?_
  dsimp only [marking?] at hmarks
  split at hmarks
  · obtain ⟨-, rfl⟩ := Prod.mk.inj (Option.some.inj hmarks)
    simp
  · cases hmarks

end StringLiteral

/-! ## Tokens -/

/-- The margin of a line is taken from its front. -/
theorem length_le_of_margin {depth last : Depth} {kept found : Nat} {t rest : Text}
    (h : margin depth kept t = some (last, found, rest)) : rest.length ≤ t.length := by
  fun_induction margin depth kept t with
  | case1 => simp_all
  | case2 depth kept cs ih => exact (ih h).trans (Nat.le_succ _)
  | case3 depth kept cs _ ih => exact (ih h).trans (Nat.le_succ _)
  | case4 depth kept cs _ _ ih => exact (ih h).trans (Nat.le_succ _)
  | case5 depth kept _ _ _ e more ih =>
    have hle := ih h
    simp only [List.length_cons] at hle ⊢
    omega
  | case6 => cases h
  | case7 => cases h
  | case8 => simp_all

namespace Lexer

variable {s : Lexer} {t rest : Text} {kind : TokenKind}

/-- Without the blanks in front a text is no longer. -/
theorem length_withoutBlanks_le (t : Text) : (withoutBlanks t).length ≤ t.length := by
  dsimp only [withoutBlanks]
  split
  · exact (List.length_dropWhile_le _ _).trans (List.length_dropWhile_le _ _)
  · exact List.length_dropWhile_le _ _

/-- A mark is taken from the front, and is no keyword. -/
theorem length_le_of_readMark? (h : readMark? t = some (kind, rest)) :
    rest.length ≤ t.length ∧ ∀ w, kind ≠ .keyword w := by
  obtain ⟨m, -, h⟩ := Option.bind_eq_some_iff.1 h
  obtain ⟨rfl, rfl⟩ := Prod.mk.inj (Option.some.inj h)
  simp

/-- What a word that has been read is: a keyword has two characters at least. -/
theorem two_le_of_ofWord? {w keyword : Text} (h : ofWord? w = some (.keyword keyword)) : 2 ≤ w.length := by
  unfold ofWord? at h
  split at h
  · rename_i hmem
    exact two_le_length_of_mem_keywords w (by simpa using hmem)
  · split at h <;> simp at h

/-- A token is taken off the start of the text, and a keyword takes two characters at least. -/
theorem length_le_of_readToken? (h : readToken? t = some (kind, rest)) :
    rest.length ≤ t.length ∧ ∀ w, kind = .keyword w → rest.length + 2 ≤ t.length := by
  unfold readToken? at h
  split at h
  · cases h
  · rename_i c tail
    split at h
    · split at h
      · obtain ⟨⟨literal, more⟩, hread, heq⟩ := Option.map_eq_some_iff.1 h
        obtain ⟨rfl, rfl⟩ := Prod.mk.inj heq
        exact ⟨StringLiteral.length_le_of_read? hread, nofun⟩
      · obtain ⟨kind', hkind, heq⟩ := Option.map_eq_some_iff.1 h
        obtain ⟨rfl, rfl⟩ := Prod.mk.inj heq
        refine ⟨by simp, ?_⟩
        rintro w rfl
        have htwo := two_le_of_ofWord? hkind
        have hword := (List.takeWhile_prefix continuesName : _ <+: c :: tail).length_le
        rw [List.length_drop]
        omega
    · split at h
      · obtain ⟨reading, hread, heq⟩ := Option.map_eq_some_iff.1 h
        obtain ⟨rfl, rfl⟩ := Prod.mk.inj heq
        exact ⟨Numeral.length_le_of_read? hread, nofun⟩
      · obtain ⟨hle, hkind⟩ := length_le_of_readMark? h
        exact ⟨hle, fun w hw => absurd hw (hkind w)⟩

/-! ### Places -/

/-- The place behind all that is left. -/
def reach (s : Lexer) : Nat := s.place + s.rest.length

theorem place_le_goTo (s : Lexer) (rest : Text) : s.place ≤ (s.goTo rest).place := Nat.le_add_right _ _

/-- A lexer that goes on reaches as far as before. -/
theorem reach_goTo (h : rest.length ≤ s.rest.length) : (s.goTo rest).reach = s.reach := by
  simp only [reach, goTo]
  omega

/-- Changes of the margin make no solid tokens. -/
theorem not_solid_of_layout {depth : Depth} {depths open_ : List Depth} {kinds : List TokenKind}
    (h : layout depth depths = some (kinds, open_)) : ∀ k ∈ kinds, k.isSolid = false := by
  unfold layout at h
  split at h
  · cases h
  · split at h
    · split at h
      · obtain ⟨rfl, -⟩ := Prod.mk.inj (Option.some.inj h)
        simp [TokenKind.isSolid]
      · cases h
    · obtain ⟨⟨n, more⟩, -, heq⟩ := Option.map_eq_some_iff.1 h
      obtain ⟨rfl, -⟩ := Prod.mk.inj heq
      simp [TokenKind.isSolid]

/-- Tokens without text of their own all stand at one place. -/
theorem inTurn_map_of_not_solid {kinds : List TokenKind} (h : ∀ k ∈ kinds, k.isSolid = false) (place : Nat) :
    InTurn Token.Lies place place (kinds.map (⟨·, place, place⟩)) := by
  induction kinds with
  | nil => exact le_rfl
  | cons k rest ih =>
    refine ⟨place, ⟨le_rfl, le_rfl, ?_, le_rfl⟩, ih fun k hk => h k (List.mem_cons_of_mem _ hk)⟩
    rintro w rfl
    simpa [TokenKind.isSolid] using h _ List.mem_cons_self

/-- A lexer that has come further in the same text has no tokens but such as lie there for the one before. -/
theorem inTurn_of_goTo {next : Lexer} {ts : List Token} (h : InTurn Token.Lies next.place next.reach ts)
    (hplace : s.place ≤ next.place) (hreach : next.reach = s.reach) : InTurn Token.Lies s.place s.reach ts := by
  rw [← hreach]
  exact h.mono Token.isExtent_lies hplace le_rfl

/-- A token that is read lies between the place where it starts and the one where the lexer goes on. -/
theorem lies_of_readToken? (h : readToken? s.rest = some (kind, rest)) :
    Token.Lies s.place (s.goTo rest).place ⟨kind, s.place, (s.goTo rest).place⟩ := by
  obtain ⟨hle, hword⟩ := length_le_of_readToken? h
  refine ⟨le_rfl, place_le_goTo s rest, ?_, le_rfl⟩
  intro w hw
  have htwo := hword w hw
  simp only [goTo]
  omega

section

variable {fuel : Nat} {ts : List Token}

/-- One step at the start of a line, if all further steps are in order. -/
theorem inTurn_of_tokens_true
    (ih : ∀ {s lineStart ts}, tokens fuel lineStart s = some ts → InTurn Token.Lies s.place s.reach ts)
    (h : tokens (fuel + 1) true s = some ts) : InTurn Token.Lies s.place s.reach ts := by
  rw [tokens] at h
  obtain ⟨⟨depth, kept, rest⟩, hmargin, h⟩ := Option.bind_eq_some_iff.1 h
  have hle : rest.length ≤ s.rest.length := length_le_of_margin hmargin
  refine inTurn_of_goTo ?_ (place_le_goTo s rest) (reach_goTo hle)
  dsimp only at h
  split at h
  · have hrest : ((withoutBlanks rest).drop 1).length ≤ rest.length := by
      rw [List.length_drop]
      exact (Nat.sub_le _ _).trans (length_withoutBlanks_le rest)
    exact inTurn_of_goTo (ih h) (place_le_goTo _ _) (reach_goTo hrest)
  · split at h
    · exact ih h
    · obtain ⟨⟨kinds, depths⟩, hlayout, h⟩ := Option.bind_eq_some_iff.1 h
      obtain ⟨more, hmore, h⟩ := Option.bind_eq_some_iff.1 h
      obtain rfl := Option.some.inj h
      have hafter := ih hmore
      exact (inTurn_map_of_not_solid (not_solid_of_layout hlayout) _).append Token.isExtent_lies hafter

/-- One step inside a line, if all further steps are in order. -/
theorem inTurn_of_tokens_false
    (ih : ∀ {s lineStart ts}, tokens fuel lineStart s = some ts → InTurn Token.Lies s.place s.reach ts)
    (h : tokens (fuel + 1) false s = some ts) : InTurn Token.Lies s.place s.reach ts := by
  rw [tokens] at h
  have hle := length_withoutBlanks_le s.rest
  refine inTurn_of_goTo ?_ (place_le_goTo s _) (reach_goTo hle)
  generalize s.goTo (withoutBlanks s.rest) = here at h ⊢
  dsimp only at h
  split at h
  -- the end of the text
  · split at h
    · obtain rfl := Option.some.inj h
      exact ⟨here.place, ⟨le_rfl, le_rfl, nofun, le_rfl⟩, Nat.le_add_right _ _⟩
    · cases h
  · rename_i c rest hrest
    split at h
    -- the end of a line
    · have hnext : rest.length ≤ here.rest.length := by simp [hrest]
      split at h
      · obtain ⟨more, hmore, rfl⟩ := Option.map_eq_some_iff.1 h
        exact ⟨here.place, ⟨le_rfl, le_rfl, nofun, le_rfl⟩,
          inTurn_of_goTo (ih hmore) (place_le_goTo _ _) (reach_goTo hnext)⟩
      · exact inTurn_of_goTo (ih h) (place_le_goTo _ _) (reach_goTo hnext)
    · split at h
      -- a line that is continued with a backslash
      · split at h
        · split at h
          · rename_i d e more _
            have hnext : (e :: more).length ≤ here.rest.length := by
              rw [hrest]
              simp only [List.length_cons]
              omega
            exact inTurn_of_goTo (ih h) (place_le_goTo _ _) (reach_goTo hnext)
          · cases h
        · cases h
      · obtain ⟨⟨kind, rest⟩, hread, h⟩ := Option.bind_eq_some_iff.1 h
        have hstep : ∃ brackets more, tokens fuel false { here.goTo rest with brackets } = some more
            ∧ ⟨kind, here.place, (here.goTo rest).place⟩ :: more = ts := by
          dsimp only at h
          split at h
          all_goals
            obtain ⟨brackets, -, h⟩ := Option.bind_eq_some_iff.1 h
            obtain ⟨more, hmore, h⟩ := Option.bind_eq_some_iff.1 h
            exact ⟨brackets, more, hmore, Option.some.inj h⟩
        obtain ⟨brackets, more, hmore, rfl⟩ := hstep
        have hafter := ih hmore
        rw [← reach_goTo (length_le_of_readToken? hread).1]
        exact ⟨_, lies_of_readToken? hread, hafter⟩

/-- The tokens of a text follow each other, from the place of the lexer up to its reach. -/
theorem inTurn_of_tokens {lineStart : Bool} (h : tokens fuel lineStart s = some ts) :
    InTurn Token.Lies s.place s.reach ts := by
  induction fuel generalizing lineStart s ts with
  | zero => simp [tokens] at h
  | succ fuel ih =>
    cases lineStart with
    | true => exact inTurn_of_tokens_true ih h
    | false => exact inTurn_of_tokens_false ih h

end

end Lexer

/-- The tokens of a text lie in it one after the other. -/
theorem inTurn_of_lex {t : Text} {ts : List Token} (h : lex t = some ts) : InTurn Token.Lies 0 t.length ts := by
  refine (Lexer.inTurn_of_tokens h).mono Token.isExtent_lies le_rfl ?_
  rw [Lexer.reach, Nat.zero_add]

end SourceAtlas.Source
