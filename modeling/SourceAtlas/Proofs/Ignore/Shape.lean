import SourceAtlas.Proofs.Ignore.Verdict
import SourceAtlas.Proofs.Path
import SourceAtlas.Proofs.Regex.Takes

/-!
The shapes of rules. The parts of a rule's expression match alike whatever follows them, except for the one that
stands at the end of most rules and asks that the path goes on with a slash or ends. So a rule that matches a
directory matches all that lies below, unless its last glob ends in a set that takes the slash behind the directory.

Main statements: `exists_isShaped_of_ofLine`, `IsShaped.isSome_search_append`, `isSome_search_below`.
-/

namespace SourceAtlas.Ignore

open Regex (Takes sequence)

/-! ## Globs -/

/-- What the items of a glob are: a character other than a slash, one of a set, or any that are no slashes. -/
inductive IsItem : Regex → Prop
  | plain (c : CodePoint) (hc : c ≠ '/') : IsItem (.char c .exact)
  | set (s : Regex.CharSet) : IsItem (.set s)
  | stars (least : Nat) : IsItem (.many least none .greedy notSlash)

/-- Where a set stands does not matter to what it holds. -/
theorem setItems_congr {position : Nat} {t : Text} {items : List Regex.Item} (h : setItems position t = .ok items)
    (other : Nat) : setItems other t = .ok items := by
  induction position, t using setItems.induct generalizing items other with
  | case1 | case2 | case3 => exact h
  | case4 position c e rest hlt =>
    simp only [setItems, if_true, if_pos hlt] at h
    cases h
  | case5 position c e rest hle width =>
    rename_i ih
    simp only [setItems, if_true, if_neg hle] at h ⊢
    obtain ⟨more, hmore, rfl⟩ := map_eq_ok_iff.1 h
    exact map_eq_ok_iff.2 ⟨more, ih hmore _, rfl⟩
  | case6 position c d e rest hd ih =>
    simp only [setItems, if_neg hd] at h ⊢
    obtain ⟨more, hmore, rfl⟩ := map_eq_ok_iff.1 h
    exact map_eq_ok_iff.2 ⟨more, ih hmore _, rfl⟩

/-- What is left behind a bracket is the end of the text. -/
theorem rest_suffix_of_bracket? {t : Text} {b : Bracket} (h : bracket? t = some b) : b.rest <:+ t := by
  have behind : ∀ {others : Text} {c : CodePoint} {rest : Text},
      others.dropWhile (fun c : CodePoint => c != ']') = c :: rest → rest <:+ others := by
    intro others c rest heq
    have short : c :: rest <:+ others := heq ▸ List.dropWhile_suffix _
    exact (List.suffix_cons c rest).trans short
  unfold bracket? at h
  dsimp only at h
  split at h
  · cases h
  · next c rest hdrop =>
    obtain rfl := Option.some.inj h
    refine (behind hdrop).trans ?_
    -- what is left behind a mark of negation, and then behind a first closing bracket
    split
    · next d others hbody =>
      have inner : d :: others <:+ t := by
        rw [← hbody]
        cases t with
        | nil => exact List.suffix_refl []
        | cons e more =>
          dsimp only
          split
          · exact List.suffix_cons e more
          · exact List.suffix_refl _
      split
      · exact (List.suffix_cons d others).trans inner
      · rwa [hbody]
    · exact List.nil_suffix

/-- The first item of a glob, and where the others begin. -/
theorem exists_item_of_globItems {position fuel : Nat} {c : CodePoint} {rest : Text} {items : List Written}
    (h : globItems position (fuel + 1) (c :: rest) = .ok (some items)) :
    ∃ item next, next <:+ rest ∧ (('/' : CodePoint) ∉ c :: rest → IsItem item.regex)
      ∧ ∀ other, globItems other (fuel + 1) (c :: rest)
        = (globItems (other + item.length) fuel next).map fun items => items.map (item :: ·) := by
  by_cases hescape : c = '\\'
  · cases rest with
    | nil =>
      rw [globItems] at h
      simp [hescape] at h
    | cons d rest =>
      refine ⟨plain d, rest, List.suffix_cons d rest, fun hslash => .plain d ?_, fun other => ?_⟩
      · rintro rfl
        simp at hslash
      · rw [globItems]
        simp [hescape]
  by_cases hstar : c = '*'
  · refine ⟨⟨.many 0 none .greedy notSlash, 5⟩, rest, List.suffix_refl rest, fun _ => .stars 0, fun other => ?_⟩
    rw [globItems.eq_def]
    simp only [if_neg hescape, if_pos hstar]
  by_cases hany : c = '?'
  · refine ⟨⟨notSlash, 4⟩, rest, List.suffix_refl rest, fun _ => .set _, fun other => ?_⟩
    rw [globItems.eq_def]
    simp only [if_neg hescape, if_neg hstar, if_pos hany]
  by_cases hset : c = '['
  · rw [globItems.eq_def] at h
    simp only [if_neg hescape, if_neg hstar, if_neg hany, if_pos hset] at h
    cases hbracket : bracket? rest with
    | none =>
      rw [hbracket] at h
      cases h
    | some b =>
      rw [hbracket] at h
      dsimp only at h
      split at h
      · cases h
      · next set hitems =>
        refine ⟨⟨.set ⟨b.negated, set, .exact⟩, (if b.negated then 2 else 1) + (b.inside.flatMap setSymbol).length + 1⟩,
          b.rest, rest_suffix_of_bracket? hbracket, fun _ => .set _, fun other => ?_⟩
        rw [globItems.eq_def]
        simp only [if_neg hescape, if_neg hstar, if_neg hany, if_pos hset, hbracket, setItems_congr hitems]
  · refine ⟨plain c, rest, List.suffix_refl rest, fun hslash => .plain c ?_, fun other => ?_⟩
    · rintro rfl
      simp at hslash
    · rw [globItems.eq_def]
      simp only [if_neg hescape, if_neg hstar, if_neg hany, if_neg hset]

/-- The items of a glob do not depend on the position that faults are told with. -/
theorem globItems_congr {position fuel : Nat} {t : Text} {items : List Written}
    (h : globItems position fuel t = .ok (some items)) (other : Nat) : globItems other fuel t = .ok (some items) := by
  induction fuel generalizing position t items other with
  | zero => exact h
  | succ fuel ih =>
    cases t with
    | nil => exact h
    | cons c rest =>
      obtain ⟨item, next, -, -, hall⟩ := exists_item_of_globItems h
      rw [hall] at h ⊢
      obtain ⟨found, hfound, hitems⟩ := map_eq_ok_iff.1 h
      obtain ⟨others, rfl, rfl⟩ := Option.map_eq_some_iff.1 hitems
      exact map_eq_ok_iff.2 ⟨some others, ih hfound _, rfl⟩

/-- The items of a component are characters other than a slash, sets and stars. -/
theorem isItem_of_mem_globItems {position fuel : Nat} {t : Text} {items : List Written}
    (ht : ('/' : CodePoint) ∉ t) (h : globItems position fuel t = .ok (some items)) :
    ∀ item ∈ items, IsItem item.regex := by
  induction fuel generalizing position t items with
  | zero =>
    obtain rfl := Option.some.inj (Except.ok.inj h)
    exact nofun
  | succ fuel ih =>
    cases t with
    | nil =>
      obtain rfl := Option.some.inj (Except.ok.inj h)
      exact nofun
    | cons c rest =>
      obtain ⟨item, next, hnext, hitem, hall⟩ := exists_item_of_globItems h
      rw [hall] at h
      obtain ⟨found, hfound, hitems⟩ := map_eq_ok_iff.1 h
      obtain ⟨others, rfl, rfl⟩ := Option.map_eq_some_iff.1 hitems
      have hrest : ('/' : CodePoint) ∉ next := fun hc => ht (List.mem_cons_of_mem c (hnext.subset hc))
      exact List.forall_mem_cons.2 ⟨hitem ht, ih hrest hfound⟩

/-- A component that is not empty has items. -/
theorem globItems_ne_nil {position fuel : Nat} {c : CodePoint} {rest : Text} {items : List Written}
    (h : globItems position (fuel + 1) (c :: rest) = .ok (some items)) : items ≠ [] := by
  obtain ⟨item, next, -, -, hall⟩ := exists_item_of_globItems h
  rw [hall] at h
  obtain ⟨found, -, hitems⟩ := map_eq_ok_iff.1 h
  obtain ⟨others, rfl, rfl⟩ := Option.map_eq_some_iff.1 hitems
  exact List.cons_ne_nil item others

/-- The last item of a component; a star alone stands for a character at least. -/
def lastItem? (s : Text) : Option Regex :=
  if s = "*" then some (.many 1 none .greedy notSlash)
  else match glob 0 s with
    | .ok (some items) => items.getLast?.map Written.regex
    | _ => none

/-- Does a line end in a set that holds a slash? -/
def endsOnSlash (line : Text) : Bool :=
  match (components (bodyOf line)).getLast?.bind lastItem? with
  | some (.set s) => s.has '/'
  | _ => false

/-! ## Components -/

/-- Collapsing only drops components. -/
theorem mem_collapse {parts : List Text} {s : Text} (h : s ∈ collapse parts) : s ∈ parts := by
  induction parts with
  | nil => exact h
  | cons t rest ih =>
    rw [collapse] at h
    split at h
    · exact List.mem_cons_of_mem t (ih h)
    · rcases List.mem_cons.1 h with rfl | h
      · exact List.mem_cons_self
      · exact List.mem_cons_of_mem t (ih h)

/-- The last component stays. -/
theorem getLast?_collapse (parts : List Text) : (collapse parts).getLast? = parts.getLast? := by
  induction parts with
  | nil => rfl
  | cons t rest ih =>
    rw [collapse]
    split
    · next hdouble =>
      rw [List.getLast?_cons, ← ih]
      cases hlast : (collapse rest).getLast? with
      | none =>
        rw [List.getLast?_eq_none_iff.1 hlast] at hdouble
        simp at hdouble
      | some last => rfl
    · rw [List.getLast?_cons, List.getLast?_cons, ih]

/-- An open end only adds the component that stands for any depth. -/
theorem mem_openEnd {parts : List Text} {s : Text} (h : s ∈ openEnd parts) : s ∈ parts ∨ s = anyDepth := by
  induction parts with
  | nil => cases h
  | cons t rest ih =>
    cases rest with
    | nil =>
      rw [openEnd, List.mem_singleton] at h
      split at h
      · exact .inr h
      · exact .inl (List.mem_singleton.2 h)
    | cons next rest =>
      rw [openEnd] at h
      · rcases List.mem_cons.1 h with rfl | h
        · exact .inl List.mem_cons_self
        · exact (ih h).imp_left (List.mem_cons_of_mem t)
      · nofun

/-- The last component is never empty then. -/
theorem exists_getLast?_openEnd (s : Text) (rest : List Text) :
    ∃ last, (openEnd (s :: rest)).getLast? = some last ∧ last ≠ [] := by
  induction rest generalizing s with
  | nil =>
    rw [openEnd]
    split
    · exact ⟨anyDepth, rfl, by decide⟩
    · next hs => exact ⟨s, rfl, fun hnil => hs (by rw [hnil]; rfl)⟩
  | cons next rest ih =>
    obtain ⟨last, hlast, hne⟩ := ih next
    refine ⟨last, ?_, hne⟩
    rw [openEnd, List.getLast?_cons, hlast]
    · rfl
    · nofun

/-- The last component of a rule is never empty. -/
theorem getLast?_components_ne (body : Text) : (components body).getLast? ≠ some [] := by
  have last : ∀ parts, (openEnd parts).getLast? ≠ some [] := by
    intro parts
    cases parts with
    | nil => nofun
    | cons s rest =>
      obtain ⟨last, hlast, hne⟩ := exists_getLast?_openEnd s rest
      rw [hlast]
      exact fun h => hne (Option.some.inj h)
  rw [components, getLast?_collapse]
  exact last _

/-- No component holds a slash. -/
theorem not_mem_of_mem_components {body s : Text} (h : s ∈ components body) : ('/' : CodePoint) ∉ s := by
  have any : ('/' : CodePoint) ∉ anyDepth := by decide
  have part : ∀ t ∈ Text.split '/' body, ('/' : CodePoint) ∉ t := fun t ht => Text.not_mem_of_mem_split ht
  rw [components] at h
  rcases mem_openEnd (mem_collapse h) with h | rfl
  · cases hsplit : Text.split '/' body with
    | nil =>
      rw [hsplit] at h
      cases h
    | cons first rest =>
      rw [hsplit] at h part
      dsimp only at h
      split at h
      · exact part s (List.mem_cons_of_mem first h)
      · split at h
        · rcases List.mem_cons.1 h with rfl | h
          · exact any
          · exact part s h
        · exact part s h
  · exact any

/-! ## Parts -/

/-- Does a part match alike whatever follows? -/
def Written.isFirm (w : Written) : Bool := w.regex.isPlain && w.regex.isForward

/-- Items are firm. -/
theorem IsItem.isFirm {item : Written} (h : IsItem item.regex) : item.isFirm = true := by
  obtain ⟨regex, length⟩ := item
  cases h with
  | _ => rfl

/-- The parts of a rule are firm, but for the one where the rule may end with the path. That one stands behind the
last item of the last component. -/
inductive IsShaped (last : Option Text) : List Written → Prop
  | firm {parts : List Written} (h : ∀ w ∈ parts, w.isFirm = true) : IsShaped last parts
  | closed {front : List Written} {item : Written} (h : ∀ w ∈ front, w.isFirm = true) (hitem : IsItem item.regex)
    (hlast : last.bind lastItem? = some item.regex) : IsShaped last (front ++ [item, ending])

/-- Firm parts in front of a shape keep the shape. -/
theorem IsShaped.prepend {last : Option Text} {more : List Written} (h : IsShaped last more) {parts : List Written}
    (hparts : ∀ w ∈ parts, w.isFirm = true) : IsShaped last (parts ++ more) := by
  cases h with
  | firm hmore => exact .firm (List.forall_mem_append.2 ⟨hparts, hmore⟩)
  | closed hfront hitem hlast =>
    rw [← List.append_assoc]
    exact .closed (List.forall_mem_append.2 ⟨hparts, hfront⟩) hitem hlast

/-- The parts of a component are firm but for the end of the rule, before which the last item stands. -/
theorem exists_of_componentParts {position : Nat} {first needsSlash last : Bool} {s : Text} {parts : List Written}
    (hs : ('/' : CodePoint) ∉ s) (h : componentParts position first needsSlash last s = .ok (some parts)) :
    ∃ front, parts = front ++ (if last then [ending] else []) ∧ (∀ w ∈ front, w.isFirm = true)
      ∧ (s ≠ [] → ∃ others item, front = others ++ [item] ∧ IsItem item.regex ∧ lastItem? s = some item.regex) := by
  have lead : ∀ w ∈ (if first then [⟨.anchor .textStart, 1⟩] else []) ++ (if needsSlash then [⟨slash, 1⟩] else []),
      Written.isFirm w = true := by
    cases first <;> cases needsSlash <;> decide
  unfold componentParts at h
  dsimp only at h
  split at h
  · next hstar =>
    obtain rfl := Option.some.inj (Except.ok.inj h)
    have star : IsItem (Written.mk (.many 1 none .greedy notSlash) 5).regex := .stars 1
    refine ⟨_, (List.append_cons _ _ _), ?_, fun _ => ⟨_, _, rfl, star, if_pos hstar⟩⟩
    exact List.forall_mem_append.2 ⟨lead, List.forall_mem_singleton.2 star.isFirm⟩
  · next hstar =>
    obtain ⟨found, hfound, hparts⟩ := map_eq_ok_iff.1 h
    obtain ⟨items, rfl, rfl⟩ := Option.map_eq_some_iff.1 hparts
    have all := isItem_of_mem_globItems hs hfound
    refine ⟨_, rfl, List.forall_mem_append.2 ⟨lead, fun w hw => (all w hw).isFirm⟩, fun hne => ?_⟩
    have hitems : items ≠ [] := by
      cases s with
      | nil => exact absurd rfl hne
      | cons c rest => exact globItems_ne_nil hfound
    obtain ⟨front, item, rfl⟩ := (List.eq_nil_or_concat items).resolve_left hitems
    rw [List.concat_eq_append] at hfound all ⊢
    refine ⟨_, item, (List.append_assoc _ _ _).symm, all item (List.mem_append_right _ List.mem_cons_self), ?_⟩
    have hglob : glob 0 s = .ok (some (front ++ [item])) := globItems_congr hfound 0
    rw [lastItem?, if_neg hstar, hglob]
    simp

/-- The parts of the first of several components, and those of the others. -/
theorem exists_of_ruleParts {directory first needsSlash : Bool} {position : Nat} {s : Text} {rest : List Text}
    {written : List Written} (h : ruleParts directory position first needsSlash (s :: rest) = .ok (some written)) :
    ∃ parts more next slashNext, written = parts ++ more
      ∧ ruleParts directory next false slashNext rest = .ok (some more)
      ∧ (s = anyDepth ∧ (parts = [leading] ∨ parts = [inside directory] ∨ parts = [middle])
        ∨ s ≠ anyDepth ∧ componentParts position first needsSlash rest.isEmpty s = .ok (some parts)) := by
  -- whatever the parts of the first component are, those of the others follow
  have rest_of : ∀ {parts : List Written} {slashNext : Bool}, (do
      let more ← ruleParts directory
        (position + parts.foldl (fun total part => total + part.length) 0) false slashNext rest
      return more.map (parts ++ ·)) = Except.ok (some written) →
      ∃ more next, written = parts ++ more ∧ ruleParts directory next false slashNext rest = .ok (some more) := by
    intro parts slashNext h
    obtain ⟨found, hfound, hreturn⟩ := bind_eq_ok_iff.1 h
    obtain ⟨more, rfl, rfl⟩ := Option.map_eq_some_iff.1 (Except.ok.inj hreturn)
    exact ⟨more, _, rfl, hfound⟩
  rw [ruleParts] at h
  split at h
  · next hs =>
    split at h
    · obtain ⟨more, next, hwritten, hmore⟩ := rest_of h
      exact ⟨_, more, next, _, hwritten, hmore, .inl ⟨hs, .inl rfl⟩⟩
    · split at h
      · obtain ⟨more, next, hwritten, hmore⟩ := rest_of h
        exact ⟨_, more, next, _, hwritten, hmore, .inl ⟨hs, .inr (.inl rfl)⟩⟩
      · obtain ⟨more, next, hwritten, hmore⟩ := rest_of h
        exact ⟨_, more, next, _, hwritten, hmore, .inl ⟨hs, .inr (.inr rfl)⟩⟩
  · next hs =>
    obtain ⟨found, hfound, h⟩ := bind_eq_ok_iff.1 h
    cases found with
    | none => cases h
    | some parts =>
      obtain ⟨more, next, hwritten, hmore⟩ := rest_of h
      exact ⟨parts, more, next, _, hwritten, hmore, .inr ⟨hs, hfound⟩⟩

/-- The parts of a rule are shaped so that only its last component may ask for the end of the path. -/
theorem isShaped_of_ruleParts {directory first needsSlash : Bool} {position : Nat} {parts : List Text}
    {written : List Written} (hslash : ∀ s ∈ parts, ('/' : CodePoint) ∉ s) (hlast : parts.getLast? ≠ some [])
    (h : ruleParts directory position first needsSlash parts = .ok (some written)) :
    IsShaped parts.getLast? written := by
  have any : ∀ parts, parts = [leading] ∨ parts = [inside directory] ∨ parts = [middle] →
      ∀ w ∈ parts, w.isFirm = true := by
    rintro _ (rfl | rfl | rfl) w hw <;> obtain rfl := List.mem_singleton.1 hw
    · rfl
    · cases directory <;> rfl
    · rfl
  induction parts generalizing position first needsSlash written with
  | nil =>
    obtain rfl := Option.some.inj (Except.ok.inj h)
    exact .firm nofun
  | cons s rest ih =>
    obtain ⟨hs, hrest⟩ := List.forall_mem_cons.1 hslash
    obtain ⟨found, more, next, slashNext, rfl, hmore, hfound⟩ := exists_of_ruleParts h
    cases rest with
    | nil =>
      obtain rfl := Option.some.inj (Except.ok.inj hmore)
      rw [List.append_nil]
      rcases hfound with ⟨-, hfound⟩ | ⟨-, hfound⟩
      · exact .firm (any _ hfound)
      · obtain ⟨_, rfl, hfirm, hitems⟩ := exists_of_componentParts hs hfound
        obtain ⟨front, item, rfl, hitem, hlastItem⟩ := hitems fun hnil => hlast (congrArg some hnil)
        have closed : IsShaped (some s) (front ++ [item, ending]) :=
          .closed (List.forall_mem_append.1 hfirm).1 hitem hlastItem
        rwa [List.append_cons] at closed
    | cons other others =>
      rw [List.getLast?_cons_cons] at hlast ⊢
      refine (ih hrest hlast hmore).prepend ?_
      rcases hfound with ⟨-, hfound⟩ | ⟨-, hfound⟩
      · exact any _ hfound
      · obtain ⟨front, rfl, hfirm, -⟩ := exists_of_componentParts hs hfound
        exact List.forall_mem_append.2 ⟨hfirm, nofun⟩

/-- The expression of a rule is a sequence of parts of that shape. -/
theorem exists_isShaped_of_expression {directory : Bool} {body : Text} {r : Regex}
    (h : expression directory (components body) = .ok (some r)) :
    ∃ written, IsShaped (components body).getLast? written ∧ r = sequence (written.map Written.regex) := by
  have single : ∀ w : Written, w.isFirm = true → r = w.regex →
      ∃ written, IsShaped (components body).getLast? written ∧ r = sequence (written.map Written.regex) :=
    fun w hw hr => ⟨[w], .firm (List.forall_mem_singleton.2 hw), hr⟩
  unfold expression at h
  split at h
  · cases h
  split at h
  · obtain rfl := Option.some.inj (Except.ok.inj h)
    cases directory
    · exact single ⟨.any false, 1⟩ rfl rfl
    · exact single ⟨behind, 11⟩ rfl rfl
  split at h
  · obtain rfl := Option.some.inj (Except.ok.inj h)
    exact single ⟨.any false, 1⟩ rfl rfl
  split at h
  · obtain rfl := Option.some.inj (Except.ok.inj h)
    cases directory
    · exact single ⟨slash, 1⟩ rfl rfl
    · exact single ⟨behind, 11⟩ rfl rfl
  · obtain ⟨found, hfound, hr⟩ := map_eq_ok_iff.1 h
    obtain ⟨written, rfl, rfl⟩ := Option.map_eq_some_iff.1 hr
    refine ⟨written, ?_, rfl⟩
    exact isShaped_of_ruleParts (fun s hs => not_mem_of_mem_components hs) (getLast?_components_ne body) hfound

/-! ## Paths below a directory -/

/-- The set of what is no slash holds everything else. -/
theorem has_notSlash (c : CodePoint) : Regex.CharSet.has ⟨true, [.one '/'], .exact⟩ c = true ↔ c ≠ '/' := by
  simp only [Regex.CharSet.has, List.any_cons, List.any_nil, Bool.or_false, Regex.Item.has]
  rw [bne_iff_ne]
  exact not_congr (Regex.exact_agrees '/' c)

/-- What stands at the end of a directory's path and is not empty holds a slash. -/
theorem slash_mem_of_append_eq {front taken directory : Text} (h : front ++ taken = directory ++ "/")
    (hne : taken ≠ []) : ('/' : CodePoint) ∈ taken := by
  obtain ⟨init, last, rfl⟩ := (List.eq_nil_or_concat taken).resolve_left hne
  rw [List.concat_eq_append, ← List.append_assoc] at h
  have hlast : [last] = [('/' : CodePoint)] := (List.append_inj' h rfl).2
  simp [List.singleton_inj.1 hlast]

/-- The last line of a directory's path ends where nothing follows, since the path does not end in a line break. -/
theorem eq_nil_of_lastLineEnd {before after directory : Text} (h : before ++ after = directory ++ "/")
    {state : Text} (hends : Regex.Anchor.lastLineEnd.holds (.between state after []) = true) : after = [] := by
  by_contra hne
  have hslash := slash_mem_of_append_eq h hne
  cases after with
  | nil => exact hne rfl
  | cons c rest =>
    obtain ⟨hc, hrest⟩ := Bool.and_eq_true_iff.1 hends
    rw [List.isEmpty_iff.1 hrest, List.mem_singleton, of_decide_eq_true hc] at hslash
    exact absurd hslash (by decide)

/-- The last item of a component takes nothing at the end of a directory's path, and only if it is a star. -/
theorem IsItem.eq_star {r : Regex} (hr : IsItem r) (hset : ∀ s, r = .set s → s.has '/' = false)
    {before taken after directory : Text} {groups : List Nat} (h : r.Takes before taken after groups)
    (hend : before ++ taken = directory ++ "/") : taken = [] ∧ r = .many 0 none .greedy notSlash := by
  have ends := slash_mem_of_append_eq hend
  cases hr with
  | plain c hc =>
    obtain ⟨d, hd, rfl, -⟩ := h
    have hslash := List.mem_singleton.1 (ends (List.cons_ne_nil _ _))
    exact absurd ((Regex.exact_agrees c d).1 hd ▸ hslash.symm) hc
  | set s =>
    obtain ⟨d, hd, rfl, -⟩ := h
    have hslash := List.mem_singleton.1 (ends (List.cons_ne_nil _ _))
    rw [← hslash, hset s rfl] at hd
    cases hd
  | stars least =>
    obtain ⟨hleast, hall, -⟩ := Regex.repeat_one_iff.1 h
    have hnil : taken = [] := by
      by_contra hne
      exact (has_notSlash _).1 (hall _ (ends hne)) rfl
    subst hnil
    obtain rfl := Nat.le_zero.1 (Regex.allows_none.1 hleast)
    exact ⟨rfl, rfl⟩

/-- A rule may end behind the rest of a name, whatever follows. -/
theorem exists_ending (before more : Text) : ∃ v w after h, more = v ++ (w ++ after) ∧ ('/' : CodePoint) ∉ v
    ∧ ending.regex.Takes (before ++ v) w after h := by
  induction more generalizing before with
  | nil => exact ⟨[], [], [], [], rfl, List.not_mem_nil, .inr ⟨rfl, rfl, rfl⟩⟩
  | cons c rest ih =>
    by_cases hc : c = '/'
    · have slash : slash.Takes (before ++ []) [c] rest [] :=
        ⟨c, (Regex.exact_agrees '/' c).2 hc, rfl, rfl⟩
      exact ⟨[], [c], rest, [1], rfl, List.not_mem_nil, .inl ⟨[], rfl, slash⟩⟩
    · obtain ⟨v, w, after, h, rfl, hv, hend⟩ := ih (before ++ [c])
      refine ⟨c :: v, w, after, h, rfl, ?_, by simpa using hend⟩
      exact fun hmem => (List.mem_cons.1 hmem).elim (fun heq => hc heq.symm) hv

/-- A star takes any text without a slash. -/
theorem takes_star {v : Text} (hv : ('/' : CodePoint) ∉ v) (before after : Text) :
    Takes (.many 0 none .greedy notSlash) before v after [] := by
  refine Regex.repeat_one_iff.2 ⟨Regex.allows_none.2 (Nat.zero_le _), fun c hc => (has_notSlash c).2 ?_, rfl⟩
  rintro rfl
  exact hv hc

theorem Written.isFirm_iff {w : Written} : w.isFirm = true ↔ w.regex.isPlain = true ∧ w.regex.isForward = true :=
  Bool.and_eq_true_iff

/-- An expression of such a shape is made of plain parts. -/
theorem IsShaped.isPlain {last : Option Text} {written : List Written} (h : IsShaped last written) :
    (sequence (written.map Written.regex)).isPlain = true := by
  refine Regex.isPlain_sequence (List.forall_mem_map.2 ?_)
  cases h with
  | firm h => exact fun w hw => (Written.isFirm_iff.1 (h w hw)).1
  | closed h hitem hlast =>
    refine List.forall_mem_append.2 ⟨fun w hw => (Written.isFirm_iff.1 (h w hw)).1, ?_⟩
    exact List.forall_mem_cons.2 ⟨(Written.isFirm_iff.1 hitem.isFirm).1, List.forall_mem_singleton.2 rfl⟩

/-- What firm parts take is taken whatever follows it. -/
theorem isForward_of_isFirm {parts : List Written} (h : ∀ w ∈ parts, w.isFirm = true) :
    (sequence (parts.map Written.regex)).Takes.IsForward :=
  Regex.isForward_takes <| Regex.isForward_sequence <| List.forall_mem_map.2 fun w hw =>
    (Written.isFirm_iff.1 (h w hw)).2

/-- What is matched at the end of a directory's path is matched below it. -/
theorem IsShaped.isSome_search_append {last : Option Text} {written : List Written} (h : IsShaped last written)
    (hlast : ∀ s, last.bind lastItem? = some (.set s) → s.has '/' = false) {directory : Text}
    (hfound : ((sequence (written.map Written.regex)).search (directory ++ "/")).isSome = true) (more : Text) :
    ((sequence (written.map Written.regex)).search (directory ++ "/" ++ more)).isSome = true := by
  rw [Regex.search_isSome_iff h.isPlain] at hfound ⊢
  obtain ⟨before, taken, after, groups, htext, htakes⟩ := hfound
  cases h with
  | firm h =>
    refine ⟨before, taken, after ++ more, groups, ?_, isForward_of_isFirm h _ _ _ _ htakes _⟩
    rw [htext]
    simp only [List.append_assoc]
  | @closed front item h hitem hshape =>
    have parts : (front ++ [item, ending]).map Written.regex
        = front.map Written.regex ++ [item.regex, ending.regex] := List.map_append
    rw [parts, Regex.takes_sequence_append] at htakes ⊢
    obtain ⟨u, _, g, _, rfl, rfl, hfront, v, w, i, j, rfl, rfl, hv, hw⟩ := htakes
    have forward := Regex.isForward_takes (Written.isFirm_iff.1 hitem.isFirm).2
    rcases hw with ⟨_, rfl, d, hd, rfl, rfl⟩ | ⟨hw, rfl, rfl⟩
    -- the path goes on
    · refine ⟨before, u ++ (v ++ [d]), after ++ more, _, ?_, u, v ++ [d], g, _, rfl, rfl,
        isForward_of_isFirm h _ _ _ _ hfront _, v, [d], i, _, rfl, rfl, forward _ _ _ _ hv _,
        .inl ⟨[], rfl, d, hd, rfl, rfl⟩⟩
      rw [htext]
      simp only [List.append_assoc]
    -- the path ends, so that the last item is a star, which can take the next name
    · have whole : before ++ (u ++ (v ++ [])) ++ after = directory ++ ("/" : Text) := by
        rw [htext]
        simp only [List.append_assoc]
      obtain rfl := eq_nil_of_lastLineEnd whole hw
      have hend : before ++ u ++ v = directory ++ ("/" : Text) := by
        rw [htext]
        simp only [List.append_assoc, List.append_nil]
      obtain ⟨rfl, hstar⟩ := hitem.eq_star (fun s hs => hlast s (hshape.trans (congrArg some hs))) hv hend
      obtain ⟨v, w, after, j, rfl, hv, hclose⟩ := exists_ending (before ++ u) more
      rw [List.append_nil] at hend
      refine ⟨before, u ++ (v ++ w), after, _, ?_, u, v ++ w, g, _, rfl, rfl,
        isForward_of_isFirm h _ _ _ _ hfront _, v, w, [], j, rfl, rfl, ?_, hclose⟩
      · rw [← hend]
        simp only [List.append_assoc]
      · rw [hstar]
        exact takes_star hv _ _

/-! ## Rules -/

/-- The expression of a line's rule is a sequence of parts of that shape. -/
theorem exists_isShaped_of_ofLine {line : Text} {rule : Rule} (h : Rule.ofLine line = .ok (some rule)) :
    ∃ written, IsShaped (components (bodyOf line)).getLast? written
      ∧ rule.regex = sequence (written.map Written.regex) := by
  obtain ⟨-, directory, hexpression⟩ := ofLine_eq_ok_some h
  exact exists_isShaped_of_expression hexpression

/-- A rule that matches a directory matches all that lies below, if its line ends in no set that holds a slash. -/
theorem isSome_search_below {line : Text} {rule : Rule} (h : Rule.ofLine line = .ok (some rule))
    (hline : endsOnSlash line = false) {directory : Text}
    (hfound : (rule.regex.search (directory ++ "/")).isSome = true) (more : Text) :
    (rule.regex.search (directory ++ "/" ++ more)).isSome = true := by
  obtain ⟨written, hshape, hregex⟩ := exists_isShaped_of_ofLine h
  rw [hregex] at hfound ⊢
  refine hshape.isSome_search_append (fun s hs => ?_) hfound more
  rw [endsOnSlash, hs] at hline
  exact hline

end SourceAtlas.Ignore
