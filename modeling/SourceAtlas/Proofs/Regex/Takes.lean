import SourceAtlas.Regex.Matcher

/-!
What expressions take. A plain expression is made of characters, sets, anchors, sequences, choices, groups and greedy
repetitions of something that takes a character at least. What it takes from a text, and which of its groups take
part, can be said by its form. The matcher finds a way to go on behind such an expression exactly if there is one.
An expression without anchors but that at the start of the text takes the same whatever follows.

Main statements: `follows_run`, `exists_takes_of_search`, `search_isSome_iff`.
-/

namespace SourceAtlas.Regex

/-! ## Plain expressions -/

/-- Does an expression take a character wherever it matches? -/
def isSolid : Regex → Bool
  | .fail => true
  | .char _ _ => true
  | .set _ => true
  | .any _ => true
  | .seq first second => first.isSolid || second.isSolid
  | .alt first second => first.isSolid && second.isSolid
  | .group _ body => body.isSolid
  | .many least _ _ body => 0 < least && body.isSolid
  | _ => false

/-- Is an expression made of plain parts, with greedy repetitions of solid ones? -/
def isPlain : Regex → Bool
  | .fail => true
  | .empty => true
  | .char _ _ => true
  | .set _ => true
  | .any _ => true
  | .anchor _ => true
  | .seq first second => first.isPlain && second.isPlain
  | .alt first second => first.isPlain && second.isPlain
  | .group _ body => body.isPlain
  | .many _ _ greed body => greed = .greedy && body.isPlain && body.isSolid
  | _ => false

/-- The state between two parts of a text. -/
def State.between (before after : Text) (captures : List Capture) : State :=
  ⟨before.length, before.reverse, after, captures⟩

/-- What may be taken between some text and some other, and the groups that take part in that, the latest first. -/
abbrev Taking := (before taken after : Text) → (groups : List Nat) → Prop

/-- One character that passes a test. -/
def One (p : CodePoint → Bool) : Taking := fun _ taken _ groups => ∃ c, p c = true ∧ taken = [c] ∧ groups = []

/-- One thing after the other. -/
def Then (first second : Taking) : Taking := fun before taken after groups =>
  ∃ u v g h, taken = u ++ v ∧ groups = h ++ g ∧ first before u (v ++ after) g ∧ second (before ++ u) v after h

/-- So many rounds, one after the other. -/
def Rounds (body : Taking) : Nat → Taking
  | 0 => fun _ taken _ groups => taken = [] ∧ groups = []
  | n + 1 => Then body (Rounds body n)

/-- May a repetition have so many rounds? -/
def Allows (least : Nat) (most : Option Nat) (n : Nat) : Prop := least ≤ n ∧ ∀ m ∈ most, n ≤ max least m

/-- What a plain expression takes. -/
def Takes : Regex → Taking
  | .empty => fun _ taken _ groups => taken = [] ∧ groups = []
  | .char c f => One (f.agrees c)
  | .set s => One s.has
  | .any newlines => One fun c => newlines || c != '\n'
  | .anchor a => fun before taken after groups => a.holds (.between before after []) = true ∧ taken = [] ∧ groups = []
  | .seq first second => Then (Takes first) (Takes second)
  | .alt first second => fun before taken after groups =>
    Takes first before taken after groups ∨ Takes second before taken after groups
  | .group index body => fun before taken after groups => ∃ g, groups = index :: g ∧ Takes body before taken after g
  | .many least most _ body => fun before taken after groups =>
    ∃ n, Allows least most n ∧ Rounds (Takes body) n before taken after groups
  | _ => fun _ _ _ _ => False

/-- Whatever is taken is not empty. -/
def Taking.IsSolid (takes : Taking) : Prop :=
  ∀ {before taken after : Text} {groups : List Nat}, takes before taken after groups → 0 < taken.length

theorem Taking.IsSolid.length_le_of_rounds {body : Taking} (hbody : body.IsSolid) {n : Nat}
    {before taken after : Text} {groups : List Nat} (h : Rounds body n before taken after groups) :
    n ≤ taken.length := by
  induction n generalizing before taken groups with
  | zero => exact Nat.zero_le _
  | succ n ih =>
    obtain ⟨u, v, g, h, rfl, -, hfirst, hrest⟩ := h
    have := hbody hfirst
    have := ih hrest
    rw [List.length_append]
    omega

theorem isSolid_takes {r : Regex} (hr : r.isSolid = true) : r.Takes.IsSolid := by
  intro before taken after groups h
  induction r generalizing before taken after groups with
  | char _ _ | set _ | any _ =>
    obtain ⟨c, -, rfl, -⟩ := h
    exact Nat.one_pos
  | seq first second ihfirst ihsecond =>
    obtain ⟨u, v, g, h, rfl, -, hfirst, hsecond⟩ := h
    rw [List.length_append]
    rcases Bool.or_eq_true_iff.1 hr with hr | hr
    · exact Nat.add_pos_left (ihfirst hr hfirst) _
    · exact Nat.add_pos_right _ (ihsecond hr hsecond)
  | alt first second ihfirst ihsecond =>
    obtain ⟨hrfirst, hrsecond⟩ := Bool.and_eq_true_iff.1 hr
    exact h.elim (ihfirst hrfirst) (ihsecond hrsecond)
  | group index body ih =>
    obtain ⟨g, -, hbody⟩ := h
    exact ih hr hbody
  | many least most greed body ih =>
    obtain ⟨hleast, hbody⟩ := Bool.and_eq_true_iff.1 hr
    obtain ⟨n, hallows, hrounds⟩ := h
    have few := Taking.IsSolid.length_le_of_rounds (ih hbody) hrounds
    have := of_decide_eq_true hleast
    have := hallows.1
    omega
  | fail => exact h.elim
  | _ => cases hr

/-! ### Characters and sequences -/

theorem exact_agrees (c d : CodePoint) : Folding.exact.agrees c d = true ↔ d = c := by
  simp [Folding.agrees, Folding.alike, Folding.fold]

theorem rounds_one_iff {p : CodePoint → Bool} {n : Nat} {before taken after : Text} {groups : List Nat} :
    Rounds (One p) n before taken after groups
      ↔ taken.length = n ∧ (∀ c ∈ taken, p c = true) ∧ groups = [] := by
  induction n generalizing before taken groups with
  | zero =>
    rw [List.length_eq_zero_iff]
    constructor
    · rintro ⟨rfl, rfl⟩
      exact ⟨rfl, nofun, rfl⟩
    · exact fun ⟨htaken, _, hgroups⟩ => ⟨htaken, hgroups⟩
  | succ n ih =>
    constructor
    · rintro ⟨_, v, _, h, rfl, rfl, ⟨c, hc, rfl, rfl⟩, hrest⟩
      obtain ⟨hlength, hv, rfl⟩ := ih.1 hrest
      exact ⟨congrArg (· + 1) hlength, List.forall_mem_cons.2 ⟨hc, hv⟩, rfl⟩
    · rintro ⟨hlength, htaken, rfl⟩
      obtain ⟨c, v, rfl⟩ := List.exists_cons_of_length_eq_add_one hlength
      obtain ⟨hc, hv⟩ := List.forall_mem_cons.1 htaken
      exact ⟨[c], v, [], [], rfl, rfl, ⟨c, hc, rfl, rfl⟩, ih.2 ⟨Nat.succ.inj hlength, hv, rfl⟩⟩

/-- Repeated characters that pass a test. -/
theorem repeat_one_iff {p : CodePoint → Bool} {least : Nat} {most : Option Nat} {before taken after : Text}
    {groups : List Nat} : (∃ n, Allows least most n ∧ Rounds (One p) n before taken after groups)
      ↔ Allows least most taken.length ∧ (∀ c ∈ taken, p c = true) ∧ groups = [] := by
  constructor
  · rintro ⟨n, hallows, hrounds⟩
    obtain ⟨rfl, hrest⟩ := rounds_one_iff.1 hrounds
    exact ⟨hallows, hrest⟩
  · rintro ⟨hallows, hrest⟩
    exact ⟨_, hallows, rounds_one_iff.2 ⟨rfl, hrest⟩⟩

theorem allows_none {least n : Nat} : Allows least none n ↔ least ≤ n := and_iff_left nofun

theorem Taking.ext {first second : Taking}
    (h : ∀ before taken after groups, first before taken after groups ↔ second before taken after groups) :
    first = second :=
  funext fun _ => funext fun _ => funext fun _ => funext fun _ => propext (h _ _ _ _)

theorem Then.assoc (first second third : Taking) :
    Then (Then first second) third = Then first (Then second third) := by
  refine Taking.ext fun before taken after groups => ⟨?_, ?_⟩
  · rintro ⟨_, w, _, i, rfl, rfl, ⟨u, v, g, h, rfl, rfl, hu, hv⟩, hw⟩
    rw [← List.append_assoc] at hw
    rw [← List.append_assoc] at hu
    exact ⟨u, v ++ w, g, i ++ h, by simp, by simp, by simpa using hu, v, w, h, i, rfl, rfl, hv, hw⟩
  · rintro ⟨u, _, g, _, rfl, rfl, hu, v, w, h, i, rfl, rfl, hv, hw⟩
    rw [List.append_assoc] at hu hw
    exact ⟨u ++ v, w, h ++ g, i, by simp, by simp, ⟨u, v, g, h, rfl, rfl, hu, hv⟩, hw⟩

theorem takes_empty_then (takes : Taking) : Then Regex.empty.Takes takes = takes := by
  refine Taking.ext fun before taken after groups => ⟨?_, ?_⟩
  · rintro ⟨_, v, _, h, rfl, rfl, ⟨rfl, rfl⟩, hv⟩
    simpa using hv
  · intro h
    exact ⟨[], taken, [], groups, rfl, by simp, ⟨rfl, rfl⟩, by simpa using h⟩

theorem takes_sequence_cons (r : Regex) (rs : List Regex) :
    (sequence (r :: rs)).Takes = Then r.Takes (sequence rs).Takes := by
  cases rs with
  | cons next rest => rfl
  | nil =>
    refine Taking.ext fun before taken after groups => ⟨?_, ?_⟩
    · intro h
      exact ⟨taken, [], groups, [], (List.append_nil taken).symm, rfl, h, rfl, rfl⟩
    · rintro ⟨u, _, g, _, rfl, rfl, h, rfl, rfl⟩
      rw [List.append_nil]
      exact h

theorem takes_sequence_append (front back : List Regex) :
    (sequence (front ++ back)).Takes = Then (sequence front).Takes (sequence back).Takes := by
  induction front with
  | nil => exact (takes_empty_then _).symm
  | cons r rest ih => rw [List.cons_append, takes_sequence_cons, ih, takes_sequence_cons, Then.assoc]

/-- A word is taken as it stands. -/
theorem takes_literal_iff {word before taken after : Text} {groups : List Nat} :
    (literal word).Takes before taken after groups ↔ taken = word ∧ groups = [] := by
  induction word generalizing before taken groups with
  | nil => exact Iff.rfl
  | cons c rest ih =>
    rw [literal, List.map_cons, takes_sequence_cons]
    constructor
    · rintro ⟨_, v, _, h, rfl, rfl, ⟨d, hd, rfl, rfl⟩, hrest⟩
      obtain ⟨rfl, rfl⟩ := ih.1 hrest
      obtain rfl := (exact_agrees c d).1 hd
      exact ⟨rfl, rfl⟩
    · rintro ⟨rfl, rfl⟩
      exact ⟨[c], rest, [], [], rfl, rfl, ⟨c, (exact_agrees c c).2 rfl, rfl, rfl⟩, ih.2 ⟨rfl, rfl⟩⟩

/-! ### What follows -/

/-- Does an expression take the same whatever follows? -/
def isForward : Regex → Bool
  | .fail => true
  | .empty => true
  | .char _ _ => true
  | .set _ => true
  | .any _ => true
  | .anchor a => a = .textStart
  | .seq first second => first.isForward && second.isForward
  | .alt first second => first.isForward && second.isForward
  | .group _ body => body.isForward
  | .many _ _ _ body => body.isForward
  | _ => false

/-- What is taken is taken whatever follows it. -/
def Taking.IsForward (takes : Taking) : Prop :=
  ∀ before taken after groups, takes before taken after groups → ∀ other, takes before taken other groups

theorem Taking.IsForward.andThen {first second : Taking} (hfirst : first.IsForward) (hsecond : second.IsForward) :
    (Then first second).IsForward := by
  rintro before _ after _ ⟨u, v, g, h, rfl, rfl, hu, hv⟩ other
  exact ⟨u, v, g, h, rfl, rfl, hfirst _ _ _ _ hu _, hsecond _ _ _ _ hv other⟩

theorem Taking.IsForward.rounds {body : Taking} (hbody : body.IsForward) (n : Nat) : (Rounds body n).IsForward := by
  induction n with
  | zero => exact fun _ _ _ _ h _ => h
  | succ n ih => exact hbody.andThen ih

theorem isForward_takes {r : Regex} (hr : r.isForward = true) : r.Takes.IsForward := by
  induction r with
  | fail | empty | char _ _ | set _ | any _ => exact fun _ _ _ _ h _ => h
  | anchor a =>
    obtain rfl : a = .textStart := of_decide_eq_true hr
    exact fun _ _ _ _ h _ => h
  | seq first second ihfirst ihsecond =>
    obtain ⟨hfirst, hsecond⟩ := Bool.and_eq_true_iff.1 hr
    exact (ihfirst hfirst).andThen (ihsecond hsecond)
  | alt first second ihfirst ihsecond =>
    obtain ⟨hfirst, hsecond⟩ := Bool.and_eq_true_iff.1 hr
    intro before taken after groups h other
    exact h.imp (ihfirst hfirst _ _ _ _ · other) (ihsecond hsecond _ _ _ _ · other)
  | group index body ih =>
    rintro before taken after groups ⟨g, rfl, h⟩ other
    exact ⟨g, rfl, ih hr _ _ _ _ h other⟩
  | many least most greed body ih =>
    rintro before taken after groups ⟨n, hallows, h⟩ other
    exact ⟨n, hallows, (ih hr).rounds n _ _ _ _ h other⟩
  | _ => cases hr

/-! ### Sequences of parts -/

/-- What holds of parts holds of their sequence. -/
theorem sequence_of_forall {p : Regex → Prop} (hempty : p .empty)
    (hseq : ∀ {first second}, p first → p second → p (.seq first second)) {rs : List Regex} (h : ∀ r ∈ rs, p r) :
    p (sequence rs) := by
  induction rs with
  | nil => exact hempty
  | cons r rest ih =>
    obtain ⟨hr, hrest⟩ := List.forall_mem_cons.1 h
    cases rest with
    | nil => exact hr
    | cons next more => exact hseq hr (ih hrest)

theorem isPlain_sequence {rs : List Regex} (h : ∀ r ∈ rs, r.isPlain = true) : (sequence rs).isPlain = true :=
  @sequence_of_forall (·.isPlain = true) rfl (fun hfirst hsecond => Bool.and_eq_true_iff.2 ⟨hfirst, hsecond⟩) _ h

theorem isForward_sequence {rs : List Regex} (h : ∀ r ∈ rs, r.isForward = true) :
    (sequence rs).isForward = true :=
  @sequence_of_forall (·.isForward = true) rfl (fun hfirst hsecond => Bool.and_eq_true_iff.2 ⟨hfirst, hsecond⟩) _ h

/-! ## The matcher -/

theorem takeOne_between (p : CodePoint → Bool) (before : Text) (c : CodePoint) (rest : Text)
    (captures : List Capture) : takeOne p (.between before (c :: rest) captures)
      = if p c then some (.between (before ++ [c]) rest captures) else none := by
  simp [takeOne, State.between, State.step]

theorem Anchor.holds_between (a : Anchor) (before after : Text) (captures : List Capture) :
    a.holds (.between before after captures) = a.holds (.between before after []) := by
  cases a with
  | _ => rfl

/-- The groups of captures. -/
def groupsOf (captures : List Capture) : List Nat := captures.map Capture.group

/-- Something is taken from the beginning of a text, and what is done then completes the match. -/
def Leads (takes : Taking) (k : Continue) (before text : Text) (captures : List Capture) (done : State) : Prop :=
  ∃ taken after groups now, text = taken ++ after ∧ takes before taken after groups
    ∧ groupsOf now = groups ++ groupsOf captures ∧ k (.between (before ++ taken) after now) = some done

/-- What is done behind something that is taken completes the match, wherever exactly the groups stand. -/
def Succeeds (k : Continue) (before taken after : Text) (groups : List Nat) (captures : List Capture) : Prop :=
  ∀ now, groupsOf now = groups ++ groupsOf captures → (k (.between (before ++ taken) after now)).isSome = true

/-- A part of the matcher takes what is said, and goes on if there is a way to. -/
structure Follows (takes : Taking) (part : Continue → Continue) : Prop where
  sound : ∀ {k : Continue} {before text : Text} {captures : List Capture} {done : State},
    part k (.between before text captures) = some done → Leads takes k before text captures done
  complete : ∀ {k : Continue} {before taken after : Text} {groups : List Nat} {captures : List Capture},
    takes before taken after groups → Succeeds k before taken after groups captures →
      (part k (.between before (taken ++ after) captures)).isSome = true

/-- Nothing is taken, and what is done at once completes the match. -/
theorem Leads.of_nil {takes : Taking} {k : Continue} {before text : Text} {captures : List Capture} {done : State}
    (htakes : takes before [] text []) (h : k (.between before text captures) = some done) :
    Leads takes k before text captures done :=
  ⟨[], text, [], captures, rfl, htakes, rfl, by rwa [List.append_nil]⟩

theorem Succeeds.of_nil {k : Continue} {before after : Text} {captures : List Capture}
    (h : Succeeds k before [] after [] captures) : (k (.between before after captures)).isSome = true := by
  have := h captures rfl
  rwa [List.append_nil] at this

/-- Behind something that is taken, something else leads to the end of the match. -/
theorem Leads.behind {first second : Taking} {k : Continue} {before u rest : Text} {g : List Nat}
    {captures now : List Capture} {done : State} (hfirst : first before u rest g)
    (hnow : groupsOf now = g ++ groupsOf captures) (h : Leads second k (before ++ u) rest now done) :
    Leads (Then first second) k before (u ++ rest) captures done := by
  obtain ⟨v, after, others, final, rfl, hsecond, hfinal, hdone⟩ := h
  refine ⟨u ++ v, after, others ++ g, final, by rw [List.append_assoc], ⟨u, v, g, others, rfl, rfl, hfirst, hsecond⟩,
    ?_, by rwa [← List.append_assoc]⟩
  rw [hfinal, hnow, List.append_assoc]

/-- Behind the first of two things the second is taken, with what is done behind both. -/
theorem Succeeds.andThen {k : Continue} {before u v after : Text} {g h : List Nat} {captures now : List Capture}
    (hk : Succeeds k before (u ++ v) after (h ++ g) captures) (hnow : groupsOf now = g ++ groupsOf captures) :
    Succeeds k (before ++ u) v after h now := by
  intro final hfinal
  rw [List.append_assoc]
  refine hk final ?_
  rw [hfinal, hnow, List.append_assoc]

theorem Follows.andThen {first second : Taking} {one other : Continue → Continue} (hone : Follows first one)
    (hother : Follows second other) : Follows (Then first second) fun k => one (other k) where
  sound := by
    intro k before text captures done h
    obtain ⟨u, rest, g, now, rfl, hfirst, hnow, h⟩ := hone.sound h
    exact .behind hfirst hnow (hother.sound h)
  complete := by
    rintro k before taken after groups captures ⟨u, v, g, h, rfl, rfl, hu, hv⟩ hk
    rw [List.append_assoc]
    exact hone.complete hu fun now hnow => hother.complete hv (hk.andThen hnow)

/-- A character is taken as the matcher does it. -/
theorem follows_takeOne (p : CodePoint → Bool) : Follows (One p) fun k s => (takeOne p s).bind k where
  sound := by
    intro k before text captures done h
    cases text with
    | nil => cases h
    | cons c rest =>
      rw [takeOne_between] at h
      split at h
      · next hc => exact ⟨[c], rest, [], captures, rfl, ⟨c, hc, rfl, rfl⟩, rfl, h⟩
      · cases h
  complete := by
    rintro k before taken after groups captures ⟨c, hc, rfl, rfl⟩ hk
    rw [List.singleton_append, takeOne_between, if_pos hc]
    exact hk captures rfl

/-! ### Repetition -/

section

variable {takes : Taking} {body : Continue → Continue} {least : Nat} {most : Option Nat} {k : Continue}

/-- What greedy rounds come to when some have been made. -/
theorem exists_rounds_of_greedy (hbody : Follows takes body) {fuel count : Nat} {last : Option Nat}
    {before text : Text} {captures : List Capture} {done : State}
    (h : greedy body least most k fuel count last (.between before text captures) = some done) :
    ∃ n, least ≤ count + n ∧ (∀ m ∈ most, count ≤ max least m → count + n ≤ max least m)
      ∧ Leads (Rounds takes n) k before text captures done := by
  induction fuel generalizing count last before text captures with
  | zero => cases h
  | succ fuel ih =>
    have stop : least ≤ count → k (.between before text captures) = some done →
        ∃ n, least ≤ count + n ∧ (∀ m ∈ most, count ≤ max least m → count + n ≤ max least m)
          ∧ Leads (Rounds takes n) k before text captures done :=
      fun hleast h => ⟨0, hleast, fun _ _ hcount => hcount, .of_nil ⟨rfl, rfl⟩ h⟩
    -- after one more round the others are made
    have more : ∀ {last}, (∀ m ∈ most, count ≤ max least m → count + 1 ≤ max least m) →
        body (greedy body least most k fuel (count + 1) last) (.between before text captures) = some done →
        ∃ n, least ≤ count + n ∧ (∀ m ∈ most, count ≤ max least m → count + n ≤ max least m)
          ∧ Leads (Rounds takes n) k before text captures done := by
      intro last hmost h
      obtain ⟨u, rest, g, now, rfl, hfirst, hnow, h⟩ := hbody.sound h
      obtain ⟨n, hleast, hrest, hleads⟩ := ih h
      refine ⟨n + 1, by omega, fun m hm hcount => ?_, .behind hfirst hnow hleads⟩
      have := hrest m hm (hmost m hm hcount)
      omega
    unfold greedy at h
    split at h
    · next hcount => exact more (fun m _ _ => by omega) h
    · next hcount =>
      have hleast : least ≤ count := Nat.le_of_not_lt hcount
      split at h
      · next hrepeat =>
        split at h
        · next found hfound =>
          refine more ?_ (hfound.trans h)
          rintro m rfl _
          have : count < m := of_decide_eq_true (Bool.and_eq_true_iff.1 hrepeat).1
          omega
        · exact stop hleast h
      · exact stop hleast h

/-- If there are rounds behind which a match can be completed, it is, as long as each takes something. -/
theorem isSome_greedy_of_rounds (hbody : Follows takes body) (hsolid : takes.IsSolid) {n fuel count : Nat}
    {last : Option Nat} {before taken after : Text} {groups : List Nat} {captures : List Capture}
    (hrounds : Rounds takes n before taken after groups) (hfuel : n < fuel) (hleast : least ≤ count + n)
    (hmost : ∀ m ∈ most, count + n ≤ max least m) (hlast : ∀ p ∈ last, p < before.length)
    (hk : Succeeds k before taken after groups captures) :
    (greedy body least most k fuel count last (.between before (taken ++ after) captures)).isSome = true := by
  induction n generalizing fuel count last before taken groups captures with
  | zero =>
    obtain ⟨fuel, rfl⟩ := Nat.exists_eq_succ_of_ne_zero (Nat.ne_zero_of_lt hfuel)
    obtain ⟨rfl, rfl⟩ := hrounds
    have here := hk.of_nil
    have enough : ¬ count < least := Nat.not_lt.2 hleast
    rw [List.nil_append, greedy, if_neg enough]
    split
    · split
      · rfl
      · exact here
    · exact here
  | succ n ih =>
    obtain ⟨fuel, rfl⟩ := Nat.exists_eq_succ_of_ne_zero (Nat.ne_zero_of_lt hfuel)
    obtain ⟨u, v, g, h, rfl, rfl, hfirst, hrest⟩ := hrounds
    have longer : before.length < (before ++ u).length := by
      have := hsolid hfirst
      rw [List.length_append]
      omega
    -- behind the first round the others are made, wherever the last optional one began
    have round : ∀ next : Option Nat, (∀ p ∈ next, p < (before ++ u).length) →
        (body (greedy body least most k fuel (count + 1) next)
          (.between before (u ++ (v ++ after)) captures)).isSome = true := by
      intro next hnext
      refine hbody.complete hfirst fun now hnow => ?_
      refine ih hrest (Nat.lt_of_succ_lt_succ hfuel) (by omega) (fun m hm => ?_) hnext (hk.andThen hnow)
      have := hmost m hm
      omega
    rw [List.append_assoc, greedy]
    split
    · exact round last fun p hp => Nat.lt_trans (hlast p hp) longer
    · next hcount =>
      have again : (mayRepeat count most && last != some before.length) = true := by
        rw [Bool.and_eq_true]
        constructor
        · cases most with
          | none => rfl
          | some m =>
            have := hmost m rfl
            exact decide_eq_true (by omega)
        · rw [bne_iff_ne]
          rintro rfl
          exact absurd (hlast before.length rfl) (Nat.lt_irrefl _)
      have here : (State.between before (u ++ (v ++ after)) captures).position = before.length := rfl
      rw [here, if_pos again]
      split
      · rfl
      · next hnone =>
        have some := round (some before.length) fun p hp => Option.some.inj hp ▸ longer
        rw [hnone] at some
        cases some

/-- Greedy rounds are made as the matcher makes them. -/
theorem follows_greedy (hbody : Follows takes body) (hsolid : takes.IsSolid) (least : Nat) (most : Option Nat) :
    Follows (fun before taken after groups => ∃ n, Allows least most n ∧ Rounds takes n before taken after groups)
      fun k s => greedy body least most k (rounds least s) 0 none s where
  sound := by
    intro k before text captures done h
    obtain ⟨n, hleast, hmost, taken, after, groups, now, htext, hrounds, rest⟩ := exists_rounds_of_greedy hbody h
    rw [Nat.zero_add] at hleast hmost
    exact ⟨taken, after, groups, now, htext, ⟨n, ⟨hleast, fun m hm => hmost m hm (Nat.zero_le _)⟩, hrounds⟩, rest⟩
  complete := by
    rintro k before taken after groups captures ⟨n, ⟨hleast, hmost⟩, hrounds⟩ hk
    have few := hsolid.length_le_of_rounds hrounds
    have fuel : n < rounds least (.between before (taken ++ after) captures) := by
      show n < least + (taken ++ after).length + 2
      rw [List.length_append]
      omega
    rw [← Nat.zero_add n] at hleast hmost
    exact isSome_greedy_of_rounds hbody hsolid hrounds fuel hleast hmost (fun p hp => nomatch hp) hk

end

/-! ### Expressions -/

theorem follows_anchor (a : Anchor) : Follows (Takes (.anchor a)) (run (.anchor a)) where
  sound {k before text captures done} h := by
    rw [run, a.holds_between] at h
    split at h
    · next ha => exact .of_nil ⟨ha, rfl, rfl⟩ h
    · cases h
  complete {k before taken after groups captures} htakes hk := by
    obtain ⟨ha, rfl, rfl⟩ := htakes
    rw [List.nil_append, run, a.holds_between, if_pos ha]
    exact hk.of_nil

/-- Where the first alternative cannot be completed, the second is tried. -/
theorem Follows.orElse {first second : Regex} (hfirst : Follows first.Takes first.run)
    (hsecond : Follows second.Takes second.run) : Follows (Takes (.alt first second)) (run (.alt first second)) where
  sound {k before text captures done} h := by
    rw [run] at h
    split at h
    · next found hfound =>
      obtain ⟨taken, after, groups, now, htext, htakes, rest⟩ := hfirst.sound (hfound.trans h)
      exact ⟨taken, after, groups, now, htext, .inl htakes, rest⟩
    · obtain ⟨taken, after, groups, now, htext, htakes, rest⟩ := hsecond.sound h
      exact ⟨taken, after, groups, now, htext, .inr htakes, rest⟩
  complete {k before taken after groups captures} htakes hk := by
    rw [run]
    split
    · rfl
    · next hnone =>
      rcases htakes with htakes | htakes
      · have some := hfirst.complete htakes hk
        rw [hnone] at some
        cases some
      · exact hsecond.complete htakes hk

/-- A group is noted behind those within it. -/
theorem Follows.inGroup {body : Regex} (hbody : Follows body.Takes body.run) (index : Nat) :
    Follows (Takes (.group index body)) (run (.group index body)) where
  sound {k before text captures done} h := by
    obtain ⟨taken, after, groups, now, htext, htakes, hnow, hdone⟩ := hbody.sound h
    refine ⟨taken, after, index :: groups, _, htext, ⟨groups, rfl, htakes⟩, ?_, hdone⟩
    exact congrArg (index :: ·) hnow
  complete {k before taken after groups captures} htakes hk := by
    obtain ⟨g, rfl, htakes⟩ := htakes
    exact hbody.complete htakes fun now hnow => hk _ (congrArg (index :: ·) hnow)

/-- The matcher takes what a plain expression takes, and goes on behind it if there is a way to. -/
theorem follows_run {r : Regex} (hr : r.isPlain = true) : Follows r.Takes r.run := by
  induction r with
  | fail => exact ⟨nofun, nofun⟩
  | empty => exact ⟨fun h => .of_nil ⟨rfl, rfl⟩ h, fun ⟨htaken, hgroups⟩ hk => by subst htaken hgroups; exact hk.of_nil⟩
  | char c f => exact follows_takeOne (f.agrees c)
  | set s => exact follows_takeOne s.has
  | any newlines => exact follows_takeOne fun c => newlines || c != '\n'
  | anchor a => exact follows_anchor a
  | seq first second ihfirst ihsecond =>
    obtain ⟨hfirst, hsecond⟩ := Bool.and_eq_true_iff.1 hr
    exact (ihfirst hfirst).andThen (ihsecond hsecond)
  | alt first second ihfirst ihsecond =>
    obtain ⟨hfirst, hsecond⟩ := Bool.and_eq_true_iff.1 hr
    exact (ihfirst hfirst).orElse (ihsecond hsecond)
  | group index body ih => exact (ih hr).inGroup index
  | many least most greed body ih =>
    rw [isPlain, Bool.and_eq_true, Bool.and_eq_true, decide_eq_true_eq] at hr
    obtain ⟨⟨rfl, hplain⟩, hsolid⟩ := hr
    exact follows_greedy (ih hplain) (isSolid_takes hsolid) least most
  | _ => cases hr

/-! ## Searching -/

variable {r : Regex}

/-- What has been found at a place is taken there. -/
theorem exists_takes_of_run (hr : r.isPlain = true) {before text : Text} {found : State}
    (h : r.run some (.between before text []) = some found) : ∃ taken after, text = taken ++ after
      ∧ r.Takes before taken after (groupsOf found.captures) := by
  obtain ⟨taken, after, groups, now, htext, htakes, hnow, hdone⟩ := (follows_run hr).sound h
  refine ⟨taken, after, htext, ?_⟩
  rw [← Option.some.inj hdone]
  have same : groupsOf now = groups := hnow.trans (List.append_nil groups)
  exact same ▸ htakes

theorem exists_takes_of_searchFrom (hr : r.isPlain = true) {before text : Text} {found : State}
    (h : r.searchFrom before.length before.reverse text = some found) :
    ∃ more taken after, text = more ++ (taken ++ after)
      ∧ r.Takes (before ++ more) taken after (groupsOf found.captures) := by
  have here : r.run some (.between before text []) = some found → ∃ more taken after,
      text = more ++ (taken ++ after) ∧ r.Takes (before ++ more) taken after (groupsOf found.captures) := by
    intro hrun
    obtain ⟨taken, after, htext, htakes⟩ := exists_takes_of_run hr hrun
    exact ⟨[], taken, after, htext, by rwa [List.append_nil]⟩
  induction text generalizing before with
  | nil => exact here h
  | cons c rest ih =>
    unfold searchFrom at h
    split at h
    · next hfound => exact here (hfound.trans h)
    · have next : r.searchFrom (before ++ [c]).length (before ++ [c]).reverse rest = some found := by
        simpa using h
      obtain ⟨more, taken, after, rfl, htakes⟩ := ih next fun hrun => by
        obtain ⟨taken, after, htext, htakes⟩ := exists_takes_of_run hr hrun
        exact ⟨[], taken, after, htext, by rwa [List.append_nil]⟩
      exact ⟨c :: more, taken, after, rfl, by simpa using htakes⟩

theorem isSome_searchFrom_of_takes (hr : r.isPlain = true) {before more taken after : Text}
    {groups : List Nat} (h : r.Takes (before ++ more) taken after groups) :
    (r.searchFrom before.length before.reverse (more ++ (taken ++ after))).isSome = true := by
  induction more generalizing before with
  | nil =>
    rw [List.append_nil] at h
    have found : (r.run some (.between before (taken ++ after) [])).isSome = true :=
      (follows_run hr).complete h fun _ _ => rfl
    rw [List.nil_append]
    cases htext : taken ++ after with
    | nil => rwa [htext] at found
    | cons c rest =>
      rw [htext] at found
      rw [searchFrom]
      split
      · rfl
      · next hnone =>
        have none : r.run some (.between before (c :: rest) []) = none := hnone
        rw [none] at found
        cases found
  | cons c more ih =>
    rw [List.cons_append, searchFrom]
    split
    · rfl
    · have next : r.Takes (before ++ [c] ++ more) taken after groups := by simpa using h
      simpa using ih next

/-- What a search finds is a part of the text that the expression takes, with the groups that take part. -/
theorem exists_takes_of_search (hr : r.isPlain = true) {text : Text} {found : State}
    (h : r.search text = some found) : ∃ before taken after, text = before ++ (taken ++ after)
      ∧ r.Takes before taken after (groupsOf found.captures) := by
  have start : r.searchFrom ([] : Text).length ([] : Text).reverse text = some found := h
  exact exists_takes_of_searchFrom hr start

/-- A search succeeds exactly if the expression takes some part of the text. -/
theorem search_isSome_iff (hr : r.isPlain = true) {text : Text} : (r.search text).isSome = true
    ↔ ∃ before taken after groups, text = before ++ (taken ++ after) ∧ r.Takes before taken after groups := by
  constructor
  · intro h
    obtain ⟨found, hfound⟩ := Option.isSome_iff_exists.1 h
    obtain ⟨before, taken, after, htext, htakes⟩ := exists_takes_of_search hr hfound
    exact ⟨before, taken, after, _, htext, htakes⟩
  · rintro ⟨before, taken, after, groups, rfl, htakes⟩
    exact @isSome_searchFrom_of_takes r hr [] before taken after groups htakes

end SourceAtlas.Regex
