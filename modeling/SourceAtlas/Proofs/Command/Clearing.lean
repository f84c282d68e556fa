import SourceAtlas.Proofs.Command.Locality

/-!
Clears of directories that calls have been made about. Whatever a call has stored lies where a clear looks for it,
however the directory was spelt in either of them, so that a clear removes it and counts it, and leaves of the table
what has been there before outside of the directory.

Main statement: `run_clear_after_map`.
-/

namespace SourceAtlas

/-! ## What a clear says -/

theorem Text.isSurrogate_of_mem_ofString {s : String} {c : CodePoint} (h : c ∈ Text.ofString s) :
    c.isSurrogate = false := by
  obtain ⟨char, -, rfl⟩ := List.mem_map.1 h
  have valid := char.valid
  have value : (CodePoint.ofChar char).val = char.val.toNat := rfl
  rw [CodePoint.isSurrogate, value, Bool.and_eq_false_iff, decide_eq_false_iff_not, decide_eq_false_iff_not]
  rcases valid with hlow | ⟨hhigh, -⟩
  · exact .inl (by omega)
  · exact .inr (by omega)

namespace Command

open Store (AgreeOn InDirectory)

/-- The line about a clear holds a surrogate only if the path of the directory does. -/
theorem mem_clearedLine {target : Path} {rows : Nat} {c : CodePoint} (h : c ∈ clearedLine target rows)
    (hc : c.isSurrogate = true) : c ∈ target.toText := by
  have plain : ∀ {s : String}, c ∉ Text.ofString s := by
    intro s hmem
    rw [Text.isSurrogate_of_mem_ofString hmem] at hc
    cases hc
  unfold clearedLine at h
  rcases List.mem_append.1 h with h | h
  · rcases List.mem_append.1 h with h | h
    · rcases List.mem_append.1 h with h | h
      · rcases List.mem_append.1 h with h | h
        · exact absurd h plain
        · exact absurd h plain
      · exact absurd h plain
    · exact h
  · exact absurd h plain

/-- The line about a clear is printed if the path of the directory can be. -/
theorem printLine_clearedLine {target : Path} (plain : ∀ c ∈ target.toText, c.isSurrogate = false) (rows : Nat) :
    printLine (clearedLine target rows) = .ok (clearedLine target rows ++ "\n") := by
  apply printLine_of_plain
  intro c hc
  cases hsurrogate : c.isSurrogate with
  | false => rfl
  | true => rw [← hsurrogate, plain c (mem_clearedLine hc hsurrogate)]

theorem exists_printLine_clearedLine {target : Path} (h : ∃ c ∈ target.toText, c.isSurrogate = true) (rows : Nat) :
    ∃ message, printLine (clearedLine target rows) = .error (.error message) := by
  obtain ⟨c, hc, hsurrogate⟩ := h
  have line : c ∈ clearedLine target rows := List.mem_append_left _ (List.mem_append_right _ hc)
  exact exists_printLine_of_surrogate line hsurrogate

/-- A clear says how many rows it has removed, if the path of the directory can be printed. -/
theorem exists_report_of_clear (seconds : Text) (verbose : Bool) (events : List Event) (target : Path) (rows : Nat) :
    ∃ report, reportOf seconds verbose (events, (toldOfClear target rows).2) = .ok report
      ∧ ((∀ c ∈ target.toText, c.isSurrogate = false) →
        report.status = 0 ∧ report.out = clearedLine target rows ++ "\n")
      ∧ ((∃ c ∈ target.toText, c.isSurrogate = true) → report.status = 1 ∧ report.out = []) := by
  by_cases plain : ∀ c ∈ target.toText, c.isSurrogate = false
  · refine ⟨_, by rw [reportOf, toldOfClear, printLine_clearedLine plain], fun _ => ⟨rfl, rfl⟩, ?_⟩
    rintro ⟨c, hc, hsurrogate⟩
    rw [plain c hc] at hsurrogate
    cases hsurrogate
  · have surrogate : ∃ c ∈ target.toText, c.isSurrogate = true := by simpa using plain
    obtain ⟨message, printed⟩ := exists_printLine_clearedLine surrogate rows
    exact ⟨_, by rw [reportOf, toldOfClear, printed], fun h => absurd h plain, fun _ => ⟨rfl, rfl⟩⟩

/-! ## What a clear leaves -/

/-- Of two tables that differ in a directory only, a clear leaves the same: the rows outside of the directory. -/
theorem clearUnder_eq_of_agreeOn {target : Path} {left s : Store}
    (h : AgreeOn (fun key => ¬ InDirectory (stemOf target) key) left s) :
    (left.clearUnder target.toText).1 = s.filter fun r => ¬ InDirectory (stemOf target) r.key := by
  have same : (left.clearUnder target.toText).1 = (s.clearUnder target.toText).1 := by
    apply Store.eq_of_row?_eq
    intro key
    rw [Store.row?_clearUnder, Store.row?_clearUnder]
    split
    · rfl
    · next hout => exact h key hout
  have rows := Store.rows_clearUnder s target.toText
  apply Store.eq_of_mem_rows_iff
  intro r
  rw [same, rows]
  rfl

/-- Whatever a call about a directory has done with the table, a clear of the directory, made from anywhere, leaves the
rows that have been elsewhere before, and says how many rows it has found in the directory. Nothing is printed if the
path of the directory holds bytes that cannot be decoded. -/
theorem run_clear_after_map {w : World} {current : Path} {environment : Environment} {storage : Database.Storage}
    {connection : Database.Connection} {arguments others : List Text} {o p : Options} {directory : Path}
    {settings : Settings} {outline : Outline} (h : IsAbout w connection arguments o directory)
    (hother : IsAbout { w with current, environment } connection others p directory)
    (hclear : p.clearDirectory = true) (hcomes : ComesTo { w with current, environment } p settings outline directory)
    (seconds otherSeconds : Text) (s : Store) :
    let stem := stemOf directory
    let mapped := run seconds (w.withTable connection s) arguments
    let cleared := run otherSeconds { disk := mapped.1, current, environment, storage } others
    ∃ left report, mapped.1 = Database.setTable w.disk connection left
      ∧ cleared = (Database.setTable w.disk connection (s.filter fun r => ¬ InDirectory stem r.key), .ok report)
      ∧ ((∀ c ∈ directory.toText, c.isSurrogate = false) → report.status = 0
        ∧ report.out = clearedLine directory (left.filter fun r => InDirectory stem r.key).count ++ "\n")
      ∧ ((∃ c ∈ directory.toText, c.isSurrogate = true) → report.status = 1 ∧ report.out = []) := by
  intro stem mapped cleared
  let left := (conductOn w connection o s).2
  have frame : AgreeOn (fun key => ¬ InDirectory stem key) left s := h.isLocal_conductOn.frame s
  have count : (left.clearUnder directory.toText).2 = (left.filter fun r => InDirectory stem r.key).count := by
    show (left.rowsUnder stem).length = _
    rw [Store.rowsUnder_eq_filter]
    rfl
  have hmapped : mapped.1 = Database.setTable w.disk connection left :=
    congrArg Prod.fst (h.hasCache.run_withTable h.read_eq seconds s)
  have hcleared : cleared = run otherSeconds
      { disk := Database.setTable w.disk connection left, current, environment, storage } others :=
    congrArg (fun disk => run otherSeconds { disk, current, environment, storage } others) hmapped
  obtain ⟨report, hreport, hprinted⟩ := exists_report_of_clear otherSeconds p.verbose _ directory
    (left.clearUnder directory.toText).2
  refine ⟨left, report, hmapped, ?_, ?_⟩
  · have comes : ComesTo { w with current, environment, storage } p settings outline directory :=
      ⟨hcomes.settings_eq, hcomes.outline_eq, hcomes.notAll, hcomes.target_eq⟩
    have done : conductOn { w with current, environment, storage } connection p left
        = ((.opened settings.databasePath :: (toldOfClear directory (left.clearUnder directory.toText).2).1
          ++ abortedBy (toldOfClear directory (left.clearUnder directory.toText).2).2,
          (toldOfClear directory (left.clearUnder directory.toText).2).2), (left.clearUnder directory.toText).1) := by
      rw [conductOn_of_comesTo comes, actOn_of_clear comes hclear]
      rfl
    rw [hcleared, hother.run_eq otherSeconds storage left]
    dsimp only at done ⊢
    rw [done]
    dsimp only
    rw [clearUnder_eq_of_agreeOn frame, hreport]
  · rw [← count]
    exact hprinted

/-! ### An example -/

/-- The command line that clears the directory that another one has mapped, and calls it otherwise. -/
def detourOptions : Options := { directory := "p/../l/", clearDirectory := true, cacheDirectory := some "/c" }

/-- A clear that comes to a directory by another way than the map before it leaves the row of the other directory
only. -/
theorem run_clear_after_map_through_link :
    let mapped := run "0.00" (linkedWorld.withTable linkedCache staleTable) ["l/.", "--cache-dir", "/c"]
    let cleared := run "0.00" { linkedWorld with disk := mapped.1 } ["p/../l/", "--clear-dir", "--cache-dir", "/c"]
    (∃ settings outline, ComesTo linkedWorld detourOptions settings outline (.ofText "/p"))
      ∧ IsAbout linkedWorld linkedCache ["l/.", "--cache-dir", "/c"] linkOptions (.ofText "/p")
      ∧ IsAbout linkedWorld linkedCache ["p/../l/", "--clear-dir", "--cache-dir", "/c"] detourOptions (.ofText "/p")
      ∧ detourOptions.clearDirectory = true
      ∧ ∃ left remaining : Store, ∃ report, mapped.1 = Database.setTable linkedWorld.disk linkedCache left
        ∧ remaining.rows = [⟨"/q/y.py", "old", "?"⟩]
        ∧ cleared = (Database.setTable linkedWorld.disk linkedCache remaining, .ok report)
        ∧ report.status = 0
        ∧ report.out = clearedLine (.ofText "/p") (left.filter fun r => InDirectory "/p" r.key).count ++ "\n" := by
  have linked : IsAbout linkedWorld linkedCache ["l/.", "--cache-dir", "/c"] linkOptions (.ofText "/p") :=
    isAbout_linkedWorld (by decide +kernel) rfl rfl (by decide +kernel) (by decide +kernel)
  have detour : IsAbout linkedWorld linkedCache ["p/../l/", "--clear-dir", "--cache-dir", "/c"] detourOptions
      (.ofText "/p") :=
    isAbout_linkedWorld (by decide +kernel) rfl rfl (by decide +kernel) (by decide +kernel)
  have stem : stemOf (.ofText "/p") = "/p" := by decide +kernel
  have others : (staleTable.filter fun r => ¬ InDirectory "/p" r.key).rows = [⟨"/q/y.py", "old", "?"⟩] := by
    decide +kernel
  have plain : ((Path.ofText "/p").toText.all fun c => c.isSurrogate == false) = true := by decide +kernel
  obtain ⟨settings, -, -, hready⟩ := isReady_linkedWorld
  have comes : ComesTo linkedWorld detourOptions settings ⟨none, false⟩ (.ofText "/p") :=
    ⟨hready.settings_eq, rfl, rfl, detour.target_eq⟩
  obtain ⟨left, report, hmapped, hcleared, hprinted, -⟩ :=
    run_clear_after_map linked detour rfl comes "0.00" "0.00" staleTable
  rw [stem] at hcleared hprinted
  obtain ⟨hstatus, hout⟩ := hprinted fun c hc => beq_iff_eq.1 (List.all_eq_true.1 plain c hc)
  exact ⟨⟨settings, _, comes⟩, linked, detour, rfl, left, _, report, hmapped, others, hcleared, hstatus,
    hout⟩

end Command

end SourceAtlas
