import SourceAtlas.Proofs.Analysis.Failure
import SourceAtlas.Proofs.Command.Rebuild
import SourceAtlas.Proofs.Command.Table

/-!
How runs end. A run succeeds, or ends with one line about an error, except for faults that are none of those that the
program reports: these leave it without a report, and they are listed here, each with the state in which it comes up.
That an open database does not answer a statement is not among them; here it always does.

Main statement: `run_reports`.
-/

namespace SourceAtlas.Command

/-! ## What is not reported -/

/-- The settings and the outline are made, and the cache is open. -/
structure Opens (w : World) (o : Options) (settings : Settings) (outline : Outline) (disk : Disk)
    (connection : Database.Connection) : Prop where
  settings_eq : settingsOf w o = .ok settings
  outline_eq : outlineOf o = .ok outline
  connect_eq : Database.connect w.disk settings.databasePath = (disk, .ok connection)

/-- The cache is open, and a directory that is there is to be mapped. -/
structure BeginsMap (w : World) (o : Options) (settings : Settings) (outline : Outline) (disk : Disk)
    (connection : Database.Connection) (target : Path) : Prop extends Opens w o settings outline disk connection where
  notAll : o.clear = false
  target_eq : targetOf w o disk = .ok target
  notCleared : o.clearDirectory = false
  isDirectory : Disk.isDirectory disk target = true

/-- What ends a map without a report: the directory, made real once more, comes to a loop of links; a pattern of its
list has a class that ends before it begins; the batches have no size; or a chunk cannot be shown, which then has come
from the cache. `seen` is the disk as it is seen with the cache open. -/
inductive MapEscapes (o : Options) (settings : Settings) (outline : Outline) (seen : Disk) (table : Store)
    (target : Path) : Escape → Prop
  | loop {path : Path} (hscan : Scan.scan seen settings.exclusions target = .error (.unresolved (.loop path))) :
    MapEscapes o settings outline seen table target (.unresolved (.loop path))
  | pattern {fault : Ignore.SpecFault} (hscan : Scan.scan seen settings.exclusions target = .error (.pattern fault))
      (h : fault.isInvalid = false) : MapEscapes o settings outline seen table target (.pattern fault)
  | voidBatches {listing : Listing} (hvoid : o.batchSize = .void)
      (hscan : Scan.scan seen settings.exclusions target = .ok listing) :
    MapEscapes o settings outline seen table target .voidBatches
  | outline {findings : Findings} {counts : Statistics} {fault : Outline.Fault} (hvoid : o.batchSize ≠ .void)
      (hresult : (Analysis.directory seen settings.exclusions settings.batchSize target table).result
        = .ok (findings, counts))
      (h : outline.render findings = .error fault) : MapEscapes o settings outline seen table target (.outline fault)

/-- An outline is missing exactly if the map was completed and has found a chunk that cannot be shown. -/
theorem mapEscapes_outline_iff {o : Options} {settings : Settings} {outline : Outline} {seen : Disk} {table : Store}
    {target : Path} :
    (∃ fault, MapEscapes o settings outline seen table target (.outline fault))
      ↔ o.batchSize ≠ .void ∧ ∃ findings counts, (Analysis.directory seen settings.exclusions settings.batchSize target
        table).result = .ok (findings, counts) ∧ ∃ file ∈ findings, ∃ c ∈ file.2, ¬ outline.CanShow c := by
  have shown : ∀ findings, (∃ fault, outline.render findings = .error fault)
      ↔ ∃ file ∈ findings, ∃ c ∈ file.2, ¬ outline.CanShow c := by
    intro findings
    have renders : (∃ t, outline.render findings = .ok t) ↔ _ := outline.render_eq_ok_iff
    cases hrender : outline.render findings with
    | error fault =>
      rw [hrender] at renders
      simpa using renders
    | ok t =>
      rw [hrender] at renders
      simpa using renders
  constructor
  · rintro ⟨fault, h⟩
    cases h with
    | outline hvoid hresult hrender => exact ⟨hvoid, _, _, hresult, (shown _).1 ⟨fault, hrender⟩⟩
  · rintro ⟨hvoid, findings, counts, hresult, hchunk⟩
    obtain ⟨fault, hrender⟩ := (shown findings).2 hchunk
    exact ⟨fault, .outline hvoid hresult hrender⟩

/-! ## Runs -/

section

variable {w : World} {o : Options} {settings : Settings} {outline : Outline} {disk : Disk}
  {connection : Database.Connection} {target : Path}

/-- Once the cache is open, a run is what is done with it, told from the opening on. -/
theorem Opens.conduct_eq (h : Opens w o settings outline disk connection) :
    let done := act w o settings outline disk connection
    conduct w o
      = ⟨done.disk, .opened settings.databasePath :: done.events ++ abortedBy done.printed, done.printed⟩ := by
  unfold conduct
  rw [h.settings_eq, h.outline_eq]
  dsimp only [bind, Except.bind, pure, Except.pure]
  rw [h.connect_eq]
  rfl

end

end SourceAtlas.Command
