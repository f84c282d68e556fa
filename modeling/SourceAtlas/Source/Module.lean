import SourceAtlas.Source.Statement
import SourceAtlas.Text.Lines

/-!
Whole sources. The rules of the grammar are put together level by level, one level for each depth at which
constructs can nest; a source of `n` characters cannot nest more than `n` deep.
-/

namespace SourceAtlas.Source

/-- The rules for constructs that nest at most so deep. -/
def Rules.upTo : (depth : Nat) → Rules
  | 0 => .none
  | depth + 1 =>
    let r := Rules.upTo depth
    { bound := depth
      expression := Expression.expression r
      disjunction := Expression.disjunction r
      operation := Expression.operation r
      primary := Atom.primary r
      pattern := Pattern.pattern r
      block := Statement.block r
      isExpression := Expression.isExpression r }

/-- More levels than any source of this length needs, counting twice what strings hold. -/
def depthFor (length : Nat) : Nat := 2 * length + 10

/-- Can a text be source at all? It holds no null character and no surrogate, and no byte order mark
comes first. -/
def isReadable (t : Text) : Bool :=
  !t.any (fun c => c.val = 0 || c.isSurrogate) && t.head? ≠ some '\uFEFF'

/-- A source with line feeds for its line ends and one behind its last line. A carriage return and a line feed at the
very end count as no such end, so that another line feed comes behind them. -/
def terminated (t : Text) : Text :=
  let lines := Text.unifyLineEnds t
  if lines.getLast? = some '\n' && !("\r\n" : Text).isSuffixOf t then lines else lines ++ "\n"

/-- The syntax tree of a source, or `none` if the source has an error anywhere. -/
def parse? (t : Text) : Option (List Statement) :=
  if isReadable t then do
    let tokens ← lex (terminated t)
    let (statements, _) ← (Statement.all (Rules.upTo (depthFor t.length))).run ⟨tokens, 0⟩
    return statements
  else none

/-! ## Places -/

/-- The characters of a source with every line end as one item. -/
def items : Text → List Text
  | [] => []
  | [c] => [[c]]
  | c :: d :: rest =>
    if c = '\r' && d = '\n' then [c, d] :: items rest else [c] :: items (d :: rest)

/-- The text of a span, with line ends as they are. -/
def slice (t : Text) (span : Span) : Text :=
  (((items t).drop span.start).take (span.stop - span.start)).flatten

/-! ### Small laws -/

theorem flatten_items (t : Text) : (items t).flatten = t := by
  fun_induction items t <;> simp_all

/-- The text of a span consists of characters of the source. -/
theorem slice_subset (t : Text) (span : Span) : slice t span ⊆ t := by
  intro c hc
  obtain ⟨item, hitem, hmem⟩ := List.mem_flatten.1 hc
  rw [← flatten_items t]
  exact List.mem_flatten.2 ⟨item, List.mem_of_mem_drop (List.mem_of_mem_take hitem), hmem⟩

end SourceAtlas.Source
