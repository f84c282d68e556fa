import SourceAtlas.Source.Module
import SourceAtlas.Proofs.Source.Advance

/-!
Every rule of the grammar takes tokens from the front and does nothing else to its input: first the operands, then
what is built of them, and last the rules that nest, level by level.

Main statement: `Rules.advancing_upTo`.
-/

set_option synthInstance.maxSize 8192

namespace SourceAtlas.Source

open Parse

/-- The rules of a level only take tokens from the front. -/
class Rules.Advancing (r : Rules) : Prop where
  expression : Parse.Advancing r.expression
  disjunction : Parse.Advancing r.disjunction
  operation : Parse.Advancing r.operation
  primary : Parse.Advancing r.primary
  pattern : Parse.Advancing r.pattern
  block : Parse.Advancing r.block

attribute [instance] Rules.Advancing.expression Rules.Advancing.disjunction Rules.Advancing.operation
  Rules.Advancing.primary Rules.Advancing.pattern Rules.Advancing.block

variable {r : Rules} [r.Advancing]

/-! ## Operands -/

namespace Atom

instance : Advancing starts := by dsimp only [starts]; infer_instance

instance : Advancing startsItem := by dsimp only [startsItem]; infer_instance

instance : Advancing seesBinding := .andThen fun _ => by split <;> infer_instance

instance : Advancing (binding r) := by dsimp only [binding]; infer_instance

instance : Advancing (item r) := by dsimp only [item]; infer_instance

instance : Advancing (yielding r) := by dsimp only [yielding]; infer_instance

instance : Advancing (target r) := by dsimp only [target]; infer_instance

instance : Advancing (targets r) := by dsimp only [targets]; infer_instance

instance : Advancing startsClause := by dsimp only [startsClause]; infer_instance

instance : Advancing (clause r) := by dsimp only [clause]; infer_instance

instance : Advancing (clauses? r) := by dsimp only [clauses?]; infer_instance

instance : Advancing (parenthesized r) :=
  .andThen fun _ => .branch .pure <| .andThen fun _ => .branch inferInstance <| .andThen fun ⟨_, _⟩ => by
    dsimp only
    split <;> infer_instance

instance : Advancing (bracketed r) :=
  .andThen fun _ => .branch .pure <| .andThen fun ⟨_, _⟩ => by
    dsimp only
    split <;> infer_instance

instance : Advancing (entry r) := by dsimp only [entry]; infer_instance

instance : Advancing startsEntry := by dsimp only [startsEntry]; infer_instance

instance {α : Type} (starts : Parse Bool) (element : Parse α) [Advancing starts] [Advancing element] :
    Advancing (rest r starts element) := by dsimp only [rest]; infer_instance

instance : Advancing (braced r) := by dsimp only [braced]; infer_instance

instance (bound : Nat) : Advancing (literals bound) := by
  induction bound with
  | zero => exact .pure
  | succ bound ih => exact .andThen fun _ => by split <;> infer_instance

instance : Advancing (strings r) := .andThen fun _ => by split <;> infer_instance

instance : Advancing (atom r) := .andThen fun _ => by split <;> infer_instance

instance : Advancing seesNamed := .andThen fun _ => by split <;> infer_instance

instance (stage : Stage) : Advancing (argument r stage) := by cases stage <;> (dsimp only [argument]; infer_instance)

instance (bound : Nat) (stage : Stage) : Advancing (argumentsFrom r bound stage) := by
  induction bound generalizing stage with
  | zero => exact .failure
  | succ bound ih => dsimp only [argumentsFrom]; infer_instance

instance : Advancing (arguments r) := by dsimp only [arguments]; infer_instance

instance : Advancing (callArguments r) := by dsimp only [callArguments]; infer_instance

instance : Advancing (sliceTail r) := by dsimp only [sliceTail]; infer_instance

instance : Advancing (slice r) := by dsimp only [slice]; infer_instance

instance : Advancing startsSlice := by dsimp only [startsSlice]; infer_instance

instance (shape : Shape) (bound : Nat) : Advancing (trailers r shape bound) := by
  induction bound generalizing shape with
  | zero => exact .pure
  | succ bound ih => dsimp only [trailers]; infer_instance

instance : Advancing (primary r) := by dsimp only [primary]; infer_instance

end Atom

/-! ## Parameters -/

namespace Parameter

instance : Advancing ( annotation r) := by dsimp only [ annotation]; infer_instance

instance : Advancing ( starAnnotation r) := by dsimp only [ starAnnotation]; infer_instance

instance : Advancing (default? r) := by dsimp only [default?]; infer_instance

instance (close : Text) : Advancing (separator close) := by dsimp only [separator]; infer_instance

instance (annotated : Bool) (close : Text) (stage : Stage) : Advancing (one r annotated close stage) := by
  cases stage with
  | ordinary any slash defaults =>
    dsimp only [one]
    refine .andThen fun _ => .branch inferInstance <| .andThen fun _ => .branch ?_ inferInstance
    exact .andThen fun _ => .branch (.andThen fun _ => by split <;> infer_instance) inferInstance
  | keywordOnly => dsimp only [one]; infer_instance

instance (annotated : Bool) (close : Text) (bound : Nat) (stage : Stage) :
    Advancing (listFrom r annotated close bound stage) := by
  induction bound generalizing stage with
  | zero => exact .failure
  | succ bound ih => dsimp only [listFrom]; infer_instance

instance (annotated : Bool) (close : Text) : Advancing (list r annotated close) := by dsimp only [list]; infer_instance

end Parameter

/-! ## Expressions -/

namespace Expression

instance : Advancing (operand r) := by dsimp only [operand]; infer_instance

instance : Advancing (operation r) := by dsimp only [operation]; infer_instance

instance : Advancing acceptComparison := by dsimp only [acceptComparison]; infer_instance

instance : Advancing (comparison r) := by dsimp only [comparison]; infer_instance

instance : Advancing (negation r) := by dsimp only [negation]; infer_instance

instance : Advancing (disjunction r) := by dsimp only [disjunction]; infer_instance

instance : Advancing (expression r) := by dsimp only [expression]; infer_instance

instance : Advancing (starred r) := by dsimp only [starred]; infer_instance

instance : Advancing (list r) := .andThen fun _ => by split <;> infer_instance

instance : Advancing (value r) := by dsimp only [value]; infer_instance

end Expression

/-! ## Patterns -/

namespace Pattern

instance (imaginary : Bool) : Advancing (numberTail imaginary) :=
  .andThen fun _ => .branch (.andThen fun _ => .andThen fun _ => by split <;> infer_instance) .pure

instance : Advancing number := .andThen fun _ => .andThen fun _ => by split <;> infer_instance

instance : Advancing startsLiteral := .andThen fun _ => by split <;> infer_instance

instance : Advancing (literal r) := .andThen fun _ => by split <;> infer_instance

instance : Advancing (attributes r) := by dsimp only [attributes]; infer_instance

instance : Advancing capture := by dsimp only [capture]; infer_instance

instance : Advancing (sequenceItem r) := by dsimp only [sequenceItem]; infer_instance

instance (closing : List TokenKind) : Advancing (goesOn closing) := by dsimp only [goesOn]; infer_instance

instance : Advancing (parenthesized r) := by dsimp only [parenthesized]; infer_instance

instance : Advancing (bracketed r) := by dsimp only [bracketed]; infer_instance

instance : Advancing (entry r) := by dsimp only [entry]; infer_instance

instance (bound : Nat) : Advancing (entries r bound) := by
  induction bound with
  | zero => exact .failure
  | succ bound ih => dsimp only [entries]; infer_instance

instance (named : Bool) (bound : Nat) : Advancing (arguments r named bound) := by
  induction bound generalizing named with
  | zero => exact .failure
  | succ bound ih => dsimp only [arguments]; infer_instance

instance : Advancing (closed r) := by dsimp only [closed]; infer_instance

instance : Advancing (pattern r) := by dsimp only [pattern]; infer_instance

instance : Advancing (topLevel r) := by dsimp only [topLevel]; infer_instance

end Pattern

/-! ## Statements -/

namespace Statement

instance (target : Shape) (bound : Nat) : Advancing (assignment r target bound) := by
  induction bound generalizing target with
  | zero => exact .failure
  | succ bound ih => dsimp only [assignment]; infer_instance

instance : Advancing (expressionOrAssignment r) :=
  .andThen fun _ => .branch inferInstance <| .andThen fun _ => .andThen fun _ => by split <;> infer_instance

instance : Advancing alias? := by dsimp only [alias?]; infer_instance

instance : Advancing (dottedName r) := by dsimp only [dottedName]; infer_instance

instance : Advancing (importedModules r) := by dsimp only [importedModules]; infer_instance

instance : Advancing importedName := by dsimp only [importedName]; infer_instance

instance : Advancing (importedNames r) := by dsimp only [importedNames]; infer_instance

instance : Advancing (sourceModule r) := by dsimp only [sourceModule]; infer_instance

instance (fromModule : Bool) : Advancing (importing r fromModule) := by dsimp only [importing]; infer_instance

instance : Advancing seesEnd := by dsimp only [seesEnd]; infer_instance

instance : Advancing (deletion r) := by dsimp only [deletion]; infer_instance

instance (keyword : Text) : Advancing (keywordStatement r keyword) := by dsimp only [keywordStatement]; infer_instance

instance : Advancing (simple r) := .andThen fun _ => by split <;> infer_instance

instance (bound : Nat) : Advancing (line r bound) := by
  induction bound with
  | zero => exact .failure
  | succ bound ih => dsimp only [line]; infer_instance

instance : Advancing (colonBlock r) := by dsimp only [colonBlock]; infer_instance

instance (keyword : Text) : Advancing (blockAfter? r keyword) := by dsimp only [blockAfter?]; infer_instance

instance (bound : Nat) : Advancing (otherwise r bound) := by
  induction bound with
  | zero => exact .failure
  | succ bound ih => dsimp only [otherwise]; infer_instance

instance : Advancing (conditional r) := by dsimp only [conditional]; infer_instance

instance : Advancing (whileLoop r) := by dsimp only [whileLoop]; infer_instance

instance : Advancing (forLoop r) := by dsimp only [forLoop]; infer_instance

instance : Advancing (resource r) := by dsimp only [resource]; infer_instance

instance : Advancing (enclosedResources r) := by dsimp only [enclosedResources]; infer_instance

instance : Advancing (plainResources r) := by dsimp only [plainResources]; infer_instance

instance : Advancing (withResources r) := by dsimp only [withResources]; infer_instance

instance (group : Bool) : Advancing (handler r group) := by dsimp only [handler]; infer_instance

instance (group : Bool) (bound : Nat) : Advancing (handlers r group bound) := by
  induction bound with
  | zero => exact .failure
  | succ bound ih => dsimp only [handlers]; infer_instance

instance : Advancing (guarded r) := by dsimp only [guarded]; infer_instance

instance (w : Text) : Advancing (softWord w) := by dsimp only [softWord]; infer_instance

instance : Advancing (subject r) := .andThen fun _ => by split <;> infer_instance

instance : Advancing (matchHeader r) := by dsimp only [matchHeader]; infer_instance

instance : Advancing (case_ r) := by dsimp only [case_]; infer_instance

instance (bound : Nat) : Advancing (cases r bound) := by
  induction bound with
  | zero => exact .failure
  | succ bound ih => dsimp only [cases]; infer_instance

instance : Advancing definitionName := by dsimp only [definitionName]; infer_instance

instance : Advancing (classDefinition r) := by dsimp only [classDefinition]; infer_instance

instance (start : Nat) : Advancing (functionFrom r start) := by dsimp only [functionFrom]; infer_instance

instance : Advancing (functionDefinition r) := by dsimp only [functionDefinition]; infer_instance

instance : Advancing (decorator r) := by dsimp only [decorator]; infer_instance

instance : Advancing (decorated r) := by dsimp only [decorated]; infer_instance

theorem advancing_of_compound? {keyword : Text} : ∀ p, compound? r keyword = some p → Advancing p := by
  unfold compound?
  repeat refine forall_of_ite_some inferInstance ?_
  exact nofun

instance : Advancing (statements r) := .andThen fun kind => by
  cases kind with
  | keyword t =>
    dsimp only
    split
    · rename_i p hp
      have := advancing_of_compound? p hp
      infer_instance
    · infer_instance
  | mark t => infer_instance
  | name t => infer_instance
  | _ => infer_instance

instance (final : TokenKind) (bound : Nat) : Advancing (upTo r final bound) := by
  induction bound with
  | zero => exact .failure
  | succ bound ih => dsimp only [upTo]; infer_instance

instance : Advancing (block r) := by dsimp only [block]; infer_instance

instance : Advancing (all r) := by dsimp only [all]; infer_instance

end Statement

/-! ## Levels -/

theorem Rules.advancing_upTo (depth : Nat) : (Rules.upTo depth).Advancing := by
  induction depth with
  | zero => constructor <;> exact .failure
  | succ depth ih => constructor <;> (dsimp only [Rules.upTo]; infer_instance)

end SourceAtlas.Source
