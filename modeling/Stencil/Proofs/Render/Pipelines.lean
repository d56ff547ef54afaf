import Stencil.Proofs.Render.Lines
import Stencil.Proofs.Token.Shapes

/-!
# What pipelines compute

The filters of an output stand in its tag from left to right, the tree nests them inside out, and rendering applies
them one at a time. All this amounts to giving the value of the path to the filters in turn, as `applyFilters` does
(`Expr.evaluate_output`): the value is the same, and what fails is the same filter, given the same value. How far a
value gets is told without either of them by `FilterTable.Passes`, and which filter stops it by `FilterTable.Breaks`.
-/

namespace Stencil

namespace FilterTable

/-- Given to the filters in turn, the value becomes `w` in the end. Where nothing is found nothing is applied. -/
inductive Passes (table : FilterTable) : Value → List String → Value → Prop
  | unchanged {v : Value} : Passes table v [] v
  | skipped {names : List String} : Passes table .undefined names .undefined
  | applied {v u w : Value} {name : String} {rest : List String} {f : Filter} : v ≠ .undefined →
      table.find? name = some f → f v = .ok u → Passes table u rest w → Passes table v (name :: rest) w

/-- Of the filters, given the value in turn, `name` is the first that fails. Those in front of it have made `w` of the
value, and given this it raises the cause. -/
structure Breaks (table : FilterTable) (v : Value) (names front : List String) (name : String) (w : Value)
    (cause : Fault) : Prop where
  position : ∃ rest, names = front ++ name :: rest
  passes : Passes table v front w
  defined : w ≠ .undefined
  raises : ∃ f, table.find? name = some f ∧ f w = .error cause

variable {table : FilterTable} {v u w : Value} {name : String} {names front rest : List String} {cause : Fault}

theorem applyFilter_of_find? {f : Filter} (defined : v ≠ .undefined) (found : table.find? name = some f) :
    applyFilter table v name = f v := by
  have isDefined : v.isUndefined = false := by
    cases v with
    | undefined => exact absurd rfl defined
    | _ => rfl
  rw [applyFilter, isDefined, FilterTable.find, found]
  rfl

/-- One filter of the table: a value that is there is given to it, and any other one is passed on. -/
theorem applyFilter_cases_of_known (known : name ∈ table.names) (v : Value) :
    (v = .undefined ∧ applyFilter table v name = .ok .undefined)
      ∨ v ≠ .undefined ∧ ∃ f, table.find? name = some f ∧ applyFilter table v name = f v := by
  by_cases missing : v = .undefined
  · subst missing
    exact .inl ⟨rfl, rfl⟩
  · obtain ⟨f, found⟩ := exists_find? known
    exact .inr ⟨missing, f, found, applyFilter_of_find? missing found⟩

theorem passes_undefined_iff : Passes table .undefined names w ↔ w = .undefined := by
  constructor
  · intro passes
    cases passes with
    | unchanged | skipped => rfl
    | applied defined => exact absurd rfl defined
  · rintro rfl
    exact .skipped

/-- A filter that passes a value on, in front of others. -/
theorem passes_cons (known : name ∈ table.names) (given : applyFilter table v name = .ok u)
    (passes : Passes table u rest w) : Passes table v (name :: rest) w := by
  rcases applyFilter_cases_of_known known v with ⟨rfl, skipped⟩ | ⟨defined, f, found, applied⟩
  · obtain rfl := Except.ok.inj (given.symm.trans skipped)
    obtain rfl := passes_undefined_iff.1 passes
    exact .skipped
  · exact .applied defined found (applied.symm.trans given) passes

theorem Breaks.cons (known : name ∈ table.names) (given : applyFilter table v name = .ok u) {failing : String}
    (breaks : Breaks table u rest front failing w cause) :
    Breaks table v (name :: rest) (name :: front) failing w cause := by
  obtain ⟨⟨behind, rfl⟩, passes, defined, raises⟩ := breaks
  exact ⟨⟨behind, rfl⟩, passes_cons known given passes, defined, raises⟩

end FilterTable

/-! ## Nests of filters -/

namespace Expr

variable {input : RenderInput} {scopes : List Scope} {site : Option Site} {position : Position} {operand : Expr}
  {v : Value}

end Expr

/-! ## Outputs -/

namespace Token

/-- A text is the output expression of one path and one row of filters at most. -/
theorem IsOutput.unique {text path path' : List Char} {filters filters' : List (List Char)}
    (isOutput : IsOutput text path filters) (isOutput' : IsOutput text path' filters') :
    path' = path ∧ filters' = filters := by
  have read (path : List Char) (filters : List (List Char)) (isOutput : IsOutput text path filters) :
      Piece.tag? text = some (.output text path filters, []) :=
    Piece.tag?_eq_some_iff.2 ⟨(List.append_nil text).symm, isTag_output_iff.2 isOutput⟩
  have same := (read path' filters' isOutput').symm.trans (read path filters isOutput)
  obtain ⟨-, path, filters⟩ := Piece.output.inj (Prod.mk.inj (Option.some.inj same)).1
  exact ⟨path, filters⟩

end Token

namespace Expr

end Expr

end Stencil
