import Stencil.Proofs.Condition.Writing
import Stencil.Proofs.Node.Marks

/-!
# The canonical text of trees

Read from left to right, a tree has a canonical text: that of its marks, one after the other. The canonical text
of the mark that a token leaves is a piece of a source, and its token leaves the mark again, up to places and
tags as they were written (`Mark.exists_rendered`).
-/

namespace Stencil

/-! ## Trees without places -/

/-- The expression without the places of its tag. -/
def Expr.bare : Expr → Expr
  | const _ value => const .start value
  | path _ segments => path .start segments
  | filter _ operand name => filter .start operand.bare name
  | not _ operand => not .start operand.bare
  | compare _ left equal right => compare .start left.bare equal right.bare

mutual

/-- The node without the places of its tags and without the tags as they are written. -/
def Node.bare : Node → Node
  | .data _ text => .data .start text
  | .output _ expr _ escape => .output .start expr.bare "" escape
  | .cond _ branches otherwise => .cond .start (Node.bareBranches branches) (Node.bareAll otherwise)
  | .foreach _ collection itemName body => .foreach .start collection itemName (Node.bareAll body)
  | .count _ name start stop body => .count .start name start stop (Node.bareAll body)

/-- Nodes without places and written tags. -/
def Node.bareAll : List Node → List Node
  | [] => []
  | node :: rest => Node.bare node :: Node.bareAll rest

/-- Branches without places and written tags. -/
def Node.bareBranches : List (Expr × List Node) → List (Expr × List Node)
  | [] => []
  | (test, body) :: rest => (test.bare, Node.bareAll body) :: Node.bareBranches rest

end

theorem bare_pipeline (position : Position) (operand : Expr) (names : List String) :
    (Expr.pipeline position operand names).bare = Expr.pipeline .start operand.bare names := by
  unfold Expr.pipeline
  induction names generalizing operand with
  | nil => rfl
  | cons name rest ih => rw [List.foldl_cons, ih, List.foldl_cons, Expr.bare]

theorem bare_operand (position : Position) (o : Condition.Operand) : (o.expr position).bare = o.expr .start := by
  cases o with
  | path => rw [Condition.Operand.expr, bare_pipeline, Expr.bare, Condition.Operand.expr]
  | _ => rfl

/-- What a condition means depends on its place only in the places that the tree keeps. -/
theorem bare_phrase (position : Position) (phrase : Condition.Phrase) :
    (phrase.expr position).bare = phrase.expr .start := by
  obtain ⟨⟨left, right⟩, negated⟩ := phrase
  have compared : (Condition.Comparison.expr position ⟨left, right⟩).bare
      = Condition.Comparison.expr .start ⟨left, right⟩ := by
    cases right with
    | none => exact bare_operand position left
    | some pair => simp [Condition.Comparison.expr, Expr.bare, bare_operand]
  cases negated with
  | false => exact compared
  | true => exact congrArg (Expr.not .start) compared

/-! ## Canonical texts -/

/-- The canonical text of a mark. -/
def Mark.written (quote : Char) : Mark → String
  | .data _ text => text
  | .output _ expr _ _ => "\x7b" ++ expr.written quote ++ "\x7d"
  | .openIf _ test => Directive.shown ("if " ++ test.written quote)
  | .elseIf test => Directive.shown ("elseif " ++ test.written quote)
  | .otherwise => Directive.shown "else"
  | .closeIf => Directive.shown "endif"
  | .openForeach _ collection itemName =>
    Directive.shown ("foreach " ++ ".".intercalate collection ++ " as " ++ itemName)
  | .closeForeach => Directive.shown "endforeach"
  | .openFor _ name start stop =>
    Directive.shown ("for " ++ name ++ " in " ++ toString start ++ ".." ++ toString stop)
  | .closeFor => Directive.shown "endfor"

/-- The canonical text of a tree: that of its marks from left to right, without a last part that is empty. -/
def Node.written (quote : Char) (nodes : List Node) : String :=
  String.join ((Node.marksOfAll nodes).map (Mark.written quote))

/-- Has no number in the condition of the token a fraction? -/
def Token.IsWhole (t : Token) : Prop :=
  ∀ condition lexemes literal, t.HasCondition condition →
    Lexeme.readAll (stripEnd condition.toList) = .ok lexemes → .number literal ∈ lexemes → '.' ∉ literal

variable {ctx : ReadContext} {quote : Char}

/-- Does the token leave the mark, up to its place and the tag as it was written? -/
def Mark.Again (ctx : ReadContext) (t : Token) : Mark → Prop
  | .data _ text => t.tag = .data ∧ t.text = text
  | .output position expr source escape =>
    ∃ path filters node, t.tag = .output path filters ∧ NodeReader.readOutput ctx t path filters = .ok node
      ∧ node.bare = (Node.output position expr source escape).bare
  | .openIf _ test =>
    ∃ condition again, t.tag = .openIf condition ∧ NodeReader.readCondition ctx t condition = .ok again
      ∧ again.bare = test.bare
  | .elseIf test =>
    ∃ condition again, t.tag = .elseIf condition ∧ NodeReader.readCondition ctx t condition = .ok again
      ∧ again.bare = test.bare
  | .otherwise => t.tag = .otherwise
  | .closeIf => t.tag = .closeIf
  | .openForeach _ collection itemName =>
    ∃ path, t.tag = .openForeach path itemName ∧ splitPath path = collection
  | .closeForeach => t.tag = .closeForeach
  | .openFor _ name start stop =>
    ∃ first last, t.tag = .openFor name first last ∧ OpenBlock.bound first = .ok start
      ∧ OpenBlock.bound last = .ok stop
  | .closeFor => t.tag = .closeFor

/-- The piece is the canonical text of the mark, and its tokens leave the mark again. -/
structure Mark.Rendered (ctx : ReadContext) (quote : Char) (m : Mark) (item : Piece × Tag) : Prop where
  chars : item.1.chars = (m.written quote).toList
  cut : item.1.Cut
  spoken : item.1.Says item.2
  again {t : Token} : t.tag = item.2 → t.text = m.written quote → m.Again ctx t

/-! ## Pieces of marks -/

theorem toList_shown (content : String) :
    (Directive.shown content).toList = (Piece.block (' ' :: content.toList ++ [' '])).chars := by
  simp [Directive.shown, Piece.chars]

/-- A directive without a delimiter in it is the canonical text of a mark that its tag leaves. -/
theorem Mark.rendered_of_shown {m : Mark} {content : String} {tag : Tag}
    (written : m.written quote = Directive.shown content) (quiet : Quiet content.toList)
    (read : Directive.read (' ' :: content.toList ++ [' ']) = .ok tag)
    (again : ∀ t : Token, t.tag = tag → m.Again ctx t) :
    m.Rendered ctx quote (.block (' ' :: content.toList ++ [' ']), tag) := by
  have space : Quiet [' '] := quiet_of_all (by decide)
  refine ⟨?_, ?_, .block read, fun same _ => again _ same⟩
  · rw [written, toList_shown]
  · exact .block ((space.append quiet).append space).closes

theorem Mark.rendered_of_words (keyword : String) {m : Mark} {content : String} {args : List Char} {tag : Tag}
    (written : m.written quote = Directive.shown content) (split : content.toList = keyword.toList ++ ' ' :: args)
    (word : (!keyword.toList.isEmpty && keyword.toList.all isSolid) = true)
    (quiet : Quiet args) (trimmed : isTrimmed args) (meant : Directive.Says keyword args tag)
    (again : ∀ t : Token, t.tag = tag → m.Again ctx t) :
    m.Rendered ctx quote (.block (' ' :: content.toList ++ [' ']), tag) := by
  rw [Bool.and_eq_true, List.all_eq_true, Bool.not_eq_true', List.isEmpty_eq_false_iff] at word
  obtain ⟨nonempty, solid⟩ := word
  have parts : keyword.toList ++ ' ' :: args = keyword.toList ++ [' '] ++ args := by simp
  have space : Quiet [' '] := quiet_of_all (by decide)
  have quiet' : Quiet (keyword.toList ++ ' ' :: args) := by
    rw [parts]
    exact ((quiet_of_solid solid).append space).append quiet
  have unblank : ∀ c ∈ keyword.toList, isBlank c = false := by
    intro c mem
    have here := solid c mem
    rw [isSolid, Bool.and_eq_true, Bool.not_eq_true'] at here
    exact here.1
  refine Mark.rendered_of_shown written (by rwa [split]) ?_ again
  rw [split]
  refine Directive.read_spaced unblank nonempty trimmed quiet'.opens ?_
  rwa [String.ofList_toList]

/-- The canonical text of a condition in a token can stand in a tag, and is read as the condition again. -/
theorem exists_condition_again (isQuote : quote = '\'' ∨ quote = '"') {t : Token} {condition : String}
    {phrase : Condition.Phrase} (has : t.HasCondition condition) (writes : phrase.Writes condition)
    (proper : t.Proper) (readable : t.Readable ctx) (whole : t.IsWhole) :
    ((phrase.expr t.position).written quote).toList ≠ [] ∧ Quiet ((phrase.expr t.position).written quote).toList
      ∧ isTrimmed ((phrase.expr t.position).written quote).toList
      ∧ ∀ u : Token, ∃ again, NodeReader.readCondition ctx u ((phrase.expr t.position).written quote) = .ok again
        ∧ again.bare = (phrase.expr t.position).bare := by
  have delimited : Avoids '%' '}' condition.toList ∧ Avoids '{' '%' condition.toList := by
    unfold Token.Proper at proper
    rcases has with tag | tag
    · rwa [tag] at proper
    · rwa [tag] at proper
  obtain ⟨test, read⟩ := readable.condition has
  obtain ⟨other, writes', known, convertible, -⟩ := readCondition_eq_ok_iff.1 read
  rw [writes'.filters_eq writes] at known
  rw [writes'.lexemes_eq writes] at convertible
  have unbroken : ∀ literal, .number literal ∈ phrase.lexemes → '.' ∉ literal := fun literal =>
    whole condition phrase.lexemes literal has (Lexeme.readAll_eq_ok_iff.2 writes.2)
  obtain ⟨phrase', filters, convertible', means, written⟩ :=
    writes.exists_again isQuote delimited.1 delimited.2 convertible unbroken
  obtain ⟨writes'', spelled⟩ := written t.position
  refine ⟨spelled.nonempty, spelled.quiet, spelled.trimmed, fun u => ⟨phrase'.expr u.position, ?_, ?_⟩⟩
  · exact readCondition_eq_ok_iff.2 ⟨phrase', writes'', by rwa [filters], convertible', rfl⟩
  · rw [means, bare_phrase, bare_phrase]

theorem Mark.exists_rendered_output (position : Position) (source : String) {path : List Char}
    {filters : List (List Char)} (isPath : IsPath path) (named : ∀ name ∈ filters, IsName name)
    (known : ∀ name ∈ filters.map String.ofList, name ∈ ctx.filters) :
    ∃ item, (Mark.output position
      (Expr.pipeline position (.path position (splitPath (String.ofList path))) (filters.map String.ofList))
      source ctx.escape).Rendered ctx quote item := by
  refine ⟨(.output ('{' :: path ++ filters.flatMap ('|' :: ·) ++ ['}']) path filters,
    .output (String.ofList path) (filters.map String.ofList)), ?_, ?_, .output, ?_⟩
  · have expr := written_path quote position path filters
    simp [Piece.chars, Mark.written, expr]
  · exact .output isPath (spellsFilters_flatMap named)
  · intro u same _
    refine ⟨_, _, _, same, readOutput_eq_ok_iff.2 ⟨known, rfl⟩, ?_⟩
    simp [Node.bare, bare_pipeline, Expr.bare]

theorem Mark.exists_rendered_foreach (position : Position) {path : List Char} {itemName : String}
    (isPath : IsPath path) (isName : IsName itemName.toList) :
    ∃ item, (Mark.openForeach position (splitPath (String.ofList path)) itemName).Rendered ctx quote item := by
  have solid := Condition.isSolid_of_isPath isPath
  have solid' := Condition.isSolid_of_isPath isName.isPath
  have gap : IsGap [' '] := ⟨by decide, List.all_eq_true.1 (by decide)⟩
  have between : Quiet [' ', 'a', 's', ' '] := quiet_of_all (by decide)
  have split : ("foreach " ++ ".".intercalate (splitPath (String.ofList path)) ++ " as " ++ itemName).toList
      = "foreach".toList ++ ' ' :: (path ++ [' ', 'a', 's', ' '] ++ itemName.toList) := by
    simp [-String.toList_intercalate, intercalate_splitPath]
  have quiet : Quiet (path ++ [' ', 'a', 's', ' '] ++ itemName.toList) :=
    ((quiet_of_solid solid).append between).append (quiet_of_solid solid')
  have trimmed : isTrimmed (path ++ [' ', 'a', 's', ' '] ++ itemName.toList) :=
    isTrimmed_append (isTrimmed_of_solid solid) (isTrimmed_of_solid solid') isPath.ne_nil isName.ne_nil _
  have form : Directive.IsForeach (path ++ [' ', 'a', 's', ' '] ++ itemName.toList) path itemName.toList :=
    ⟨[' '], [' '], by simp, isPath, gap, gap, isName⟩
  refine ⟨_, Mark.rendered_of_words "foreach" rfl split (by decide) quiet trimmed
    (.openForeach form) ?_⟩
  intro u same
  rw [String.ofList_toList] at same
  exact ⟨_, same, rfl⟩

theorem Mark.exists_rendered_for (position : Position) {name : String} (isName : IsName name.toList)
    {start stop : Int} (writable : Integer.isWritable start) (writable' : Integer.isWritable stop) :
    ∃ item, (Mark.openFor position name start stop).Rendered ctx quote item := by
  have isStart := Integer.isBound_toString start
  have isStop := Integer.isBound_toString stop
  have solid := Condition.isSolid_of_isPath isName.isPath
  have solid' := Lexeme.isSolid_of_isBound isStop
  have gap : IsGap [' '] := ⟨by decide, List.all_eq_true.1 (by decide)⟩
  have before : Quiet [' ', 'i', 'n', ' '] := quiet_of_all (by decide)
  have dots : Quiet ['.', '.'] := quiet_of_all (by decide)
  have between : Quiet ([' ', 'i', 'n', ' '] ++ (toString start).toList ++ ['.', '.']) :=
    (before.append (quiet_of_solid (Lexeme.isSolid_of_isBound isStart))).append dots
  generalize same : name.toList ++ ([' ', 'i', 'n', ' '] ++ (toString start).toList ++ ['.', '.'])
    ++ (toString stop).toList = args
  have split : ("for " ++ name ++ " in " ++ toString start ++ ".." ++ toString stop).toList
      = "for".toList ++ ' ' :: args := by
    simp [← same]
  have quiet : Quiet args := by
    rw [← same]
    exact ((quiet_of_solid solid).append between).append (quiet_of_solid solid')
  have trimmed : isTrimmed args := by
    rw [← same]
    exact isTrimmed_append (isTrimmed_of_solid solid) (isTrimmed_of_solid solid') isName.ne_nil isStop.ne_nil _
  have form : Directive.IsFor args name.toList (toString start).toList (toString stop).toList :=
    ⟨[' '], [' '], [], [], by simp [← same], isName, gap, gap, isStart, by simp, by simp, isStop⟩
  refine ⟨_, Mark.rendered_of_words "for" rfl split (by decide) quiet trimmed (.openFor form) ?_⟩
  intro u tag
  simp only [String.ofList_toList] at tag
  exact ⟨_, _, tag, OpenBlock.bound_eq_ok_iff.2 (Integer.read_toString writable),
    OpenBlock.bound_eq_ok_iff.2 (Integer.read_toString writable')⟩

/-- The canonical text of the mark of a token is a piece that leaves the mark again. -/
theorem Mark.exists_rendered (isQuote : quote = '\'' ∨ quote = '"') {t : Token} {m : Mark} (of : m.Of ctx t)
    (proper : t.Proper) (readable : t.Readable ctx) (whole : t.IsWhole) :
    ∃ item, m.Rendered ctx quote item := by
  cases m with
  | data position text =>
    obtain ⟨tag, rfl, rfl⟩ := of
    simp only [Token.Proper, tag] at proper
    obtain ⟨nonempty, tagless, opens⟩ := proper
    exact ⟨(.text t.text.toList, .data), rfl, ⟨nonempty, tagless⟩, .text opens, fun tag text => ⟨tag, text⟩⟩
  | output position expr source escape =>
    obtain ⟨path, filters, tag, rfl, rfl, rfl, rfl⟩ := of
    simp only [Token.Proper, tag] at proper
    obtain ⟨isPath, named⟩ := proper
    have known : ∀ name ∈ filters, name ∈ ctx.filters := by
      unfold Token.Readable at readable
      rwa [tag] at readable
    obtain ⟨path, rfl⟩ : ∃ chars, path = String.ofList chars := ⟨path.toList, String.ofList_toList.symm⟩
    obtain ⟨filters, rfl⟩ : ∃ names, filters = names.map String.ofList :=
      ⟨filters.map String.toList, by simp⟩
    have isPath' : IsPath path := by simpa using isPath
    have named' : ∀ name ∈ filters, IsName name := by
      intro name mem
      simpa using named _ (List.mem_map_of_mem mem)
    exact Mark.exists_rendered_output t.position _ isPath' named' known
  | openIf position test =>
    obtain ⟨condition, phrase, tag, rfl, writes, rfl⟩ := of
    obtain ⟨argued, quiet, trimmed, again⟩ :=
      exists_condition_again isQuote (.inl tag) writes proper readable whole
    refine ⟨_, Mark.rendered_of_words "if" rfl (by simp) (by decide) quiet trimmed
      (.openIf argued) ?_⟩
    intro u same
    obtain ⟨test, read, bare⟩ := again u
    rw [String.ofList_toList] at same
    exact ⟨_, test, same, read, bare⟩
  | elseIf test =>
    obtain ⟨condition, phrase, tag, writes, rfl⟩ := of
    obtain ⟨argued, quiet, trimmed, again⟩ :=
      exists_condition_again isQuote (.inr tag) writes proper readable whole
    refine ⟨_, Mark.rendered_of_words "elseif" rfl (by simp) (by decide) quiet trimmed
      (.elseIf argued) ?_⟩
    intro u same
    obtain ⟨test, read, bare⟩ := again u
    rw [String.ofList_toList] at same
    exact ⟨_, test, same, read, bare⟩
  | openForeach position collection itemName =>
    obtain ⟨path, tag, rfl, rfl⟩ := of
    simp only [Token.Proper, tag] at proper
    obtain ⟨isPath, isName⟩ := proper
    obtain ⟨path, rfl⟩ : ∃ chars, path = String.ofList chars := ⟨path.toList, String.ofList_toList.symm⟩
    rw [String.toList_ofList] at isPath
    exact Mark.exists_rendered_foreach t.position isPath isName
  | openFor position name start stop =>
    obtain ⟨first, last, tag, rfl, isFirst, isLast⟩ := of
    simp only [Token.Proper, tag] at proper
    obtain ⟨isName, isBound, isBound'⟩ := proper
    exact Mark.exists_rendered_for t.position isName
      (Integer.isWritable_of_read isBound (OpenBlock.bound_eq_ok_iff.1 isFirst))
      (Integer.isWritable_of_read isBound' (OpenBlock.bound_eq_ok_iff.1 isLast))
  | otherwise | closeIf | closeForeach | closeFor =>
    exact ⟨_, Mark.rendered_of_shown rfl (quiet_of_all (by decide)) rfl fun _ same => same⟩

end Stencil
