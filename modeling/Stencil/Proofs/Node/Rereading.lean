import Stencil.Proofs.Node.Writing

/-!
# Reading trees again

What a source is read as is read again from its canonical text, up to the places of the tags and the tags as
they were written. The pieces that the marks of the tree are written as stand side by side as those of the
source do, hence the canonical text is cut into them (`exists_read_written`). Their tokens leave the same marks,
and tokens that leave the marks of a tree form the tree (`Forms.again`).
-/

namespace Stencil

variable {ctx : ReadContext} {quote : Char}

/-! ## Tokens that leave the same marks -/

mutual

/-- Tokens that leave the marks of a tree form the tree, up to places and tags as they were written. -/
theorem Forms.again {before : ReadContext} {tokens others : List Token} {nodes : List Node}
    (h : Forms before tokens nodes) (each : List.Forall₂ (Mark.Again ctx) others (Node.marksOfAll nodes)) :
    ∃ nodes', Forms ctx others nodes' ∧ Node.bareAll nodes' = Node.bareAll nodes := by
  match h with
  | .nil =>
    obtain rfl := List.forall₂_nil_right_iff.1 each
    exact ⟨[], .nil, rfl⟩
  | .data _ rest =>
    obtain ⟨u, later, ⟨tag, text⟩, each₁, rfl⟩ := List.forall₂_cons_right_iff.1 each
    obtain ⟨nodes₁, forms, same⟩ := Forms.again rest each₁
    refine ⟨_, .data tag forms, ?_⟩
    simp [Node.bareAll, Node.bare, text, same]
  | .output _ read rest =>
    obtain ⟨-, rfl⟩ := readOutput_eq_ok_iff.1 read
    obtain ⟨u, later, ⟨_, _, node, tag, read', bare⟩, each₁, rfl⟩ := List.forall₂_cons_right_iff.1 each
    obtain ⟨nodes₁, forms, same⟩ := Forms.again rest each₁
    refine ⟨_, .output tag read' forms, ?_⟩
    rw [Node.bareAll, Node.bareAll, bare, same]
  | .cond _ _ first branches rest =>
    simp only [Node.marksOfAll, Node.marks, Node.marksOfBranches, List.cons_append, List.append_assoc] at each
    obtain ⟨u, later, ⟨_, test, tag, read, bare⟩, each', rfl⟩ := List.forall₂_cons_right_iff.1 each
    obtain ⟨others₁, later, rfl, each₁, each''⟩ := exists_of_forall₂_append each'
    rw [← List.append_assoc] at each''
    obtain ⟨others₂, others₃, rfl, each₂, each₃⟩ := exists_of_forall₂_append each''
    obtain ⟨nodes₁, forms₁, same₁⟩ := Forms.again first each₁
    obtain ⟨branches', otherwise', forms₂, same₂, last⟩ := FormsBranches.again branches each₂
    obtain ⟨nodes₃, forms₃, same₃⟩ := Forms.again rest each₃
    refine ⟨.cond u.position ((test, nodes₁) :: branches') otherwise' :: nodes₃, ?_, ?_⟩
    · have forms := Forms.cond tag read forms₁ forms₂ forms₃
      simpa using forms
    · simp [Node.bareAll, Node.bare, Node.bareBranches, bare, same₁, same₂, same₃, last]
  | .foreach _ inner _ rest =>
    simp only [Node.marksOfAll, Node.marks, List.cons_append, List.append_assoc, List.nil_append] at each
    obtain ⟨u, others₁, e, others₂, rfl, ⟨_, tag, path⟩, each₁, ends, each₂⟩ := exists_of_forall₂_block each
    obtain ⟨nodes₁, forms₁, same₁⟩ := Forms.again inner each₁
    obtain ⟨nodes₂, forms₂, same₂⟩ := Forms.again rest each₂
    refine ⟨_, .foreach tag forms₁ ends forms₂, ?_⟩
    simp [Node.bareAll, Node.bare, path, same₁, same₂]
  | .count _ _ _ inner _ rest =>
    simp only [Node.marksOfAll, Node.marks, List.cons_append, List.append_assoc, List.nil_append] at each
    obtain ⟨u, others₁, e, others₂, rfl, ⟨_, _, tag, isFirst, isLast⟩, each₁, ends, each₂⟩ :=
      exists_of_forall₂_block each
    obtain ⟨nodes₁, forms₁, same₁⟩ := Forms.again inner each₁
    obtain ⟨nodes₂, forms₂, same₂⟩ := Forms.again rest each₂
    refine ⟨_, .count tag isFirst isLast forms₁ ends forms₂, ?_⟩
    simp [Node.bareAll, Node.bare, same₁, same₂]

theorem FormsBranches.again {before : ReadContext} {tokens others : List Token}
    {branches : List (Expr × List Node)} {otherwise : List Node} (h : FormsBranches before tokens branches otherwise)
    (each : List.Forall₂ (Mark.Again ctx) others
      (Node.marksOfBranches .elseIf branches ++ Mark.lastPart otherwise.isEmpty (Node.marksOfAll otherwise))) :
    ∃ branches' otherwise', FormsBranches ctx others branches' otherwise'
      ∧ Node.bareBranches branches' = Node.bareBranches branches
      ∧ Node.bareAll otherwise' = Node.bareAll otherwise := by
  match h with
  | .elseIf _ _ inner rest =>
    simp only [Node.marksOfBranches, List.cons_append, List.append_assoc] at each
    obtain ⟨u, later, ⟨_, test, tag, read, bare⟩, each', rfl⟩ := List.forall₂_cons_right_iff.1 each
    obtain ⟨others₁, others₂, rfl, each₁, each₂⟩ := exists_of_forall₂_append each'
    obtain ⟨nodes₁, forms₁, same₁⟩ := Forms.again inner each₁
    obtain ⟨branches', otherwise', forms₂, same₂, last⟩ := FormsBranches.again rest each₂
    refine ⟨(test, nodes₁) :: branches', otherwise', .elseIf tag read forms₁ forms₂, ?_, last⟩
    simp [Node.bareBranches, bare, same₁, same₂]
  | @FormsBranches.otherwise _ _ _ _ body _ inner _ =>
    have formed : ∀ {others : List Token}, List.Forall₂ (Mark.Again ctx) others (Node.marksOfAll body) →
        ∃ nodes', Forms ctx others nodes' ∧ Node.bareAll nodes' = Node.bareAll body :=
      fun each => Forms.again inner each
    cases body with
    | nil =>
      -- the last part is left out
      obtain ⟨e, none, ends, each', rfl⟩ := List.forall₂_cons_right_iff.1 each
      obtain rfl := List.forall₂_nil_right_iff.1 each'
      exact ⟨[], [], .close ends, rfl, rfl⟩
    | cons node more =>
      obtain ⟨u, others₁, e, none, rfl, tag, each₁, ends, eachNone⟩ := exists_of_forall₂_block each
      obtain rfl := List.forall₂_nil_right_iff.1 eachNone
      obtain ⟨nodes₁, forms₁, same₁⟩ := formed each₁
      exact ⟨[], nodes₁, .otherwise tag forms₁ ends, rfl, same₁⟩
  | .close _ =>
    obtain ⟨e, none, ends, each', rfl⟩ := List.forall₂_cons_right_iff.1 each
    obtain rfl := List.forall₂_nil_right_iff.1 each'
    exact ⟨[], [], .close ends, rfl, rfl⟩

end

/-! ## Pieces of canonical texts -/

/-- Where an `else` is left out, a tag follows: no two texts meet. -/
theorem Token.Apart.withoutEmptyElse {tokens : List Token} (apart : Token.Apart tokens) :
    Token.Apart (withoutEmptyElse tokens) := by
  have first : ∀ tokens : List Token, ∀ u ∈ (Stencil.withoutEmptyElse tokens).head?, u.tag = .data →
      u ∈ tokens.head? := by
    intro tokens u head data
    fun_induction Stencil.withoutEmptyElse tokens with
    | case1 => exact head
    | case2 t rest dropped ih =>
      have next := ih head
      rw [Option.mem_def] at next
      rw [next] at dropped
      rw [Option.map_some, data] at dropped
      cases dropped.2
    | case3 => exact head
  fun_induction Stencil.withoutEmptyElse tokens with
  | case1 => exact .nil
  | case2 t rest _ ih => exact ih (List.isChain_cons.1 apart).2
  | case3 t rest _ ih =>
    obtain ⟨border, apart⟩ := List.isChain_cons.1 apart
    refine List.isChain_cons.2 ⟨?_, ih apart⟩
    rintro u head ⟨data, data'⟩
    exact border u (first rest u head data') ⟨data, data'⟩

/-- Only the mark of a text is rendered as a text. -/
theorem Mark.Rendered.isData {m : Mark} {item : Piece × Tag} (h : m.Rendered ctx quote item)
    (text : item.1.isText) : ∃ position text, m = .data position text := by
  obtain ⟨piece, tag⟩ := item
  cases piece with
  | text chars =>
    cases h.spoken
    have again : m.Again ctx ⟨.data, m.written quote, .start⟩ := h.again rfl rfl
    cases m with
    | data position text => exact ⟨position, text, rfl⟩
    | output | openIf | elseIf | openForeach | openFor => simp [Mark.Again] at again
    | _ => cases again
  | output | block => cases text

/-- Marks that tokens apart from each other leave are written as the source of tokens that leave them again. -/
theorem exists_read_written (origin : Origin) {tokens : List Token} {marks : List Mark}
    (each : List.Forall₂ (Mark.Of ctx) tokens marks) (apart : Token.Apart tokens)
    (rendered : ∀ m ∈ marks, ∃ item, m.Rendered ctx quote item) :
    ∃ body eof, Token.read origin (String.join (marks.map (Mark.written quote))) = .ok (body ++ [eof])
      ∧ eof.tag = .finish ∧ List.Forall₂ (Mark.Again ctx) body marks := by
  obtain ⟨items, written⟩ : ∃ items, List.Forall₂ (fun item m => Mark.Rendered ctx quote m item) items marks :=
    exists_forall₂ rendered
  have whole : (items.map Prod.fst).flatMap Piece.chars
      = (String.join (marks.map (Mark.written quote))).toList := by
    clear each rendered
    induction written with
    | nil => rfl
    | cons here _ ih =>
      rw [List.map_cons, List.flatMap_cons, ih, here.chars, List.map_cons, String.join_cons, String.toList_append]
  have ofItem : ∀ item ∈ items, ∃ m, Mark.Rendered ctx quote m item := by
    intro item mem
    have back : List.Forall₂ (Mark.Rendered ctx quote) marks items := List.Forall₂.flip written
    obtain ⟨m, -, here⟩ := exists_of_forall₂ back mem
    exact ⟨m, here⟩
  have apartMarks : marks.IsChain fun m n =>
      ¬ ((∃ position text, m = .data position text) ∧ ∃ position text, n = .data position text) := by
    have back : List.Forall₂ (flip (Mark.Of ctx)) marks tokens := List.Forall₂.flip each
    refine isChain_of_forall₂ back ?_ apart
    rintro _ t _ u ofM ofN border ⟨⟨_, _, rfl⟩, ⟨_, _, rfl⟩⟩
    exact border ⟨ofM.1, ofN.1⟩
  have apartPieces : (items.map Prod.fst).IsChain fun p q => ¬ (p.isText ∧ q.isText) := by
    rw [List.isChain_map]
    refine isChain_of_forall₂ written ?_ apartMarks
    rintro _ m _ n here next border ⟨text, text'⟩
    exact border ⟨here.isData text, next.isData text'⟩
  have cuts : Piece.Cuts (items.map Prod.fst) := by
    refine ⟨?_, apartPieces⟩
    intro piece mem
    obtain ⟨item, inside, rfl⟩ := List.mem_map.1 mem
    obtain ⟨m, here⟩ := ofItem item inside
    exact here.cut
  have spoken : ∀ item ∈ items, item.1.Says item.2 := by
    intro item mem
    obtain ⟨m, here⟩ := ofItem item mem
    exact here.spoken
  obtain ⟨body, eof, read, ends, made⟩ := Token.exists_read origin cuts spoken
  rw [whole, String.ofList_toList] at read
  refine ⟨body, eof, read, ends, forall₂_of_common written made ?_⟩
  rintro item m t here ⟨tag, text⟩
  exact here.again tag (by rw [text, here.chars, String.ofList_toList])

/-- A source whose conditions hold no number with a fraction is read, as tokens and as nodes, and then so is
the canonical text of the nodes, with either kind of quotes, as the same nodes up to places and tags as they
were written. -/
theorem Node.ofTokens_written (isQuote : quote = '\'' ∨ quote = '"') {tokens : List Token} {source : String}
    {nodes : List Node} (tokenized : Token.read ctx.origin source = .ok tokens)
    (whole : ∀ t ∈ tokens, t.IsWhole) (read : Node.ofTokens ctx tokens = .ok nodes) (origin : Origin) (quotable : Option String) :
    ∃ tokens' nodes', Token.read origin (Node.written quote nodes) = .ok tokens'
      ∧ Node.ofTokens { ctx with origin := origin, source := quotable } tokens' = .ok nodes'
      ∧ Node.bareAll nodes' = Node.bareAll nodes := by
  obtain ⟨body, eof, rfl, ends, proper, apart⟩ := Token.exists_body_of_read tokenized
  have forms := (Node.ofTokens_eq_ok_iff (Token.unfinished_of_read tokenized) ends).1 read
  have readable := forms.readable
  have each : List.Forall₂ (Mark.Of { ctx with origin := origin, source := quotable }) (withoutEmptyElse body)
      (Node.marksOfAll nodes) := forms.forall₂_marks proper
  have rendered : ∀ m ∈ Node.marksOfAll nodes,
      ∃ item, m.Rendered { ctx with origin := origin, source := quotable } quote item := by
    intro m mem
    obtain ⟨t, kept, of⟩ := exists_of_forall₂ each mem
    have inside := mem_of_mem_withoutEmptyElse kept
    exact Mark.exists_rendered isQuote of (proper t inside) (readable t inside)
      (whole t (List.mem_append_left _ inside))
  obtain ⟨body', eof', read', ends', each'⟩ := exists_read_written origin each apart.withoutEmptyElse rendered
  obtain ⟨nodes', forms', same⟩ := forms.again each'
  exact ⟨_, nodes', read', (Node.ofTokens_eq_ok_iff (Token.unfinished_of_read read') ends').2 forms', same⟩

/-- A condition without spaces, with a single quote between double ones, and an empty last part. -/
theorem Node.ofTokens_written_quoted :
    ∃ tokens nodes tokens' nodes',
      Token.read ⟨none, none⟩ "\x7b%if a==\"it's\"%\x7dx\x7b%else%\x7d\x7b%endif%\x7d" = .ok tokens
      ∧ Node.ofTokens ⟨⟨none, none⟩, none, [], true⟩ tokens = .ok nodes
      ∧ Node.written '\'' nodes = "\x7b% if a == 'it\\'s' %\x7dx\x7b% endif %\x7d"
      ∧ Token.read ⟨none, none⟩ (Node.written '\'' nodes) = .ok tokens'
      ∧ Node.ofTokens ⟨⟨none, none⟩, none, [], true⟩ tokens' = .ok nodes'
      ∧ Node.bareAll nodes' = Node.bareAll nodes := by
  have tokenized : Token.read ⟨none, none⟩ "\x7b%if a==\"it's\"%\x7dx\x7b%else%\x7d\x7b%endif%\x7d"
      = .ok [⟨.openIf "a==\"it's\"", "\x7b%if a==\"it's\"%\x7d", ⟨1, 0⟩⟩, ⟨.data, "x", ⟨1, 16⟩⟩,
        ⟨.otherwise, "\x7b%else%\x7d", ⟨1, 17⟩⟩, ⟨.closeIf, "\x7b%endif%\x7d", ⟨1, 25⟩⟩, ⟨.finish, "", ⟨1, 34⟩⟩] :=
    eq_ok_of_toOption (by decide +kernel)
  have lexed : Lexeme.readAll (stripEnd "a==\"it's\"".toList)
      = .ok [.name ['a'], .operator .equals, .quoted "\"it's\"".toList] := by decide +kernel
  have writes : Condition.Phrase.Writes ⟨⟨.path ['a'] [], some (true, .quoted "\"it's\"".toList)⟩, false⟩
      "a==\"it's\"" :=
    ⟨⟨⟨⟨by decide, by simp⟩, by simp [Condition.Operand.Valid]⟩, by decide⟩, Lexeme.readAll_eq_ok_iff.1 lexed⟩
  have forms : Forms ⟨⟨none, none⟩, none, [], true⟩
      [⟨.openIf "a==\"it's\"", "\x7b%if a==\"it's\"%\x7d", ⟨1, 0⟩⟩, ⟨.data, "x", ⟨1, 16⟩⟩,
        ⟨.otherwise, "\x7b%else%\x7d", ⟨1, 17⟩⟩, ⟨.closeIf, "\x7b%endif%\x7d", ⟨1, 25⟩⟩]
      [.cond ⟨1, 0⟩ [(.compare ⟨1, 0⟩ (.path ⟨1, 0⟩ ["a"]) true (.const ⟨1, 0⟩ (.text "it's")),
        [.data ⟨1, 16⟩ "x"])] []] :=
    .cond rfl (readCondition_eq_ok_iff.2 ⟨_, writes, by decide, List.forall_mem_cons.2 ⟨trivial,
      List.forall_mem_cons.2 ⟨trivial, List.forall_mem_singleton.2 trivial⟩⟩, rfl⟩) (.data rfl .nil)
      (.otherwise rfl .nil rfl) .nil
  have read := (@Node.ofTokens_eq_ok_iff _ _ ⟨.finish, "", ⟨1, 34⟩⟩ _ (by decide) rfl).2 forms
  have whole : ∀ t ∈ [(⟨.openIf "a==\"it's\"", "\x7b%if a==\"it's\"%\x7d", ⟨1, 0⟩⟩ : Token), ⟨.data, "x", ⟨1, 16⟩⟩,
        ⟨.otherwise, "\x7b%else%\x7d", ⟨1, 17⟩⟩, ⟨.closeIf, "\x7b%endif%\x7d", ⟨1, 25⟩⟩, ⟨.finish, "", ⟨1, 34⟩⟩],
      t.IsWhole := by
    intro t mem condition lexemes literal has lexed' inside
    simp only [List.mem_cons, List.not_mem_nil, or_false] at mem
    rcases mem with rfl | rfl | rfl | rfl | rfl <;> rcases has with ⟨⟨⟩⟩ | ⟨⟨⟩⟩
    obtain rfl := Except.ok.inj (lexed.symm.trans lexed')
    simp at inside
  obtain ⟨tokens', nodes', again⟩ :=
    Node.ofTokens_written (.inl rfl) tokenized whole read ⟨none, none⟩ none
  exact ⟨_, _, tokens', nodes', tokenized, read, by decide +kernel, again⟩

end Stencil
