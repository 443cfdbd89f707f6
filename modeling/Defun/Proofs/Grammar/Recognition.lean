import Defun.Proofs.Grammar.Derivation

/-!
# Derivable token sequences are those that are accepted

Reading the tokens of an expression, wherever one may begin, completes its
tree and changes nothing else.  Conversely, whatever is accepted from a place
where an expression may begin starts with the tokens of one.  Both facts extend
to argument lists, definitions and programs, so that the accepted sequences
are exactly those that the grammar derives, with the tree of the derivation.
-/

namespace Defun

namespace Derivation

section Completeness

variable (definitions : List Node)

mutual

/-- Reading the tokens of an expression completes its tree. -/
theorem Expression.result_eq :
    (expression : Expression) → (state : State) → {around : Surroundings} →
    state.surroundings? = some around → {rest : List Token} →
    NotOpening rest →
    (⟨definitions, state⟩ : Progress).result (expression.tokens ++ rest) =
      (⟨definitions, .complete expression.tree around⟩ : Progress).result rest
  | .integer numeral, _, _, enters, rest, _ =>
      Progress.result_cons_of_advance
        (State.step_integer enters numeral.category? numeral.denotes) rest
  | .reference name, _, around, enters, rest, ends => by
      rw [Expression.tokens, List.cons_append, List.nil_append,
        Progress.result_cons_of_advance
          (State.step_identifier enters name.category?)]
      exact Progress.result_identifier definitions name.token.lexeme around
        ends
  | .call name opening arguments closing, _, around, enters, rest, _ => by
      have opens : (State.identifier name.token.lexeme around).step
          opening.token =
          .ok (.advance (.firstArgument name.token.lexeme around)) := by
        simp [State.step]
      rw [Expression.tokens, List.cons_append, List.cons_append,
        List.append_assoc, List.cons_append, List.nil_append,
        Progress.result_cons_of_advance
          (State.step_identifier enters name.category?),
        Progress.result_cons_of_advance opens]
      exact Arguments.result_eq arguments name.token.lexeme around closing rest

theorem Arguments.result_eq :
    (arguments : Arguments) → (name : Bytes) → (around : Surroundings) →
    (closing : Terminal .closing) → (rest : List Token) →
    (⟨definitions, .firstArgument name around⟩ : Progress).result
        (arguments.tokens ++ closing.token :: rest) =
      (⟨definitions, .complete (.call name arguments.trees) around⟩ :
        Progress).result rest
  | .none, name, around, closing, rest => by
      have closes : (State.firstArgument name around).step closing.token =
          .ok (.advance (.complete (.call name []) around)) := by
        simp [State.step]
      exact Progress.result_cons_of_advance closes rest
  | .some first others, name, around, closing, rest => by
      rw [Arguments.tokens, List.append_assoc,
        Expression.result_eq first (.firstArgument name around) rfl
          (others.notOpening closing rest)]
      exact MoreArguments.result_eq others first.tree name [] around.header
        around.calls closing rest

theorem MoreArguments.result_eq :
    (others : MoreArguments) → (node : Node) → (name : Bytes) →
    (read : List Node) → (header : Option Header) →
    (calls : List OpenCall) → (closing : Terminal .closing) →
    (rest : List Token) →
    (⟨definitions, .complete node ⟨header, ⟨name, read⟩ :: calls⟩⟩ :
        Progress).result (others.tokens ++ closing.token :: rest) =
      (⟨definitions, .complete
          (.call name ((node :: read).reverse ++ others.trees))
          ⟨header, calls⟩⟩ : Progress).result rest
  | .none, node, name, read, header, calls, closing, rest => by
      have closes : (State.complete node
          ⟨header, ⟨name, read⟩ :: calls⟩).step closing.token =
          .ok (.advance (.complete (.call name (node :: read).reverse)
            ⟨header, calls⟩)) := by
        simp [State.step, State.leave]
      rw [MoreArguments.trees, List.append_nil]
      exact Progress.result_cons_of_advance closes rest
  | .next comma argument others, node, name, read, header, calls, closing,
      rest => by
      have separates : (State.complete node
          ⟨header, ⟨name, read⟩ :: calls⟩).step comma.token =
          .ok (.advance (.nextArgument
            ⟨header, ⟨name, node :: read⟩ :: calls⟩)) := by
        simp [State.step, State.leave]
      have treesEq : (node :: read).reverse ++
          (MoreArguments.next comma argument others).trees =
          (argument.tree :: node :: read).reverse ++ others.trees := by
        simp [MoreArguments.trees]
      rw [treesEq, MoreArguments.tokens, List.cons_append, List.append_assoc,
        Progress.result_cons_of_advance separates,
        Expression.result_eq argument (.nextArgument _) rfl
          (others.notOpening closing rest)]
      exact MoreArguments.result_eq others argument.tree name (node :: read)
        header calls closing rest

end

theorem moreParameters_result_eq
    (others : List (Terminal .comma × Terminal .identifier)) (name : Bytes)
    (read : List Bytes) (closing : Terminal .closing) (rest : List Token) :
    (⟨definitions, .moreParameters name read⟩ : Progress).result
        ((others.flatMap fun (comma, name) => [comma.token, name.token]) ++
          closing.token :: rest) =
      (⟨definitions, .body ⟨name, read.reverse ++
        others.map fun (_, name) => name.token.lexeme⟩⟩ : Progress).result
        rest := by
  induction others generalizing read with
  | nil =>
      have closes : (State.moreParameters name read).step closing.token =
          .ok (.advance (.body ⟨name, read.reverse⟩)) := by
        simp [State.step]
      rw [List.map_nil, List.append_nil]
      exact Progress.result_cons_of_advance closes rest
  | cons parameter others ih =>
      obtain ⟨comma, parameter⟩ := parameter
      have separates : (State.moreParameters name read).step comma.token =
          .ok (.advance (.nextParameter name read)) := by
        simp [State.step]
      have names : (State.nextParameter name read).step parameter.token =
          .ok (.advance (.moreParameters name
            (parameter.token.lexeme :: read))) := by
        simp [State.step]
      simp only [List.flatMap_cons, List.cons_append, List.nil_append]
      rw [Progress.result_cons_of_advance separates,
        Progress.result_cons_of_advance names, ih]
      simp

theorem Parameters.result_eq (parameters : Parameters) (name : Bytes)
    (closing : Terminal .closing) (rest : List Token) :
    (⟨definitions, .firstParameter name⟩ : Progress).result
        (parameters.tokens ++ closing.token :: rest) =
      (⟨definitions, .body ⟨name, parameters.names⟩⟩ : Progress).result
        rest := by
  cases parameters with
  | none =>
      have closes : (State.firstParameter name).step closing.token =
          .ok (.advance (.body ⟨name, []⟩)) := by
        simp [State.step]
      exact Progress.result_cons_of_advance closes rest
  | some first others =>
      have names : (State.firstParameter name).step first.token =
          .ok (.advance (.moreParameters name [first.token.lexeme])) := by
        simp [State.step]
      rw [Parameters.tokens, List.cons_append,
        Progress.result_cons_of_advance names, moreParameters_result_eq]
      rfl

theorem body_result_eq (body : Option Expression) (header : Header)
    (finish : Terminal .finish) (rest : List Token) :
    (⟨definitions, .body header⟩ : Progress).result
        (bodyTokens body ++ finish.token :: rest) =
      (⟨definitions ++ [.define header.name header.parameters
        (body.map Expression.tree).toList], .outside⟩ : Progress).result
        rest := by
  cases body with
  | none =>
      have closes : (State.body header).step finish.token =
          .ok (.close (.define header.name header.parameters [])) := by
        simp [State.step]
      exact Progress.result_cons_of_close closes rest
  | some expression =>
      have closes : (State.complete expression.tree ⟨some header, []⟩).step
          finish.token = .ok (.close (.define header.name header.parameters
            [expression.tree])) := by
        simp [State.step, State.leave]
      rw [bodyTokens, expression.result_eq definitions (.body header) rfl
        (notOpening_cons finish (by decide) rest)]
      exact Progress.result_cons_of_close closes rest

/-- Reading the tokens of a definition adds its tree. -/
theorem Definition.result_eq (definition : Definition) (rest : List Token) :
    (⟨definitions, .outside⟩ : Progress).result (definition.tokens ++ rest) =
      (⟨definitions ++ [definition.tree], .outside⟩ : Progress).result
        rest := by
  obtain ⟨define, name, opening, parameters, closing, body, finish⟩ :=
    definition
  have defines : State.outside.step define.token =
      .ok (.advance .definitionName) := by
    simp [State.step]
  have names : State.definitionName.step name.token =
      .ok (.advance (.parameters name.token.lexeme)) := by
    simp [State.step]
  have opens : (State.parameters name.token.lexeme).step opening.token =
      .ok (.advance (.firstParameter name.token.lexeme)) := by
    simp [State.step]
  simp only [Definition.tokens, List.cons_append, List.append_assoc,
    List.nil_append]
  rw [Progress.result_cons_of_advance defines,
    Progress.result_cons_of_advance names,
    Progress.result_cons_of_advance opens, Parameters.result_eq,
    body_result_eq]
  rfl

theorem Program.result_eq (program : Program) (rest : List Token) :
    (⟨definitions, .outside⟩ : Progress).result (program.tokens ++ rest) =
      (⟨definitions ++ program.definitions.map Definition.tree, .outside⟩ :
        Progress).result rest := by
  obtain ⟨others⟩ := program
  simp only [Program.tokens]
  induction others generalizing definitions with
  | nil => simp
  | cons definition others ih =>
      rw [List.flatMap_cons, List.append_assoc, Definition.result_eq, ih]
      simp

end Completeness

section Soundness

variable {definitions : List Node} {tree : Node}

theorem Expression.following_length_lt (expression : Expression)
    {tokens following : List Token}
    (split : tokens = expression.tokens ++ following) :
    following.length < tokens.length := by
  obtain ⟨token, rest, tokensEq, -⟩ := expression.exists_tokens_cons
  rw [split, tokensEq, List.length_append, List.length_cons]
  omega

mutual

/-- What is accepted where an expression begins starts with an expression. -/
theorem exists_expression {state : State} {around : Surroundings}
    {token : Token} {rest : List Token}
    (enters : state.step token = state.enter around token)
    (accepted : (⟨definitions, state⟩ : Progress).result (token :: rest) =
      .ok tree) :
    ∃ (expression : Expression) (following : List Token),
      token :: rest = expression.tokens ++ following ∧
      (⟨definitions, .complete expression.tree around⟩ : Progress).result
        following = .ok tree := by
  cases entered : state.enter around token with
  | error located =>
      rw [entered] at enters
      rw [Progress.result_cons_of_error enters] at accepted
      cases accepted
  | ok move =>
      rw [entered] at enters
      rcases State.enter_ok entered with
        ⟨isInteger, value, denotes, rfl⟩ | ⟨isIdentifier, rfl⟩
      · rw [Progress.result_cons_of_advance enters] at accepted
        exact ⟨.integer ⟨token.terminal isInteger, value, denotes⟩, rest, rfl,
          accepted⟩
      · rw [Progress.result_cons_of_advance enters] at accepted
        by_cases ends : NotOpening rest
        · rw [Progress.result_identifier _ _ _ ends] at accepted
          exact ⟨.reference (token.terminal isIdentifier), rest, rfl, accepted⟩
        · cases rest with
          | nil => exact (ends notOpening_nil).elim
          | cons next others =>
              have isOpening : next.category? = some .opening := by
                simpa [NotOpening] using ends
              have opens : (State.identifier token.lexeme around).step next =
                  .ok (.advance (.firstArgument token.lexeme around)) := by
                simp [State.step, isOpening]
              rw [Progress.result_cons_of_advance opens] at accepted
              obtain ⟨arguments, closing, following, split, completed⟩ :=
                exists_arguments accepted
              refine ⟨.call (token.terminal isIdentifier)
                (next.terminal isOpening) arguments closing, following, ?_,
                completed⟩
              simp [Expression.tokens, Token.terminal, split]
termination_by 2 * rest.length

theorem exists_arguments {name : Bytes} {around : Surroundings}
    {tokens : List Token}
    (accepted : (⟨definitions, .firstArgument name around⟩ :
      Progress).result tokens = .ok tree) :
    ∃ (arguments : Arguments) (closing : Terminal .closing)
      (following : List Token),
      tokens = arguments.tokens ++ closing.token :: following ∧
      (⟨definitions, .complete (.call name arguments.trees) around⟩ :
        Progress).result following = .ok tree := by
  cases tokens with
  | nil => cases accepted
  | cons token rest =>
      by_cases isClosing : token.category? = some .closing
      · have closes : (State.firstArgument name around).step token =
            .ok (.advance (.complete (.call name []) around)) := by
          simp [State.step, isClosing]
        rw [Progress.result_cons_of_advance closes] at accepted
        exact ⟨.none, token.terminal isClosing, rest, rfl, accepted⟩
      · obtain ⟨first, following, split, completed⟩ := exists_expression
          (State.step_firstArgument name around isClosing) accepted
        have shorter := first.following_length_lt split
        obtain ⟨others, closing, last, splitOthers, called⟩ :=
          exists_moreArguments completed
        refine ⟨.some first others, closing, last, ?_, called⟩
        rw [split, splitOthers, Arguments.tokens, List.append_assoc]
termination_by 2 * tokens.length

theorem exists_moreArguments {node : Node} {header : Option Header}
    {name : Bytes} {read : List Node} {calls : List OpenCall}
    {tokens : List Token}
    (accepted : (⟨definitions, .complete node
      ⟨header, ⟨name, read⟩ :: calls⟩⟩ : Progress).result tokens =
        .ok tree) :
    ∃ (others : MoreArguments) (closing : Terminal .closing)
      (following : List Token),
      tokens = others.tokens ++ closing.token :: following ∧
      (⟨definitions, .complete
        (.call name ((node :: read).reverse ++ others.trees))
        ⟨header, calls⟩⟩ : Progress).result following = .ok tree := by
  cases tokens with
  | nil =>
      rw [Progress.result_nil] at accepted
      simp [State.finish] at accepted
  | cons token rest =>
      cases stepped : (State.complete node
          ⟨header, ⟨name, read⟩ :: calls⟩).step token with
      | error located =>
          rw [Progress.result_cons_of_error stepped] at accepted
          cases accepted
      | ok move =>
          rcases State.leave_ok_of_call stepped with
            ⟨isComma, rfl⟩ | ⟨isClosing, rfl⟩
          · rw [Progress.result_cons_of_advance stepped] at accepted
            cases rest with
            | nil => cases accepted
            | cons next rest =>
                obtain ⟨argument, following, split, completed⟩ :=
                  exists_expression rfl accepted
                have shorter := argument.following_length_lt split
                obtain ⟨others, closing, last, splitOthers, called⟩ :=
                  exists_moreArguments completed
                refine ⟨.next (token.terminal isComma) argument others,
                  closing, last, ?_, ?_⟩
                · rw [split, splitOthers]
                  simp [MoreArguments.tokens, Token.terminal]
                · simpa [MoreArguments.trees] using called
          · rw [Progress.result_cons_of_advance stepped] at accepted
            refine ⟨.none, token.terminal isClosing, rest, rfl, ?_⟩
            rw [MoreArguments.trees, List.append_nil]
            exact accepted
termination_by 2 * tokens.length
decreasing_by
  all_goals
    subst_vars
    simp only [List.length_cons] at *
    omega

end

theorem exists_moreParameters {name : Bytes} {read : List Bytes}
    {tokens : List Token}
    (accepted : (⟨definitions, .moreParameters name read⟩ :
      Progress).result tokens = .ok tree) :
    ∃ (others : List (Terminal .comma × Terminal .identifier))
      (closing : Terminal .closing) (following : List Token),
      tokens = (others.flatMap fun (comma, name) =>
        [comma.token, name.token]) ++ closing.token :: following ∧
      (⟨definitions, .body ⟨name, read.reverse ++
        others.map fun (_, name) => name.token.lexeme⟩⟩ : Progress).result
        following = .ok tree := by
  induction bound : tokens.length using Nat.strongRecOn
    generalizing tokens read with
  | ind length ih =>
      obtain ⟨token, rest, move, rfl, stepped, continued⟩ :=
        Progress.exists_step_of_result accepted (by simp [State.finish])
      rcases State.step_moreParameters_ok stepped with
        ⟨isClosing, rfl⟩ | ⟨isComma, rfl⟩
      · refine ⟨[], token.terminal isClosing, rest, rfl, ?_⟩
        rw [List.map_nil, List.append_nil]
        exact continued
      · obtain ⟨next, last, move, rfl, named, continued⟩ :=
          Progress.exists_step_of_result continued (by simp [State.finish])
        obtain ⟨isIdentifier, rfl⟩ := State.step_nextParameter_ok named
        have shorter : last.length < length := by
          simp only [List.length_cons] at bound
          omega
        obtain ⟨others, closing, following, split, completed⟩ :=
          ih last.length shorter continued rfl
        refine ⟨(token.terminal isComma, next.terminal isIdentifier) :: others,
          closing, following, ?_, ?_⟩
        · rw [split]
          simp [Token.terminal]
        · simpa [Token.terminal] using completed

theorem exists_parameters {name : Bytes} {tokens : List Token}
    (accepted : (⟨definitions, .firstParameter name⟩ : Progress).result
      tokens = .ok tree) :
    ∃ (parameters : Parameters) (closing : Terminal .closing)
      (following : List Token),
      tokens = parameters.tokens ++ closing.token :: following ∧
      (⟨definitions, .body ⟨name, parameters.names⟩⟩ : Progress).result
        following = .ok tree := by
  obtain ⟨token, rest, move, rfl, stepped, continued⟩ :=
    Progress.exists_step_of_result accepted (by simp [State.finish])
  rcases State.step_firstParameter_ok stepped with
    ⟨isClosing, rfl⟩ | ⟨isIdentifier, rfl⟩
  · exact ⟨.none, token.terminal isClosing, rest, rfl, continued⟩
  · obtain ⟨others, closing, following, split, completed⟩ :=
      exists_moreParameters continued
    refine ⟨.some (token.terminal isIdentifier) others, closing, following,
      ?_, completed⟩
    rw [split]
    rfl

theorem exists_body {header : Header} {tokens : List Token}
    (accepted : (⟨definitions, .body header⟩ : Progress).result tokens =
      .ok tree) :
    ∃ (body : Option Expression) (finish : Terminal .finish)
      (following : List Token),
      tokens = bodyTokens body ++ finish.token :: following ∧
      (⟨definitions ++ [.define header.name header.parameters
        (body.map Expression.tree).toList], .outside⟩ : Progress).result
        following = .ok tree := by
  cases tokens with
  | nil => cases accepted
  | cons token rest =>
      by_cases isFinish : token.category? = some .finish
      · have closes : (State.body header).step token =
            .ok (.close (.define header.name header.parameters [])) := by
          simp [State.step, isFinish]
        rw [Progress.result_cons_of_close closes] at accepted
        exact ⟨none, token.terminal isFinish, rest, rfl, accepted⟩
      · obtain ⟨expression, following, split, completed⟩ :=
          exists_expression (State.step_body header isFinish) accepted
        obtain ⟨last, others, move, rfl, stepped, continued⟩ :=
          Progress.exists_step_of_result completed (by simp [State.finish])
        obtain ⟨isFinish, rfl⟩ := State.leave_ok_of_body stepped
        exact ⟨some expression, last.terminal isFinish, others, split,
          continued⟩

/-- What is accepted between definitions is nothing more, or starts with a
definition. -/
theorem exists_definition {token : Token} {rest : List Token}
    (accepted : (⟨definitions, .outside⟩ : Progress).result (token :: rest) =
      .ok tree) :
    ∃ (definition : Definition) (following : List Token),
      token :: rest = definition.tokens ++ following ∧
      (⟨definitions ++ [definition.tree], .outside⟩ : Progress).result
        following = .ok tree := by
  cases stepped : State.outside.step token with
  | error located =>
      rw [Progress.result_cons_of_error stepped] at accepted
      cases accepted
  | ok move =>
      obtain ⟨isDefine, rfl⟩ := State.step_outside_ok stepped
      rw [Progress.result_cons_of_advance stepped] at accepted
      obtain ⟨name, _, _, rfl, named, behindName⟩ :=
        Progress.exists_step_of_result accepted (by simp [State.finish])
      obtain ⟨isName, rfl⟩ := State.step_definitionName_ok named
      obtain ⟨opening, _, _, rfl, opened, behindOpening⟩ :=
        Progress.exists_step_of_result behindName (by simp [State.finish])
      obtain ⟨isOpening, rfl⟩ := State.step_parameters_ok opened
      obtain ⟨parameters, closing, _, rfl, behindParameters⟩ :=
        exists_parameters behindOpening
      obtain ⟨body, finish, following, rfl, behindBody⟩ :=
        exists_body behindParameters
      refine ⟨⟨token.terminal isDefine, name.terminal isName,
        opening.terminal isOpening, parameters, closing, body, finish⟩,
        following, ?_, behindBody⟩
      simp [Definition.tokens, Token.terminal]

theorem exists_program {tokens : List Token}
    (accepted : (⟨definitions, .outside⟩ : Progress).result tokens =
      .ok tree) :
    ∃ program : Program, tokens = program.tokens ∧
      tree = .root (definitions ++
        program.definitions.map Definition.tree) := by
  induction bound : tokens.length using Nat.strongRecOn
    generalizing tokens definitions with
  | ind length ih =>
      cases tokens with
      | nil =>
          cases accepted
          exact ⟨⟨[]⟩, rfl, by simp⟩
      | cons token rest =>
          obtain ⟨definition, following, split, continued⟩ :=
            exists_definition accepted
          have shorter : following.length < length := by
            rw [← bound, split, Definition.tokens, List.length_append,
              List.length_cons]
            omega
          obtain ⟨⟨others⟩, rfl, rfl⟩ :=
            ih following.length shorter continued rfl
          exact ⟨⟨definition :: others⟩, split, by simp⟩

end Soundness

theorem parse_eq_ok_iff {tokens : List Token} {root : Node} :
    parse tokens = .ok root ↔
      ∃ program : Program, program.tokens = tokens ∧ program.tree = root := by
  rw [parse_eq_result]
  constructor
  · intro accepted
    obtain ⟨program, tokensEq, treeEq⟩ := exists_program accepted
    exact ⟨program, tokensEq.symm, treeEq.symm⟩
  · rintro ⟨program, rfl, rfl⟩
    have completed := program.result_eq [] []
    rwa [List.append_nil] at completed

theorem parseExpression_eq_ok_iff {tokens : List Token} {tree : Node} :
    parseExpression tokens = .ok tree ↔
      ∃ expression : Expression, expression.tokens = tokens ∧
        expression.tree = tree := by
  rw [parseExpression_eq_result]
  constructor
  · intro accepted
    cases tokens with
    | nil => cases accepted
    | cons token rest =>
        obtain ⟨expression, following, split, completed⟩ :=
          exists_expression rfl accepted
        cases following with
        | nil =>
            cases completed
            exact ⟨expression, by rw [split, List.append_nil], rfl⟩
        | cons next others =>
            cases stepped : (State.complete expression.tree
                ⟨none, []⟩).step next with
            | error located =>
                rw [Progress.result_cons_of_error stepped] at completed
                cases completed
            | ok move =>
                exact (State.leave_ne_ok_of_alone expression.tree move
                  stepped).elim
  · rintro ⟨expression, rfl, rfl⟩
    have completed := expression.result_eq [] .expression rfl notOpening_nil
    rwa [List.append_nil] at completed

end Derivation

/-- The accepted sequences are those with a derivation, which is then the only
one and gives the tree. -/
theorem parse_ok_iff_unique_derivation (tokens : List Token) (tree : Node) :
    (parse tokens = .ok tree ↔
      ∃ program : Derivation.Program, program.tokens = tokens ∧
        program.tree = tree ∧
        ∀ other : Derivation.Program, other.tokens = tokens →
          other = program) ∧
    (parseExpression tokens = .ok tree ↔
      ∃ expression : Derivation.Expression, expression.tokens = tokens ∧
        expression.tree = tree ∧
        ∀ other : Derivation.Expression, other.tokens = tokens →
          other = expression) := by
  rw [Derivation.parse_eq_ok_iff, Derivation.parseExpression_eq_ok_iff]
  constructor
  · constructor
    · rintro ⟨program, tokensEq, treeEq⟩
      refine ⟨program, tokensEq, treeEq, fun other otherEq => ?_⟩
      exact Derivation.Program.tokens_injective (otherEq.trans tokensEq.symm)
    · rintro ⟨program, tokensEq, treeEq, -⟩
      exact ⟨program, tokensEq, treeEq⟩
  · constructor
    · rintro ⟨expression, tokensEq, treeEq⟩
      refine ⟨expression, tokensEq, treeEq, fun other otherEq => ?_⟩
      exact Derivation.Expression.tokens_injective
        (otherEq.trans tokensEq.symm)
    · rintro ⟨expression, tokensEq, treeEq, -⟩
      exact ⟨expression, tokensEq, treeEq⟩

end Defun
