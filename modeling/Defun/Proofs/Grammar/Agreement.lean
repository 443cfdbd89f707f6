import Defun.Proofs.Grammar.Descent

/-!
# The rules agree with the reading

Each rule does what reading does from the place where the rule begins to the
place behind it.  So the rules always have an outcome: they never ask for a
token that is not there, and no bound is reached.
-/

namespace Defun

/-- Tokens of these categories are expected at a place, and the input may not
end there. -/
structure State.Awaits (state : State) (expected : List Category) :
    Prop where
  names_eq : state.expectedNames = expected.map Category.name
  unfinished : ∀ definitions, state.finish definitions =
    .error ⟨.absent, .unexpectedEnd state.expectedNames⟩

namespace Rule

/-- Reading goes on behind a rule, from the place that belongs to its value. -/
def goesOn {α : Type} (place : α → Progress) (value : α) (stop : Parser) :
    Reading :=
  (place value).reading stop.rest

/-- The outcome of a rule agrees with the reading from a place: a value leaves
what is stated for it, and an error is the error of the reading. -/
inductive Agrees {α : Type} (start : Parser) (progress : Progress)
    (left : α → Parser → Reading) :
    Option (Except (Located SyntaxError) α × Parser) → Prop where
  | success {value : α} {stop : Parser} (reaches : start.Reaches stop)
      (reads : progress.reading start.rest = left value stop) :
      Agrees start progress left (some (.ok value, stop))
  | failure {located : Located SyntaxError} {stop : Parser}
      (reaches : start.Reaches stop)
      (reads : progress.reading start.rest = ⟨.error located, stop.rest⟩) :
      Agrees start progress left (some (.error located, stop))

section Agreement

variable {α β : Type} {start : Parser} {progress : Progress}
  {left : α → Parser → Reading}

theorem Agrees.from {middle : Parser} {between : Progress}
    {outcome : Option (Except (Located SyntaxError) α × Parser)}
    (agrees : Agrees middle between left outcome)
    (reaches : start.Reaches middle)
    (reads : progress.reading start.rest = between.reading middle.rest) :
    Agrees start progress left outcome := by
  cases agrees with
  | success onwards continues =>
      exact .success (reaches.trans onwards) (reads.trans continues)
  | failure onwards continues =>
      exact .failure (reaches.trans onwards) (reads.trans continues)

theorem Agrees.bind {rule : Rule β} {between : β → Progress}
    {continuation : β → Rule α}
    (first : Agrees start progress (goesOn between) (rule start))
    (second : ∀ value stop, start.Reaches stop →
      Agrees stop (between value) left (continuation value stop)) :
    Agrees start progress left ((rule >>= continuation) start) := by
  generalize ran : rule start = outcome at first
  cases first with
  | success reaches reads =>
      rw [bind_of_ok ran]
      exact (second _ _ reaches).from reaches reads
  | failure reaches reads =>
      rw [bind_of_error ran]
      exact .failure reaches reads

theorem Agrees.of_read {token : Token} {next : Progress}
    {outcome : Option (Except (Located SyntaxError) α × Parser)}
    (agrees : Agrees start.next next left outcome)
    (found : start.front? = some token)
    (readToken : progress.read token = .ok next) :
    Agrees start progress left outcome := by
  apply agrees.from (Parser.reaches_next found)
  rw [Parser.rest_eq_cons found, Progress.reading_cons_of_read readToken]

theorem agrees_pure {place : α → Progress} (value : α) :
    Agrees start (place value) (goesOn place)
      ((pure value : Rule α) start) :=
  .success (.refl start) rfl

theorem agrees_unexpected_of_front? {expected : List Category}
    {token : Token} (found : start.front? = some token)
    (namesEq : progress.state.expectedNames = expected.map Category.name)
    (refused : progress.state.step token =
      .error (progress.state.refuse token)) :
    Agrees start progress left (unexpected expected start) := by
  rw [unexpected_of_front? found, ← namesEq]
  refine .failure (.refl start) ?_
  rw [Parser.rest_eq_cons found, Progress.reading_cons_of_refused refused]
  rfl

theorem agrees_unexpected {expected : List Category}
    (awaits : progress.state.Awaits expected)
    (refuses : ∀ token, start.front? = some token →
      progress.state.step token = .error (progress.state.refuse token)) :
    Agrees start progress left (unexpected expected start) := by
  cases found : start.front? with
  | none =>
      rw [unexpected_of_end found, ← awaits.names_eq]
      refine .failure (.refl start) ?_
      simp [Parser.rest_eq_nil found, awaits.unfinished]
  | some token =>
      exact agrees_unexpected_of_front? found awaits.names_eq
        (refuses token found)

theorem agrees_consume_bind {category : Category}
    {continuation : Token → Rule α}
    (awaits : progress.state.Awaits [category])
    (refuses : ∀ token, start.front? = some token →
      token.category? ≠ some category →
        progress.state.step token = .error (progress.state.refuse token))
    (continues : ∀ token, start.front? = some token →
      token.category? = some category → ∃ next,
        progress.read token = .ok next ∧
          Agrees start.next next left (continuation token start.next)) :
    Agrees start progress left
      ((consume category >>= continuation) start) := by
  by_cases isCategory : start.front?.bind Token.category? = some category
  · obtain ⟨token, found, categoryEq⟩ :=
      Option.bind_eq_some_iff.mp isCategory
    obtain ⟨next, readToken, agrees⟩ := continues token found categoryEq
    rw [consume_bind_of_category found categoryEq]
    exact agrees.of_read found readToken
  · rw [consume_bind_of_other isCategory]
    refine agrees_unexpected awaits fun token found => ?_
    apply refuses token found
    rwa [found] at isCategory

end Agreement

/-- The places in a list: behind its opening parenthesis, behind an item,
behind a comma, and behind the list.  The last item is first. -/
structure ListPlaces (α : Type) where
  opened : Progress
  behindItem : α → List α → Progress
  behindComma : List α → Progress
  closed : List α → Progress

/-- The parentheses and commas of a list lead from place to place. -/
structure ListPlaces.Lawful {α : Type} (places : ListPlaces α)
    (kinds : List Category) : Prop where
  close_opened : ∀ token : Token, token.category? = some .closing →
    places.opened.read token = .ok (places.closed [])
  close_behindItem : ∀ node read (token : Token),
    token.category? = some .closing →
      (places.behindItem node read).read token =
        .ok (places.closed (node :: read).reverse)
  separate : ∀ node read (token : Token), token.category? = some .comma →
    (places.behindItem node read).read token =
      .ok (places.behindComma (node :: read))
  awaits_comma : ∀ node read,
    (places.behindItem node read).state.Awaits [.comma]
  refuse_behindItem : ∀ node read (token : Token),
    token.category? ≠ some .closing → token.category? ≠ some .comma →
      (places.behindItem node read).state.step token =
        .error ((places.behindItem node read).state.refuse token)
  awaits_item : ∀ read, (places.behindComma read).state.Awaits kinds
  refuse_close : ∀ read (token : Token), token.category? = some .closing →
    (places.behindComma read).state.step token =
      .error ((places.behindComma read).state.refuse token)

section Lists

variable {α β : Type} {places : ListPlaces α} {kinds : List Category}
  {item : Rule α} {left : β → Parser → Reading} {continuation : List α → Rule β}

/-- A comma that an item follows. -/
theorem agrees_separator_bind {start : Parser} {node : α} {read : List α}
    {following : Unit → Rule β} (lawful : places.Lawful kinds)
    (notClosing : start.front?.bind Token.category? ≠ some .closing)
    (continues : ∀ token, start.front? = some token →
      start.next.front?.bind Token.category? ≠ some .closing →
        Agrees start.next (places.behindComma (node :: read)) left
          (following () start.next)) :
    Agrees start (places.behindItem node read) left
      ((separator kinds >>= following) start) := by
  rw [separator, bind_assoc, sees_bind_of_ne notClosing,
    if_neg Bool.false_ne_true, bind_assoc]
  apply agrees_consume_bind (lawful.awaits_comma node read)
  · intro token found notComma
    rw [found] at notClosing
    exact lawful.refuse_behindItem node read token notClosing notComma
  · intro token found isComma
    refine ⟨_, lawful.separate node read token isComma, ?_⟩
    rw [bind_assoc]
    by_cases isClosing :
        start.next.front?.bind Token.category? = some .closing
    · rw [sees_bind_of_eq isClosing, if_pos rfl, unexpected_bind]
      apply agrees_unexpected (lawful.awaits_item (node :: read))
      intro other foundOther
      rw [foundOther] at isClosing
      exact lawful.refuse_close (node :: read) other isClosing
    · rw [sees_bind_of_ne isClosing, if_neg Bool.false_ne_true, pure_bind]
      exact continues token found isClosing

/-- The end of a list. -/
theorem agrees_items_of_closing {start : Parser} {progress : Progress}
    {read : List α}
    (isClosing : start.front?.bind Token.category? = some .closing)
    (closes : ∀ token, start.front? = some token →
      token.category? = some .closing →
        progress.read token = .ok (places.closed read.reverse))
    (continues : ∀ all stop, start.Reaches stop →
      Agrees stop (places.closed all) left (continuation all stop))
    (rounds : Nat) :
    Agrees start progress left
      ((items kinds item (rounds + 1) read >>= fun all =>
        consume .closing >>= fun _ => continuation all) start) := by
  obtain ⟨token, found, categoryEq⟩ := Option.bind_eq_some_iff.mp isClosing
  rw [items, bind_assoc, sees_bind_of_eq isClosing, if_pos rfl, pure_bind,
    consume_bind_of_category found categoryEq]
  have agrees := continues read.reverse start.next
    (Parser.reaches_next found)
  exact agrees.of_read found (closes token found categoryEq)

/-- The items of a list and its closing parenthesis, from the beginning of a
round. -/
theorem agrees_items {limit : Nat} (lawful : places.Lawful kinds)
    (nextItem : ∀ (start : Parser) (read : List α), start.remaining < limit →
      Agrees start (places.behindComma read)
        (goesOn fun node => places.behindItem node read) (item start))
    {rounds : Nat} {start : Parser} {progress : Progress} {read : List α}
    (enough : start.remaining < rounds) (near : start.remaining < limit)
    (closes : ∀ token, start.front? = some token →
      token.category? = some .closing →
        progress.read token = .ok (places.closed read.reverse))
    (enters : start.front?.bind Token.category? ≠ some .closing →
      Agrees start progress (goesOn fun node => places.behindItem node read)
        (item start))
    (continues : ∀ all stop, start.Reaches stop →
      Agrees stop (places.closed all) left (continuation all stop)) :
    Agrees start progress left
      ((items kinds item rounds read >>= fun all =>
        consume .closing >>= fun _ => continuation all) start) := by
  induction rounds generalizing start progress read with
  | zero => omega
  | succ rounds ih =>
      by_cases isClosing : start.front?.bind Token.category? = some .closing
      · exact agrees_items_of_closing isClosing closes continues rounds
      · rw [items, bind_assoc, sees_bind_of_ne isClosing,
          if_neg Bool.false_ne_true, bind_assoc]
        refine (enters isClosing).bind fun node middle reaches => ?_
        have fewer := reaches.remaining_le
        have continuesMiddle : ∀ all stop, middle.Reaches stop →
            Agrees stop (places.closed all) left (continuation all stop) :=
          fun all stop onwards => continues all stop (reaches.trans onwards)
        rw [bind_assoc]
        by_cases isClosed :
            middle.front?.bind Token.category? = some .closing
        · -- A token is left in front of this round, so another round can
          -- follow it.
          obtain ⟨token, found, -⟩ := Option.bind_eq_some_iff.mp isClosed
          have fewerLeft := Parser.remaining_next_lt found
          obtain ⟨others, rfl⟩ : ∃ others, rounds = others + 1 :=
            ⟨rounds - 1, by omega⟩
          rw [separator, bind_assoc, sees_bind_of_eq isClosed, if_pos rfl,
            pure_bind]
          exact agrees_items_of_closing isClosed
            (fun token _ => lawful.close_behindItem node read token)
            continuesMiddle others
        · refine agrees_separator_bind lawful isClosed
            fun token found notClosing => ?_
          have fewerLeft := Parser.remaining_next_lt found
          refine ih (by omega) (by omega) ?_ ?_ fun all stop onwards =>
            continuesMiddle all stop
              ((Parser.reaches_next found).trans onwards)
          · intro other foundOther categoryEq
            rw [foundOther] at notClosing
            exact (notClosing categoryEq).elim
          · exact fun _ => nextItem middle.next (node :: read) (by omega)

theorem agrees_list_bind {start : Parser} {progress : Progress}
    (limit : Nat) (lawful : places.Lawful kinds)
    (refused : start.front?.bind Token.category? ≠ some .opening →
      Agrees start progress left (unexpected [.opening] start))
    (opens : ∀ token : Token, token.category? = some .opening →
      progress.read token = .ok places.opened)
    (near : start.remaining ≤ limit)
    (firstItem : ∀ start : Parser, start.remaining < limit →
      start.front?.bind Token.category? ≠ some .closing →
        Agrees start places.opened (goesOn fun node => places.behindItem node [])
          (item start))
    (nextItem : ∀ (start : Parser) (read : List α), start.remaining < limit →
      Agrees start (places.behindComma read)
        (goesOn fun node => places.behindItem node read) (item start))
    (continues : ∀ all stop, start.Reaches stop →
      Agrees stop (places.closed all) left (continuation all stop)) :
    Agrees start progress left
      ((list kinds item >>= continuation) start) := by
  rw [list, bind_assoc]
  by_cases isOpening : start.front?.bind Token.category? = some .opening
  case neg =>
    rw [consume_bind_of_other isOpening]
    exact refused isOpening
  obtain ⟨token, found, categoryEq⟩ := Option.bind_eq_some_iff.mp isOpening
  have fewer := Parser.remaining_next_lt found
  rw [consume_bind_of_category found categoryEq, bind_assoc, get_bind,
    bind_assoc]
  simp only [bind_assoc, pure_bind]
  refine Agrees.of_read ?_ found (opens token categoryEq)
  refine agrees_items lawful nextItem ?_ (by omega)
    (fun token _ => lawful.close_opened token)
    (firstItem start.next (by omega))
    fun all stop onwards => continues all stop
      ((Parser.reaches_next found).trans onwards)
  have bounded : start.next.remaining ≤ start.next.tokens.size :=
    Nat.sub_le _ _
  omega

end Lists

def parameterPlaces (definitions : List Node) (name : Bytes) :
    ListPlaces Bytes where
  opened := ⟨definitions, .firstParameter name⟩
  behindItem parameter read :=
    ⟨definitions, .moreParameters name (parameter :: read)⟩
  behindComma read := ⟨definitions, .nextParameter name read⟩
  closed all := ⟨definitions, .body ⟨name, all⟩⟩

def argumentPlaces (definitions : List Node) (name : Bytes)
    (around : Surroundings) : ListPlaces Node where
  opened := ⟨definitions, .firstArgument name around⟩
  behindItem node read := ⟨definitions, .complete node
    { around with calls := ⟨name, read⟩ :: around.calls }⟩
  behindComma read := ⟨definitions, .nextArgument
    { around with calls := ⟨name, read⟩ :: around.calls }⟩
  closed all := ⟨definitions, .complete (.call name all) around⟩

theorem lawful_parameterPlaces (definitions : List Node) (name : Bytes) :
    (parameterPlaces definitions name).Lawful [.identifier] where
  close_opened token isClosing :=
    Progress.read_of_advance (by simp [State.step, isClosing])
  close_behindItem parameter read token isClosing :=
    Progress.read_of_advance (by simp [State.step, isClosing])
  separate parameter read token isComma :=
    Progress.read_of_advance (by simp [State.step, isComma])
  awaits_comma parameter read := ⟨rfl, fun _ => rfl⟩
  refuse_behindItem parameter read token notClosing notComma := by
    simp [parameterPlaces, State.step]
  awaits_item read := ⟨rfl, fun _ => rfl⟩
  refuse_close read token isClosing := by
    simp [parameterPlaces, State.step, isClosing]

theorem lawful_argumentPlaces (definitions : List Node) (name : Bytes)
    (around : Surroundings) :
    (argumentPlaces definitions name around).Lawful State.items where
  close_opened token isClosing :=
    Progress.read_of_advance (by simp [State.step, isClosing])
  close_behindItem node read token isClosing :=
    Progress.read_of_advance (by simp [State.step, State.leave, isClosing])
  separate node read token isComma :=
    Progress.read_of_advance (by simp [State.step, State.leave, isComma])
  awaits_comma node read := ⟨rfl, fun _ => by
    simp [argumentPlaces, State.finish]⟩
  refuse_behindItem node read token notClosing notComma := by
    simp [argumentPlaces, State.step, State.leave, notClosing, notComma]
  awaits_item read := ⟨rfl, fun _ => rfl⟩
  refuse_close read token isClosing := by
    simp [argumentPlaces, State.step, State.enter, isClosing]

section Expressions

variable {start : Parser} {token : Token} {definitions : List Node}
  {state : State} {around : Surroundings}

theorem agrees_integer (found : start.front? = some token)
    (isInteger : token.category? = some .integer)
    (enters : state.step token = state.enter around token) :
    Agrees start ⟨definitions, state⟩
      (goesOn fun node => ⟨definitions, .complete node around⟩)
      (integer start) := by
  rw [integer, consume_bind_of_category found isInteger]
  cases denoted : Decimal.toWord? token.lexeme with
  | some value =>
      have advances : state.step token =
          .ok (.advance (.complete (.integer value) around)) := by
        simp [enters, State.enter, isInteger, denoted]
      exact (agrees_pure (Node.integer value)).of_read found
        (Progress.read_of_advance advances)
  | none =>
      have refused : state.step token =
          .error ⟨token, .integerRange token.lexeme⟩ := by
        simp [enters, State.enter, isInteger, denoted]
      refine .failure (Parser.reaches_next found) ?_
      rw [Parser.rest_eq_cons found, Progress.reading_cons_of_refused refused]
      rfl

theorem enter_of_other (notInteger : token.category? ≠ some .integer)
    (notName : token.category? ≠ some .identifier) :
    state.enter around token = .error (state.refuse token) := by
  unfold State.enter
  split
  · next isInteger => exact (notInteger isInteger).elim
  · next isName => exact (notName isName).elim
  · rfl

theorem agrees_reference (found : start.front? = some token)
    (isName : token.category? = some .identifier)
    (enters : state.step token = state.enter around token)
    (notOpening : start.next.front?.bind Token.category? ≠ some .opening) :
    Agrees start ⟨definitions, state⟩
      (goesOn fun node => ⟨definitions, .complete node around⟩)
      (some (.ok (.reference token.lexeme), start.next)) := by
  have advances : state.step token =
      .ok (.advance (.identifier token.lexeme around)) := by
    simp [enters, State.enter, isName]
  have readsName : (⟨definitions, .identifier token.lexeme around⟩ :
        Progress).reading start.next.rest =
      (⟨definitions, .complete (.reference token.lexeme) around⟩ :
        Progress).reading start.next.rest := by
    apply Progress.reading_identifier
    intro other first
    rw [Parser.head?_rest] at first
    rwa [first] at notOpening
  refine Agrees.of_read ?_ found (Progress.read_of_advance advances)
  exact .success (.refl start.next) readsName

theorem agrees_expressionWithin {depth : Nat}
    (enough : start.remaining < depth) (awaits : state.Awaits State.items)
    (enters : ∀ token, start.front? = some token →
      state.step token = state.enter around token) :
    Agrees start ⟨definitions, state⟩
      (goesOn fun node => ⟨definitions, .complete node around⟩)
      (expressionWithin depth start) := by
  induction depth generalizing start state around with
  | zero => omega
  | succ depth ih =>
      rw [expressionWithin]
      by_cases isInteger : start.front?.bind Token.category? = some .integer
      · rw [sees_bind_of_eq isInteger, if_pos rfl]
        obtain ⟨token, found, categoryEq⟩ :=
          Option.bind_eq_some_iff.mp isInteger
        exact agrees_integer found categoryEq (enters token found)
      rw [sees_bind_of_ne isInteger, if_neg Bool.false_ne_true]
      by_cases isName : start.front?.bind Token.category? = some .identifier
      case neg =>
        rw [sees_bind_of_ne isName, if_neg Bool.false_ne_true]
        refine agrees_unexpected awaits fun token found => ?_
        rw [found] at isInteger isName
        rw [enters token found]
        exact enter_of_other isInteger isName
      rw [sees_bind_of_eq isName, if_pos rfl, sees_bind]
      obtain ⟨token, found, categoryEq⟩ := Option.bind_eq_some_iff.mp isName
      have fewer := Parser.remaining_next_lt found
      by_cases isOpening :
          (start.ahead? 1).bind Token.category? = some .opening
      · have advances : state.step token =
            .ok (.advance (.identifier token.lexeme around)) := by
          simp [enters token found, State.enter, categoryEq]
        rw [if_pos (by simpa using isOpening),
          consume_bind_of_category found categoryEq]
        refine Agrees.of_read ?_ found (Progress.read_of_advance advances)
        apply agrees_list_bind depth
          (lawful_argumentPlaces definitions token.lexeme around)
        · exact fun notOpening => (notOpening isOpening).elim
        · intro other isOther
          exact Progress.read_of_advance (by simp [State.step, isOther])
        · omega
        · intro later near notClosing
          refine ih near ⟨rfl, fun _ => rfl⟩ fun other foundOther => ?_
          rw [foundOther] at notClosing
          exact State.step_firstArgument token.lexeme around notClosing
        · intro later read near
          exact ih near ⟨rfl, fun _ => rfl⟩ fun _ _ => rfl
        · exact fun all stop _ => .success (.refl stop) rfl
      · rw [if_neg (by simpa using isOpening),
          consume_bind_of_category found categoryEq]
        exact agrees_reference found categoryEq (enters token found) isOpening

theorem agrees_expression (awaits : state.Awaits State.items)
    (enters : ∀ token, start.front? = some token →
      state.step token = state.enter around token) :
    Agrees start ⟨definitions, state⟩
      (goesOn fun node => ⟨definitions, .complete node around⟩)
      (expression start) := by
  rw [expression, get_bind]
  refine agrees_expressionWithin ?_ awaits enters
  have bounded : start.remaining ≤ start.tokens.size := Nat.sub_le _ _
  omega

end Expressions

section Definitions

variable {α : Type} {start : Parser} {read : List Node}
  {left : α → Parser → Reading}

theorem agrees_parameter {state : State} {place : Bytes → Progress}
    (awaits : state.Awaits [.identifier])
    (refuses : ∀ token, start.front? = some token →
      token.category? ≠ some .identifier →
        state.step token = .error (state.refuse token))
    (names : ∀ token : Token, token.category? = some .identifier →
      (⟨read, state⟩ : Progress).read token = .ok (place token.lexeme)) :
    Agrees start ⟨read, state⟩ (goesOn place) (parameter start) := by
  rw [parameter]
  exact agrees_consume_bind awaits refuses fun token found isName =>
    ⟨_, names token isName, agrees_pure token.lexeme⟩

/-- A body and the keyword behind it. -/
theorem agrees_body_bind {header : Header} {continuation : List Node → Rule α}
    (continues : ∀ nodes stop, start.Reaches stop →
      Agrees stop ⟨read ++ [.define header.name header.parameters nodes],
        .outside⟩ left (continuation nodes stop)) :
    Agrees start ⟨read, .body header⟩ left
      ((body >>= fun nodes => consume .finish >>= fun _ =>
        continuation nodes) start) := by
  rw [body, bind_assoc]
  by_cases isFinish : start.front?.bind Token.category? = some .finish
  · obtain ⟨token, found, categoryEq⟩ := Option.bind_eq_some_iff.mp isFinish
    rw [sees_bind_of_eq isFinish, if_pos rfl, pure_bind,
      consume_bind_of_category found categoryEq]
    exact (continues [] start.next (Parser.reaches_next found)).of_read found
      (Progress.read_of_close (by simp [State.step, categoryEq]))
  · rw [sees_bind_of_ne isFinish, if_neg Bool.false_ne_true]
    simp only [bind_assoc, pure_bind]
    have entered : Agrees start ⟨read, .body header⟩
        (goesOn fun node => ⟨read, .complete node ⟨some header, []⟩⟩)
        (expression start) := by
      refine agrees_expression ⟨rfl, fun _ => rfl⟩ fun token found => ?_
      rw [found] at isFinish
      exact State.step_body header isFinish
    refine entered.bind fun node middle reaches => ?_
    refine agrees_consume_bind ⟨rfl, fun _ => rfl⟩ ?_
      fun token found isEnd => ⟨_, Progress.read_of_close ?_,
        continues [node] middle.next
          (reaches.trans (Parser.reaches_next found))⟩
    · intro token found notEnd
      simp [State.step, State.leave, notEnd]
    · simp [State.step, State.leave, isEnd]

theorem agrees_definition_bind {token : Token}
    {continuation : Node → Rule α} (found : start.front? = some token)
    (continues : ∀ node stop, start.next.Reaches stop →
      Agrees stop ⟨read ++ [node], .outside⟩ left (continuation node stop)) :
    Agrees start ⟨read, .outside⟩ left
      ((definition >>= continuation) start) := by
  rw [definition]
  simp only [bind_assoc, pure_bind]
  by_cases isDefine : token.category? = some .define
  case neg =>
    rw [consume_bind_of_other (by simpa [found] using isDefine)]
    exact agrees_unexpected_of_front? found rfl (by simp [State.step])
  have defines : State.outside.step token =
      .ok (.advance .definitionName) := by
    simp [State.step, isDefine]
  rw [consume_bind_of_category found isDefine]
  refine Agrees.of_read ?_ found (Progress.read_of_advance defines)
  apply agrees_consume_bind ⟨rfl, fun _ => rfl⟩
  · intro other _ notName
    simp [State.step]
  intro name foundName isName
  have named : State.definitionName.step name =
      .ok (.advance (.parameters name.lexeme)) := by
    simp [State.step, isName]
  refine ⟨_, Progress.read_of_advance named, ?_⟩
  have reachesName := Parser.reaches_next foundName
  apply agrees_list_bind start.next.next.remaining
    (lawful_parameterPlaces read name.lexeme)
  · intro notOpening
    refine agrees_unexpected ⟨rfl, fun _ => rfl⟩ fun other foundOther => ?_
    have notOther : other.category? ≠ some .opening := by
      rwa [foundOther] at notOpening
    simp [State.step]
  · intro other isOpening
    exact Progress.read_of_advance (by simp [State.step, isOpening])
  · exact Nat.le_refl _
  · intro later _ notClosing
    refine agrees_parameter ⟨rfl, fun _ => rfl⟩ ?_ ?_
    · intro other foundOther notName
      have notOther : other.category? ≠ some .closing := by
        rwa [foundOther] at notClosing
      simp [State.step]
    · intro other isOther
      exact Progress.read_of_advance (by simp [State.step, isOther])
  · intro later others _
    refine agrees_parameter ⟨rfl, fun _ => rfl⟩ ?_ ?_
    · intro other _ notName
      simp [State.step]
    · intro other isOther
      exact Progress.read_of_advance (by simp [State.step, isOther])
  · intro parameters middle onwards
    apply agrees_body_bind
    intro nodes stop reaches
    exact continues (.define name.lexeme parameters nodes) stop
      (reachesName.trans (onwards.trans reaches))

theorem agrees_definitions {rounds : Nat}
    (enough : start.remaining < rounds) :
    Agrees start ⟨read, .outside⟩ (fun tree stop => ⟨.ok tree, stop.rest⟩)
      ((definitions rounds read >>= fun all =>
        pure (Node.root all)) start) := by
  induction rounds generalizing start read with
  | zero => omega
  | succ rounds ih =>
      rw [definitions, bind_assoc, isAtEnd_bind]
      cases found : start.front? with
      | none =>
          refine .success (.refl start) ?_
          rw [Parser.rest_eq_nil found]
          rfl
      | some token =>
          have fewer := Parser.remaining_next_lt found
          rw [if_neg (by simp), bind_assoc]
          refine agrees_definition_bind found fun node middle reaches => ?_
          have fewerLeft := reaches.remaining_le
          exact ih (by omega)

end Definitions

theorem agrees_program (start : Parser) :
    Agrees start Progress.program (fun tree stop => ⟨.ok tree, stop.rest⟩)
      (program start) := by
  rw [program, get_bind]
  apply agrees_definitions
  have bounded : start.remaining ≤ start.tokens.size := Nat.sub_le _ _
  omega

theorem agrees_onlyExpression (start : Parser) :
    Agrees start Progress.expression (fun tree stop => ⟨.ok tree, stop.rest⟩)
      (onlyExpression start) := by
  have entered : Agrees start Progress.expression
      (goesOn fun node => ⟨[], .complete node ⟨none, []⟩⟩)
      (expression start) :=
    agrees_expression ⟨rfl, fun _ => rfl⟩ fun _ _ => rfl
  rw [onlyExpression]
  refine entered.bind fun node middle _ => ?_
  rw [isAtEnd_bind]
  cases found : middle.front? with
  | none =>
      refine .success (.refl middle) ?_
      rw [Parser.rest_eq_nil found]
      rfl
  | some token =>
      have refused : (State.complete node ⟨none, []⟩).step token =
          .error ((State.complete node ⟨none, []⟩).refuse token) := by
        simp [State.step, State.leave]
      rw [if_neg (by simp), token_bind found]
      refine .failure (.refl middle) ?_
      rw [Parser.rest_eq_cons found, Progress.reading_cons_of_refused refused]
      rfl

end Rule

end Defun
