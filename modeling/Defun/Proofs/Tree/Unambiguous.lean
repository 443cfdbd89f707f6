import Defun.Proofs.Tree.Vocabulary

/-!
# Reading the output back

No two programs have the same output.  A name, a numeral or an expression is
determined by the text that it begins, as soon as the octet behind it can not
continue it.  Lists of such items are then determined by their joined texts, and
so are definitions, whose fixed wording brings its own ends.
-/

namespace Defun

namespace Bytes

/-- Nothing follows, or an octet that stops an item. -/
def Ends (stops : UInt8 → Bool) (rest : Bytes) : Prop :=
  ∀ octet ∈ rest.head?, stops octet = true

@[simp]
theorem ends_nil (stops : UInt8 → Bool) : Ends stops [] := by
  intro octet isHead
  cases isHead

@[simp]
theorem ends_cons {stops : UInt8 → Bool} {octet : UInt8}
    (isStop : stops octet = true) (rest : Bytes) :
    Ends stops (octet :: rest) := by
  intro other isHead
  obtain rfl := Option.some.inj isHead
  exact isStop

theorem Ends.mono {stops others : UInt8 → Bool} {rest : Bytes}
    (ends : Ends stops rest)
    (weaker : ∀ octet, stops octet = true → others octet = true) :
    Ends others rest := by
  intro octet isHead
  exact weaker octet (ends octet isHead)

theorem Ends.ne_append {stops : UInt8 → Bool} {item rest : Bytes}
    (ends : Ends stops rest)
    (begins : ∃ octet ∈ item.head?, stops octet = false) (more : Bytes) :
    rest ≠ item ++ more := by
  rintro rfl
  obtain ⟨octet, isHead, notStop⟩ := begins
  have isStop : stops octet = true := by
    apply ends
    rw [List.head?_append, isHead]
    rfl
  rw [isStop] at notStop
  cases notStop

/-- A run of octets that is followed by none of its kind is determined. -/
theorem run_append_inj {belongs : UInt8 → Bool} {first second : Bytes}
    (firstRun : ∀ octet ∈ first, belongs octet = true)
    (secondRun : ∀ octet ∈ second, belongs octet = true)
    {before after : Bytes} (ends : Ends (fun octet => !belongs octet) before)
    (otherEnds : Ends (fun octet => !belongs octet) after)
    (same : first ++ before = second ++ after) :
    first = second ∧ before = after := by
  induction first generalizing second with
  | nil =>
      cases second with
      | nil => exact ⟨rfl, same⟩
      | cons octet second =>
          have belongsOctet := secondRun octet List.mem_cons_self
          exact absurd same
            (ends.ne_append ⟨octet, rfl, by simp [belongsOctet]⟩ _)
  | cons octet first ih =>
      cases second with
      | nil =>
          have belongsOctet := firstRun octet List.mem_cons_self
          exact absurd same.symm
            (otherEnds.ne_append ⟨octet, rfl, by simp [belongsOctet]⟩ _)
      | cons other second =>
          obtain ⟨rfl, sameRest⟩ := List.cons.inj same
          obtain ⟨rfl, sameEnd⟩ := ih
            (fun octet member => firstRun octet (List.mem_cons_of_mem _ member))
            (fun octet member => secondRun octet (List.mem_cons_of_mem _ member))
            sameRest
          exact ⟨rfl, sameEnd⟩

/-- An item is told from all others by the text that it begins, if a stop
follows. -/
def Determines {Item : Type} (isItem : Item → Prop) (text : Item → Bytes)
    (stops : UInt8 → Bool) (first : Item) : Prop :=
  ∀ second, isItem second → ∀ before after,
    Ends stops before → Ends stops after →
    text first ++ before = text second ++ after →
      first = second ∧ before = after

section Join

variable {Item : Type} {isItem : Item → Prop} {text : Item → Bytes}
  {stops : UInt8 → Bool} {mark : UInt8} {gap : Bytes}

/-- What follows a list: a stop that is not the separator. -/
def Closes (stops : UInt8 → Bool) (mark : UInt8) (rest : Bytes) : Prop :=
  Ends (fun octet => stops octet && octet != mark) rest

theorem Closes.ends {rest : Bytes} (closes : Closes stops mark rest) :
    Ends stops rest := by
  apply Ends.mono closes
  intro octet isStop
  exact (Bool.and_eq_true_iff.mp isStop).1

theorem Closes.ne_mark_cons {rest : Bytes} (closes : Closes stops mark rest)
    (more : Bytes) : rest ≠ mark :: more := by
  rintro rfl
  have notMark := closes mark rfl
  simp at notMark

theorem ends_separated (markStops : stops mark = true) (items : List Item)
    {rest : Bytes} (ends : Ends stops rest) :
    Ends stops
      (items.flatMap (fun item => mark :: gap ++ text item) ++ rest) := by
  cases items with
  | nil => exact ends
  | cons item items => exact ends_cons markStops _

variable {first second : List Item} {before after : Bytes}

theorem separated_append_inj (markStops : stops mark = true)
    (determines : ∀ item ∈ first, Determines isItem text stops item)
    (areItems : ∀ item ∈ second, isItem item)
    (closes : Closes stops mark before) (otherCloses : Closes stops mark after)
    (same : first.flatMap (fun item => mark :: gap ++ text item) ++ before =
      second.flatMap (fun item => mark :: gap ++ text item) ++ after) :
    first = second ∧ before = after := by
  induction first generalizing second with
  | nil =>
      cases second with
      | nil => exact ⟨rfl, same⟩
      | cons item second => exact absurd same (closes.ne_mark_cons _)
  | cons item first ih =>
      cases second with
      | nil => exact absurd same.symm (otherCloses.ne_mark_cons _)
      | cons other second =>
          rw [List.forall_mem_cons] at determines areItems
          simp only [List.flatMap_cons, List.append_assoc] at same
          obtain ⟨rfl, sameRest⟩ := determines.1 other areItems.1 _ _
            (ends_separated markStops first closes.ends)
            (ends_separated markStops second otherCloses.ends)
            (List.append_cancel_left same)
          obtain ⟨rfl, sameEnd⟩ := ih determines.2 areItems.2 sameRest
          exact ⟨rfl, sameEnd⟩

/-- Joined items are determined if each of them is, and none of them begins with
a stop. -/
theorem join_append_inj (markStops : stops mark = true)
    (begins : ∀ item, isItem item →
      ∃ octet ∈ (text item).head?, stops octet = false)
    (determines : ∀ item ∈ first,
      isItem item ∧ Determines isItem text stops item)
    (areItems : ∀ item ∈ second, isItem item)
    (closes : Closes stops mark before) (otherCloses : Closes stops mark after)
    (same : join (mark :: gap) (first.map text) ++ before =
      join (mark :: gap) (second.map text) ++ after) :
    first = second ∧ before = after := by
  cases first with
  | nil =>
      cases second with
      | nil => exact ⟨rfl, same⟩
      | cons item second =>
          rw [List.forall_mem_cons] at areItems
          rw [List.map_cons, join_cons, List.append_assoc] at same
          exact absurd same (closes.ends.ne_append (begins item areItems.1) _)
  | cons item first =>
      rw [List.forall_mem_cons] at determines
      obtain ⟨⟨isItem, determinesItem⟩, determines⟩ := determines
      rw [List.map_cons, join_cons, List.append_assoc, List.flatMap_map]
        at same
      cases second with
      | nil =>
          exact absurd same.symm
            (otherCloses.ends.ne_append (begins item isItem) _)
      | cons other second =>
          rw [List.forall_mem_cons] at areItems
          rw [List.map_cons, join_cons, List.append_assoc, List.flatMap_map]
            at same
          obtain ⟨rfl, sameRest⟩ := determinesItem other areItems.1 _ _
            (ends_separated markStops first closes.ends)
            (ends_separated markStops second otherCloses.ends) same
          obtain ⟨rfl, sameEnd⟩ := separated_append_inj markStops
            (fun item member => (determines item member).2) areItems.2
            closes otherCloses sameRest
          exact ⟨rfl, sameEnd⟩

end Join

/-- A word of letters. -/
def IsWord (name : Bytes) : Prop :=
  name ≠ [] ∧ ∀ octet ∈ name, isLetter octet = true

theorem IsWord.append_inj {first second before after : Bytes}
    (firstWord : first.IsWord) (secondWord : second.IsWord)
    (ends : Ends (fun octet => !isLetter octet) before)
    (otherEnds : Ends (fun octet => !isLetter octet) after)
    (same : first ++ before = second ++ after) :
    first = second ∧ before = after :=
  run_append_inj firstWord.2 secondWord.2 ends otherEnds same

/-- The octets that stand behind expressions and parameters. -/
def stopsItem (octet : UInt8) : Bool :=
  octet == Bytes.octet ',' || octet == Bytes.octet ')' ||
    octet == Bytes.octet ' '

theorem stopsItem_iff {octet : UInt8} :
    stopsItem octet = true ↔
      octet = Bytes.octet ',' ∨ octet = Bytes.octet ')' ∨
        octet = Bytes.octet ' ' := by
  simp [stopsItem, or_assoc]

theorem not_isLetter_of_stopsItem (octet : UInt8)
    (isStop : stopsItem octet = true) : (!isLetter octet) = true := by
  rcases stopsItem_iff.mp isStop with rfl | rfl | rfl <;> rfl

theorem stopsItem_of_isLetter {octet : UInt8}
    (letter : isLetter octet = true) : stopsItem octet = false := by
  rw [Bool.eq_false_iff]
  intro isStop
  have notLetter := not_isLetter_of_stopsItem octet isStop
  simp [letter] at notLetter

theorem IsWord.exists_head {name : Bytes} (isWord : name.IsWord) :
    ∃ octet ∈ name.head?, isLetter octet = true := by
  obtain ⟨nameNe, areLetters⟩ := isWord
  obtain ⟨octet, rest, rfl⟩ := List.exists_cons_of_ne_nil nameNe
  exact ⟨octet, rfl, areLetters octet List.mem_cons_self⟩

theorem IsWord.begins {name : Bytes} (isWord : name.IsWord) :
    ∃ octet ∈ name.head?, stopsItem octet = false := by
  obtain ⟨octet, isHead, letter⟩ := isWord.exists_head
  exact ⟨octet, isHead, stopsItem_of_isLetter letter⟩

theorem IsWord.determines {name : Bytes} (isWord : name.IsWord) :
    Determines IsWord id stopsItem name := by
  intro second secondWord before after ends otherEnds same
  exact isWord.append_inj secondWord
    (ends.mono not_isLetter_of_stopsItem)
    (otherEnds.mono not_isLetter_of_stopsItem) same

end Bytes

namespace Decimal

/-- The octets of numerals. -/
def isNumeric (octet : UInt8) : Bool :=
  isDigit octet || octet == Bytes.octet '-'

theorem isNumeric_of_mem_ofInt {value : Int} {octet : UInt8}
    (member : octet ∈ ofInt value) : isNumeric octet = true := by
  rw [isNumeric, Bool.or_eq_true, beq_iff_eq]
  rw [ofInt] at member
  split at member
  · rcases List.mem_cons.mp member with isSign | isOther
    · exact Or.inr isSign
    · exact Or.inl (isDigit_of_mem_ofNat isOther)
  · exact Or.inl (isDigit_of_mem_ofNat member)

theorem notMem_ofInt {mark : UInt8} (notNumeric : isNumeric mark = false)
    (value : Int) : mark ∉ ofInt value := by
  intro member
  rw [isNumeric_of_mem_ofInt member] at notNumeric
  cases notNumeric

theorem ofInt_ne_nil (value : Int) : ofInt value ≠ [] := by
  rw [ofInt]
  split
  · exact List.cons_ne_nil _ _
  · exact ofNat_ne_nil _

theorem not_isNumeric_of_stopsItem (octet : UInt8)
    (isStop : Bytes.stopsItem octet = true) : (!isNumeric octet) = true := by
  rcases Bytes.stopsItem_iff.mp isStop with rfl | rfl | rfl <;> rfl

theorem not_isLetter_of_isNumeric {octet : UInt8}
    (numeric : isNumeric octet = true) : Bytes.isLetter octet = false := by
  rw [isNumeric, Bool.or_eq_true, beq_iff_eq, isDigit_iff] at numeric
  rw [Bool.eq_false_iff, Ne, Bytes.isLetter_iff]
  rcases numeric with isDigit | rfl
  · omega
  · decide

theorem exists_head_ofInt (value : Int) :
    ∃ octet ∈ (ofInt value).head?, isNumeric octet = true := by
  obtain ⟨octet, rest, textEq⟩ :=
    List.exists_cons_of_ne_nil (ofInt_ne_nil value)
  have member : octet ∈ ofInt value := by
    rw [textEq]
    exact List.mem_cons_self
  refine ⟨octet, ?_, isNumeric_of_mem_ofInt member⟩
  rw [textEq]
  rfl

theorem ofInt_injective : Function.Injective ofInt := by
  intro first second same
  have sameNumber : some first = some second := by
    rw [← toInt?_ofInt first, same, toInt?_ofInt]
  exact Option.some.inj sameNumber

theorem ofInt_append_inj {first second : Int} {before after : Bytes}
    (ends : Bytes.Ends Bytes.stopsItem before)
    (otherEnds : Bytes.Ends Bytes.stopsItem after)
    (same : ofInt first ++ before = ofInt second ++ after) :
    first = second ∧ before = after := by
  obtain ⟨sameText, sameEnd⟩ := Bytes.run_append_inj
    (fun _ => isNumeric_of_mem_ofInt) (fun _ => isNumeric_of_mem_ofInt)
    (ends.mono not_isNumeric_of_stopsItem)
    (otherEnds.mono not_isNumeric_of_stopsItem) same
  exact ⟨ofInt_injective sameText, sameEnd⟩

theorem ofInt_append_ne {name : Bytes} (isWord : name.IsWord) (value : Int)
    (before after : Bytes) : ofInt value ++ before ≠ name ++ after := by
  intro same
  obtain ⟨octet, isHead, numeric⟩ := exists_head_ofInt value
  obtain ⟨other, isOtherHead, letter⟩ := isWord.exists_head
  have sameHead := congrArg List.head? same
  rw [List.head?_append, List.head?_append, isHead, isOtherHead] at sameHead
  obtain rfl := Option.some.inj sameHead
  rw [not_isLetter_of_isNumeric numeric] at letter
  cases letter

end Decimal

namespace Node

theorem rendered_call_append (name : Bytes) (arguments : List Node)
    (rest : Bytes) :
    (call name arguments).rendered ++ rest =
      name ++ Bytes.octet '(' ::
        (Bytes.join [Bytes.octet ',', Bytes.octet ' ']
          (arguments.map rendered) ++ Bytes.octet ')' :: rest) := by
  simp only [rendered, renderedAll_eq_map, List.append_assoc]
  rfl

theorem rendered_define_append (name : Bytes) (parameters : List Bytes)
    (body : List Node) (rest : Bytes) :
    (define name parameters body).rendered ++ rest =
      "function " ++ (name ++ Bytes.octet '(' ::
        (Bytes.join [Bytes.octet ',', Bytes.octet ' '] (parameters.map id) ++
          Bytes.octet ')' :: Bytes.octet ' ' ::
            (blockText (renderedAll body) ++ rest))) := by
  simp only [rendered, List.append_assoc, List.map_id]
  rfl

theorem begins_define (name : Bytes) (parameters : List Bytes)
    (body : List Node) :
    ∃ octet ∈ (define name parameters body).rendered.head?,
      (octet == Bytes.newline) = false := by
  refine ⟨Bytes.octet 'f', ?_, rfl⟩
  rw [← List.append_nil (rendered _), rendered_define_append]
  rfl

variable {vocabulary : Vocabulary}
  (areWords : ∀ name, vocabulary.isName name → name.IsWord)
include areWords

theorem ExpressionOver.begins {node : Node}
    (isOver : node.ExpressionOver vocabulary) :
    ∃ octet ∈ node.rendered.head?, Bytes.stopsItem octet = false := by
  cases isOver with
  | @integer value isValue =>
      obtain ⟨octet, isHead, numeric⟩ := Decimal.exists_head_ofInt value
      refine ⟨octet, isHead, ?_⟩
      rw [Bool.eq_false_iff]
      intro isStop
      have notNumeric := Decimal.not_isNumeric_of_stopsItem octet isStop
      simp [numeric] at notNumeric
  | reference isName => exact (areWords _ isName).begins
  | call isName isOver =>
      obtain ⟨octet, isHead, notStop⟩ := (areWords _ isName).begins
      refine ⟨octet, ?_, notStop⟩
      rw [← List.append_nil (rendered _), rendered_call_append,
        List.head?_append, isHead]
      rfl

theorem call_append_inj {name other : Bytes} {arguments others : List Node}
    {before after : Bytes} (isName : vocabulary.isName name)
    (isOther : vocabulary.isName other)
    (determines : ∀ argument ∈ arguments,
      argument.ExpressionOver vocabulary ∧
        Bytes.Determines (ExpressionOver vocabulary) rendered
          Bytes.stopsItem argument)
    (isOver : ∀ argument ∈ others, argument.ExpressionOver vocabulary)
    (same : (call name arguments).rendered ++ before =
      (call other others).rendered ++ after) :
    call name arguments = call other others ∧ before = after := by
  rw [rendered_call_append, rendered_call_append] at same
  obtain ⟨rfl, sameRest⟩ := (areWords _ isName).append_inj
    (areWords _ isOther) (Bytes.ends_cons rfl _) (Bytes.ends_cons rfl _) same
  obtain ⟨rfl, sameEnd⟩ := Bytes.join_append_inj rfl
    (fun _ => ExpressionOver.begins areWords) determines isOver
    (Bytes.ends_cons rfl _) (Bytes.ends_cons rfl _) (List.cons.inj sameRest).2
  exact ⟨rfl, (List.cons.inj sameEnd).2⟩

/-- An expression is determined by its text and by what it can not go on
with. -/
theorem ExpressionOver.determines {node : Node}
    (isOver : node.ExpressionOver vocabulary) :
    Bytes.Determines (ExpressionOver vocabulary) rendered Bytes.stopsItem
      node := by
  -- A reference is not the name of a call, since no stop opens arguments.
  have notOpening {name other : Bytes} {before rest : Bytes}
      (isName : vocabulary.isName name) (isOther : vocabulary.isName other)
      (ends : Bytes.Ends Bytes.stopsItem before) :
      name ++ before ≠ other ++ (Bytes.octet '(' :: rest) := by
    intro same
    obtain ⟨_, rfl⟩ := (areWords _ isName).append_inj (areWords _ isOther)
      (ends.mono Bytes.not_isLetter_of_stopsItem) (Bytes.ends_cons rfl _) same
    cases ends _ rfl
  induction isOver with
  | @integer value isValue =>
      intro second overSecond before after ends otherEnds same
      cases overSecond with
      | integer _ =>
          obtain ⟨rfl, sameEnd⟩ :=
            Decimal.ofInt_append_inj ends otherEnds same
          exact ⟨rfl, sameEnd⟩
      | reference isName =>
          exact absurd same
            (Decimal.ofInt_append_ne (areWords _ isName) value _ _)
      | call isName _ =>
          rw [rendered_call_append] at same
          exact absurd same
            (Decimal.ofInt_append_ne (areWords _ isName) value _ _)
  | reference isName =>
      intro second overSecond before after ends otherEnds same
      cases overSecond with
      | @integer value _ =>
          exact absurd same.symm
            (Decimal.ofInt_append_ne (areWords _ isName) value _ _)
      | reference isOther =>
          obtain ⟨rfl, sameEnd⟩ := (areWords _ isName).determines _
            (areWords _ isOther) before after ends otherEnds same
          exact ⟨rfl, sameEnd⟩
      | call isOther _ =>
          rw [rendered_call_append] at same
          exact absurd same (notOpening isName isOther ends)
  | call isName isOver ih =>
      intro second overSecond before after ends otherEnds same
      cases overSecond with
      | @integer value _ =>
          rw [rendered_call_append] at same
          exact absurd same.symm
            (Decimal.ofInt_append_ne (areWords _ isName) value _ _)
      | reference isOther =>
          rw [rendered_call_append] at same
          exact absurd same.symm (notOpening isOther isName otherEnds)
      | call isOther overOthers =>
          exact call_append_inj areWords isName isOther
            (fun argument member => ⟨isOver argument member,
              ih argument member⟩) overOthers same

theorem blockText_append_inj {body other : Option Node}
    (isOver : ∀ expression ∈ body, expression.ExpressionOver vocabulary)
    (overOther : ∀ expression ∈ other, expression.ExpressionOver vocabulary)
    {before after : Bytes}
    (same : blockText (renderedAll body.toList) ++ before =
      blockText (renderedAll other.toList) ++ after) :
    body = other ∧ before = after := by
  -- An empty block and a block that returns differ in their third octet.
  have thirdEmpty (rest : Bytes) :
      (blockText [] ++ rest)[2]? = some 0x7D := rfl
  have thirdReturning (text rest : Bytes) :
      (blockText [text] ++ rest)[2]? = some (Bytes.octet 'r') := rfl
  have sameThird := congrArg (fun text : Bytes => text[2]?) same
  cases body with
  | none =>
      cases other with
      | none => exact ⟨rfl, List.append_cancel_left same⟩
      | some expression =>
          have impossible := (thirdEmpty before).symm.trans
            (sameThird.trans (thirdReturning expression.rendered after))
          exact absurd impossible (by decide)
  | some expression =>
      cases other with
      | none =>
          have impossible := (thirdReturning expression.rendered before).symm.trans
            (sameThird.trans (thirdEmpty after))
          exact absurd impossible (by decide)
      | some second =>
          have blockEq (text rest : Bytes) : blockText [text] ++ rest =
              "\x7b return " ++ (text ++ Bytes.octet ' ' :: 0x7D :: rest) := by
            simp only [blockText, statementText, List.append_assoc]
            rfl
          simp only [Option.toList_some, renderedAll, blockEq] at same
          obtain ⟨rfl, sameEnd⟩ :=
            (isOver expression rfl).determines areWords second
              (overOther second rfl) _ _ (Bytes.ends_cons rfl _)
              (Bytes.ends_cons rfl _) (List.append_cancel_left same)
          exact ⟨rfl, (List.cons.inj (List.cons.inj sameEnd).2).2⟩

/-- A definition is determined by its text, whatever follows. -/
theorem DefinitionOver.determines {node : Node}
    (isOver : node.DefinitionOver vocabulary) (stops : UInt8 → Bool) :
    Bytes.Determines (DefinitionOver vocabulary) rendered stops node := by
  obtain ⟨isName, areNames, overBody⟩ := isOver
  intro second overSecond before after _ _ same
  obtain ⟨isOther, areOthers, overOther⟩ := overSecond
  rw [rendered_define_append, rendered_define_append] at same
  obtain ⟨rfl, sameHeader⟩ := (areWords _ isName).append_inj
    (areWords _ isOther) (Bytes.ends_cons rfl _) (Bytes.ends_cons rfl _)
    (List.append_cancel_left same)
  obtain ⟨rfl, sameBlock⟩ := Bytes.join_append_inj rfl
    (fun _ isWord => Bytes.IsWord.begins isWord)
    (fun parameter member =>
      have isWord := areWords parameter (areNames parameter member)
      ⟨isWord, isWord.determines⟩)
    (fun parameter member => areWords parameter (areOthers parameter member))
    (Bytes.ends_cons rfl _) (Bytes.ends_cons rfl _)
    (List.cons.inj sameHeader).2
  obtain ⟨rfl, sameEnd⟩ := blockText_append_inj areWords overBody overOther
    (List.cons.inj (List.cons.inj sameBlock).2).2
  exact ⟨rfl, sameEnd⟩

theorem ProgramOver.eq_of_rendered_eq {first second : Node}
    (overFirst : first.ProgramOver vocabulary)
    (overSecond : second.ProgramOver vocabulary)
    (same : first.rendered = second.rendered) : first = second := by
  obtain ⟨overFirst⟩ := overFirst
  obtain ⟨overSecond⟩ := overSecond
  have closes : Bytes.Closes (· == Bytes.newline) Bytes.newline [] :=
    Bytes.ends_nil _
  have begins : ∀ node : Node, node.DefinitionOver vocabulary →
      ∃ octet ∈ node.rendered.head?, (octet == Bytes.newline) = false := by
    rintro _ ⟨_, _, _⟩
    exact begins_define _ _ _
  simp only [rendered, renderedAll_eq_map, Bytes.unlines] at same
  obtain ⟨rfl, _⟩ := Bytes.join_append_inj rfl begins
    (fun node member => ⟨overFirst node member,
      (overFirst node member).determines areWords _⟩)
    overSecond closes closes (congrArg (· ++ []) same)
  rfl

end Node

section Mono

variable {vocabulary other : Vocabulary}
  (names : ∀ name, vocabulary.isName name → other.isName name)
  (values : ∀ value, vocabulary.isValue value → other.isValue value)
include names values

theorem Node.ExpressionOver.mono {node : Node}
    (isOver : node.ExpressionOver vocabulary) : node.ExpressionOver other := by
  induction isOver with
  | integer isValue => exact .integer (values _ isValue)
  | reference isName => exact .reference (names _ isName)
  | call isName isOver ih => exact .call (names _ isName) ih

theorem Node.ProgramOver.mono {node : Node}
    (isOver : node.ProgramOver vocabulary) : node.ProgramOver other := by
  obtain ⟨isOver⟩ := isOver
  refine .root fun definition member => ?_
  obtain ⟨isName, areNames, overBody⟩ := isOver definition member
  exact .define (names _ isName)
    (fun parameter inParameters => names _ (areNames parameter inParameters))
    fun expression isBody => (overBody expression isBody).mono names values

end Mono

/-- All words of letters, and all integers that fit in 32 bits. -/
def Vocabulary.words : Vocabulary where
  isName := Bytes.IsWord
  isValue := Decimal.FitsWord

theorem programOver_words_of_parse {source : Bytes} {root : Node}
    (accepted : parse (tokenize Registry.default source) = .ok root) :
    root.ProgramOver .words := by
  apply (programOver_of_parse accepted).mono
  · intro name isName
    obtain ⟨nameNe, areLetters, _⟩ := Bytes.isName_iff.mp isName.1
    exact ⟨nameNe, areLetters⟩
  · intro value inRange
    obtain ⟨nonneg, small⟩ := inRange
    exact ⟨by omega, small⟩

/-- The text of a program determines it, among all trees over words and 32-bit
integers.  The trees of all sources are among them. -/
theorem generate_determines_program :
    (∀ (source : Bytes) (root : Node),
      parse (tokenize Registry.default source) = .ok root →
        root.ProgramOver .words) ∧
    ∀ first second : Node, first.ProgramOver .words →
      second.ProgramOver .words →
        first.generate = second.generate → first = second := by
  constructor
  · intro source root accepted
    exact programOver_words_of_parse accepted
  · intro first second overFirst overSecond same
    rw [overFirst.generate_eq, overSecond.generate_eq] at same
    exact overFirst.eq_of_rendered_eq (fun _ isWord => isWord) overSecond
      (Except.ok.inj same)

theorem generate_determines_respaced_program :
    ∃ first second : Node,
      parse (tokenize Registry.default "def return() f(g(), 7) end") =
        .ok first ∧
      parse (tokenize Registry.default "def return( )\nf(g( ),007)end") =
        .ok second ∧
      first.generate = second.generate ∧ first = second := by
  let root := Node.root
    [.define "return" [] [.call "f" [.call "g" [], .integer 7]]]
  have accepted : parse (tokenize Registry.default
      "def return() f(g(), 7) end") = .ok root := by
    rfl
  have respaced : parse (tokenize Registry.default
      "def return( )\nf(g( ),007)end") = .ok root := by
    rfl
  exact ⟨root, root, accepted, respaced, rfl,
    generate_determines_program.2 root root
      (generate_determines_program.1 _ root accepted)
      (generate_determines_program.1 _ root respaced) rfl⟩

end Defun
