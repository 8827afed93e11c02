import BotOps.Proofs.Json.Layout
import BotOps.Proofs.Json.Spelling

/-!
# Written values

Tokens are written as words, with blanks wherever one likes. A number has to end where its word
ends, and as in a value only a mark may follow a number, every text that writes a value is read as
this value: `Value.parse?_of_writes`. The printer writes values without blanks, and it may spell the
characters of names and of other texts in any way, so what it writes is read back:
`Value.parse?_spelled`.
-/

namespace BotOps.Json

/-! ## Words -/

/-- A token is spelled by some characters. -/
inductive Token.Word : Token → List Char → Prop where
  | null : Word .null "null".toList
  | yes : Word (.bool true) "true".toList
  | no : Word (.bool false) "false".toList
  | number {spelling : List Char} (h : IsNumeral spelling) : Word (.number spelling) spelling
  /-- A string is a text if the halves of its surrogate pairs meet. -/
  | string {read : List Piece} {words : List Char} (h : Phrase read words) :
      Word (.string ((Piece.join read).map String.ofList)) ('"' :: (words ++ ['"']))
  | openArray : Word .openArray ['[']
  | closeArray : Word .closeArray [']']
  | openObject : Word .openObject ['\x7b']
  | closeObject : Word .closeObject ['\x7d']
  | colon : Word .colon [':']
  | comma : Word .comma [',']

/-- A text consists of the words of tokens, with any blanks before, between and behind them. -/
inductive Spaced : List Token → List Char → Prop where
  | nil : Spaced [] []
  | blank {tokens : List Token} {c : Char} {rest : List Char} (space : isSpace c = true)
      (behind : Spaced tokens rest) : Spaced tokens (c :: rest)
  | word {tokens : List Token} {token : Token} {word rest : List Char} (first : token.Word word)
      (behind : Spaced tokens rest) : Spaced (token :: tokens) (word ++ rest)

/-- A text writes a value. -/
def Value.Writes (value : Value) (text : List Char) : Prop := Spaced value.tokens text

/-- Tokens that may follow a number. -/
def FollowNumber (tokens : List Token) : Prop :=
  ∀ token ∈ tokens.head?, token ∈ [.comma, .closeArray, .closeObject]

/-- A token is a number. -/
def Token.isNumber : Token → Bool
  | .number _ => true
  | _ => false

/-- Numbers are followed by nothing or by a mark that ends them. -/
inductive Parted : List Token → Prop where
  | nil : Parted []
  | number {spelling : List Char} {tokens : List Token} (ends : FollowNumber tokens)
      (behind : Parted tokens) : Parted (.number spelling :: tokens)
  | other {token : Token} {tokens : List Token} (h : token.isNumber = false)
      (behind : Parted tokens) : Parted (token :: tokens)

section

variable {tokens : List Token} {text rest : List Char}

/-- What is written behind a number does not go on with it. -/
theorem Spaced.endsNumber (h : Spaced tokens text) (follow : FollowNumber tokens) :
    EndsNumber text := by
  cases h with
  | nil => exact fun _ hc ↦ nomatch hc
  | @blank _ c _ space _ =>
    rintro _ ⟨⟩
    simp only [isSpace, Bool.or_eq_true, decide_eq_true_eq] at space
    rcases space with ((rfl | rfl) | rfl) | rfl <;> decide
  | @word _ token _ _ first _ =>
    have htoken := follow token rfl
    simp only [List.mem_cons, List.not_mem_nil, or_false] at htoken
    rcases htoken with rfl | rfl | rfl <;> cases first <;>
      · rintro _ ⟨⟩
        decide

/-- A word is read as its token. -/
theorem Token.Word.read {token : Token} {word : List Char} (h : token.Word word)
    (ends : ∀ spelling, token = .number spelling → EndsNumber rest) :
    ∃ c more, word = c :: more ∧ isSpace c = false ∧
      Token.read (c :: (more ++ rest)) = some (token, rest) := by
  cases h with
  | number h =>
    obtain ⟨c, more, rfl, ink⟩ := h.head
    exact ⟨c, more, rfl, ink, h.read rest (ends _ rfl)⟩
  | string h =>
    refine ⟨'"', _, rfl, rfl, ?_⟩
    rw [List.append_assoc]
    exact h.read_quote rest
  | _ => exact ⟨_, _, rfl, rfl, rfl⟩

/-- Words with blanks lay out their tokens if numbers end where their words end. -/
theorem Spaced.layout (h : Spaced tokens text) (parted : Parted tokens) : Layout tokens text := by
  induction h with
  | nil => exact .nil
  | blank space _ ih => exact .blank space (ih parted)
  | @word tokens token word rest first behind ih =>
    cases parted with
    | number follow parted =>
      obtain ⟨c, more, rfl, ink, hread⟩ := first.read fun _ _ ↦ behind.endsNumber follow
      exact .token more ink hread (ih parted)
    | other hother parted =>
      have hno : ∀ spelling, token ≠ .number spelling := by
        rintro _ rfl
        cases hother
      obtain ⟨c, more, rfl, ink, hread⟩ := first.read fun spelling h ↦ absurd h (hno spelling)
      exact .token more ink hread (ih parted)

/-- The words of some tokens in front of those of others. -/
theorem Spaced.append {tokens more : List Token} {text rest : List Char} (h : Spaced tokens text)
    (behind : Spaced more rest) : Spaced (tokens ++ more) (text ++ rest) := by
  induction h with
  | nil => exact behind
  | blank space _ ih => exact .blank space ih
  | word first _ ih =>
    rw [List.append_assoc]
    exact .word first ih

end

/-! ## Values -/

/-- The tokens of a value part numbers in front of others that may follow a number. -/
def PartsNumbers (value : Value) : Prop :=
  ∀ tokens, FollowNumber tokens → Parted tokens → Parted (value.tokens ++ tokens)

private theorem followNumber_furtherItems (items : List Value) (tokens : List Token) :
    FollowNumber (furtherItems items ++ tokens) := by
  cases items <;>
    · rw [furtherItems]
      rintro _ ⟨⟩
      decide

private theorem followNumber_furtherMembers (members : List (Option String × Value))
    (tokens : List Token) : FollowNumber (furtherMembers members ++ tokens) := by
  cases members <;>
    · rw [furtherMembers]
      rintro _ ⟨⟩
      decide

private theorem parted_furtherItems {items : List Value} (h : ∀ item ∈ items, PartsNumbers item)
    {tokens : List Token} (behind : Parted tokens) : Parted (furtherItems items ++ tokens) := by
  induction items with
  | nil => exact .other rfl behind
  | cons item items ih =>
    obtain ⟨hitem, hitems⟩ := List.forall_mem_cons.mp h
    rw [furtherItems, List.cons_append, List.append_assoc]
    exact .other rfl (hitem _ (followNumber_furtherItems items tokens) (ih hitems))

private theorem parted_furtherMembers {members : List (Option String × Value)}
    (h : ∀ member ∈ members, PartsNumbers member.2) {tokens : List Token}
    (behind : Parted tokens) : Parted (furtherMembers members ++ tokens) := by
  induction members with
  | nil => exact .other rfl behind
  | cons member members ih =>
    obtain ⟨hvalue, hmembers⟩ := List.forall_mem_cons.mp h
    rw [furtherMembers]
    simp only [List.cons_append, List.append_assoc]
    exact .other rfl (.other rfl (.other rfl
      (hvalue _ (followNumber_furtherMembers members tokens) (ih hmembers))))

/-- In a value only marks follow numbers. -/
theorem partsNumbers (value : Value) : PartsNumbers value := by
  induction value using Value.induct with
  | null => exact fun _ _ behind ↦ .other rfl behind
  | bool b => exact fun _ _ behind ↦ .other rfl behind
  | number spelling => exact fun _ follow behind ↦ .number follow behind
  | string content => exact fun _ _ behind ↦ .other rfl behind
  | array items ih =>
    intro tokens _ behind
    cases items with
    | nil => exact .other rfl (.other rfl behind)
    | cons item items =>
      obtain ⟨hitem, hitems⟩ := List.forall_mem_cons.mp ih
      rw [Value.tokens, List.cons_append, List.append_assoc]
      exact .other rfl
        (hitem _ (followNumber_furtherItems items tokens) (parted_furtherItems hitems behind))
  | object members ih =>
    intro tokens _ behind
    cases members with
    | nil => exact .other rfl (.other rfl behind)
    | cons member members =>
      obtain ⟨hvalue, hmembers⟩ := List.forall_mem_cons.mp ih
      rw [Value.tokens]
      simp only [List.cons_append, List.append_assoc]
      exact .other rfl (.other rfl (.other rfl
        (hvalue _ (followNumber_furtherMembers members tokens)
          (parted_furtherMembers hmembers behind))))

/-- A text that writes a value is read as this value. -/
theorem Value.parse?_of_writes {value : Value} {text : List Char} (h : value.Writes text) :
    Value.parse? text = some value := by
  have hparted := partsNumbers value [] (fun _ h ↦ nomatch h) .nil
  rw [List.append_nil] at hparted
  exact Value.parse?_of_layout (h.layout hparted)

/-! ## The printer -/

/-- A string with its characters spelled in a way, be it a text or not. -/
def spelledString (spell : Char → List Char) (content : Option String) : List Char :=
  content.elim noText fun text ↦ '"' :: text.toList.flatMap spell ++ ['"']

mutual

/-- The text that writes a value without blanks, with the characters of its names and of its other
texts spelled in ways of their own. -/
def Value.spelled (names texts : Char → List Char) : Value → List Char
  | .null => "null".toList
  | .bool true => "true".toList
  | .bool false => "false".toList
  | .number spelling => spelling
  | .string content => spelledString texts content
  | .array [] => ['[', ']']
  | .array (item :: items) =>
    '[' :: (item.spelled names texts ++ spelledItems names texts items)
  | .object [] => ['\x7b', '\x7d']
  | .object ((name, value) :: members) =>
    '\x7b' :: (spelledString names name ++
      ':' :: (value.spelled names texts ++ spelledMembers names texts members))

/-- The text that writes further items of an array and its end. -/
def spelledItems (names texts : Char → List Char) : List Value → List Char
  | [] => [']']
  | item :: items => ',' :: (item.spelled names texts ++ spelledItems names texts items)

/-- The text that writes further members of an object and its end. -/
def spelledMembers (names texts : Char → List Char) : List (Option String × Value) → List Char
  | [] => ['\x7d']
  | (name, value) :: members =>
    ',' :: (spelledString names name ++
      ':' :: (value.spelled names texts ++ spelledMembers names texts members))

end

/-- The printer spells the characters of names and of other texts alike. -/
theorem Value.spelled_escaped (value : Value) : value.spelled escaped escaped = value.render := by
  induction value using Value.induct with
  | null => rfl
  | bool b => cases b <;> rfl
  | number spelling => rfl
  | string content => rfl
  | array items ih =>
    have hitems (item : Value) (items : List Value)
        (h : ∀ other ∈ item :: items, other.spelled escaped escaped = other.render) :
        item.spelled escaped escaped ++ spelledItems escaped escaped items =
          renderItems (item :: items) := by
      induction items generalizing item with
      | nil => rw [h item List.mem_cons_self, spelledItems, renderItems]
      | cons next items ihItems =>
        obtain ⟨hitem, hrest⟩ := List.forall_mem_cons.mp h
        rw [hitem, spelledItems, ihItems next hrest]
        rfl
    cases items with
    | nil => rfl
    | cons item items => rw [Value.spelled, Value.render, hitems item items ih]
  | object members ih =>
    have hmembers (name : Option String) (value : Value) (members : List (Option String × Value))
        (h : ∀ member ∈ (name, value) :: members,
          member.2.spelled escaped escaped = member.2.render) :
        spelledString escaped name ++ ':' :: (value.spelled escaped escaped ++
            spelledMembers escaped escaped members) =
          renderMembers ((name, value) :: members) := by
      induction members generalizing name value with
      | nil =>
        obtain ⟨hvalue, -⟩ := List.forall_mem_cons.mp h
        rw [hvalue, spelledMembers, renderMembers, renderMember, List.append_assoc]
        rfl
      | cons next members ihMembers =>
        obtain ⟨hvalue, hrest⟩ := List.forall_mem_cons.mp h
        rw [hvalue, spelledMembers, ihMembers next.1 next.2 hrest]
        exact (List.append_assoc (written name) (':' :: value.render) _).symm
    cases members with
    | nil => rfl
    | cons member members =>
      rw [Value.spelled, Value.render, hmembers member.1 member.2 members ih]

/-- All numbers of a value are spelled as numbers. -/
inductive Readable : Value → Prop where
  | null : Readable .null
  | bool (b : Bool) : Readable (.bool b)
  | number {spelling : List Char} (h : IsNumeral spelling) : Readable (.number spelling)
  | string (content : Option String) : Readable (.string content)
  | array {items : List Value} (h : ∀ item ∈ items, Readable item) : Readable (.array items)
  | object {members : List (Option String × Value)} (h : ∀ member ∈ members, Readable member.2) :
      Readable (.object members)

section

variable {names texts : Char → List Char}

/-- A spelled string is the word of its token. -/
theorem word_spelledString {spell : Char → List Char} (spells : ∀ c, Spells c (spell c))
    (content : Option String) : (Token.string content).Word (spelledString spell content) := by
  cases content with
  | none =>
    have hunit : unit? 'd' '8' '0' '0' = some 0xd800 := by decide
    exact .string (.cons (.unit hunit) .nil)
  | some text =>
    obtain ⟨read, hread, hjoin⟩ := (spelling_flatMap spells text.toList).exists_phrase
    have hword := Token.Word.string hread
    rw [hjoin, Option.map_some, String.ofList_toList] at hword
    exact hword

private theorem spaced_spelledItems {items : List Value}
    (h : ∀ item ∈ items, item.Writes (item.spelled names texts)) :
    Spaced (furtherItems items) (spelledItems names texts items) := by
  induction items with
  | nil => exact .word .closeArray .nil
  | cons item items ih =>
    obtain ⟨hitem, hitems⟩ := List.forall_mem_cons.mp h
    exact .word .comma (hitem.append (ih hitems))

private theorem spaced_spelledMembers (names_spell : ∀ c, Spells c (names c))
    {members : List (Option String × Value)}
    (h : ∀ member ∈ members, member.2.Writes (member.2.spelled names texts)) :
    Spaced (furtherMembers members) (spelledMembers names texts members) := by
  induction members with
  | nil => exact .word .closeObject .nil
  | cons member members ih =>
    obtain ⟨hvalue, hmembers⟩ := List.forall_mem_cons.mp h
    exact .word .comma (.word (word_spelledString names_spell member.1)
      (.word .colon (hvalue.append (ih hmembers))))

/-- A spelled value is written. -/
theorem writes_spelled (names_spell : ∀ c, Spells c (names c))
    (texts_spell : ∀ c, Spells c (texts c)) {value : Value} (readable : Readable value) :
    value.Writes (value.spelled names texts) := by
  induction readable with
  | null => exact .word .null .nil
  | bool b =>
    cases b with
    | true => exact .word .yes .nil
    | false => exact .word .no .nil
  | @number spelling h =>
    have hword := Spaced.word (.number h) .nil
    rw [List.append_nil] at hword
    exact hword
  | string content =>
    have hword := Spaced.word (word_spelledString texts_spell content) .nil
    rw [List.append_nil] at hword
    exact hword
  | @array items _ ih =>
    cases items with
    | nil => exact .word .openArray (.word .closeArray .nil)
    | cons item items =>
      obtain ⟨hitem, hitems⟩ := List.forall_mem_cons.mp ih
      exact .word .openArray (hitem.append (spaced_spelledItems hitems))
  | @object members _ ih =>
    cases members with
    | nil => exact .word .openObject (.word .closeObject .nil)
    | cons member members =>
      obtain ⟨hvalue, hmembers⟩ := List.forall_mem_cons.mp ih
      exact .word .openObject (.word (word_spelledString names_spell member.1)
        (.word .colon (hvalue.append (spaced_spelledMembers names_spell hmembers))))

/-- However the characters of a readable value are spelled, it is read back. -/
theorem Value.parse?_spelled (names_spell : ∀ c, Spells c (names c))
    (texts_spell : ∀ c, Spells c (texts c)) {value : Value} (readable : Readable value) :
    Value.parse? (value.spelled names texts) = some value :=
  Value.parse?_of_writes (writes_spelled names_spell texts_spell readable)

/-- What the printer writes is read back. -/
theorem Value.parse?_render {value : Value} (readable : Readable value) :
    Value.parse? value.render = some value := by
  rw [← Value.spelled_escaped]
  exact Value.parse?_spelled spells_escaped spells_escaped readable

end

end BotOps.Json
