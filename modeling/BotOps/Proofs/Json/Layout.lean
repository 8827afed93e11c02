import BotOps.Json.Reader

/-!
# Layouts

A value is a sequence of tokens, and a text that lays out these tokens, with blanks wherever one
likes, is read as the value: `Value.parse?_of_layout`.
-/

namespace BotOps.Json

/-! ## Tokens and text -/

/-- A text consists of tokens, with any blanks before, between and behind them. -/
inductive Layout : List Token → List Char → Prop where
  | nil : Layout [] []
  | blank {tokens : List Token} {c : Char} {rest : List Char} (space : isSpace c = true)
      (behind : Layout tokens rest) : Layout tokens (c :: rest)
  | token {tokens : List Token} {token : Token} {c : Char} {rest : List Char} (word : List Char)
      (ink : isSpace c = false) (read : Token.read (c :: (word ++ rest)) = some (token, rest))
      (behind : Layout tokens rest) : Layout (token :: tokens) (c :: (word ++ rest))

section

variable {tokens : List Token} {text rest : List Char}

/-- The tokens of a layout are found as soon as there is fuel for each character. -/
theorem Layout.ofTextWithin (h : Layout tokens text) {fuel : Nat} (enough : text.length ≤ fuel) :
    Token.ofTextWithin fuel text = some tokens := by
  induction h generalizing fuel with
  | nil => rw [Token.ofTextWithin]
  | @blank tokens c rest space _ ih =>
    obtain _ | fuel := fuel
    · exact absurd enough (Nat.not_succ_le_zero _)
    · rw [Token.ofTextWithin, if_pos space]
      exact ih (Nat.le_of_succ_le_succ enough)
  | @token tokens token c rest word ink read _ ih =>
    obtain _ | fuel := fuel
    · exact absurd enough (Nat.not_succ_le_zero _)
    · have hrest : rest.length ≤ fuel := by
        simp only [List.length_cons, List.length_append] at enough
        omega
      rw [Token.ofTextWithin, if_neg (Bool.eq_false_iff.mp ink), read]
      dsimp only
      rw [ih hrest, Option.map_some]

/-- A layout has its tokens. -/
theorem Layout.ofText? (h : Layout tokens text) : Token.ofText? text = some tokens :=
  h.ofTextWithin (Nat.le_refl _)

end

/-! ## Values and tokens -/

/-- What holds of an array if it holds of its items, of an object if it holds of what its members
have, and of all other values, holds of every value. -/
@[elab_as_elim]
theorem Value.induct {motive : Value → Prop} (null : motive .null) (bool : ∀ b, motive (.bool b))
    (number : ∀ spelling, motive (.number spelling))
    (string : ∀ content, motive (.string content))
    (array : ∀ items, (∀ item ∈ items, motive item) → motive (.array items))
    (object : ∀ members, (∀ member ∈ members, motive member.2) → motive (.object members))
    (value : Value) : motive value :=
  @Value.rec motive (fun items ↦ ∀ item ∈ items, motive item)
    (fun members ↦ ∀ member ∈ members, motive member.2) (fun member ↦ motive member.2)
    null bool number string array object
    (fun _ hitem ↦ absurd hitem List.not_mem_nil)
    (fun _ _ hitem hitems ↦ List.forall_mem_cons.mpr ⟨hitem, hitems⟩)
    (fun _ hmember ↦ absurd hmember List.not_mem_nil)
    (fun _ _ hmember hmembers ↦ List.forall_mem_cons.mpr ⟨hmember, hmembers⟩)
    (fun _ _ hvalue ↦ hvalue) value

mutual

/-- The tokens of a value. -/
def Value.tokens : Value → List Token
  | .null => [.null]
  | .bool b => [.bool b]
  | .number spelling => [.number spelling]
  | .string content => [.string content]
  | .array [] => [.openArray, .closeArray]
  | .array (item :: items) => .openArray :: (item.tokens ++ furtherItems items)
  | .object [] => [.openObject, .closeObject]
  | .object ((name, value) :: members) =>
    .openObject :: .string name :: .colon :: (value.tokens ++ furtherMembers members)

/-- The tokens of further items of an array and of its end. -/
def furtherItems : List Value → List Token
  | [] => [.closeArray]
  | item :: items => .comma :: (item.tokens ++ furtherItems items)

/-- The tokens of further members of an object and of its end. -/
def furtherMembers : List (Option String × Value) → List Token
  | [] => [.closeObject]
  | (name, value) :: members =>
    .comma :: .string name :: .colon :: (value.tokens ++ furtherMembers members)

end

/-- A reader that takes tokens one after the other. -/
def Reader.takeAll (reader : Reader) (tokens : List Token) : Option Reader :=
  tokens.foldlM Reader.step reader

namespace Reader

/-- A reader that expects a value takes the tokens of this one and has it complete. -/
def Takes (value : Value) : Prop :=
  ∀ frames more,
    takeAll ⟨frames, .value⟩ (value.tokens ++ more) = takeAll (complete frames value) more

section

variable {frames : List Frame} {more : List Token}

private theorem takeAll_cons {reader next : Reader} {token : Token}
    (h : reader.step token = some next) :
    reader.takeAll (token :: more) = next.takeAll more := by
  rw [takeAll, List.foldlM_cons, h]
  rfl

/-- The first item of an array begins like any other. -/
theorem takeAll_firstItem (value : Value) :
    takeAll ⟨frames, .firstItem⟩ (value.tokens ++ more) =
      takeAll ⟨frames, .value⟩ (value.tokens ++ more) := by
  cases value with
  | array items => cases items <;> rw [Value.tokens] <;> rfl
  | object members => cases members <;> rw [Value.tokens] <;> rfl
  | _ => rfl

/-- The first name of an object is taken like any other. -/
theorem takeAll_firstName (name : Option String) :
    takeAll ⟨frames, .firstName⟩ (.string name :: more) =
      takeAll ⟨frames, .name⟩ (.string name :: more) := rfl

/-- A reader that expects a name takes the tokens of a member. -/
theorem takeAll_member {value : Value} (h : Takes value) (read : List (Option String × Value))
    (name : Option String) :
    takeAll ⟨.object read :: frames, .name⟩
        (.string name :: .colon :: (value.tokens ++ more)) =
      takeAll ⟨.object ((name, value) :: read) :: frames, .separator⟩ more :=
  (takeAll_cons rfl).trans ((takeAll_cons rfl).trans (h (.member read name :: frames) more))

/-- A reader in an array takes the tokens of further items and has the array complete. -/
theorem takeAll_furtherItems {items : List Value} (h : ∀ item ∈ items, Takes item)
    (read : List Value) :
    takeAll ⟨.array read :: frames, .separator⟩ (furtherItems items ++ more) =
      takeAll (complete frames (.array (read.reverse ++ items))) more := by
  induction items generalizing read with
  | nil =>
    rw [furtherItems, List.append_nil]
    exact takeAll_cons rfl
  | cons item items ih =>
    obtain ⟨hitem, hitems⟩ := List.forall_mem_cons.mp h
    have hrest := ih hitems (item :: read)
    rw [List.reverse_cons, List.append_assoc] at hrest
    rw [furtherItems, List.cons_append, List.append_assoc]
    exact (takeAll_cons rfl).trans ((hitem (.array read :: frames) _).trans hrest)

/-- A reader in an object takes the tokens of further members and has the object complete. -/
theorem takeAll_furtherMembers {members : List (Option String × Value)}
    (h : ∀ member ∈ members, Takes member.2) (read : List (Option String × Value)) :
    takeAll ⟨.object read :: frames, .separator⟩ (furtherMembers members ++ more) =
      takeAll (complete frames (.object (read.reverse ++ members))) more := by
  induction members generalizing read with
  | nil =>
    rw [furtherMembers, List.append_nil]
    exact takeAll_cons rfl
  | cons member members ih =>
    obtain ⟨name, value⟩ := member
    obtain ⟨hvalue, hmembers⟩ := List.forall_mem_cons.mp h
    have hrest := ih hmembers ((name, value) :: read)
    rw [List.reverse_cons, List.append_assoc] at hrest
    rw [furtherMembers, List.cons_append, List.cons_append, List.cons_append, List.append_assoc]
    exact (takeAll_cons rfl).trans ((takeAll_member hvalue read name).trans hrest)

end

/-- Every value is taken. -/
theorem takes (value : Value) : Takes value := by
  induction value using Value.induct with
  | null => exact fun _ _ ↦ rfl
  | bool b => exact fun _ _ ↦ rfl
  | number spelling => exact fun _ _ ↦ rfl
  | string content => exact fun _ _ ↦ rfl
  | array items ih =>
    intro frames more
    cases items with
    | nil => exact (takeAll_cons rfl).trans (takeAll_cons rfl)
    | cons item items =>
      obtain ⟨hitem, hitems⟩ := List.forall_mem_cons.mp ih
      rw [Value.tokens, List.cons_append, List.append_assoc]
      refine (takeAll_cons rfl).trans ((takeAll_firstItem item).trans ?_)
      refine (hitem (.array [] :: frames) _).trans ?_
      exact takeAll_furtherItems hitems [item]
  | object members ih =>
    intro frames more
    cases members with
    | nil => exact (takeAll_cons rfl).trans (takeAll_cons rfl)
    | cons member members =>
      obtain ⟨name, value⟩ := member
      obtain ⟨hvalue, hmembers⟩ := List.forall_mem_cons.mp ih
      rw [Value.tokens, List.cons_append, List.cons_append, List.cons_append, List.append_assoc]
      refine (takeAll_cons rfl).trans ((takeAll_firstName name).trans ?_)
      exact (takeAll_member hvalue [] name).trans (takeAll_furtherMembers hmembers [(name, value)])

end Reader

/-- The tokens of a value write this value. -/
theorem Value.ofTokens?_tokens (value : Value) : Value.ofTokens? value.tokens = some value := by
  have htaken := Reader.takes value [] []
  rw [List.append_nil] at htaken
  unfold Value.ofTokens?
  change Reader.takeAll ⟨[], .value⟩ value.tokens >>= Reader.result = _
  rw [htaken]
  rfl

/-- However the tokens of a value are laid out, the text is read as the value. -/
theorem Value.parse?_of_layout {value : Value} {text : List Char}
    (h : Layout value.tokens text) : Value.parse? text = some value := by
  unfold Value.parse?
  rw [h.ofText?]
  exact value.ofTokens?_tokens

end BotOps.Json
