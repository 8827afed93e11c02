import BotOps.Json.Lexer
import BotOps.Json.Printer
import BotOps.Proofs.Text.Decimal
import Mathlib.Tactic.SplitIfs

/-!
# Spellings

A character of a string may stand for itself, behind a backslash, or as one or two code units, and a
string may mix these ways from one character to the next. However a string is spelled, it is read as
what its pieces join to (`Phrase.read_quote`), and those of a spelled text join to the text
(`Spelling.exists_phrase`). Numbers are read as they are spelled: `IsNumeral.read`.
-/

namespace BotOps.Json

open BotOps.Text

/-! ## Characters -/

/-- A character is spelled by some characters of a string. -/
inductive Spells : Char → List Char → Prop where
  /-- It stands for itself. -/
  | plain {c : Char} (visible : 0x20 ≤ c.toNat) (quote : c ≠ '"') (backslash : c ≠ '\\') :
      Spells c [c]
  | short {c e : Char} (escape : shortEscape? e = some c) : Spells c ['\\', e]
  /-- It is written as its code unit. -/
  | unit {c x₁ x₂ x₃ x₄ : Char} {unit : Nat} (digits : unit? x₁ x₂ x₃ x₄ = some unit)
      (whole : Piece.ofUnit unit = .char c) : Spells c ['\\', 'u', x₁, x₂, x₃, x₄]
  /-- It is written as the two halves of a surrogate pair. -/
  | pair {x₁ x₂ x₃ x₄ y₁ y₂ y₃ y₄ : Char} {first second high low : Nat}
      (digits : unit? x₁ x₂ x₃ x₄ = some first) (isHigh : Piece.ofUnit first = .high high)
      (digits' : unit? y₁ y₂ y₃ y₄ = some second) (isLow : Piece.ofUnit second = .low low) :
      Spells (Piece.pair high low)
        ['\\', 'u', x₁, x₂, x₃, x₄, '\\', 'u', y₁, y₂, y₃, y₄]

/-- A text is spelled character by character. -/
inductive Spelling : List Char → List Char → Prop where
  | nil : Spelling [] []
  | cons {c : Char} {text word words : List Char} (first : Spells c word)
      (rest : Spelling text words) : Spelling (c :: text) (word ++ words)

/-- Putting pieces in front of others that were read. -/
def prepend (read : List Piece) (parts : List Piece × List Char) : List Piece × List Char :=
  (read ++ parts.1, parts.2)

private theorem pieces_unit {x₁ x₂ x₃ x₄ : Char} {unit : Nat}
    (digits : unit? x₁ x₂ x₃ x₄ = some unit)
    (rest : List Char) :
    pieces ('\\' :: 'u' :: x₁ :: x₂ :: x₃ :: x₄ :: rest) =
      (pieces rest).map (prepend [.ofUnit unit]) := by
  rw [pieces, digits]
  cases pieces rest <;> rfl

private theorem pieces_short {c e : Char} (escape : shortEscape? e = some c) (rest : List Char) :
    pieces ('\\' :: e :: rest) = (pieces rest).map (prepend [.char c]) := by
  have hother : e ≠ 'u' := by
    rintro rfl
    cases escape
  have hstep : pieces ('\\' :: e :: rest) =
      shortEscape? e >>= fun c ↦ pieces rest >>= fun parts ↦
        some (.char c :: parts.1, parts.2) := by
    rw [pieces]
    exact fun _ _ _ _ _ h _ ↦ hother h
  rw [hstep, escape]
  cases pieces rest <;> rfl

private theorem pieces_plain {c : Char} (visible : 0x20 ≤ c.toNat) (quote : c ≠ '"')
    (backslash : c ≠ '\\') (rest : List Char) :
    pieces (c :: rest) = (pieces rest).map (prepend [.char c]) := by
  have hstep : pieces (c :: rest) =
      if c.toNat < 0x20 ∨ c = '\\' then none
      else (pieces rest).map fun parts ↦ (.char c :: parts.1, parts.2) := by
    rw [pieces]
    · exact quote
    · exact fun _ _ _ _ _ h _ ↦ backslash h
    · exact fun _ _ h _ ↦ backslash h
  have hvisible : ¬ (c.toNat < 0x20 ∨ c = '\\') := by
    rintro (hlt | heq)
    · omega
    · exact backslash heq
  rw [hstep, if_neg hvisible]
  rfl

/-- A piece is spelled by some characters of a string. -/
inductive PieceWord : Piece → List Char → Prop where
  /-- A character stands for itself. -/
  | plain {c : Char} (visible : 0x20 ≤ c.toNat) (quote : c ≠ '"') (backslash : c ≠ '\\') :
      PieceWord (.char c) [c]
  | short {c e : Char} (escape : shortEscape? e = some c) : PieceWord (.char c) ['\\', e]
  /-- A code unit is written with its digits. -/
  | unit {x₁ x₂ x₃ x₄ : Char} {unit : Nat} (digits : unit? x₁ x₂ x₃ x₄ = some unit) :
      PieceWord (.ofUnit unit) ['\\', 'u', x₁, x₂, x₃, x₄]

/-- The content of a string is spelled piece by piece; it need not be a text. -/
inductive Phrase : List Piece → List Char → Prop where
  | nil : Phrase [] []
  | cons {piece : Piece} {read : List Piece} {word words : List Char}
      (first : PieceWord piece word) (rest : Phrase read words) :
      Phrase (piece :: read) (word ++ words)

private theorem PieceWord.pieces {piece : Piece} {word : List Char} (h : PieceWord piece word)
    (rest : List Char) :
    Json.pieces (word ++ rest) = (Json.pieces rest).map (prepend [piece]) := by
  cases h with
  | plain visible quote backslash => exact pieces_plain visible quote backslash rest
  | short escape => exact pieces_short escape rest
  | unit digits => exact pieces_unit digits rest

/-- A string is read up to its closing quote. -/
theorem Phrase.pieces {read : List Piece} {words : List Char} (h : Phrase read words)
    (rest : List Char) : Json.pieces (words ++ '"' :: rest) = some (read, rest) := by
  induction h with
  | nil => rfl
  | cons first _ ih =>
    rw [List.append_assoc, first.pieces, ih]
    rfl

/-- A spelled character is one piece or two, which join to it. -/
theorem Spells.exists_phrase {c : Char} {word : List Char} (h : Spells c word) :
    ∃ read, (∀ {later words}, Phrase later words → Phrase (read ++ later) (word ++ words)) ∧
      ∀ more, Piece.join (read ++ more) = (Piece.join more).map (c :: ·) := by
  cases h with
  | plain visible quote backslash =>
    exact ⟨[.char c], .cons (.plain visible quote backslash), fun _ ↦ rfl⟩
  | short escape => exact ⟨[.char c], .cons (.short escape), fun _ ↦ rfl⟩
  | @unit _ _ _ _ _ unit digits whole =>
    refine ⟨[.ofUnit unit], .cons (.unit digits), fun more ↦ ?_⟩
    rw [whole]
    rfl
  | @pair _ _ _ _ _ _ _ _ first second high low digits isHigh digits' isLow =>
    refine ⟨[.ofUnit first, .ofUnit second], fun hlater ↦ ?_, fun more ↦ ?_⟩
    · have hboth := Phrase.cons (.unit digits) (Phrase.cons (.unit digits') hlater)
      exact hboth
    · rw [isHigh, isLow]
      rfl

/-- However a text is spelled, its pieces join to it. -/
theorem Spelling.exists_phrase {text words : List Char} (h : Spelling text words) :
    ∃ read, Phrase read words ∧ Piece.join read = some text := by
  induction h with
  | nil => exact ⟨[], .nil, rfl⟩
  | @cons c text word words first _ ih =>
    obtain ⟨later, hlater, hjoin⟩ := ih
    obtain ⟨read, hread, hfirst⟩ := first.exists_phrase
    refine ⟨read ++ later, hread hlater, ?_⟩
    rw [hfirst, hjoin]
    rfl

/-- A string is read as what its pieces join to, if they do. -/
theorem Phrase.read_quote {read : List Piece} {words : List Char} (h : Phrase read words)
    (rest : List Char) :
    Token.read ('"' :: (words ++ '"' :: rest)) =
      some (.string ((Piece.join read).map String.ofList), rest) := by
  have hquote : Token.read ('"' :: (words ++ '"' :: rest)) =
      (Json.pieces (words ++ '"' :: rest)).map fun parts ↦
        (.string ((Piece.join parts.1).map String.ofList), parts.2) := rfl
  rw [hquote, h.pieces, Option.map_some]

/-- A text whose characters are all spelled in one way. -/
theorem spelling_flatMap {spell : Char → List Char} (h : ∀ c, Spells c (spell c))
    (text : List Char) : Spelling text (text.flatMap spell) := by
  induction text with
  | nil => exact .nil
  | cons c text ih => exact .cons (h c) ih

/-! ## Ways of spelling -/

/-- The digit of a number below 16, in either case. -/
def hexDigit (capital : Bool) (n : Nat) : Char :=
  if capital then (Nat.digitChar n).toUpper else Nat.digitChar n

/-- The escape of a code unit. -/
def codedUnit (capital : Bool) (unit : Nat) : List Char :=
  ['\\', 'u', hexDigit capital (unit / 4096), hexDigit capital (unit / 256 % 16),
    hexDigit capital (unit / 16 % 16), hexDigit capital (unit % 16)]

/-- A character as the escape of its code unit, or of those of its surrogate pair. -/
def coded (capital : Bool) (c : Char) : List Char :=
  if c.toNat < 0x10000 then codedUnit capital c.toNat
  else
    codedUnit capital (0xd800 + (c.toNat - 0x10000) / 0x400) ++
      codedUnit capital (0xdc00 + (c.toNat - 0x10000) % 0x400)

private theorem hexDigit?_hexDigit (capital : Bool) {n : Nat} (h : n < 16) :
    hexDigit? (hexDigit capital n) = some n := by
  have hdigits : ∀ capital, ∀ n : Fin 16, hexDigit? (hexDigit capital n) = some n.val := by decide
  exact hdigits capital ⟨n, h⟩

private theorem unit?_hexDigit (capital : Bool) {unit : Nat} (h : unit < 65536) :
    unit? (hexDigit capital (unit / 4096)) (hexDigit capital (unit / 256 % 16))
      (hexDigit capital (unit / 16 % 16)) (hexDigit capital (unit % 16)) = some unit := by
  unfold unit?
  rw [hexDigit?_hexDigit capital (by omega), hexDigit?_hexDigit capital (by omega),
    hexDigit?_hexDigit capital (by omega), hexDigit?_hexDigit capital (by omega)]
  have hunit : unit / 4096 * 4096 + unit / 256 % 16 * 256 + unit / 16 % 16 * 16 + unit % 16 =
      unit := by omega
  exact congrArg some hunit

/-- Every character is spelled by its code units. -/
theorem spells_coded (capital : Bool) (c : Char) : Spells c (coded capital c) := by
  have hvalid : c.toNat < 0xd800 ∨ 0xdfff < c.toNat ∧ c.toNat < 0x110000 := c.valid
  unfold coded
  split_ifs with hsmall
  · refine .unit (unit?_hexDigit capital hsmall) ?_
    rw [Piece.ofUnit, if_neg (by omega), if_neg (by omega), Char.ofNat_toNat]
  · have hpair : Piece.pair (0xd800 + (c.toNat - 0x10000) / 0x400)
        (0xdc00 + (c.toNat - 0x10000) % 0x400) = c := by
      have hpoint : 0x10000 + (0xd800 + (c.toNat - 0x10000) / 0x400 - 0xd800) * 0x400 +
          (0xdc00 + (c.toNat - 0x10000) % 0x400 - 0xdc00) = c.toNat := by omega
      rw [Piece.pair, hpoint, Char.ofNat_toNat]
    have hspells := Spells.pair (unit?_hexDigit capital (by omega))
      (show Piece.ofUnit (0xd800 + (c.toNat - 0x10000) / 0x400) = .high _ from if_pos (by omega))
      (unit?_hexDigit capital (by omega))
      (show Piece.ofUnit (0xdc00 + (c.toNat - 0x10000) % 0x400) = .low _ from
        (if_neg (by omega)).trans (if_pos (by omega)))
    rw [hpair] at hspells
    exact hspells

/-- A control is written in two digits. -/
theorem unit?_digitChar {unit : Nat} (h : unit < 0x20) :
    unit? '0' '0' (Nat.digitChar (unit / 16)) (Nat.digitChar (unit % 16)) = some unit := by
  have hunits : ∀ unit : Fin 32,
      unit? '0' '0' (Nat.digitChar (unit / 16)) (Nat.digitChar (unit % 16)) = some unit.val := by
    decide
  exact hunits ⟨unit, h⟩

/-- The printer spells every character. -/
theorem spells_escaped (c : Char) : Spells c (escaped c) := by
  unfold escaped
  split
  case h_8 quote backslash _ _ _ _ _ =>
    split_ifs with hcontrol
    · refine .unit (unit?_digitChar hcontrol) ?_
      rw [Piece.ofUnit, if_neg (by omega), if_neg (by omega), Char.ofNat_toNat]
    · exact .plain (by omega) quote backslash
  all_goals exact .short rfl

/-! ## Numbers -/

/-- A text does not begin with a character that could go on with a number. -/
def EndsNumber (rest : List Char) : Prop :=
  ∀ c ∈ rest.head?, c.isDigit = false ∧ c ≠ '.' ∧ c ≠ 'e' ∧ c ≠ 'E'

/-- One or more digits. -/
structure IsDigits (digits : List Char) : Prop where
  ne_nil : digits ≠ []
  digit : ∀ d ∈ digits, d.isDigit = true

/-- The whole part of a number: a zero, or digits of which the first is none. -/
inductive IsWhole : List Char → Prop where
  | zero : IsWhole ['0']
  | positive {c : Char} {digits : List Char} (nonzero : c ≠ '0')
      (all : ∀ d ∈ c :: digits, d.isDigit = true) : IsWhole (c :: digits)

/-- The fraction of a number, which may be missing. -/
inductive IsFraction : List Char → Prop where
  | missing : IsFraction []
  | digits {digits : List Char} (h : IsDigits digits) : IsFraction ('.' :: digits)

/-- The exponent of a number, which may be missing and may have a sign. -/
inductive IsExponent : List Char → Prop where
  | missing : IsExponent []
  | unsigned {mark : Char} {digits : List Char} (letter : mark = 'e' ∨ mark = 'E')
      (h : IsDigits digits) : IsExponent (mark :: digits)
  | signed {mark sign : Char} {digits : List Char} (letter : mark = 'e' ∨ mark = 'E')
      (plusMinus : sign = '+' ∨ sign = '-') (h : IsDigits digits) :
      IsExponent (mark :: sign :: digits)

/-- The spelling of a number. -/
inductive IsNumeral : List Char → Prop where
  | positive {whole fraction exponent : List Char} (hwhole : IsWhole whole)
      (hfraction : IsFraction fraction) (hexponent : IsExponent exponent) :
      IsNumeral (whole ++ fraction ++ exponent)
  | negative {whole fraction exponent : List Char} (hwhole : IsWhole whole)
      (hfraction : IsFraction fraction) (hexponent : IsExponent exponent) :
      IsNumeral ('-' :: (whole ++ fraction ++ exponent))

section

variable {c : Char} {digits whole fraction exponent rest : List Char}

/-- A text does not begin with a digit. -/
def EndsDigits (rest : List Char) : Prop := ∀ c ∈ rest.head?, c.isDigit = false

/-- Digits are read up to their end. -/
theorem digitsAfter_append (h : IsDigits digits) (ends : EndsDigits rest) (front : List Char) :
    digitsAfter front (digits ++ rest) = some (front ++ digits, rest) := by
  have hrest : rest.takeWhile Char.isDigit = [] := by
    cases rest with
    | nil => rfl
    | cons d rest => exact List.takeWhile_cons_of_neg (by simp [ends d rfl])
  have htake : (digits ++ rest).takeWhile Char.isDigit = digits := by
    rw [List.takeWhile_append_of_pos h.digit, hrest, List.append_nil]
  have hdrop : (digits ++ rest).drop digits.length = rest := List.drop_left
  rw [digitsAfter, htake]
  cases digits with
  | nil => exact absurd rfl h.ne_nil
  | cons d digits =>
    dsimp only
    rw [hdrop]

private theorem wholePart_append (h : IsWhole whole) (ends : EndsDigits rest) :
    wholePart (whole ++ rest) = some (whole, rest) := by
  cases h with
  | zero => rfl
  | @positive c digits nonzero all =>
    have hwhole : wholePart (c :: digits ++ rest) = digitsAfter [] (c :: digits ++ rest) := by
      rw [List.cons_append, wholePart]
      exact fun _ h ↦ nonzero (List.cons.inj h).1
    rw [hwhole]
    exact digitsAfter_append ⟨List.cons_ne_nil _ _, all⟩ ends []

private theorem fractionPart_append (h : IsFraction fraction)
    (ends : ∀ c ∈ rest.head?, c.isDigit = false ∧ c ≠ '.') :
    fractionPart (fraction ++ rest) = some (fraction, rest) := by
  cases h with
  | missing =>
    rw [List.nil_append, fractionPart]
    rintro text rfl
    exact (ends '.' rfl).2 rfl
  | digits h => exact digitsAfter_append h (fun c hc ↦ (ends c hc).1) ['.']

private theorem exponentPart_append (h : IsExponent exponent) (ends : EndsNumber rest) :
    exponentPart (exponent ++ rest) = some (exponent, rest) := by
  have hdigits : EndsDigits rest := fun c hc ↦ (ends c hc).1
  cases h with
  | missing =>
    cases rest with
    | nil => rfl
    | cons d rest =>
      obtain ⟨-, -, hsmall, hcapital⟩ := ends d rfl
      exact if_neg fun h ↦ h.elim hsmall hcapital
  | @unsigned mark digits letter h =>
    obtain ⟨d, digits, rfl⟩ := List.exists_cons_of_ne_nil h.ne_nil
    have hsign : ¬ (d = '+' ∨ d = '-') := by
      have hd := h.digit d List.mem_cons_self
      rintro (rfl | rfl) <;> cases hd
    have hstep : exponentPart (mark :: d :: digits ++ rest) =
        digitsAfter [mark] (d :: digits ++ rest) := (if_pos letter).trans (if_neg hsign)
    rw [hstep]
    exact digitsAfter_append h hdigits [mark]
  | @signed mark sign digits letter plusMinus h =>
    have hstep : exponentPart (mark :: sign :: digits ++ rest) =
        digitsAfter [mark, sign] (digits ++ rest) := (if_pos letter).trans (if_pos plusMinus)
    rw [hstep]
    exact digitsAfter_append h hdigits [mark, sign]

/-- An exponent does not go on with the digits before it, nor is it a fraction. -/
theorem IsExponent.ends (h : IsExponent exponent) (ends : EndsNumber rest) :
    ∀ c ∈ (exponent ++ rest).head?, c.isDigit = false ∧ c ≠ '.' := by
  have hletter {mark : Char} (letter : mark = 'e' ∨ mark = 'E') :
      mark.isDigit = false ∧ mark ≠ '.' := by
    rcases letter with rfl | rfl <;> decide
  cases h with
  | missing => exact fun c hc ↦ ⟨(ends c hc).1, (ends c hc).2.1⟩
  | unsigned letter =>
    rintro _ ⟨⟩
    exact hletter letter
  | signed letter =>
    rintro _ ⟨⟩
    exact hletter letter

/-- A fraction does not go on with the digits before it. -/
theorem IsFraction.ends (h : IsFraction fraction)
    (ends : ∀ c ∈ rest.head?, c.isDigit = false ∧ c ≠ '.') : EndsDigits (fraction ++ rest) := by
  cases h with
  | missing => exact fun c hc ↦ (ends c hc).1
  | digits =>
    rintro _ ⟨⟩
    rfl

/-- The parts of a number are read one after the other. -/
theorem numberParts_append (hwhole : IsWhole whole) (hfraction : IsFraction fraction)
    (hexponent : IsExponent exponent) (ends : EndsNumber rest) (sign : List Char) :
    (do
      let (whole, text) ← wholePart (whole ++ fraction ++ exponent ++ rest)
      let (fraction, text) ← fractionPart text
      let (exponent, text) ← exponentPart text
      some (sign ++ whole ++ fraction ++ exponent, text)) =
        some (sign ++ whole ++ fraction ++ exponent, rest) := by
  have hbehind := hexponent.ends ends
  rw [List.append_assoc, List.append_assoc, wholePart_append hwhole (hfraction.ends hbehind)]
  simp only [Option.bind_eq_bind, Option.bind_some, fractionPart_append hfraction hbehind,
    exponentPart_append hexponent ends]

/-- A text that begins with a digit or a minus sign begins with a number. -/
theorem read_of_isDigit_or_minus (hc : c.isDigit = true ∨ c = '-') (text : List Char) :
    Token.read (c :: text) =
      (numberSpelling (c :: text)).map fun parts ↦ (.number parts.1, parts.2) := by
  rw [Token.read]
  · exact List.cons_ne_nil _ _
  all_goals
    intro rest h
    rw [(List.cons.inj h).1] at hc
    rcases hc with hc | hc <;> cases hc

/-- A whole part begins with a digit. -/
theorem IsWhole.exists_cons (h : IsWhole whole) :
    ∃ c digits, whole = c :: digits ∧ c.isDigit = true := by
  cases h with
  | zero => exact ⟨'0', [], rfl, rfl⟩
  | positive _ all => exact ⟨_, _, rfl, all _ List.mem_cons_self⟩

/-- A number begins with a digit or a minus sign. -/
theorem IsNumeral.exists_cons {spelling : List Char} (h : IsNumeral spelling) :
    ∃ c word, spelling = c :: word ∧ (c.isDigit = true ∨ c = '-') := by
  cases h with
  | positive hwhole =>
    obtain ⟨c, digits, rfl, hc⟩ := hwhole.exists_cons
    exact ⟨c, _, rfl, .inl hc⟩
  | negative => exact ⟨'-', _, rfl, .inr rfl⟩

/-- A number does not begin with a blank. -/
theorem IsNumeral.head {spelling : List Char} (h : IsNumeral spelling) :
    ∃ c word, spelling = c :: word ∧ isSpace c = false := by
  obtain ⟨c, word, hspelling, hc⟩ := h.exists_cons
  refine ⟨c, word, hspelling, ?_⟩
  rw [isSpace, Bool.eq_false_iff]
  intro hspace
  simp only [Bool.or_eq_true, decide_eq_true_eq] at hspace
  rcases hspace with ((rfl | rfl) | rfl) | rfl <;> rcases hc with hc | hc <;> cases hc

/-- A number is read up to its end. -/
theorem IsNumeral.numberSpelling {spelling : List Char} (h : IsNumeral spelling)
    (ends : EndsNumber rest) :
    Json.numberSpelling (spelling ++ rest) = some (spelling, rest) := by
  cases h with
  | positive hwhole hfraction hexponent =>
    have hparts := numberParts_append hwhole hfraction hexponent ends []
    obtain ⟨c, digits, rfl, hc⟩ := hwhole.exists_cons
    unfold Json.numberSpelling
    split
    next sign unsigned hsign =>
      split at hsign
      · next h =>
        rw [(List.cons.inj h).1] at hc
        cases hc
      · obtain ⟨rfl, rfl⟩ := Prod.mk.inj hsign
        exact hparts
  | negative hwhole hfraction hexponent =>
    exact numberParts_append hwhole hfraction hexponent ends ['-']

/-- A number is read as a token up to its end. -/
theorem IsNumeral.read {spelling : List Char} (h : IsNumeral spelling) (rest : List Char)
    (ends : EndsNumber rest) : Token.read (spelling ++ rest) = some (.number spelling, rest) := by
  have hnumber := h.numberSpelling ends
  obtain ⟨c, word, rfl, hc⟩ := h.exists_cons
  rw [List.cons_append] at hnumber ⊢
  rw [read_of_isDigit_or_minus hc, hnumber, Option.map_some]

/-- Digits are a number if they have no leading zero. -/
theorem isNumeral_of_digits (hall : ∀ d ∈ c :: digits, d.isDigit = true)
    (hlead : c = '0' → digits = []) : IsNumeral (c :: digits) := by
  have hwhole : IsWhole (c :: digits) := by
    by_cases hzero : c = '0'
    · rw [hzero, hlead hzero]
      exact .zero
    · exact .positive hzero hall
  simpa using IsNumeral.positive hwhole .missing .missing

/-- A number written without leading zeros is read as it is written. -/
theorem isNumeral_plain (n : Nat) : IsNumeral (Decimal.plain n) := by
  obtain ⟨c, digits, hplain, hlead⟩ := Decimal.exists_plain_eq_cons n
  have hall : ∀ d ∈ c :: digits, d.isDigit = true :=
    fun d hd ↦ Decimal.isDigit_of_mem_plain (hplain ▸ hd)
  rw [hplain]
  exact isNumeral_of_digits hall fun hzero ↦ (hlead hzero).2

end

end BotOps.Json
