import BotOps.Text.Age
import BotOps.Text.Identifier
import BotOps.Text.SentenceBreak

/-!
# Properties of characters

A pattern can name a class of characters by a property of Unicode: by the name of a property that a
character has or has not, of a general category or of a script, or by a property and its value.
-/

namespace BotOps.Pattern.Property

open BotOps.Text
open BotOps.Text.Property (plainName find?)

/-- The properties that a character has or has not. -/
def traits : List Property :=
  usageProperties ++ caseProperties ++ identifierProperties ++ clusterProperties ++
    emojiProperties ++ ideographProperties

/-- The general categories and their groups. -/
def categoryNames : List Property := categories ++ categoryGroups

/-- The characters that the edition of a name or one before it introduced. -/
def introducedBy? (name : String) : Option Ranges :=
  let earlier := editions.takeWhile fun edition ↦ name ∉ edition.names
  editions[earlier.length]?.map fun edition ↦
    .together ((earlier ++ [edition]).map BotOps.Text.Property.chars)

/-- The class of a plain name that stands alone. -/
def ofName? (name : String) : Option Ranges :=
  find? traits name <|> find? categoryNames name <|> find? scripts name

/-- The class of a property that has a value, both by their plain names. -/
def ofValue? (property value : String) : Option Ranges :=
  match property with
  | "gc" | "generalcategory" => find? categoryNames value
  | "sc" | "script" => find? scripts value
  | "scx" | "scriptextensions" => find? scriptExtensions value
  | "age" => introducedBy? value
  | "gcb" | "graphemeclusterbreak" => find? clusterBreaks value
  | "wb" | "wordbreak" => find? wordBreaks value
  | "sb" | "sentencebreak" => find? sentenceBreaks value
  | _ => none

/-- What stands before and behind the first place where a text has some characters. -/
def cut? (separator : List Char) (before : List Char) : List Char → Option (List Char × List Char)
  | [] => none
  | c :: rest =>
    if separator.isPrefixOf (c :: rest) then
      some (before.reverse, (c :: rest).drop separator.length)
    else cut? separator (c :: before) rest

/-- The class of what stands between the braces, and whether all other characters are meant: a name,
or a property and its value with `!=`, `:` or `=` between them. The first of these separators that
stands anywhere counts. -/
def parse? (text : List Char) : Option (Ranges × Bool) :=
  let valued (negated : Bool) (parts : List Char × List Char) : Option (Ranges × Bool) :=
    (ofValue? (plainName parts.1) (plainName parts.2)).map fun chars ↦ (chars, negated)
  match cut? ['!', '='] [] text, cut? [':'] [] text, cut? ['='] [] text with
  | some parts, _, _ => valued true parts
  | none, some parts, _ => valued false parts
  | none, none, some parts => valued false parts
  | none, none, none => (ofName? (plainName text)).map fun chars ↦ (chars, false)

end BotOps.Pattern.Property
