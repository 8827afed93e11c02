import BotOps.Pattern.Match

/-!
# Words at the start of a text

A pattern that spells a text matches where this text is written. Between the start of the text and
the boundary of a word it finds just the texts that begin with the word and do not go on with
another character of a word: `finds_openingWord`.
-/

namespace BotOps.Pattern

open BotOps.Text

namespace Node

/-- The pattern that spells a text, with another pattern behind it. -/
def spelled (text : List Char) (behind : Node) : Node :=
  text.foldr (fun c node ↦ .seq (.one (.single c)) node) behind

/-- The pattern of a word at the start of a text. -/
def openingWord (word : List Char) : Node :=
  .seq (.look .textStart) (spelled word (.look (.word true .boundary)))

end Node

/-- A class of one character has this one only. -/
theorem contains_single {c d : Char} : (Ranges.single c).contains d = true ↔ d = c := by
  simp only [Ranges.contains, Ranges.single, List.any_cons, List.any_nil, Bool.or_false,
    Bool.and_eq_true, decide_eq_true_eq]
  constructor
  · rintro ⟨hlow, hhigh⟩
    exact Char.toNat_inj.mp (Nat.le_antisymm hhigh hlow)
  · rintro rfl
    exact ⟨Nat.le_refl _, Nat.le_refl _⟩

namespace Place

/-- The place behind a text that is written at a place. -/
def behind? (text : List Char) (place : Place) : Option Place :=
  text.foldlM (fun place c ↦ place.advance? (.single c)) place

variable {place next : Place}

/-- Behind one character stands the text without it. -/
theorem advance?_single_eq_some_iff {c : Char} :
    place.advance? (.single c) = some next ↔
      place.rest = c :: next.rest ∧ next.before = some c ∧ next.index = place.index + 1 := by
  obtain ⟨index, before, rest⟩ := place
  obtain ⟨nextIndex, nextBefore, nextRest⟩ := next
  cases rest with
  | nil => simp [advance?]
  | cons d rest =>
    simp only [advance?, contains_single, Option.ite_none_right_eq_some, Option.some.injEq,
      mk.injEq, List.cons.injEq]
    constructor
    · rintro ⟨rfl, rfl, rfl, rfl⟩
      exact ⟨⟨rfl, rfl⟩, rfl, rfl⟩
    · rintro ⟨⟨rfl, rfl⟩, rfl, rfl⟩
      exact ⟨rfl, rfl, rfl, rfl⟩

/-- Behind a text stands what is written behind it, and its last character stands before. -/
theorem behind?_eq_some_iff {text : List Char} :
    behind? text place = some next ↔
      place.rest = text ++ next.rest ∧ next.before = text.getLast?.or place.before ∧
        next.index = place.index + text.length := by
  induction text generalizing place with
  | nil =>
    obtain ⟨index, before, rest⟩ := place
    obtain ⟨nextIndex, nextBefore, nextRest⟩ := next
    simp only [behind?, List.foldlM_nil, Option.pure_def, Option.some.injEq, mk.injEq,
      List.nil_append, List.getLast?_nil, Option.none_or, List.length_nil, Nat.add_zero]
    constructor
    · rintro ⟨rfl, rfl, rfl⟩
      exact ⟨rfl, rfl, rfl⟩
    · rintro ⟨rfl, rfl, rfl⟩
      exact ⟨rfl, rfl, rfl⟩
  | cons c text ih =>
    have hbind : behind? (c :: text) place = (place.advance? (.single c)).bind (behind? text) := rfl
    have hlast (before : Option Char) :
        text.getLast?.or (some c) = (c :: text).getLast?.or before := by
      rw [List.getLast?_cons]
      cases text.getLast? <;> rfl
    simp only [hbind, Option.bind_eq_some_iff, advance?_single_eq_some_iff, ih]
    constructor
    · rintro ⟨middle, ⟨hrest, hbefore, hindex⟩, htext, hlater, hcount⟩
      refine ⟨by rw [hrest, htext]; rfl, by rw [hlater, hbefore, hlast], ?_⟩
      rw [hcount, hindex, List.length_cons]
      omega
    · rintro ⟨htext, hlater, hcount⟩
      refine ⟨⟨place.index + 1, some c, text ++ next.rest⟩, ⟨htext, rfl, rfl⟩, rfl, ?_, ?_⟩
      · rw [hlater, hlast]
      · change next.index = place.index + 1 + text.length
        rw [hcount, List.length_cons]
        omega

end Place

/-- A pattern that spells a text goes on behind it. -/
theorem reach_spelled (text : List Char) (behind : Node) (places : List Place) :
    reach (.spelled text behind) places = reach behind (places.filterMap (Place.behind? text)) := by
  induction text generalizing places with
  | nil =>
    have hsame : Place.behind? [] = some := rfl
    rw [hsame, List.filterMap_some]
    rfl
  | cons c text ih =>
    have hstep : reach (.spelled (c :: text) behind) places =
        reach (.spelled text behind) (places.filterMap (Place.advance? (.single c))) := by
      rw [Node.spelled, List.foldr_cons, reach, reach]
      rfl
    rw [hstep, ih, List.filterMap_filterMap]
    rfl

/-- Only the first place of a text has nothing before it. -/
theorem reach_textStart (text : List Char) :
    reach (.look .textStart) (Place.all text) = [⟨0, none, text⟩] := by
  have hlater (rest : List Char) (earlier : List Place) (index : Nat) (c : Char) :
      (Place.onward earlier index (some c) rest).filter (Look.holds .textStart) =
        earlier.filter (Look.holds .textStart) := by
    induction rest generalizing earlier index c with
    | nil => rfl
    | cons d rest ih =>
      rw [Place.onward, ih]
      rfl
  rw [reach, Place.all]
  cases text with
  | nil => rfl
  | cons c text =>
    rw [Place.onward, hlater]
    rfl

/-- A word is found at the start of a text just if the text begins with it and no further character
of a word follows. -/
theorem finds_openingWord {word : List Char} (h : ∃ c ∈ word.getLast?, isWordChar c = true)
    (text : List Char) :
    (Node.openingWord word).finds text = true ↔
      ∃ rest, text = word ++ rest ∧ ∀ c ∈ rest.head?, isWordChar c = false := by
  obtain ⟨last, hlast, hword⟩ := h
  have hreach : reach (.openingWord word) (Place.all text) =
      ([⟨0, none, text⟩].filterMap (Place.behind? word)).filter
        (Look.holds (.word true .boundary)) := by
    rw [Node.openingWord, reach, reach_textStart, reach_spelled, reach]
  have hholds {place : Place} (hbefore : place.before = word.getLast?.or none) :
      Look.holds (.word true .boundary) place = true ↔
        ∀ c ∈ place.rest.head?, isWordChar c = false := by
    have hbeforeWord : isWordAt true place.before = true := by
      rw [hbefore, Option.mem_def.mp hlast]
      exact hword
    have hbehind : isWordAt true place.rest.head? = place.rest.head?.any isWordChar := rfl
    rw [Look.holds, WordEdge.holds, hbeforeWord, hbehind]
    cases place.rest.head? <;> simp
  rw [Node.finds, hreach, Bool.not_eq_true', List.isEmpty_eq_false_iff_exists_mem]
  simp only [List.mem_filter, List.mem_filterMap, List.mem_singleton, exists_eq_left,
    Place.behind?_eq_some_iff]
  constructor
  · rintro ⟨place, ⟨hrest, hbefore, -⟩, hboundary⟩
    exact ⟨place.rest, hrest, (hholds hbefore).mp hboundary⟩
  · rintro ⟨rest, hrest, hboundary⟩
    exact ⟨⟨0 + word.length, word.getLast?.or none, rest⟩, ⟨hrest, rfl, rfl⟩,
      (hholds rfl).mpr hboundary⟩

end BotOps.Pattern
