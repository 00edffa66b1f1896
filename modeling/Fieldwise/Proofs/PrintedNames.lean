/-
This file says which tokens are lexical, and how their print begins. In a source text a word is all
of a name, a mark is no part of one, and a literal begins with a digit, with a quote, or with the
letter before a quote. When lexical tokens are printed, a blank follows every word that is not the
last one, and no mark and no literal can stand for a letter of a name. So no print begins with the
name of the runtime and a colon right after it, whatever colons stand before it and however the
tokens are grouped: invisible groups print what they hold, and every other group begins with its
delimiter.
-/

import Fieldwise.Proofs.Dispatch
import Fieldwise.Proofs.Words
import Fieldwise.Token.Printer

namespace Fieldwise

/-! ### Lexical tokens -/

/-- The characters with which a literal begins. -/
def Literal.begins (character : Char) : Bool :=
  character.isDigit || ['"', Char.ofNat 39, 'b', 'c', 'r'].contains character

namespace Token

mutual

/-- Whether a token, with all that it holds, is one that a source text can have. -/
def isLexical : Token → Bool
  | .word name => decide name.Lexical
  | .mark character _ => !Unicode.continuesIdentifier character
  | .literal text => text.toList.head?.all Literal.begins
  | .group _ content => areLexical content

/-- Whether all tokens of a run are. -/
def areLexical : List Token → Bool
  | [] => true
  | token :: rest => token.isLexical && areLexical rest

end

mutual

/-- The words in a lexical token are lexical. -/
theorem lexical_of_mem_words {word : Identifier} :
    ∀ token : Token, token.isLexical = true → word ∈ token.words → word.Lexical
  | .word _, lexical, member => List.mem_singleton.mp member ▸ of_decide_eq_true lexical
  | .mark _ _, _, member => absurd member List.not_mem_nil
  | .literal _, _, member => absurd member List.not_mem_nil
  | .group _ content, lexical, member => lexical_of_mem_words_all content lexical member

/-- And so are those in a run. -/
theorem lexical_of_mem_words_all {word : Identifier} :
    ∀ tokens : List Token, areLexical tokens = true → word ∈ Tokens.words tokens → word.Lexical
  | [], _, member => absurd member List.not_mem_nil
  | token :: rest, lexical, member => by
    obtain ⟨first, others⟩ := Bool.and_eq_true _ _ |>.mp lexical
    rcases List.mem_append.mp member with within | after
    · exact lexical_of_mem_words token first within
    · exact lexical_of_mem_words_all rest others after

end

end Token

/-! ### Beginnings of texts -/

namespace Text

/-- The text begins with the name of the runtime and a colon right after it, perhaps after
other colons. -/
def LeadsToRuntime (text : List Char) : Prop :=
  ∃ colons, List.replicate colons ':' ++ "undertow:".toList <+: text

theorem not_leadsToRuntime_nil : ¬LeadsToRuntime [] := by
  rintro ⟨colons, leads⟩
  have nothing := List.prefix_nil.mp leads
  exact absurd (List.append_eq_nil_iff.mp nothing).2 (by decide)

/-- A text with another first character does not begin so. -/
theorem not_leadsToRuntime_of_head {text : List Char}
    (head : ∀ first ∈ text.head?, first ≠ ':' ∧ first ≠ 'u') : ¬LeadsToRuntime text := by
  rintro ⟨colons, rest, rfl⟩
  cases colons with
  | zero => exact (head 'u' rfl).2 rfl
  | succ colons => exact (head ':' rfl).1 rfl

/-- One more colon makes no difference. -/
theorem not_leadsToRuntime_colon {text : List Char} (not : ¬LeadsToRuntime text) :
    ¬LeadsToRuntime (':' :: text) := by
  rintro ⟨colons, leads⟩
  cases colons with
  | zero => exact absurd (List.cons_prefix_cons.mp leads).1 (by decide)
  | succ colons => exact not ⟨colons, (List.cons_prefix_cons.mp leads).2⟩

theorem not_leadsToRuntime_of_colonless {text : List Char} (colonless : ':' ∉ text) :
    ¬LeadsToRuntime text := by
  rintro ⟨colons, leads⟩
  exact colonless (leads.subset (List.mem_append_right _ (by decide)))

/-- What stands after a blank makes no difference. -/
theorem not_leadsToRuntime_append_blank {text : List Char} (not : ¬LeadsToRuntime text)
    (rest : List Char) : ¬LeadsToRuntime (text ++ ' ' :: rest) := by
  rintro ⟨colons, leads⟩
  have unbroken : ' ' ∉ List.replicate colons ':' ++ "undertow:".toList := by
    rw [List.mem_append, not_or]
    exact ⟨fun member => absurd (List.eq_of_mem_replicate member) (by decide), by decide⟩
  have front : text ++ [' '] <+: text ++ ' ' :: rest := ⟨rest, List.append_assoc _ _ _⟩
  rcases List.prefix_or_prefix_of_prefix leads front with within | beyond
  · rcases List.prefix_concat_iff.mp within with all | before
    · exact unbroken (all ▸ List.mem_append_right _ (List.mem_singleton_self ' '))
    · exact not ⟨colons, before⟩
  · exact unbroken (beyond.subset (List.mem_append_right _ (List.mem_singleton_self ' ')))

theorem after?_eq_some_iff {beginning text rest : List Char} :
    after? beginning text = some rest ↔ text = beginning ++ rest := by
  rw [after?]
  constructor
  · intro found
    split at found
    · rename_i starts
      obtain ⟨after, rfl⟩ := List.isPrefixOf_iff_prefix.mp starts
      rw [List.drop_left] at found
      rw [Option.some.inj found]
    · cases found
  · rintro rfl
    rw [if_pos (List.isPrefixOf_iff_prefix.mpr (List.prefix_append _ _)), List.drop_left]

/-- A text is what is left of it, or that with `::` before it. -/
theorem eq_or_eq_of_withoutRoot (text : String) :
    text.toList = (withoutRoot text).toList ∨
      text.toList = "::".toList ++ (withoutRoot text).toList := by
  rw [withoutRoot, String.toList_ofList]
  cases found : after? "::".toList text.toList with
  | none => exact .inl rfl
  | some rest => exact .inr (after?_eq_some_iff.mp found)

/-- A name belongs to the runtime if it goes on after the runtime's name and `::`. -/
theorem isRuntimeName_iff {name : String} :
    isRuntimeName name = true ↔
      ∃ rest, rest ≠ [] ∧ (withoutRoot name).toList = "undertow::".toList ++ rest := by
  rw [isRuntimeName]
  constructor
  · intro runtime
    split at runtime
    · rename_i rest found
      refine ⟨rest, ?_, after?_eq_some_iff.mp found⟩
      rintro rfl
      cases runtime
    · cases runtime
  · rintro ⟨rest, nonempty, parts⟩
    rw [after?_eq_some_iff.mpr parts]
    cases rest with
    | nil => exact absurd rfl nonempty
    | cons first others => rfl

/-- A name that belongs to the runtime begins so. -/
theorem leadsToRuntime_of_isRuntimeName {name : String} (runtime : isRuntimeName name = true) :
    LeadsToRuntime name.toList := by
  obtain ⟨rest, -, parts⟩ := isRuntimeName_iff.mp runtime
  rcases eq_or_eq_of_withoutRoot name with same | rooted
  · rw [same, parts]
    exact ⟨0, ':' :: rest, rfl⟩
  · rw [rooted, parts]
    exact ⟨2, ':' :: rest, rfl⟩

/-- The name in a text is a front of it. -/
theorem prefix_baseName (text : String) : (baseName text).toList <+: text.toList := by
  rw [baseName, String.toList_ofList, baseCharacters]
  split
  · exact List.prefix_refl _
  · exact List.takeWhile_prefix _

/-- A text that does not begin so has no name that belongs to the runtime. -/
theorem isRuntimeName_baseName_of_not_leads {text : String}
    (not : ¬LeadsToRuntime text.toList) : isRuntimeName (baseName text) = false := by
  refine Bool.eq_false_iff.mpr fun runtime => not ?_
  obtain ⟨colons, leads⟩ := leadsToRuntime_of_isRuntimeName runtime
  exact ⟨colons, leads.trans (prefix_baseName text)⟩

end Text

/-! ### Prints of tokens -/

open Text

theorem Identifier.Lexical.colonless_spelling {name : Identifier} (lexical : name.Lexical) :
    ':' ∉ name.spelling.toList := by
  have colonless : ':' ∉ name.text.toList := lexical.not_mem (by decide)
  rw [spelling]
  split
  · rw [String.toList_append, List.mem_append, not_or]
    exact ⟨by decide, colonless⟩
  · exact colonless

namespace Token

theorem toList_toString (character : Char) : character.toString.toList = [character] :=
  String.toList_singleton character

/-- A mark leads on only if it is a colon. -/
theorem not_leadsToRuntime_mark {character : Char}
    (foreign : Unicode.continuesIdentifier character = false) {text : List Char}
    (not : ¬LeadsToRuntime text) : ¬LeadsToRuntime (character :: text) := by
  by_cases colon : character = ':'
  · rw [colon]
    exact not_leadsToRuntime_colon not
  · refine not_leadsToRuntime_of_head fun first same => ?_
    cases same
    refine ⟨colon, ?_⟩
    rintro rfl
    exact absurd foreign (by decide)

/-- A group begins with its delimiter, or as what it holds does. -/
theorem not_leadsToRuntime_surround {delimiter : Delimiter} {empty : Bool} {content : String}
    (not : ¬LeadsToRuntime content.toList) :
    ¬LeadsToRuntime (surround delimiter empty content).toList := by
  have delimited (opening : Char) (rest : List Char) (other : opening ≠ ':' ∧ opening ≠ 'u') :
      ¬LeadsToRuntime (opening :: rest) :=
    not_leadsToRuntime_of_head fun first same => by
      cases same
      exact other
  cases delimiter with
  | parenthesis =>
    rw [surround, String.toList_append, String.toList_append]
    exact delimited '(' _ (by decide)
  | bracket =>
    rw [surround, String.toList_append, String.toList_append]
    exact delimited '[' _ (by decide)
  | brace =>
    cases empty with
    | true =>
      rw [surround, if_pos rfl]
      exact delimited '{' _ (by decide)
    | false =>
      rw [surround, if_neg Bool.false_ne_true, String.toList_append, String.toList_append]
      exact delimited '{' _ (by decide)
  | invisible => exact not

/-- A token is joined to what follows it only if it is a mark, and else a blank stands between
them. -/
theorem not_leadsToRuntime_gap {token : Token} (lexical : token.isLexical = true)
    (not : ¬LeadsToRuntime token.print.toList) {rest : String}
    (notRest : ¬LeadsToRuntime rest.toList) :
    ¬LeadsToRuntime (token.print ++ token.gap ++ rest).toList := by
  have apart : ¬LeadsToRuntime (token.print ++ " " ++ rest).toList := by
    rw [String.append_assoc, String.toList_append, String.toList_append]
    exact not_leadsToRuntime_append_blank not rest.toList
  cases token with
  | mark character joint =>
    cases joint with
    | false => exact apart
    | true =>
      rw [print, gap, String.append_empty, String.toList_append, toList_toString]
      exact not_leadsToRuntime_mark (Bool.not_eq_true' _ |>.mp lexical) notRest
  | word name => exact apart
  | literal text => exact apart
  | group delimiter content => exact apart

mutual

/-- The print of a lexical token does not begin with the name of the runtime and a colon. -/
theorem not_leadsToRuntime_print :
    ∀ token : Token, token.isLexical = true → ¬LeadsToRuntime token.print.toList
  | .word name, lexical =>
    not_leadsToRuntime_of_colonless (of_decide_eq_true lexical).colonless_spelling
  | .mark character joint, lexical => by
    rw [print, toList_toString]
    exact not_leadsToRuntime_mark (Bool.not_eq_true' _ |>.mp lexical) not_leadsToRuntime_nil
  | .literal text, lexical => by
    refine not_leadsToRuntime_of_head fun first (same : text.toList.head? = some first) => ?_
    have begins : text.toList.head?.all Literal.begins = true := lexical
    rw [same, Option.all_some] at begins
    refine ⟨?_, ?_⟩
    · rintro rfl
      exact absurd begins (by decide)
    · rintro rfl
      exact absurd begins (by decide)
  | .group delimiter content, lexical =>
    not_leadsToRuntime_surround (not_leadsToRuntime_printAll content lexical)

/-- Nor does that of a run. -/
theorem not_leadsToRuntime_printAll :
    ∀ tokens : List Token, areLexical tokens = true → ¬LeadsToRuntime (printAll tokens).toList
  | [], _ => not_leadsToRuntime_nil
  | [token], lexical => not_leadsToRuntime_print token (Bool.and_eq_true _ _ |>.mp lexical).1
  | token :: next :: rest, lexical => by
    obtain ⟨first, others⟩ := Bool.and_eq_true _ _ |>.mp lexical
    rw [printAll]
    exact not_leadsToRuntime_gap first (not_leadsToRuntime_print token first)
      (not_leadsToRuntime_printAll (next :: rest) others)

end

end Token

end Fieldwise
