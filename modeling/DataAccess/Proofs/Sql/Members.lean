import DataAccess.Proofs.Sql.Identifier
import DataAccess.Proofs.Sql.Rendering

/-! Lists in SQL text. The members of a list are what stands between its commas, and each of them is
read as its tokens. What is written for an argument is such a list, with one member for each of its
slots. -/
namespace DataAccess.Sql

/-- The members of a list that is separated by commas. -/
def members? (list : String) : Option (List (List Token)) :=
  (tokens? list.toList).map (·.splitOn (.mark ','))

theorem members?_eq_some {list : String} {tokens : List Token}
    (read : tokens? list.toList = some tokens) :
    members? list = some (tokens.splitOn (.mark ',')) := by
  rw [members?, read, Option.map_some]

theorem members?_single {text : String} {tokens : List Token}
    (read : tokens? text.toList = some tokens) (apart : .mark ',' ∉ tokens) :
    members? text = some [tokens] := by
  rw [members?_eq_some read, List.splitOn_eq_singleton apart]

/-- A comma ends one list and begins another. -/
theorem members?_comma {first second : String} {before behind : List (List Token)}
    (left : members? first = some before) (right : members? second = some behind) :
    members? (first ++ ", " ++ second) = some (before ++ behind) := by
  obtain ⟨front, readFront, rfl⟩ := Option.map_eq_some_iff.1 left
  obtain ⟨back, readBack, rfl⟩ := Option.map_eq_some_iff.1 right
  have none : tokens? [] = some [] := rfl
  have blank : tokens? (' ' :: second.toList) = some back := tokens?_blank none readBack
  have boundary (scan : Scan) : scan.stepOutside ',' = (scan.pending ++ [.mark ','], .gap) := rfl
  have whole := tokens?_append_cons boundary rfl readFront blank
  have text : (first ++ ", " ++ second).toList = first.toList ++ ',' :: ' ' :: second.toList := by
    simp
  rw [← text] at whole
  rw [members?_eq_some whole, List.append_assoc, List.singleton_append,
    List.splitOn_append_cons_self]

/-- Texts without a comma are the members of their list. -/
theorem members?_intercalate {texts : List String} {tokens : List (List Token)}
    (read : List.Forall₂ (fun text token => tokens? text.toList = some token ∧ .mark ',' ∉ token)
      texts tokens) (nonempty : texts ≠ []) : members? (", ".intercalate texts) = some tokens := by
  induction read with
  | nil => contradiction
  | @cons text token texts tokens first rest ih =>
    have single := members?_single first.1 first.2
    cases rest with
    | nil => simpa [String.intercalate_singleton] using single
    | cons second rest =>
      rw [String.intercalate_cons_cons]
      exact members?_comma single (ih (List.cons_ne_nil _ _))

/-- Names are the members of their list. -/
theorem members?_names {names : List String} (named : ∀ name ∈ names, isIdentifier name false)
    (nonempty : names ≠ []) :
    members? (", ".intercalate names) = some (names.map fun name => [.word name.toList]) := by
  refine members?_intercalate ?_ nonempty
  rw [List.forall₂_map_right_iff, List.forall₂_same]
  intro name listed
  obtain ⟨spoken, chars⟩ := isNameChar_of_isIdentifier (named name listed)
  exact ⟨tokens?_name spoken chars, by simp⟩

theorem splitOn_append_of_not_mem {separator : Token} {front : List Token}
    (apart : separator ∉ front) (rest : List Token) :
    (front ++ rest).splitOn separator = (rest.splitOn separator).modifyHead (front ++ ·) := by
  induction front with
  | nil =>
    rw [List.nil_append]
    cases rest.splitOn separator <;> rfl
  | cons token front ih =>
    simp only [List.mem_cons, not_or] at apart
    have other : (token == separator) = false := beq_false_of_ne (Ne.symm apart.1)
    rw [List.cons_append, List.splitOn_cons_eq_if_modifyHead, other, ih apart.2]
    cases rest.splitOn separator <;> rfl

/-- Words in front of a list belong to its first member. -/
theorem members?_blank {words list : String} {front : List Token} {members : List (List Token)}
    (left : tokens? words.toList = some front) (apart : .mark ',' ∉ front)
    (right : members? list = some members) :
    members? (words ++ " " ++ list) = some (members.modifyHead (front ++ ·)) := by
  obtain ⟨tokens, read, rfl⟩ := Option.map_eq_some_iff.1 right
  have whole := tokens?_blank left read
  have text : (words ++ " " ++ list).toList = words.toList ++ ' ' :: list.toList := by simp
  rw [← text] at whole
  rw [members?_eq_some whole, splitOn_append_of_not_mem apart]

end DataAccess.Sql

namespace DataAccess

open Sql

/-- Every argument takes a slot. -/
theorem Value.slots_ne_nil (value : Value) : value.slots ≠ [] := by
  cases value with
  | list items =>
    cases items with
    | nil => exact List.cons_ne_nil _ _
    | cons item rest =>
      rw [slots]
      exact List.append_ne_nil_of_left_ne_nil item.slots_ne_nil _
  | _ => exact List.cons_ne_nil _ _

/-- The token of the placeholder of the argument at a position. -/
def Dialect.placeholderToken (dialect : Dialect) (position : Nat) : Token :=
  if dialect = .postgres then .word ('$' :: (toString position).toList) else .mark '?'

/-- The token of a null. -/
def nullToken : Token := .word "NULL".toList

/-- What is read for slots when `bound` arguments stand before them. -/
def Dialect.slotTokens (dialect : Dialect) (bound : Nat) : List (Option Value) → List Token
  | [] => []
  | none :: rest => nullToken :: dialect.slotTokens bound rest
  | some _ :: rest => dialect.placeholderToken (bound + 1) :: dialect.slotTokens (bound + 1) rest

namespace Dialect

theorem tokens?_placeholder (dialect : Dialect) (position : Nat) :
    tokens? (dialect.placeholder position).toList = some [dialect.placeholderToken position] := by
  unfold placeholder placeholderToken
  split
  · have text : ("$" ++ toString position).toList = '$' :: (toString position).toList := by simp
    rw [text]
    refine tokens?_word (List.cons_ne_nil _ _) (List.forall_mem_cons.2 ⟨rfl, fun c member => ?_⟩)
    apply charKind_of_isNameChar
    simp [isNameChar, isSegmentChar, Char.isAlphanum, isDigit_of_mem_toString member]
  · rfl

theorem placeholderToken_ne_comma (dialect : Dialect) (position : Nat) :
    dialect.placeholderToken position ≠ .mark ',' := by
  unfold placeholderToken
  split
  · nofun
  · decide

theorem length_slotTokens (dialect : Dialect) (before : Nat) (slots : List (Option Value)) :
    (dialect.slotTokens before slots).length = slots.length := by
  induction slots generalizing before with
  | nil => rfl
  | cons slot rest ih => cases slot <;> simp [slotTokens, ih]

/-- The slots of an argument are members of their own. -/
theorem members?_slotsText (dialect : Dialect) (before : Nat) {slots : List (Option Value)}
    (nonempty : slots ≠ []) :
    members? (", ".intercalate (dialect.slotsText before slots)) =
      some ((dialect.slotTokens before slots).map ([·])) := by
  have spoken : dialect.slotsText before slots ≠ [] := by
    cases slots with
    | nil => contradiction
    | cons slot rest => cases slot <;> exact List.cons_ne_nil _ _
  refine members?_intercalate ?_ spoken
  clear nonempty spoken
  induction slots generalizing before with
  | nil => exact .nil
  | cons slot rest ih =>
    cases slot with
    | none => exact .cons ⟨rfl, by decide⟩ (ih before)
    | some value =>
      refine .cons ⟨dialect.tokens?_placeholder _, fun comma => ?_⟩ (ih (before + 1))
      exact dialect.placeholderToken_ne_comma _ (List.mem_singleton.1 comma).symm

end Dialect

end DataAccess
