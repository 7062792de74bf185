import DataAccess.Proofs.Text.Lowercase
import DataAccess.Sql.Condition
import Mathlib.Data.List.Infix

/-! Patterns as a backend matches them. A percent sign stands for any text and an underscore for any
one character, also where they come from a needle: then the pattern is matched by texts that do not
hold the needle. -/
namespace DataAccess

namespace Sql

/-- Whether a text is like a pattern, as standard SQL has it without an escape character. -/
def isLike : List Char → List Char → Bool
  | [], text => text.isEmpty
  | c :: pattern, text =>
    if c = '%' then text.tails.any (isLike pattern)
    else match text with
      | [] => false
      | d :: rest => (c = '_' || c = d) && isLike pattern rest

/-- Nothing in a text stands for something else. -/
def IsLiteral (text : List Char) : Prop := '%' ∉ text ∧ '_' ∉ text

instance : DecidablePred IsLiteral := fun _ => inferInstanceAs (Decidable (_ ∧ _))

theorem isLike_nil {text : List Char} : isLike [] text ↔ text = [] := by
  rw [isLike, List.isEmpty_iff]

theorem isLike_percent {pattern text : List Char} :
    isLike ('%' :: pattern) text ↔ ∃ rest, rest <:+ text ∧ isLike pattern rest := by
  simp only [isLike, if_true, List.any_eq_true, List.mem_tails]

theorem isLike_cons {c : Char} (single : c ≠ '%') {pattern text : List Char} :
    isLike (c :: pattern) text ↔
      ∃ d rest, text = d :: rest ∧ (c = '_' ∨ c = d) ∧ isLike pattern rest := by
  cases text with
  | nil => simp [isLike, single]
  | cons d rest => simp [isLike, single]

/-- A text is like two patterns in a row if its parts are like them. -/
theorem isLike_append {first second text : List Char} :
    isLike (first ++ second) text ↔
      ∃ front back, text = front ++ back ∧ isLike first front ∧ isLike second back := by
  induction first generalizing text with
  | nil => simp [isLike_nil]
  | cons c pattern ih =>
    rw [List.cons_append]
    by_cases percent : c = '%'
    · subst percent
      simp only [isLike_percent, ih]
      constructor
      · rintro ⟨_, ⟨skipped, rfl⟩, front, back, rfl, likeFront, likeBack⟩
        exact ⟨skipped ++ front, back, (List.append_assoc _ _ _).symm,
          ⟨front, List.suffix_append _ _, likeFront⟩, likeBack⟩
      · rintro ⟨_, back, rfl, ⟨front, ⟨skipped, rfl⟩, likeFront⟩, likeBack⟩
        exact ⟨front ++ back, ⟨skipped, (List.append_assoc _ _ _).symm⟩, front, back, rfl,
          likeFront, likeBack⟩
    · simp only [isLike_cons percent, ih]
      constructor
      · rintro ⟨d, _, rfl, same, front, back, rfl, likeFront, likeBack⟩
        exact ⟨d :: front, back, rfl, ⟨d, front, rfl, same, likeFront⟩, likeBack⟩
      · rintro ⟨_, back, rfl, ⟨d, front, rfl, same, likeFront⟩, likeBack⟩
        exact ⟨d, front ++ back, rfl, same, front, back, rfl, likeFront, likeBack⟩

theorem isLike_any (text : List Char) : isLike ['%'] text :=
  isLike_percent.2 ⟨[], List.nil_suffix, rfl⟩

theorem isLike_self (pattern : List Char) : isLike pattern pattern := by
  induction pattern with
  | nil => rfl
  | cons c pattern ih =>
    by_cases percent : c = '%'
    · rw [percent, isLike_percent]
      exact ⟨pattern, List.suffix_cons _ _, ih⟩
    · exact (isLike_cons percent).2 ⟨c, pattern, rfl, .inr rfl, ih⟩

/-- Only one text is like a literal pattern. -/
theorem isLike_of_isLiteral {pattern text : List Char} (literal : IsLiteral pattern) :
    isLike pattern text ↔ text = pattern := by
  induction pattern generalizing text with
  | nil => exact isLike_nil
  | cons c pattern ih =>
    obtain ⟨percent, underscore⟩ := literal
    simp only [List.mem_cons, not_or] at percent underscore
    rw [isLike_cons (Ne.symm percent.1)]
    constructor
    · rintro ⟨d, rest, rfl, same, like⟩
      obtain rfl := same.resolve_left (Ne.symm underscore.1)
      rw [(ih ⟨percent.2, underscore.2⟩).1 like]
    · rintro rfl
      exact ⟨c, pattern, rfl, .inr rfl, isLike_self pattern⟩

/-- A text that is like a pattern and has no wildcard in it. -/
def sample (pattern : List Char) : List Char :=
  (pattern.filter (· ≠ '%')).map fun c => if c = '_' then 'x' else c

theorem isLiteral_sample (pattern : List Char) : IsLiteral (sample pattern) := by
  constructor
  all_goals
    intro member
    obtain ⟨c, listed, same⟩ := List.mem_map.1 member
    have other := of_decide_eq_true (List.mem_filter.1 listed).2
    split at same
    · exact absurd same (by decide)
    · contradiction

theorem isLike_sample (pattern : List Char) : isLike pattern (sample pattern) := by
  induction pattern with
  | nil => rfl
  | cons c pattern ih =>
    by_cases percent : c = '%'
    · subst percent
      exact isLike_percent.2 ⟨_, List.suffix_refl _, ih⟩
    · have kept : sample (c :: pattern) = (if c = '_' then 'x' else c) :: sample pattern := by
        simp [sample, percent]
      rw [kept]
      refine (isLike_cons percent).2 ⟨_, _, rfl, ?_, ih⟩
      split
      · next underscore => exact .inl underscore
      · exact .inr rfl

section Place

variable {pattern needle : List Char} {place : List Char → List Char → Prop}
  (asked : ∀ text, isLike pattern text ↔ ∃ part, place part text ∧ isLike needle part)
include asked

/-- A pattern that asks for a needle in a place is like every text that has the needle there. -/
theorem isLike_of_place {text : List Char} (placed : place needle text) : isLike pattern text :=
  (asked text).2 ⟨needle, placed, isLike_self needle⟩

/-- It is like these texts only, if and only if the needle is literal. -/
theorem isLike_iff_place (whole : ∀ text, place text text)
    (inside : ∀ {part text}, place part text → part ⊆ text) :
    (∀ text, isLike pattern text ↔ place needle text) ↔ IsLiteral needle := by
  constructor
  · intro only
    -- the sample is like the needle, so the needle would be in it, with its wildcards
    have found : place needle (sample needle) :=
      (only _).1 ((asked _).2 ⟨sample needle, whole _, isLike_sample needle⟩)
    obtain ⟨percent, underscore⟩ := isLiteral_sample needle
    exact ⟨fun member => percent (inside found member),
      fun member => underscore (inside found member)⟩
  · intro literal text
    simp only [asked, isLike_of_isLiteral literal, exists_eq_right]

end Place

theorem isLike_infix {needle text : List Char} :
    isLike ('%' :: (needle ++ ['%'])) text ↔ ∃ part, part <:+: text ∧ isLike needle part := by
  simp only [isLike_percent, isLike_append, isLike_any, and_true]
  constructor
  · rintro ⟨_, ⟨before, rfl⟩, part, after, rfl, like⟩
    exact ⟨part, ⟨before, after, List.append_assoc _ _ _⟩, like⟩
  · rintro ⟨part, ⟨before, after, rfl⟩, like⟩
    exact ⟨part ++ after, ⟨before, (List.append_assoc _ _ _).symm⟩, part, after, rfl, like⟩

theorem isLike_prefix {needle text : List Char} :
    isLike (needle ++ ['%']) text ↔ ∃ part, part <+: text ∧ isLike needle part := by
  simp only [isLike_append, isLike_any, and_true]
  constructor
  · rintro ⟨part, after, rfl, like⟩
    exact ⟨part, ⟨after, rfl⟩, like⟩
  · rintro ⟨part, ⟨after, rfl⟩, like⟩
    exact ⟨part, after, rfl, like⟩

end Sql

open Sql

theorem Text.isLiteral_lowercase {text : String} :
    IsLiteral (lowercase text).toList ↔ IsLiteral text.toList := by
  have percent : IsSign '%' := by decide
  have underscore : IsSign '_' := by decide
  rw [IsLiteral, mem_lowercase_of_sign percent, mem_lowercase_of_sign underscore, IsLiteral]

namespace Condition

theorem compile_likeLowered (column pattern : String) :
    (likeLowered column pattern).compile =
      ⟨"LOWER(" ++ column ++ ") LIKE ?", [.text (Text.lowercase pattern)]⟩ := by
  have spoken : ' ' ∈ ("LOWER(" ++ column ++ ") LIKE ?").toList := by simp
  have other {text : String} (silent : ' ' ∉ text.toList) :
      "LOWER(" ++ column ++ ") LIKE ?" ≠ text := by
    rintro rfl
    exact silent spoken
  rw [likeLowered, compile, Leaf.fragment, Leaf.args, Fragment.orBlank,
    if_neg (not_or.2 ⟨other (by decide), other (by decide)⟩)]

/-- Every text that has the lowered needle in a place is like the pattern. They are the only ones if
and only if there is no wildcard in the needle. -/
structure Finds (pattern needle : String) (place : List Char → List Char → Prop) : Prop where
  found : ∀ text, place (Text.lowercase needle).toList text → isLike pattern.toList text
  only_iff : (∀ text, isLike pattern.toList text ↔ place (Text.lowercase needle).toList text) ↔
    IsLiteral needle.toList

/-- A condition compares a lowered column with a pattern for a needle in a place. -/
def AsksFor (condition : Condition) (column needle : String)
    (place : List Char → List Char → Prop) : Prop :=
  ∃ pattern, condition.compile = ⟨"LOWER(" ++ column ++ ") LIKE ?", [.text pattern]⟩ ∧
    Finds pattern needle place

theorem finds {pattern needle : String} {place : List Char → List Char → Prop}
    (asked : ∀ text, isLike pattern.toList text ↔
      ∃ part, place part text ∧ isLike (Text.lowercase needle).toList part)
    (whole : ∀ text, place text text) (inside : ∀ {part text}, place part text → part ⊆ text) :
    Finds pattern needle place where
  found _ := isLike_of_place asked
  only_iff := (isLike_iff_place asked whole inside).trans Text.isLiteral_lowercase

theorem finds_percents (needle : String) :
    Finds ("%" ++ Text.lowercase needle ++ "%") needle (· <:+: ·) := by
  refine finds (fun text => ?_) List.infix_refl List.IsInfix.subset
  rw [Text.toList_append_percent, Text.toList_percent_append]
  exact isLike_infix

variable (column needle : String)

theorem asksFor_contains : (contains column needle).AsksFor column needle (· <:+: ·) := by
  refine ⟨"%" ++ Text.lowercase needle ++ "%", ?_, finds_percents needle⟩
  rw [contains, compile_likeLowered, Text.lowercase_percents]

theorem asksFor_startsWith : (startsWith column needle).AsksFor column needle (· <+: ·) := by
  refine ⟨Text.lowercase needle ++ "%", ?_, ?_⟩
  · rw [startsWith, compile_likeLowered, Text.lowercase_append_percent]
  · refine finds (fun text => ?_) List.prefix_refl List.IsPrefix.subset
    rw [Text.toList_append_percent]
    exact isLike_prefix

theorem asksFor_endsWith : (endsWith column needle).AsksFor column needle (· <:+ ·) := by
  refine ⟨"%" ++ Text.lowercase needle, ?_, ?_⟩
  · rw [endsWith, compile_likeLowered, Text.lowercase_percent_append]
  · refine finds (fun text => ?_) List.suffix_refl List.IsSuffix.subset
    rw [Text.toList_percent_append]
    exact isLike_percent

end Condition

end DataAccess
