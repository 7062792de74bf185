import DataAccess.Proofs.Sql.Meaning

/-! Raw fragments among other operands. As an operand a raw fragment goes into parentheses and counts
as one, whatever connectives it has. As the receiver of a chain it stays as it is, and an `AND` behind
it takes its last alternative away from the others. -/
namespace DataAccess

open Sql

/-- What the alternatives of a chain but the last say, and what the last one says. -/
structure Run (τ : Type) where
  earlier : τ
  last : τ

namespace Run

variable {τ : Type} [Lattice τ] [BoundedOrder τ]

def add (run : Run τ) (connective : Connective) (value : τ) : Run τ :=
  match connective with
  | .and => ⟨run.earlier, run.last ⊓ value⟩
  | .or => ⟨run.earlier ⊔ run.last, value⟩

def truth (run : Run τ) : τ := run.earlier ⊔ run.last

end Run

section Run

variable {α τ : Type} [Lattice τ] [BoundedOrder τ] (truth : α → τ)

def chainRun : List (Connective × Formula α) → Run τ
  | [] => ⟨⊥, ⊤⟩
  | (_, first) :: rest =>
    rest.foldl (fun run unit => run.add unit.1 (unit.2.eval truth)) ⟨⊥, first.eval truth⟩

theorem truth_chainRun (units : List (Connective × Formula α)) :
    (chainRun truth units).truth = chainTruth truth units := by
  have later (earlier : τ) (first : Formula α) (rest : List (Connective × Formula α)) :
      (rest.foldl (fun run unit => run.add unit.1 (unit.2.eval truth))
        ⟨earlier, first.eval truth⟩ : Run τ).truth =
          earlier ⊔ (Formula.chain first rest).eval truth := by
    induction rest generalizing earlier first with
    | nil => rfl
    | cons unit rest ih =>
      obtain ⟨connective, next⟩ := unit
      cases connective with
      | and => exact ih earlier (Formula.and first next)
      | or =>
        rw [Formula.chain, Formula.eval, ← sup_assoc]
        exact ih (earlier ⊔ first.eval truth) next
  cases units with
  | nil => exact bot_sup_eq _
  | cons unit rest => exact (later ⊥ unit.2 rest).trans (bot_sup_eq _)

theorem chainRun_asUnit (connective : Connective) (units : List (Connective × Formula α)) :
    chainRun truth (asUnit connective units) = ⟨⊥, chainTruth truth units⟩ := by
  cases units <;> rfl

theorem chainRun_joinUnits (connective : Connective) {operand chain : List (Connective × Formula α)}
    (spoken : operand ≠ []) (tied : chain ≠ []) :
    chainRun truth (joinUnits connective operand chain) =
      (chainRun truth chain).add connective (chainTruth truth operand) := by
  obtain ⟨first, rest, rfl⟩ := List.exists_cons_of_ne_nil spoken
  obtain ⟨begun, later, rfl⟩ := List.exists_cons_of_ne_nil tied
  rw [joinUnits_of_ne_nil tied, List.cons_append]
  exact List.foldl_append

theorem chainTruth_join (connective : Connective) {operand chain : List (Connective × Formula α)}
    (spoken : operand ≠ []) (tied : chain ≠ []) :
    chainTruth truth (joinUnits connective operand chain) =
      ((chainRun truth chain).add connective (chainTruth truth operand)).truth := by
  rw [← truth_chainRun, chainRun_joinUnits truth connective spoken tied]

/-- A chain without `OR` is its last alternative. -/
theorem chainRun_of_ties {units : List (Connective × Formula α)}
    (ties : ∀ unit ∈ units.tail, unit.1 = .and) :
    chainRun truth units = ⟨⊥, chainTruth truth units⟩ := by
  have later (first : τ) (rest : List (Connective × Formula α))
      (ties : ∀ unit ∈ rest, unit.1 = .and) :
      (rest.foldl (fun run unit => run.add unit.1 (unit.2.eval truth)) ⟨⊥, first⟩ : Run τ).earlier =
        ⊥ := by
    induction rest generalizing first with
    | nil => rfl
    | cons unit rest ih =>
      obtain ⟨here, others⟩ := List.forall_mem_cons.1 ties
      rw [List.foldl_cons, here]
      exact ih _ others
  have alone : (chainRun truth units).earlier = ⊥ := by
    cases units with
    | nil => rfl
    | cons unit rest => exact later _ rest ties
  have whole := truth_chainRun truth units
  rw [Run.truth, alone, bot_sup_eq] at whole
  rw [← alone, ← whole]

end Run

namespace Leaf

/-- A leaf on a column that can stand in a comparison, or a raw fragment that is a predicate. -/
def IsPredicate (leaf : Leaf) : Prop :=
  match leaf.column? with
  | some column => isOperand column
  | none => (parse? leaf.text).isSome

/-- The formula of a leaf that is read alone. -/
def formula (leaf : Leaf) : Formula Atom := (parse? leaf.text).getD (.atom leaf.atom)

/-- Whether the text of a leaf has an `OR` outside parentheses. -/
def hasAlternatives (leaf : Leaf) : Bool := leaf.units.tail.any fun unit => unit.1 = .or

theorem IsPredicate.isWellFormed {leaf : Leaf} (predicate : leaf.IsPredicate) :
    leaf.IsWellFormed := by
  unfold IsPredicate at predicate
  unfold IsWellFormed
  cases named : leaf.column? with
  | some column => simpa only [named] using predicate
  | none =>
    simp only [named] at predicate
    exact .inr predicate

theorem IsPredicate.asUnit_units {leaf : Leaf} (predicate : leaf.IsPredicate) :
    asUnit .and leaf.units = [(.and, leaf.formula)] := by
  have read := (units?_text predicate.isWellFormed).1
  have parsed : parse? leaf.text = Formula.ofChain? leaf.units := by
    rw [parse?, read, Option.bind_some]
  have speaks : (parse? leaf.text).isSome := by
    unfold IsPredicate at predicate
    split at predicate
    case h_1 column named =>
      rw [parse?, units?_text_of_column named predicate]
      rfl
    case h_2 => exact predicate
  obtain ⟨whole, known⟩ := Option.isSome_iff_exists.1 speaks
  rw [asUnit, formula, known, ← parsed, known]
  rfl

theorem IsPredicate.units_ne_nil {leaf : Leaf} (predicate : leaf.IsPredicate) :
    leaf.units ≠ [] := by
  intro none
  have one := predicate.asUnit_units
  rw [none] at one
  contradiction

end Leaf

namespace Condition

/-- The leaf that stands without parentheses at the start of a chain and is all that the chain has
said. -/
def bare? : Condition → Option Leaf
  | leaf l => some l
  | join chain _ operand => if operand.leaves.isEmpty then chain.bare? else none
  | _ => none

/-- No operand is tied by `AND` to a bare leaf with alternatives. -/
def IsSealed : Condition → Prop
  | empty | leaf _ => True
  | group operand => operand.IsSealed
  | join chain connective operand =>
    chain.IsSealed ∧ operand.IsSealed ∧
      (connective = .and → operand.leaves ≠ [] → ∀ head ∈ chain.bare?, head.hasAlternatives = false)

variable {β : Type}

/-- Two readings of a condition in which the occurrences of atoms are told apart. The flat one takes
the units of a leaf one by one, as they stand in the compiled text, and the whole one takes them for
one operand. -/
inductive Reads (atom : β → Atom) :
    Condition → List (Connective × Formula β) → List (Connective × Formula β) → Prop
  | empty : Reads atom .empty [] []
  | leaf {l : Leaf} {units : List (Connective × Formula β)} (same : relabel atom units = l.units) :
    Reads atom (.leaf l) units (asUnit .and units)
  | group {operand : Condition} {flat whole : List (Connective × Formula β)}
    (inside : Reads atom operand flat whole) :
    Reads atom (.group operand) (asUnit .and flat) (asUnit .and whole)
  | join {chain operand : Condition} {connective : Connective}
    {flat whole flat' whole' : List (Connective × Formula β)} (left : Reads atom chain flat whole)
    (right : Reads atom operand flat' whole') :
    Reads atom (.join chain connective operand) (joinUnits connective flat' flat)
      (joinUnits connective whole' whole)

/-- Raw fragments are opaque: whatever is true of their parts, a condition reads as if each was one
operand. -/
def IsOpaque (condition : Condition) : Prop :=
  ∀ (β τ : Type) [Lattice τ] [BoundedOrder τ] (atom : β → Atom) (truth : β → τ)
    (flat whole : List (Connective × Formula β)),
    condition.Reads atom flat whole → chainTruth truth flat = chainTruth truth whole

variable {atom : β → Atom} {condition : Condition} {flat whole : List (Connective × Formula β)}

theorem Reads.spoken (reads : condition.Reads atom flat whole)
    (predicates : ∀ leaf ∈ condition.leaves, leaf.IsPredicate) :
    (flat = [] ↔ condition.leaves = []) ∧ (whole = [] ↔ condition.leaves = []) := by
  have joined {connective : Connective} {operand chain : List (Connective × Formula β)} :
      joinUnits connective operand chain = [] ↔ chain = [] ∧ operand = [] := by
    cases chain <;> simp [joinUnits, asUnit_eq_nil]
  induction reads with
  | empty => simp [leaves]
  | @leaf l units same =>
    have spoken := (predicates l (List.mem_singleton_self l)).units_ne_nil
    have units' : units ≠ [] := by
      rintro rfl
      exact spoken same.symm
    simp [leaves, asUnit_eq_nil, units']
  | group _ ih => simpa only [asUnit_eq_nil, leaves] using ih predicates
  | join _ _ ihChain ihOperand =>
    obtain ⟨predicatesChain, predicatesOperand⟩ := List.forall_mem_append.1 predicates
    have left := ihChain predicatesChain
    have right := ihOperand predicatesOperand
    simp only [joined, leaves, List.append_eq_nil_iff, left.1, left.2, right.1, right.2, and_self]

/-- Both readings of a sealed condition say the same. They have the same alternatives, too, unless a
bare leaf is all there is. -/
theorem Reads.run_eq {τ : Type} [Lattice τ] [BoundedOrder τ]
    (reads : condition.Reads atom flat whole)
    (predicates : ∀ leaf ∈ condition.leaves, leaf.IsPredicate) (tight : condition.IsSealed)
    (truth : β → τ) :
    chainTruth truth flat = chainTruth truth whole ∧
      ((∀ head ∈ condition.bare?, head.hasAlternatives = false) →
        chainRun truth flat = chainRun truth whole) := by
  induction reads with
  | empty => exact ⟨rfl, fun _ => rfl⟩
  | @leaf l units same =>
    refine ⟨(chainTruth_asUnit truth .and units).symm, fun calm => ?_⟩
    have ties : ∀ unit ∈ units.tail, unit.1 = .and := by
      intro unit member
      have listed : (unit.1, unit.2.map atom) ∈ l.units.tail := by
        rw [← same, relabel, ← List.map_tail]
        exact List.mem_map_of_mem member
      have none := List.any_eq_false.1 (calm l rfl) _ listed
      cases tie : unit.1 <;> simp [tie] at none ⊢
    rw [chainRun_of_ties truth ties, chainRun_asUnit]
  | group _ ih =>
    have inside := (ih predicates tight).1
    rw [chainTruth_asUnit, chainTruth_asUnit, chainRun_asUnit, chainRun_asUnit, inside]
    exact ⟨rfl, fun _ => rfl⟩
  | @join chain operand connective flat whole flat' whole' left right ihChain ihOperand =>
    obtain ⟨predicatesChain, predicatesOperand⟩ := List.forall_mem_append.1 predicates
    obtain ⟨tightChain, tightOperand, apart⟩ := tight
    obtain ⟨truthChain, runChain⟩ := ihChain predicatesChain tightChain
    obtain ⟨truthOperand, _⟩ := ihOperand predicatesOperand tightOperand
    have spokenChain := left.spoken predicatesChain
    have spokenOperand := right.spoken predicatesOperand
    by_cases silent : operand.leaves = []
    · rw [spokenOperand.1.2 silent, spokenOperand.2.2 silent, joinUnits_nil, joinUnits_nil]
      refine ⟨truthChain, fun calm => runChain ?_⟩
      simpa [bare?, silent] using calm
    · -- behind an operand the alternatives are the same, so what they say is, too
      have runs : chainRun truth (joinUnits connective flat' flat) =
          chainRun truth (joinUnits connective whole' whole) := by
        by_cases begun : chain.leaves = []
        · rw [spokenChain.1.2 begun, spokenChain.2.2 begun, joinUnits, joinUnits, chainRun_asUnit,
            chainRun_asUnit, truthOperand]
        · rw [chainRun_joinUnits truth connective (mt spokenOperand.1.1 silent)
              (mt spokenChain.1.1 begun),
            chainRun_joinUnits truth connective (mt spokenOperand.2.1 silent)
              (mt spokenChain.2.1 begun), truthOperand]
          cases connective with
          | and => rw [runChain (apart rfl silent)]
          | or =>
            rw [← truth_chainRun, ← truth_chainRun] at truthChain
            exact congrArg (Run.mk · _) truthChain
      refine ⟨?_, fun _ => runs⟩
      rw [← truth_chainRun, runs, truth_chainRun]

theorem IsSealed.isOpaque (tight : condition.IsSealed)
    (predicates : ∀ leaf ∈ condition.leaves, leaf.IsPredicate) : condition.IsOpaque :=
  fun _ _ _ _ _ truth _ _ reads => (reads.run_eq predicates tight truth).1

theorem reads_units {f : Atom → β} (inverse : ∀ a, atom (f a) = a) (condition : Condition) :
    condition.Reads atom (condition.units fun leaf => relabel f leaf.units)
      (condition.units fun leaf => asUnit .and (relabel f leaf.units)) := by
  induction condition with
  | empty => exact .empty
  | leaf l =>
    refine .leaf ?_
    rw [units, relabel_relabel]
    simp only [inverse, relabel_id]
  | group operand ih => exact .group ih
  | join chain connective operand ihChain ihOperand => exact .join ihChain ihOperand

theorem forall_atoms_units {α : Type} {holds : α → Prop}
    {read : Leaf → List (Connective × Formula α)}
    (each : ∀ leaf, ∀ a ∈ chainAtoms (read leaf), holds a) :
    ∀ unit ∈ condition.units read, ∀ a ∈ unit.2.atoms, holds a := by
  intro unit member a listed
  have found : a ∈ chainAtoms (condition.units read) := List.mem_flatMap.2 ⟨unit, member, listed⟩
  rw [chainAtoms_units] at found
  obtain ⟨leaf, _, found⟩ := List.mem_flatMap.1 found
  exact each leaf a found

theorem exists_reads_mark (c : Bool)
    (predicates : ∀ leaf ∈ condition.leaves, leaf.IsPredicate) :
    ∃ flat whole, condition.Reads Prod.snd flat whole ∧
      flat = mark c (condition.units Leaf.units) ∧
      (condition.leaves ≠ [] → chainTruth Prod.fst flat = c ∧ chainTruth Prod.fst whole = c) := by
  have reads := @reads_units (Bool × Atom) Prod.snd (fun a => (c, a)) (fun _ => rfl) condition
  have nonempty := reads.spoken predicates
  have marked (leaf : Leaf) : ∀ a ∈ chainAtoms (mark c leaf.units), a.1 = c := by
    intro a found
    obtain ⟨unit, member, listed⟩ := List.mem_flatMap.1 found
    exact fst_of_mem_mark member a listed
  refine ⟨_, _, reads, units_map _ _ _, fun spoken => ⟨?_, ?_⟩⟩
  · exact chainTruth_eq_of_atoms (mt nonempty.1.1 spoken) (forall_atoms_units marked)
  · refine chainTruth_eq_of_atoms (mt nonempty.2.1 spoken) (forall_atoms_units fun leaf => ?_)
    rw [chainAtoms_asUnit]
    exact marked leaf

/-- Atoms can be true and false so that only the last alternative of a condition holds. -/
theorem exists_reads_last (predicates : ∀ leaf ∈ condition.leaves, leaf.IsPredicate)
    (spoken : condition.leaves ≠ []) :
    ∃ flat whole, condition.Reads Prod.snd flat whole ∧
      chainRun (Prod.fst : Bool × Atom → Bool) whole = ⟨false, true⟩ := by
  induction condition with
  | empty => contradiction
  | leaf l =>
    obtain ⟨flat, whole, reads, _, marked⟩ := exists_reads_mark true predicates
    refine ⟨flat, whole, reads, ?_⟩
    cases reads with
    | leaf same =>
      have holds := (marked spoken).1
      rw [chainRun_asUnit, holds]
      rfl
  | group operand _ =>
    obtain ⟨flat, whole, inside, _, marked⟩ := @exists_reads_mark operand true predicates
    refine ⟨_, _, .group inside, ?_⟩
    rw [chainRun_asUnit, (marked spoken).2]
    rfl
  | join chain connective operand ihChain _ =>
    obtain ⟨predicatesChain, predicatesOperand⟩ := List.forall_mem_append.1 predicates
    obtain ⟨flat', whole', right, _, holds⟩ := exists_reads_mark true predicatesOperand
    have nonempty' := (right.spoken predicatesOperand).2
    by_cases begun : chain.leaves = []
    · obtain ⟨flat, whole, left, _⟩ := exists_reads_mark true predicatesChain
      refine ⟨_, _, .join left right, ?_⟩
      have speaks : operand.leaves ≠ [] := fun silent => spoken (by rw [leaves, begun, silent]; rfl)
      rw [(left.spoken predicatesChain).2.2 begun, joinUnits, chainRun_asUnit, (holds speaks).2]
      rfl
    · by_cases silent : operand.leaves = []
      · obtain ⟨flat, whole, left, last⟩ := ihChain predicatesChain begun
        refine ⟨_, _, .join left right, ?_⟩
        rw [nonempty'.2 silent, joinUnits_nil, last]
      · cases connective with
        | and =>
          obtain ⟨flat, whole, left, last⟩ := ihChain predicatesChain begun
          refine ⟨_, _, .join left right, ?_⟩
          have tied := mt (left.spoken predicatesChain).2.1 begun
          rw [chainRun_joinUnits _ _ (mt nonempty'.1 silent) tied, last, (holds silent).2]
          rfl
        | or =>
          obtain ⟨flat, whole, left, _, fails⟩ := exists_reads_mark false predicatesChain
          refine ⟨_, _, .join left right, ?_⟩
          have tied := mt (left.spoken predicatesChain).2.1 begun
          have none := (truth_chainRun _ _).trans (fails begun).2
          rw [chainRun_joinUnits _ _ (mt nonempty'.1 silent) tied, (holds silent).2]
          exact congrArg (Run.mk · true) none

theorem Reads.of_bare {head : Leaf} (reads : condition.Reads atom flat whole)
    (predicates : ∀ leaf ∈ condition.leaves, leaf.IsPredicate) (bare : condition.bare? = some head) :
    relabel atom flat = head.units ∧ whole = asUnit .and flat := by
  induction reads with
  | leaf same =>
    cases bare
    exact ⟨same, rfl⟩
  | @join chain operand _ _ _ _ _ _ right ihChain _ =>
    obtain ⟨predicatesChain, predicatesOperand⟩ := List.forall_mem_append.1 predicates
    unfold bare? at bare
    split at bare
    · next silent =>
      have none := right.spoken predicatesOperand
      rw [List.isEmpty_iff] at silent
      rw [none.1.2 silent, none.2.2 silent, joinUnits_nil, joinUnits_nil]
      exact ihChain predicatesChain bare
    · contradiction
  | _ => contradiction

/-- What is not opaque: there is a reading for which the compiled text holds and the condition, with
each leaf as one operand, does not. -/
def IsTorn (condition : Condition) : Prop :=
  ∃ flat whole, condition.Reads Prod.snd flat whole ∧
    chainTruth (Prod.fst : Bool × Atom → Bool) flat = true ∧
    chainTruth (Prod.fst : Bool × Atom → Bool) whole = false

/-- An operand tied by `AND` to a bare leaf with alternatives tears them apart: the first alternative
holds where the leaf does, and the operand does not. -/
theorem isTorn_of_bare {chain operand : Condition} {head : Leaf}
    (predicatesChain : ∀ leaf ∈ chain.leaves, leaf.IsPredicate)
    (predicatesOperand : ∀ leaf ∈ operand.leaves, leaf.IsPredicate) (bare : chain.bare? = some head)
    (several : head.hasAlternatives) (speaks : operand.leaves ≠ []) :
    (join chain .and operand).IsTorn := by
  obtain ⟨flat, whole, left, rfl, holds⟩ := exists_reads_mark true predicatesChain
  obtain ⟨flat', whole', right, rfl, fails⟩ := exists_reads_mark false predicatesOperand
  obtain ⟨units, rfl⟩ := left.of_bare predicatesChain bare
  rw [relabel_mark] at units
  obtain ⟨unit, member, tie⟩ := List.any_eq_true.1 several
  rw [← units] at member
  have spoken : operand.units Leaf.units ≠ [] := by
    intro none
    exact speaks ((right.spoken predicatesOperand).1.1 (by rw [none]; rfl))
  refine ⟨_, _, .join left right, ?_, ?_⟩
  · exact chainTruth_joinUnits_mark spoken member (by simpa using tie)
  · have tied : chain.units Leaf.units ≠ [] := by
      rintro none
      rw [none] at member
      contradiction
    have begun : mark true (chain.units Leaf.units) ≠ [] := by simpa [mark, relabel] using tied
    rw [chainTruth_join _ _ (mt (right.spoken predicatesOperand).2.1 speaks)
      (mt asUnit_eq_nil.1 begun), chainRun_asUnit, (fails speaks).2]
    exact Bool.and_false _

theorem Reads.ne_nil_of_fails (reads : condition.Reads atom flat whole)
    (predicates : ∀ leaf ∈ condition.leaves, leaf.IsPredicate) {truth : β → Bool}
    (fails : chainTruth truth whole = false) : condition.leaves ≠ [] := by
  intro silent
  rw [(reads.spoken predicates).2.2 silent] at fails
  contradiction

/-- A torn chain stays torn, whatever comes behind it: an operand can be neutral. -/
theorem IsTorn.join_left {chain operand : Condition} (torn : chain.IsTorn)
    (predicatesChain : ∀ leaf ∈ chain.leaves, leaf.IsPredicate)
    (predicatesOperand : ∀ leaf ∈ operand.leaves, leaf.IsPredicate) (connective : Connective) :
    (join chain connective operand).IsTorn := by
  obtain ⟨flat, whole, left, holds, fails⟩ := torn
  obtain ⟨flat', whole', right, _, neutral⟩ :=
    exists_reads_mark (decide (connective = .and)) predicatesOperand
  have begun := left.ne_nil_of_fails predicatesChain fails
  have nonempty := left.spoken predicatesChain
  have nonempty' := right.spoken predicatesOperand
  refine ⟨_, _, .join left right, ?_⟩
  by_cases silent : operand.leaves = []
  · rw [nonempty'.1.2 silent, nonempty'.2.2 silent, joinUnits_nil, joinUnits_nil]
    exact ⟨holds, fails⟩
  · have same (run : Run Bool) :
        (run.add connective (decide (connective = .and))).truth = run.truth := by
      obtain ⟨earlier, last⟩ := run
      cases connective <;> cases earlier <;> cases last <;> rfl
    rw [chainTruth_join _ _ (mt nonempty'.1.1 silent) (mt nonempty.1.1 begun),
      chainTruth_join _ _ (mt nonempty'.2.1 silent) (mt nonempty.2.1 begun), (neutral silent).1,
      (neutral silent).2, same, same, truth_chainRun, truth_chainRun]
    exact ⟨holds, fails⟩

/-- A torn operand tears the whole, since the chain in front of it can be neutral. -/
theorem IsTorn.join_right {chain operand : Condition} (torn : operand.IsTorn)
    (predicatesChain : ∀ leaf ∈ chain.leaves, leaf.IsPredicate)
    (predicatesOperand : ∀ leaf ∈ operand.leaves, leaf.IsPredicate) (tight : chain.IsSealed)
    (connective : Connective) : (join chain connective operand).IsTorn := by
  obtain ⟨flat', whole', right, holds, fails⟩ := torn
  have speaks := right.ne_nil_of_fails predicatesOperand fails
  have nonempty' := right.spoken predicatesOperand
  by_cases begun : chain.leaves = []
  · obtain ⟨flat, whole, left, _⟩ := exists_reads_mark true predicatesChain
    have silent := left.spoken predicatesChain
    refine ⟨_, _, .join left right, ?_⟩
    rw [silent.1.2 begun, silent.2.2 begun, joinUnits, joinUnits, chainTruth_asUnit,
      chainTruth_asUnit]
    exact ⟨holds, fails⟩
  · -- with a chain that says what the operand says, the operand decides
    have decides {flat whole : List (Connective × Formula (Bool × Atom))}
        (left : chain.Reads Prod.snd flat whole)
        (neutral : ∀ value, ((chainRun Prod.fst flat).add connective value).truth = value)
        (neutral' : ∀ value, ((chainRun Prod.fst whole).add connective value).truth = value) :
        (join chain connective operand).IsTorn := by
      have nonempty := left.spoken predicatesChain
      refine ⟨_, _, .join left right, ?_⟩
      rw [chainTruth_join _ _ (mt nonempty'.1.1 speaks) (mt nonempty.1.1 begun),
        chainTruth_join _ _ (mt nonempty'.2.1 speaks) (mt nonempty.2.1 begun), neutral, neutral']
      exact ⟨holds, fails⟩
    cases connective with
    | or =>
      obtain ⟨flat, whole, left, _, silent⟩ := exists_reads_mark false predicatesChain
      have none (units : List (Connective × Formula (Bool × Atom)))
          (quiet : chainTruth Prod.fst units = false) (value : Bool) :
          ((chainRun Prod.fst units).add .or value).truth = value := by
        rw [← truth_chainRun] at quiet
        exact (congrArg (· ⊔ value) quiet).trans (bot_sup_eq value)
      exact decides left (none _ (silent begun).1) (none _ (silent begun).2)
    | and =>
      by_cases calm : ∀ head ∈ chain.bare?, head.hasAlternatives = false
      · obtain ⟨flat, whole, left, last⟩ := exists_reads_last predicatesChain begun
        have runs := (left.run_eq predicatesChain tight Prod.fst).2 calm
        have only (value : Bool) :
            ((⟨false, true⟩ : Run Bool).add .and value).truth = value := by
          cases value <;> rfl
        exact decides left (by rw [runs, last]; exact only) (by rw [last]; exact only)
      · simp only [not_forall, Bool.not_eq_false] at calm
        obtain ⟨head, bare, several⟩ := calm
        exact isTorn_of_bare predicatesChain predicatesOperand bare several speaks

theorem isTorn_of_not_isSealed (predicates : ∀ leaf ∈ condition.leaves, leaf.IsPredicate)
    (loose : ¬condition.IsSealed) : condition.IsTorn := by
  induction condition with
  | empty => exact absurd trivial loose
  | leaf l => exact absurd trivial loose
  | group operand ih =>
    obtain ⟨flat, whole, inside, holds, fails⟩ := ih predicates loose
    refine ⟨_, _, .group inside, ?_, ?_⟩
    · rw [chainTruth_asUnit, holds]
    · rw [chainTruth_asUnit, fails]
  | join chain connective operand ihChain ihOperand =>
    obtain ⟨predicatesChain, predicatesOperand⟩ := List.forall_mem_append.1 predicates
    by_cases tightChain : chain.IsSealed
    · by_cases tightOperand : operand.IsSealed
      · simp only [IsSealed, tightChain, tightOperand, true_and, not_forall,
          Bool.not_eq_false] at loose
        obtain ⟨rfl, speaks, head, bare, several⟩ := loose
        exact isTorn_of_bare predicatesChain predicatesOperand bare several speaks
      · exact (ihOperand predicatesOperand tightOperand).join_right predicatesChain
          predicatesOperand tightChain connective
    · exact (ihChain predicatesChain tightChain).join_left predicatesChain predicatesOperand
        connective

theorem isOpaque_iff (predicates : ∀ leaf ∈ condition.leaves, leaf.IsPredicate) :
    condition.IsOpaque ↔ condition.IsSealed := by
  refine ⟨fun same => ?_, fun tight => tight.isOpaque predicates⟩
  by_contra loose
  obtain ⟨flat, whole, reads, holds, fails⟩ := isTorn_of_not_isSealed predicates loose
  rw [same _ _ _ _ _ _ reads, fails] at holds
  contradiction

/-- The text of a condition is read unit by unit, and its meaning is that of the leaves as one
operand each. -/
theorem exists_reads_compile (predicates : ∀ leaf ∈ condition.leaves, leaf.IsPredicate) :
    ∃ flat whole, condition.Reads id flat whole ∧
      parse? condition.compile.sql = Formula.ofChain? flat ∧
      ∀ (τ : Type) [Lattice τ] [BoundedOrder τ] (truth : Atom → τ),
        (Formula.ofChain? whole).map (Formula.eval truth) =
          condition.meaning? fun leaf => leaf.formula.eval truth := by
  have reads := @reads_units Atom id (fun a => a) (fun _ => rfl) condition
  simp only [relabel_id] at reads
  refine ⟨_, _, reads, ?_, fun τ _ _ truth => ?_⟩
  · rw [parse?, units?_compile fun leaf member => (predicates leaf member).isWellFormed]
    rfl
  · rw [meaning?_units, units_congr fun leaf member => (predicates leaf member).asUnit_units]

/-- A condition keeps its meaning, with each raw fragment as one operand, if no operand is tied by
`AND` to a raw fragment with alternatives that begins a chain. Unless it is so, the text and the
condition differ for some meaning of the occurrences of atoms. -/
theorem raw_fragments_opaque_iff (predicates : ∀ leaf ∈ condition.leaves, leaf.IsPredicate) :
    (∃ flat whole, condition.Reads id flat whole ∧
      parse? condition.compile.sql = Formula.ofChain? flat ∧
      ∀ (τ : Type) [Lattice τ] [BoundedOrder τ] (truth : Atom → τ),
        (Formula.ofChain? whole).map (Formula.eval truth) =
          condition.meaning? fun leaf => leaf.formula.eval truth) ∧
    (condition.IsSealed → ∀ (τ : Type) [Lattice τ] [BoundedOrder τ] (truth : Atom → τ),
      (parse? condition.compile.sql).map (Formula.eval truth) =
        condition.meaning? fun leaf => leaf.formula.eval truth) ∧
    (condition.IsOpaque ↔ condition.IsSealed) := by
  obtain ⟨flat, whole, reads, parsed, meant⟩ := exists_reads_compile predicates
  refine ⟨⟨flat, whole, reads, parsed, meant⟩, fun tight τ _ _ truth => ?_,
    isOpaque_iff predicates⟩
  rw [parsed, ← meant]
  by_cases silent : condition.leaves = []
  · rw [(reads.spoken predicates).1.2 silent, (reads.spoken predicates).2.2 silent]
  · have same := (reads.run_eq predicates tight truth).1
    obtain ⟨_, _, rfl⟩ := List.exists_cons_of_ne_nil (mt (reads.spoken predicates).1.1 silent)
    obtain ⟨_, _, rfl⟩ := List.exists_cons_of_ne_nil (mt (reads.spoken predicates).2.1 silent)
    exact congrArg some same

/-- A raw fragment with alternatives that an alternative follows, and then an operand of `AND`. -/
def tied : Condition :=
  ((raw "p OR q" []).or (eq "a" (.int 1))).and (raw "r OR s" [])

theorem raw_fragments_opaque_iff_of_tied :
    (∀ leaf ∈ tied.leaves, leaf.IsPredicate) ∧ tied.IsSealed ∧
    tied.compile.sql = "p OR q OR a = ? AND (r OR s)" ∧
    ∀ (τ : Type) [Lattice τ] [BoundedOrder τ] (truth : Atom → τ),
      (parse? tied.compile.sql).map (Formula.eval truth) =
        tied.meaning? fun leaf => leaf.formula.eval truth := by
  have predicates : ∀ leaf ∈ tied.leaves, leaf.IsPredicate := by
    intro leaf member
    have listed : leaf ∈ [Leaf.raw "p OR q" [], .compare "a" .eq (.int 1), .raw "r OR s" []] := member
    simp only [List.mem_cons, List.not_mem_nil, or_false] at listed
    rcases listed with rfl | rfl | rfl <;> exact rfl
  have tight : tied.IsSealed :=
    ⟨⟨trivial, trivial, nofun⟩, trivial, fun _ _ _ => nofun⟩
  exact ⟨predicates, tight, rfl, (raw_fragments_opaque_iff predicates).2.1 tight⟩

/-- A raw fragment with alternatives that receives an operand of `AND`. -/
def torn : Condition := (raw "p OR q" []).and (raw "r" [])

/-- The fragment is no unit there: the text holds where `p` does and `r` does not. -/
theorem raw_receiver_is_torn :
    (∀ leaf ∈ torn.leaves, leaf.IsPredicate) ∧ torn.compile.sql = "p OR q AND (r)" ∧
    ∃ truth : Atom → Bool,
      (parse? torn.compile.sql).map (Formula.eval truth) = some true ∧
      torn.meaning? (fun leaf => leaf.formula.eval truth) = some false := by
  have predicates : ∀ leaf ∈ torn.leaves, leaf.IsPredicate := by
    intro leaf member
    have listed : leaf ∈ [Leaf.raw "p OR q" [], .raw "r" []] := member
    simp only [List.mem_cons, List.not_mem_nil, or_false] at listed
    rcases listed with rfl | rfl <;> exact rfl
  refine ⟨predicates, rfl, fun atom => atom = [.word "p".toList], ?_⟩
  decide +kernel

end Condition

end DataAccess
