import DataAccess.Proofs.Sql.Formula

/-! Alternatives: the runs of operands between the `OR`s of a chain. A chain holds if all of some
alternative holds. -/
namespace DataAccess

variable {α τ : Type}

/-- Add an operand to the alternatives of a chain: `AND` adds it to the last one and `OR` begins
another. -/
def addOperand (connective : Connective) (operand : τ) : List (List τ) → List (List τ)
  | [] => [[operand]]
  | [last] =>
    match connective with
    | .and => [last ++ [operand]]
    | .or => [last, [operand]]
  | first :: rest => first :: addOperand connective operand rest

def allOf [Lattice τ] [BoundedOrder τ] (truths : List τ) : τ := truths.foldr (· ⊓ ·) ⊤

/-- Some alternative holds, all of it. -/
def anyOf [Lattice τ] [BoundedOrder τ] (alternatives : List (List τ)) : τ :=
  (alternatives.map allOf).foldr (· ⊔ ·) ⊥

/-- Some alternative holds; nothing is said by no alternative. -/
def someOf? [Lattice τ] [BoundedOrder τ] (alternatives : List (List τ)) : Option τ :=
  if alternatives.isEmpty then none else some (anyOf alternatives)

theorem allOf_append [Lattice τ] [BoundedOrder τ] (truths : List τ) (truth : τ) :
    allOf (truths ++ [truth]) = allOf truths ⊓ truth := by
  induction truths with
  | nil => simp [allOf]
  | cons first rest ih =>
    simp only [allOf, List.cons_append, List.foldr_cons] at ih ⊢
    rw [ih, inf_assoc]

theorem allOf_eq_top [Lattice τ] [BoundedOrder τ] {truths : List τ}
    (all : ∀ truth ∈ truths, truth = ⊤) : allOf truths = ⊤ := by
  induction truths with
  | nil => rfl
  | cons first rest ih =>
    obtain ⟨here, later⟩ := List.forall_mem_cons.1 all
    rw [allOf, List.foldr_cons, here, top_inf_eq]
    exact ih later

theorem le_allOf_iff [Lattice τ] [BoundedOrder τ] {value : τ} {truths : List τ} :
    value ≤ allOf truths ↔ ∀ truth ∈ truths, value ≤ truth := by
  induction truths with
  | nil => simp [allOf]
  | cons first rest ih =>
    rw [List.forall_mem_cons, ← ih]
    exact le_inf_iff

namespace Formula

theorem eval_conjunction [Lattice τ] [BoundedOrder τ] (truth : α → τ)
    (formulas : List (Formula α)) :
    ((conjunction? formulas).map (eval truth)).getD ⊤ = allOf (formulas.map (eval truth)) := by
  cases formulas with
  | nil => rfl
  | cons first rest =>
    have run (last : Formula α) : (chain last (rest.map fun formula => (.and, formula))).eval truth =
        last.eval truth ⊓ allOf (rest.map (eval truth)) := by
      induction rest generalizing last with
      | nil => simp [chain, allOf]
      | cons next rest ih =>
        rw [List.map_cons, chain, ih, eval, inf_assoc]
        rfl
    exact run first

theorem eval_disjunction [Lattice τ] [BoundedOrder τ] (truth : α → τ)
    (formulas : List (Formula α)) :
    ((disjunction? formulas).map (eval truth)).getD ⊥ =
      (formulas.map (eval truth)).foldr (· ⊔ ·) ⊥ := by
  cases formulas with
  | nil => rfl
  | cons first rest =>
    have run (last : Formula α) : (chain last (rest.map fun formula => (.or, formula))).eval truth =
        last.eval truth ⊔ (rest.map (eval truth)).foldr (· ⊔ ·) ⊥ := by
      induction rest generalizing last with
      | nil => simp [chain]
      | cons next rest ih =>
        rw [List.map_cons, chain, eval, ih]
        rfl
    exact run first

end Formula

theorem addOperand_cons (connective : Connective) (operand : τ) (first : List τ)
    {rest : List (List τ)} (more : rest ≠ []) :
    addOperand connective operand (first :: rest) =
      first :: addOperand connective operand rest := by
  obtain ⟨second, rest, rfl⟩ := List.exists_cons_of_ne_nil more
  rfl

theorem addOperand_ne_nil (connective : Connective) (operand : τ) (alternatives : List (List τ)) :
    addOperand connective operand alternatives ≠ [] := by
  unfold addOperand
  split
  · exact List.cons_ne_nil _ _
  · cases connective <;> exact List.cons_ne_nil _ _
  · exact List.cons_ne_nil _ _

def alternatives (units : List (Connective × τ)) : List (List τ) :=
  units.foldl (fun alternatives unit => addOperand unit.1 unit.2 alternatives) []

theorem alternatives_concat (units : List (Connective × τ)) (connective : Connective)
    (operand : τ) :
    alternatives (units ++ [(connective, operand)]) =
      addOperand connective operand (alternatives units) := by
  simp [alternatives]

theorem foldl_addOperand_cons (units : List (Connective × τ)) (first : List τ)
    {rest : List (List τ)} (more : rest ≠ []) :
    units.foldl (fun alternatives unit => addOperand unit.1 unit.2 alternatives) (first :: rest) =
      first ::
        units.foldl (fun alternatives unit => addOperand unit.1 unit.2 alternatives) rest := by
  induction units generalizing rest with
  | nil => rfl
  | cons unit units ih =>
    rw [List.foldl_cons, addOperand_cons _ _ _ more, List.foldl_cons]
    exact ih (addOperand_ne_nil _ _ _)

/-- The formula of a chain holds as its alternatives say. -/
theorem someOf?_foldl [Lattice τ] [BoundedOrder τ] (truth : α → τ) (first : Formula α)
    (rest : List (Connective × Formula α)) {last : List τ} (same : allOf last = first.eval truth) :
    someOf? ((rest.map fun unit => (unit.1, unit.2.eval truth)).foldl
        (fun alternatives unit => addOperand unit.1 unit.2 alternatives) [last]) =
      some ((Formula.chain first rest).eval truth) := by
  induction rest generalizing first last with
  | nil => simp [someOf?, anyOf, Formula.chain, same]
  | cons unit rest ih =>
    obtain ⟨connective, next⟩ := unit
    cases connective with
    | and =>
      have joined : allOf (last ++ [next.eval truth]) = (Formula.and first next).eval truth := by
        rw [allOf_append, same, Formula.eval]
      exact ih (Formula.and first next) joined
    | or =>
      have alone : allOf [next.eval truth] = next.eval truth := by simp [allOf]
      have later := ih next alone
      simp only [List.map_cons, List.foldl_cons]
      rw [show addOperand Connective.or (next.eval truth) [last] =
          [last, [next.eval truth]] from rfl,
        foldl_addOperand_cons _ _ (List.cons_ne_nil _ _)]
      unfold someOf? anyOf at later ⊢
      split at later
      · contradiction
      · simp only [Option.some.injEq] at later
        simp [Formula.chain, Formula.eval, later, same]

theorem someOf?_alternatives [Lattice τ] [BoundedOrder τ] (truth : α → τ)
    (units : List (Connective × Formula α)) :
    someOf? (alternatives (units.map fun unit => (unit.1, unit.2.eval truth))) =
      (Formula.ofChain? units).map (Formula.eval truth) := by
  cases units with
  | nil => rfl
  | cons unit rest =>
    refine someOf?_foldl truth unit.2 rest ?_
    simp [allOf]

theorem anyOf_concat [Lattice τ] [BoundedOrder τ] (earlier : List (List τ)) (last : List τ) :
    anyOf (earlier ++ [last]) = anyOf earlier ⊔ allOf last := by
  induction earlier with
  | nil => simp [anyOf]
  | cons first rest ih =>
    simp only [anyOf, List.cons_append, List.map_cons, List.foldr_cons] at ih ⊢
    rw [ih, sup_assoc]

theorem anyOf_le_iff [Lattice τ] [BoundedOrder τ] {alternatives : List (List τ)} {value : τ} :
    anyOf alternatives ≤ value ↔ ∀ alternative ∈ alternatives, allOf alternative ≤ value := by
  induction alternatives with
  | nil => simp [anyOf]
  | cons first rest ih =>
    simp only [anyOf, List.map_cons, List.foldr_cons, sup_le_iff, List.forall_mem_cons] at ih ⊢
    rw [ih]

theorem addOperand_and (operand : τ) (earlier : List (List τ)) (last : List τ) :
    addOperand .and operand (earlier ++ [last]) = earlier ++ [last ++ [operand]] := by
  induction earlier with
  | nil => rfl
  | cons first rest ih =>
    rw [List.cons_append,
      addOperand_cons _ _ _ (List.append_ne_nil_of_right_ne_nil _ (by simp)), ih]
    rfl

theorem length_addOperand (connective : Connective) (operand : τ) {alternatives : List (List τ)}
    (more : alternatives ≠ []) :
    (addOperand connective operand alternatives).length =
      alternatives.length + if connective = .or then 1 else 0 := by
  induction alternatives with
  | nil => contradiction
  | cons first rest ih =>
    cases rest with
    | nil => cases connective <;> rfl
    | cons second rest =>
      rw [addOperand_cons _ _ _ (List.cons_ne_nil _ _), List.length_cons, ih (List.cons_ne_nil _ _)]
      simp only [List.length_cons]
      omega

theorem length_alternatives (unit : Connective × τ) (rest : List (Connective × τ)) :
    (alternatives (unit :: rest)).length = rest.countP (·.1 = .or) + 1 := by
  have later (units : List (Connective × τ)) {begun : List (List τ)} (more : begun ≠ []) :
      (units.foldl (fun alternatives unit => addOperand unit.1 unit.2 alternatives) begun).length =
        begun.length + units.countP (·.1 = .or) := by
    induction units generalizing begun with
    | nil => rfl
    | cons unit units ih =>
      rw [List.foldl_cons, ih (addOperand_ne_nil _ _ _), length_addOperand _ _ more,
        List.countP_cons]
      simp only [decide_eq_true_eq]
      omega
  have begun := later rest (addOperand_ne_nil unit.1 unit.2 [])
  rw [alternatives, List.foldl_cons, begun, Nat.add_comm]
  rfl

section Truth

variable [Lattice τ] (truth : α → τ)

def chainAlternatives (units : List (Connective × Formula α)) : List (List τ) :=
  alternatives (units.map fun unit => (unit.1, unit.2.eval truth))

theorem length_chainAlternatives (unit : Connective × Formula α)
    (rest : List (Connective × Formula α)) :
    (chainAlternatives truth (unit :: rest)).length = rest.countP (·.1 = .or) + 1 := by
  rw [chainAlternatives, List.map_cons, length_alternatives, List.countP_map]
  rfl

variable [BoundedOrder τ]

/-- The truth of a chain; one without operands says nothing and holds. -/
def chainTruth (units : List (Connective × Formula α)) : τ :=
  ((Formula.ofChain? units).map (Formula.eval truth)).getD ⊤

theorem chainTruth_eq {units : List (Connective × Formula α)} (spoken : units ≠ []) :
    chainTruth truth units = anyOf (chainAlternatives truth units) := by
  have same := someOf?_alternatives truth units
  obtain ⟨unit, rest, rfl⟩ := List.exists_cons_of_ne_nil spoken
  unfold someOf? at same
  split at same
  · contradiction
  · rw [chainTruth, ← same]
    rfl

theorem chainTruth_asUnit (connective : Connective) (units : List (Connective × Formula α)) :
    chainTruth truth (asUnit connective units) = chainTruth truth units := by
  cases units <;> rfl

/-- An operand tied by `AND` adds to the last alternative. -/
theorem chainTruth_joinUnits {operand chain : List (Connective × Formula α)}
    (spoken : operand ≠ []) (tied : chain ≠ []) :
    ∃ last,
      chainTruth truth chain = anyOf (chainAlternatives truth chain).dropLast ⊔ last ∧
      chainTruth truth (joinUnits .and operand chain) =
        anyOf (chainAlternatives truth chain).dropLast ⊔ (last ⊓ chainTruth truth operand) := by
  have begun : chainAlternatives truth chain ≠ [] := by
    obtain ⟨unit, rest, rfl⟩ := List.exists_cons_of_ne_nil tied
    rw [← List.length_pos_iff, length_chainAlternatives]
    omega
  have whole := List.dropLast_concat_getLast begun
  obtain ⟨formula, read⟩ : ∃ formula, Formula.ofChain? operand = some formula :=
    Option.ne_none_iff_exists'.1 (mt Formula.ofChain?_eq_none.1 spoken)
  refine ⟨allOf ((chainAlternatives truth chain).getLast begun), ?_, ?_⟩
  · rw [chainTruth_eq truth tied, ← anyOf_concat, whole]
  · have joined : chainAlternatives truth (joinUnits .and operand chain) =
        (chainAlternatives truth chain).dropLast ++
          [(chainAlternatives truth chain).getLast begun ++ [formula.eval truth]] := by
      rw [← addOperand_and, whole, chainAlternatives, joinUnits_of_ne_nil tied, asUnit, read]
      simp only [Option.map_some, Option.toList_some, List.map_append, List.map_cons, List.map_nil,
        alternatives_concat]
      rfl
    have spokenJoin : joinUnits .and operand chain ≠ [] := by
      rw [joinUnits_of_ne_nil tied]
      exact List.append_ne_nil_of_left_ne_nil tied _
    rw [chainTruth_eq truth spokenJoin, joined, anyOf_concat, allOf_append]
    simp [chainTruth, read]

theorem chainTruth_joinUnits_le (operand chain : List (Connective × Formula α)) :
    chainTruth truth (joinUnits .and operand chain) ≤ chainTruth truth chain := by
  by_cases spoken : operand = []
  · rw [spoken, joinUnits_nil]
  · by_cases tied : chain = []
    · rw [tied]
      exact le_top
    · obtain ⟨last, alone, joined⟩ := chainTruth_joinUnits truth spoken tied
      rw [alone, joined]
      exact sup_le_sup_left inf_le_left _

end Truth

/-- An operand tied by `AND` restricts the whole chain exactly if every alternative but the last
implies it. -/
theorem chainTruth_joinUnits_iff [DistribLattice τ] [BoundedOrder τ] (truth : α → τ)
    (operand chain : List (Connective × Formula α)) :
    chainTruth truth (joinUnits .and operand chain) =
        chainTruth truth chain ⊓ chainTruth truth operand ↔
      ∀ alternative ∈ (chainAlternatives truth chain).dropLast,
        allOf alternative ≤ chainTruth truth operand := by
  have silent : chainTruth truth [] = (⊤ : τ) := rfl
  by_cases spoken : operand = []
  · rw [spoken, joinUnits_nil, silent]
    simp
  · by_cases tied : chain = []
    · rw [tied, silent, joinUnits, chainTruth_asUnit, top_inf_eq]
      simp [chainAlternatives, alternatives]
    · obtain ⟨last, alone, joined⟩ := chainTruth_joinUnits truth spoken tied
      rw [← anyOf_le_iff, alone, joined]
      constructor
      · intro same
        exact (same ▸ le_sup_left).trans inf_le_right
      · intro implied
        rw [inf_sup_right, inf_eq_left.2 implied]

theorem forall_mem_addOperand {holds : τ → Prop} {connective : Connective} {operand : τ}
    {alternatives : List (List τ)} (operandHolds : holds operand)
    (all : ∀ alternative ∈ alternatives, ∀ value ∈ alternative, holds value) :
    ∀ alternative ∈ addOperand connective operand alternatives, ∀ value ∈ alternative,
      holds value := by
  induction alternatives with
  | nil => simpa [addOperand] using operandHolds
  | cons first rest ih =>
    obtain ⟨firstHolds, restHolds⟩ := List.forall_mem_cons.1 all
    cases rest with
    | nil =>
      cases connective with
      | and =>
        simp only [addOperand, List.forall_mem_singleton, List.forall_mem_append]
        exact ⟨firstHolds, operandHolds⟩
      | or =>
        simp only [addOperand, List.forall_mem_cons]
        exact ⟨firstHolds, ⟨operandHolds, by simp⟩, by simp⟩
    | cons second rest =>
      rw [addOperand_cons _ _ _ (List.cons_ne_nil _ _)]
      exact List.forall_mem_cons.2 ⟨firstHolds, ih restHolds⟩

theorem forall_mem_alternatives {holds : τ → Prop} {units : List (Connective × τ)}
    (all : ∀ unit ∈ units, holds unit.2) :
    ∀ alternative ∈ alternatives units, ∀ value ∈ alternative, holds value := by
  unfold alternatives
  have begun : ∀ alternative ∈ ([] : List (List τ)), ∀ value ∈ alternative, holds value := by simp
  revert begun
  generalize ([] : List (List τ)) = begun
  induction units generalizing begun with
  | nil => exact id
  | cons unit rest ih =>
    obtain ⟨first, later⟩ := List.forall_mem_cons.1 all
    exact fun held => ih later _ (forall_mem_addOperand first held)

/-- The same chain with other atoms. -/
def relabel {β : Type} (f : α → β) (units : List (Connective × Formula α)) :
    List (Connective × Formula β) :=
  units.map fun unit => (unit.1, unit.2.map f)

theorem relabel_relabel {β γ : Type} (f : α → β) (g : β → γ)
    (units : List (Connective × Formula α)) :
    relabel g (relabel f units) = relabel (fun a => g (f a)) units := by
  simp [relabel, Formula.map_map]

theorem relabel_id (units : List (Connective × Formula α)) :
    relabel (fun a => a) units = units := by
  simp [relabel, Formula.map_id]

theorem chainTruth_eq_of_atoms [Lattice τ] [BoundedOrder τ] {truth : α → τ} {value : τ}
    {units : List (Connective × Formula α)} (spoken : units ≠ [])
    (same : ∀ unit ∈ units, ∀ a ∈ unit.2.atoms, truth a = value) :
    chainTruth truth units = value := by
  obtain ⟨formula, read⟩ : ∃ formula, Formula.ofChain? units = some formula :=
    Option.ne_none_iff_exists'.1 (mt Formula.ofChain?_eq_none.1 spoken)
  rw [chainTruth, read, Option.map_some, Option.getD_some]
  refine Formula.eval_eq_of_atoms fun a member => ?_
  rw [Formula.atoms_of_ofChain? read, List.mem_flatMap] at member
  obtain ⟨unit, listed, member⟩ := member
  exact same unit listed a member

/-- A chain all of whose atoms carry the same mark. -/
def mark (c : Bool) (units : List (Connective × Formula α)) :
    List (Connective × Formula (Bool × α)) :=
  relabel (fun a => (c, a)) units

theorem relabel_mark (c : Bool) (units : List (Connective × Formula α)) :
    relabel Prod.snd (mark c units) = units := by
  rw [mark, relabel_relabel, relabel_id]

theorem fst_of_mem_mark {c : Bool} {units : List (Connective × Formula α)}
    {unit : Connective × Formula (Bool × α)} (member : unit ∈ mark c units) :
    ∀ a ∈ unit.2.atoms, a.1 = c := by
  obtain ⟨original, _, rfl⟩ := List.mem_map.1 member
  intro a listed
  rw [Formula.atoms_map] at listed
  obtain ⟨_, _, rfl⟩ := List.mem_map.1 listed
  rfl

theorem chainTruth_mark (c : Bool) {units : List (Connective × Formula α)} (spoken : units ≠ []) :
    chainTruth Prod.fst (mark c units) = c :=
  chainTruth_eq_of_atoms (by simpa [mark, relabel] using spoken)
    fun _ member => fst_of_mem_mark member

theorem chainAlternatives_mark {c : Bool} {units : List (Connective × Formula α)} :
    ∀ alternative ∈ chainAlternatives Prod.fst (mark c units),
      ∀ value ∈ alternative, value = c := by
  refine forall_mem_alternatives fun valued member => ?_
  obtain ⟨unit, listed, rfl⟩ := List.mem_map.1 member
  exact Formula.eval_eq_of_atoms (fst_of_mem_mark listed)

/-- An operand tied to a chain by `AND` restricts the whole chain, however the occurrences of atoms
are told apart and whatever is true of them. -/
def Restricts (operand chain : List (Connective × Formula α)) : Prop :=
  ∀ (β τ : Type) [DistribLattice τ] [BoundedOrder τ] (atom : β → α) (truth : β → τ)
    (labelledOperand labelledChain : List (Connective × Formula β)),
    relabel atom labelledOperand = operand → relabel atom labelledChain = chain →
    chainTruth truth (joinUnits .and labelledOperand labelledChain) =
      chainTruth truth labelledChain ⊓ chainTruth truth labelledOperand

theorem restricts_of_ties {operand chain : List (Connective × Formula α)}
    (ties : ∀ unit ∈ chain.tail, unit.1 = .and) : Restricts operand chain := by
  rintro β τ _ _ atom truth labelledOperand labelledChain _ rfl
  refine (chainTruth_joinUnits_iff truth _ _).2 fun alternative member => ?_
  cases labelledChain with
  | nil => simp [chainAlternatives, alternatives] at member
  | cons unit rest =>
    have noOr : rest.countP (·.1 = .or) = 0 := by
      refine List.countP_eq_zero.2 fun other listed => ?_
      have tie := ties (other.1, other.2.map atom) (List.mem_map_of_mem listed)
      simp [show other.1 = .and from tie]
    have one := length_chainAlternatives truth unit rest
    rw [noOr] at one
    obtain ⟨only, whole⟩ := List.length_eq_one_iff.1 one
    simp [whole] at member

/-- A chain with `OR` all of whose atoms hold still holds with an operand tied to it by `AND` none of
whose atoms does: an alternative in front holds. -/
theorem chainTruth_joinUnits_mark {operand chain : List (Connective × Formula α)}
    (spoken : operand ≠ []) {unit : Connective × Formula α} (member : unit ∈ chain.tail)
    (tie : unit.1 = .or) :
    chainTruth Prod.fst (joinUnits .and (mark false operand) (mark true chain)) = true := by
  cases chain with
  | nil => contradiction
  | cons first rest =>
    by_contra fails
    have same : chainTruth Prod.fst (joinUnits .and (mark false operand) (mark true (first :: rest))) =
        chainTruth Prod.fst (mark true (first :: rest)) ⊓
          chainTruth Prod.fst (mark false operand) := by
      rw [chainTruth_mark false spoken, chainTruth_mark true (List.cons_ne_nil _ _)]
      exact Bool.eq_false_iff.2 fails
    rw [chainTruth_joinUnits_iff, chainTruth_mark false spoken] at same
    have length := length_chainAlternatives Prod.fst (first.1, first.2.map fun a => (true, a))
      (mark true rest)
    have more : 0 < (mark true rest).countP (·.1 = .or) :=
      List.countP_pos_iff.2 ⟨_, List.mem_map_of_mem member, by simpa using tie⟩
    have pending :
        0 < (chainAlternatives Prod.fst (mark true (first :: rest))).dropLast.length := by
      rw [List.length_dropLast]
      exact length ▸ more
    obtain ⟨alternative, listed⟩ := List.exists_mem_of_length_pos pending
    have holds : allOf alternative = true :=
      allOf_eq_top (chainAlternatives_mark alternative (List.dropLast_subset _ listed))
    exact absurd (holds ▸ same alternative listed) (by decide)

/-- A chain with `OR` is not restricted by an operand that says something. -/
theorem not_restricts_of_or {operand chain : List (Connective × Formula α)} (spoken : operand ≠ [])
    {unit : Connective × Formula α} (member : unit ∈ chain.tail) (tie : unit.1 = .or) :
    ¬Restricts operand chain := by
  intro restricts
  have same := restricts (Bool × α) Bool Prod.snd Prod.fst _ _ (relabel_mark false operand)
    (relabel_mark true chain)
  rw [chainTruth_joinUnits_mark spoken member tie, chainTruth_mark false spoken] at same
  exact absurd (same.trans (inf_bot_eq _)) (by decide)

/-- An operand restricts a chain exactly if it says nothing or the chain has no `OR`. -/
theorem restricts_iff {operand chain : List (Connective × Formula α)} :
    Restricts operand chain ↔ operand = [] ∨ ∀ unit ∈ chain.tail, unit.1 = .and := by
  constructor
  · intro restricts
    by_contra other
    simp only [not_or, not_forall] at other
    obtain ⟨spoken, ⟨connective, formula⟩, member, tie⟩ := other
    cases connective with
    | and => exact tie rfl
    | or => exact not_restricts_of_or spoken member rfl restricts
  · rintro (rfl | ties)
    · rintro β τ _ _ atom truth labelledOperand labelledChain sameOperand _
      obtain rfl : labelledOperand = [] := List.map_eq_nil_iff.1 sameOperand
      rw [joinUnits_nil]
      exact (inf_top_eq _).symm
    · exact restricts_of_ties ties

end DataAccess
