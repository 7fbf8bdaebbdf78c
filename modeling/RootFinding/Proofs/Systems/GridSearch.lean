import RootFinding.Proofs.Systems.Sampling
import RootFinding.Proofs.Systems.Squareness

/-!
# The search for a violation of the contraction condition

The contraction check walks over all combinations of grid points, and at each of them over the
functions of the system. A box is accepted exactly if the condition holds of every function at every
combination. Otherwise the violation that is reported is the first one: of the combinations with a
violation it is the one with the lexicographically smallest index, and of the functions that violate
the condition there it is the first (`contraction_check_is_exact`). Nothing is left out on the way,
and nothing is looked at twice: the same check, with notes taken of what it looks at, notes every
combination up to the violation once.

## Shape of the arguments

* The combinations are named by their indices, one number for each axis. `indices` lists them in
  increasing order (`pairwise_indices`), and the walk goes along this list (`gridPoints_eq`).
* In an increasing list the first entry with a result is the smallest one
  (`findSome?_eq_some_iff_of_pairwise`).
* `upToFirst` is what a search looks at. That the check looks at these combinations is one induction
  over a list, for any notes that are there already (`run_findSomeM?_noting`).
-/

namespace RootFinding.Systems

open Number

/-! ## Indices -/

section Indices

variable {α : Type} [Number α] {grids : List (Grid α)} {is : List Nat}

/-- An index of a combination: on each axis, the index of one of its points. -/
def IsIndex (grids : List (Grid α)) (is : List Nat) : Prop :=
  List.Forall₂ (fun i g => i < g.points.length) is grids

/-- The combination of points at an index. -/
def pointAt (grids : List (Grid α)) (is : List Nat) : Point α := List.zipWith Grid.point grids is

/-- All indices, the one on the last axis running fastest. -/
def indices : List (Grid α) → List (List Nat)
  | [] => [[]]
  | axis :: axes => (List.range axis.size).flatMap fun i => (indices axes).map (i :: ·)

theorem mem_indices : is ∈ indices grids ↔ IsIndex grids is := by
  induction grids generalizing is with
  | nil =>
    rw [indices, List.mem_singleton, IsIndex, List.forall₂_nil_right_iff]
  | cons axis axes ih =>
    rw [indices, List.mem_flatMap, IsIndex, List.forall₂_cons_right_iff]
    constructor
    · rintro ⟨i, hi, mem⟩
      obtain ⟨js, hjs, rfl⟩ := List.mem_map.1 mem
      exact ⟨i, js, axis.length_points ▸ List.mem_range.1 hi, ih.1 hjs, rfl⟩
    · rintro ⟨i, js, hi, hjs, rfl⟩
      exact ⟨i, List.mem_range.2 (axis.length_points ▸ hi), List.mem_map.2 ⟨js, ih.2 hjs, rfl⟩⟩

/-- The indices are in lexicographic order. -/
theorem pairwise_indices (grids : List (Grid α)) : (indices grids).Pairwise (· < ·) := by
  induction grids with
  | nil => exact List.pairwise_singleton _ _
  | cons axis axes ih =>
    rw [indices, List.pairwise_flatMap]
    constructor
    · intro i _
      rw [List.pairwise_map]
      exact ih.imp fun h => List.cons_lt_cons_iff.2 (.inr ⟨rfl, h⟩)
    · refine List.pairwise_lt_range.imp ?_
      intro i j hij x hx y hy
      obtain ⟨js, -, rfl⟩ := List.mem_map.1 hx
      obtain ⟨ks, -, rfl⟩ := List.mem_map.1 hy
      exact List.cons_lt_cons_iff.2 (.inl hij)

/-- The combinations are visited in the order of their indices. -/
theorem gridPoints_eq (grids : List (Grid α)) :
    gridPoints grids = (indices grids).map (pointAt grids) := by
  induction grids with
  | nil => rfl
  | cons axis axes ih =>
    rw [gridPoints, indices, Grid.points, ih, List.flatMap_map, List.map_flatMap]
    simp only [List.map_map]
    rfl

theorem length_pointAt (h : IsIndex grids is) : (pointAt grids is).length = grids.length := by
  rw [pointAt, List.length_zipWith, h.length_eq, min_self]

end Indices

/-! ## Searches in increasing lists -/

section Search

variable {β γ : Type}

/-- In an increasing list, the first entry with a result is the smallest one. -/
theorem findSome?_eq_some_iff_of_pairwise [LinearOrder γ] {xs : List γ}
    (increasing : xs.Pairwise (· < ·)) {f : γ → Option β} {b : β} :
    xs.findSome? f = some b ↔ ∃ x ∈ xs, f x = some b ∧ ∀ y ∈ xs, y < x → f y = none := by
  rw [List.findSome?_eq_some_iff]
  constructor
  · rintro ⟨before, x, after, rfl, found, nothing⟩
    refine ⟨x, List.mem_append_right _ List.mem_cons_self, found, ?_⟩
    intro y hy smaller
    have later := List.pairwise_cons.1 (List.pairwise_append.1 increasing).2.1
    rcases List.mem_append.1 hy with hy | hy
    · exact nothing y hy
    · rcases List.mem_cons.1 hy with rfl | hy
      · exact absurd smaller (lt_irrefl y)
      · exact absurd smaller (later.1 y hy).not_gt
  · rintro ⟨x, hx, found, nothing⟩
    obtain ⟨before, after, rfl⟩ := List.append_of_mem hx
    refine ⟨before, x, after, rfl, found, ?_⟩
    intro y hy
    exact nothing y (List.mem_append_left _ hy)
      ((List.pairwise_append.1 increasing).2.2 y hy x List.mem_cons_self)

/-- The entries up to the first one with a result, and that one. -/
def upToFirst (f : γ → Option β) : List γ → List γ
  | [] => []
  | x :: xs => x :: if (f x).isSome then [] else upToFirst f xs

/-- Notes an entry, behind the entries that are noted already. -/
def note (x : γ) : StateM (List γ) Unit := modify (· ++ [x])

/-- A search looks at each entry up to the first one with a result, once. -/
theorem run_findSomeM?_noting (f : γ → Option β) (xs seen : List γ) :
    (xs.findSomeM? fun x => do note x; return f x).run seen =
      (xs.findSome? f, seen ++ upToFirst f xs) := by
  induction xs generalizing seen with
  | nil => rw [upToFirst, List.append_nil]; rfl
  | cons x xs ih =>
    have noted : (do note x; return f x).run seen = (f x, seen ++ [x]) := rfl
    rw [List.findSomeM?_cons, List.findSome?_cons, upToFirst, StateT.run_bind, noted]
    cases f x with
    | some b => rfl
    | none =>
      refine (ih (seen ++ [x])).trans ?_
      rw [List.append_assoc]
      rfl

theorem upToFirst_sublist (f : γ → Option β) (xs : List γ) : (upToFirst f xs).Sublist xs := by
  induction xs with
  | nil => exact List.Sublist.slnil
  | cons x xs ih =>
    rw [upToFirst]
    split
    · exact (List.nil_sublist xs).cons_cons x
    · exact ih.cons_cons x

theorem upToFirst_map {δ : Type} (f : γ → Option β) (g : δ → γ) (xs : List δ) :
    upToFirst f (xs.map g) = (upToFirst (fun x => f (g x)) xs).map g := by
  induction xs with
  | nil => rfl
  | cons x xs ih =>
    rw [List.map_cons, upToFirst, upToFirst, List.map_cons]
    split
    · rfl
    · rw [ih]

/-- In an increasing list, these are the entries that no entry with a result is smaller than. -/
theorem mem_upToFirst [LinearOrder γ] {xs : List γ} (increasing : xs.Pairwise (· < ·))
    {f : γ → Option β} {y : γ} :
    y ∈ upToFirst f xs ↔ y ∈ xs ∧ ∀ x ∈ xs, (f x).isSome → y ≤ x := by
  induction xs with
  | nil => simp [upToFirst]
  | cons x xs ih =>
    obtain ⟨first, later⟩ := List.pairwise_cons.1 increasing
    rw [upToFirst, List.forall_mem_cons, List.mem_cons, List.mem_cons]
    by_cases found : (f x).isSome = true
    · rw [if_pos found]
      constructor
      · rintro (rfl | none)
        · exact ⟨.inl rfl, fun _ => le_rfl, fun z hz _ => (first z hz).le⟩
        · cases none
      · rintro ⟨rfl | hy, least, -⟩
        · exact .inl rfl
        · exact absurd (first y hy) (least found).not_gt
    · rw [if_neg found, ih later]
      constructor
      · rintro (rfl | ⟨hy, least⟩)
        · exact ⟨.inl rfl, fun _ => le_rfl, fun z hz _ => (first z hz).le⟩
        · exact ⟨.inr hy, fun impossible => absurd impossible found, least⟩
      · rintro ⟨rfl | hy, -, least⟩
        · exact .inl rfl
        · exact .inr ⟨hy, least⟩

end Search

/-! ## The search -/

section Condition

variable {f : VectorFunction Float} {p : Point Float} {sum : Float}

/-- The condition holds of a function at a point: the sum of the magnitudes of the partial
derivatives is a number, and at most one. -/
def IsContractiveAt (f : VectorFunction Float) (p : Point Float) : Prop :=
  ∃ sum, f.partialDerivativeNorm p = .ok sum ∧ sum.isNaN = false ∧ sum ≤ one

theorem isContractiveAt_iff (hsum : f.partialDerivativeNorm p = .ok sum) :
    IsContractiveAt f p ↔ sum ≤ one := by
  constructor
  · rintro ⟨sum', hsum', -, below⟩
    obtain rfl := Except.ok.inj (hsum.symm.trans hsum')
    exact below
  · intro below
    refine ⟨sum, hsum, eq_false_of_ne_true ?_, below⟩
    exact fun nan => (Double.not_le_iff_isNaN_or_lt rfl).2 (.inl nan) below

/-- The function of index `k` is the first one that violates the condition at a point, with this
sum. -/
structure IsFirstAt (functions : List (VectorFunction Float)) (p : Point Float) (k : Nat)
    (sum : Float) : Prop where
  here : ∃ f, functions[k]? = some f ∧ f.partialDerivativeNorm p = .ok sum ∧
    (sum.isNaN = true ∨ one < sum)
  earlier : ∀ j < k, ∀ g, functions[j]? = some g → IsContractiveAt g p

section First

variable {functions : List (VectorFunction Float)} {k : Nat}

theorem isFirstAt_zero_iff : IsFirstAt (f :: functions) p 0 sum ↔
    f.partialDerivativeNorm p = .ok sum ∧ (sum.isNaN = true ∨ one < sum) := by
  constructor
  · rintro ⟨⟨g, hg, violates⟩, -⟩
    obtain rfl := Option.some.inj hg
    exact violates
  · intro violates
    exact ⟨⟨f, rfl, violates⟩, nofun⟩

theorem isFirstAt_succ_iff : IsFirstAt (f :: functions) p (k + 1) sum ↔
    IsContractiveAt f p ∧ IsFirstAt functions p k sum := by
  constructor
  · intro first
    exact ⟨first.earlier 0 k.succ_pos f rfl,
      ⟨first.here, fun j hj => first.earlier (j + 1) (Nat.succ_lt_succ hj)⟩⟩
  · rintro ⟨contractive, first⟩
    refine ⟨first.here, ?_⟩
    intro j hj g hg
    cases j with
    | zero => exact Option.some.inj hg ▸ contractive
    | succ j => exact first.earlier j (Nat.lt_of_succ_lt_succ hj) g hg

end First

/-- The search at a point of the right length reports the first violation. -/
theorem violation?_eq_some_iff {functions : List (VectorFunction Float)}
    (lengths : ∀ f ∈ functions, p.length = f.arity) {index : Nat} {cause : Error Float} :
    violation? p functions index = some cause ↔
      ∃ k sum, IsFirstAt functions p k sum ∧ cause = .notContraction (index + k) sum p := by
  induction functions generalizing index with
  | nil =>
    refine iff_of_false nofun ?_
    rintro ⟨k, sum, first, -⟩
    obtain ⟨f, hf, -⟩ := first.here
    cases hf
  | cons f functions ih =>
    obtain ⟨length, lengths⟩ := List.forall_mem_cons.1 lengths
    rw [violation?]
    cases hnorm : f.partialDerivativeNorm p with
    | error refusal =>
      exact absurd hnorm (VectorFunction.partialDerivativeNorm_ne_error length refusal)
    | ok sum =>
      have shifted : ∀ k, index + 1 + k = index + (k + 1) := fun k => by omega
      by_cases below : sum ≤ one
      · simp only [if_pos below, ih lengths, shifted]
        constructor
        · rintro ⟨k, sum', first, rfl⟩
          exact ⟨k + 1, sum', isFirstAt_succ_iff.2 ⟨(isContractiveAt_iff hnorm).2 below, first⟩,
            rfl⟩
        · rintro ⟨_ | k, sum', first, rfl⟩
          · obtain ⟨hsum, violates⟩ := isFirstAt_zero_iff.1 first
            obtain rfl := Except.ok.inj (hnorm.symm.trans hsum)
            exact absurd below ((Double.not_le_iff_isNaN_or_lt rfl).2 violates)
          · exact ⟨k, sum', (isFirstAt_succ_iff.1 first).2, rfl⟩
      · simp only [if_neg below, Option.some.injEq]
        constructor
        · rintro rfl
          exact ⟨0, sum, isFirstAt_zero_iff.2
            ⟨hnorm, (Double.not_le_iff_isNaN_or_lt rfl).1 below⟩, rfl⟩
        · rintro ⟨_ | k, sum', first, rfl⟩
          · obtain ⟨hsum, -⟩ := isFirstAt_zero_iff.1 first
            rw [Except.ok.inj (hnorm.symm.trans hsum), Nat.add_zero]
          · exact absurd ((isContractiveAt_iff hnorm).1 (isFirstAt_succ_iff.1 first).1) below

theorem violation?_eq_none_iff {functions : List (VectorFunction Float)}
    (lengths : ∀ f ∈ functions, p.length = f.arity) {index : Nat} :
    violation? p functions index = none ↔ ∀ f ∈ functions, IsContractiveAt f p := by
  induction functions generalizing index with
  | nil => exact iff_of_true rfl nofun
  | cons f functions ih =>
    obtain ⟨length, lengths⟩ := List.forall_mem_cons.1 lengths
    rw [violation?, List.forall_mem_cons]
    cases hnorm : f.partialDerivativeNorm p with
    | error refusal =>
      exact absurd hnorm (VectorFunction.partialDerivativeNorm_ne_error length refusal)
    | ok sum =>
      rw [isContractiveAt_iff hnorm, ← @ih lengths (index + 1)]
      by_cases below : sum ≤ one
      · simp only [if_pos below]
        exact (and_iff_right below).symm
      · simp only [if_neg below]
        exact iff_of_false (Option.some_ne_none _) fun h => below h.1

end Condition

/-! ## The check -/

section Check

variable {system : EquationSystem Float} {intervals : List (Interval Float)}
  {limits : Limits Float} {grids : List (Grid Float)}

/-- The first violation of the contraction condition on a grid: no combination with a
lexicographically smaller index has one, and at this combination it is the first function's. -/
structure IsFirstViolation (system : EquationSystem Float) (grids : List (Grid Float))
    (is : List Nat) (k : Nat) (sum : Float) : Prop where
  index : IsIndex grids is
  here : IsFirstAt system.functions (pointAt grids is) k sum
  earlier : ∀ js, IsIndex grids js → js < is → ∀ f ∈ system.functions,
    IsContractiveAt f (pointAt grids js)

/-- What the contraction check finds, and which combinations it looks at. -/
structure SearchesGrid (system : EquationSystem Float) (intervals : List (Interval Float))
    (limits : Limits Float) (grids : List (Grid Float)) : Prop where
  /-- A box is accepted exactly if the condition holds everywhere. -/
  accepts : checkContraction system intervals limits = .ok () ↔
    ∀ is, IsIndex grids is → ∀ f ∈ system.functions, IsContractiveAt f (pointAt grids is)
  /-- A box is refused exactly with the first violation. -/
  reports : ∀ cause, checkContraction system intervals limits = .error cause ↔
    ∃ is k sum, IsFirstViolation system grids is k sum ∧
      cause = .notContraction k sum (pointAt grids is)
  /-- With notes taken of what it looks at, the check has the same result, and each combination up
  to the first violation is noted once, in order. -/
  visits : ∃ seen : List (List Nat),
    (checkContractionM note system intervals limits).run [] =
        (checkContraction system intervals limits, seen.map (pointAt grids)) ∧
      seen.Pairwise (· < ·) ∧
      ∀ js, js ∈ seen ↔ IsIndex grids js ∧
        ∀ is k sum, IsFirstViolation system grids is k sum → js ≤ is

theorem lengths_pointAt (sizes : grids.length = system.dimension) {is : List Nat}
    (h : IsIndex grids is) : ∀ f ∈ system.functions, (pointAt grids is).length = f.arity := by
  intro f hf
  rw [length_pointAt h, sizes, system.square f hf, EquationSystem.dimension]

/-- The search over the combinations finds the first violation. -/
theorem findSome?_violation?_eq_some_iff (sizes : grids.length = system.dimension)
    {cause : Error Float} :
    ((indices grids).findSome? fun is => violation? (pointAt grids is) system.functions 0) =
        some cause ↔
      ∃ is k sum, IsFirstViolation system grids is k sum ∧
        cause = .notContraction k sum (pointAt grids is) := by
  rw [findSome?_eq_some_iff_of_pairwise (pairwise_indices grids)]
  constructor
  · rintro ⟨is, mem, found, nothing⟩
    have index := mem_indices.1 mem
    obtain ⟨k, sum, first, rfl⟩ := (violation?_eq_some_iff (lengths_pointAt sizes index)).1 found
    refine ⟨is, k, sum, ⟨index, first, ?_⟩, by rw [Nat.zero_add]⟩
    intro js hjs smaller
    exact (violation?_eq_none_iff (lengths_pointAt sizes hjs)).1
      (nothing js (mem_indices.2 hjs) smaller)
  · rintro ⟨is, k, sum, first, rfl⟩
    refine ⟨is, mem_indices.2 first.index, ?_, ?_⟩
    · exact (violation?_eq_some_iff (lengths_pointAt sizes first.index)).2
        ⟨k, sum, first.here, by rw [Nat.zero_add]⟩
    · intro js mem smaller
      have index := mem_indices.1 mem
      exact (violation?_eq_none_iff (lengths_pointAt sizes index)).2
        (first.earlier js index smaller)

/-- A combination is looked at by the search if the first violation does not come before it. -/
theorem mem_upToFirst_violation?_iff (sizes : grids.length = system.dimension) {js : List Nat} :
    js ∈ upToFirst (fun is => violation? (pointAt grids is) system.functions 0) (indices grids) ↔
      IsIndex grids js ∧ ∀ is k sum, IsFirstViolation system grids is k sum → js ≤ is := by
  rw [mem_upToFirst (pairwise_indices grids), mem_indices]
  refine and_congr_right fun _ => ⟨?_, ?_⟩
  · intro least is k sum first
    refine least is (mem_indices.2 first.index) ?_
    rw [(violation?_eq_some_iff (lengths_pointAt sizes first.index)).2 ⟨k, sum, first.here, rfl⟩]
    rfl
  · intro least is mem violated
    have index := mem_indices.1 mem
    obtain ⟨cause, found⟩ : ∃ cause, ((indices grids).findSome? fun is =>
        violation? (pointAt grids is) system.functions 0) = some cause :=
      Option.isSome_iff_exists.1 (List.findSome?_isSome_iff.2 ⟨is, mem, violated⟩)
    obtain ⟨ks, k, sum, first, -⟩ := (findSome?_violation?_eq_some_iff sizes).1 found
    refine (least ks k sum first).trans (not_lt.1 fun smaller => ?_)
    have nothing : violation? (pointAt grids is) system.functions 0 = none :=
      (violation?_eq_none_iff (lengths_pointAt sizes index)).2 (first.earlier is index smaller)
    rw [nothing] at violated
    cases violated

/-- With notes taken, the check notes the combinations up to the first violation. -/
theorem run_checkContractionM_note (sizes : intervals.length = system.dimension)
    (sampled : AreSampled intervals limits.gridStep grids)
    (few : pointCount grids ≤ maxGridPoints) :
    (checkContractionM note system intervals limits).run [] =
      (checkContraction system intervals limits,
        upToFirst (fun p => violation? p system.functions 0) (gridPoints grids)) := by
  have noted : (findPointM? (inspect note system) grids []).run [] =
      ((gridPoints grids).findSome? fun p => violation? p system.functions 0,
        upToFirst (fun p => violation? p system.functions 0) (gridPoints grids)) := by
    rw [findPointM?_eq]
    exact run_findSomeM?_noting _ (gridPoints grids) []
  rw [checkContraction_of_areSampled sizes sampled, if_neg (not_lt.2 few), checkPoints,
    checkContractionM, checkedAxes_of_areSampled sizes sampled, if_neg (not_lt.2 few)]
  simp only [StateT.run_bind, noted]
  cases (gridPoints grids).findSome? fun p => violation? p system.functions 0 with
  | some cause => rfl
  | none => rfl

/-- The contraction check is exact on its grid: it accepts what satisfies the condition, reports the
first violation, and looks at each combination up to there once. -/
theorem contraction_check_is_exact (system : EquationSystem Float)
    (intervals : List (Interval Float)) (limits : Limits Float) (grids : List (Grid Float))
    (sizes : intervals.length = system.dimension)
    (sampled : AreSampled intervals limits.gridStep grids)
    (few : combinations grids ≤ maxGridPoints) : SearchesGrid system intervals limits grids := by
  have sizes' : grids.length = system.dimension := sampled.length_eq ▸ sizes
  have search : ((gridPoints grids).findSome? fun p => violation? p system.functions 0) =
      (indices grids).findSome? fun is => violation? (pointAt grids is) system.functions 0 := by
    rw [gridPoints_eq, List.findSome?_map]
    rfl
  have check : checkContraction system intervals limits =
      checkPoints system (gridPoints grids) := by
    rw [checkContraction_of_areSampled sizes sampled, pointCount_eq, if_neg (not_lt.2 few)]
  refine ⟨?accepts, ?reports, ?visits⟩
  case accepts =>
    rw [check, checkPoints_eq_ok_iff, search, List.findSome?_eq_none_iff]
    refine forall_congr' fun is => ?_
    rw [mem_indices]
    exact forall_congr' fun index => violation?_eq_none_iff (lengths_pointAt sizes' index)
  case reports =>
    intro cause
    rw [check, checkPoints_eq_error_iff, search, findSome?_violation?_eq_some_iff sizes']
  case visits =>
    refine ⟨_, ?_, (pairwise_indices grids).sublist (upToFirst_sublist _ _),
      fun js => mem_upToFirst_violation?_iff sizes'⟩
    have noted := upToFirst_map (fun p => violation? p system.functions 0) (pointAt grids)
      (indices grids)
    rw [← noted, ← gridPoints_eq]
    exact run_checkContractionM_note sizes sampled (by rwa [pointCount_eq])

/-- Two functions of two variables; the second one becomes steep away from the origin. -/
def halfAndProduct : EquationSystem Float where
  label := "half and product"
  functions := [⟨"x_0 / 2", 2, fun x => x.headD 0 / 2⟩,
    ⟨"2.5 x_0 x_1", 2, fun x => 2.5 * (x.headD 0 * x.getLastD 0)⟩]
  nonempty := by simp
  square := by simp

/-- An interval of two steps. -/
def twoSteps : Interval Float := ⟨0.125, 0.325, by decide, by decide, by decide⟩

/-- The second function is the first one that is too steep, at the end of the first line of the
grid. -/
theorem halfAndProduct_violates : ∃ limits : Limits Float, ∃ grids is sum,
    AreSampled [twoSteps, twoSteps] limits.gridStep grids ∧ combinations grids = 9 ∧
      IsFirstViolation halfAndProduct grids is 1 sum ∧ pointAt grids is = [0.125, 0.325] := by
  let limits : Limits Float := ⟨1, 0.1, by decide, by decide, by decide⟩
  have steps : (twoSteps.grid limits.gridStep).toOption.map Grid.segments = some 2 := by
    decide +kernel
  have found : (match checkContraction halfAndProduct [twoSteps, twoSteps] limits with
      | .error (.notContraction k _ p) => some (k, p)
      | _ => none) = some (1, [0.125, 0.325]) := by decide +kernel
  obtain ⟨g, hgrid, segments⟩ := exists_ok_of_map_eq_some steps
  have size : g.points.length = 3 := by rw [Grid.length_points, Grid.size, segments]
  have sampled : AreSampled [twoSteps, twoSteps] limits.gridStep [g, g] :=
    .cons hgrid (.cons hgrid .nil)
  have nine : combinations [g, g] = 9 := by
    rw [combinations, List.map_cons, List.map_singleton, List.prod_pair, size]
  have searched := contraction_check_is_exact halfAndProduct [twoSteps, twoSteps] limits [g, g]
    rfl sampled (by rw [nine]; decide)
  cases hcheck : checkContraction halfAndProduct [twoSteps, twoSteps] limits with
  | ok u =>
    rw [hcheck] at found
    cases found
  | error cause =>
    obtain ⟨is, k, sum, first, rfl⟩ := (searched.reports cause).1 hcheck
    rw [hcheck] at found
    obtain ⟨rfl, point⟩ := Prod.mk.inj (Option.some.inj found)
    exact ⟨limits, [g, g], is, sum, sampled, nine, first, point⟩

end Check

end RootFinding.Systems
