import FormReport.Traced
import Mathlib.Data.List.Forall2
import Mathlib.Data.List.Nodup

set_option autoImplicit false

/- What the success of steps in sequence says about each of them, and lists without repeats. -/
namespace FormReport

variable {ε ε' ω α β γ σ : Type}

theorem bind_eq_ok {first : Except ε α} {next : α → Except ε β} {value : β} :
    first >>= next = .ok value ↔ ∃ middle, first = .ok middle ∧ next middle = .ok value := by
  cases first with
  | error error => simp only [bind, Except.bind, reduceCtorEq, false_and, exists_false]
  | ok middle =>
    simp only [bind, Except.bind, Except.ok.injEq]
    constructor
    · intro success
      exact ⟨middle, rfl, success⟩
    · rintro ⟨_, rfl, success⟩
      exact success

theorem bind_eq_error {first : Except ε α} {next : α → Except ε β} {error : ε} :
    first >>= next = .error error ↔
      first = .error error ∨ ∃ middle, first = .ok middle ∧ next middle = .error error := by
  cases first with
  | error fault => simp [bind, Except.bind]
  | ok middle => simp [bind, Except.bind]

theorem mapError_eq_ok {change : ε → ε'} {result : Except ε α} {value : α} :
    result.mapError change = .ok value ↔ result = .ok value := by
  cases result <;> simp [Except.mapError]

theorem mapError_eq_error {change : ε → ε'} {result : Except ε α} {error : ε'} :
    result.mapError change = .error error ↔ ∃ fault, result = .error fault ∧ change fault = error := by
  cases result <;> simp [Except.mapError]

theorem map_eq_ok {change : α → β} {result : Except ε α} {value : β} :
    result.map change = .ok value ↔ ∃ before, result = .ok before ∧ change before = value := by
  cases result <;> simp [Except.map]

theorem map_eq_error {change : α → β} {result : Except ε α} {error : ε} :
    result.map change = .error error ↔ result = .error error := by
  cases result <;> simp [Except.map]

theorem isOk_iff {result : Except ε α} : result.isOk = true ↔ ∃ value, result = .ok value := by
  cases result <;> simp [Except.isOk, Except.toBool]

/-- Work on a list succeeds when it succeeds on every member, in place. -/
theorem mapM_eq_ok {work : α → Except ε β} {inputs : List α} {outputs : List β} :
    inputs.mapM work = .ok outputs ↔
      List.Forall₂ (fun input output => work input = .ok output) inputs outputs := by
  induction inputs generalizing outputs with
  | nil =>
    rw [List.mapM_nil, List.forall₂_nil_left_iff]
    constructor
    · intro success
      cases success
      rfl
    · rintro rfl
      rfl
  | cons input rest ih =>
    rw [List.mapM_cons, bind_eq_ok, List.forall₂_cons_left_iff]
    constructor
    · rintro ⟨output, head, tail⟩
      obtain ⟨others, each, same⟩ := bind_eq_ok.mp tail
      cases same
      exact ⟨output, others, head, ih.mp each, rfl⟩
    · rintro ⟨output, others, head, each, rfl⟩
      exact ⟨output, head, bind_eq_ok.mpr ⟨others, ih.mpr each, rfl⟩⟩

/-- Work in two steps on every member is the first step on all of them and then the second. -/
theorem mapM_bind_eq_ok {first : α → Except ε β} {next : β → Except ε γ} {inputs : List α}
    {outputs : List γ} (success : inputs.mapM (fun input => first input >>= next) = .ok outputs) :
    ∃ middles, inputs.mapM first = .ok middles ∧ middles.mapM next = .ok outputs := by
  have each := mapM_eq_ok.mp success
  clear success
  simp only [mapM_eq_ok]
  induction each with
  | nil => exact ⟨[], .nil, .nil⟩
  | cons head _ ih =>
    obtain ⟨middle, started, ended⟩ := bind_eq_ok.mp head
    obtain ⟨middles, before, after⟩ := ih
    exact ⟨middle :: middles, .cons started before, .cons ended after⟩

/-- Work on a list fails with the error of the first member on which it fails. -/
theorem mapM_eq_error {work : α → Except ε β} {inputs : List α} {error : ε} :
    inputs.mapM work = .error error ↔
      ∃ before input after, inputs = before ++ input :: after ∧
        (∀ earlier ∈ before, ∃ output, work earlier = .ok output) ∧ work input = .error error := by
  induction inputs with
  | nil =>
    rw [List.mapM_nil]
    constructor
    · exact nofun
    · rintro ⟨before, input, after, same, _⟩
      simp at same
  | cons head rest ih =>
    rw [List.mapM_cons]
    cases worked : work head with
    | error fault =>
      constructor
      · intro failed
        cases failed
        exact ⟨[], head, rest, rfl, nofun, worked⟩
      · rintro ⟨before, input, after, same, earlier, failed⟩
        cases before with
        | nil =>
          cases same
          rw [worked] at failed
          cases failed
          rfl
        | cons first before =>
          cases same
          obtain ⟨output, succeeded⟩ := earlier _ List.mem_cons_self
          rw [worked] at succeeded
          cases succeeded
    | ok output =>
      have passes : (Except.ok output >>= fun first => do
          let others ← rest.mapM work
          pure (first :: others)) = .error error ↔ rest.mapM work = .error error := by
        cases rest.mapM work <;> simp [bind, Except.bind, pure, Except.pure]
      rw [passes, ih]
      constructor
      · rintro ⟨before, input, after, rfl, earlier, failed⟩
        refine ⟨head :: before, input, after, rfl, ?_, failed⟩
        intro other inside
        rcases List.mem_cons.mp inside with rfl | later
        · exact ⟨output, worked⟩
        · exact earlier other later
      · rintro ⟨before, input, after, same, earlier, failed⟩
        cases before with
        | nil =>
          cases same
          rw [worked] at failed
          cases failed
        | cons first before =>
          cases same
          exact ⟨before, input, after, rfl,
            fun other inside => earlier other (List.mem_cons_of_mem _ inside), failed⟩

theorem mapM_congr {work other : α → Except ε β} {inputs : List α}
    (same : ∀ input ∈ inputs, work input = other input) : inputs.mapM work = inputs.mapM other := by
  induction inputs with
  | nil => rfl
  | cons input rest ih =>
    rw [List.mapM_cons, List.mapM_cons, same input List.mem_cons_self,
      ih fun later inside => same later (List.mem_cons_of_mem _ inside)]

/-- Errors can be told in other words on the way or at the end. -/
theorem mapError_bind (change : ε → ε') (first : Except ε α) (next : α → Except ε β) :
    (first >>= next).mapError change =
      first.mapError change >>= fun value => (next value).mapError change := by
  cases first <;> rfl

theorem mapM_mapError (change : ε → ε') (work : α → Except ε β) (inputs : List α) :
    inputs.mapM (fun input => (work input).mapError change) =
      (inputs.mapM work).mapError change := by
  induction inputs with
  | nil => rfl
  | cons input rest ih =>
    simp only [List.mapM_cons, ih, mapError_bind]
    rfl

theorem foldlM_mapError (change : ε → ε') (step : σ → α → Except ε σ) (before : σ)
    (inputs : List α) :
    inputs.foldlM (fun state input => (step state input).mapError change) before =
      (inputs.foldlM step before).mapError change := by
  induction inputs generalizing before with
  | nil => rfl
  | cons input rest ih => simp only [List.foldlM_cons, ih, mapError_bind]

theorem exists_of_mapM_eq_error {work : α → Except ε β} {inputs : List α} {error : ε}
    (failed : inputs.mapM work = .error error) : ∃ input ∈ inputs, work input = .error error := by
  obtain ⟨before, input, after, rfl, _, fault⟩ := mapM_eq_error.mp failed
  exact ⟨input, List.mem_append_right _ List.mem_cons_self, fault⟩

/-- What one step keeps between the inputs taken in and the state holds after all of them. -/
theorem foldlM_keeps {step : σ → α → Except ε σ} (Holds : List α → σ → Prop)
    (keeps : ∀ taken before input after, Holds taken before → step before input = .ok after →
      Holds (taken ++ [input]) after)
    (taken inputs : List α) (before after : σ) (initial : Holds taken before)
    (success : inputs.foldlM step before = .ok after) : Holds (taken ++ inputs) after := by
  induction inputs generalizing taken before with
  | nil =>
    cases success
    rwa [List.append_nil]
  | cons input rest ih =>
    rw [List.foldlM_cons, bind_eq_ok] at success
    obtain ⟨middle, stepped, remaining⟩ := success
    have advanced := ih (taken ++ [input]) middle (keeps taken before input middle initial stepped)
      remaining
    rwa [List.append_assoc, List.singleton_append] at advanced

/-- Steps in sequence fail where the first of them fails, in the state that those before it have made. -/
theorem foldlM_eq_error {step : σ → α → Except ε σ} {state : σ} {inputs : List α} {error : ε} :
    inputs.foldlM step state = .error error ↔
      ∃ before input after middle, inputs = before ++ input :: after ∧
        before.foldlM step state = .ok middle ∧ step middle input = .error error := by
  constructor
  · intro failed
    induction inputs generalizing state with
    | nil => cases failed
    | cons input rest ih =>
      rw [List.foldlM_cons] at failed
      rcases bind_eq_error.mp failed with fault | ⟨next, stepped, failed⟩
      · exact ⟨[], input, rest, state, rfl, rfl, fault⟩
      · obtain ⟨before, other, after, middle, rfl, reached, fault⟩ := ih failed
        refine ⟨input :: before, other, after, middle, rfl, ?_, fault⟩
        rw [List.foldlM_cons]
        exact bind_eq_ok.mpr ⟨next, stepped, reached⟩
  · rintro ⟨before, input, after, middle, rfl, reached, fault⟩
    rw [List.foldlM_append]
    refine bind_eq_error.mpr (.inr ⟨middle, reached, ?_⟩)
    rw [List.foldlM_cons]
    exact bind_eq_error.mpr (.inl fault)

section Never

/-- Whether a result is none of some errors. -/
def Never (bad : ε → Prop) (result : Except ε α) : Prop :=
  ∀ error, bad error → result ≠ .error error

variable {bad : ε → Prop}

theorem never_ok (value : α) : Never bad (.ok value) := nofun

/-- After a step that never fails so, the fault is in what follows. -/
theorem Never.of_bind {first : Except ε α} {next : α → Except ε β} (never : Never bad first)
    {error : ε} (is : bad error) (failed : first >>= next = .error error) :
    ∃ value, first = .ok value ∧ next value = .error error :=
  (bind_eq_error.mp failed).resolve_left (never error is)

theorem Never.bind {first : Except ε α} {next : α → Except ε β} (never : Never bad first)
    (after : ∀ value, Never bad (next value)) : Never bad (first >>= next) := by
  intro error is failed
  obtain ⟨value, _, fault⟩ := never.of_bind is failed
  exact after value error is fault

theorem Never.mapM {work : α → Except ε β} (inputs : List α)
    (never : ∀ input, Never bad (work input)) : Never bad (inputs.mapM work) := by
  intro error is failed
  obtain ⟨input, _, fault⟩ := exists_of_mapM_eq_error failed
  exact never input error is fault

theorem Never.foldlM {step : σ → α → Except ε σ} (inputs : List α) (state : σ)
    (never : ∀ state input, Never bad (step state input)) :
    Never bad (inputs.foldlM step state) := by
  intro error is failed
  obtain ⟨_, input, _, middle, _, _, fault⟩ := foldlM_eq_error.mp failed
  exact never middle input error is fault

theorem Never.mapError {bad : ε' → Prop} {change : ε → ε'} {result : Except ε α}
    (never : Never (fun fault => bad (change fault)) result) : Never bad (result.mapError change) := by
  intro error is failed
  obtain ⟨fault, known, rfl⟩ := mapError_eq_error.mp failed
  exact never fault is known

end Never

theorem exists_of_forall₂ {Related : α → β → Prop} {lefts : List α} {rights : List β}
    (related : List.Forall₂ Related lefts rights) {left : α} (inside : left ∈ lefts) :
    ∃ right, (left, right) ∈ lefts.zip rights ∧ Related left right := by
  induction related with
  | nil => cases inside
  | cons head _ ih =>
    rw [List.zip_cons_cons]
    rcases List.mem_cons.mp inside with rfl | later
    · exact ⟨_, List.mem_cons_self, head⟩
    · obtain ⟨right, paired, found⟩ := ih later
      exact ⟨right, List.mem_cons_of_mem _ paired, found⟩

theorem map_eq_of_forall₂ {Related : α → β → Prop} {left : α → γ} {right : β → γ}
    {lefts : List α} {rights : List β} (related : List.Forall₂ Related lefts rights)
    (agree : ∀ first second, Related first second → left first = right second) :
    lefts.map left = rights.map right := by
  induction related with
  | nil => rfl
  | cons head _ ih => rw [List.map_cons, List.map_cons, agree _ _ head, ih]

/-- Every output of work on a list is that of one of the inputs. -/
theorem exists_of_mem_mapM {work : α → Except ε β} {inputs : List α} {outputs : List β}
    (success : inputs.mapM work = .ok outputs) {output : β} (inside : output ∈ outputs) :
    ∃ input ∈ inputs, work input = .ok output := by
  obtain ⟨input, paired, made⟩ := exists_of_forall₂ (mapM_eq_ok.mp success).flip inside
  exact ⟨input, (List.of_mem_zip paired).2, made⟩

/-- Lists that match one list in place are joined member by member. -/
theorem forall₂_zipWith {First : α → β → Prop} {Second : α → γ → Prop} {Joined : α → σ → Prop}
    {join : β → γ → σ} {keys : List α} {firsts : List β} {seconds : List γ}
    (joins : ∀ key first second, First key first → Second key second →
      Joined key (join first second))
    (left : List.Forall₂ First keys firsts) (right : List.Forall₂ Second keys seconds) :
    List.Forall₂ Joined keys (List.zipWith join firsts seconds) := by
  induction left generalizing seconds with
  | nil =>
    cases right
    exact .nil
  | cons first _ ih =>
    cases right with
    | cons second rest => exact .cons (joins _ _ _ first second) (ih rest)

theorem forall₂_of_zip {First : α → β → Prop} {Second : α × β → γ → Prop} {keys : List α}
    {firsts : List β} {seconds : List γ} (left : List.Forall₂ First keys firsts)
    (right : List.Forall₂ Second (keys.zip firsts) seconds) :
    List.Forall₂ (fun key second => ∃ first, First key first ∧ Second (key, first) second) keys
      seconds := by
  induction left generalizing seconds with
  | nil =>
    cases right
    exact .nil
  | cons first _ ih =>
    cases right with
    | cons second rest => exact .cons ⟨_, first, second⟩ (ih rest)

/-- Members that come from one member of a third list are paired. -/
theorem forall₂_of_common {First : α → β → Prop} {Second : α → γ → Prop} {origins : List α}
    {lefts : List β} {rights : List γ} (one : List.Forall₂ First origins lefts)
    (two : List.Forall₂ Second origins rights) :
    List.Forall₂ (fun left right => ∃ origin, First origin left ∧ Second origin right) lefts
      rights := by
  induction one generalizing rights with
  | nil =>
    cases two
    exact .nil
  | cons head _ ih =>
    cases two with
    | cons other rest => exact .cons ⟨_, head, other⟩ (ih rest)

/-- Paired lists stay paired in order when pairs compare alike on both sides. -/
theorem forall₂_mergeSort {Related : α → β → Prop} {lefts : List α} {rights : List β}
    {leftOrder : α → α → Bool} {rightOrder : β → β → Bool}
    (alike : ∀ left right other another, Related left right → Related other another →
      leftOrder left other = rightOrder right another)
    (related : List.Forall₂ Related lefts rights) :
    List.Forall₂ Related (lefts.mergeSort leftOrder) (rights.mergeSort rightOrder) := by
  obtain ⟨width, pairs⟩ := List.forall₂_iff_zip.mp related
  -- The pairs are sorted by their left sides, which is the same as by their right sides.
  let order : α × β → α × β → Bool := fun pair other => leftOrder pair.1 other.1
  have left : ((lefts.zip rights).mergeSort order).map Prod.fst = lefts.mergeSort leftOrder := by
    have same : ∀ pair ∈ lefts.zip rights, ∀ other ∈ lefts.zip rights,
        order pair other = leftOrder pair.1 other.1 := fun _ _ _ _ => rfl
    rw [List.map_mergeSort same, List.map_fst_zip (Nat.le_of_eq width)]
  have right : ((lefts.zip rights).mergeSort order).map Prod.snd =
      rights.mergeSort rightOrder := by
    have same : ∀ pair ∈ lefts.zip rights, ∀ other ∈ lefts.zip rights,
        order pair other = rightOrder pair.2 other.2 :=
      fun _ inside _ within => alike _ _ _ _ (pairs inside) (pairs within)
    rw [List.map_mergeSort same, List.map_snd_zip (Nat.le_of_eq width.symm)]
  rw [← left, ← right, List.forall₂_map_left_iff, List.forall₂_map_right_iff, List.forall₂_same]
  exact fun pair inside => pairs (List.mem_mergeSort.mp inside)

namespace Traced

/-- Work that goes on in the same way after every success is the same. -/
theorem bind_congr (first : Traced ω ε α) (next other : α → Traced ω ε β)
    (same : ∀ value, first.result = .ok value → next value = other value) :
    first >>= next = first >>= other := by
  obtain ⟨notes, result⟩ := first
  cases result with
  | error error => rfl
  | ok value =>
    change bind _ next = bind _ other
    simp only [bind, same value rfl]

theorem result_mapM (work : α → Traced ω ε β) (inputs : List α) :
    (inputs.mapM work).result = inputs.mapM fun input => (work input).result := by
  induction inputs with
  | nil => rfl
  | cons input rest ih =>
    simp only [List.mapM_cons, result_bind, ih, result_pure]
    rfl

end Traced

section Distinct

variable [BEq α] [LawfulBEq α]

theorem nodup_eraseDups (values : List α) : values.eraseDups.Nodup := by
  induction size : values.length using Nat.strongRecOn generalizing values with
  | ind length ih =>
    cases values with
    | nil => exact List.nodup_nil
    | cons value rest =>
      rw [List.eraseDups_cons, List.nodup_cons]
      have shorter := List.length_filter_le (fun other => !other == value) rest
      simp only [List.length_cons] at size
      refine ⟨?_, ih _ (by omega) _ rfl⟩
      simp [List.mem_eraseDups]

/-- A value counts only where it is first seen. -/
theorem eraseDups_concat (values : List α) (value : α) :
    (values ++ [value]).eraseDups =
      if value ∈ values then values.eraseDups else values.eraseDups ++ [value] := by
  rw [List.eraseDups_append]
  by_cases seen : value ∈ values <;> simp [List.removeAll, seen, List.eraseDups_cons]

end Distinct

end FormReport
