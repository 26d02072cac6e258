import Emux.Library.Fallible

set_option autoImplicit false

/-!
# Runs of a fallible step function

`Ensures allowed x post` says that `x` returns a result with `post` or panics in an allowed way:
with no panic allowed it is total correctness, with every panic allowed partial correctness.
`Along` puts a condition on every step of a run, in the state the step starts from. And what a copy that is written now and then
can hold after a run.
-/

namespace Checked

variable {A B S : Type}

def Ensures (allowed : Panic -> Prop) (x : Fallible A) (post : A -> Prop) : Prop :=
  match x with
  | .ok a => post a
  | .error panic => allowed panic

def AnyPanic (_ : Panic) : Prop := True

theorem ensures_ok {allowed : Panic -> Prop} {a : A} {post : A -> Prop} (holds : post a) :
    Ensures allowed (.ok a) post := holds

theorem Ensures.bind {allowed : Panic -> Prop} {x : Fallible A} {next : A -> Fallible B}
    {middle : A -> Prop} {post : B -> Prop} (first : Ensures allowed x middle)
    (second : ∀ a, middle a -> Ensures allowed (next a) post) : Ensures allowed (x >>= next) post := by
  cases x with
  | error panic => exact first
  | ok a => exact second a first

theorem ensures_after (x : Fallible A) {next : A -> Fallible B} {post : B -> Prop}
    (second : ∀ a, Ensures AnyPanic (next a) post) : Ensures AnyPanic (x >>= next) post := by
  cases x with
  | error panic => trivial
  | ok a => exact second a

theorem ensures_modify (xs : List A) (i : Nat) (f : A -> A) :
    Ensures AnyPanic (modify xs i f) fun ys => ys.length = xs.length := by
  unfold modify
  split
  next => exact List.length_modify ..
  next => trivial

theorem Ensures.map {allowed : Panic -> Prop} {x : Fallible A} {f : A -> B} {post : B -> Prop}
    (ensured : Ensures allowed x fun a => post (f a)) : Ensures allowed (x.map f) post := by
  cases x with
  | error panic => exact ensured
  | ok a => exact ensured

theorem Ensures.ite {allowed : Panic -> Prop} {condition : Prop} [Decidable condition] {x y : Fallible A}
    {post : A -> Prop} (yes : condition -> Ensures allowed x post) (no : ¬ condition -> Ensures allowed y post) :
    Ensures allowed (if condition then x else y) post := by
  by_cases holds : condition
  next => simpa only [holds, if_true] using yes holds
  next => simpa only [holds, if_false] using no holds

theorem Ensures.weaken {allowed : Panic -> Prop} {x : Fallible A} {strong weak : A -> Prop}
    (ensured : Ensures allowed x strong) (implied : ∀ a, strong a -> weak a) :
    Ensures allowed x weak := by
  cases x with
  | error panic => exact ensured
  | ok a => exact implied a ensured

theorem Ensures.allow {strict loose : Panic -> Prop} {x : Fallible A} {post : A -> Prop}
    (ensured : Ensures strict x post) (implied : ∀ panic, strict panic -> loose panic) :
    Ensures loose x post := by
  cases x with
  | error panic => exact implied panic ensured
  | ok a => exact ensured

theorem Ensures.and {allowed : Panic -> Prop} {x : Fallible A} {first second : A -> Prop}
    (ensured : Ensures allowed x first) (more : Ensures AnyPanic x second) :
    Ensures allowed x fun a => first a ∧ second a := by
  cases x with
  | error panic => exact ensured
  | ok a => exact ⟨ensured, more⟩

theorem ensures_any_iff {x : Fallible A} {post : A -> Prop} :
    Ensures AnyPanic x post ↔ ∀ a, x = .ok a -> post a := by
  cases x with
  | error panic => simp [Ensures, AnyPanic]
  | ok a => simp [Ensures]

theorem Ensures.returns_iff {bad : Prop} {why : Panic -> Prop} {x : Fallible A}
    (ensured : Ensures (fun panic => why panic ∧ bad) x fun _ => ¬ bad) : (∃ a, x = .ok a) ↔ ¬ bad := by
  cases x with
  | error panic => exact iff_of_false nofun (not_not.mpr ensured.2)
  | ok a => exact iff_of_true ⟨a, rfl⟩ ensured

theorem Ensures.of_ok {allowed : Panic -> Prop} {x : Fallible A} {post : A -> Prop} {a : A}
    (ensured : Ensures allowed x post) (ran : x = .ok a) : post a := by
  rw [ran] at ensured
  exact ensured

instance {allowed : Panic -> Prop} [DecidablePred allowed] {x : Fallible A} {post : A -> Prop}
    [DecidablePred post] : Decidable (Ensures allowed x post) :=
  match x with
  | .ok a => inferInstanceAs (Decidable (post a))
  | .error panic => inferInstanceAs (Decidable (allowed panic))

instance : DecidablePred AnyPanic := fun _ => inferInstanceAs (Decidable True)

theorem ensures_forRange {allowed : Panic -> Prop} {good : S -> Prop} {body : S -> Nat -> Fallible S}
    (one : ∀ s i, good s -> Ensures allowed (body s i) good) (start stop : Nat) {s : S} (holds : good s) :
    Ensures allowed (forRange start stop s body) good := by
  unfold forRange
  generalize List.range' start (stop - start) = items
  induction items generalizing s with
  | nil => exact holds
  | cons i rest ih =>
    rw [List.foldlM_cons]
    exact (one s i holds).bind fun next kept => ih kept

section Related

variable {related : S -> S -> Prop}

theorem related_bind [IsTrans S related] {s : S} {x : Fallible S} {next : S -> Fallible S}
    (first : Ensures AnyPanic x (related s)) (second : ∀ t, Ensures AnyPanic (next t) (related t)) :
    Ensures AnyPanic (x >>= next) (related s) :=
  first.bind fun t before => (second t).weaken fun u after => IsTrans.trans s t u before after

theorem related_onlyIf [Std.Refl related] {condition : Prop} [Decidable condition] {s : S} {body : S -> Fallible S}
    (one : Ensures AnyPanic (body s) (related s)) : Ensures AnyPanic (onlyIf condition s body) (related s) :=
  .ite (fun _ => one) fun _ => ensures_ok (Std.Refl.refl s)

theorem related_foldlM [Std.Refl related] [IsTrans S related] {body : S -> A -> Fallible S}
    (one : ∀ s a, Ensures AnyPanic (body s a) (related s)) (items : List A) (s : S) :
    Ensures AnyPanic (items.foldlM body s) (related s) := by
  induction items generalizing s with
  | nil => exact Std.Refl.refl s
  | cons a rest ih =>
    rw [List.foldlM_cons]
    exact related_bind (one s a) ih

theorem related_forRange [Std.Refl related] [IsTrans S related] {body : S -> Nat -> Fallible S}
    (one : ∀ s i, Ensures AnyPanic (body s i) (related s)) (start stop : Nat) (s : S) :
    Ensures AnyPanic (forRange start stop s body) (related s) := related_foldlM one _ s

theorem related_forRangeRev [Std.Refl related] [IsTrans S related] {body : S -> Nat -> Fallible S}
    (one : ∀ s i, Ensures AnyPanic (body s i) (related s)) (start stop : Nat) (s : S) :
    Ensures AnyPanic (forRangeRev start stop s body) (related s) := related_foldlM one _ s

end Related

/-- `x` returns a result exactly when `condition` holds, and then one with `post`. -/
def Exactly (condition : Prop) (x : Fallible A) (post : A -> Prop) : Prop :=
  Ensures (fun _ => ¬ condition) x fun a => condition ∧ post a

theorem exactly_ok {condition : Prop} {a : A} {post : A -> Prop} (holds : condition) (result : post a) :
    Exactly condition (.ok a) post := ⟨holds, result⟩

theorem Exactly.congr {first second : Prop} {x : Fallible A} {post : A -> Prop} (exact : Exactly first x post)
    (same : first ↔ second) : Exactly second x post :=
  (Ensures.allow exact fun _ fails holds => fails (same.mpr holds)).weaken fun _ done => ⟨same.mp done.1, done.2⟩

theorem Exactly.bind {first second : Prop} {x : Fallible A} {next : A -> Fallible B} {middle : A -> Prop}
    {post : B -> Prop} (one : Exactly first x middle)
    (two : ∀ a, first -> middle a -> Exactly second (next a) post) : Exactly (first ∧ second) (x >>= next) post := by
  refine Ensures.bind (Ensures.allow one fun _ fails both => fails both.1) fun a done => ?_
  refine (Ensures.allow (two a done.1 done.2) fun _ fails both => fails both.2).weaken fun b last => ?_
  exact ⟨⟨done.1, last.1⟩, last.2⟩

theorem Exactly.bind_ok {condition : Prop} {x : Fallible A} {f : A -> B} {middle : A -> Prop} {post : B -> Prop}
    (one : Exactly condition x middle) (result : ∀ a, condition -> middle a -> post (f a)) :
    Exactly condition (x >>= fun a => .ok (f a)) post :=
  (one.bind fun a holds done => exactly_ok trivial (result a holds done)).congr (and_iff_left trivial)

theorem Exactly.returns_iff {condition : Prop} {x : Fallible A} {post : A -> Prop} (exact : Exactly condition x post) :
    (∃ a, x = .ok a ∧ post a) ↔ condition := by
  cases x with
  | error panic =>
    have fails : ¬ condition := exact
    simp [fails]
  | ok a =>
    obtain ⟨holds, result⟩ : condition ∧ post a := exact
    simp [holds, result]

theorem exactly_add (limit a b : Nat) : Exactly (a + b < limit) (add limit a b) (· = a + b) := by
  unfold add
  split
  next fits => exact exactly_ok fits rfl
  next overflows => exact overflows

theorem exactly_sub (a b : Nat) : Exactly (b ≤ a) (sub a b) (· = a - b) := by
  unfold sub
  split
  next fits => exact exactly_ok fits rfl
  next underflows => exact underflows

theorem exactly_forEach {condition : A -> Prop} {post : List B -> Prop} (empty : post [])
    (append : ∀ {first later}, post first -> post later -> post (first ++ later)) {items : List A}
    {body : A -> Fallible (List B)} (one : ∀ a ∈ items, Exactly (condition a) (body a) post) :
    Exactly (∀ a ∈ items, condition a) (forEach items body) post := by
  induction items with
  | nil => exact exactly_ok nofun empty
  | cons a rest ih =>
    have head := one a List.mem_cons_self
    have tail := ih fun b member => one b (List.mem_cons_of_mem a member)
    unfold forEach
    refine (head.bind fun first _ done => ?_).congr List.forall_mem_cons.symm
    exact tail.bind_ok fun later _ others => append done others

def run (step : A -> S -> Fallible S) : List A -> S -> Fallible S
  | [], s => .ok s
  | a :: rest, s => step a s >>= run step rest

/-- Every step of the run meets `ok` in the state it starts from. -/
def Along (step : A -> S -> Fallible S) (ok : A -> S -> Prop) : List A -> S -> Prop
  | [], _ => True
  | a :: rest, s => ok a s ∧ Ensures AnyPanic (step a s) (Along step ok rest)

/-- Every state of the run, the first and the last included, has `good`. -/
def Throughout (step : A -> S -> Fallible S) (good : S -> Prop) : List A -> S -> Prop
  | [], s => good s
  | a :: rest, s => good s ∧ Ensures AnyPanic (step a s) (Throughout step good rest)

instance decidableAlong (step : A -> S -> Fallible S) (ok : A -> S -> Prop)
    [decided : ∀ a s, Decidable (ok a s)] : ∀ (as : List A) (s : S), Decidable (Along step ok as s)
  | [], _ => inferInstanceAs (Decidable True)
  | a :: rest, s =>
    have : DecidablePred (Along step ok rest) := decidableAlong step ok rest
    inferInstanceAs (Decidable (ok a s ∧ Ensures AnyPanic (step a s) (Along step ok rest)))

@[simp] theorem run_nil (step : A -> S -> Fallible S) (s : S) : run step [] s = .ok s := rfl

@[simp] theorem run_cons (step : A -> S -> Fallible S) (a : A) (rest : List A) (s : S) :
    run step (a :: rest) s = step a s >>= run step rest := rfl

theorem run_append (step : A -> S -> Fallible S) (first second : List A) (s : S) :
    run step (first ++ second) s = run step first s >>= run step second := by
  induction first generalizing s with
  | nil => rfl
  | cons a rest ih =>
    rw [List.cons_append, run_cons, run_cons]
    cases step a s with
    | error panic => rfl
    | ok next => exact ih next

theorem along_append (step : A -> S -> Fallible S) (ok : A -> S -> Prop) (first second : List A) (s : S) :
    Along step ok (first ++ second) s ↔
      Along step ok first s ∧ Ensures AnyPanic (run step first s) (Along step ok second) := by
  induction first generalizing s with
  | nil => exact (and_iff_right trivial).symm
  | cons a rest ih =>
    simp only [List.cons_append, Along, run_cons, and_assoc]
    apply and_congr_right
    intro _
    cases step a s with
    | error panic => exact (and_iff_right trivial).symm
    | ok next => exact ih next

theorem along_of_forall {step : A -> S -> Fallible S} {ok : A -> Prop} {as : List A} (all : ∀ a ∈ as, ok a) (s : S) :
    Along step (fun a _ => ok a) as s := by
  induction as generalizing s with
  | nil => trivial
  | cons a rest ih =>
    obtain ⟨first, later⟩ := List.forall_mem_cons.mp all
    exact ⟨first, ensures_any_iff.mpr fun next _ => ih later next⟩

theorem Along.weaken {step : A -> S -> Fallible S} {strong weak : A -> S -> Prop} {as : List A} {s : S}
    (along : Along step strong as s) (implied : ∀ a s, strong a s -> weak a s) :
    Along step weak as s := by
  induction as generalizing s with
  | nil => trivial
  | cons a rest ih => exact ⟨implied a s along.1, along.2.weaken fun next tail => ih tail⟩

theorem along_of_implied {step : A -> S -> Fallible S} {ok : A -> S -> Prop} {known : Prop} {as : List A} {s : S}
    (along : known -> Along step ok as s) : Along step (fun a s => known -> ok a s) as s := by
  induction as generalizing s with
  | nil => trivial
  | cons a rest ih =>
    refine ⟨fun here => (along here).1, ensures_any_iff.mpr fun next moved => ih fun here => ?_⟩
    exact (along here).2.of_ok moved

def expand (step : B -> S -> Fallible S) (parts : S -> A -> List B) : List A -> S -> List B
  | [], _ => []
  | a :: rest, s =>
    parts s a ++
      match run step (parts s a) s with
      | .ok next => expand step parts rest next
      | .error _ => []

theorem run_expand (step : B -> S -> Fallible S) (parts : S -> A -> List B) (as : List A) (s : S) :
    run step (expand step parts as s) s = run (fun a s => run step (parts s a) s) as s := by
  induction as generalizing s with
  | nil => rfl
  | cons a rest ih =>
    rw [expand, run_append, run_cons]
    cases run step (parts s a) s with
    | error panic => rfl
    | ok next => exact ih next

theorem Along.of_expand {step : B -> S -> Fallible S} {ok : B -> S -> Prop} {parts : S -> A -> List B} {as : List A}
    {s : S} (along : Along step ok (expand step parts as s) s) :
    Along (fun a s => run step (parts s a) s) (fun a s => Along step ok (parts s a) s) as s := by
  induction as generalizing s with
  | nil => trivial
  | cons a rest ih =>
    rw [expand, along_append] at along
    refine ⟨along.1, ?_⟩
    dsimp only
    cases result : run step (parts s a) s with
    | error panic => trivial
    | ok next =>
      rw [result] at along
      exact ih along.2

theorem mem_expand {step : B -> S -> Fallible S} {parts : S -> A -> List B} {as : List A} {s : S} {b : B}
    (member : b ∈ expand step parts as s) : ∃ a ∈ as, ∃ s, b ∈ parts s a := by
  induction as generalizing s with
  | nil => cases member
  | cons a rest ih =>
    rcases List.mem_append.mp member with here | later
    next => exact ⟨a, List.mem_cons_self, s, here⟩
    next =>
      cases result : run step (parts s a) s with
      | error panic => simp [result] at later
      | ok next =>
        simp only [result] at later
        obtain ⟨a, inside, more⟩ := ih later
        exact ⟨a, List.mem_cons_of_mem _ inside, more⟩

theorem Along.with_members {step : A -> S -> Fallible S} {ok : A -> S -> Prop} {extra : A -> Prop} {as : List A}
    {s : S} (along : Along step ok as s) (members : ∀ a ∈ as, extra a) :
    Along step (fun a s => ok a s ∧ extra a) as s := by
  induction as generalizing s with
  | nil => trivial
  | cons a rest ih =>
    refine ⟨⟨along.1, members a List.mem_cons_self⟩, along.2.weaken fun next tail => ?_⟩
    exact ih tail fun a inside => members a (List.mem_cons_of_mem _ inside)

theorem run_ensures {allowed : Panic -> Prop} {step : A -> S -> Fallible S} {ok : A -> S -> Prop}
    {good : S -> Prop} (one : ∀ a s, ok a s -> good s -> Ensures allowed (step a s) good)
    {as : List A} {s : S} (along : Along step ok as s) (start : good s) :
    Ensures allowed (run step as s) good := by
  induction as generalizing s with
  | nil => exact start
  | cons a rest ih =>
    have first := one a s along.1 start
    rw [run_cons]
    cases result : step a s with
    | error panic => rw [result] at first; exact first
    | ok next =>
      rw [result] at first
      exact ih (along.2.of_ok result) first

theorem throughout_of_along {step : A -> S -> Fallible S} {ok : A -> S -> Prop} {good : S -> Prop}
    (one : ∀ a s, ok a s -> good s -> Ensures AnyPanic (step a s) good) {as : List A} {s : S}
    (along : Along step ok as s) (start : good s) : Throughout step good as s := by
  induction as generalizing s with
  | nil => exact start
  | cons a rest ih =>
    refine ⟨start, ?_⟩
    have first := one a s along.1 start
    cases result : step a s with
    | error panic => trivial
    | ok next =>
      rw [result] at first
      exact ih (along.2.of_ok result) first

theorem Along.with_invariant {step : A -> S -> Fallible S} {ok : A -> S -> Prop} {good : S -> Prop}
    (one : ∀ a s, ok a s -> good s -> Ensures AnyPanic (step a s) good) {as : List A} {s : S}
    (along : Along step ok as s) (start : good s) : Along step (fun a s => ok a s ∧ good s) as s := by
  induction as generalizing s with
  | nil => trivial
  | cons a rest ih =>
    have first := one a s along.1 start
    refine ⟨⟨along.1, start⟩, ?_⟩
    exact (along.2.and first).weaken fun next both => ih both.1 both.2

theorem Throughout.weaken {step : A -> S -> Fallible S} {strong weak : S -> Prop} {as : List A} {s : S}
    (through : Throughout step strong as s) (implied : ∀ s, strong s -> weak s) : Throughout step weak as s := by
  induction as generalizing s with
  | nil => exact implied s through
  | cons a rest ih => exact ⟨implied s through.1, through.2.weaken fun next tail => ih tail⟩

theorem Throughout.along {step : A -> S -> Fallible S} {good : S -> Prop} {weak : A -> S -> Prop} {as : List A} {s : S}
    (through : Throughout step good as s) (implied : ∀ a s, good s -> weak a s) : Along step weak as s := by
  induction as generalizing s with
  | nil => trivial
  | cons a rest ih => exact ⟨implied a s through.1, through.2.weaken fun next tail => ih tail⟩

theorem Throughout.last {step : A -> S -> Fallible S} {good : S -> Prop} {as : List A} {s : S}
    (through : Throughout step good as s) : Ensures AnyPanic (run step as s) good := by
  induction as generalizing s with
  | nil => exact through
  | cons a rest ih => exact through.2.bind fun next tail => ih tail

theorem run_ensures_counted {allowed : Nat -> Panic -> Prop} {step : A -> S -> Fallible S} {good : Nat -> S -> Prop}
    (one : ∀ count a s, good count s -> Ensures (allowed (count + 1)) (step a s) (good (count + 1)))
    (later : ∀ count panic, allowed count panic -> allowed (count + 1) panic) (as : List A) {count : Nat} {s : S}
    (start : good count s) : Ensures (allowed (count + as.length)) (run step as s) (good (count + as.length)) := by
  induction as generalizing count s with
  | nil => exact start
  | cons a rest ih =>
    have first := one count a s start
    have total : count + (a :: rest).length = count + 1 + rest.length := by
      rw [List.length_cons]
      omega
    rw [run_cons, total]
    cases result : step a s with
    | error panic =>
      rw [result] at first
      show allowed (count + 1 + rest.length) panic
      clear ih total
      induction rest with
      | nil => exact first
      | cons b rest ih => exact later _ panic ih
    | ok next =>
      rw [result] at first
      exact ih first

theorem along_iff_within {step : A -> S -> Fallible S} {first second : A -> S -> Prop} {inside : S -> Prop}
    (same : ∀ a s, inside s -> (first a s ↔ second a s))
    (keeps : ∀ a s, inside s -> second a s -> Ensures AnyPanic (step a s) inside) (as : List A) {s : S}
    (start : inside s) : Along step first as s ↔ Along step second as s := by
  induction as generalizing s with
  | nil => exact Iff.rfl
  | cons a rest ih =>
    refine (and_congr_left' (same a s start)).trans (and_congr_right fun allowed => ?_)
    have stays := keeps a s start allowed
    cases result : step a s with
    | error panic => exact Iff.rfl
    | ok next =>
      rw [result] at stays
      exact ih stays

/-- A guard that the steps in question need in the states in question to stay good, and that is enough to stay
in them. -/
theorem throughout_iff_along_among {step : A -> S -> Fallible S} {ok : A -> S -> Prop} {inside good : S -> Prop}
    {called : A -> Prop} (implied : ∀ s, inside s -> good s)
    (keeps : ∀ a s, called a -> inside s -> ok a s -> Ensures AnyPanic (step a s) inside)
    (loses : ∀ a s, called a -> inside s -> ¬ ok a s -> ∃ next, step a s = .ok next ∧ ¬ good next)
    {as : List A} (among : ∀ a ∈ as, called a) {s : S} (start : inside s) :
    Throughout step good as s ↔ Along step ok as s := by
  -- The guard of the first step decides whether the next state is good, and the rest starts there.
  induction as generalizing s with
  | nil => exact ⟨fun _ => trivial, fun _ => implied s start⟩
  | cons a rest ih =>
    obtain ⟨first, later⟩ := List.forall_mem_cons.mp among
    constructor
    next =>
      rintro ⟨_, tail⟩
      have allowed : ok a s := by
        by_contra refused
        obtain ⟨next, result, bad⟩ := loses a s first start refused
        rw [result] at tail
        cases rest with
        | nil => exact bad tail
        | cons b rest => exact bad tail.1
      refine ⟨allowed, ?_⟩
      have stays := keeps a s first start allowed
      cases result : step a s with
      | error panic => trivial
      | ok next =>
        rw [result] at stays tail
        exact (ih later stays).mp tail
    next =>
      rintro ⟨allowed, tail⟩
      refine ⟨implied s start, ?_⟩
      have stays := keeps a s first start allowed
      cases result : step a s with
      | error panic => trivial
      | ok next =>
        rw [result] at stays tail
        exact (ih later stays).mpr tail

theorem throughout_iff_along_within {step : A -> S -> Fallible S} {ok : A -> S -> Prop} {inside good : S -> Prop}
    (implied : ∀ s, inside s -> good s)
    (keeps : ∀ a s, inside s -> ok a s -> Ensures AnyPanic (step a s) inside)
    (loses : ∀ a s, inside s -> ¬ ok a s -> ∃ next, step a s = .ok next ∧ ¬ good next)
    (as : List A) {s : S} (start : inside s) : Throughout step good as s ↔ Along step ok as s :=
  throughout_iff_along_among implied (fun a s _ => keeps a s) (fun a s _ => loses a s)
    (fun _ (_ : _ ∈ as) => trivial) start

theorem throughout_iff_along {step : A -> S -> Fallible S} {ok : A -> S -> Prop} {good : S -> Prop}
    (exact : ∀ a s, good s ->
      (Ensures AnyPanic (step a s) fun next => good next ↔ ok a s) ∧ (∀ panic, step a s = .error panic -> ok a s))
    (as : List A) {s : S} (start : good s) : Throughout step good as s ↔ Along step ok as s := by
  refine throughout_iff_along_within (fun _ => id) (fun a s holds allowed => ?_) (fun a s holds refused => ?_) as start
  next => exact (exact a s holds).1.weaken fun next same => same.mpr allowed
  next =>
    obtain ⟨next, failed⟩ := exact a s holds
    cases result : step a s with
    | error panic => exact absurd (failed panic result) refused
    | ok s' => exact ⟨s', rfl, mt (next.of_ok result).mp refused⟩

theorem along_project {T : Type} {step : A -> S -> Fallible S} {whole : A -> T -> Fallible T} (part : T -> S)
    (same : ∀ a t, (whole a t).map part = step a (part t)) (ok : A -> S -> Prop) (as : List A) (t : T) :
    Along whole (fun a t => ok a (part t)) as t ↔ Along step ok as (part t) := by
  induction as generalizing t with
  | nil => exact Iff.rfl
  | cons a rest ih =>
    have one := same a t
    simp only [Along]
    rw [← one]
    cases whole a t with
    | error panic => exact Iff.rfl
    | ok next => exact and_congr_right fun _ => ih next

end Checked

namespace WriteBack

open Checked

variable {A S C : Type}

theorem run_copy {step : A -> S -> Fallible S} {copy : S -> Option C} {shows : S -> C -> Prop}
    (each : ∀ a s next, step a s = .ok next -> copy next = copy s ∨ ∃ c, copy next = some c ∧ shows next c)
    {as : List A} {s last : S} (ran : run step as s = .ok last) :
    copy last = copy s ∨ ∃ earlier later middle c, as = earlier ++ later ∧ run step earlier s = .ok middle ∧
      copy last = some c ∧ shows middle c := by
  induction as generalizing s with
  | nil =>
    cases ran
    exact .inl rfl
  | cons a rest ih =>
    rw [run_cons] at ran
    cases moved : step a s with
    | error panic => rw [moved] at ran; cases ran
    | ok next =>
      rw [moved, ok_bind] at ran
      rcases ih ran with same | ⟨earlier, later, middle, c, parts, reached, holds, shown⟩
      next =>
        rcases each a s next moved with kept | ⟨c, holds, shown⟩
        next => exact .inl (same.trans kept)
        next => exact .inr ⟨[a], rest, next, c, rfl, by rw [run_cons, moved, ok_bind, run_nil], same.trans holds, shown⟩
      next =>
        refine .inr ⟨a :: earlier, later, middle, c, by rw [parts, List.cons_append], ?_, holds, shown⟩
        rw [run_cons, moved, ok_bind, reached]

/-- The copy is current unless a change is noted. -/
def Tracked (changed : S -> Bool) (current : S -> Prop) (s : S) : Prop := changed s = false -> current s

theorem Tracked.after {changed : S -> Bool} {current : S -> Prop} {s next : S} (tracked : Tracked changed current s)
    (does : changed next = true ∨ current next ∨ changed next = changed s ∧ (current s -> current next)) :
    Tracked changed current next := by
  intro unchanged
  rcases does with noted | written | ⟨same, kept⟩
  next => exact absurd (noted.symm.trans unchanged) (by decide)
  next => exact written
  next => exact kept (tracked (same.symm.trans unchanged))

end WriteBack
