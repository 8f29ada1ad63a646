import Fuatilia.Foundations.Processes

/-!
# Jobs: programs made of atomic statements

A job works on a world that it shares with others. It is a sequence of statements, each of them
atomic; what a statement saw of the world decides how the job goes on. A job that runs alone goes
through all its statements; among other jobs it takes one at a time, and it may be killed between
any two.

## Main definitions

* `Jobs.Job`, `Jobs.Job.finish`, `Jobs.system`, `Jobs.Job.Spec`.

## Main results

* `Jobs.Job.finish_foldlM`, `Jobs.Job.Spec.bind`, `Jobs.Job.Spec.foldlM`, `Jobs.invariant_run`.
-/

namespace Jobs

open Lists Machine Processes

variable {W ε α β γ R : Type}

/-- A job on the world `W`: it has ended, or it is at a statement. The statement changes the world
by `act`; the rest of the job depends on the world that the statement saw. -/
inductive Job (W ε α : Type) : Type where
  | done (result : Except ε α)
  | stmt (act : W → W) (rest : W → Job W ε α)

namespace Job

def bind : Job W ε α → (α → Job W ε β) → Job W ε β
  | done (.ok a), f => f a
  | done (.error e), _ => done (.error e)
  | stmt act rest, f => stmt act fun w => (rest w).bind f

instance : Monad (Job W ε) where
  pure a := done (.ok a)
  bind := bind

def fail (e : ε) : Job W ε α := done (.error e)

def attempt (x : Except ε α) : Job W ε α := done x

def call (f : W → W × Except ε α) : Job W ε α :=
  stmt (fun w => (f w).1) fun w => done (f w).2

def query (f : W → α) : Job W ε α := call fun w => (w, .ok (f w))

/-! ## A job alone -/

/-- The world and the outcome of a job that runs alone. -/
def finish : Job W ε α → W → W × Except ε α
  | done result, w => (w, result)
  | stmt act rest, w => (rest w).finish (act w)

/-- What follows the outcome of a job: the next one on its world, or nothing after an error. -/
def andThen (f : α → Job W ε β) : W × Except ε α → W × Except ε β
  | (w, .ok a) => (f a).finish w
  | (w, .error e) => (w, .error e)

@[simp]
lemma andThen_ok (f : α → Job W ε β) (w : W) (a : α) : andThen f (w, .ok a) = (f a).finish w := rfl

@[simp]
lemma andThen_error (f : α → Job W ε β) (w : W) (e : ε) :
    andThen f (w, .error e) = (w, .error e) := rfl

@[simp]
lemma finish_attempt (x : Except ε α) (w : W) : (attempt x : Job W ε α).finish w = (w, x) := rfl

@[simp]
lemma finish_call (f : W → W × Except ε α) (w : W) : (call f).finish w = f w := rfl

@[simp]
lemma finish_query (f : W → α) (w : W) : (query f : Job W ε α).finish w = (w, .ok (f w)) := rfl

@[simp]
lemma finish_bind (x : Job W ε α) (f : α → Job W ε β) (w : W) :
    (x >>= f).finish w = andThen f (x.finish w) := by
  change (x.bind f).finish w = andThen f (x.finish w)
  induction x generalizing w with
  | done result => cases result <;> rfl
  | stmt act rest ih => exact ih w (act w)

/-- The outcome of a job alone: it has returned with `Q`, or failed and left a world with `E`. -/
def Ends (Q : α → W → Prop) (E : W → Prop) : W × Except ε α → Prop
  | (w, .ok a) => Q a w
  | (w, .error _) => E w

section Ends

variable {Q : α → W → Prop} {E : W → Prop} {w : W}

variable {x : W × Except ε α}

lemma Ends.mono {Q' : α → W → Prop} {E' : W → Prop} (h : Ends Q E x)
    (hQ : ∀ a w, Q a w → Q' a w) (hE : ∀ w, E w → E' w) : Ends Q' E' x := by
  obtain ⟨w, e | a⟩ := x
  · exact hE w h
  · exact hQ a w h

lemma Ends.world {Q : W → Prop} (h : Ends (fun _ => Q) E x) : Q x.1 ∨ E x.1 := by
  obtain ⟨w, e | a⟩ := x
  · exact .inr h
  · exact .inl h

lemma Ends.bind {x : Job W ε α} {f : α → Job W ε β} {T : β → W → Prop} (hx : Ends Q E (x.finish w))
    (hf : ∀ a w', Q a w' → Ends T E ((f a).finish w')) : Ends T E ((x >>= f).finish w) := by
  rw [finish_bind]
  match hrun : x.finish w with
  | (w', .ok a) =>
    rw [hrun] at hx
    exact hf a w' hx
  | (w', .error e) =>
    rw [hrun] at hx
    exact hx

/-- **A loop alone.** Let `P` describe the state of the loop after elements that pass, and `F` what
it leaves when the last one does not. Then the loop has visited the elements up to the first that
does not pass. -/
theorem finish_foldlM {body : β → γ → Job W ε β} {q : γ → Prop} [DecidablePred q]
    {P : List γ → β → W → Prop} {F : List γ → W → Prop} {l : List γ}
    (hbody : ∀ passed c rest b w, l = passed ++ c :: rest → P passed b w →
      Ends (fun b' w' => q c ∧ P (passed ++ [c]) b' w') (fun w' => ¬ q c ∧ F (passed ++ [c]) w')
        ((body b c).finish w)) {b : β} (hstart : P [] b w) :
    Ends (fun b' w' => (∀ c ∈ l, q c) ∧ P (upTo q l) b' w')
      (fun w' => (¬ ∀ c ∈ l, q c) ∧ F (upTo q l) w') ((l.foldlM body b).finish w) := by
  -- the elements still to come are the induction, the passed ones are part of the statement
  suffices h : ∀ rest passed b w, l = passed ++ rest → (∀ c ∈ passed, q c) → P passed b w →
      Ends (fun b' w' => (∀ c ∈ l, q c) ∧ P (upTo q l) b' w')
        (fun w' => (¬ ∀ c ∈ l, q c) ∧ F (upTo q l) w') ((rest.foldlM body b).finish w) from
    h l [] b w rfl (fun c hc => nomatch hc) hstart
  intro rest
  induction rest with
  | nil =>
    intro passed b w hl hq hP
    rw [hl, upTo_append hq, List.append_nil]
    exact ⟨hq, by rwa [upTo, List.append_nil]⟩
  | cons c rest ih =>
    intro passed b w hl hq hP
    rw [List.foldlM_cons]
    refine Ends.bind ((hbody passed c rest b w hl hP).mono (fun _ _ h => h) ?_) ?_
    · rintro w' ⟨hc, hF⟩
      refine ⟨fun hall => hc (hall c (hl ▸ List.mem_append_cons_self)), ?_⟩
      rw [hl, upTo_append hq, upTo_cons_of_not hc]
      exact hF
    · rintro b' w' ⟨hc, hP'⟩
      exact ih (passed ++ [c]) b' w' (by rw [hl, List.append_assoc, List.singleton_append])
        (forall_mem_concat hq hc) hP'

end Ends

end Job

/-! ## Jobs among others -/

/-- Jobs as processes: a step of a process is the next statement of its job. -/
def system (start : R → Job W ε α) : Processes.System W R (Job W ε α) where
  start := start
  advance w
    | .done _ => (w, none)
    | .stmt act rest => (act w, some (rest w))

/-- The world after jobs that run one after another, each alone. -/
def serial (start : R → Job W ε α) (requests : List R) (w : W) : W :=
  requests.foldl (fun w r => ((start r).finish w).1) w

section Spec

variable (I : W → Prop) (G : W → W → Prop)

/-- A job that continues from the world `w`. Before its next statement the others may change the
world, as `G` allows and keeping `I`; the statement does the same. A job that returns `a` satisfies
`Q a`. -/
def Job.Spec (Q : α → W → Prop) : Job W ε α → W → Prop
  | .done (.ok a), w => Q a w
  | .done (.error _), _ => True
  | .stmt act rest, w => ∀ w', G w w' → I w' → I (act w') ∧ G w' (act w') ∧
      (rest w').Spec Q (act w')

variable {I G} {Q : α → W → Prop}

namespace Job.Spec

variable {w : W} {x : Job W ε α}

lemma pure {a : α} (h : Q a w) : (pure a : Job W ε α).Spec I G Q w := h

lemma attempt {x : Except ε α} (h : ∀ a, x = .ok a → Q a w) :
    (attempt x : Job W ε α).Spec I G Q w := by
  cases x with
  | ok a => exact h a rfl
  | error e => trivial

lemma call {f : W → W × Except ε α}
    (h : ∀ w', G w w' → I w' → I (f w').1 ∧ G w' (f w').1 ∧ ∀ a, (f w').2 = .ok a → Q a (f w').1) :
    (call f).Spec I G Q w := by
  intro w' hG hI
  obtain ⟨hI', hG', hQ⟩ := h w' hG hI
  exact ⟨hI', hG', attempt hQ⟩

/-- What needs no statement leaves the world to the rest of the job. -/
lemma attempt_bind {x : Except ε α} {f : α → Job W ε β} {T : β → W → Prop}
    (hf : ∀ a, (f a).Spec I G T w) : (Job.attempt x >>= f).Spec I G T w := by
  cases x with
  | ok a => exact hf a
  | error e => trivial

variable [IsPreorder W G]

lemma query {f : W → α} (h : ∀ w', G w w' → I w' → Q (f w') w') :
    (query f : Job W ε α).Spec I G Q w :=
  call fun w' hG hI => ⟨hI, refl_of G w', fun _ ha => Except.ok.inj ha ▸ h w' hG hI⟩

/-- **Sequencing.** The second job starts from the world that the first one left, changed by the
others. -/
theorem bind {f : α → Job W ε β} {T : β → W → Prop} (hx : x.Spec I G Q w)
    (hf : ∀ a w', G w w' → Q a w' → (f a).Spec I G T w') : (x >>= f).Spec I G T w := by
  change (x.bind f).Spec I G T w
  induction x generalizing w with
  | done result =>
    cases result with
    | ok a => exact hf a w (refl_of G w) hx
    | error e => trivial
  | stmt act rest ih =>
    intro w' hG hI
    obtain ⟨hI', hG', hrest⟩ := hx w' hG hI
    refine ⟨hI', hG', ih w' hrest fun a w'' hG'' hQ => ?_⟩
    exact hf a w'' (trans_of G (trans_of G hG hG') hG'') hQ

/-- **Loops.** What every turn of the loop keeps holds after the loop. -/
theorem foldlM {body : β → γ → Job W ε β} {P : β → W → Prop} {l : List γ}
    (hbody : ∀ b, ∀ c ∈ l, ∀ w', G w w' → P b w' → (body b c).Spec I G P w') {b : β}
    (hstart : P b w) : (l.foldlM body b).Spec I G P w := by
  induction l generalizing b w with
  | nil => exact hstart
  | cons c l ih =>
    rw [List.foldlM_cons]
    refine bind (hbody b c List.mem_cons_self w (refl_of G w) hstart) fun b' w' hG hP => ?_
    refine ih (fun b'' c' hc' w'' hG' => ?_) hP
    exact hbody b'' c' (List.mem_cons_of_mem c hc') w'' (trans_of G hG hG')

/-- Changes by the others do not hurt a job that has not begun its next statement. -/
lemma later {w' : W} (h : x.Spec I G (fun _ _ => True) w) (hG : G w w') :
    x.Spec I G (fun _ _ => True) w' := by
  cases x with
  | done result => cases result <;> trivial
  | stmt act rest => exact fun w'' hG' hI => h w'' (trans_of G hG hG') hI

end Job.Spec

/-- **The invariant rule.** Let every job keep `I` and change the world only as the preorder `G`
allows. Then `I` holds after every interleaving of jobs, killed ones included. -/
theorem invariant_run [IsPreorder W G] {start : R → Job W ε α}
    (hstart : ∀ r w, I w → (start r).Spec I G (fun _ _ => True) w) {w : W} (hw : I w)
    (events : List (Processes.Event R)) :
    I (run (step (system start)) ⟨w, []⟩ events).world := by
  have hadvance : ∀ (w : W) (job : Job W ε α), I w → job.Spec I G (fun _ _ => True) w →
      I ((system start).advance w job).1 ∧ G w ((system start).advance w job).1 ∧
        ∀ q, ((system start).advance w job).2 = some q →
          q.Spec I G (fun _ _ => True) ((system start).advance w job).1 := by
    intro w job hI hjob
    cases job with
    | done result => exact ⟨hI, refl_of G w, fun q hq => nomatch hq⟩
    | stmt act rest =>
      obtain ⟨hI', hG', hrest⟩ := hjob w (refl_of G w) hI
      exact ⟨hI', hG', fun q hq => Option.some.inj hq ▸ hrest⟩
  have hstep : ∀ s e s', Processes.Holds I (fun w job => job.Spec I G (fun _ _ => True) w) s →
      step (system start) s e = some s' →
      Processes.Holds I (fun w job => job.Spec I G (fun _ _ => True) w) s' := by
    intro s e s' hs h
    refine holds_of_step (C := fun s _ => I s.world) ?_ ?_ ?_ hs.world hs h
    · exact fun s r hI => hstart r s.world hI
    · intro s i job _ _ hI hjob
      obtain ⟨hI', -, hrest⟩ := hadvance s.world job hI hjob
      exact ⟨hI', hrest⟩
    · exact fun w job other hI hjob hother => hother.later (hadvance w job hI hjob).2.1
  exact (run_invariant_all hstep events ⟨w, []⟩ ⟨hw, fun p hp => nomatch hp⟩).world

end Spec

end Jobs
