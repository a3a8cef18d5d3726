import BraceTemplate.Expansion
import BraceTemplate.Proofs.Rendering
import Mathlib.Logic.Relation

/-!
# BraceTemplate.Proofs.Pool

Chunks on worker threads. A step of the pool is a step of any one task, in any order, as long as no
more tasks run than there are workers; or the caller, who waits for the tasks in the order in which
they were submitted, takes the next chunk or meets the next fault. After a fault the caller takes no
more chunks, but the tasks go on to their end.

* `Pool.answer_step`: no step changes what the pool will come to.
* `Pool.weight_step`, `Pool.exists_step`: a pool that is not done can go on, though not forever.
* `parallel_eq_sequential`: whatever the order of the steps, the workers' result has the outputs and
  the errors of the sets rendered one after the other, or their fault.
-/

namespace BraceTemplate

inductive Task where
  /-- Sets that no worker has begun, with the number of the first. -/
  | waiting (start : Nat) (sets : List (List Value))
  /-- What a worker has rendered, and the sets that are left with the number of the first. -/
  | running (rendered : Chunk) (next : Nat) (left : List (List Value))
  | ended (result : Except Fault Chunk)

/-- Tasks of which the first chunks have been collected. -/
structure Pool where
  collected : List Chunk
  /-- The fault that the caller has met. -/
  raised : Option Fault
  /-- The tasks that the caller has not come to, in the order in which they were submitted. -/
  tasks : List Task

namespace Task

def isRunning : Task → Bool
  | running .. => true
  | _ => false

def isEnded : Task → Bool
  | ended _ => true
  | _ => false

section

variable (expandSet : List Value → Except Failure Text)

/-- A worker renders the next set of its task, or ends the task. -/
inductive Step : Task → Task → Prop where
  | text {c : Chunk} {n : Nat} {set : List Value} {sets : List (List Value)} {t : Text}
      (h : expandSet set = .ok t) :
      Step (running c n (set :: sets)) (running (c.append ⟨[some t], []⟩) (n + 1) sets)
  | failed {c : Chunk} {n : Nat} {set : List Value} {sets : List (List Value)}
      {e : ExpansionError} (h : expandSet set = .error (.expansion e)) :
      Step (running c n (set :: sets)) (running (c.append ⟨[none], [(n, e)]⟩) (n + 1) sets)
  | fault {c : Chunk} {n : Nat} {set : List Value} {sets : List (List Value)} {g : Fault}
      (h : expandSet set = .error (.fault g)) :
      Step (running c n (set :: sets)) (ended (.error g))
  | finish {c : Chunk} {n : Nat} : Step (running c n []) (ended (.ok c))

/-- What the task will come to. -/
def answer : Task → Except Fault Chunk
  | waiting start sets => Chunk.render expandSet start sets
  | running c next left => c.append <$> Chunk.render expandSet next left
  | ended result => result

end

/-- More than the number of steps that the task can still make. -/
def weight : Task → Nat
  | waiting _ sets => sets.length + 3
  | running _ _ left => left.length + 2
  | ended _ => 1

variable {expandSet : List Value → Except Failure Text} {t t' : Task}

theorem answer_step (h : Step expandSet t t') : t'.answer expandSet = t.answer expandSet := by
  cases h with
  | @text c n set sets t h =>
    simp only [answer, Chunk.render_cons_of_text h]
    cases Chunk.render expandSet (n + 1) sets with
    | ok rest => exact congrArg Except.ok (Chunk.append_assoc c _ rest)
    | error g => rfl
  | @failed c n set sets e h =>
    simp only [answer, Chunk.render_cons_of_failed h]
    cases Chunk.render expandSet (n + 1) sets with
    | ok rest => exact congrArg Except.ok (Chunk.append_assoc c _ rest)
    | error g => rfl
  | fault h =>
    simp only [answer, Chunk.render_cons_of_fault h]
    rfl
  | @finish c n => exact congrArg Except.ok (Chunk.append_empty c).symm

theorem weight_step (h : Step expandSet t t') : t'.weight < t.weight := by
  cases h with
  | text h =>
    simp only [weight, List.length_cons]
    omega
  | failed h =>
    simp only [weight, List.length_cons]
    omega
  | fault h =>
    simp only [weight]
    omega
  | finish =>
    simp only [weight]
    omega

theorem exists_step_of_isRunning (expandSet : List Value → Except Failure Text)
    (h : t.isRunning = true) : ∃ t', Step expandSet t t' := by
  cases t with
  | waiting start sets => cases h
  | ended result => cases h
  | running c n left =>
    cases left with
    | nil => exact ⟨_, .finish⟩
    | cons set sets =>
      cases hset : expandSet set with
      | ok t => exact ⟨_, .text hset⟩
      | error e =>
        cases e with
        | expansion e => exact ⟨_, .failed hset⟩
        | fault g => exact ⟨_, .fault hset⟩

end Task

namespace Pool

/-- One task for each chunk of sets. -/
def submitted (options : BatchOptions) (sets : List (List Value)) : Pool :=
  ⟨[], none, (Chunk.cut options.batchSize.toNat 0 sets).map fun c => .waiting c.1 c.2⟩

section

variable (expandSet : List Value → Except Failure Text) (workers : Nat)

/-- A step of a worker or of the caller. -/
inductive Step : Pool → Pool → Prop where
  | start {cs : List Chunk} {raised : Option Fault} {before after : List Task} {n : Nat}
      {sets : List (List Value)} (h : (before ++ after).countP Task.isRunning < workers) :
      Step ⟨cs, raised, before ++ .waiting n sets :: after⟩
        ⟨cs, raised, before ++ .running .empty n sets :: after⟩
  | work {cs : List Chunk} {raised : Option Fault} {before after : List Task} {t t' : Task}
      (h : Task.Step expandSet t t') :
      Step ⟨cs, raised, before ++ t :: after⟩ ⟨cs, raised, before ++ t' :: after⟩
  | collect {cs : List Chunk} {c : Chunk} {ts : List Task} :
      Step ⟨cs, none, .ended (.ok c) :: ts⟩ ⟨cs ++ [c], none, ts⟩
  | raise {cs : List Chunk} {g : Fault} {ts : List Task} :
      Step ⟨cs, none, .ended (.error g) :: ts⟩ ⟨cs, some g, ts⟩

/-- Steps one after the other. -/
abbrev Steps : Pool → Pool → Prop := Relation.ReflTransGen (Step expandSet workers)

/-- What the caller will come to. -/
def answer (p : Pool) : Except Fault (List Chunk) :=
  match p.raised with
  | some g => .error g
  | none => (p.collected ++ ·) <$> p.tasks.mapM (Task.answer expandSet)

end

/-- Nothing is left to do: no task, or after a fault no task that has not ended. -/
def Done (p : Pool) : Prop :=
  match p.raised with
  | some _ => ∀ t ∈ p.tasks, t.isEnded = true
  | none => p.tasks = []

/-- What the caller has. -/
def result (p : Pool) : Except Fault (List Chunk) :=
  match p.raised with
  | some g => .error g
  | none => .ok p.collected

def weight (p : Pool) : Nat := (p.tasks.map Task.weight).sum

variable {expandSet : List Value → Except Failure Text} {workers : Nat} {p q : Pool}

/-! ## What a pool comes to -/

theorem answer_replace {cs : List Chunk} {raised : Option Fault} {before after : List Task}
    {t t' : Task} (h : t'.answer expandSet = t.answer expandSet) :
    answer expandSet ⟨cs, raised, before ++ t' :: after⟩ =
      answer expandSet ⟨cs, raised, before ++ t :: after⟩ := by
  simp only [answer, List.mapM_append, List.mapM_cons, h]

/-- No step changes what the pool will come to. -/
theorem answer_step (h : Step expandSet workers p q) : q.answer expandSet = p.answer expandSet := by
  cases h with
  | @start _ _ _ _ n sets h =>
    refine answer_replace ?_
    simp only [Task.answer]
    cases Chunk.render expandSet n sets with
    | ok c => rfl
    | error g => rfl
  | work h => exact answer_replace (Task.answer_step h)
  | @collect cs c ts =>
    simp only [answer, List.mapM_cons, Task.answer]
    cases ts.mapM (Task.answer expandSet) with
    | ok rest => exact congrArg Except.ok (List.append_assoc cs [c] rest)
    | error g => rfl
  | raise => rfl

theorem answer_steps (h : Steps expandSet workers p q) :
    q.answer expandSet = p.answer expandSet := by
  induction h with
  | refl => rfl
  | tail _ hstep ih => rw [answer_step hstep, ih]

theorem answer_of_done (expandSet : List Value → Except Failure Text) (h : p.Done) :
    p.answer expandSet = p.result := by
  obtain ⟨cs, raised, ts⟩ := p
  cases raised with
  | some g => rfl
  | none =>
    obtain rfl : ts = [] := h
    exact congrArg Except.ok (List.append_nil cs)

theorem answer_submitted (options : BatchOptions) (sets : List (List Value)) :
    (submitted options sets).answer expandSet =
      Chunk.renderAll expandSet (Chunk.cut options.batchSize.toNat 0 sets) := by
  have hall : ∀ chunks : List (Nat × List (List Value)),
      (chunks.map fun c => Task.waiting c.1 c.2).mapM (Task.answer expandSet) =
        Chunk.renderAll expandSet chunks := by
    intro chunks
    induction chunks with
    | nil => rfl
    | cons c chunks ih =>
      rw [List.map_cons, List.mapM_cons, ih, Chunk.renderAll, Task.answer]
      cases Chunk.render expandSet c.1 c.2 with
      | error g => rfl
      | ok first =>
        cases Chunk.renderAll expandSet chunks with
        | error g => rfl
        | ok rest => rfl
  simp only [answer, submitted, hall]
  cases Chunk.renderAll expandSet (Chunk.cut options.batchSize.toNat 0 sets) with
  | ok cs => rfl
  | error g => rfl

/-! ## A pool comes to an end -/

theorem weight_step (h : Step expandSet workers p q) : q.weight < p.weight := by
  cases h with
  | start h =>
    simp only [weight, List.map_append, List.map_cons, List.sum_append, List.sum_cons, Task.weight]
    omega
  | work h =>
    have ht := Task.weight_step h
    simp only [weight, List.map_append, List.map_cons, List.sum_append, List.sum_cons]
    omega
  | collect =>
    simp only [weight, List.map_cons, List.sum_cons, Task.weight]
    omega
  | raise =>
    simp only [weight, List.map_cons, List.sum_cons, Task.weight]
    omega

theorem wellFounded_step (expandSet : List Value → Except Failure Text) (workers : Nat) :
    WellFounded fun q p => Step expandSet workers p q :=
  Subrelation.wf weight_step (measure weight).wf

/-- A pool with a worker is never stuck: a task that runs can go on; if none runs, one that waits
can start; and if all have ended, the caller takes the first. -/
theorem exists_step (expandSet : List Value → Except Failure Text) (hworkers : 1 ≤ workers)
    (h : ¬p.Done) : ∃ q, Step expandSet workers p q := by
  obtain ⟨cs, raised, ts⟩ := p
  by_cases hrunning : ∃ t ∈ ts, t.isRunning = true
  · obtain ⟨t, ht, hrun⟩ := hrunning
    obtain ⟨before, after, rfl⟩ := List.append_of_mem ht
    obtain ⟨t', hstep⟩ := Task.exists_step_of_isRunning expandSet hrun
    exact ⟨_, .work hstep⟩
  by_cases hended : ∀ t ∈ ts, t.isEnded = true
  · cases raised with
    | some g => exact absurd hended h
    | none =>
      cases ts with
      | nil => exact absurd rfl h
      | cons t ts =>
        cases t with
        | waiting n sets => cases hended _ List.mem_cons_self
        | running c n left => cases hended _ List.mem_cons_self
        | ended result =>
          cases result with
          | ok c => exact ⟨_, .collect⟩
          | error g => exact ⟨_, .raise⟩
  · obtain ⟨t, ht⟩ := Classical.not_forall.1 hended
    obtain ⟨ht, hnotended⟩ := Classical.not_imp.1 ht
    obtain ⟨before, after, rfl⟩ := List.append_of_mem ht
    cases t with
    | waiting n sets =>
      refine ⟨_, .start ?_⟩
      have hnone : (before ++ after).countP Task.isRunning = 0 := by
        refine List.countP_eq_zero.2 fun u hu hrun => hrunning ⟨u, ?_, hrun⟩
        rcases List.mem_append.1 hu with hu | hu
        · exact List.mem_append_left _ hu
        · exact List.mem_append_right _ (List.mem_cons_of_mem _ hu)
      omega
    | running c n left => exact absurd ⟨_, ht, rfl⟩ hrunning
    | ended result => exact absurd rfl hnotended

/-- Every pool can be brought to its end, by induction on its weight. -/
theorem exists_steps_done (expandSet : List Value → Except Failure Text) (hworkers : 1 ≤ workers)
    (p : Pool) : ∃ q, Steps expandSet workers p q ∧ q.Done := by
  induction p using (wellFounded_step expandSet workers).induction with
  | _ p ih =>
    by_cases h : p.Done
    · exact ⟨p, .refl, h⟩
    · obtain ⟨q, hstep⟩ := exists_step expandSet hworkers h
      obtain ⟨r, hsteps, hdone⟩ := ih q hstep
      exact ⟨r, .head hstep hsteps, hdone⟩

end Pool

/-- What rendering a batch can give: the sets one after the other, or the workers' chunks when
their pool is done. -/
inductive Renders (expandSet : List Value → Except Failure Text) (options : BatchOptions)
    (sets : List (List Value)) : Except Fault BatchResult → Prop where
  | sequential (h : options.usesWorkers sets = false) :
      Renders expandSet options sets (renderBatch expandSet options sets)
  | workers {p : Pool} (h : options.usesWorkers sets = true)
      (run : Pool.Steps expandSet options.workers.toNat (Pool.submitted options sets) p)
      (done : p.Done) :
      Renders expandSet options sets (BatchResult.ofChunks options sets <$> p.result)

/-- Two renderings of the same sets: the same outputs and errors, or the fault of the first set that
ends in one. -/
inductive SameRendering (expandSet : List Value → Except Failure Text) (sets : List (List Value)) :
    Except Fault BatchResult → Except Fault BatchResult → Prop where
  | returned {a b : BatchResult} (outputs : a.outputs = b.outputs) (errors : a.errors = b.errors)
      (successCount : a.successCount = b.successCount) (errorCount : a.errorCount = b.errorCount)
      (count : a.outputs.length = sets.length)
      (place : ∀ (i : Nat) (set : List Value), sets[i]? = some set →
        a.outputs[i]? = some (expandSet set).toOption)
      (progress : a.progress.sum = sets.length) (progress' : b.progress.sum = sets.length) :
      SameRendering expandSet sets (.ok a) (.ok b)
  | raised {g : Fault} {before : List (List Value)} {set : List Value} {after : List (List Value)}
      (at_ : sets = before ++ set :: after) (fault : expandSet set = .error (.fault g))
      (first : ∀ earlier ∈ before, ∀ g', expandSet earlier ≠ .error (.fault g')) :
      SameRendering expandSet sets (.error g) (.error g)

section

variable {expandSet : List Value → Except Failure Text} {sets : List (List Value)}

theorem renders_iff (options : BatchOptions) (hsize : 1 ≤ options.batchSize)
    (hworkers : 1 ≤ options.workers) {r : Except Fault BatchResult} :
    Renders expandSet options sets r ↔ r = renderBatch expandSet options sets := by
  have hresult : ∀ p, Pool.Steps expandSet options.workers.toNat (Pool.submitted options sets) p →
      p.Done → p.result = Chunk.renderAll expandSet (Chunk.cut options.batchSize.toNat 0 sets) := by
    intro p run done
    rw [← Pool.answer_of_done expandSet done, Pool.answer_steps run,
      Pool.answer_submitted]
  constructor
  · intro h
    cases h with
    | sequential h => rfl
    | @workers p h run done => rw [renderBatch_of_workers (by omega) hworkers h, hresult p run done]
  · rintro rfl
    cases h : options.usesWorkers sets with
    | false => exact .sequential h
    | true =>
      have hpositive : 1 ≤ options.workers.toNat := by omega
      obtain ⟨p, run, done⟩ :=
        Pool.exists_steps_done expandSet hpositive (Pool.submitted options sets)
      rw [renderBatch_of_workers (by omega) hworkers h, ← hresult p run done]
      exact .workers h run done

theorem sameRendering_of_batchEnd {r s : Except Fault BatchResult}
    (hr : BatchEnd expandSet sets r) (hs : BatchEnd expandSet sets s) :
    SameRendering expandSet sets r s := by
  cases hr with
  | @returned a hfirst ha =>
    cases hs with
    | raised hfirst' => rw [hfirst] at hfirst'; cases hfirst'
    | @returned b hfirst' hb =>
      have herrors : a.errors = b.errors := ha.errors.trans hb.errors.symm
      refine .returned (ha.outputs.trans hb.outputs.symm) herrors ?_ ?_ ?_ ?_ ha.progress
        hb.progress
      · rw [BatchResult.successCount, BatchResult.successCount, herrors, ha.setCount, hb.setCount]
      · rw [BatchResult.errorCount, BatchResult.errorCount, herrors]
      · rw [ha.outputs, outputsOf, List.length_map]
      · intro i set hset
        rw [ha.outputs, outputsOf, List.getElem?_map, hset]
        rfl
  | @raised g hfirst =>
    cases hs with
    | returned hfirst' hb => rw [hfirst] at hfirst'; cases hfirst'
    | raised hfirst' =>
      rw [hfirst] at hfirst'
      cases hfirst'
      obtain ⟨before, set, after, hsets, hset, hbefore⟩ := firstFault?_eq_some hfirst
      refine .raised hsets hset fun earlier hmem g' hearlier => ?_
      have hnone := hbefore earlier hmem
      rw [Failure.fault?_eq_some_iff.2 hearlier] at hnone
      cases hnone

end

/-- With any settings and clock: the workers never get stuck and never go on forever, and any two
renderings of the sets, by the workers in whatever order and one after the other, are the same. -/
theorem parallel_eq_sequential (settings : Settings) (clock : Calendar.Moment) (template : Text)
    (sets : List (List Value)) (options : BatchOptions) (hsize : 1 ≤ options.batchSize)
    (hworkers : 1 ≤ options.workers) :
    let expandSet := expand settings clock template
    let step := Pool.Step expandSet options.workers.toNat
    (∀ p, Pool.Steps expandSet options.workers.toNat (Pool.submitted options sets) p →
        p.Done ∨ ∃ q, step p q) ∧
      WellFounded (fun q p => step p q) ∧
      (∀ parallel, ∃ r, Renders expandSet { options with parallel } sets r) ∧
      ∀ r s, Renders expandSet { options with parallel := true } sets r →
        Renders expandSet { options with parallel := false } sets s →
        SameRendering expandSet sets r s := by
  intro expandSet step
  have renders : ∀ parallel r, Renders expandSet { options with parallel } sets r ↔
      r = renderBatch expandSet { options with parallel } sets :=
    fun parallel _ => renders_iff { options with parallel } hsize hworkers
  refine ⟨fun p _ => ?_, Pool.wellFounded_step expandSet _, ?_, fun r s hr hs => ?_⟩
  · by_cases h : p.Done
    · exact .inl h
    · exact .inr (Pool.exists_step expandSet (by omega) h)
  · exact fun parallel => ⟨_, (renders parallel _).2 rfl⟩
  · rw [(renders true r).1 hr, (renders false s).1 hs]
    exact sameRendering_of_batchEnd (batchEnd_renderBatch hsize hworkers)
      (batchEnd_renderBatch hsize hworkers)

/-- Three sets in two chunks, the second set without an integer as its bound. -/
theorem parallel_eq_sequential_two_chunks :
    let expandSet := expand {} ⟨0, some 0⟩ "\x7b[\x7b\x7d]\x7d".toText
    let sets :=
      [[.text "hamburger".toText, .int 4], [.text ['a'], .text ['b']], [.text "pea".toText]]
    SameRendering expandSet sets (renderBatch expandSet ⟨2, 2, true⟩ sets)
        (renderBatch expandSet ⟨2, 2, false⟩ sets) ∧
      (renderBatch expandSet ⟨2, 2, true⟩ sets).toOption.map (·.outputs) =
        some [some "urger".toText, none, some "pea".toText] := by
  intro expandSet sets
  have hall := (parallel_eq_sequential {} ⟨0, some 0⟩ "\x7b[\x7b\x7d]\x7d".toText sets ⟨2, 2, true⟩
    (by decide) (by decide)).2.2.2
  have workers : Renders expandSet ⟨2, 2, true⟩ sets (renderBatch expandSet ⟨2, 2, true⟩ sets) :=
    (renders_iff _ (by decide) (by decide)).2 rfl
  have oneByOne : Renders expandSet ⟨2, 2, false⟩ sets (renderBatch expandSet ⟨2, 2, false⟩ sets) :=
    (renders_iff _ (by decide) (by decide)).2 rfl
  exact ⟨hall _ _ workers oneByOne, by decide +kernel⟩

end BraceTemplate
