import Mathlib.Data.List.FinRange
import Mathlib.Data.List.Induction
import Mathlib.Logic.Function.Basic
import Mathlib.Tactic.Common

/-!
# Cascades of stages

A cascade is a row of stages. A stage consumes events one at a time; each event it consumes may be
passed on to the stage above, which may refuse it. Two ways of running a cascade are compared:

- `push` runs an event depth first: the stage consumes it, the observer is told, and only then does
  the stage above see it;
- `run` runs the row stage by stage: a stage consumes its own events followed by everything that
  the stage below passed on.

`fold_push` says that both agree, and `run_run` that two runs in a row are one run on the
concatenated events, provided no stage has both events of its own and events from below.
-/

namespace Cascade

/-- Folding two families of functions that commute across the two families can be done one family
at a time. -/
theorem foldl_interchange {ι α : Type*} (A B : α → ι → α)
    (hcomm : ∀ a i j, B (A a i) j = A (B a j) i) (l : List ι) (a : α) :
    l.foldl (fun a i => B (A a i) i) a = l.foldl B (l.foldl A a) := by
  have move : ∀ (l : List ι) (a : α) (j : ι), l.foldl A (B a j) = B (l.foldl A a) j := by
    intro l
    induction l with
    | nil => intro a j; rfl
    | cons i l ih => intro a j; rw [List.foldl_cons, List.foldl_cons, ← hcomm, ih]
  induction l generalizing a with
  | nil => rfl
  | cons i l ih =>
      rw [List.foldl_cons, List.foldl_cons, List.foldl_cons, ih, move]

/-- A row of `n` stages with states in `σ`, events in `ε` and an observer in `α`. -/
structure Stages (n : Nat) (σ ε α : Type*) where
  /-- The state after consuming an event. -/
  next : σ → ε → σ
  /-- The event is passed on to the stage above. -/
  emits : σ → ε → Bool
  /-- A stage in this state takes the event from the stage below. -/
  admits : Fin n → σ → ε → Bool
  /-- What the observer records when a stage passes an event on. -/
  note : Fin n → σ → ε → α → α

variable {n : Nat} {σ ε α : Type*}

namespace Stages

/-- Consuming events changes neither what a stage admits nor how its emissions are recorded, and
the records of two emissions commute. -/
structure Lawful (c : Stages n σ ε α) : Prop where
  admits_next : ∀ i s e, c.admits i (c.next s e) = c.admits i s
  note_next : ∀ i s e, c.note i (c.next s e) = c.note i s
  note_comm : ∀ i s e j t f a, c.note j t f (c.note i s e a) = c.note i s e (c.note j t f a)

variable (c : Stages n σ ε α)

/-- The state after consuming a list of events. -/
def feed (s : σ) (es : List ε) : σ :=
  es.foldl c.next s

/-- The events of a list that the stage passes on. -/
def emitted : σ → List ε → List ε
  | _, [] => []
  | s, e :: es => if c.emits s e then e :: emitted (c.next s e) es else emitted (c.next s e) es

@[simp] theorem feed_nil (s : σ) : c.feed s [] = s := rfl

@[simp] theorem feed_cons (s : σ) (e : ε) (es : List ε) :
    c.feed s (e :: es) = c.feed (c.next s e) es := rfl

@[simp] theorem emitted_nil (s : σ) : c.emitted s [] = [] := rfl

theorem feed_append (s : σ) (es fs : List ε) : c.feed s (es ++ fs) = c.feed (c.feed s es) fs :=
  List.foldl_append

theorem emitted_append (s : σ) (es fs : List ε) :
    c.emitted s (es ++ fs) = c.emitted s es ++ c.emitted (c.feed s es) fs := by
  induction es generalizing s with
  | nil => rfl
  | cons e es ih =>
      simp only [List.cons_append, emitted, feed_cons, ih]
      split <;> simp

/-- A stage passes on nothing that it did not consume. -/
theorem mem_of_mem_emitted {s : σ} {es : List ε} {e : ε} (h : e ∈ c.emitted s es) : e ∈ es := by
  induction es generalizing s with
  | nil => simp at h
  | cons f es ih =>
      simp only [emitted] at h
      split at h
      · rcases List.mem_cons.mp h with rfl | h
        · exact List.mem_cons_self
        · exact List.mem_cons_of_mem _ (ih h)
      · exact List.mem_cons_of_mem _ (ih h)

/-- A stage passes on at most what it consumed. -/
theorem length_emitted_le (s : σ) (es : List ε) : (c.emitted s es).length ≤ es.length := by
  induction es generalizing s with
  | nil => exact Nat.le_refl 0
  | cons e es ih =>
      have hrest := ih (c.next s e)
      simp only [emitted, List.length_cons]
      split
      · rw [List.length_cons]
        omega
      · omega

/-- A change of a stage that its transitions and emissions do not see commutes with feeding. -/
theorem feed_map {φ : σ → σ} (h : ∀ s e, c.next (φ s) e = φ (c.next s e)) (s : σ) (es : List ε) :
    c.feed (φ s) es = φ (c.feed s es) := by
  induction es generalizing s with
  | nil => rfl
  | cons e es ih => rw [feed_cons, feed_cons, h, ih]

theorem emitted_map {φ : σ → σ} (h : ∀ s e, c.next (φ s) e = φ (c.next s e))
    (hemits : ∀ s e, c.emits (φ s) e = c.emits s e) (s : σ) (es : List ε) :
    c.emitted (φ s) es = c.emitted s es := by
  induction es generalizing s with
  | nil => rfl
  | cons e es ih => simp only [emitted, hemits, h, ih]

variable {c}

theorem Lawful.admits_feed (law : c.Lawful) (i : Fin n) (s : σ) (es : List ε) :
    c.admits i (c.feed s es) = c.admits i s := by
  induction es generalizing s with
  | nil => rfl
  | cons e es ih => rw [feed_cons, ih, law.admits_next]

theorem Lawful.note_feed (law : c.Lawful) (i : Fin n) (s : σ) (es : List ε) :
    c.note i (c.feed s es) = c.note i s := by
  induction es generalizing s with
  | nil => rfl
  | cons e es ih => rw [feed_cons, ih, law.note_next]

variable (c)

/-- The events that stage `j` consumes in a stage-by-stage run: its own, then those that the stage
below passes on and `j` admits. -/
def inputsAt (f : Fin n → σ) (src : Fin n → List ε) : (j : Nat) → j < n → List ε
  | 0, h => src ⟨0, h⟩
  | j + 1, h =>
      src ⟨j + 1, h⟩ ++
        (c.emitted (f ⟨j, by omega⟩) (inputsAt f src j (by omega))).filter
          (c.admits ⟨j + 1, h⟩ (f ⟨j + 1, h⟩))

/-- The events that a stage consumes in a stage-by-stage run. -/
def inputs (f : Fin n → σ) (src : Fin n → List ε) (j : Fin n) : List ε :=
  c.inputsAt f src j.val j.isLt

/-- The events that a stage passes on in a stage-by-stage run. -/
def outputs (f : Fin n → σ) (src : Fin n → List ε) (j : Fin n) : List ε :=
  c.emitted (f j) (c.inputs f src j)

/-- The stages after a stage-by-stage run. -/
def runStages (f : Fin n → σ) (src : Fin n → List ε) (j : Fin n) : σ :=
  c.feed (f j) (c.inputs f src j)

/-- Tell the observer about a family of emissions, stage by stage. -/
def noteAll (f : Fin n → σ) (out : Fin n → List ε) (a : α) : α :=
  (List.finRange n).foldl (fun a j => (out j).foldl (fun a e => c.note j (f j) e a) a) a

/-- The observer after a stage-by-stage run. -/
def runObserver (f : Fin n → σ) (src : Fin n → List ε) (a : α) : α :=
  c.noteAll f (c.outputs f src) a

theorem inputs_zero (f : Fin n → σ) (src : Fin n → List ε) (h : 0 < n) :
    c.inputs f src ⟨0, h⟩ = src ⟨0, h⟩ := rfl

theorem inputs_succ (f : Fin n → σ) (src : Fin n → List ε) (j : Nat) (h : j + 1 < n) :
    c.inputs f src ⟨j + 1, h⟩ =
      src ⟨j + 1, h⟩ ++
        (c.outputs f src ⟨j, by omega⟩).filter (c.admits ⟨j + 1, h⟩ (f ⟨j + 1, h⟩)) := rfl

variable {c}

/-- What a stage consumes is bounded by what the stages up to it have of their own. -/
theorem length_inputs_le {f : Fin n → σ} {src : Fin n → List ε} {m : Nat}
    (h : ∀ i, (src i).length ≤ m) (j : Fin n) :
    (c.inputs f src j).length ≤ (j.val + 1) * m := by
  obtain ⟨j, hj⟩ := j
  induction j with
  | zero =>
      show (src ⟨0, hj⟩).length ≤ (0 + 1) * m
      rw [Nat.zero_add, Nat.one_mul]
      exact h ⟨0, hj⟩
  | succ j ih =>
      have hown := h ⟨j + 1, hj⟩
      have hbelow := ih (by omega)
      have hemitted := c.length_emitted_le (f ⟨j, by omega⟩) (c.inputs f src ⟨j, by omega⟩)
      have hfilter := List.length_filter_le (c.admits ⟨j + 1, hj⟩ (f ⟨j + 1, hj⟩))
        (c.outputs f src ⟨j, by omega⟩)
      rw [inputs_succ, List.length_append]
      unfold outputs at hfilter ⊢
      have hsplit : (j + 1 + 1) * m = (j + 1) * m + m := Nat.succ_mul _ _
      change (c.inputs f src ⟨j, by omega⟩).length ≤ (j + 1) * m at hbelow
      show _ ≤ (j + 1 + 1) * m
      omega

/-- Notes of one family of emissions after another are the notes of the concatenated family. -/
theorem noteAll_noteAll (law : c.Lawful) (f : Fin n → σ) (out₁ out₂ : Fin n → List ε) (a : α) :
    c.noteAll f out₂ (c.noteAll f out₁ a) = c.noteAll f (fun j => out₁ j ++ out₂ j) a := by
  have single : ∀ (j k : Fin n) (es : List ε) (e : ε) (a : α),
      es.foldl (fun a e => c.note k (f k) e a) (c.note j (f j) e a) =
        c.note j (f j) e (es.foldl (fun a e => c.note k (f k) e a) a) := by
    intro j k es
    induction es with
    | nil => intro e a; rfl
    | cons e' es ih => intro e a; rw [List.foldl_cons, law.note_comm, ih, List.foldl_cons]
  have many : ∀ (j k : Fin n) (es fs : List ε) (a : α),
      es.foldl (fun a e => c.note k (f k) e a) (fs.foldl (fun a e => c.note j (f j) e a) a) =
        fs.foldl (fun a e => c.note j (f j) e a) (es.foldl (fun a e => c.note k (f k) e a) a) := by
    intro j k es fs
    induction fs with
    | nil => intro a; rfl
    | cons e fs ih => intro a; rw [List.foldl_cons, ih, single, List.foldl_cons]
  unfold noteAll
  rw [← foldl_interchange]
  · congr 1
    funext a j
    rw [List.foldl_append]
  · intro a i j
    exact many i j _ _ a

/-- The inputs of two runs in a row. The second run may start from stages `g` that differ from the
result of the first in ways that neither emissions nor, on the events that reach a stage, its
admissions can tell. -/
theorem inputs_append {f g : Fin n → σ} {src₁ src₂ : Fin n → List ε}
    (hemit : ∀ j es, c.emitted (g j) es = c.emitted (c.runStages f src₁ j) es)
    (hadmits : ∀ (j : Nat) (h : j + 1 < n), ∀ e ∈ c.outputs g src₂ ⟨j, by omega⟩,
      c.admits ⟨j + 1, h⟩ (g ⟨j + 1, h⟩) e = c.admits ⟨j + 1, h⟩ (f ⟨j + 1, h⟩) e)
    (hown : ∀ (j : Nat) (h : j + 1 < n), src₂ ⟨j + 1, h⟩ = [] ∨
      (c.outputs f src₁ ⟨j, by omega⟩).filter (c.admits ⟨j + 1, h⟩ (f ⟨j + 1, h⟩)) = [])
    (j : Fin n) :
    c.inputs f (fun k => src₁ k ++ src₂ k) j = c.inputs f src₁ j ++ c.inputs g src₂ j := by
  obtain ⟨j, hj⟩ := j
  induction j with
  | zero => rfl
  | succ j ih =>
      have hprev := ih (by omega)
      have hout : c.outputs f (fun k => src₁ k ++ src₂ k) ⟨j, by omega⟩ =
          c.outputs f src₁ ⟨j, by omega⟩ ++ c.outputs g src₂ ⟨j, by omega⟩ := by
        unfold outputs
        rw [hprev, emitted_append, hemit]
        rfl
      rw [inputs_succ, inputs_succ, inputs_succ, hout, List.filter_append]
      rw [List.filter_congr (hadmits j hj)]
      rcases hown j hj with h | h <;> simp [h]

/-- The emissions of two runs in a row. -/
theorem outputs_append {f g : Fin n → σ} {src₁ src₂ : Fin n → List ε}
    (hemit : ∀ j es, c.emitted (g j) es = c.emitted (c.runStages f src₁ j) es)
    (hinputs : ∀ j, c.inputs f (fun k => src₁ k ++ src₂ k) j =
      c.inputs f src₁ j ++ c.inputs g src₂ j) (j : Fin n) :
    c.outputs f (fun k => src₁ k ++ src₂ k) j = c.outputs f src₁ j ++ c.outputs g src₂ j := by
  unfold outputs
  rw [hinputs, emitted_append, hemit]
  rfl

/-- No stage below the first source consumes anything. -/
theorem inputs_eq_nil {f : Fin n → σ} {src : Fin n → List ε} {i : Fin n}
    (hsrc : ∀ k, k < i → src k = []) (j : Fin n) (hj : j < i) : c.inputs f src j = [] := by
  obtain ⟨j, hlt⟩ := j
  induction j with
  | zero => exact hsrc _ hj
  | succ j ih =>
      have hprev : (⟨j, by omega⟩ : Fin n) < i := lt_trans (by simp) hj
      rw [inputs_succ, hsrc _ hj]
      unfold outputs
      rw [ih _ hprev]
      simp

/-- A stage with nothing to consume is unchanged. -/
theorem runStages_of_inputs_nil {f : Fin n → σ} {src : Fin n → List ε} {j : Fin n}
    (h : c.inputs f src j = []) : c.runStages f src j = f j := by
  unfold runStages
  rw [h, feed_nil]

/-- A stage consumes only events of the sources. -/
theorem mem_inputs {f : Fin n → σ} {src : Fin n → List ε} {j : Fin n} {e : ε}
    (h : e ∈ c.inputs f src j) : ∃ k, e ∈ src k := by
  obtain ⟨j, hj⟩ := j
  induction j with
  | zero => exact ⟨_, h⟩
  | succ j ih =>
      rw [inputs_succ, List.mem_append] at h
      rcases h with h | h
      · exact ⟨_, h⟩
      · exact ih _ (mem_of_mem_emitted c (List.mem_of_mem_filter h))

/-- A stage passes on only events of the sources. -/
theorem mem_outputs {f : Fin n → σ} {src : Fin n → List ε} {j : Fin n} {e : ε}
    (h : e ∈ c.outputs f src j) : ∃ k, e ∈ src k :=
  mem_inputs (mem_of_mem_emitted c h)

/-- A relation between two observers that each recorded emission preserves. -/
theorem noteAll_rel {R : α → α → Prop} {f : Fin n → σ} {out : Fin n → List ε}
    (hstep : ∀ j, ∀ e ∈ out j, ∀ a b, R a b → R (c.note j (f j) e a) (c.note j (f j) e b))
    {a b : α} (h : R a b) : R (c.noteAll f out a) (c.noteAll f out b) := by
  have inner : ∀ (j : Fin n) (es : List ε), (∀ e ∈ es, e ∈ out j) → ∀ a b, R a b →
      R (es.foldl (fun a e => c.note j (f j) e a) a) (es.foldl (fun a e => c.note j (f j) e a) b) := by
    intro j es
    induction es with
    | nil => intro _ a b h; exact h
    | cons e es ih =>
        intro hmem a b h
        exact ih (fun e he => hmem e (List.mem_cons_of_mem _ he)) _ _
          (hstep j e (hmem e List.mem_cons_self) a b h)
  unfold noteAll
  generalize List.finRange n = l
  induction l generalizing a b with
  | nil => exact h
  | cons j l ih => exact ih (inner j (out j) (fun _ he => he) a b h)

/-- A property of the observer that each recorded emission preserves. -/
theorem noteAll_invariant {P : α → Prop} {f : Fin n → σ} {out : Fin n → List ε}
    (hstep : ∀ j, ∀ e ∈ out j, ∀ a, P a → P (c.note j (f j) e a)) {a : α} (h : P a) :
    P (c.noteAll f out a) :=
  noteAll_rel (R := fun a _ => P a) (fun j e he a _ ha => hstep j e he a ha) (b := a) h

/-- Two runs in a row are one run on the concatenated events, when no stage has both events of its
own in the second run and events from below in the first. -/
theorem run_run (law : c.Lawful) {f : Fin n → σ} {src₁ src₂ : Fin n → List ε}
    (hown : ∀ (j : Nat) (h : j + 1 < n), src₂ ⟨j + 1, h⟩ = [] ∨
      (c.outputs f src₁ ⟨j, by omega⟩).filter (c.admits ⟨j + 1, h⟩ (f ⟨j + 1, h⟩)) = [])
    (a : α) :
    c.runStages (c.runStages f src₁) src₂ = c.runStages f (fun k => src₁ k ++ src₂ k) ∧
      c.runObserver (c.runStages f src₁) src₂ (c.runObserver f src₁ a) =
        c.runObserver f (fun k => src₁ k ++ src₂ k) a := by
  have hadmits : ∀ (j : Nat) (h : j + 1 < n), ∀ e ∈ c.outputs (c.runStages f src₁) src₂ ⟨j, by omega⟩,
      c.admits ⟨j + 1, h⟩ (c.runStages f src₁ ⟨j + 1, h⟩) e =
        c.admits ⟨j + 1, h⟩ (f ⟨j + 1, h⟩) e := by
    intro j h e _
    unfold runStages
    rw [law.admits_feed]
  have hinputs := inputs_append (fun _ _ => rfl) hadmits hown
  have houtputs := outputs_append (g := c.runStages f src₁) (fun _ _ => rfl) hinputs
  constructor
  · funext j
    show c.feed (c.feed (f j) _) _ = c.feed (f j) _
    rw [hinputs, feed_append]
  · have hnote : ∀ out, c.noteAll (c.runStages f src₁) out = c.noteAll f out := by
      intro out
      funext a
      unfold noteAll runStages
      simp only [law.note_feed]
    show c.noteAll (c.runStages f src₁) _ (c.noteAll f _ a) = c.noteAll f _ a
    rw [hnote, noteAll_noteAll law]
    congr 1
    funext j
    exact (houtputs j).symm

variable (c)

/-- Events for one stage only. -/
def only (i : Fin n) (es : List ε) : Fin n → List ε :=
  Function.update (fun _ => []) i es

@[simp] theorem only_self (i : Fin n) (es : List ε) : only i es i = es := by simp [only]

theorem only_of_ne {i k : Fin n} (h : k ≠ i) (es : List ε) : only i es k = [] := by simp [only, h]

/-- Run one event depth first from stage `i`. -/
def push (i : Fin n) (e : ε) (w : (Fin n → σ) × α) : (Fin n → σ) × α :=
  let f := Function.update w.1 i (c.next (w.1 i) e)
  if c.emits (w.1 i) e then
    let a := c.note i (w.1 i) e w.2
    if h : i.val + 1 < n then
      if c.admits ⟨i.val + 1, h⟩ (f ⟨i.val + 1, h⟩) e then push ⟨i.val + 1, h⟩ e (f, a)
      else (f, a)
    else (f, a)
  else (f, w.2)
  termination_by n - i.val

/-- A stage-by-stage run of the stages and the observer. -/
def run (w : (Fin n → σ) × α) (src : Fin n → List ε) : (Fin n → σ) × α :=
  (c.runStages w.1 src, c.runObserver w.1 src w.2)

variable {c}

/-- The source stage of a run with one source consumes exactly its own events. -/
theorem inputs_only_self (f : Fin n → σ) (i : Fin n) (es : List ε) :
    c.inputs f (only i es) i = es := by
  obtain ⟨i, hi⟩ := i
  cases i with
  | zero => rw [inputs_zero]; exact only_self _ _
  | succ j =>
      have hprev : c.inputs f (only ⟨j + 1, hi⟩ es) ⟨j, by omega⟩ = [] :=
        inputs_eq_nil (i := ⟨j + 1, hi⟩) (fun k hk => only_of_ne (ne_of_lt hk) es) _ (by simp)
      rw [inputs_succ, only_self]
      unfold outputs
      rw [hprev]
      simp

/-- If the source stage has nothing above it that takes its events, the rest of the row is
unchanged. -/
theorem inputs_only_above_nil {f : Fin n → σ} {i : Fin n} {es : List ε}
    (h : ∀ (hi : i.val + 1 < n),
      (c.emitted (f i) es).filter (c.admits ⟨i.val + 1, hi⟩ (f ⟨i.val + 1, hi⟩)) = [])
    (k : Fin n) (hk : k ≠ i) : c.inputs f (only i es) k = [] := by
  rcases lt_or_gt_of_ne hk with hlt | hgt
  · exact inputs_eq_nil (i := i) (fun k hk => only_of_ne (ne_of_lt hk) es) _ hlt
  · obtain ⟨k, hkn⟩ := k
    induction k with
    | zero => exact absurd hgt (by simp [Fin.lt_def])
    | succ j ih =>
        rw [inputs_succ, only_of_ne hk]
        unfold outputs
        by_cases hj : (⟨j, Nat.lt_of_succ_lt hkn⟩ : Fin n) = i
        · subst hj
          rw [inputs_only_self]
          exact h hkn
        · have hjgt : i < (⟨j, Nat.lt_of_succ_lt hkn⟩ : Fin n) := by
            rw [Fin.lt_def] at hgt ⊢
            have : j ≠ i.val := fun hji => hj (Fin.ext hji)
            simp only at hgt ⊢
            omega
          rw [ih _ hj hjgt]
          simp

/-- If the stage above takes the one event that the source passes on, the rest of the row runs as
if that event were its own. -/
theorem inputs_only_above {f g : Fin n → σ} {i : Fin n} {e : ε} (hi : i.val + 1 < n)
    (hg : ∀ k, k ≠ i → g k = f k)
    (h : (c.emitted (f i) [e]).filter (c.admits ⟨i.val + 1, hi⟩ (f ⟨i.val + 1, hi⟩)) = [e])
    (k : Fin n) (hk : k ≠ i) :
    c.inputs f (only i [e]) k = c.inputs g (only ⟨i.val + 1, hi⟩ [e]) k := by
  rcases lt_or_gt_of_ne hk with hlt | hgt
  · have hlt' : k < (⟨i.val + 1, hi⟩ : Fin n) := lt_trans hlt (by simp [Fin.lt_def])
    rw [inputs_eq_nil (i := i) (fun k hk => only_of_ne (ne_of_lt hk) _) _ hlt,
      inputs_eq_nil (i := ⟨i.val + 1, hi⟩) (fun k hk => only_of_ne (ne_of_lt hk) _) _ hlt']
  · obtain ⟨k, hkn⟩ := k
    induction k with
    | zero => exact absurd hgt (by simp [Fin.lt_def])
    | succ j ih =>
        by_cases hj : (⟨j, Nat.lt_of_succ_lt hkn⟩ : Fin n) = i
        · subst hj
          rw [inputs_only_self, inputs_succ, only_of_ne hk]
          unfold outputs
          rw [inputs_only_self, h]
          rfl
        · have hjgt : i < (⟨j, Nat.lt_of_succ_lt hkn⟩ : Fin n) := by
            rw [Fin.lt_def] at hgt ⊢
            have : j ≠ i.val := fun hji => hj (Fin.ext hji)
            simp only at hgt ⊢
            omega
          have hne : (⟨j + 1, hkn⟩ : Fin n) ≠ ⟨i.val + 1, hi⟩ := by
            intro heq
            exact hj (Fin.ext (by simpa using heq))
          rw [inputs_succ, inputs_succ, only_of_ne hk, only_of_ne hne]
          unfold outputs
          rw [ih _ hj hjgt, hg _ hj, hg _ hk]

/-- With one source, the inputs do not depend on the stages below the source, nor on anything of the
source stage but its emissions. -/
theorem inputs_only_congr {f g : Fin n → σ} {i : Fin n} {es : List ε}
    (hself : ∀ l, c.emitted (g i) l = c.emitted (f i) l) (habove : ∀ k, i < k → g k = f k)
    (j : Fin n) : c.inputs g (only i es) j = c.inputs f (only i es) j := by
  obtain ⟨j, hlt⟩ := j
  induction j with
  | zero => rfl
  | succ j ih =>
      rw [inputs_succ, inputs_succ]
      unfold outputs
      rw [ih]
      rcases lt_trichotomy (⟨j, by omega⟩ : Fin n) i with hj | hj | hj
      · rw [inputs_eq_nil (fun k hk => only_of_ne (ne_of_lt hk) es) _ hj]
        rfl
      · rw [hj, hself, habove ⟨j + 1, hlt⟩ (by rw [← hj]; simp [Fin.lt_def])]
      · rw [habove _ hj, habove ⟨j + 1, hlt⟩ (lt_trans hj (by simp [Fin.lt_def]))]

theorem noteAll_only (f : Fin n → σ) (i : Fin n) (es : List ε) (a : α) :
    c.noteAll f (only i es) a = es.foldl (fun a e => c.note i (f i) e a) a := by
  have step : ∀ (l : List (Fin n)) (a : α), i ∉ l →
      l.foldl (fun a j => (only i es j).foldl (fun a e => c.note j (f j) e a) a) a = a := by
    intro l
    induction l with
    | nil => intro a _; rfl
    | cons k l ih =>
        intro a hnot
        have hki : k ≠ i := fun h => hnot (by rw [h]; exact List.mem_cons_self)
        rw [List.foldl_cons, only_of_ne hki, List.foldl_nil]
        exact ih a (fun h => hnot (List.mem_cons_of_mem _ h))
  obtain ⟨l₁, l₂, hl⟩ := List.append_of_mem (List.mem_finRange i)
  have hnodup := List.nodup_finRange n
  rw [hl] at hnodup
  have h₁ : i ∉ l₁ := fun h =>
    (List.nodup_append.mp hnodup).2.2 i h i List.mem_cons_self rfl
  have h₂ : i ∉ l₂ := (List.nodup_cons.mp (List.nodup_append.mp hnodup).2.1).1
  unfold noteAll
  rw [hl, List.foldl_append, List.foldl_cons, step l₁ a h₁, step l₂ _ h₂, only_self]

/-- Notes depend on the stages only through what their events leave unchanged. -/
theorem noteAll_update (law : c.Lawful) (f : Fin n → σ) (i : Fin n) (e : ε) (out : Fin n → List ε) :
    c.noteAll (Function.update f i (c.next (f i) e)) out = c.noteAll f out := by
  have hstage : ∀ j, c.note j (Function.update f i (c.next (f i) e) j) = c.note j (f j) := by
    intro j
    by_cases hj : j = i
    · subst hj; rw [Function.update_self, law.note_next]
    · rw [Function.update_of_ne hj]
  funext a
  unfold noteAll
  simp only [hstage]

/-- Running one event depth first is running it stage by stage. -/
theorem push_eq_run (law : c.Lawful) (i : Fin n) (e : ε) (w : (Fin n → σ) × α) :
    c.push i e w = c.run w (only i [e]) := by
  -- by induction on the number of stages from this one up
  induction hm : n - i.val generalizing i w with
  | zero => omega
  | succ m ih =>
      obtain ⟨f, a⟩ := w
      -- a batch that gives every other stage the same inputs leaves every stage as this one does
      have stages : ∀ (g : Fin n → σ) (src : Fin n → List ε),
          (∀ k, k ≠ i → c.inputs f (only i [e]) k = c.inputs g src k) → (∀ k, k ≠ i → g k = f k) →
          g i = c.next (f i) e → c.inputs g src i = [] →
          c.runStages g src = c.runStages f (only i [e]) := by
        intro g src hin hg hgi hsrc
        funext k
        unfold runStages
        by_cases hk : k = i
        · subst hk
          rw [hsrc, inputs_only_self, hgi]
          rfl
        · rw [hin k hk, hg k hk]
      -- an event that the next stage does not take goes no further
      have quiet : (∀ hi : i.val + 1 < n,
          (c.emitted (f i) [e]).filter (c.admits ⟨i.val + 1, hi⟩ (f ⟨i.val + 1, hi⟩)) = []) →
          c.run (f, a) (only i [e]) =
            (Function.update f i (c.next (f i) e),
              (c.emitted (f i) [e]).foldl (fun a e => c.note i (f i) e a) a) := by
        intro h
        have hnil := inputs_only_above_nil h
        refine Prod.ext ?_ ?_
        · funext k
          by_cases hk : k = i
          · subst hk
            show c.feed (f k) (c.inputs f (only k [e]) k) =
              Function.update f k (c.next (f k) e) k
            rw [inputs_only_self, Function.update_self]
            rfl
          · show c.runStages f (only i [e]) k = Function.update f i (c.next (f i) e) k
            rw [Function.update_of_ne hk]
            exact runStages_of_inputs_nil (hnil k hk)
        · have hout : c.outputs f (only i [e]) = only i (c.emitted (f i) [e]) := by
            funext k
            unfold outputs
            by_cases hk : k = i
            · subst hk; rw [inputs_only_self, only_self]
            · rw [hnil k hk, only_of_ne hk]; rfl
          show c.noteAll f (c.outputs f (only i [e])) a = _
          rw [hout, noteAll_only]
      rw [push]
      dsimp only
      by_cases hemit : c.emits (f i) e
      · have hemitted : c.emitted (f i) [e] = [e] := by simp [emitted, hemit]
        rw [if_pos hemit]
        by_cases hi : i.val + 1 < n
        · have hne : (⟨i.val + 1, hi⟩ : Fin n) ≠ i := fun h => by simpa using congrArg Fin.val h
          rw [dif_pos hi, Function.update_of_ne hne]
          by_cases hadm : c.admits ⟨i.val + 1, hi⟩ (f ⟨i.val + 1, hi⟩) e
          · rw [if_pos hadm, ih ⟨i.val + 1, hi⟩ _ (by simp only; omega)]
            set g := Function.update f i (c.next (f i) e) with hg
            have hgk : ∀ k, k ≠ i → g k = f k := fun k hk => Function.update_of_ne hk _ _
            have habove := inputs_only_above (c := c) (e := e) hi hgk (by simp [hemitted, hadm])
            have hbelow : c.inputs g (only ⟨i.val + 1, hi⟩ [e]) i = [] :=
              inputs_eq_nil (i := ⟨i.val + 1, hi⟩) (fun k hk => only_of_ne (ne_of_lt hk) _) _
                (by simp [Fin.lt_def])
            refine Prod.ext (stages g _ habove hgk (by simp [hg]) hbelow) ?_
            have hout : c.outputs f (only i [e]) =
                fun k => only i [e] k ++ c.outputs g (only ⟨i.val + 1, hi⟩ [e]) k := by
              funext k
              unfold outputs
              by_cases hk : k = i
              · subst hk
                rw [inputs_only_self, hbelow, hemitted, only_self]
                rfl
              · rw [habove k hk, only_of_ne hk, hgk k hk]
                rfl
            show c.noteAll g (c.outputs g _) (c.note i (f i) e a) =
              c.noteAll f (c.outputs f (only i [e])) a
            rw [hout, ← noteAll_noteAll law, noteAll_only, hg, noteAll_update law]
            rfl
          · rw [if_neg hadm, quiet (fun _ => by simp [hemitted, hadm]), hemitted]
            rfl
        · rw [dif_neg hi, quiet (fun h => absurd h hi), hemitted]
          rfl
      · have hemitted : c.emitted (f i) [e] = [] := by simp [emitted, hemit]
        rw [if_neg hemit, quiet (fun _ => by simp [hemitted]), hemitted]
        rfl

/-- Running a list of events depth first, one after another, is running it stage by stage. -/
theorem fold_push (law : c.Lawful) (i : Fin n) (es : List ε) (w : (Fin n → σ) × α) :
    es.foldl (fun w e => c.push i e w) w = c.run w (only i es) := by
  induction es using List.reverseRecOn with
  | nil =>
      have hnil : ∀ k, c.inputs w.1 (only i ([] : List ε)) k = [] := by
        intro k
        by_cases hk : k = i
        · subst hk; exact inputs_only_self _ _ _
        · exact inputs_only_above_nil (by simp) k hk
      have hout : c.outputs w.1 (only i ([] : List ε)) = only i [] := by
        funext k
        unfold outputs
        rw [hnil k]
        simp [only]
      refine Prod.ext (funext fun k => (runStages_of_inputs_nil (hnil k)).symm) ?_
      show w.2 = c.noteAll w.1 (c.outputs w.1 (only i [])) w.2
      rw [hout, noteAll_only]
      rfl
  | append_singleton es e ih =>
      have hown : ∀ (j : Nat) (h : j + 1 < n), only i [e] ⟨j + 1, h⟩ = [] ∨
          (c.outputs w.1 (only i es) ⟨j, by omega⟩).filter
            (c.admits ⟨j + 1, h⟩ (w.1 ⟨j + 1, h⟩)) = [] := by
        intro j h
        by_cases hj : (⟨j + 1, h⟩ : Fin n) = i
        · right
          have hlt : (⟨j, by omega⟩ : Fin n) < i := by rw [← hj]; simp [Fin.lt_def]
          have hin := inputs_eq_nil (c := c) (f := w.1) (i := i)
            (fun k hk => only_of_ne (ne_of_lt hk) es) _ hlt
          unfold outputs
          rw [hin]
          simp
        · left
          exact only_of_ne hj _
      have hsrc : (fun k => only i es k ++ only i [e] k) = only i (es ++ [e]) := by
        funext k
        by_cases hk : k = i
        · subst hk; simp
        · simp [only_of_ne hk]
      rw [List.foldl_append, List.foldl_cons, List.foldl_nil, ih, push_eq_run law]
      have := run_run law hown w.2
      rw [hsrc] at this
      exact Prod.ext this.1 this.2

/-- What every note of the observer keeps, a push keeps. -/
theorem push_observer {P : α → Prop} (h : ∀ k s e a, P a → P (c.note k s e a)) (i : Fin n) (e : ε)
    (w : (Fin n → σ) × α) (hw : P w.2) : P (c.push i e w).2 := by
  fun_induction push c i e w with
  | case1 i w f hemits a hlt hadmits ih => exact ih (h _ _ _ _ hw)
  | case2 i w f hemits a hlt hadmits => exact h _ _ _ _ hw
  | case3 i w f hemits a hge => exact h _ _ _ _ hw
  | case4 i w f hquiet => exact hw

end Stages

end Cascade
