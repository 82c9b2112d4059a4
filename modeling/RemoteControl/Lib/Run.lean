import Mathlib.Data.List.Induction

/-!
# Runs of a machine

A machine is a total step function `step : σ → ι → σ`; an input that is not enabled in a state
leaves the state as it is. `exec step s is` is the state after the inputs `is`, and
`Along step ok s is` says that every step of that run is taken in a state, and with an input, that
`ok` allows. A condition on single steps (`ok`) becomes a condition on whole runs through `Along`;
an invariant of the steps it allows becomes an invariant of those runs (`Along.exec_inv`), and a
property of single steps that is equivalent to the condition on the invariant makes the two
run conditions equivalent (`along_congr`). What a step outside of the condition leads to, and every
step keeps, holds at the end of a run that leaves the condition (`exec_of_not_along`).
-/

namespace Run

variable {σ τ ι κ : Type*} {step : σ → ι → σ}

/-- The state after a list of inputs. -/
def exec (step : σ → ι → σ) (s : σ) (is : List ι) : σ :=
  is.foldl step s

/-- Every step of the run from `s` is one that `ok` allows. -/
def Along (step : σ → ι → σ) (ok : σ → ι → Prop) : σ → List ι → Prop
  | _, [] => True
  | s, i :: is => ok s i ∧ Along step ok (step s i) is

instance decidableAlong (ok : σ → ι → Prop) [∀ s i, Decidable (ok s i)] :
    (s : σ) → (is : List ι) → Decidable (Along step ok s is)
  | _, [] => isTrue trivial
  | s, i :: is =>
    have := decidableAlong ok (step s i) is
    inferInstanceAs (Decidable (ok s i ∧ Along step ok (step s i) is))

@[simp] theorem exec_nil (s : σ) : exec step s [] = s := rfl

@[simp] theorem exec_cons (s : σ) (i : ι) (is : List ι) :
    exec step s (i :: is) = exec step (step s i) is := rfl

/-- A run over an append is the run over the second part after the first. -/
theorem exec_append (s : σ) (is js : List ι) :
    exec step s (is ++ js) = exec step (exec step s is) js :=
  List.foldl_append

/-- The last input of a run is one step from the state before it. -/
theorem exec_concat (s : σ) (is : List ι) (i : ι) :
    exec step s (is ++ [i]) = step (exec step s is) i := by
  rw [exec_append]; rfl

@[simp] theorem along_nil (ok : σ → ι → Prop) (s : σ) : Along step ok s [] := trivial

@[simp] theorem along_cons (ok : σ → ι → Prop) (s : σ) (i : ι) (is : List ι) :
    Along step ok s (i :: is) ↔ ok s i ∧ Along step ok (step s i) is := Iff.rfl

/-- A condition holds along an append exactly when it holds along both parts. -/
theorem along_append (ok : σ → ι → Prop) (s : σ) (is js : List ι) :
    Along step ok s (is ++ js) ↔
      Along step ok s is ∧ Along step ok (exec step s is) js := by
  induction is generalizing s with
  | nil => simp
  | cons i is ih => simp only [List.cons_append, along_cons, exec_cons, ih, and_assoc]

/-- A condition holds along a run exactly when it holds before the last input and at it. -/
theorem along_concat (ok : σ → ι → Prop) (s : σ) (is : List ι) (i : ι) :
    Along step ok s (is ++ [i]) ↔ Along step ok s is ∧ ok (exec step s is) i := by
  rw [along_append]; simp

/-- Two conditions hold along a run exactly when both of them hold along it. -/
theorem along_and (ok ok' : σ → ι → Prop) (s : σ) (is : List ι) :
    Along step (fun s i => ok s i ∧ ok' s i) s is ↔ Along step ok s is ∧ Along step ok' s is := by
  induction is generalizing s with
  | nil => simp
  | cons i is ih => simp only [along_cons, ih, and_and_and_comm]

/-- A condition on the inputs alone holds along a run whose inputs all meet it. -/
theorem along_of_forall_mem {ok : ι → Prop} (s : σ) {is : List ι} (h : ∀ i ∈ is, ok i) :
    Along step (fun _ i => ok i) s is := by
  induction is generalizing s with
  | nil => trivial
  | cons i is ih => exact ⟨h i (by simp), ih _ fun j hj => h j (by simp [hj])⟩

/-- **The invariant rule.** What one allowed step preserves, every allowed run preserves. -/
theorem Along.exec_inv {ok : σ → ι → Prop} {Inv : σ → Prop} {s : σ} {is : List ι}
    (h : Along step ok s is) (hs : Inv s)
    (hstep : ∀ s i, Inv s → ok s i → Inv (step s i)) : Inv (exec step s is) := by
  induction is generalizing s with
  | nil => exact hs
  | cons i is ih => exact ih h.2 (hstep s i hs h.1)

/-- The invariant rule for runs that nothing restricts. -/
theorem exec_inv {Inv : σ → Prop} {s : σ} (hs : Inv s) (hstep : ∀ s i, Inv s → Inv (step s i))
    (is : List ι) : Inv (exec step s is) := by
  induction is generalizing s with
  | nil => exact hs
  | cons i is ih => exact ih (hstep s i hs)

/-- **The measure rule.** Where every step keeps the invariant and takes one from a measure that is
not yet 0, the measure is 0 after as many steps. -/
theorem exec_exhausts {Inv : σ → Prop} {μ : σ → ℕ}
    (hstep : ∀ s i, Inv s → Inv (step s i) ∧ μ (step s i) ≤ μ s - 1) {s : σ} (hs : Inv s)
    {is : List ι} (hlen : μ s ≤ is.length) :
    Inv (exec step s is) ∧ μ (exec step s is) = 0 := by
  induction is generalizing s with
  | nil => exact ⟨hs, Nat.le_zero.mp hlen⟩
  | cons i is ih =>
    obtain ⟨hinv, hlt⟩ := hstep s i hs
    rw [List.length_cons] at hlen
    exact ih hinv (by omega)

/-- **The budget rule.** Where every allowed step keeps the invariant and takes from a measure, an
allowed run has no more steps than the measure says at its beginning. -/
theorem Along.length_le {ok : σ → ι → Prop} {Inv : σ → Prop} {μ : σ → ℕ} {s : σ} {is : List ι}
    (h : Along step ok s is) (hs : Inv s)
    (hstep : ∀ s i, Inv s → ok s i → Inv (step s i) ∧ μ (step s i) < μ s) : is.length ≤ μ s := by
  induction is generalizing s with
  | nil => exact Nat.zero_le _
  | cons i is ih =>
    obtain ⟨hinv, hlt⟩ := hstep s i hs h.1
    have hrest := ih h.2 hinv
    rw [List.length_cons]
    omega

/-- A property of the allowed steps from states of an invariant holds along every allowed run. -/
theorem Along.mono {ok P : σ → ι → Prop} {Inv : σ → Prop} {s : σ} {is : List ι}
    (h : Along step ok s is) (hs : Inv s)
    (hstep : ∀ s i, Inv s → ok s i → Inv (step s i))
    (hP : ∀ s i, Inv s → ok s i → P s i) : Along step P s is := by
  induction is generalizing s with
  | nil => trivial
  | cons i is ih => exact ⟨hP s i hs h.1, ih h.2 (hstep s i hs h.1)⟩

/-- A property of the steps from states of an invariant holds along every run. -/
theorem along_inv {P : σ → ι → Prop} {Inv : σ → Prop} {s : σ} (hs : Inv s)
    (hstep : ∀ s i, Inv s → Inv (step s i)) (hP : ∀ s i, Inv s → P s i) (is : List ι) :
    Along step P s is := by
  induction is generalizing s with
  | nil => trivial
  | cons i is ih => exact ⟨hP s i hs, ih (hstep s i hs)⟩

/-- **The equivalence rule.** A property of single steps that on the invariant is equivalent to
the condition `ok`, with an invariant that the steps of `ok` preserve, holds along exactly the runs
that `ok` holds along. -/
theorem along_congr {ok P : σ → ι → Prop} {Inv : σ → Prop} {s : σ} (hs : Inv s)
    (hstep : ∀ s i, Inv s → ok s i → Inv (step s i))
    (hP : ∀ s i, Inv s → (P s i ↔ ok s i)) (is : List ι) :
    Along step P s is ↔ Along step ok s is := by
  induction is generalizing s with
  | nil => simp
  | cons i is ih =>
    rw [along_cons, along_cons, hP s i hs]
    exact and_congr_right fun hok => ih (hstep s i hs hok)

/-- **The rule of no return.** Where a step that `ok` forbids leads from the invariant to a property
that every step keeps, a run that leaves `ok` ends with that property. -/
theorem exec_of_not_along {ok : σ → ι → Prop} {Inv Bad : σ → Prop} {s : σ} {is : List ι}
    (h : ¬ Along step ok s is) (hs : Inv s)
    (hstep : ∀ s i, Inv s → ok s i → Inv (step s i))
    (hbad : ∀ s i, Inv s → ¬ ok s i → Bad (step s i))
    (hkeep : ∀ s i, Bad s → Bad (step s i)) : Bad (exec step s is) := by
  induction is generalizing s with
  | nil => exact absurd trivial h
  | cons i is ih =>
    by_cases hok : ok s i
    · exact ih (fun htail => h ⟨hok, htail⟩) (hstep s i hs hok)
    · exact exec_inv (hbad s i hs hok) hkeep is

/-- **The history rule.** What holds of the empty history and the first state, and is kept from one
step to the next, holds of every history and the state it leads to. -/
theorem exec_history {P : List ι → σ → Prop} {s : σ} (hs : P [] s)
    (hstep : ∀ is t i, P is t → P (is ++ [i]) (step t i)) (is : List ι) :
    P is (exec step s is) := by
  induction is using List.reverseRecOn with
  | nil => exact hs
  | append_singleton is i ih =>
    rw [exec_concat]
    exact hstep is _ i ih

/-- Some step of the run is one that `P` describes. -/
def Sometime (step : σ → ι → σ) (P : σ → ι → Prop) (s : σ) (is : List ι) : Prop :=
  ∃ pre i post, is = pre ++ i :: post ∧ P (exec step s pre) i

/-- **The cause rule.** What holds at the end of a run, and not at its beginning, has been brought
about by one of its steps. -/
theorem exec_cause {P : σ → ι → Prop} {Q : σ → Prop} {s : σ} (hs : ¬ Q s)
    (hstep : ∀ s i, ¬ Q s → Q (step s i) → P s i) {is : List ι} (h : Q (exec step s is)) :
    Sometime step P s is := by
  induction is using List.reverseRecOn with
  | nil => exact absurd h hs
  | append_singleton is i ih =>
    by_cases hbefore : Q (exec step s is)
    · obtain ⟨pre, j, post, rfl, hcause⟩ := ih hbefore
      exact ⟨pre, j, post ++ [i], by rw [List.append_assoc, List.cons_append], hcause⟩
    · rw [exec_concat] at h
      exact ⟨is, i, [], rfl, hstep _ i hbefore h⟩

/-- **The milestone rule.** Each milestone takes the machine from one stage to the next, and nothing
else takes it back, so a run with all of them in it, in their order, ends behind the last one. -/
theorem exec_milestones {ok : ι → Prop} {stage : ℕ → σ → Prop} {milestones is : List ι} {s : σ}
    (hkeep : ∀ k s i, ok i → stage k s → stage k (step s i))
    (hnext : ∀ k i, milestones[k]? = some i → ∀ s, stage k s → stage (k + 1) (step s i))
    (hok : ∀ i ∈ is, ok i) (hin : milestones.Sublist is) (hs : stage 0 s) :
    stage milestones.length (exec step s is) := by
  induction hin generalizing stage s with
  | slnil => exact hs
  | cons i _ ih =>
    exact ih hkeep hnext (fun j hj => hok j (List.mem_cons_of_mem i hj))
      (hkeep 0 s i (hok i List.mem_cons_self) hs)
  | cons_cons i _ ih =>
    have htail : ∀ j ∈ _, ok j := fun j hj => hok j (List.mem_cons_of_mem i hj)
    exact @ih (fun k => stage (k + 1)) _ (fun k => hkeep (k + 1))
      (fun k j hj => hnext (k + 1) j (by rwa [List.getElem?_cons_succ])) htail
      (hnext 0 i List.getElem?_cons_zero s hs)

/-- **The simulation rule.** A map that commutes with single steps commutes with runs. -/
theorem exec_map {step' : τ → κ → τ} {f : σ → τ} {g : ι → κ}
    (hf : ∀ s i, f (step s i) = step' (f s) (g i)) (s : σ) (is : List ι) :
    f (exec step s is) = exec step' (f s) (is.map g) := by
  induction is generalizing s with
  | nil => rfl
  | cons i is ih => rw [exec_cons, ih, hf, List.map_cons, exec_cons]

end Run
