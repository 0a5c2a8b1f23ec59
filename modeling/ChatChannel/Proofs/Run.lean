import ChatChannel.Bridge.Lifecycle
import ChatChannel.Native.Lifecycle

/-!
# ChatChannel.Proofs.Run

Runs of a machine that is given by a partial step function. Both transports are such machines, and
their `exec` follows moves in the same way (`Bridge.exec_eq_follow`, `Native.exec_eq_follow`), so
what is said here of `follow` holds of both.

* `place_of_set`, `place_of_append`: how the lists change in which they keep their operations.
* `observe`: what an observer notes along a run, move by move.
* `follow_invariant`: what a step keeps, a run keeps.
* `follow_gathers`: a list that every step adds its note to has got all notes of the run.
* `follow_flow`: if every step takes things through a buffer in order, so does a run.
* `follow_last`: what every step sets to its last note shows the last note of the run.
* `follow_notes`: what ties the state to the notes so far, step by step, ties it to all notes;
  `follow_history` says so of the runs without barred steps.
-/

namespace ChatChannel

variable {σ μ α β : Type}

/-- Follows moves one after the other. -/
def follow (step : σ → μ → Option σ) : σ → List μ → Option σ
  | s, [] => some s
  | s, m :: rest => (step s m).bind fun s => follow step s rest

/-- What an observer notes along a run, one move after the other. -/
def observe (step : σ → μ → Option σ) (note : σ → μ → List α) : σ → List μ → List α
  | _, [] => []
  | s, m :: rest =>
    note s m ++
      match step s m with
      | some s => observe step note s rest
      | none => []

theorem Bridge.exec_eq_follow (setup : Bridge.Setup) (s : Bridge.State)
    (moves : List Bridge.Move) :
    Bridge.exec setup s moves = follow (Bridge.step setup) s moves := by
  induction moves generalizing s with
  | nil => rfl
  | cons m rest ih => simp only [Bridge.exec, follow, ih]

theorem Native.exec_eq_follow (setup : Native.Setup) (s : Native.State)
    (moves : List Native.Move) :
    Native.exec setup s moves = follow (Native.step setup) s moves := by
  induction moves generalizing s with
  | nil => rfl
  | cons m rest ih => simp only [Native.exec, follow, ih]

section Places

variable {l : List α} {a b : α} {i j : Nat}

/-- What stands at a place after one thing was changed. -/
theorem place_of_set (h : (l.set i b)[j]? = some a) :
    (j = i ∧ a = b) ∨ (j ≠ i ∧ l[j]? = some a) := by
  rw [List.getElem?_set] at h
  split at h
  · rename_i hij
    split at h
    · exact .inl ⟨hij.symm, (Option.some.inj h).symm⟩
    · cases h
  · rename_i hij
    exact .inr ⟨Ne.symm hij, h⟩

/-- What stands at a place after one thing was added. -/
theorem place_of_append (h : (l ++ [b])[j]? = some a) :
    (j = l.length ∧ a = b) ∨ l[j]? = some a := by
  rw [List.getElem?_append] at h
  split at h
  · exact .inr h
  · obtain ⟨hlt, hlast⟩ := List.getElem?_eq_some_iff.1 h
    have hj : j = l.length := by
      simp only [List.length_singleton] at hlt
      omega
    exact .inl ⟨hj, by simpa using hlast.symm⟩

end Places

section

variable {step : σ → μ → Option σ}

theorem follow_cons {s s' : σ} {m : μ} {rest : List μ} :
    follow step s (m :: rest) = some s' ↔
      ∃ s₁, step s m = some s₁ ∧ follow step s₁ rest = some s' := by
  simp [follow, Option.bind_eq_some_iff]

theorem follow_append {s s₁ s' : σ} {moves later : List μ} (h : follow step s moves = some s₁)
    (hlater : follow step s₁ later = some s') : follow step s (moves ++ later) = some s' := by
  induction moves generalizing s with
  | nil =>
    simp only [follow, Option.some.injEq] at h
    exact h ▸ hlater
  | cons m rest ih =>
    obtain ⟨s₂, hm, hrest⟩ := follow_cons.1 h
    exact follow_cons.2 ⟨s₂, hm, ih hrest⟩

theorem observe_cons {s s₁ : σ} {m : μ} {rest : List μ} (hm : step s m = some s₁)
    (note : σ → μ → List α) :
    observe step note s (m :: rest) = note s m ++ observe step note s₁ rest := by
  simp [observe, hm]

/-- What every step keeps, a run keeps. `Q` restricts the moves of the run. -/
theorem follow_invariant {P : σ → Prop} {Q : μ → Prop}
    (hstep : ∀ {s m s'}, P s → Q m → step s m = some s' → P s')
    {s s' : σ} {moves : List μ} (h : P s) (hm : ∀ m ∈ moves, Q m)
    (hrun : follow step s moves = some s') : P s' := by
  induction moves generalizing s with
  | nil =>
    simp only [follow, Option.some.injEq] at hrun
    exact hrun ▸ h
  | cons m rest ih =>
    obtain ⟨s₁, hs₁, hrest⟩ := follow_cons.1 hrun
    have h₁ : P s₁ := hstep h (hm m List.mem_cons_self) hs₁
    exact ih h₁ (fun m h => hm m (List.mem_cons_of_mem _ h)) hrest

section Notes

variable {P : σ → Prop} {s s' : σ} {moves : List μ}

/-- A run whose every step takes things out of a buffer at the front and puts others in at the back
does so as a whole: what was there and what came in is what went out and what is there, in
order. `P` is kept along the run. -/
theorem follow_flow (hstep : ∀ {s m s'}, P s → step s m = some s' → P s')
    (buffer : σ → List α) (inflow outflow : σ → μ → List α)
    (hflow : ∀ {s m s'}, P s → step s m = some s' →
      buffer s ++ inflow s m = outflow s m ++ buffer s')
    (h : P s) (hrun : follow step s moves = some s') :
    buffer s ++ observe step inflow s moves = observe step outflow s moves ++ buffer s' := by
  induction moves generalizing s with
  | nil =>
    simp only [follow, Option.some.injEq] at hrun
    simp [observe, hrun]
  | cons m rest ih =>
    obtain ⟨s₁, hs₁, hrest⟩ := follow_cons.1 hrun
    have hrec := ih (hstep h hs₁) hrest
    rw [observe_cons hs₁, observe_cons hs₁, ← List.append_assoc, hflow h hs₁, List.append_assoc,
      hrec, List.append_assoc]

/-- Two observers who agree on every step of a run agree on the run. -/
theorem observe_congr (hstep : ∀ {s m s'}, P s → step s m = some s' → P s')
    {f g : σ → μ → List α} (hfg : ∀ {s m s'}, P s → step s m = some s' → f s m = g s m)
    (h : P s) (hrun : follow step s moves = some s') :
    observe step f s moves = observe step g s moves := by
  induction moves generalizing s with
  | nil => rfl
  | cons m rest ih =>
    obtain ⟨s₁, hs₁, hrest⟩ := follow_cons.1 hrun
    rw [observe_cons hs₁, observe_cons hs₁, hfg h hs₁, ih (hstep h hs₁) hrest]

/-- A list that every step adds its note to has got all notes of the run, in order. -/
theorem follow_gathers (hstep : ∀ {s m s'}, P s → step s m = some s' → P s')
    (gathered : σ → List α) (note : σ → μ → List α)
    (hnote : ∀ {s m s'}, P s → step s m = some s' → gathered s' = gathered s ++ note s m)
    (h : P s) (hrun : follow step s moves = some s') :
    gathered s' = gathered s ++ observe step note s moves := by
  induction moves generalizing s with
  | nil =>
    simp only [follow, Option.some.injEq] at hrun
    simp [observe, hrun]
  | cons m rest ih =>
    obtain ⟨s₁, hs₁, hrest⟩ := follow_cons.1 hrun
    rw [ih (hstep h hs₁) hrest, hnote h hs₁, observe_cons hs₁, List.append_assoc]

/-- What every step sets to its last note, and leaves as it is if it makes none, shows the last note
of the run. -/
theorem follow_last (view : σ → β) (note : σ → μ → List β)
    (hview : ∀ {s m s'}, step s m = some s' → view s' = (note s m).getLast?.getD (view s))
    (hrun : follow step s moves = some s') :
    view s' = (observe step note s moves).getLast?.getD (view s) := by
  induction moves generalizing s with
  | nil =>
    simp only [follow, Option.some.injEq] at hrun
    simp [observe, hrun]
  | cons m rest ih =>
    obtain ⟨s₁, hs₁, hrest⟩ := follow_cons.1 hrun
    rw [ih hrest, hview hs₁, observe_cons hs₁, List.getLast?_append]
    cases (observe step note s₁ rest).getLast? <;> rfl

/-- What ties the state to the notes so far, and is kept by every step that is not barred, ties the
state after a run without barred steps to all notes. -/
theorem follow_history {I : List α → σ → Prop} (note : σ → μ → List α) (barred : σ → μ → List β)
    (hstep : ∀ {past s m s'}, I past s → barred s m = [] → step s m = some s' →
      I (past ++ note s m) s')
    (past : List α) (h : I past s) (hnone : observe step barred s moves = [])
    (hrun : follow step s moves = some s') : I (past ++ observe step note s moves) s' := by
  induction moves generalizing s past with
  | nil =>
    simp only [follow, Option.some.injEq] at hrun
    simpa [observe, hrun] using h
  | cons m rest ih =>
    obtain ⟨s₁, hs₁, hrest⟩ := follow_cons.1 hrun
    rw [observe_cons hs₁] at hnone ⊢
    obtain ⟨hnow, hlater⟩ := List.append_eq_nil_iff.1 hnone
    rw [← List.append_assoc]
    exact ih _ (hstep h hnow hs₁) hlater hrest

/-- What ties the state to the notes so far, and is kept by every step, ties the state after a run
to all notes. `Q` restricts the moves of the run. -/
theorem follow_notes {I : List α → σ → Prop} {Q : μ → Prop} (note : σ → μ → List α)
    (hstep : ∀ {past s m s'}, I past s → Q m → step s m = some s' → I (past ++ note s m) s')
    (past : List α) (h : I past s) (hm : ∀ m ∈ moves, Q m)
    (hrun : follow step s moves = some s') : I (past ++ observe step note s moves) s' := by
  induction moves generalizing s past with
  | nil =>
    simp only [follow, Option.some.injEq] at hrun
    simpa [observe, hrun] using h
  | cons m rest ih =>
    obtain ⟨s₁, hs₁, hrest⟩ := follow_cons.1 hrun
    rw [observe_cons hs₁, ← List.append_assoc]
    exact ih _ (hstep h (hm m List.mem_cons_self) hs₁) (fun m h => hm m (List.mem_cons_of_mem _ h))
      hrest

/-- What every step keeps that is not barred, a run without barred steps keeps. -/
theorem follow_unbarred (barred : σ → μ → List β)
    (hstep : ∀ {s m s'}, P s → barred s m = [] → step s m = some s' → P s')
    (h : P s) (hnone : observe step barred s moves = [])
    (hrun : follow step s moves = some s') : P s' :=
  follow_history (I := fun _ : List Unit => P) (fun _ _ => []) barred
    (fun h hnow hs => hstep h hnow hs) [] h hnone hrun

theorem observe_filterMap (note : σ → μ → List α) (f : α → Option β) (s : σ) (moves : List μ) :
    observe step (fun s m => (note s m).filterMap f) s moves =
      (observe step note s moves).filterMap f := by
  induction moves generalizing s with
  | nil => rfl
  | cons m rest ih =>
    simp only [observe, List.filterMap_append]
    cases step s m with
    | none => rfl
    | some s₁ => simp only [ih s₁]

theorem observe_map (note : σ → μ → List α) (f : α → β) (s : σ) (moves : List μ) :
    observe step (fun s m => (note s m).map f) s moves = (observe step note s moves).map f := by
  simp only [← List.filterMap_eq_map]
  exact observe_filterMap note _ s moves

theorem observe_moves (f : μ → Option α) (hrun : follow step s moves = some s') :
    observe step (fun _ m => (f m).toList) s moves = moves.filterMap f := by
  induction moves generalizing s with
  | nil => rfl
  | cons m rest ih =>
    obtain ⟨s₁, hs₁, hrest⟩ := follow_cons.1 hrun
    rw [observe_cons hs₁, ih hrest]
    cases hf : f m with
    | none => simp [hf]
    | some a => simp [hf]

end Notes

end

end ChatChannel
