import ChatChannel.Proofs.Native.Logout

/-!
# ChatChannel.Proofs.Native.Running

When a channel reports to be running. A start sets the running flag as the last thing it does, and
a stop takes it back as the first; so does a dispatcher that takes the report of a revocation. An
observer notes these as `milestones`, and with them the starts that fail.

* `running_of_run`: the flag shows the last milestone that counts for it.
* `revoked_not_running_iff`: so a channel whose session was revoked is shown as not running, unless
  a start has come to its end after the revocation.
* `revoked_and_running`: a run in which that happens.
-/

namespace ChatChannel.Native

/-- What counts for how a channel stands. -/
inductive Milestone where
  /-- A start has come to its end, and it was successful. -/
  | started
  /-- A start that had passed its check has failed. -/
  | failed
  /-- A stop has begun. -/
  | stopped
  /-- A dispatcher has taken the report of a revocation. -/
  | revoked
  deriving DecidableEq

/-- What a milestone sets the running flag to. -/
def Milestone.running? : Milestone → Option Bool
  | .started => some true
  | .failed => none
  | .stopped => some false
  | .revoked => some false

/-- The milestones of a start that goes on. -/
def startMilestones (s : State) : StartPoint → Answer → List Milestone
  | .makeDir dir, .ready =>
    match s.fs.makeDirectories dir 0o700 with
    | (.ok (), _) => []
    | (.error _, _) => [.failed]
  | .opening, .failed _ => [.failed]
  | .abandoning _ _, .ready => [.failed]
  | .holdToken _, .ready => [.started]
  | _, _ => []

/-- The milestones of a move. -/
def milestones (s : State) : Move → List Milestone
  | .take c =>
    match s.queueOf c with
    | .loggedOut _ :: _ => [.revoked]
    | _ => []
  | .resume i answer =>
    match s.operations[i]?, answer with
    | some (.start _ point), answer => startMilestones s point answer
    | some (.stop .check), .ready => [.stopped]
    | _, _ => []
  | _ => []

section

variable {setup : Setup} {s s' s₁ : State} {m : Move} {i token : Nat} {answer : Answer}

theorem bus_of_releaseStep {point : ReleasePoint} {next : Option ReleasePoint}
    (h : ReleaseStep s point s₁ next) : s₁.bus = s.bus := by
  cases h <;> rfl

theorem bus_startReleased : (s.startReleased setup i token).bus = s.bus := by
  unfold State.startReleased
  split <;> rfl

theorem bus_makeStoreDir {dir : String} : (s.makeStoreDir setup i token dir).bus = s.bus := by
  unfold State.makeStoreDir
  split <;> rfl

theorem bus_welcome {own : Option Address} : (s.welcome i token own).bus = s.bus := by
  unfold State.welcome
  split <;> rfl

theorem running_of_startStep {point : StartPoint}
    (h : StartStep setup s i token point answer s') :
    s'.bus.running =
      ((startMilestones s point answer).filterMap Milestone.running?).getLast?.getD
        s.bus.running := by
  cases h with
  | releasing h => rw [← bus_of_releaseStep h]; rfl
  | released h => rw [bus_startReleased, bus_of_releaseStep h]; rfl
  | makeDir =>
    -- Whether it fails or not, the flag stays.
    rw [bus_makeStoreDir, startMilestones]
    split <;> rfl
  | opened => rw [bus_welcome]; rfl
  | _ => rfl

theorem running_of_stopStep {point : StopPoint} (hi : s.operations[i]? = some (.stop point))
    (h : StopStep s i point answer s') :
    s'.bus.running =
      ((milestones s (.resume i answer)).filterMap Milestone.running?).getLast?.getD
        s.bus.running := by
  simp only [milestones, hi]
  cases h with
  | checked => rfl
  | releasing h => rw [← bus_of_releaseStep h]; rfl
  | released h => rw [← bus_of_releaseStep h]; rfl

theorem running_of_prepareStep {c : Nat} {attempts : AttachmentKind → Attempt}
    {message : Message} (h : PrepareStep setup s c attempts message s') :
    s'.bus.running = s.bus.running := by
  cases h with
  | admitted _ hadmits =>
    simp only [State.onClient, Bus.handle]
    split <;> rfl
  | _ => rfl

theorem running_of_step (h : Step setup s m s') :
    s'.bus.running =
      ((milestones s m).filterMap Milestone.running?).getLast?.getD s.bus.running := by
  cases h with
  | call call => cases call <;> rfl
  | start hi h => simp only [running_of_startStep h, milestones, hi]
  | stop hi h => exact running_of_stopStep hi h
  | send hi h =>
    simp only [milestones, hi]
    cases h <;> rfl
  | @take c d e rest hc _ hq =>
    have hqueue : s.queueOf c = e :: rest := by rw [queueOf_eq hc, hq]
    simp only [milestones, hqueue]
    cases e with
    | message message =>
      simp only [State.dispatch]
      split <;> rfl
    | _ => rfl
  | prepared _ _ h => exact running_of_prepareStep h
  | _ => rfl

/-- The running flag shows the last of the milestones that count for it. -/
theorem running_of_run {moves : List Move} (hrun : follow (step setup) s moves = some s') :
    s'.bus.running =
      ((observe (step setup) milestones s moves).filterMap Milestone.running?).getLast?.getD
        s.bus.running := by
  rw [← observe_filterMap]
  exact follow_last (fun t => t.bus.running) _ (fun hm => running_of_step (step_inv hm)) hrun

theorem shows_false_iff {ms : List Mark} : shows false ms = true ↔ ms.getLast? = some .revoked := by
  unfold shows
  split
  · rename_i last hlast
    simp [hlast]
  · rename_i hnone
    simp [hnone]

theorem running_iff_last {bus : Bus} {fs : FileSystem} {moves : List Move}
    (hidle : bus.running = false)
    (hrun : follow (step setup) (.initial bus fs) moves = some s') :
    s'.bus.running = true ↔
      ((observe (step setup) milestones (.initial bus fs) moves).filterMap
        Milestone.running?).getLast? = some true := by
  have hflag : (State.initial bus fs).bus.running = false := hidle
  rw [running_of_run hrun, hflag]
  simp [Option.getD_eq_iff]

/-- A transport that was never started is used in any way. Then a shown revocation goes with a
running flag that is off, unless the last revocation was not overwritten by a start and the last
milestone that counts for the flag is the end of a start, which then came after the revocation. -/
theorem revoked_not_running_iff {bus : Bus} {fs : FileSystem} {moves : List Move}
    (hidle : bus.running = false) (hrun : exec setup (.initial bus fs) moves = some s') :
    (s'.connection = .loggedOut → s'.bus.running = false) ↔
      ¬((observe (step setup) marks (.initial bus fs) moves).getLast? = some .revoked ∧
        ((observe (step setup) milestones (.initial bus fs) moves).filterMap
          Milestone.running?).getLast? = some true) := by
  rw [exec_eq_follow] at hrun
  have hshown : s'.connection = .loggedOut ↔
      (observe (step setup) marks (.initial bus fs) moves).getLast? = some .revoked := by
    rw [revoked_iff_last hrun]
    exact shows_false_iff
  rw [← hshown, ← running_iff_last hidle hrun, not_and, Bool.not_eq_true]

end

/-- The session of a paired client is revoked once its start is over. -/
def revokedAtRest : List Move :=
  [.call (.start 0), .resume 0 .ready, .resume 0 .ready, .resume 0 .ready,
    .resume 0 (.opened (some (.ofAccount "me" "s"))), .resume 0 .ready, .resume 0 .ready,
    .resume 0 .ready, .emit 0 (.loggedOut "revoked"), .take 0]

/-- The session of a paired client is revoked while it connects, and the start goes on. -/
def revokedWhileConnecting : List Move :=
  [.call (.start 0), .resume 0 .ready, .resume 0 .ready, .resume 0 .ready,
    .resume 0 (.opened (some (.ofAccount "me" "s"))), .emit 0 (.loggedOut "revoked"), .take 0,
    .resume 0 .ready, .resume 0 .ready, .resume 0 .ready]

theorem revokedAtRest_not_running : ∃ s',
    exec plainSetup (.initial (.new channelName []) .empty) revokedAtRest = some s' ∧
      s'.connection = .loggedOut ∧ s'.bus.running = false := by
  let bus : Bus := .new channelName []
  have hidle : bus.running = false := rfl
  have hrun : exec plainSetup (.initial bus .empty) revokedAtRest = some _ := rfl
  have hlast : ¬((observe (step plainSetup) marks (.initial bus .empty) revokedAtRest).getLast? =
      some .revoked ∧ ((observe (step plainSetup) milestones (.initial bus .empty)
        revokedAtRest).filterMap Milestone.running?).getLast? = some true) := by decide +kernel
  exact ⟨_, hrun, rfl, (revoked_not_running_iff hidle hrun).2 hlast rfl⟩

/-- A start can make a channel running whose session was revoked. -/
theorem revoked_and_running : ∃ s',
    exec plainSetup (.initial (.new channelName []) .empty) revokedWhileConnecting = some s' ∧
      s'.operations = [.finished (.ok ())] ∧ s'.connection = .loggedOut ∧
      s'.bus.running = true :=
  ⟨_, rfl, rfl, rfl, rfl⟩

end ChatChannel.Native
