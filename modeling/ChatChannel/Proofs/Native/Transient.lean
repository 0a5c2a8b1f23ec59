import ChatChannel.Proofs.Native.Attachments
import ChatChannel.Proofs.Native.Dispatcher
import ChatChannel.Proofs.Run

/-!
# ChatChannel.Proofs.Native.Transient

The life of attachment files while many dispatchers are at work. `FilesKept` is the invariant: all
files that guards track are in place, and no two dispatchers track one file.

* `kept_of_run`: the invariant holds in every state that a transport can reach.
* `attachments_come_and_go`: the bus gets a message with all of its files in place, and afterwards
  they are gone; a message that the bus does not get leaves no file.
-/

namespace ChatChannel.Native

open FileSystem Media

/-- The paths of the files that a dispatcher keeps for the bus. -/
def State.tracked (s : State) (c : Nat) : List String :=
  match s.stageOf c with
  | .delivering media => media.paths
  | _ => []

/-- The bus has got a message, and its files are in place. -/
structure HandsOver (setup : Setup) (attempts : AttachmentKind → Attempt) (m : Message) (c : Nat)
    (s s' : State) (saved : List Saved) : Prop where
  kinds : (saved.map (·.1)).Sublist AttachmentKind.all
  origin : ∀ e ∈ saved, e.IsFrom setup.intake attempts m.content
  delivered : ∃ out, (setup.intake.takeIn attempts s.fs m).1 = some out ∧
    s.bus.admits out.sender = true ∧ out.media = saved.map (·.2.path) ∧
    s'.bus.delivered = s.bus.delivered ++ [⟨out, saved.map fun e => some e.2.content⟩]
  stage : s'.stageOf c = .delivering ⟨saved.map (·.2.path)⟩
  inPlace : ∀ e ∈ saved, s'.fs.InPlace e.2
  grows : FolderGrows setup.intake.folder (saved.map (·.2.place)) s.fs s'.fs

/-- The bus has got nothing, and there are no files. -/
structure LeavesNothing (setup : Setup) (attempts : AttachmentKind → Attempt) (m : Message)
    (c : Nat) (s s' : State) : Prop where
  refused : ∀ out, (setup.intake.takeIn attempts s.fs m).1 = some out →
    s.bus.admits out.sender = false
  delivered : s'.bus.delivered = s.bus.delivered
  stage : s'.stageOf c = .waiting
  grows : FolderGrows setup.intake.folder [] s.fs s'.fs

/-- All files that guards track are in place, and each is tracked by one of them. -/
structure FilesKept (s : State) : Prop where
  inPlace : ∀ c, ∃ files : List StoredFile,
    files.map StoredFile.path = s.tracked c ∧ ∀ f ∈ files, s.fs.InPlace f
  apart : ∀ c k f g, c ≠ k → f.path ∈ s.tracked c → g.path ∈ s.tracked k →
    s.fs.InPlace f → s.fs.InPlace g → f.place ≠ g.place

section

variable {setup : Setup} {s s' : State} {m : Move} {c k : Nat}

/-! ## What moves do to files -/

theorem fs_dispatch (own : Option Address) (e : Event) : (s.dispatch c own e).fs = s.fs := by
  cases e with
  | message m =>
    simp only [State.dispatch]
    split <;> rfl
  | _ => rfl

theorem contents_of_sound {n : Intake} {attempts : AttachmentKind → Attempt} {content : Content}
    {fs : FileSystem} {saved : List Saved} {d : Draft}
    (h : Sound n attempts content fs saved d) :
    contents d.fs (saved.map (·.2.path)) = saved.map fun e => some e.2.content := by
  rw [contents, List.map_map]
  refine List.map_congr_left fun e he => ?_
  have hread := (h.inPlace e he).readFile
  simp only [Function.comp_apply, hread]
  rfl

/-- A message that has been prepared is handed over with its files, or leaves none. -/
theorem prepareStep_cases {attempts : AttachmentKind → Attempt} {message : Message} {d : Client}
    (hc : s.clients[c]? = some d) (h : PrepareStep setup s c attempts message s') :
    (∃ saved, HandsOver setup attempts message c s s' saved) ∨
      LeavesNothing setup attempts message c s s' := by
  cases h with
  | dropped htake =>
    refine .inr ⟨fun out hout => ?_, rfl, stageOf_eq (client_onClient hc), takeIn_none htake⟩
    rw [htake] at hout
    cases hout
  | @admitted out draft htake hadmits =>
    obtain ⟨saved, hkinds, hsound, hmedia⟩ := takeIn_some htake
    have hstage : draft.media = ⟨saved.map (·.2.path)⟩ := by
      rw [← hsound.tracked]
    refine .inl ⟨saved, hkinds, hsound.origin, ⟨out, by rw [htake], hadmits, hmedia, ?_⟩, ?_,
      hsound.inPlace, hsound.grows⟩
    · rw [← contents_of_sound hsound, ← hmedia]
      exact congrArg Bus.delivered (if_pos hadmits)
    · rw [← hstage]
      exact stageOf_eq (client_onClient hc)
  | denied htake hadmits =>
    obtain ⟨saved, -, hsound, -⟩ := takeIn_some htake
    refine .inr ⟨fun out hout => ?_, rfl, stageOf_eq (client_onClient hc), hsound.grows_release⟩
    rw [htake] at hout
    cases hout
    exact hadmits

theorem cases_of_prepared {attempts : AttachmentKind → Attempt} {message : Message}
    (hm : step setup s (.prepared c attempts) = some s')
    (hpreparing : s.stageOf c = .preparing message) :
    (∃ saved, HandsOver setup attempts message c s s' saved) ∨
      LeavesNothing setup attempts message c s s' := by
  cases step_inv hm with
  | prepared hc hd h =>
    rw [stageOf_eq hc, hd] at hpreparing
    cases hpreparing
    exact prepareStep_cases hc h

/-- Only a guard that is done takes something out of the file system. -/
theorem files_of_step (h : Step setup s m s') :
    s.fs.Extends s'.fs ∨
      ∃ k, m = .handled k ∧ s'.tracked k = [] ∧
        s'.fs = Transient.release ⟨s.tracked k⟩ s.fs := by
  cases h with
  | call call => exact .inl (by cases call <;> exact .refl)
  | start _ h => exact .inl (undisturbed_of_startStep h).files
  | stop _ h => exact .inl (undisturbed_of_stopStep h).files
  | send _ h => exact .inl (undisturbed_of_sendStep h).files
  | take =>
    refine .inl ?_
    rw [fs_dispatch]
    exact .refl
  | prepared hc _ h =>
    rcases prepareStep_cases hc h with ⟨saved, h⟩ | h
    · exact .inl h.grows.extends
    · exact .inl h.grows.extends
  | @handled k d media hc hd =>
    have hc' : ({ s with fs := media.release s.fs }.onClient k
        fun d => { d with stage := .waiting }).clients[k]? = some { d with stage := .waiting } :=
      client_onClient hc
    refine .inr ⟨k, rfl, ?_, ?_⟩
    · simp only [State.tracked, stageOf_eq hc']
    · simp only [State.tracked, stageOf_eq hc, hd]
      rfl
  | _ => exact .inl .refl

theorem tracked_of_step (h : Step setup s m s') (c : Nat) :
    m ≠ .handled c ∧ s'.tracked c = s.tracked c ∨ s'.tracked c = [] ∨
      ∃ attempts, m = .prepared c attempts := by
  have hturn := turn_of_step h c
  cases hturn with
  | other hm hsame =>
    refine .inl ⟨?_, by simp only [State.tracked, hsame.stage]⟩
    rintro rfl
    exact hm rfl
  | emit e _ hstage => exact .inl ⟨by simp, by simp only [State.tracked, hstage]⟩
  | @take e _ _ hstage =>
    refine .inr (.inl ?_)
    cases hforeign : foreign? (s.ownOf c) e <;>
      simp only [State.tracked, hstage, hforeign, stageAfter]
  | halt _ _ hstage => exact .inr (.inl (by simp only [State.tracked, hstage]))
  | prepared => exact .inr (.inr ⟨_, rfl⟩)
  | handled _ _ hstage => exact .inr (.inl (by simp only [State.tracked, hstage]))

/-! ## The invariant -/

theorem tracked_of_stage {media : Transient} (h : s.stageOf c = .delivering media) :
    s.tracked c = media.paths := by
  simp only [State.tracked, h]

theorem tracked_of_prepareStep {attempts : AttachmentKind → Attempt} {message : Message}
    {d : Client} (hc : s.clients[c]? = some d)
    (h : PrepareStep setup s c attempts message s') :
    ∃ files : List StoredFile, files.map StoredFile.path = s'.tracked c ∧
      (∀ f ∈ files, s'.fs.InPlace f) ∧ ∀ f ∈ files, s.fs.node? f.place = none := by
  rcases prepareStep_cases hc h with ⟨saved, h⟩ | h
  · refine ⟨saved.map (·.2), ?_, ?_, ?_⟩
    · rw [tracked_of_stage h.stage, List.map_map]
      rfl
    · intro f hf
      obtain ⟨e, he, rfl⟩ := List.mem_map.1 hf
      exact h.inPlace e he
    · intro f hf
      obtain ⟨e, he, rfl⟩ := List.mem_map.1 hf
      exact h.grows.fresh _ (List.mem_map.2 ⟨e, he, rfl⟩)
  · refine ⟨[], ?_, fun _ hf => absurd hf List.not_mem_nil, fun _ hf => absurd hf List.not_mem_nil⟩
    simp only [State.tracked, h.stage, List.map_nil]

/-- A file that a dispatcher goes on to track stays in place. -/
theorem FilesKept.stays (hkept : FilesKept s) (h : Step setup s m s') (hne : m ≠ .handled c)
    {f : StoredFile} (hf : s.fs.InPlace f) (htracked : f.path ∈ s.tracked c) : s'.fs.InPlace f := by
  rcases files_of_step h with hextends | ⟨k, rfl, -, hrelease⟩
  · exact hf.extends hextends
  · -- Another dispatcher removes its own files, which are at other places.
    have hk : c ≠ k := fun h => hne (h ▸ rfl)
    obtain ⟨files, hpaths, hfiles⟩ := hkept.inPlace k
    obtain ⟨hnode, hdirs⟩ := Transient.release_node? hfiles
    rw [hpaths, ← hrelease] at hnode hdirs
    refine hf.mono hdirs ?_
    rw [hnode, if_neg, hf.file]
    intro hmem
    obtain ⟨g, hg, hplace⟩ := List.mem_map.1 hmem
    have hgtracked : g.path ∈ s.tracked k := hpaths ▸ List.mem_map.2 ⟨g, hg, rfl⟩
    exact hkept.apart c k f g hk htracked hgtracked hf (hfiles g hg) hplace.symm

theorem FilesKept.old_or_new (hkept : FilesKept s) (h : Step setup s m s') {f : StoredFile}
    (htracked : f.path ∈ s'.tracked c) (hf : s'.fs.InPlace f) :
    (f.path ∈ s.tracked c ∧ ∃ g : StoredFile, g.path = f.path ∧ g.place = f.place ∧
        s.fs.InPlace g) ∨
      (∃ attempts, m = .prepared c attempts) ∧ s.fs.node? f.place = none := by
  rcases tracked_of_step h c with ⟨hne, hsame⟩ | hnone | ⟨attempts, rfl⟩
  · -- A path that was tracked before leads to the place where it led then.
    rw [hsame] at htracked
    obtain ⟨files, hpaths, hfiles⟩ := hkept.inPlace c
    rw [← hpaths] at htracked
    obtain ⟨g, hg, hpath⟩ := List.mem_map.1 htracked
    have hgtracked : g.path ∈ s.tracked c := hpaths ▸ List.mem_map.2 ⟨g, hg, rfl⟩
    have hplace := (hkept.stays h hne (hfiles g hg) hgtracked).place_eq hf hpath
    exact .inl ⟨hpath ▸ hgtracked, g, hpath, hplace, hfiles g hg⟩
  · rw [hnone] at htracked
    cases htracked
  · cases h with
    | prepared hc _ h =>
      obtain ⟨files, hpaths, hfiles, hfresh⟩ := tracked_of_prepareStep hc h
      rw [← hpaths] at htracked
      obtain ⟨g, hg, hpath⟩ := List.mem_map.1 htracked
      refine .inr ⟨⟨attempts, rfl⟩, ?_⟩
      rw [← (hfiles g hg).place_eq hf hpath, hfresh g hg]

theorem FilesKept.inPlace_of_step (hkept : FilesKept s) (h : Step setup s m s') (c : Nat) :
    ∃ files : List StoredFile,
      files.map StoredFile.path = s'.tracked c ∧ ∀ f ∈ files, s'.fs.InPlace f := by
  rcases tracked_of_step h c with ⟨hne, hsame⟩ | hnone | ⟨attempts, rfl⟩
  · obtain ⟨files, hpaths, hfiles⟩ := hkept.inPlace c
    refine ⟨files, hpaths.trans hsame.symm, fun f hf => ?_⟩
    exact hkept.stays h hne (hfiles f hf) (hpaths ▸ List.mem_map.2 ⟨f, hf, rfl⟩)
  · exact ⟨[], hnone.symm, fun _ hf => absurd hf List.not_mem_nil⟩
  · cases h with
    | prepared hc _ h =>
      obtain ⟨files, hpaths, hfiles, -⟩ := tracked_of_prepareStep hc h
      exact ⟨files, hpaths, hfiles⟩

theorem FilesKept.apart_of_step (hkept : FilesKept s) (h : Step setup s m s') {f g : StoredFile}
    (hck : c ≠ k) (hf : f.path ∈ s'.tracked c) (hg : g.path ∈ s'.tracked k)
    (hfplace : s'.fs.InPlace f) (hgplace : s'.fs.InPlace g) : f.place ≠ g.place := by
  intro hsame
  rcases hkept.old_or_new h hf hfplace with ⟨hf₀, f₀, hpath, hplace, hf₀place⟩ | ⟨⟨_, hm⟩, hfnone⟩
  · rcases hkept.old_or_new h hg hgplace with ⟨hg₀, g₀, hpath', hplace', hg₀place⟩ | ⟨-, hgnone⟩
    · refine hkept.apart c k f₀ g₀ hck (hpath ▸ hf₀) (hpath' ▸ hg₀) hf₀place hg₀place ?_
      rw [hplace, hplace', hsame]
    · -- A new file is where nothing was, so no old one is there.
      have hfile := hf₀place.file
      rw [hplace, hsame, hgnone] at hfile
      cases hfile
  · rcases hkept.old_or_new h hg hgplace with ⟨-, g₀, -, hplace', hg₀place⟩ | ⟨⟨_, hm'⟩, -⟩
    · have hfile := hg₀place.file
      rw [hplace', ← hsame, hfnone] at hfile
      cases hfile
    · rw [hm] at hm'
      cases hm'
      exact hck rfl

theorem kept_of_step (hkept : FilesKept s) (h : Step setup s m s') : FilesKept s' where
  inPlace := hkept.inPlace_of_step h
  apart _ _ _ _ hck hf hg hfplace hgplace := hkept.apart_of_step h hck hf hg hfplace hgplace

theorem kept_initial (bus : Bus) (fs : FileSystem) : FilesKept (.initial bus fs) where
  inPlace _ := ⟨[], rfl, fun _ hf => absurd hf List.not_mem_nil⟩
  apart _ _ _ _ _ hf := absurd hf List.not_mem_nil

/-- In every state that a transport can reach, the files that guards track are in place. -/
theorem kept_of_run (hkept : FilesKept s) {moves : List Move}
    (hrun : exec setup s moves = some s') : FilesKept s' := by
  rw [exec_eq_follow] at hrun
  exact follow_invariant (Q := fun _ => True)
    (fun hkept _ hstep => kept_of_step hkept (step_inv hstep)) hkept (fun _ _ => trivial) hrun

/-! ## Until the bus is done -/

theorem delivering_of_step (h : Step setup s m s') (hne : m ≠ .handled c) {media : Transient}
    (hstage : s.stageOf c = .delivering media) : s'.stageOf c = .delivering media := by
  have hturn := turn_of_step h c
  cases hturn with
  | other _ hsame => rw [hsame.stage, hstage]
  | emit e _ hsame => rw [hsame, hstage]
  | take hwaiting => rw [hstage] at hwaiting; cases hwaiting
  | halt hwaiting => rw [hstage] at hwaiting; cases hwaiting
  | prepared hpreparing => rw [hstage] at hpreparing; cases hpreparing
  | handled => exact absurd rfl hne

theorem delivering_of_run (hkept : FilesKept s) {saved : List Saved}
    (hstage : s.stageOf c = .delivering ⟨saved.map (·.2.path)⟩)
    (hfiles : ∀ e ∈ saved, s.fs.InPlace e.2) {moves : List Move}
    (hmoves : ∀ m ∈ moves, m ≠ .handled c) (hrun : exec setup s moves = some s') :
    s'.stageOf c = .delivering ⟨saved.map (·.2.path)⟩ ∧ ∀ e ∈ saved, s'.fs.InPlace e.2 := by
  rw [exec_eq_follow] at hrun
  let P (t : State) : Prop := FilesKept t ∧ t.stageOf c = .delivering ⟨saved.map (·.2.path)⟩ ∧
    ∀ e ∈ saved, t.fs.InPlace e.2
  have hkeep : ∀ {t m t'}, P t → m ≠ .handled c → step setup t m = some t' → P t' := by
    rintro t m t' ⟨hkept, hstage, hfiles⟩ hne hstep
    have hstep := step_inv hstep
    refine ⟨kept_of_step hkept hstep, delivering_of_step hstep hne hstage, fun e he => ?_⟩
    have htracked : e.2.path ∈ t.tracked c := by
      rw [tracked_of_stage hstage]
      exact List.mem_map.2 ⟨e, he, rfl⟩
    exact hkept.stays hstep hne (hfiles e he) htracked
  exact (follow_invariant hkeep ⟨hkept, hstage, hfiles⟩ hmoves hrun).2

/-- When the bus is done, the files are removed, and nothing else is. -/
theorem step_handled (setup : Setup) {saved : List Saved}
    (hstage : s.stageOf c = .delivering ⟨saved.map (·.2.path)⟩)
    (hfiles : ∀ e ∈ saved, s.fs.InPlace e.2) :
    ∃ s', step setup s (.handled c) = some s' ∧ s'.stageOf c = .waiting ∧
      ∀ p, s'.fs.node? p = if p ∈ saved.map (·.2.place) then none else s.fs.node? p := by
  cases hc : s.clients[c]? with
  | none => simp [State.stageOf, hc] at hstage
  | some d =>
    have hd : d.stage = .delivering ⟨saved.map (·.2.path)⟩ := by rw [← hstage, stageOf_eq hc]
    have hplaces : ∀ f ∈ saved.map (·.2), s.fs.InPlace f := by
      intro f hf
      obtain ⟨e, he, rfl⟩ := List.mem_map.1 hf
      exact hfiles e he
    have hnode := (Transient.release_node? hplaces).1
    rw [List.map_map, List.map_map] at hnode
    let media : Transient := ⟨saved.map (·.2.path)⟩
    have hstep : step setup s (.handled c) =
        some ({ s with fs := media.release s.fs }.onClient c
          fun d => { d with stage := .waiting }) := by
      simp only [step, hc, hd, media]
    exact ⟨_, hstep, stageOf_eq (client_onClient hc), hnode⟩

end

/-! ## The life of attachment files -/

/-- The bus has the message of `HandsOver` in `s₂`. Whatever else it leaves in the file system, once
it is done the files are gone, and what it did not touch is as it was before they came. -/
def Restores (setup : Setup) (c : Nat) (s s₁ s₂ : State) (saved : List Saved) : Prop :=
  ∀ fs : FileSystem, (∀ e ∈ saved, fs.InPlace e.2) →
    ∃ s₃, step setup { s₂ with fs } (.handled c) = some s₃ ∧ s₃.stageOf c = .waiting ∧
      (∀ p, s₃.fs.node? p = if p ∈ saved.map (·.2.place) then none else fs.node? p) ∧
      ∀ p, fs.node? p = s₁.fs.node? p → s₃.fs.node? p = s.fs.node? p ∨
        Made 0o700 (Path.ancestors setup.intake.folder.dir) s.fs s₁.fs p

theorem restores_of_handsOver {setup : Setup} {attempts : AttachmentKind → Attempt} {m : Message}
    {c : Nat} {s s₁ s₂ : State} {saved : List Saved}
    (h : HandsOver setup attempts m c s s₁ saved)
    (hstage : s₂.stageOf c = .delivering ⟨saved.map (·.2.path)⟩) :
    Restores setup c s s₁ s₂ saved := by
  intro fs hfiles
  obtain ⟨s₃, hstep, hwaiting, hnode⟩ :=
    step_handled setup (s := { s₂ with fs }) hstage hfiles
  refine ⟨s₃, hstep, hwaiting, hnode, fun p hp => ?_⟩
  rw [hnode]
  by_cases hmem : p ∈ saved.map (·.2.place)
  · rw [if_pos hmem, h.grows.fresh p hmem]
    exact .inl rfl
  · rw [if_neg hmem, hp]
    exact h.grows.rest p hmem

/-- Attachment files are there while the bus has their message, and never after. A dispatcher that
has a message in hand can always go on, whatever became of the downloads: either the bus gets the
message, each of its files holds what was fetched for it until the bus is done, and then they are
removed; or it gets nothing, and there are no files. Taking an event changes no file. -/
theorem attachments_come_and_go {setup : Setup} {bus : Bus} {fs : FileSystem}
    {before : List Move} {s : State} {c : Nat} {m : Message} (attempts : AttachmentKind → Attempt)
    (hbefore : exec setup (.initial bus fs) before = some s)
    (hpreparing : s.stageOf c = .preparing m) :
    (∃ s₁, step setup s (.prepared c attempts) = some s₁ ∧
      ((∃ saved, HandsOver setup attempts m c s s₁ saved ∧
          ∀ during s₂, exec setup s₁ during = some s₂ → (∀ move ∈ during, move ≠ .handled c) →
            (∀ e ∈ saved, s₂.fs.InPlace e.2 ∧ s₂.fs.readFile e.2.path = .ok e.2.content) ∧
              Restores setup c s s₁ s₂ saved) ∨
        LeavesNothing setup attempts m c s s₁)) ∧
      ∀ t t' k, step setup t (.take k) = some t' → t'.fs = t.fs := by
  have hkept : FilesKept s := kept_of_run (kept_initial bus fs) hbefore
  refine ⟨?_, ?_⟩
  · obtain ⟨s₁, hprepared⟩ := can_prepare setup attempts hpreparing
    have hkept₁ : FilesKept s₁ := kept_of_step hkept (step_inv hprepared)
    refine ⟨s₁, hprepared, ?_⟩
    rcases cases_of_prepared hprepared hpreparing with ⟨saved, h⟩ | h
    · refine .inl ⟨saved, h, fun during s₂ hduring hmoves => ?_⟩
      obtain ⟨hstage, hfiles⟩ := delivering_of_run hkept₁ h.stage h.inPlace hmoves hduring
      exact ⟨fun e he => ⟨hfiles e he, (hfiles e he).readFile⟩, restores_of_handsOver h hstage⟩
    · exact .inr h
  · intro t t' k htake
    cases step_inv htake with
    | take => rw [fs_dispatch]; rfl

/-- A picture that can be downloaded, and a document that cannot be saved. -/
def pictureAttempts : AttachmentKind → Attempt
  | .image => ⟨.ok ⟨#[1, 2, 3]⟩, .ofNat 1, .none⟩
  | .document => ⟨.ok ⟨#[4]⟩, .ofNat 2, ⟨none, some .permissionDenied, none⟩⟩
  | _ => ⟨.error "unavailable", .ofNat 0, .none⟩

/-- A message with a picture and a document. -/
def pictureMessage : Message :=
  let a : Attachment := ⟨none, none, none, "", ⟨#[]⟩, 0, false⟩
  let sender : Address := .ofAccount "a" "s"
  ⟨⟨"id", sender, sender, false, false, ""⟩, ⟨none, none, some a, none, some a, none, none⟩⟩

/-- A start, and the report of the message. -/
def pictureReported : List Move :=
  [.call (.start 0), .resume 0 .ready, .resume 0 .ready, .resume 0 .ready,
    .resume 0 (.opened (some (.ofAccount "me" "s"))), .emit 0 (.message pictureMessage), .take 0]

theorem picture_comes_and_goes : ∃ (s s₁ s₃ : State) (saved : List Saved),
    exec plainSetup (.initial (.new channelName []) .empty) pictureReported = some s ∧
      step plainSetup s (.prepared 0 pictureAttempts) = some s₁ ∧
      (saved.map fun e => some e.2.content) = [some ⟨#[1, 2, 3]⟩] ∧
      step plainSetup s₁ (.handled 0) = some s₃ ∧
      ∀ e ∈ saved, s₁.fs.InPlace e.2 ∧ s₃.fs.node? e.2.place = none := by
  let start : State := .initial (.new channelName []) .empty
  have hstages : (exec plainSetup start pictureReported).map (fun s => s.stageOf 0) =
      some (.preparing pictureMessage) := by decide +kernel
  have hbus : ((exec plainSetup start pictureReported).bind fun s =>
      (step plainSetup s (.prepared 0 pictureAttempts)).map fun s₁ =>
        (s.bus.delivered, s₁.bus.delivered.map Delivery.files)) =
      some ([], [[some ⟨#[1, 2, 3]⟩]]) := by decide +kernel
  obtain ⟨s, hbefore, hpreparing⟩ := Option.map_eq_some_iff.1 hstages
  obtain ⟨⟨s₁, hprepared, hcases⟩, -⟩ :=
    attachments_come_and_go pictureAttempts hbefore hpreparing
  rw [hbefore, Option.bind_some, hprepared, Option.map_some, Option.some.injEq,
    Prod.mk.injEq] at hbus
  obtain ⟨hnone, hone⟩ := hbus
  rcases hcases with ⟨saved, hover, hduring⟩ | hnothing
  · obtain ⟨hfiles, hrestores⟩ := hduring [] s₁ rfl fun _ h => absurd h List.not_mem_nil
    obtain ⟨s₃, hhandled, -, hgone, -⟩ := hrestores s₁.fs fun e he => (hfiles e he).1
    refine ⟨s, s₁, s₃, saved, hbefore, hprepared, ?_, hhandled, fun e he => ?_⟩
    · obtain ⟨out, -, -, -, hdelivered⟩ := hover.delivered
      rw [hdelivered, hnone] at hone
      simpa using hone
    · refine ⟨(hfiles e he).1, ?_⟩
      rw [hgone, if_pos (List.mem_map.2 ⟨e, he, rfl⟩)]
  · rw [hnothing.delivered, hnone] at hone
    cases hone

end ChatChannel.Native
