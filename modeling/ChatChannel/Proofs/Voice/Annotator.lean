import ChatChannel.Voice.Annotator

/-!
# ChatChannel.Proofs.Voice.Annotator

The note on a recording, whatever the annotator, the file system and the service are like. What
happens is decided by three questions in turn: is there a service, can the file be read, and does
the service succeed in time.

* `annotate_of_readable`: the one question to the service, if the first two are answered.
* `Ruled`: the note in all cases.
* `annotate_is_ruled`: every note is by this rule.
-/

namespace ChatChannel.Voice

/-- The service succeeds before this time is over. -/
def Reply.SucceedsBefore (r : Reply) (timeout : Duration) (transcript : Transcript) : Prop :=
  r.outcome = .ok transcript ∧ ∃ delay, r.delay = some delay ∧ delay.millis < timeout.millis

/-- The service fails, sooner or later. -/
def Reply.Fails (r : Reply) : Prop :=
  ∃ error, r.outcome = .error error

/-- The service is still at work when this time is over. -/
def Reply.IsPendingAfter (r : Reply) (timeout : Duration) : Prop :=
  ∀ delay, r.delay = some delay → timeout.millis < delay.millis

namespace Annotator

/-- The annotator has this service, and it is configured. -/
def HasService (a : Annotator) (p : Provider) : Prop :=
  a.provider = some p ∧ p.configured = true

/-- The question about a recording: its bytes, the format that the path stands for, and no
language. -/
def question (path : String) (audio : ByteArray) : Request :=
  ⟨audio, (AudioFormat.ofPath? path).getD .opus, none⟩

/-- The note on a recording is by the rule. -/
structure Ruled (a : Annotator) (fs : FileSystem) (path : String) (note : Annotation) : Prop where
  /-- The placeholder stands for the missing service, and for nothing else. -/
  placeholder_iff : note.text = placeholder ↔ ∀ p, ¬a.HasService p
  /-- Without a service nothing is asked and no file makes a difference. -/
  unserved : (∀ p, ¬a.HasService p) →
    note.asked = none ∧ note.waited = ⟨0⟩ ∧ ∀ fs' path', a.annotate fs' path' = note
  unreadable : ∀ p fault, a.HasService p → fs.readFile path = .error fault →
    note.text = failedPlaceholder ∧ note.asked = none
  /-- The service is asked once. -/
  asked : ∀ p audio, a.HasService p → fs.readFile path = .ok audio →
    note.asked = some (question path audio)
  transcribed : ∀ p audio transcript, a.HasService p → fs.readFile path = .ok audio →
    (p.transcribe (question path audio)).SucceedsBefore a.timeout transcript →
      note.text = "[voice transcription: " ++ Text.trim transcript.text ++ "]"
  failed : ∀ p audio, a.HasService p → fs.readFile path = .ok audio →
    (p.transcribe (question path audio)).Fails ∨
        (p.transcribe (question path audio)).IsPendingAfter a.timeout →
      note.text = failedPlaceholder
  nonempty : note.text ≠ ""
  timely : note.waited.millis ≤ a.timeout.millis

section

variable {a : Annotator} {fs : FileSystem} {path : String} {p : Provider} {timeout : Duration}
  {asked : Request} {reply : Reply} {audio : ByteArray}

/-! ## Texts -/

theorem length_transcriptionNote (text : String) : 23 ≤ (transcriptionNote text).length := by
  have hopening : "[voice transcription: ".length = 22 := by decide +kernel
  have hclosing : "]".length = 1 := by decide +kernel
  unfold transcriptionNote
  rw [String.length_append, String.length_append, hopening, hclosing]
  omega

theorem transcriptionNote_ne {text other : String} (h : other.length < 23) :
    transcriptionNote text ≠ other := by
  rintro rfl
  exact absurd (length_transcriptionNote text) (by omega)

/-! ## Waiting for an answer -/

theorem await_asked : (await timeout asked reply).asked = some asked := by
  unfold await
  split
  · rfl
  · split
    · split <;> rfl
    · rfl

theorem await_waited_le : (await timeout asked reply).waited.millis ≤ timeout.millis := by
  unfold await
  split
  · exact Nat.le_refl _
  · split
    · split <;> assumption
    · exact Nat.le_refl _

theorem await_text_cases (timeout : Duration) (asked : Request) (reply : Reply) :
    (await timeout asked reply).text = failedPlaceholder ∨
      ∃ text, (await timeout asked reply).text = transcriptionNote text := by
  unfold await
  split
  · exact .inl rfl
  · split
    · split
      · exact .inr ⟨_, rfl⟩
      · exact .inl rfl
    · exact .inl rfl

theorem await_of_succeeds {transcript : Transcript} (h : reply.SucceedsBefore timeout transcript) :
    (await timeout asked reply).text = transcriptionNote transcript.text := by
  obtain ⟨houtcome, delay, hdelay, hbefore⟩ := h
  simp only [await, hdelay, houtcome, Nat.le_of_lt hbefore, if_true]

theorem await_of_fails (h : reply.Fails) :
    (await timeout asked reply).text = failedPlaceholder := by
  obtain ⟨error, houtcome⟩ := h
  unfold await
  rw [houtcome]
  split
  · rfl
  · split <;> rfl

theorem await_of_pending (h : reply.IsPendingAfter timeout) :
    (await timeout asked reply).text = failedPlaceholder := by
  unfold await
  split
  · rfl
  · rename_i delay hdelay
    rw [if_neg (Nat.not_le.2 (h delay hdelay))]

/-! ## Notes -/

theorem ready?_eq_some_iff : a.ready? = some p ↔ a.HasService p := by
  rw [ready?, Option.filter_eq_some_iff, HasService]

theorem ready?_eq_none_iff : a.ready? = none ↔ ∀ p, ¬a.HasService p := by
  simp only [Option.eq_none_iff_forall_ne_some, ne_eq, ready?_eq_some_iff]

theorem annotate_of_unserved (h : a.ready? = none) (fs : FileSystem) (path : String) :
    a.annotate fs path = ⟨placeholder, none, ⟨0⟩⟩ := by
  rw [annotate, h]

theorem annotate_of_unreadable (h : a.HasService p) {fault : FileFault}
    (hfile : fs.readFile path = .error fault) :
    a.annotate fs path = ⟨failedPlaceholder, none, ⟨0⟩⟩ := by
  simp only [annotate, ready?_eq_some_iff.2 h, hfile]

/-- A service is asked about a file that can be read, if there is time at all. -/
theorem annotate_of_readable (h : a.HasService p) (hfile : fs.readFile path = .ok audio)
    (htimeout : 0 < a.timeout.millis) :
    a.annotate fs path =
      await a.timeout (question path audio) (p.transcribe (question path audio)) := by
  simp only [annotate, ready?_eq_some_iff.2 h, hfile, Nat.ne_of_gt htimeout, if_false]
  rfl

theorem annotate_cases (a : Annotator) (fs : FileSystem) (path : String)
    (htimeout : 0 < a.timeout.millis) :
    (∀ p, ¬a.HasService p) ∧ a.annotate fs path = ⟨placeholder, none, ⟨0⟩⟩ ∨
      ∃ p, a.HasService p ∧
        (a.annotate fs path = ⟨failedPlaceholder, none, ⟨0⟩⟩ ∨
          ∃ asked, a.annotate fs path = await a.timeout asked (p.transcribe asked)) := by
  cases hready : a.ready? with
  | none => exact .inl ⟨ready?_eq_none_iff.1 hready, annotate_of_unserved hready fs path⟩
  | some p =>
    have hservice := ready?_eq_some_iff.1 hready
    refine .inr ⟨p, hservice, ?_⟩
    cases hfile : fs.readFile path with
    | error fault => exact .inl (annotate_of_unreadable hservice hfile)
    | ok audio => exact .inr ⟨_, annotate_of_readable hservice hfile htimeout⟩

theorem annotate_text_eq_placeholder_iff (fs : FileSystem) (path : String)
    (htimeout : 0 < a.timeout.millis) :
    (a.annotate fs path).text = placeholder ↔ ∀ p, ¬a.HasService p := by
  rcases annotate_cases a fs path htimeout with
    ⟨hnone, hnote⟩ | ⟨p, hservice, hnote | ⟨asked, hnote⟩⟩
  · exact iff_of_true (by rw [hnote]) hnone
  · exact iff_of_false (by rw [hnote]; decide) fun hnone => hnone p hservice
  · refine iff_of_false ?_ fun hnone => hnone p hservice
    rw [hnote]
    rcases await_text_cases a.timeout asked (p.transcribe asked) with htext | ⟨text, htext⟩
    · rw [htext]
      decide
    · rw [htext]
      exact transcriptionNote_ne (by decide)

theorem annotate_text_ne_empty (fs : FileSystem) (path : String) (htimeout : 0 < a.timeout.millis) :
    (a.annotate fs path).text ≠ "" := by
  rcases annotate_cases a fs path htimeout with ⟨-, hnote⟩ | ⟨p, -, hnote | ⟨asked, hnote⟩⟩
  · rw [hnote]
    decide
  · rw [hnote]
    decide
  · rw [hnote]
    rcases await_text_cases a.timeout asked (p.transcribe asked) with htext | ⟨text, htext⟩
    · rw [htext]
      decide
    · rw [htext]
      exact transcriptionNote_ne (by decide)

theorem annotate_waited_le (fs : FileSystem) (path : String) (htimeout : 0 < a.timeout.millis) :
    (a.annotate fs path).waited.millis ≤ a.timeout.millis := by
  rcases annotate_cases a fs path htimeout with ⟨-, hnote⟩ | ⟨p, -, hnote | ⟨asked, hnote⟩⟩
  · rw [hnote]
    exact Nat.zero_le _
  · rw [hnote]
    exact Nat.zero_le _
  · rw [hnote]
    exact await_waited_le

end

/-- Every note is by the rule: for whatever service, file system, path and positive timeout. -/
theorem annotate_is_ruled (a : Annotator) (fs : FileSystem) (path : String)
    (htimeout : 0 < a.timeout.millis) : a.Ruled fs path (a.annotate fs path) where
  placeholder_iff := annotate_text_eq_placeholder_iff fs path htimeout
  unserved hnone := by
    have hnote := annotate_of_unserved (ready?_eq_none_iff.2 hnone)
    simp only [hnote, implies_true, and_self]
  unreadable p fault hservice hfile := by
    rw [annotate_of_unreadable hservice hfile]
    exact ⟨rfl, rfl⟩
  asked p audio hservice hfile := by
    rw [annotate_of_readable hservice hfile htimeout, await_asked]
  transcribed p audio transcript hservice hfile hsucceeds := by
    rw [annotate_of_readable hservice hfile htimeout, await_of_succeeds hsucceeds]
    rfl
  failed p audio hservice hfile hfails := by
    rw [annotate_of_readable hservice hfile htimeout]
    exact hfails.elim await_of_fails await_of_pending
  nonempty := annotate_text_ne_empty fs path htimeout
  timely := annotate_waited_le fs path htimeout

/-- A service that answers just before the time is over. -/
def punctual : Annotator :=
  ⟨some ⟨"service", true, fun _ => ⟨.ok ⟨" \u3000noon\n", none, none⟩, some ⟨999⟩⟩⟩, ⟨1000⟩⟩

/-- A recording whose name stands for its format. -/
def oneRecording : FileSystem :=
  ⟨[(["media"], .directory 0o755), (["media", "wa_1.M4A"], .file ⟨#[1, 2, 3]⟩)]⟩

theorem punctual_is_heard :
    0 < punctual.timeout.millis ∧
      (punctual.annotate oneRecording "/media/wa_1.M4A").text = "[voice transcription: noon]" ∧
      (punctual.annotate oneRecording "/media/wa_1.M4A").asked = some ⟨⟨#[1, 2, 3]⟩, .m4a, none⟩ ∧
      (punctual.annotate oneRecording "/media/wa_2.ogg").text = failedPlaceholder := by
  have htimeout : 0 < punctual.timeout.millis := by decide
  have hservice : punctual.HasService _ := ⟨rfl, rfl⟩
  have hfile : oneRecording.readFile "/media/wa_1.M4A" = .ok ⟨#[1, 2, 3]⟩ := rfl
  have hmissing : oneRecording.readFile "/media/wa_2.ogg" = .error .notFound := rfl
  have hruled := annotate_is_ruled punctual oneRecording "/media/wa_1.M4A" htimeout
  have hunreadable := annotate_is_ruled punctual oneRecording "/media/wa_2.ogg" htimeout
  refine ⟨htimeout, ?_, ?_, (hunreadable.unreadable _ _ hservice hmissing).1⟩
  · refine (hruled.transcribed _ _ _ hservice hfile ⟨rfl, ⟨999⟩, rfl, by decide⟩).trans ?_
    decide +kernel
  · refine (hruled.asked _ _ hservice hfile).trans ?_
    decide +kernel

end Annotator

end ChatChannel.Voice
