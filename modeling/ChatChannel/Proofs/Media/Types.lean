import ChatChannel.Media.Extension
import ChatChannel.Proofs.Text.Lowercase
import ChatChannel.Proofs.Text.Pieces
import Mathlib.Logic.Relation

/-!
# ChatChannel.Proofs.Media.Types

Spellings of media types. A type is the same in capital and small ASCII letters, with blanks around
it and with parameters behind it (`Respelled`); two texts are spellings of the same type, by however
many such changes, exactly if they are compared as the same text (`essence_eq_iff`).
-/

namespace ChatChannel.Media

open Text

/-- A change in the spelling of a media type. -/
inductive Respelled : List Char → List Char → Prop where
  | case {cs cs' : List Char} (h : cs.map Char.toLower = cs'.map Char.toLower) : Respelled cs cs'
  | blanks {before after : List Char} (hbefore : ∀ c ∈ before, isBlank c = true)
      (hafter : ∀ c ∈ after, isBlank c = true) (cs : List Char) :
      Respelled cs (before ++ (cs ++ after))
  | parameters (cs rest : List Char) : Respelled cs (cs ++ ';' :: rest)

/-- Two spellings of one media type: they are connected by changes of the spelling, made or taken
back. -/
def SameType (mediaType other : String) : Prop :=
  Relation.EqvGen Respelled mediaType.toList other.toList

/-- The essence of a media type as a list of characters. -/
def essenceChars (cs : List Char) : List Char :=
  (trimChars (cs.takeWhile (· ≠ ';'))).map Char.toLower

theorem toList_essence (mediaType : String) :
    (essence mediaType).toList = essenceChars mediaType.toList := by
  simp only [essence, asciiLower, trim, String.toList_ofList, essenceChars]

variable {cs before after : List Char} {c : Char}

/-! ## Small letters -/

/-- Only capital letters are changed, which are neither blanks nor a semicolon. -/
theorem toLower_cases (c : Char) :
    c.toLower = c ∨
      (c.toLower ≠ ';' ∧ c ≠ ';') ∧ isBlank c.toLower = false ∧ isBlank c = false := by
  have hA : 'A'.toNat = 65 := rfl
  have hZ : 'Z'.toNat = 90 := rfl
  by_cases hupper : 'A'.toNat ≤ c.toNat ∧ c.toNat ≤ 'Z'.toNat
  · have hlower : c.toLower.toNat = c.toNat + 32 := by rw [toNat_toLower, if_pos hupper]
    have letter {d : Char} (hd : 65 ≤ d.toNat ∧ d.toNat ≤ 122) : d ≠ ';' ∧ isBlank d = false := by
      have htable : ∀ r ∈ blankRanges, r.2 < 65 ∨ 122 < r.1 := by decide +kernel
      refine ⟨?_, ?_⟩
      · rintro rfl
        exact absurd hd (by decide)
      · rw [isBlank, inRanges, List.any_eq_false]
        intro r hr
        rw [Bool.and_eq_true, decide_eq_true_iff, decide_eq_true_iff]
        have hrange := htable r hr
        omega
    obtain ⟨hc, hcb⟩ := letter (d := c) (by omega)
    obtain ⟨hl, hlb⟩ := letter (d := c.toLower) (by omega)
    exact .inr ⟨⟨hl, hc⟩, hlb, hcb⟩
  · exact .inl (Char.toNat_inj.1 (by rw [toNat_toLower, if_neg hupper]))

theorem isBlank_toLower (c : Char) : isBlank c.toLower = isBlank c := by
  rcases toLower_cases c with h | ⟨-, hlower, hc⟩
  · rw [h]
  · rw [hlower, hc]

theorem toLower_ne_semicolon_iff (c : Char) : c.toLower ≠ ';' ↔ c ≠ ';' := by
  rcases toLower_cases c with h | ⟨⟨hlower, hc⟩, -⟩
  · rw [h]
  · exact iff_of_true hlower hc

theorem toLower_toLower (c : Char) : c.toLower.toLower = c.toLower := by
  have hA : 'A'.toNat = 65 := rfl
  have hZ : 'Z'.toNat = 90 := rfl
  have hlower := toNat_toLower c
  apply Char.toNat_inj.1
  rw [toNat_toLower c.toLower, if_neg]
  split at hlower
  · omega
  · omega

theorem trimChars_map_toLower (cs : List Char) :
    trimChars (cs.map Char.toLower) = (trimChars cs).map Char.toLower := by
  have hblank : isBlank ∘ Char.toLower = isBlank := funext isBlank_toLower
  rw [trimChars, trimStart, trimEnd, List.dropWhile_map, hblank, ← List.map_reverse,
    List.dropWhile_map, hblank, ← List.map_reverse]
  rfl

/-- Capital letters make no difference to the essence. -/
theorem essenceChars_eq_map_toLower (cs : List Char) :
    essenceChars cs = trimChars ((cs.map Char.toLower).takeWhile (· ≠ ';')) := by
  have hcolon : (fun c : Char => decide (c ≠ ';')) ∘ Char.toLower = fun c => decide (c ≠ ';') :=
    funext fun c => decide_eq_decide.2 (toLower_ne_semicolon_iff c)
  rw [List.takeWhile_map, hcolon, trimChars_map_toLower, essenceChars]

/-! ## Changes -/

theorem takeWhile_append_semicolon (cs rest : List Char) :
    (cs ++ ';' :: rest).takeWhile (· ≠ ';') = cs.takeWhile (· ≠ ';') := by
  rw [List.takeWhile_append, List.takeWhile_cons_of_neg (by decide), List.append_nil]
  split
  · rename_i hlength
    exact ((List.takeWhile_prefix _).eq_of_length hlength).symm
  · rfl

theorem ne_semicolon_of_isBlank (h : isBlank c = true) : decide (c ≠ ';') = true := by
  refine decide_eq_true ?_
  rintro rfl
  exact absurd h (by decide)

/-- Of blanks at the end, all are left before the first semicolon, or none. -/
theorem exists_takeWhile_append (cs : List Char) (hafter : ∀ c ∈ after, isBlank c = true) :
    ∃ left, (∀ c ∈ left, isBlank c = true) ∧
      (cs ++ after).takeWhile (· ≠ ';') = cs.takeWhile (· ≠ ';') ++ left := by
  rw [List.takeWhile_append]
  split
  · rename_i hlength
    have hall : after.takeWhile (· ≠ ';') = after :=
      List.takeWhile_eq_self_iff.2 fun c hc => ne_semicolon_of_isBlank (hafter c hc)
    exact ⟨after, hafter, by rw [hall, (List.takeWhile_prefix _).eq_of_length hlength]⟩
  · exact ⟨[], nofun, (List.append_nil _).symm⟩

theorem essenceChars_of_respelled {cs cs' : List Char} (h : Respelled cs cs') :
    essenceChars cs = essenceChars cs' := by
  cases h with
  | case h => rw [essenceChars_eq_map_toLower, h, ← essenceChars_eq_map_toLower]
  | blanks hbefore hafter =>
    obtain ⟨left, hleft, htake⟩ := exists_takeWhile_append cs hafter
    rw [essenceChars, essenceChars,
      List.takeWhile_append_of_pos fun c hc => ne_semicolon_of_isBlank (hbefore c hc), htake,
      trimChars_between_blanks hbefore hleft]
  | parameters rest => rw [essenceChars, essenceChars, takeWhile_append_semicolon]

theorem essenceChars_of_eqvGen {cs cs' : List Char} (h : Relation.EqvGen Respelled cs cs') :
    essenceChars cs = essenceChars cs' := by
  induction h with
  | rel cs cs' h => exact essenceChars_of_respelled h
  | refl cs => rfl
  | symm cs cs' _ ih => exact ih.symm
  | trans cs cs' cs'' _ _ ih ih' => exact ih.trans ih'

/-- Every spelling can be changed into the one that is compared. -/
theorem eqvGen_essenceChars (cs : List Char) : Relation.EqvGen Respelled cs (essenceChars cs) := by
  have hparameters : Relation.EqvGen Respelled cs (cs.takeWhile (· ≠ ';')) := by
    have hcs := List.takeWhile_append_dropWhile (p := fun c => decide (c ≠ ';')) (l := cs)
    cases hrest : cs.dropWhile (· ≠ ';') with
    | nil =>
      rw [hrest, List.append_nil] at hcs
      rw [hcs]
      exact .refl _
    | cons c rest =>
      obtain rfl : c = ';' := by
        have hc := List.head?_dropWhile_not (fun c => decide (c ≠ ';')) cs
        rw [hrest] at hc
        simpa using hc
      have hadded := Respelled.parameters (cs.takeWhile (· ≠ ';')) rest
      rw [← hrest, hcs] at hadded
      exact .symm _ _ (.rel _ _ hadded)
  have hblanks (word : List Char) : Relation.EqvGen Respelled word (trimChars word) := by
    obtain ⟨before, after, hbefore, hafter, hword⟩ := exists_trimChars word
    have hadded := Respelled.blanks hbefore hafter (trimChars word)
    rw [← hword] at hadded
    exact .symm _ _ (.rel _ _ hadded)
  have hcase (word : List Char) : Relation.EqvGen Respelled word (word.map Char.toLower) := by
    refine .rel _ _ (.case ?_)
    rw [List.map_map]
    exact List.map_congr_left fun c _ => (toLower_toLower c).symm
  exact .trans _ _ _ (.trans _ _ _ hparameters (hblanks _)) (hcase _)

/-- Spellings of one media type are those that are compared as the same text. -/
theorem essence_eq_iff {mediaType other : String} :
    essence mediaType = essence other ↔ SameType mediaType other := by
  rw [← String.toList_inj, toList_essence, toList_essence]
  constructor
  · intro h
    exact (eqvGen_essenceChars _).trans _ _ _ (h ▸ (eqvGen_essenceChars _).symm)
  · exact essenceChars_of_eqvGen

end ChatChannel.Media
