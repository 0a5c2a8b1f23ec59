import ChatChannel.Json.Reader
import Mathlib.Data.List.Nodup
import Mathlib.Data.String.Basic

/-!
# ChatChannel.Proofs.Json.Members

The members of JSON objects, looked up by name. In a canonical value, as `parse` gives it, every
name occurs once (`parse_nodup`), so a member is found by its name exactly if it is there
(`lookup_eq_some_iff`), and changes of members are seen there (`lookup_filterMap`).
-/

namespace ChatChannel.Json

/-- The names of members, in order. -/
def names (members : List (String × Json)) : List String :=
  members.map Prod.fst

theorem lookup_cons (key k : String) (v : Json) (rest : List (String × Json)) :
    lookup key ((k, v) :: rest) = (lookup key rest).or (if k = key then some v else none) := by
  rw [lookup]
  cases lookup key rest <;> rfl

theorem mem_of_lookup {key : String} {v : Json} {members : List (String × Json)}
    (h : lookup key members = some v) : (key, v) ∈ members := by
  induction members with
  | nil => cases h
  | cons m rest ih =>
    obtain ⟨k, w⟩ := m
    rw [lookup_cons] at h
    cases hrest : lookup key rest with
    | some u =>
      rw [hrest, Option.some_or, Option.some.injEq] at h
      exact List.mem_cons_of_mem _ (ih (hrest.trans (congrArg some h)))
    | none =>
      rw [hrest, Option.none_or] at h
      split at h
      · rename_i hk
        cases h
        exact hk ▸ List.mem_cons_self
      · cases h

theorem lookup_isSome_of_mem {key : String} {v : Json} {members : List (String × Json)}
    (h : (key, v) ∈ members) : (lookup key members).isSome = true := by
  induction members with
  | nil => cases h
  | cons m rest ih =>
    rw [lookup_cons, Option.isSome_or]
    rcases List.mem_cons.1 h with rfl | h
    · simp
    · simp [ih h]

theorem lookup_isSome_iff {key : String} {members : List (String × Json)} :
    (lookup key members).isSome = true ↔ key ∈ names members := by
  constructor
  · intro h
    obtain ⟨v, hv⟩ := Option.isSome_iff_exists.1 h
    exact List.mem_map_of_mem (f := Prod.fst) (mem_of_lookup hv)
  · intro h
    obtain ⟨m, hm, rfl⟩ := List.mem_map.1 h
    exact lookup_isSome_of_mem hm

theorem lookup_of_not_mem {key : String} {members : List (String × Json)}
    (h : key ∉ names members) : lookup key members = none := by
  rwa [← lookup_isSome_iff, Option.not_isSome_iff_eq_none] at h

theorem lookup_cons_self {key : String} {rest : List (String × Json)} (h : key ∉ names rest)
    (v : Json) : lookup key ((key, v) :: rest) = some v := by
  rw [lookup_cons, lookup_of_not_mem h, Option.none_or, if_pos rfl]

theorem lookup_cons_of_ne {key k : String} (h : k ≠ key) (v : Json)
    (rest : List (String × Json)) : lookup key ((k, v) :: rest) = lookup key rest := by
  rw [lookup_cons, if_neg h, Option.or_none]

/-- If every name occurs once, a member is found exactly if it is there. -/
theorem lookup_eq_some_iff {key : String} {v : Json} {members : List (String × Json)}
    (hnodup : (names members).Nodup) : lookup key members = some v ↔ (key, v) ∈ members := by
  refine ⟨mem_of_lookup, fun h => ?_⟩
  obtain ⟨w, hw⟩ := Option.isSome_iff_exists.1 (lookup_isSome_of_mem h)
  have heq : (key, v) = (key, w) :=
    List.inj_on_of_nodup_map hnodup h (mem_of_lookup hw) rfl
  rw [hw, (Prod.mk.inj heq).2]

theorem names_filterMap_sublist (f : String → Json → Option Json)
    (members : List (String × Json)) :
    (names (members.filterMap fun m => (f m.1 m.2).map (m.1, ·))).Sublist (names members) := by
  induction members with
  | nil => exact .slnil
  | cons m rest ih =>
    cases hm : f m.1 m.2 with
    | none =>
      rw [List.filterMap_cons_none (by rw [hm]; rfl)]
      exact ih.cons m.1
    | some w =>
      rw [List.filterMap_cons_some (by rw [hm]; rfl)]
      exact ih.cons_cons m.1

/-- If every name occurs once, a change of the values is seen where they are looked up. -/
theorem lookup_filterMap {key : String} {members : List (String × Json)}
    (f : String → Json → Option Json) (hnodup : (names members).Nodup) :
    lookup key (members.filterMap fun m => (f m.1 m.2).map (m.1, ·)) =
      (lookup key members).bind (f key) := by
  refine Option.ext fun w => ?_
  rw [lookup_eq_some_iff (hnodup.sublist (names_filterMap_sublist f members)), List.mem_filterMap,
    Option.bind_eq_some_iff]
  constructor
  · rintro ⟨⟨k, v⟩, hm, hw⟩
    obtain ⟨w', hw', hpair⟩ := Option.map_eq_some_iff.1 hw
    obtain ⟨rfl, rfl⟩ := Prod.mk.inj hpair
    exact ⟨v, (lookup_eq_some_iff hnodup).2 hm, hw'⟩
  · rintro ⟨v, hv, hw⟩
    exact ⟨(key, v), mem_of_lookup hv, by rw [hw]; rfl⟩

/-! ## Canonical values -/

/-- Members in the order of their names, each name once. -/
def Sorted (members : List (String × Json)) : Prop :=
  (names members).Pairwise (· < ·)

theorem mem_names_insertMember {key : String} {m : String × Json}
    {members : List (String × Json)} (h : key ∈ names (insertMember m members)) :
    key = m.1 ∨ key ∈ names members := by
  induction members with
  | nil => simpa [insertMember, names] using h
  | cons n rest ih =>
    simp only [insertMember] at h
    split at h
    · exact .inr h
    · split at h
      · simpa [names] using h
      · rcases List.mem_cons.1 h with rfl | h
        · exact .inr List.mem_cons_self
        · rcases ih h with h | h
          · exact .inl h
          · exact .inr (List.mem_cons_of_mem _ h)

theorem sorted_insertMember {m : String × Json} {members : List (String × Json)}
    (h : Sorted members) : Sorted (insertMember m members) := by
  induction members with
  | nil => exact List.pairwise_singleton _ _
  | cons n rest ih =>
    obtain ⟨hn, hrest⟩ := List.pairwise_cons.1 h
    simp only [insertMember]
    split
    · exact h
    · rename_i hne
      split
      · rename_i hlt
        refine List.pairwise_cons.2 ⟨fun key hkey => ?_, h⟩
        rcases List.mem_cons.1 hkey with rfl | hkey
        · exact hlt
        · exact hlt.trans (hn key hkey)
      · rename_i hnlt
        have hgt : n.1 < m.1 := lt_of_le_of_ne (not_lt.1 hnlt) (Ne.symm hne)
        refine List.pairwise_cons.2 ⟨fun key hkey => ?_, ih hrest⟩
        rcases mem_names_insertMember hkey with rfl | hkey
        · exact hgt
        · exact hn key hkey

theorem sorted_canonicalMembers (members : List (String × Json)) :
    Sorted (canonicalMembers members) := by
  induction members with
  | nil => exact List.Pairwise.nil
  | cons m rest ih => exact sorted_insertMember ih

theorem nodup_of_sorted {members : List (String × Json)} (h : Sorted members) :
    (names members).Nodup :=
  h.imp fun hlt => ne_of_lt hlt

theorem canonicalItems_of_forall {items : List Json} (h : ∀ v ∈ items, v.canonical = v) :
    canonicalItems items = items := by
  induction items with
  | nil => rfl
  | cons v rest ih =>
    rw [canonicalItems, h v List.mem_cons_self, ih fun w hw => h w (List.mem_cons_of_mem _ hw)]

theorem insertMember_of_sorted {m : String × Json} {members : List (String × Json)}
    (h : Sorted (m :: members)) : insertMember m members = m :: members := by
  cases members with
  | nil => rfl
  | cons n rest =>
    have hlt : m.1 < n.1 := (List.pairwise_cons.1 h).1 n.1 List.mem_cons_self
    rw [insertMember, if_neg hlt.ne, if_pos hlt]

theorem canonicalMembers_of_sorted {members : List (String × Json)} (hsorted : Sorted members)
    (h : ∀ m ∈ members, m.2.canonical = m.2) : canonicalMembers members = members := by
  induction members with
  | nil => rfl
  | cons m rest ih =>
    have hrest : canonicalMembers rest = rest :=
      ih (List.pairwise_cons.1 hsorted).2 fun n hn => h n (List.mem_cons_of_mem _ hn)
    rw [canonicalMembers, h m List.mem_cons_self, hrest]
    exact insertMember_of_sorted hsorted

theorem parse_sorted {text : String} {members : List (String × Json)}
    (h : parse text = some (.obj members)) : Sorted members := by
  unfold parse at h
  split at h
  · rename_i v _
    split at h
    · cases v with
      | obj raw =>
        simp only [canonical, Option.some.injEq, Json.obj.injEq] at h
        exact h ▸ sorted_canonicalMembers raw
      | null => simp [canonical] at h
      | bool b => simp [canonical] at h
      | num n => simp [canonical] at h
      | str s => simp [canonical] at h
      | arr items => simp [canonical] at h
    · cases h
  · cases h

/-- An object that is read from a text has every name once. -/
theorem parse_nodup {text : String} {members : List (String × Json)}
    (h : parse text = some (.obj members)) : (names members).Nodup :=
  nodup_of_sorted (parse_sorted h)

end ChatChannel.Json
