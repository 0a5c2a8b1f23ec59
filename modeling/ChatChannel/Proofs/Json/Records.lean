import ChatChannel.Proofs.Json.Decode
import ChatChannel.Proofs.Json.RoundTrip
import Mathlib.Data.Finset.Basic
import Mathlib.Data.Finset.Lattice.Lemmas

/-!
# ChatChannel.Proofs.Json.Records

Records that are read from objects. If every member holds what a field is in some record, then the
fields that are given come from that record and all others from the start, in whatever order they
are given (`stored_members`).

* `FieldCopy`: copying the fields of some names from one record to another.
* `Stored`: a value is read as some record, with or without its text in between.
* `Json.pruned`: an object without some of its members, and without some of those of a nested one.
-/

namespace ChatChannel

/-! ## Members of canonical objects -/

namespace Json

variable {members : List (String × Json)} {m : String × Json} {key : String}

theorem mem_insertMember {n : String × Json} (h : n ∈ insertMember m members) :
    n = m ∨ n ∈ members := by
  induction members with
  | nil => exact .inl (List.mem_singleton.1 h)
  | cons k rest ih =>
    rw [insertMember] at h
    split_ifs at h
    · exact .inr h
    · exact List.mem_cons.1 h
    · rcases List.mem_cons.1 h with rfl | h
      · exact .inr List.mem_cons_self
      · exact (ih h).imp_right (List.mem_cons_of_mem k)

theorem mem_of_mem_canonicalMembers (h : m ∈ canonicalMembers members) :
    ∃ n ∈ members, m = (n.1, n.2.canonical) := by
  induction members with
  | nil => cases h
  | cons k rest ih =>
    rcases mem_insertMember h with rfl | h
    · exact ⟨k, List.mem_cons_self, rfl⟩
    · obtain ⟨n, hn, rfl⟩ := ih h
      exact ⟨n, List.mem_cons_of_mem k hn, rfl⟩

theorem mem_names_insertMember_iff :
    key ∈ names (insertMember m members) ↔ key = m.1 ∨ key ∈ names members := by
  refine ⟨mem_names_insertMember, fun h => ?_⟩
  induction members with
  | nil => simpa [insertMember, names] using h
  | cons k rest ih =>
    rw [insertMember]
    split_ifs with heq hlt
    · rcases h with rfl | h
      · exact heq ▸ List.mem_cons_self
      · exact h
    · exact List.mem_cons.2 h
    · rw [names, List.map_cons, List.mem_cons] at h ⊢
      rcases h with h | h | h
      · exact .inr (ih (.inl h))
      · exact .inl h
      · exact .inr (ih (.inr h))

theorem mem_names_canonicalMembers :
    key ∈ names (canonicalMembers members) ↔ key ∈ names members := by
  induction members with
  | nil => rfl
  | cons k rest ih =>
    rw [canonicalMembers, mem_names_insertMember_iff, ih]
    exact List.mem_cons.symm

end Json

open Json

/-! ## Reading members -/

/-- Copying the fields of some names: `copy names c a` has these fields from `c` and all others from
`a`. -/
structure FieldCopy (α : Type) where
  copy : Finset String → α → α → α
  copy_empty (c a : α) : copy ∅ c a = a
  copy_copy (names more : Finset String) (c a : α) :
    copy more c (copy names c a) = copy (more ∪ names) c a

namespace RecordReader

variable {α : Type} {r : RecordReader α} {f : FieldCopy α} {c : α}
  {members : List (String × Json)}

theorem putAll_copy (h : ∀ m ∈ members, ∀ a, r.put m.1 m.2 a = .ok (f.copy {m.1} c a)) (a : α) :
    r.putAll a members = .ok (f.copy (names members).toFinset c a) := by
  induction members generalizing a with
  | nil => exact (putAll_nil r a).trans (congrArg _ (f.copy_empty c a).symm)
  | cons m rest ih =>
    have hrest := ih (fun n hn => h n (List.mem_cons_of_mem m hn)) (f.copy {m.1} c a)
    have hnames : (names (m :: rest)).toFinset = (names rest).toFinset ∪ {m.1} := by
      rw [names, List.map_cons, List.toFinset_cons, Finset.insert_eq, Finset.union_comm]
      rfl
    rw [putAll_cons, h m List.mem_cons_self a, Except.bind, hrest, f.copy_copy, hnames]

theorem read_copy (hneeded : r.needed = [])
    (h : ∀ m ∈ members, ∀ a, r.put m.1 m.2 a = .ok (f.copy {m.1} c a)) :
    r.read (.obj members) = .ok (f.copy (names members).toFinset c r.start) := by
  have hlacking : r.lacking? members = none := by
    rw [lacking?_eq_none_iff, hneeded]
    exact fun _ _ h => absurd h List.not_mem_nil
  rw [read, putAll_copy h, hlacking]

end RecordReader

/-! ## Stored records -/

section

variable {α : Type} {r : RecordReader α} {f : FieldCopy α} {c a : α} {v : Json}
  {members : List (String × Json)}

/-- A value that is read as this record, as it stands and in canonical form. -/
def ReadsAs (r : RecordReader α) (v : Json) (a : α) : Prop :=
  r.read v = .ok a ∧ r.read v.canonical = .ok a

/-- A value that is read as this record, and so is its text, with the members of objects as they are
written or sorted by name. -/
structure Stored (r : RecordReader α) (v : Json) (a : α) : Prop where
  value : r.read v = .ok a
  sorted : r.read v.canonical = .ok a
  text : (Json.read v.text).map r.read = some (.ok a)
  parsed : (Json.parse v.text).map r.read = some (.ok a)

theorem ReadsAs.stored (h : ReadsAs r v a) (hv : Readable maxDepth v) : Stored r v a where
  value := h.1
  sorted := h.2
  text := by rw [read_text hv, Option.map_some, h.1]
  parsed := by rw [parse_text hv, Option.map_some, h.2]

/-- A member that gives its field the value it has in a record. -/
def Gives (r : RecordReader α) (f : FieldCopy α) (c : α) (m : String × Json) : Prop :=
  ∀ a, r.put m.1 m.2 a = .ok (f.copy {m.1} c a) ∧ r.put m.1 m.2.canonical a = .ok (f.copy {m.1} c a)

/-- The fields that are given come from the record whose fields they are, and the others from the
start. -/
theorem readsAs_members (hneeded : r.needed = []) (h : ∀ m ∈ members, Gives r f c m) :
    ReadsAs r (.obj members) (f.copy (names members).toFinset c r.start) := by
  refine ⟨RecordReader.read_copy hneeded fun m hm a => (h m hm a).1, ?_⟩
  have hnames : (names (canonicalMembers members)).toFinset = (names members).toFinset := by
    ext key
    rw [List.mem_toFinset, List.mem_toFinset, mem_names_canonicalMembers]
  rw [canonical, ← hnames]
  refine RecordReader.read_copy hneeded fun m hm a => ?_
  obtain ⟨n, hn, rfl⟩ := mem_of_mem_canonicalMembers hm
  exact (h n hn a).2

/-! ## Members left out -/

namespace Json

/-- An object without the members of these names. -/
def without (gone : Finset String) : Json → Json
  | .obj members => .obj (members.filter fun m => m.1 ∉ gone)
  | v => v

/-- An object in which the member of this name is changed. -/
def adjust (name : String) (change : Json → Json) : Json → Json
  | .obj members => .obj (members.map fun m => if m.1 = name then (m.1, change m.2) else m)
  | v => v

/-- An object without the members named in `outer`, nor those named in `inner` of the object that
its member `nested` holds. -/
def pruned (nested : String) (outer inner : Finset String) (v : Json) : Json :=
  (v.adjust nested (without inner)).without outer

theorem names_filter_toFinset (gone : Finset String) (members : List (String × Json)) :
    (names (members.filter fun m => m.1 ∉ gone)).toFinset = (names members).toFinset \ gone := by
  ext key
  simp only [names, List.mem_toFinset, List.mem_map, List.mem_filter, decide_eq_true_eq,
    Finset.mem_sdiff]
  constructor
  · rintro ⟨m, ⟨hm, hkept⟩, rfl⟩
    exact ⟨⟨m, hm, rfl⟩, hkept⟩
  · rintro ⟨⟨m, hm, rfl⟩, hkept⟩
    exact ⟨m, ⟨hm, hkept⟩, rfl⟩

theorem without_empty (v : Json) : v.without ∅ = v := by
  cases v with
  | obj members => simp [without]
  | _ => rfl

theorem adjust_without_empty (name : String) (v : Json) : v.adjust name (without ∅) = v := by
  cases v with
  | obj members => simp [adjust, without_empty]
  | _ => rfl

theorem pruned_empty (nested : String) (v : Json) : v.pruned nested ∅ ∅ = v := by
  rw [pruned, adjust_without_empty, without_empty]

section

variable {depth : Nat}

theorem Readable.without (h : Readable depth v) (gone : Finset String) :
    Readable depth (v.without gone) := by
  cases h with
  | obj h => exact .obj fun m hm => h m (List.mem_of_mem_filter hm)
  | null => exact .null
  | bool b => exact .bool b
  | natural h => exact .natural h
  | str s => exact .str s
  | arr h => exact .arr h

theorem Readable.adjust {change : Json → Json}
    (hchange : ∀ {depth v}, Readable depth v → Readable depth (change v)) (h : Readable depth v)
    (name : String) : Readable depth (v.adjust name change) := by
  cases h with
  | obj h =>
    refine .obj fun m hm => ?_
    obtain ⟨n, hn, rfl⟩ := List.mem_map.1 hm
    split
    · exact hchange (h n hn)
    · exact h n hn
  | null => exact .null
  | bool b => exact .bool b
  | natural h => exact .natural h
  | str s => exact .str s
  | arr h => exact .arr h

theorem Readable.pruned (h : Readable depth v) (nested : String) (outer inner : Finset String) :
    Readable depth (v.pruned nested outer inner) :=
  (h.adjust (fun h => h.without inner) nested).without outer

end

end Json

theorem readsAs_without (hneeded : r.needed = []) (h : ∀ m ∈ members, Gives r f c m)
    (gone : Finset String) :
    ReadsAs r ((Json.obj members).without gone)
      (f.copy ((names members).toFinset \ gone) c r.start) := by
  rw [← names_filter_toFinset]
  exact readsAs_members hneeded fun m hm => h m (List.mem_of_mem_filter hm)

end

end ChatChannel
