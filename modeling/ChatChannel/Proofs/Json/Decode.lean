import ChatChannel.Json.Decode
import ChatChannel.Proofs.Json.Members

/-!
# ChatChannel.Proofs.Json.Decode

Records of any type, as they are read from objects: the members are taken one after the other, and
then no name may be missing that is needed.
-/

namespace ChatChannel.RecordReader

variable {α : Type} {members : List (String × Json)}

theorem putAll_nil (r : RecordReader α) (a : α) : r.putAll a [] = .ok a :=
  rfl

theorem putAll_cons (r : RecordReader α) (a : α) (m : String × Json)
    (rest : List (String × Json)) :
    r.putAll a (m :: rest) = (r.put m.1 m.2 a).bind fun b => r.putAll b rest :=
  rfl

theorem lacking?_eq_none_iff (r : RecordReader α) :
    r.lacking? members = none ↔
      ∀ field ∈ r.fields, field ∈ r.needed → field ∈ Json.names members := by
  rw [lacking?, List.find?_eq_none]
  refine forall₂_congr fun field _ => ?_
  simp only [Bool.and_eq_true, List.contains_iff_mem, Bool.not_eq_true', not_and,
    Bool.not_eq_false, List.any_eq_true, decide_eq_true_eq, Json.names, List.mem_map]

end ChatChannel.RecordReader
