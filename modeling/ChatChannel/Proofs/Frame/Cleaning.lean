import ChatChannel.Proofs.Bridge.Delivery
import ChatChannel.Proofs.Json.RoundTrip

/-!
# ChatChannel.Proofs.Frame.Cleaning

Frames come from a peer that may send anything. What is not known in an object, or not well formed,
can be taken out of it (`cleaned`), except for its sender and its type: the rest is read as before.

* `reader_read_cleaned`: the object and what is left of it give the same frame, or the same error.
* `parse_text_cleaned`: what is left of a frame can be sent in its place.
* `cleaned_reads_alike`: a bridge does the same with both, also if it is sent what is left.
-/

namespace ChatChannel.Frame

open Bridge (Incoming step step_receive messageOf?_eq_bind)

def isText : Json → Bool
  | .str _ => true
  | _ => false

/-- An array without its items that are no strings; other values are given up. -/
def textItems? : Json → Option Json
  | .arr items => some (.arr (items.filter isText))
  | _ => none

/-- What is left of the value under a name. -/
def cleanValue? (name : String) (v : Json) : Option Json :=
  match name with
  | "type" | "from" => some v
  | "chat" | "content" | "id" | "from_name" => Option.guard isText v
  | "media" => textItems? v
  | _ => none

/-- What is left of the members of an object. -/
def cleaned (members : List (String × Json)) : List (String × Json) :=
  members.filterMap fun m => (cleanValue? m.1 m.2).map (m.1, ·)

/-! ## Values -/

theorem bind_textOrNone_guard (v : Json) :
    (Option.guard isText v).bind textOrNone = textOrNone v := by
  cases v <;> rfl

theorem texts_textItems? (v : Json) : ((textItems? v).map texts).getD [] = texts v := by
  cases v with
  | arr items =>
    rw [textItems?, Option.map_some, Option.getD_some, texts, List.filterMap_filter, texts]
    refine List.filterMap_congr fun w _ => ?_
    cases w <;> rfl
  | null | bool _ | num _ | str _ | obj _ => rfl

theorem cleanValue?_of_text {key : String} (hkey : key ∈ ["chat", "content", "id", "from_name"]) :
    cleanValue? key = Option.guard isText := by
  simp only [List.mem_cons, List.not_mem_nil, or_false] at hkey
  rcases hkey with rfl | rfl | rfl | rfl <;> rfl

/-! ## Objects -/

section

variable {members : List (String × Json)}

theorem nodup_cleaned (hnodup : (Json.names members).Nodup) :
    (Json.names (cleaned members)).Nodup :=
  hnodup.sublist (Json.names_filterMap_sublist cleanValue? members)

theorem get?_cleaned (hnodup : (Json.names members).Nodup) (key : String) :
    Json.get? key (.obj (cleaned members)) =
      (Json.get? key (.obj members)).bind (cleanValue? key) :=
  Json.lookup_filterMap cleanValue? hnodup

theorem kept_cleaned (hnodup : (Json.names members).Nodup) (key : String)
    (hkey : cleanValue? key = some) :
    Json.get? key (.obj (cleaned members)) = Json.get? key (.obj members) := by
  rw [get?_cleaned hnodup, hkey, Option.bind_fun_some]

theorem text_cleaned (hnodup : (Json.names members).Nodup) (key : String)
    (hkey : key ∈ ["chat", "content", "id", "from_name"]) :
    (Json.get? key (.obj (cleaned members))).bind textOrNone =
      (Json.get? key (.obj members)).bind textOrNone := by
  rw [get?_cleaned hnodup, cleanValue?_of_text hkey, Option.bind_assoc]
  simp only [bind_textOrNone_guard]

theorem media_cleaned (hnodup : (Json.names members).Nodup) :
    ((Json.get? "media" (.obj (cleaned members))).map texts).getD [] =
      ((Json.get? "media" (.obj members)).map texts).getD [] := by
  rw [get?_cleaned hnodup]
  cases Json.get? "media" (.obj members) with
  | none => rfl
  | some v => exact texts_textItems? v

theorem ofObject_cleaned (hnodup : (Json.names members).Nodup) :
    ofObject (.obj (cleaned members)) = ofObject (.obj members) := by
  funext sender
  have hchat := text_cleaned hnodup "chat" (by simp)
  have hcontent := text_cleaned hnodup "content" (by simp)
  have hid := text_cleaned hnodup "id" (by simp)
  have hname := text_cleaned hnodup "from_name" (by simp)
  rw [ofObject, ofObject, hchat, hcontent, media_cleaned hnodup, hid, hname]

theorem reader_read_cleaned (hnodup : (Json.names members).Nodup) :
    reader.read (.obj (cleaned members)) = reader.read (.obj members) := by
  rw [reader_read_eq (nodup_cleaned hnodup), reader_read_eq hnodup,
    kept_cleaned hnodup "from" rfl, ofObject_cleaned hnodup]

theorem ofValue?_cleaned (hnodup : (Json.names members).Nodup) :
    ofValue? (.obj (cleaned members)) = ofValue? (.obj members) := by
  simp only [ofValue?, kept_cleaned hnodup "type" rfl, reader_read_cleaned hnodup]

/-! ## Frames on the wire -/

/-- Two inbound frames whose values stand for the same message are the same to a bridge. -/
theorem step_receive_congr {incoming incoming' : Incoming} {v v' : Json}
    (h : incoming.text?.bind Json.parse = some v) (h' : incoming'.text?.bind Json.parse = some v')
    (hsame : ofValue? v' = ofValue? v) (setup : Bridge.Setup) (s : Bridge.State) (loop : Nat) :
    step setup s (.receive loop incoming') = step setup s (.receive loop incoming) := by
  have hmessage : ∀ {i : Incoming} {w : Json}, i.text?.bind Json.parse = some w →
      i ≠ .lost ∧ Bridge.State.messageOf? i = ofValue? w := by
    intro i w hi
    refine ⟨?_, ?_⟩
    · rintro rfl
      cases hi
    · rw [messageOf?_eq_bind, show ofText? = fun t => (Json.parse t).bind ofValue? from rfl,
        ← Option.bind_assoc, hi, Option.bind_some]
  obtain ⟨hlost, hm⟩ := hmessage h
  obtain ⟨hlost', hm'⟩ := hmessage h'
  have hread : ∀ socket, s.read loop socket incoming' = s.read loop socket incoming := by
    intro socket
    simp only [Bridge.State.read, if_neg hlost, if_neg hlost', hm, hm', hsame]
  simp only [step_receive, hread]

/-! ## Clean texts -/

/-- A string, or an array of strings. -/
def IsPlain : Json → Prop
  | .str _ => True
  | .arr items => ∀ v ∈ items, isText v = true
  | _ => False

theorem eq_str_of_isText {v : Json} (h : isText v = true) : ∃ s, v = .str s := by
  cases v with
  | str s => exact ⟨s, rfl⟩
  | null | bool _ | num _ | arr _ | obj _ => cases h

theorem IsPlain.readable {v : Json} (h : IsPlain v) (depth : Nat) :
    Json.Readable (depth + 1) v := by
  cases v with
  | str s => exact .str s
  | arr items =>
    refine .arr fun w hw => ?_
    obtain ⟨s, rfl⟩ := eq_str_of_isText (h w hw)
    exact .str s
  | null | bool _ | num _ | obj _ => exact h.elim

theorem IsPlain.canonical {v : Json} (h : IsPlain v) : v.canonical = v := by
  cases v with
  | str s => rfl
  | arr items =>
    rw [Json.canonical, Json.canonicalItems_of_forall]
    intro w hw
    obtain ⟨s, rfl⟩ := eq_str_of_isText (h w hw)
    rfl
  | null | bool _ | num _ | obj _ => exact h.elim

theorem isPlain_of_cleanValue? {key : String} {v w : Json} (h : cleanValue? key v = some w)
    (hkept : key ∈ ["type", "from"] → isText v = true) : IsPlain w := by
  have plain : ∀ {u : Json}, isText u = true → IsPlain u := by
    intro u hu
    obtain ⟨s, rfl⟩ := eq_str_of_isText hu
    trivial
  have kept : ∀ {u : Json}, Option.guard isText u = some w → IsPlain w := by
    intro u hu
    obtain ⟨rfl, hw⟩ := Option.guard_eq_some_iff.1 hu
    exact plain hw
  unfold cleanValue? at h
  -- The names as they are listed there: two that stay, four of texts, the media, and all others.
  split at h
  case h_1 | h_2 =>
    cases h
    exact plain (hkept (by simp))
  case h_3 | h_4 | h_5 | h_6 => exact kept h
  case h_7 =>
    cases v with
    | arr items =>
      cases h
      exact fun u hu => (List.mem_filter.1 hu).2
    | null | bool _ | num _ | str _ | obj _ => cases h
  case h_8 => cases h

theorem isPlain_of_mem_cleaned {m : String × Json} (hm : m ∈ cleaned members)
    (hkept : ∀ key ∈ ["type", "from"], ∀ v, (key, v) ∈ members → isText v = true) :
    IsPlain m.2 := by
  obtain ⟨⟨key, v⟩, hv, hclean⟩ := List.mem_filterMap.1 hm
  obtain ⟨w, hw, rfl⟩ := Option.map_eq_some_iff.1 hclean
  exact isPlain_of_cleanValue? hw fun hkey => hkept key hkey v hv

/-- What is left of a frame can be written down. -/
theorem parse_text_cleaned {text kind sender : String}
    (hparse : Json.parse text = some (.obj members))
    (htype : Json.get? "type" (.obj members) = some (.str kind))
    (hfrom : Json.get? "from" (.obj members) = some (.str sender)) :
    Json.parse (Json.text (.obj (cleaned members))) = some (.obj (cleaned members)) := by
  have hsorted : Json.Sorted members := Json.parse_sorted hparse
  have hkept : ∀ key ∈ ["type", "from"], ∀ v, (key, v) ∈ members → isText v = true := by
    intro key hkey v hv
    have hlookup := (Json.lookup_eq_some_iff (Json.nodup_of_sorted hsorted)).2 hv
    simp only [List.mem_cons, List.not_mem_nil, or_false] at hkey
    rcases hkey with rfl | rfl
    · obtain rfl := Option.some.inj (hlookup.symm.trans htype)
      rfl
    · obtain rfl := Option.some.inj (hlookup.symm.trans hfrom)
      rfl
  have hplain : ∀ m ∈ cleaned members, IsPlain m.2 := fun m hm => isPlain_of_mem_cleaned hm hkept
  have hcanonical : Json.canonicalMembers (cleaned members) = cleaned members :=
    Json.canonicalMembers_of_sorted
      (hsorted.sublist (Json.names_filterMap_sublist cleanValue? members))
      fun m hm => (hplain m hm).canonical
  have hreadable : Json.Readable Json.maxDepth (.obj (cleaned members)) :=
    .obj fun m hm => (hplain m hm).readable _
  rw [Json.parse_text hreadable, Json.canonical, hcanonical]

/-- What is left of a frame can be sent in its place. -/
theorem step_receive_cleaned {incoming : Incoming} {kind sender : String}
    (h : incoming.text?.bind Json.parse = some (.obj members))
    (htype : Json.get? "type" (.obj members) = some (.str kind))
    (hfrom : Json.get? "from" (.obj members) = some (.str sender)) :
    Json.parse (Json.text (.obj (cleaned members))) = some (.obj (cleaned members)) ∧
      ∀ setup s loop, step setup s (.receive loop (.text (Json.text (.obj (cleaned members))))) =
        step setup s (.receive loop incoming) := by
  obtain ⟨text, -, hparse⟩ := Option.bind_eq_some_iff.1 h
  have hleft := parse_text_cleaned hparse htype hfrom
  have hnodup := Json.nodup_of_sorted (Json.parse_sorted hparse)
  refine ⟨hleft, step_receive_congr h ?_ (ofValue?_cleaned hnodup)⟩
  rw [Incoming.text?, Option.bind_some, hleft]

/-- An object is a frame exactly if its sender is a string, and all else that is not well formed in
it may as well be missing: for the frame that is read, and for what a bridge does that gets it. What
is left of an object with a type and a sender is read, too, when it is sent in place of the object.

The last two clauses are about texts that are read. One with more than 127 levels, or with a number
beyond the range of 64-bit reals anywhere in it, is refused as a whole: it is the text of no object
here, also where what makes it so would be taken out. -/
theorem cleaned_reads_alike (hnodup : (Json.names members).Nodup) :
    (∀ f, reader.read (.obj members) = .ok f ↔
      ∃ sender, Json.get? "from" (.obj members) = some (.str sender) ∧
        f = ofObject (.obj members) sender) ∧
    reader.read (.obj (cleaned members)) = reader.read (.obj members) ∧
    ofValue? (.obj (cleaned members)) = ofValue? (.obj members) ∧
    (∀ incoming incoming' : Incoming, incoming.text?.bind Json.parse = some (.obj members) →
      incoming'.text?.bind Json.parse = some (.obj (cleaned members)) → ∀ setup s loop,
        step setup s (.receive loop incoming') = step setup s (.receive loop incoming)) ∧
    ∀ (incoming : Incoming) (kind sender : String),
      incoming.text?.bind Json.parse = some (.obj members) →
      Json.get? "type" (.obj members) = some (.str kind) →
      Json.get? "from" (.obj members) = some (.str sender) →
        Json.parse (Json.text (.obj (cleaned members))) = some (.obj (cleaned members)) ∧
        ∀ setup s loop, step setup s (.receive loop (.text (Json.text (.obj (cleaned members))))) =
          step setup s (.receive loop incoming) := by
  refine ⟨fun f => reader_read_obj hnodup, reader_read_cleaned hnodup, ofValue?_cleaned hnodup,
    ?_, ?_⟩
  · intro incoming incoming' h h'
    exact step_receive_congr h h' (ofValue?_cleaned hnodup)
  · intro incoming kind sender h htype hfrom
    exact step_receive_cleaned h htype hfrom

end

/-- The members of a frame, most of which have a value of the wrong type. -/
def untidy : List (String × Json) :=
  [("chat", .bool true), ("content", .str "hi"), ("extra", .str "x"), ("from", .str "A"),
    ("from_name", .null), ("id", .obj [("to", .arr [])]),
    ("media", .arr [.str "/a", .null, .arr [.str "/b"], .str "/c"]), ("type", .str "message")]

def untidyText : String :=
  "\x7b\"chat\":true,\"content\":\"hi\",\"extra\":\"x\",\"from\":\"A\",\"from_name\":null," ++
    "\"id\":\x7b\"to\":[]\x7d,\"media\":[\"/a\",null,[\"/b\"],\"/c\"],\"type\":\"message\"\x7d"

def tidyText : String :=
  "\x7b\"content\":\"hi\",\"from\":\"A\",\"media\":[\"/a\",\"/c\"],\"type\":\"message\"\x7d"

theorem parse_untidyText : Json.parse untidyText = some (.obj untidy) := by
  have htext : untidyText = Json.text (.obj untidy) := by decide +kernel
  have hreadable : Json.Readable Json.maxDepth (.obj untidy) := by
    refine .obj fun m hm => ?_
    simp only [untidy, List.mem_cons, List.not_mem_nil, or_false] at hm
    rcases hm with rfl | rfl | rfl | rfl | rfl | rfl | rfl | rfl
    · exact .bool true
    · exact .str "hi"
    · exact .str "x"
    · exact .str "A"
    · exact .null
    · exact .obj (by simpa using .arr (by simp))
    · exact .arr (by simpa using ⟨.str _, .null, .arr (by simpa using .str _), .str _⟩)
    · exact .str "message"
  have hcanonical : Json.canonicalMembers untidy = untidy := rfl
  rw [htext, Json.parse_text hreadable, Json.canonical, hcanonical]

theorem untidy_reads_alike :
    (Json.names untidy).Nodup ∧
      cleaned untidy = [("content", .str "hi"), ("from", .str "A"),
        ("media", .arr [.str "/a", .str "/c"]), ("type", .str "message")] ∧
      reader.read (.obj (cleaned untidy)) = .ok ⟨"A", none, "hi", ["/a", "/c"], none, none⟩ ∧
      Json.parse tidyText = some (.obj (cleaned untidy)) ∧
      ∀ setup s loop, step setup s (.receive loop (.text tidyText)) =
        step setup s (.receive loop (.text untidyText)) := by
  have hnodup : (Json.names untidy).Nodup := by decide
  have htidy : Json.text (.obj (cleaned untidy)) = tidyText := by decide +kernel
  have huntidy : (Incoming.text untidyText).text?.bind Json.parse = some (.obj untidy) := by
    rw [Incoming.text?, Option.bind_some, parse_untidyText]
  obtain ⟨hread, hframe, -, hstep, hsent⟩ := cleaned_reads_alike hnodup
  obtain ⟨hparse, -⟩ := hsent (.text untidyText) "message" "A" huntidy rfl rfl
  rw [htidy] at hparse
  refine ⟨hnodup, rfl, hframe.trans ((hread _).2 ⟨"A", rfl, rfl⟩), hparse,
    hstep (.text untidyText) (.text tidyText) huntidy ?_⟩
  rw [Incoming.text?, Option.bind_some, hparse]

end ChatChannel.Frame
