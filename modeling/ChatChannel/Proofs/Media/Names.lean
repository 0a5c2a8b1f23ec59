import ChatChannel.Media.Folder
import ChatChannel.Proofs.Path
import Mathlib.Data.String.Basic

/-!
# ChatChannel.Proofs.Media.Names

The names under which attachments are saved: the stem of the folder, an identifier of 32 digits, and
an extension or none.

* `names_fileName`: every name is of this form, whatever extension is asked for.
* `plain_fileName`: so it is the name of one entry, and no way to another directory.
* `fileName_inj`: the identifier can be read off the name.
* `utf8ByteSize_fileName`: only letters and digits of the extension make a name longer.
* `extension?_filePath`: the extension can be read off the path, whatever stem and directory it has.
-/

namespace ChatChannel.Media

variable {f : Folder} {id id' : FileId} {ext ext' : String} {cs : List Char} {c : Char}

/-- The digits of identifiers. -/
def lowerHexDigits : List Char :=
  ['0', '1', '2', '3', '4', '5', '6', '7', '8', '9', 'a', 'b', 'c', 'd', 'e', 'f']

/-- A dot with at least one letter or digit behind it. -/
def IsExtension (cs : List Char) : Prop :=
  ∃ chars, cs = '.' :: chars ∧ chars ≠ [] ∧ ∀ c ∈ chars, c.isAlphanum = true

/-- The name begins with the stem of the folder; 32 digits follow, and then an extension or
nothing. -/
def Folder.Names (f : Folder) (name : String) : Prop :=
  ∃ digits ext : List Char, name.toList = f.stem.toList ++ digits ++ ext ∧
    digits.length = 32 ∧ (∀ c ∈ digits, c ∈ lowerHexDigits) ∧ (ext = [] ∨ IsExtension ext)

/-! ## Identifiers -/

theorem length_hexDigitsOf (width n : Nat) : (Text.hexDigitsOf width n).length = width := by
  induction width generalizing n with
  | zero => rfl
  | succ width ih => rw [Text.hexDigitsOf, List.length_append, ih, List.length_singleton]

theorem mem_lowerHexDigits {width n : Nat} (h : c ∈ Text.hexDigitsOf width n) :
    c ∈ lowerHexDigits := by
  have hdigit : ∀ n < 16, Text.hexDigit n ∈ lowerHexDigits := by decide
  induction width generalizing n with
  | zero => cases h
  | succ width ih =>
    rw [Text.hexDigitsOf, List.mem_append, List.mem_singleton] at h
    rcases h with h | rfl
    · exact ih h
    · exact hdigit _ (Nat.mod_lt _ (by decide))

theorem hexDigitsOf_inj {width m n : Nat} (hm : m < 16 ^ width) (hn : n < 16 ^ width)
    (h : Text.hexDigitsOf width m = Text.hexDigitsOf width n) : m = n := by
  have hdigit : ∀ i < 16, ∀ j < 16, Text.hexDigit i = Text.hexDigit j → i = j := by decide
  induction width generalizing m n with
  | zero =>
    rw [Nat.pow_zero] at hm hn
    omega
  | succ width ih =>
    rw [Text.hexDigitsOf, Text.hexDigitsOf] at h
    obtain ⟨hfront, hlast⟩ := List.append_inj' h rfl
    have hmod : m % 16 = n % 16 :=
      hdigit _ (Nat.mod_lt _ (by decide)) _ (Nat.mod_lt _ (by decide)) (List.singleton_inj.1 hlast)
    rw [Nat.pow_succ] at hm hn
    have hdiv : m / 16 = n / 16 :=
      ih (Nat.div_lt_of_lt_mul (by omega)) (Nat.div_lt_of_lt_mul (by omega)) hfront
    omega

theorem utf8Len_of_ascii (h : ∀ c ∈ cs, c.val ≤ 127) : String.utf8Len cs = cs.length := by
  induction cs with
  | nil => rfl
  | cons c rest ih =>
    obtain ⟨hc, hrest⟩ := List.forall_mem_cons.1 h
    rw [String.utf8Len_cons, ih hrest, Char.utf8Size_eq_one_iff.2 hc, List.length_cons]

/-! ## Extensions -/

theorem isExtension_or_empty (ext : String) :
    (normalizedExtension ext).toList = [] ∨ IsExtension (normalizedExtension ext).toList := by
  unfold normalizedExtension
  split
  · exact .inl rfl
  · rename_i hne
    refine .inr ⟨_, String.toList_ofList, hne, fun c hc => ?_⟩
    exact (List.mem_filter.1 hc).2

/-- Letters and digits are ASCII. -/
theorem val_le_of_isAlphanum (h : c.isAlphanum = true) : c.val ≤ 127 := by
  rcases Bool.or_eq_true_iff.1 h with hletter | hdigit
  · rcases Bool.or_eq_true_iff.1 hletter with hupper | hlower
    · exact UInt32.le_trans (of_decide_eq_true hupper).2 (by decide)
    · exact UInt32.le_trans (of_decide_eq_true (Bool.and_eq_true_iff.1 hlower).2) (by decide)
  · exact UInt32.le_trans (of_decide_eq_true (Bool.and_eq_true_iff.1 hdigit).2) (by decide)

theorem IsExtension.val_le (h : IsExtension cs) (hc : c ∈ cs) : c.val ≤ 127 := by
  obtain ⟨chars, rfl, -, hchars⟩ := h
  rcases List.mem_cons.1 hc with rfl | hc
  · decide
  · exact val_le_of_isAlphanum (hchars c hc)

theorem IsExtension.slash_not_mem (h : IsExtension cs) : '/' ∉ cs := by
  obtain ⟨chars, rfl, -, hchars⟩ := h
  rw [List.mem_cons, not_or]
  exact ⟨by decide, fun h => absurd (hchars _ h) (by decide)⟩

/-! ## Names -/

namespace Folder

theorem toList_fileName :
    (f.fileName id ext).toList =
      f.stem.toList ++ Text.hexDigitsOf 32 id.val ++ (normalizedExtension ext).toList := by
  simp only [fileName, FileId.text, String.toList_append, String.toList_ofList]

/-- Whatever extension is asked for, the name is of this form. -/
theorem names_fileName (f : Folder) (id : FileId) (ext : String) : f.Names (f.fileName id ext) :=
  ⟨_, _, toList_fileName, length_hexDigitsOf _ _, fun _ => mem_lowerHexDigits,
    isExtension_or_empty ext⟩

/-- The name of a file is a plain name, if the stem holds no slash. -/
theorem plain_fileName (hstem : '/' ∉ f.stem.toList) (id : FileId) (ext : String) :
    '/' ∉ (f.fileName id ext).toList ∧ f.fileName id ext ∉ ["", ".", ".."] := by
  obtain ⟨digits, tail, hname, hlength, hdigits, htail⟩ := names_fileName f id ext
  constructor
  · rw [hname, List.mem_append, List.mem_append, not_or, not_or]
    refine ⟨⟨hstem, fun h => absurd (hdigits _ h) (by decide)⟩, ?_⟩
    rcases htail with rfl | htail
    · exact List.not_mem_nil
    · exact htail.slash_not_mem
  · have hlong : 32 ≤ (f.fileName id ext).toList.length := by
      rw [hname, List.length_append, List.length_append, hlength]
      omega
    simp only [List.mem_cons, List.not_mem_nil, or_false]
    rintro (h | h | h)
    · exact absurd (h ▸ hlong) (by decide)
    · exact absurd (h ▸ hlong) (by decide)
    · exact absurd (h ▸ hlong) (by decide)

/-- Names with one identifier have it from one identifier. -/
theorem fileName_inj (h : f.fileName id ext = f.fileName id' ext') : id = id' := by
  have hlist := congrArg String.toList h
  rw [toList_fileName, toList_fileName, List.append_assoc, List.append_assoc] at hlist
  have hdigits := (List.append_inj (List.append_cancel_left hlist)
    (by rw [length_hexDigitsOf, length_hexDigitsOf])).1
  exact Fin.ext (hexDigitsOf_inj id.isLt id'.isLt hdigits)

theorem nul_not_mem_fileName (hstem : '\x00' ∉ f.stem.toList) :
    '\x00' ∉ (f.fileName id ext).toList := by
  obtain ⟨digits, tail, hname, -, hdigits, htail⟩ := names_fileName f id ext
  rw [hname, List.mem_append, List.mem_append, not_or, not_or]
  refine ⟨⟨hstem, fun h => absurd (hdigits _ h) (by decide)⟩, ?_⟩
  rcases htail with rfl | ⟨chars, rfl, -, hchars⟩
  · exact List.not_mem_nil
  · rw [List.mem_cons, not_or]
    exact ⟨by decide, fun h => absurd (hchars _ h) (by decide)⟩

/-- Behind the stem, every character of a name is one byte. -/
theorem utf8ByteSize_fileName :
    (f.fileName id ext).utf8ByteSize =
      f.stem.utf8ByteSize + 32 + (normalizedExtension ext).length := by
  have hdigits : id.text.utf8ByteSize = 32 := by
    have hascii : ∀ c ∈ lowerHexDigits, c.val ≤ 127 := by simp [lowerHexDigits]
    rw [FileId.text, String.utf8ByteSize_ofList,
      utf8Len_of_ascii fun c hc => hascii c (mem_lowerHexDigits hc), length_hexDigitsOf]
  have hext : (normalizedExtension ext).utf8ByteSize = (normalizedExtension ext).length := by
    have hascii : ∀ c ∈ (normalizedExtension ext).toList, c.val ≤ 127 := by
      intro c hc
      rcases isExtension_or_empty ext with hnil | hext
      · rw [hnil] at hc
        cases hc
      · exact hext.val_le hc
    rw [← String.length_toList, ← utf8Len_of_ascii hascii, ← String.utf8ByteSize_ofList,
      String.ofList_toList]
  rw [fileName, String.utf8ByteSize_append, String.utf8ByteSize_append, hdigits, hext]

/-- A file has the extension that it was saved under, in every directory and behind every stem. -/
theorem extension?_filePath (f : Folder) (id : FileId)
    (hext : (normalizedExtension ext).toList = '.' :: cs) :
    Path.extension? (f.filePath id ext) = some cs := by
  obtain ⟨chars, hchars, hne, halnum⟩ : IsExtension ('.' :: cs) := by
    rcases isExtension_or_empty ext with hnil | h
    · rw [hext] at hnil
      cases hnil
    · exact hext ▸ h
  obtain rfl : cs = chars := (List.cons.inj hchars).2
  have hdigits : Text.hexDigitsOf 32 id.val ≠ [] :=
    List.ne_nil_of_length_pos (by rw [length_hexDigitsOf]; decide)
  have hsuffix : Text.hexDigitsOf 32 id.val ++ '.' :: cs <:+ (f.filePath id ext).toList := by
    refine List.IsSuffix.trans ?_ (Path.suffix_join f.dir (f.fileName id ext))
    rw [toList_fileName, hext, List.append_assoc]
    exact List.suffix_append _ _
  refine Path.extension?_of_suffix hsuffix hdigits hne ?_ fun h => absurd (halnum _ h) (by decide)
  rw [List.mem_append, List.mem_cons, not_or, not_or]
  refine ⟨fun h => absurd (mem_lowerHexDigits h) (by decide), by decide, fun h => ?_⟩
  exact absurd (halnum _ h) (by decide)

end Folder

end ChatChannel.Media
