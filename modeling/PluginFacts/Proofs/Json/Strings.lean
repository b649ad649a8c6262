/-
# Strings are read as they are written

A string is written character by character: most characters stand for themselves, some are spelled
with a letter after a backslash, and the other control characters by their number.  Each spelling is
read as one piece (`pieces_escape`), and as no number written is half of a surrogate pair, the
pieces are joined to the characters again (`joined?_map_ofChar`).
-/
import Mathlib.Data.List.Basic
import PluginFacts.Json.Reader

namespace PluginFacts.Json

/-- Whether a character is written by its number. -/
def IsNumbered (c : Char) : Prop :=
  c < ' ' ∧ c ∉ ['\x08', '\t', '\n', '\x0c', '\r']

instance : DecidablePred IsNumbered := fun _ => inferInstanceAs (Decidable (_ ∧ _))

/-- How a character is spelled. -/
inductive Spelling (c : Char) : List Char → Prop where
  /-- A letter after a backslash. -/
  | letter {a : Char} (ha : unescape? a = some c) (hu : a ≠ 'u') (hc : ¬ IsNumbered c) :
    Spelling c ['\\', a]
  /-- The number of the character in four digits. -/
  | number (hc : IsNumbered c) : Spelling c ('\\' :: 'u' :: (Text.hexPadded 4 c.toNat).toList)
  /-- The character itself. -/
  | itself (hquote : c ≠ '"') (hslash : c ≠ '\\') (hc : ¬ c < ' ') : Spelling c [c]

lemma spelling_escape (c : Char) : Spelling c (escape c).toList := by
  rw [escape]
  split_ifs with hquote hslash hb ht hn hf hr hlt
  case pos => subst hquote; exact .letter rfl (by decide) (by decide)
  case pos => subst hslash; exact .letter rfl (by decide) (by decide)
  case pos => subst hb; exact .letter rfl (by decide) (by decide)
  case pos => subst ht; exact .letter rfl (by decide) (by decide)
  case pos => subst hn; exact .letter rfl (by decide) (by decide)
  case pos => subst hf; exact .letter rfl (by decide) (by decide)
  case pos => subst hr; exact .letter rfl (by decide) (by decide)
  case pos => simpa using Spelling.number ⟨hlt, by simp [hb, ht, hn, hf, hr]⟩
  case neg => simpa using Spelling.itself hquote hslash hlt

/-- The number of a control character takes two digits, after two zeros. -/
lemma toList_hexPadded {n : ℕ} (hn : n < 32) :
    (Text.hexPadded 4 n).toList = ['0', '0', Nat.digitChar (n / 16), Nat.digitChar (n % 16)] := by
  rw [Text.hexPadded, String.toList_ofList]
  decide +revert

lemma hex4?_digitChar {n : ℕ} (hn : n < 32) :
    hex4? '0' '0' (Nat.digitChar (n / 16)) (Nat.digitChar (n % 16)) = some n := by
  decide +revert

/-- The piece as which the spelling of a character is read. -/
def Piece.ofChar (c : Char) : Piece :=
  if IsNumbered c then .unit c.toNat else .char c

lemma pieces_spelling {c : Char} {l : List Char} (h : Spelling c l) (before : List Piece)
    (rest : List Char) : pieces before (l ++ rest) = pieces (.ofChar c :: before) rest := by
  cases h with
  | letter ha hu hc =>
    rw [Piece.ofChar, if_neg hc, List.cons_append, List.cons_append, List.nil_append, pieces]
    · simp [ha]
    · rintro a b c d rest rfl rfl
      exact hu rfl
  | number hc =>
    have hn : c.toNat < 32 := hc.1
    rw [toList_hexPadded hn, Piece.ofChar, if_pos hc]
    simp [pieces, hex4?_digitChar hn]
  | itself hquote hslash hc =>
    have hnumbered : ¬ IsNumbered c := fun h => hc h.1
    rw [Piece.ofChar, if_neg hnumbered, List.singleton_append, pieces, if_neg hc]
    · exact fun h => hquote h
    · exact fun a b c d rest h _ => hslash h
    · exact fun c rest h _ => hslash h

/-- The spellings of characters are read as one piece each, up to the quote that ends them. -/
lemma pieces_flatMap_escape (before : List Piece) (cs rest : List Char) :
    pieces before (cs.flatMap (fun c => (escape c).toList) ++ '"' :: rest) =
      some (before.reverse ++ cs.map Piece.ofChar, rest) := by
  induction cs generalizing before with
  | nil => simp [pieces]
  | cons c cs ih =>
    rw [List.flatMap_cons, List.append_assoc, pieces_spelling (spelling_escape c), ih]
    simp

lemma joined?_unit {a : ℕ} (ha : a < 0xD800) (l : List Piece) :
    joined? (.unit a :: l) = (Char.ofNat a :: ·) <$> joined? l := by
  have hleading : isLeading a = false := by simp [isLeading]; omega
  have htrailing : isTrailing a = false := by simp [isTrailing]; omega
  cases l with
  | nil => simp [joined?, hleading, htrailing]
  | cons p l =>
    cases p <;> simp [joined?, hleading, htrailing]

/-- The pieces of characters are joined to the characters. -/
lemma joined?_map_ofChar (cs : List Char) : joined? (cs.map Piece.ofChar) = some cs := by
  induction cs with
  | nil => rfl
  | cons c cs ih =>
    rw [List.map_cons, Piece.ofChar]
    split_ifs with hc
    · have hn : c.toNat < 32 := hc.1
      rw [joined?_unit (by omega), ih, Char.ofNat_toNat]
      rfl
    · rw [joined?, ih]
      rfl

lemma toList_renderString (s : String) :
    (renderString s).toList = '"' :: (s.toList.flatMap (fun c => (escape c).toList) ++ ['"']) := by
  simp [renderString, List.flatMap_map]

/-- After its first quote, a string is read as it is written. -/
theorem stringTail_renderString (s : String) (rest : List Char) :
    stringTail ((renderString s).toList.tail ++ rest) = some (some s, rest) := by
  rw [toList_renderString, List.tail_cons, List.append_assoc, List.singleton_append, stringTail,
    pieces_flatMap_escape]
  simp [joined?_map_ofChar]

end PluginFacts.Json
