/-
# Values are read as they are written

A value without spellings of its own, that is one in which every number is natural and every string
has a text, is read back from each text that is written for it (`parse?_render`); so two such values
with one text are the same value (`render_injective`).

What is read is a value in the midst of a text: the value is found at the start, and what follows is
left (`IsReadBack`).  Elements and fields are read one after the other up to the bracket that closes
them, where the blanks of a layout are passed over.
-/
import PluginFacts.Proofs.Json.Numbers
import PluginFacts.Proofs.Json.Strings

namespace PluginFacts.Json

/-- A value in which every number is natural and every string has a text. -/
inductive Plain : Json → Prop where
  | null : Plain null
  | bool (b : Bool) : Plain (bool b)
  | nat (n : ℕ) : Plain (nat n)
  | str (s : String) : Plain (str s)
  | arr {l : List Json} (h : ∀ v ∈ l, Plain v) : Plain (arr l)
  | obj {l : List (String × Json)} (h : ∀ f ∈ l, Plain f.2) : Plain (obj l)

attribute [simp] Plain.null Plain.bool Plain.nat Plain.str

@[simp] lemma plain_strOrNull (s : Option String) : (strOrNull s).Plain := by
  cases s with
  | none => exact .null
  | some s => exact .str s

lemma plain_arr_map {α : Type} {write : α → Json} (h : ∀ x, (write x).Plain) (l : List α) :
    (arr (l.map write)).Plain := by
  refine .arr fun v hv => ?_
  obtain ⟨x, -, rfl⟩ := List.mem_map.1 hv
  exact h x

@[simp] lemma plain_strings (l : List String) : (strings l).Plain :=
  plain_arr_map .str l

/-- Fields with plain values. -/
def PlainFields (l : List (String × Json)) : Prop :=
  ∀ f ∈ l, f.2.Plain

lemma PlainFields.plain_obj {l : List (String × Json)} (h : PlainFields l) : (obj l).Plain :=
  .obj h

@[simp] lemma plainFields_nil : PlainFields [] := by
  simp [PlainFields]

@[simp] lemma plainFields_cons {f : String × Json} {l : List (String × Json)} :
    PlainFields (f :: l) ↔ f.2.Plain ∧ PlainFields l := by
  simp [PlainFields]

@[simp] lemma plainFields_append {l m : List (String × Json)} :
    PlainFields (l ++ m) ↔ PlainFields l ∧ PlainFields m :=
  List.forall_mem_append

@[simp] lemma plainFields_optField_map {α : Type} {write : α → Json} (h : ∀ x, (write x).Plain)
    (key : String) (x : Option α) : PlainFields (optField key (x.map write)) := by
  cases x with
  | none => exact plainFields_nil
  | some x => exact plainFields_cons.2 ⟨h x, plainFields_nil⟩

/-! ## Blanks -/

/-- Characters that are passed over. -/
def Blank (b : List Char) : Prop :=
  ∀ c ∈ b, isBlank c

lemma blank_lineBreak (layout : Layout) : Blank layout.lineBreak.toList := by
  cases layout with
  | compact => simp [Blank, Layout.lineBreak]
  | indented depth =>
    rintro c hc
    rw [Layout.lineBreak, String.toList_ofList, List.mem_cons, List.mem_replicate] at hc
    obtain rfl | ⟨-, rfl⟩ := hc <;> decide

/-- A key is parted from its value by a colon and blanks. -/
lemma exists_toList_colon (layout : Layout) :
    ∃ b, Blank b ∧ layout.colon.toList = ':' :: b := by
  cases layout with
  | compact => exact ⟨[], by simp [Blank], rfl⟩
  | indented depth => exact ⟨[' '], by simp [Blank, isBlank], by rw [Layout.colon]; rfl⟩

lemma Blank.dropWhile_append {b : List Char} (hb : Blank b) (s : List Char) :
    (b ++ s).dropWhile isBlank = s.dropWhile isBlank :=
  List.dropWhile_append_of_pos hb

lemma Blank.dropWhile_append_cons {b : List Char} (hb : Blank b) {c : Char} (hc : ¬ isBlank c)
    (s : List Char) : (b ++ c :: s).dropWhile isBlank = c :: s := by
  rw [hb.dropWhile_append, List.dropWhile_cons_of_neg hc]

lemma Blank.endsNumber_append {b s : List Char} (hb : Blank b) (hs : EndsNumber s) :
    EndsNumber (b ++ s) := by
  cases b with
  | nil => exact hs
  | cons c b =>
    have hc : isBlank c := hb c (List.mem_cons_self ..)
    simp only [isBlank, Bool.or_eq_true, decide_eq_true_eq] at hc
    rw [List.cons_append, endsNumber_cons]
    obtain ((rfl | rfl) | rfl) | rfl := hc <;> decide

lemma Blank.value_append {b : List Char} (hb : Blank b) (n : ℕ) (s : List Char) :
    value n (b ++ s) = value n s := by
  cases n with
  | zero => rfl
  | succ n => rw [value, value, hb.dropWhile_append]

lemma Blank.elements_append {b : List Char} (hb : Blank b) (n : ℕ) (s : List Char) :
    elements n (b ++ s) = elements n s := by
  cases n with
  | zero => rfl
  | succ n => rw [elements, elements, hb.value_append]

lemma Blank.fields_append {b : List Char} (hb : Blank b) (n : ℕ) (s : List Char) :
    fields n (b ++ s) = fields n s := by
  cases n with
  | zero => rfl
  | succ n => rw [fields, fields, hb.dropWhile_append]

/-! ## Where a value begins -/

lemma toList_render_arr (layout : Layout) (v : Json) (vs : List Json) :
    ((arr (v :: vs)).render layout).toList =
      '[' :: (layout.inner.lineBreak.toList ++ ((v.render layout.inner).toList ++
        ((renderElements layout.inner vs).toList ++ (layout.lineBreak.toList ++ [']'])))) := by
  simp [render]

lemma toList_render_obj (layout : Layout) (f : String × Json) (fs : List (String × Json)) :
    ((obj (f :: fs)).render layout).toList =
      '\x7b' :: (layout.inner.lineBreak.toList ++ ((renderString f.1).toList ++
        (layout.inner.colon.toList ++ ((f.2.render layout.inner).toList ++
          ((renderFields layout.inner fs).toList ++ (layout.lineBreak.toList ++ ['\x7d'])))))) := by
  simp [render]

/-- A text that begins neither with a blank nor with the bracket that ends an array. -/
def Begins (s : List Char) : Prop :=
  ∃ c l, s = c :: l ∧ ¬ isBlank c ∧ c ≠ ']'

lemma ne_of_isDigit {c d : Char} (hc : c.isDigit) (hd : ¬ d.isDigit) : c ≠ d := by
  rintro rfl
  exact hd hc

lemma not_isBlank_of_isDigit {c : Char} (hc : c.isDigit) : ¬ isBlank c := by
  have hne {d : Char} (hd : ¬ d.isDigit) : c ≠ d := ne_of_isDigit hc hd
  simp [isBlank, hne]

lemma exists_toList_toString_eq_cons (n : ℕ) :
    ∃ c l, (toString n).toList = c :: l ∧ c.isDigit := by
  rw [toList_toString_nat]
  cases h : Nat.toDigits 10 n with
  | nil => exact absurd h Nat.toDigits_ne_nil
  | cons c l =>
    have hc : c ∈ Nat.toDigits 10 n := h ▸ List.mem_cons_self ..
    exact ⟨c, l, rfl, isDigit_of_mem_toDigits hc⟩

lemma Plain.begins_render {v : Json} (hv : v.Plain) (layout : Layout) :
    Begins (v.render layout).toList := by
  cases hv with
  | null => exact ⟨'n', "ull".toList, by rw [render]; rfl, by decide⟩
  | bool b =>
    cases b with
    | false => exact ⟨'f', "alse".toList, by rw [render]; rfl, by decide⟩
    | true => exact ⟨'t', "rue".toList, by rw [render]; rfl, by decide⟩
  | nat n =>
    obtain ⟨c, l, htext, hc⟩ := exists_toList_toString_eq_cons n
    rw [render]
    exact ⟨c, l, htext, not_isBlank_of_isDigit hc, ne_of_isDigit hc (by decide)⟩
  | str s =>
    rw [render, toList_renderString]
    exact ⟨'"', _, rfl, by decide⟩
  | @arr l h =>
    cases l with
    | nil => exact ⟨'[', [']'], by rw [render]; rfl, by decide⟩
    | cons v vs => exact ⟨'[', _, toList_render_arr .., by decide⟩
  | @obj l h =>
    cases l with
    | nil => exact ⟨'\x7b', ['\x7d'], by rw [render]; rfl, by decide⟩
    | cons f fs => exact ⟨'\x7b', _, toList_render_obj .., by decide⟩

/-! ## Values in a text -/

/-- The value is found at the start of a text, whatever follows. -/
def IsReadBack (v : Json) : Prop :=
  ∀ (layout : Layout) (n : ℕ) (rest : List Char), (v.render layout).toList.length ≤ n →
    EndsNumber rest → value n ((v.render layout).toList ++ rest) = some (v, rest)

variable {layout : Layout} {n : ℕ} {rest : List Char}

/-! ### Elements -/

/-- The last element stands before the bracket. -/
lemma elements_last {v : Json} (hv : IsReadBack v) (hn : (v.render layout).toList.length ≤ n)
    {b : List Char} (hb : Blank b) :
    elements (n + 1) ((v.render layout).toList ++ (b ++ ']' :: rest)) = some ([v], rest) := by
  have hbracket : EndsNumber (']' :: rest) := endsNumber_cons.2 (by decide)
  have hvalue := hv layout n _ hn (hb.endsNumber_append hbracket)
  simp [elements, hvalue, hb.dropWhile_append_cons (show ¬ isBlank ']' by decide)]

/-- Every other element stands before a comma. -/
lemma elements_more {v : Json} (hv : IsReadBack v) (hn : (v.render layout).toList.length ≤ n)
    {s : List Char} {vs : List Json} (hvs : elements n s = some (vs, rest)) :
    elements (n + 1) ((v.render layout).toList ++ ',' :: s) = some (v :: vs, rest) := by
  have hcomma : EndsNumber (',' :: s) := endsNumber_cons.2 (by decide)
  have hvalue := hv layout n _ hn hcomma
  simp [elements, hvalue, List.dropWhile_cons_of_neg (show ¬ isBlank ',' by decide), hvs]

/-- Elements are read up to the bracket that closes them. -/
lemma elements_render {v : Json} {vs : List Json} (h : ∀ w ∈ v :: vs, IsReadBack w)
    (hn : (v.render layout).toList.length + (renderElements layout vs).toList.length < n)
    {b : List Char} (hb : Blank b) :
    elements n ((v.render layout).toList ++ ((renderElements layout vs).toList ++
      (b ++ ']' :: rest))) = some (v :: vs, rest) := by
  induction vs generalizing v n with
  | nil =>
    obtain _ | n := n
    · omega
    · rw [renderElements, String.toList_empty, List.nil_append]
      exact elements_last (h v (List.mem_cons_self ..)) (by omega) hb
  | cons w ws ih =>
    obtain _ | n := n
    · omega
    · have htext : (renderElements layout (w :: ws)).toList =
          ',' :: (layout.lineBreak.toList ++
            ((w.render layout).toList ++ (renderElements layout ws).toList)) := by
        simp [renderElements]
      simp only [htext, List.length_cons, List.length_append] at hn
      have hws : elements n ((w.render layout).toList ++ ((renderElements layout ws).toList ++
          (b ++ ']' :: rest))) = some (w :: ws, rest) :=
        ih (fun u hu => h u (List.mem_cons_of_mem v hu)) (by omega)
      rw [htext, List.cons_append]
      refine elements_more (h v (List.mem_cons_self ..)) (by omega) ?_
      rw [List.append_assoc, (blank_lineBreak layout).elements_append, List.append_assoc, hws]

/-! ### Fields -/

/-- The text of a field. -/
def fieldText (layout : Layout) (f : String × Json) : List Char :=
  (renderString f.1).toList ++ (layout.colon.toList ++ (f.2.render layout).toList)

/-- A field is a key in quotes, a colon, and after blanks a value. -/
lemma exists_fieldText_append (layout : Layout) (f : String × Json) (rest : List Char) :
    ∃ b, Blank b ∧ fieldText layout f ++ rest = '"' :: ((renderString f.1).toList.tail ++
      ':' :: (b ++ ((f.2.render layout).toList ++ rest))) := by
  obtain ⟨b, hb, hcolon⟩ := exists_toList_colon layout
  have hkey : (renderString f.1).toList = '"' :: (renderString f.1).toList.tail := by
    rw [toList_renderString, List.tail_cons]
  refine ⟨b, hb, ?_⟩
  rw [fieldText, hcolon, hkey]
  simp

lemma length_render_le_length_fieldText (layout : Layout) (f : String × Json) :
    (f.2.render layout).toList.length ≤ (fieldText layout f).length := by
  simp only [fieldText, List.length_append]
  omega

/-- The last field stands before the brace. -/
lemma fields_last {f : String × Json} (hf : IsReadBack f.2)
    (hn : (fieldText layout f).length ≤ n) {b : List Char} (hb : Blank b) :
    fields (n + 1) (fieldText layout f ++ (b ++ '\x7d' :: rest)) =
      some ([(some f.1, f.2)], rest) := by
  obtain ⟨gap, hgap, htext⟩ := exists_fieldText_append layout f (b ++ '\x7d' :: rest)
  have hbrace : EndsNumber ('\x7d' :: rest) := endsNumber_cons.2 (by decide)
  have hvalue := hf layout n _ (Nat.le_trans (length_render_le_length_fieldText layout f) hn)
    (hb.endsNumber_append hbrace)
  rw [htext, fields, List.dropWhile_cons_of_neg (by decide)]
  simp [stringTail_renderString, List.dropWhile_cons_of_neg (show ¬ isBlank ':' by decide),
    hgap.value_append, hvalue, hb.dropWhile_append_cons (show ¬ isBlank '\x7d' by decide)]

/-- Every other field stands before a comma. -/
lemma fields_more {f : String × Json} (hf : IsReadBack f.2)
    (hn : (fieldText layout f).length ≤ n) {s : List Char} {fs : List (Option String × Json)}
    (hfs : fields n s = some (fs, rest)) :
    fields (n + 1) (fieldText layout f ++ ',' :: s) = some ((some f.1, f.2) :: fs, rest) := by
  obtain ⟨gap, hgap, htext⟩ := exists_fieldText_append layout f (',' :: s)
  have hcomma : EndsNumber (',' :: s) := endsNumber_cons.2 (by decide)
  have hvalue := hf layout n _ (Nat.le_trans (length_render_le_length_fieldText layout f) hn) hcomma
  rw [htext, fields, List.dropWhile_cons_of_neg (by decide)]
  simp [stringTail_renderString, List.dropWhile_cons_of_neg (show ¬ isBlank ':' by decide),
    hgap.value_append, hvalue, List.dropWhile_cons_of_neg (show ¬ isBlank ',' by decide), hfs]

/-- Fields are read up to the brace that closes them. -/
lemma fields_render {f : String × Json} {fs : List (String × Json)}
    (h : ∀ g ∈ f :: fs, IsReadBack g.2)
    (hn : (fieldText layout f).length + (renderFields layout fs).toList.length < n)
    {b : List Char} (hb : Blank b) :
    fields n (fieldText layout f ++ ((renderFields layout fs).toList ++ (b ++ '\x7d' :: rest))) =
      some ((f :: fs).map fun g => (some g.1, g.2), rest) := by
  induction fs generalizing f n with
  | nil =>
    obtain _ | n := n
    · omega
    · rw [renderFields, String.toList_empty, List.nil_append]
      exact fields_last (h f (List.mem_cons_self ..)) (by omega) hb
  | cons g gs ih =>
    obtain _ | n := n
    · omega
    · have htext : (renderFields layout (g :: gs)).toList =
          ',' :: (layout.lineBreak.toList ++
            (fieldText layout g ++ (renderFields layout gs).toList)) := by
        simp [renderFields, fieldText]
      simp only [htext, List.length_cons, List.length_append] at hn
      have hgs : fields n (fieldText layout g ++ ((renderFields layout gs).toList ++
          (b ++ '\x7d' :: rest))) = some ((g :: gs).map fun g => (some g.1, g.2), rest) :=
        ih (fun u hu => h u (List.mem_cons_of_mem f hu)) (by omega)
      rw [htext, List.cons_append]
      refine fields_more (h f (List.mem_cons_self ..)) (by omega) ?_
      rw [List.append_assoc, (blank_lineBreak layout).fields_append, List.append_assoc, hgs]

lemma ofFields_map_some (fs : List (String × Json)) :
    ofFields (fs.map fun g => (some g.1, g.2)) = obj fs := by
  have hkeys : (fs.map fun g => (some g.1, g.2)).mapM
      (fun f : Option String × Json => f.1.map (·, f.2)) = some fs := by
    induction fs with
    | nil => rfl
    | cons f fs ih => simp [ih]
  rw [ofFields, hkeys]

/-! ### All values -/

/-- A reader that is given as much as the text of a value can go on. -/
lemma Plain.exists_succ {v : Json} (hv : v.Plain) (hn : (v.render layout).toList.length ≤ n) :
    ∃ m, n = m + 1 := by
  obtain ⟨c, l, htext, -⟩ := hv.begins_render layout
  rw [htext, List.length_cons] at hn
  exact ⟨n - 1, by omega⟩

lemma value_of_isDigit {c : Char} (hc : c.isDigit) (l : List Char) :
    value (n + 1) (c :: l) = unsigned [] (c :: l) := by
  have hne {d : Char} (hd : ¬ d.isDigit) : c ≠ d := ne_of_isDigit hc hd
  rw [value, List.dropWhile_cons_of_neg (not_isBlank_of_isDigit hc)]
  simp [scalar, hne]

/-- Elements after the opening bracket are the elements of an array. -/
lemma value_arr {b s : List Char} (hb : Blank b) (hs : Begins s) {l : List Json}
    (hl : elements n s = some (l, rest)) :
    value (n + 1) ('[' :: (b ++ s)) = some (arr l, rest) := by
  obtain ⟨c, t, rfl, hc, hbracket⟩ := hs
  rw [value, List.dropWhile_cons_of_neg (by decide)]
  simp [hb.dropWhile_append_cons hc, hbracket, hl]

/-- Fields after the opening brace are the fields of an object. -/
lemma value_obj {b s : List Char} (hb : Blank b) {l : List (Option String × Json)}
    (hl : fields n ('"' :: s) = some (l, rest)) :
    value (n + 1) ('\x7b' :: (b ++ '"' :: s)) = some (ofFields l, rest) := by
  rw [value, List.dropWhile_cons_of_neg (by decide)]
  simp [hb.dropWhile_append_cons (show ¬ isBlank '"' by decide), hl]

lemma value_render_arr {v : Json} {vs : List Json} (hv : ∀ w ∈ v :: vs, w.Plain)
    (h : ∀ w ∈ v :: vs, IsReadBack w)
    (hn : ((arr (v :: vs)).render layout).toList.length ≤ n + 1) :
    value (n + 1) (((arr (v :: vs)).render layout).toList ++ rest) =
      some (arr (v :: vs), rest) := by
  rw [toList_render_arr] at hn ⊢
  simp only [List.length_cons, List.length_append] at hn
  have helements : elements n ((v.render layout.inner).toList ++
      ((renderElements layout.inner vs).toList ++ (layout.lineBreak.toList ++ ']' :: rest))) =
        some (v :: vs, rest) :=
    elements_render h (by omega) (blank_lineBreak layout)
  obtain ⟨c, l, htext, hc⟩ := (hv v (List.mem_cons_self ..)).begins_render layout.inner
  have hvalue := value_arr (blank_lineBreak layout.inner)
    ⟨c, _, by rw [htext, List.cons_append], hc⟩ helements
  simpa using hvalue

lemma value_render_obj {f : String × Json} {fs : List (String × Json)}
    (h : ∀ g ∈ f :: fs, IsReadBack g.2)
    (hn : ((obj (f :: fs)).render layout).toList.length ≤ n + 1) :
    value (n + 1) (((obj (f :: fs)).render layout).toList ++ rest) =
      some (obj (f :: fs), rest) := by
  have htext : ((obj (f :: fs)).render layout).toList =
      '\x7b' :: (layout.inner.lineBreak.toList ++ (fieldText layout.inner f ++
        ((renderFields layout.inner fs).toList ++ (layout.lineBreak.toList ++ ['\x7d'])))) := by
    simp [toList_render_obj, fieldText]
  rw [htext] at hn ⊢
  simp only [List.length_cons, List.length_append] at hn
  have hfields : fields n (fieldText layout.inner f ++
      ((renderFields layout.inner fs).toList ++ (layout.lineBreak.toList ++ '\x7d' :: rest))) =
        some ((f :: fs).map fun g => (some g.1, g.2), rest) :=
    fields_render h (by omega) (blank_lineBreak layout)
  obtain ⟨gap, -, hfield⟩ := exists_fieldText_append layout.inner f
    ((renderFields layout.inner fs).toList ++ (layout.lineBreak.toList ++ '\x7d' :: rest))
  rw [hfield] at hfields
  have hvalue := value_obj (blank_lineBreak layout.inner) hfields
  rw [← hfield, ofFields_map_some] at hvalue
  simpa using hvalue

/-- Every plain value is found at the start of its text. -/
theorem Plain.isReadBack {v : Json} (hv : v.Plain) : IsReadBack v := by
  induction hv with
  | null =>
    intro layout n rest hn _
    obtain ⟨n, rfl⟩ := Plain.null.exists_succ hn
    simp [render, value, scalar, isBlank]
  | bool b =>
    intro layout n rest hn _
    obtain ⟨n, rfl⟩ := (Plain.bool b).exists_succ hn
    cases b <;> simp [render, value, scalar, isBlank]
  | nat m =>
    intro layout n rest hn hrest
    obtain ⟨n, rfl⟩ := (Plain.nat m).exists_succ hn
    obtain ⟨c, l, htext, hc⟩ := exists_toList_toString_eq_cons m
    rw [render, ← unsigned_toString m hrest, htext, List.cons_append, value_of_isDigit hc]
  | str s =>
    intro layout n rest hn _
    obtain ⟨n, rfl⟩ := (Plain.str s).exists_succ hn
    have htext : ((Json.str s).render layout).toList = '"' :: (renderString s).toList.tail := by
      rw [render, toList_renderString, List.tail_cons]
    rw [htext, value, List.cons_append, List.dropWhile_cons_of_neg (by decide)]
    simp [stringTail_renderString]
  | @arr l h ih =>
    intro layout n rest hn _
    obtain ⟨n, rfl⟩ := (Plain.arr h).exists_succ hn
    cases l with
    | nil => simp [render, value, isBlank]
    | cons v vs => exact value_render_arr h ih hn
  | @obj l h ih =>
    intro layout n rest hn _
    obtain ⟨n, rfl⟩ := (Plain.obj h).exists_succ hn
    cases l with
    | nil => simp [render, value, isBlank]
    | cons f fs => exact value_render_obj ih hn

/-- A plain value is read from its text, whichever way it is set out. -/
theorem parse?_render {v : Json} (hv : v.Plain) (layout : Layout) :
    parse? (v.render layout) = some v := by
  have hvalue := hv.isReadBack layout _ [] (Nat.le_refl _) endsNumber_nil
  rw [List.append_nil] at hvalue
  simp [parse?, hvalue]

/-- The text of a plain value determines it. -/
theorem render_injective {v w : Json} (hv : v.Plain) (hw : w.Plain) {layout : Layout}
    (h : v.render layout = w.render layout) : v = w := by
  have hread := parse?_render hv layout
  rw [h, parse?_render hw layout, Option.some_inj] at hread
  exact hread.symm

end PluginFacts.Json
