import AuctionHouse.Json.Parser
import AuctionHouse.Json.Printer
import Mathlib.Data.List.Forall2

/-!
# Data and their texts

A text of any characters is read back from its quoted form, with the escapes that this form has
(`string?_escaped`).  So are arrays and objects whose parts are read back, whatever follows them
(`ReadBack.arr`, `ReadBack.obj`); the members of an object come back in the order of their names.
-/

namespace AuctionHouse.Json

/-- The escape of a control character is the number of that character. -/
theorem valueIn?_controlDigits : ∀ n < 0x20,
    Digits.valueIn? 16 ['0', '0', hexDigit (n / 16), hexDigit (n % 16)] = some n := by
  decide

/-- A character is read from its escape. -/
theorem string?_escape (c : Char) (read rest : List Char) :
    string? read (escape c ++ rest) = string? (c :: read) rest := by
  unfold escape
  split
  · rfl
  · rfl
  · rfl
  · rfl
  · rfl
  · rfl
  · rfl
  · next not_quote not_backslash _ _ _ _ _ =>
    split
    · next control =>
      have number_eq := valueIn?_controlDigits c.toNat control
      have not_low : ¬ (0xDC00 ≤ c.toNat ∧ c.toNat ≤ 0xDFFF) := by omega
      have not_high : ¬ (0xD800 ≤ c.toNat ∧ c.toNat ≤ 0xDBFF) := by omega
      simp only [List.cons_append, List.nil_append, string?, number_eq, if_neg not_low,
        if_neg not_high, Char.ofNat_toNat]
    · next printable =>
      rw [List.singleton_append, string?.eq_def]
      split
      · next quote => exact absurd (List.cons.inj quote).1 not_quote
      · next backslash => exact absurd (List.cons.inj backslash).1 not_backslash
      · next backslash => exact absurd (List.cons.inj backslash).1 not_backslash
      · next plain =>
        obtain ⟨rfl, rfl⟩ := List.cons.inj plain
        exact if_neg printable
      · next empty => cases empty

/-- A text is read from its characters with their escapes, up to the closing quotation mark. -/
theorem string?_escaped (chars read rest : List Char) :
    string? read (chars.flatMap escape ++ '"' :: rest) =
      some (String.ofList (read.reverse ++ chars), rest) := by
  induction chars generalizing read with
  | nil => rw [List.flatMap_nil, List.nil_append, string?, List.append_nil]
  | cons c chars ih =>
    rw [List.flatMap_cons, List.append_assoc, string?_escape, ih, List.reverse_cons,
      List.append_assoc, List.singleton_append]

/-- A quoted text is read behind its opening quotation mark. -/
theorem string?_quoted (text : String) (rest : List Char) :
    ∃ inside, quoted text ++ rest = '"' :: inside ∧ string? [] inside = some (text, rest) := by
  refine ⟨text.toList.flatMap escape ++ '"' :: rest, ?_, ?_⟩
  · simp [quoted]
  · rw [string?_escaped]
    simp

/-- Whether a value is read back from its text as another one, whatever follows, where values may be
nested `depth` deep.  The text begins with a character that begins a value and nothing else. -/
structure ReadBack (depth : Nat) (value back : Json) : Prop where
  begins : ∃ c rest, value.chars = c :: rest ∧ c ∉ [' ', '\t', '\n', '\r', ']']
  read : ∀ fuel levels rest, 2 * value.chars.length ≤ fuel → depth ≤ levels →
    value? fuel levels (value.chars ++ rest) = some (back, rest)

theorem skipBlanks_cons {c : Char} {rest : List Char} (solid : c ∉ [' ', '\t', '\n', '\r']) :
    skipBlanks (c :: rest) = c :: rest := by
  simp only [List.mem_cons, List.not_mem_nil, or_false, not_or] at solid
  simp [skipBlanks, solid]

theorem readBack_str (text : String) : ReadBack 0 (str text) (str text) where
  begins := ⟨'"', _, rfl, by decide⟩
  read fuel levels rest enough _ := by
    obtain ⟨inside, quoted_eq, read_eq⟩ := string?_quoted text rest
    rw [chars, quoted_eq]
    cases fuel with
    | zero => simp [chars, quoted] at enough
    | succ fuel =>
      rw [value?, skipBlanks_cons (by decide)]
      simp only [read_eq, Option.map_some]

variable {depth : Nat}

section Elements

variable {elements backs : List Json}

theorem elementChars_cons_cons (value next : Json) (rest : List Json) :
    elementChars (value :: next :: rest) = value.chars ++ ',' :: elementChars (next :: rest) := by
  rw [elementChars]
  exact nofun

/-- Elements are read one after the other. -/
theorem elements?_elementChars (read_back : List.Forall₂ (ReadBack depth) elements backs)
    (nonempty : elements ≠ []) (fuel levels : Nat) (read : List Json) (rest : List Char)
    (enough : 2 * (elementChars elements).length < fuel) (deep : depth ≤ levels) :
    elements? fuel levels read (elementChars elements ++ ']' :: rest) =
      some (arr (read.reverse ++ backs), rest) := by
  induction read_back generalizing fuel read with
  | nil => exact absurd rfl nonempty
  | @cons element back others others_back head tail ih =>
    obtain ⟨fuel, rfl⟩ := Nat.exists_eq_add_one_of_ne_zero (Nat.ne_zero_of_lt enough)
    cases tail with
    | nil =>
      rw [elementChars] at enough ⊢
      rw [elements?, head.read fuel levels _ (by omega) deep]
      simp only [skipBlanks_cons (c := ']') (by decide), List.reverse_cons]
    | cons next later =>
      rw [elementChars_cons_cons] at enough ⊢
      rw [List.length_append, List.length_cons] at enough
      rw [elements?, List.append_assoc, head.read fuel levels _ (by omega) deep]
      simp only [List.cons_append, skipBlanks_cons (c := ',') (by decide)]
      rw [ih (List.cons_ne_nil _ _) fuel _ (by omega), List.reverse_cons, List.append_assoc,
        List.singleton_append]

/-- The text of some elements begins as that of the first one. -/
theorem exists_elementChars_eq_cons (read_back : List.Forall₂ (ReadBack depth) elements backs)
    (nonempty : elements ≠ []) :
    ∃ c rest, elementChars elements = c :: rest ∧ c ∉ [' ', '\t', '\n', '\r', ']'] := by
  cases read_back with
  | nil => exact absurd rfl nonempty
  | cons head tail =>
    obtain ⟨c, rest, chars_eq, solid⟩ := head.begins
    cases tail with
    | nil => exact ⟨c, rest, by rw [elementChars, chars_eq], solid⟩
    | cons next later =>
      exact ⟨c, _, by rw [elementChars_cons_cons, chars_eq, List.cons_append], solid⟩

/-- An array is read back if its elements are. -/
theorem ReadBack.arr (read_back : List.Forall₂ (ReadBack depth) elements backs) :
    ReadBack (depth + 1) (arr elements) (arr backs) where
  begins := ⟨'[', _, rfl, by decide⟩
  read fuel levels rest enough deep := by
    have chars_eq : (Json.arr elements).chars ++ rest =
        '[' :: (elementChars elements ++ ']' :: rest) := by
      simp [chars]
    have length_eq : (Json.arr elements).chars.length = (elementChars elements).length + 2 := by
      simp [chars]
    obtain ⟨fuel, rfl⟩ := Nat.exists_eq_add_one_of_ne_zero (n := fuel) (by omega)
    have levels_ne : levels ≠ 0 := by omega
    rw [chars_eq, value?, skipBlanks_cons (by decide)]
    simp only [if_neg levels_ne]
    by_cases empty : elements = []
    · subst empty
      cases read_back
      rw [elementChars, List.nil_append, skipBlanks_cons (by decide)]
      rfl
    · obtain ⟨c, more, begins, solid⟩ := exists_elementChars_eq_cons read_back empty
      have read_eq := elements?_elementChars read_back empty fuel (levels - 1) [] rest (by omega)
        (by omega)
      rw [begins, List.cons_append] at read_eq ⊢
      rw [skipBlanks_cons (by grind)]
      split
      · next closing =>
        rw [(List.cons.inj closing).1] at solid
        exact absurd solid (by decide)
      · exact read_eq

end Elements

section Members

variable {members backs : List (String × Json)}

theorem memberChars_cons_cons (name : String) (value : Json) (next : String × Json)
    (rest : List (String × Json)) : memberChars ((name, value) :: next :: rest) =
      quoted name ++ ':' :: value.chars ++ ',' :: memberChars (next :: rest) := by
  rw [memberChars]
  exact nofun

/-- The text of some members begins with the quotation mark of the first name. -/
theorem exists_memberChars_eq_cons (nonempty : members ≠ []) :
    ∃ rest, memberChars members = '"' :: rest := by
  cases members with
  | nil => exact absurd rfl nonempty
  | cons member others =>
    obtain ⟨name, value⟩ := member
    cases others with
    | nil =>
      rw [memberChars, quoted]
      exact ⟨_, rfl⟩
    | cons next later =>
      rw [memberChars_cons_cons, quoted]
      exact ⟨_, rfl⟩

/-- Whether members are read back as others of the same names. -/
abbrev MembersReadBack (depth : Nat) : List (String × Json) → List (String × Json) → Prop :=
  List.Forall₂ fun member back => back.1 = member.1 ∧ ReadBack depth member.2 back.2

/-- The members in the order of their names, with the last one of every name. -/
def inNameOrder (members : List (String × Json)) : List (String × Json) :=
  members.foldl (fun sorted member => setMember member.1 member.2 sorted) []

/-- Members are read one after the other and put in the order of their names. -/
theorem members?_memberChars (read_back : MembersReadBack depth members backs)
    (nonempty : members ≠ []) (fuel levels : Nat) (read : List (String × Json))
    (rest : List Char) (enough : 2 * (memberChars members).length < fuel) (deep : depth ≤ levels) :
    members? fuel levels read (memberChars members ++ '\x7d' :: rest) =
      some (obj (backs.foldl (fun sorted back => setMember back.1 back.2 sorted) read), rest) := by
  induction read_back generalizing fuel read with
  | nil => exact absurd rfl nonempty
  | @cons member back others others_back head tail ih =>
    obtain ⟨fuel, rfl⟩ := Nat.exists_eq_add_one_of_ne_zero (Nat.ne_zero_of_lt enough)
    obtain ⟨name, value⟩ := member
    obtain ⟨other, back⟩ := back
    obtain ⟨rfl, value_back⟩ : other = name ∧ ReadBack depth value back := head
    cases tail with
    | nil =>
      rw [memberChars] at enough ⊢
      rw [List.length_append, List.length_cons] at enough
      obtain ⟨inside, quoted_eq, read_eq⟩ :=
        string?_quoted other (':' :: (value.chars ++ '\x7d' :: rest))
      rw [List.append_assoc, List.cons_append, quoted_eq, members?, skipBlanks_cons (by decide)]
      simp only [read_eq, skipBlanks_cons (c := ':') (by decide),
        value_back.read fuel levels ('\x7d' :: rest) (by omega) deep,
        skipBlanks_cons (c := '\x7d') (by decide)]
      rfl
    | cons next later =>
      rw [memberChars_cons_cons] at enough ⊢
      simp only [List.length_append, List.length_cons] at enough
      obtain ⟨inside, quoted_eq, read_eq⟩ := string?_quoted other
        (':' :: (value.chars ++ ',' :: (memberChars _ ++ '\x7d' :: rest)))
      rw [List.append_assoc, List.append_assoc, List.cons_append, List.cons_append, quoted_eq,
        members?, skipBlanks_cons (by decide)]
      simp only [read_eq, skipBlanks_cons (c := ':') (by decide),
        value_back.read fuel levels (',' :: (memberChars _ ++ '\x7d' :: rest)) (by omega) deep,
        skipBlanks_cons (c := ',') (by decide)]
      exact ih (List.cons_ne_nil _ _) fuel _ (by omega)

/-- An object is read back if its members are. -/
theorem ReadBack.obj (read_back : MembersReadBack depth members backs) :
    ReadBack (depth + 1) (obj members) (obj (inNameOrder backs)) where
  begins := ⟨'\x7b', _, rfl, by decide⟩
  read fuel levels rest enough deep := by
    have chars_eq : (Json.obj members).chars ++ rest =
        '\x7b' :: (memberChars members ++ '\x7d' :: rest) := by
      simp [chars]
    have length_eq : (Json.obj members).chars.length = (memberChars members).length + 2 := by
      simp [chars]
    obtain ⟨fuel, rfl⟩ := Nat.exists_eq_add_one_of_ne_zero (n := fuel) (by omega)
    have levels_ne : levels ≠ 0 := by omega
    rw [chars_eq, value?, skipBlanks_cons (by decide)]
    simp only [if_neg levels_ne]
    by_cases empty : members = []
    · subst empty
      cases read_back
      rw [memberChars, List.nil_append, skipBlanks_cons (by decide)]
      rfl
    · obtain ⟨more, begins⟩ := exists_memberChars_eq_cons empty
      have read_eq := members?_memberChars read_back empty fuel (levels - 1) [] rest (by omega)
        (by omega)
      rw [begins, List.cons_append] at read_eq ⊢
      rw [skipBlanks_cons (by decide)]
      exact read_eq

end Members

/-- A value that is read back from its text is read back from the text alone. -/
theorem ReadBack.ofText? {value back : Json} (read_back : ReadBack depth value back)
    (deep : depth ≤ deepest) : ofText? value.text = some back := by
  have read_eq := read_back.read (2 * value.chars.length + 2) deepest [] (by omega) deep
  rw [List.append_nil] at read_eq
  rw [Json.ofText?, text, String.toList_ofList]
  simp only [read_eq]
  rfl

end AuctionHouse.Json
