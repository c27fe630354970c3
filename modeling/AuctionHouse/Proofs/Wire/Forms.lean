import AuctionHouse.Wire.Basic
import Mathlib.Data.List.Forall2
import Mathlib.Data.List.Nodup

/-!
# The forms of data

Data stand for a value in more than one form: the members of an object come in any order and with
unknown ones among them, and a record may come as an array of its fields.  This module says what the
forms are made of and that readers do not tell them apart (`Record.members`, `Content.members`).
-/

namespace AuctionHouse.Wire

/-- Whether members are the fields in their order, each in a form of its own. -/
abbrev Given (fields : List (String × (Json → Prop))) (members : List (String × Json)) : Prop :=
  List.Forall₂ (fun field member => member.1 = field.1 ∧ field.2 member.2) fields members

/-- An object with the fields in any order, and with members of other names among them. -/
inductive Content (fields : List (String × (Json → Prop))) : Json → Prop
  | intro {given others members : List (String × Json)} :
      Given fields given → (∀ other ∈ others, other.1 ∉ fields.map (·.1)) →
      members.Perm (given ++ others) → Content fields (.obj members)

/-- A record of the fields: an object, or an array of the fields in their order. -/
inductive Record (fields : List (String × (Json → Prop))) : Json → Prop
  | object {data : Json} : Content fields data → Record fields data
  | array {elements : List Json} :
      List.Forall₂ (fun field element => field.2 element) fields elements →
      Record fields (.arr elements)

/-- A case with content of a form.  Its name is the only member of the object. -/
def Tagged (name : String) (form : Json → Prop) (data : Json) : Prop :=
  ∃ content, data = .obj [(name, content)] ∧ form content

/-- A value of a form, or null for none. -/
def Optional {α : Type} (form : α → Json → Prop) : Option α → Json → Prop
  | some value => form value
  | none => (· = .null)

/-- A list of values, each in a form of its own. -/
def Listed {α : Type} (form : α → Json → Prop) (values : List α) (data : Json) : Prop :=
  ∃ elements, data = .arr elements ∧ List.Forall₂ form values elements

/-- Whether a reader takes all data of a form for a value. -/
def ReadAs {α : Type} (decode : Json → Option α) (form : Json → Prop) (value : α) : Prop :=
  ∀ data, form data → decode data = some value

/-- The forms of the values of a type. -/
class Format (α : Type) [Wire α] where
  /-- Whether the numbers of a value are in range. -/
  Fits : α → Prop := fun _ => True
  /-- Whether data are a form of a value. -/
  Form : α → Json → Prop := fun value data => data = encode value
  /-- The value with plain zeros in the place of negative ones. -/
  plainZeros : α → α := fun value => value

export Format (Fits Form plainZeros)

/-- A type whose values are written in one of their forms and read in all of them. -/
class LawfulFormat (α : Type) [Wire α] [Format α] : Prop where
  form_encode : ∀ value : α, Form value (encode value)
  decode_form : ∀ value : α, Fits value → ReadAs decode (Form value) (plainZeros value)

export LawfulFormat (form_encode decode_form)

/-- Whether the values of a type are read back from their data, and from all other forms of these in
the same way. -/
def RoundTrips (α : Type) [Wire α] [Format α] : Prop :=
  ∀ value : α, Fits value → decode (encode value) = some (plainZeros value) ∧
    ∀ data, Form value data → (decode data : Option α) = decode (encode value)

theorem roundTrips {α : Type} [Wire α] [Format α] [LawfulFormat α] : RoundTrips α := by
  intro value fits
  have read := decode_form value fits
  have read_back := read _ (form_encode value)
  exact ⟨read_back, fun data form => (read data form).trans read_back.symm⟩

namespace Members

/-- Whether members have a field, in one of a number of forms. -/
def Has (members : Members) (name : String) (form : Json → Prop) : Prop :=
  ∃ data, members.get? name = some data ∧ form data

/-- Whether members have every one of a number of fields. -/
def HasAll (members : Members) : List (String × (Json → Prop)) → Prop
  | [] => True
  | (name, form) :: rest => members.Has name form ∧ members.HasAll rest

variable {members : Members} {name : String} {form : Json → Prop} {α : Type} {value : α}
  {decode : Json → Option α}

theorem hasAll_of_forall {fields : List (String × (Json → Prop))}
    (has : ∀ field ∈ fields, members.Has field.1 field.2) : members.HasAll fields := by
  induction fields with
  | nil => trivial
  | cons field rest ih =>
    exact ⟨has field List.mem_cons_self, ih fun f mem => has f (List.mem_cons_of_mem _ mem)⟩

theorem Has.required (has : members.Has name form) (read : ReadAs decode form value) :
    members.required name decode = some value := by
  obtain ⟨data, found, isForm⟩ := has
  rw [Members.required, found]
  exact read data isForm

theorem Has.withDefault (has : members.Has name form) (read : ReadAs decode form value)
    (default : α) : members.withDefault name decode default = some value := by
  obtain ⟨data, found, isForm⟩ := has
  rw [Members.withDefault, found]
  exact read data isForm

theorem Has.optional {value : Option α} (has : members.Has name form)
    (read : ReadAs (nullable? decode) form value) : members.optional name decode = some value := by
  obtain ⟨data, found, isForm⟩ := has
  rw [Members.optional, found]
  exact read data isForm

end Members

/-- A member is found if no other has its name. -/
theorem lookup_of_unique {members : List (String × Json)} {name : String} {data : Json}
    (mem : (name, data) ∈ members)
    (unique : ∀ member ∈ members, member.1 = name → member = (name, data)) :
    members.lookup name = some data := by
  induction members with
  | nil => exact absurd mem List.not_mem_nil
  | cons member rest ih =>
    obtain ⟨other, value⟩ := member
    rw [List.lookup_cons]
    by_cases same : name = other
    · have := unique _ List.mem_cons_self same.symm
      simp_all
    · rw [beq_eq_false_iff_ne.2 same]
      refine ih ?_ fun member mem => unique member (List.mem_cons_of_mem _ mem)
      rcases List.mem_cons.1 mem with here | there
      · exact absurd (congrArg Prod.fst here) same
      · exact there

variable {fields : List (String × (Json → Prop))} {data : Json}

theorem Given.names {given : List (String × Json)} (forms : Given fields given) :
    given.map (·.1) = fields.map (·.1) := by
  induction forms with
  | nil => rfl
  | cons form _ ih => rw [List.map_cons, List.map_cons, form.1, ih]

theorem Given.exists_member {given : List (String × Json)} (forms : Given fields given)
    {field : String × (Json → Prop)} (field_mem : field ∈ fields) :
    ∃ member ∈ given, member.1 = field.1 ∧ field.2 member.2 := by
  induction forms with
  | nil => exact absurd field_mem List.not_mem_nil
  | cons form _ ih =>
    rcases List.mem_cons.1 field_mem with rfl | later
    · exact ⟨_, List.mem_cons_self, form⟩
    · obtain ⟨member, mem, form⟩ := ih later
      exact ⟨member, List.mem_cons_of_mem _ mem, form⟩

/-- The fields of an object are found in whatever order they stand and whatever else stands among
them. -/
theorem exists_lookup {given others members : List (String × Json)}
    (distinct : (fields.map (·.1)).Nodup) (forms : Given fields given)
    (foreign : ∀ other ∈ others, other.1 ∉ fields.map (·.1))
    (perm : members.Perm (given ++ others)) :
    ∀ field ∈ fields, ∃ data, members.lookup field.1 = some data ∧ field.2 data := by
  intro field field_mem
  have given_distinct : (given.map (·.1)).Nodup := Given.names forms ▸ distinct
  obtain ⟨⟨name, data⟩, member_mem, rfl, form⟩ := Given.exists_member forms field_mem
  refine ⟨data, lookup_of_unique (perm.mem_iff.2 (List.mem_append_left _ member_mem)) ?_, form⟩
  intro member mem same
  rcases List.mem_append.1 (perm.mem_iff.1 mem) with here | elsewhere
  · exact List.inj_on_of_nodup_map given_distinct here member_mem same
  · exact absurd (same ▸ List.mem_map_of_mem field_mem) (foreign member elsewhere)

theorem Content.members (content : Content fields data) (distinct : (fields.map (·.1)).Nodup) :
    ∃ members, Members.ofContent? data = some members ∧ members.HasAll fields := by
  obtain ⟨forms, foreign, perm⟩ := content
  exact ⟨_, rfl, Members.hasAll_of_forall (exists_lookup distinct forms foreign perm)⟩

/-- The elements of an array are the fields under their names. -/
theorem given_zip {elements : List Json}
    (forms : List.Forall₂ (fun field element => field.2 element) fields elements) :
    Given fields ((fields.map (·.1)).zip elements) := by
  induction forms with
  | nil => exact .nil
  | cons form _ ih => exact .cons ⟨rfl, form⟩ ih

theorem Record.members (record : Record fields data) (distinct : (fields.map (·.1)).Nodup) :
    ∃ members, Members.of? (fields.map (·.1)) data = some members ∧ members.HasAll fields := by
  cases record with
  | object content =>
    obtain ⟨forms, foreign, perm⟩ := content
    exact ⟨_, rfl, Members.hasAll_of_forall (exists_lookup distinct forms foreign perm)⟩
  | @array elements forms =>
    have length_le : elements.length ≤ (fields.map (·.1)).length := by
      rw [List.length_map]
      exact Nat.le_of_eq forms.length_eq.symm
    have none_foreign : ∀ other ∈ ([] : List (String × Json)), other.1 ∉ fields.map (·.1) :=
      fun _ mem => absurd mem List.not_mem_nil
    exact ⟨_, if_pos (.inl length_le), Members.hasAll_of_forall
      (exists_lookup distinct (given_zip forms) none_foreign (by rw [List.append_nil]))⟩

/-- What is read from the fields of a record is read from the record. -/
theorem Record.decoded {α : Type} {value : α} {names : List String} {next : Members → Option α}
    (record : Record fields data) (names_eq : fields.map (·.1) = names) (distinct : names.Nodup)
    (read : ∀ members : Members, members.HasAll fields → next members = some value) :
    (Members.of? names data >>= next) = some value := by
  subst names_eq
  obtain ⟨members, members_eq, has⟩ := record.members distinct
  rw [members_eq]
  exact read members has

/-- What is read from the fields of a case is read from its content. -/
theorem Content.decoded {α : Type} {value : α} {next : Members → Option α}
    (content : Content fields data) (distinct : (fields.map (·.1)).Nodup)
    (read : ∀ members : Members, members.HasAll fields → next members = some value) :
    (Members.ofContent? data >>= next) = some value := by
  obtain ⟨members, members_eq, has⟩ := content.members distinct
  rw [members_eq]
  exact read members has

/-- An object of the fields alone, in their order. -/
theorem Content.encoded {members : List (String × Json)} (forms : Given fields members) :
    Content fields (.obj members) :=
  ⟨forms, fun _ mem => absurd mem List.not_mem_nil, by rw [List.append_nil]⟩

section Readers

variable {α : Type} {decode : Json → Option α} {form : α → Json → Prop} {change : α → α}

theorem readAs_nat {bits n : Nat} (lt : n < twoTo bits) :
    ReadAs (Json.nat? bits) (· = .ofNat n) n := by
  rintro _ rfl
  have fits : (0 : Int) ≤ n ∧ (n : Int) < twoTo bits := by omega
  simp [Json.nat?, Json.ofNat, fits]

theorem readAs_str (text : String) : ReadAs Json.str? (· = .str text) text := by
  rintro _ rfl
  rfl

theorem readAs_bool (value : Bool) : ReadAs Json.bool? (· = .bool value) value := by
  rintro _ rfl
  rfl

/-- A case without content is read from its name, if it is found under the name. -/
theorem readAs_case {ofName? : String → Option α} {name : String} {value : α}
    (found : ofName? name = some value) :
    ReadAs (fun data => case? ofName? data) (· = .str name) value := by
  rintro _ rfl
  exact found

/-- What is read from the content of a case makes the case. -/
theorem ReadAs.inCase {β : Type} {form : Json → Prop} {value : α} {content : Json}
    (read : ReadAs decode form value) (isForm : form content) (make : α → β) :
    (decode content >>= fun value => pure (make value)) = some (make value) := by
  rw [read content isForm]
  rfl

/-- A value that may be none is read, if no value of its own is written as null. -/
theorem readAs_nullable {value : Option α} (null : decode .null = none)
    (read : ∀ v ∈ value, ReadAs decode (form v) (change v)) :
    ReadAs (nullable? decode) (Optional form value) (value.map change) := by
  intro data isForm
  cases value with
  | none =>
    subst isForm
    rfl
  | some v =>
    have decoded := read v rfl data isForm
    unfold nullable?
    split
    · exact absurd (null.symm.trans decoded) nofun
    · rw [decoded]
      rfl

theorem readAs_list {values : List α} (read : ∀ v ∈ values, ReadAs decode (form v) (change v)) :
    ReadAs (list? decode) (Listed form values) (values.map change) := by
  rintro _ ⟨elements, rfl, forms⟩
  simp only [list?, Json.arr?, Option.bind_eq_bind, Option.bind_some]
  induction forms with
  | nil => rfl
  | cons isForm _ ih =>
    rw [List.mapM_cons, read _ List.mem_cons_self _ isForm,
      ih fun v mem => read v (List.mem_cons_of_mem _ mem)]
    rfl

theorem mapM_eq_some_iff {elements : List Json} {values : List α} :
    elements.mapM decode = some values ↔
      List.Forall₂ (fun value element => decode element = some value) values elements := by
  induction elements generalizing values with
  | nil => simp [eq_comm]
  | cons element rest ih =>
    simp only [List.mapM_cons, Option.bind_eq_bind, Option.bind_eq_some_iff, Option.pure_def,
      Option.some.injEq, List.forall₂_cons_right_iff, ih]
    grind

/-- A list is read if and only if each of its elements is. -/
theorem list?_eq_some_iff {values : List α} {data : Json} :
    list? decode data = some values ↔
      Listed (fun value element => decode element = some value) values data := by
  rw [list?, Option.bind_eq_bind, Option.bind_eq_some_iff]
  exact exists_congr fun elements => and_congr (by cases data <;> simp [Json.arr?]) mapM_eq_some_iff

theorem optional_encode {encode : α → Json} (encoded : ∀ value, form value (encode value))
    (value : Option α) : Optional form value (ofOption encode value) := by
  cases value with
  | none => rfl
  | some value => exact encoded value

theorem listed_encode {encode : α → Json} (encoded : ∀ value, form value (encode value))
    (values : List α) : Listed form values (ofList encode values) :=
  ⟨_, rfl, List.forall₂_map_right_iff.2 (List.forall₂_same.2 fun value _ => encoded value)⟩

theorem readAs_nullable_nat {bits : Nat} {number : Option Nat}
    (lt : ∀ n ∈ number, n < twoTo bits) :
    ReadAs (nullable? (Json.nat? bits)) (Optional (fun n data => data = .ofNat n) number) number := by
  have read := readAs_nullable rfl fun n mem => readAs_nat (lt n mem)
  rwa [Option.map_id'] at read

theorem readAs_list_nat {bits : Nat} {numbers : List Nat} (lt : ∀ n ∈ numbers, n < twoTo bits) :
    ReadAs (list? (Json.nat? bits)) (Listed (fun n data => data = .ofNat n) numbers) numbers := by
  have read := readAs_list fun n mem => readAs_nat (lt n mem)
  rwa [List.map_id'] at read

theorem optional_encode_nat (number : Option Nat) :
    Optional (fun n data => data = .ofNat n) number (ofOption .ofNat number) := by
  cases number <;> rfl

theorem listed_encode_nat (numbers : List Nat) :
    Listed (fun n data => data = .ofNat n) numbers (ofList .ofNat numbers) :=
  ⟨_, rfl, List.forall₂_map_right_iff.2 (List.forall₂_same.2 fun _ _ => rfl)⟩

end Readers

namespace Members.Has

variable {members : Members} {name : String}

theorem nat {bits n : Nat} (has : members.Has name (· = .ofNat n)) (lt : n < twoTo bits) :
    members.required name (Json.nat? bits) = some n :=
  has.required (readAs_nat lt)

theorem str {text : String} (has : members.Has name (· = .str text)) :
    members.required name Json.str? = some text :=
  has.required (readAs_str text)

theorem bool {value : Bool} (has : members.Has name (· = .bool value)) :
    members.required name Json.bool? = some value :=
  has.required (readAs_bool value)

theorem decoded {α : Type} [Wire α] [Format α] [LawfulFormat α] {value : α}
    (has : members.Has name (Form value)) (fits : Fits value) :
    members.required name decode = some (plainZeros value) :=
  has.required (decode_form value fits)

end Members.Has

end AuctionHouse.Wire
