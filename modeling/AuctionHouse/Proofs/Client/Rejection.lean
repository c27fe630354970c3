import AuctionHouse.Client.Error
import AuctionHouse.Proofs.Json.Text
import AuctionHouse.Proofs.Wire.Forms

/-!
# Rejections at a client

A node writes why it refuses a request, and a client reads it.  The two have nothing in common but a
code and data of which a client expects a list of violations.  The main result is that a rejection
arrives as a rejection with its message and its violations, and every other refusal as an error of
the node (`rejections_arrive`).
-/

namespace AuctionHouse

open Wire

/-- An error as it arrives: its data are the value of their text. -/
def RpcError.received (error : RpcError) : RpcError :=
  { error with data := error.data.bind fun data => Json.ofText? data.text }

/-- Whether data tell of a violation: an object with its rule, its field and its message among other
members, or an array of these three and nothing else. -/
inductive ViolationReport.ToldBy (report : ViolationReport) : Json → Prop
  | object {members : List (String × Json)} (rule : members.lookup "rule" = some (.str report.rule))
      (field : members.lookup "field" = some (.str report.field))
      (message : members.lookup "message" = some (.str report.message)) :
      report.ToldBy (.obj members)
  | array : report.ToldBy (.arr [.str report.rule, .str report.field, .str report.message])

/-- Whether an error comes with a list of violations as its data. -/
def RpcError.Tells (error : RpcError) (reports : List ViolationReport) : Prop :=
  ∃ data, error.data = some data ∧ Listed ViolationReport.ToldBy reports data

section Reading

theorem str?_eq_some_iff {data : Json} {text : String} :
    data.str? = some text ↔ data = .str text := by
  cases data <;> simp [Json.str?]

theorem required_str_eq_some_iff {members : Members} {name text : String} :
    members.required name Json.str? = some text ↔ members.get? name = some (.str text) := by
  simp [Members.required, Option.bind_eq_some_iff, str?_eq_some_iff]

/-- Data are read as a violation if and only if they tell of it. -/
theorem decode_eq_some_iff {report : ViolationReport} {data : Json} :
    decode data = some report ↔ report.ToldBy data := by
  have found_iff : decode data = some report ↔
      ∃ members, Members.of? ["rule", "field", "message"] data = some members ∧
        members.get? "rule" = some (.str report.rule) ∧
        members.get? "field" = some (.str report.field) ∧
        members.get? "message" = some (.str report.message) := by
    obtain ⟨rule, field, message⟩ := report
    simp [decode, Option.bind_eq_some_iff, required_str_eq_some_iff]
  rw [found_iff]
  constructor
  · rintro ⟨members, members_eq, rule, field, message⟩
    cases data with
    | obj given =>
      cases members_eq
      exact .object rule field message
    | arr elements =>
      match elements with
      | [] | [_] | [_, _] =>
        cases members_eq
        exact absurd message nofun
      | [_, _, _] =>
        cases members_eq
        cases rule
        cases field
        cases message
        exact .array
      | a :: b :: c :: d :: more =>
        have too_long : Members.of? ["rule", "field", "message"] (.arr (a :: b :: c :: d :: more)) =
            none := by
          rw [Members.of?, if_neg]
          rintro (short | file)
          · simp only [List.length_cons, List.length_nil] at short
            omega
          · cases file
        cases too_long.symm.trans members_eq
    | null | bool | int | float | str => cases members_eq
  · rintro (⟨rule, field, message⟩ | _)
    · exact ⟨_, rfl, rule, field, message⟩
    · exact ⟨_, rfl, rfl, rfl, rfl⟩

end Reading

/-- The violations that a client finds are those that an error comes with. -/
theorem tells_iff {error : RpcError} {reports : List ViolationReport} :
    error.Tells reports ↔ error.data.bind (list? decode) = some reports := by
  simp only [RpcError.Tells, Option.bind_eq_some_iff, list?_eq_some_iff, decode_eq_some_iff]

/-- An error with the code of rejections is taken for one, with the violations that it comes with
or with none. -/
theorem ofRpc_of_code {error : RpcError} (code : error.code = RpcError.validationCode) :
    (∀ reports, error.Tells reports →
      ClientError.ofRpc error = .rejected error.message reports) ∧
    ((¬ ∃ reports, error.Tells reports) →
      ClientError.ofRpc error = .rejected error.message []) := by
  constructor
  · intro reports tells
    rw [ClientError.ofRpc, if_pos code, tells_iff.1 tells, Option.getD_some]
  · intro silent
    have unread : error.data.bind (list? decode) = none :=
      Option.eq_none_iff_forall_ne_some.2 fun reports read => silent ⟨reports, tells_iff.2 read⟩
    rw [ClientError.ofRpc, if_pos code, unread, Option.getD_none]

/-- The data of a rejection tell of its violations. -/
theorem tells_ofRefusal (violations : List Violation) :
    (RpcError.ofRefusal (.rejected violations)).Tells (violations.map Violation.report) :=
  ⟨_, rfl, listed_encode (fun _ => .object rfl rfl rfl) _⟩

/-- The members of a violation in the order of their names. -/
def ViolationReport.sortedMembers (report : ViolationReport) : List (String × Json) :=
  [("field", .str report.field), ("message", .str report.message), ("rule", .str report.rule)]

/-- A violation is read back from its text, with its members in the order of their names. -/
theorem readBack_violation (report : ViolationReport) :
    Json.ReadBack 1 (encode report) (.obj report.sortedMembers) := by
  let members : List (String × Json) :=
    [("rule", .str report.rule), ("field", .str report.field), ("message", .str report.message)]
  have members_back : Json.MembersReadBack 0 members members :=
    List.forall₂_same.2 (by simp [members, Json.readBack_str])
  have field_rule : "field" < "rule" := by decide
  have message_rule : "message" < "rule" := by decide
  have not_message_field : ¬ "message" < "field" := by decide
  have message_ne_field : ¬ "message" = "field" := by decide
  have sorted : report.sortedMembers = Json.inNameOrder members := by
    simp only [members, Json.inNameOrder, List.foldl_cons, List.foldl_nil, Json.setMember,
      if_pos field_rule, if_neg not_message_field, if_neg message_ne_field, if_pos message_rule]
    rfl
  rw [sorted]
  exact Json.ReadBack.obj members_back

/-- The data of a rejection tell of its violations also when they are read from their text. -/
theorem tells_received_ofRefusal (violations : List Violation) :
    (RpcError.ofRefusal (.rejected violations)).received.Tells
      (violations.map Violation.report) := by
  have read_back : Json.ReadBack 2 (ofList encode (violations.map Violation.report))
      (.arr (violations.map fun violation => .obj violation.report.sortedMembers)) := by
    refine Json.ReadBack.arr ?_
    rw [List.map_map, List.forall₂_map_left_iff, List.forall₂_map_right_iff, List.forall₂_same]
    exact fun violation _ => readBack_violation violation.report
  refine ⟨_, read_back.ofText? (by decide), _, rfl, ?_⟩
  rw [List.forall₂_map_left_iff, List.forall₂_map_right_iff, List.forall₂_same]
  exact fun violation _ => .object rfl rfl rfl

/-- A client makes a rejection of an error if and only if it has the code of rejections. -/
theorem ofRpc_eq_rejected_iff {error : RpcError} :
    (∃ message reports, ClientError.ofRpc error = .rejected message reports) ↔
      error.code = RpcError.validationCode := by
  unfold ClientError.ofRpc
  split
  · next code => simp [code]
  · next other => simp [other]

end AuctionHouse
