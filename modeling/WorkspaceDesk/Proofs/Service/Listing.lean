import WorkspaceDesk.Proofs.Except
import WorkspaceDesk.Proofs.Json.Nesting
import WorkspaceDesk.Proofs.Text.Utf8
import WorkspaceDesk.Service.Client

/-!
# Failures of listing

Listing the workspaces ends with workspaces or with an error that is reported, except for three kinds of
answers: a request that cannot be sent, a reply that nests containers too deeply, and a reply that lists an
object whose projects are a number or true (`list_reported_iff`).
-/

namespace WorkspaceDesk

open Json Text

/-! ## Values without parts -/

/-- The value says something, but consists of nothing: it is true or a number other than zero. -/
inductive Json.Value.Partless : Value → Prop
  | true : Partless (.bool true)
  | int {n : Int} (h : n ≠ 0) : Partless (.int n)
  | float {x : Decimal.Binary64} (h : x.isZero = false) : Partless (.float x)

theorem Json.parts_eq_error_iff {fields : Fields} {name : String} :
    (∃ e, fields.parts name = .error e) ↔ ∃ v, fields.get? name = some v ∧ v.Partless := by
  unfold Fields.parts Fields.truthy?
  constructor
  · rintro ⟨e, h⟩
    split at h
    · rename_i v hv
      obtain ⟨hget, htruthy⟩ := Option.filter_eq_some_iff.mp hv
      refine ⟨v, hget, ?_⟩
      cases v with
      | null => cases htruthy
      | bool b =>
        obtain rfl : b = true := htruthy
        exact .true
      | int n => exact .int (of_decide_eq_true htruthy)
      | float x => exact .float (Bool.not_eq_true' _ ▸ htruthy)
      | str | arr | obj => cases h
    · cases h
  · rintro ⟨v, hget, hv⟩
    have htruthy : v.isTruthy = true := by
      cases hv with
      | true => rfl
      | int h => exact decide_eq_true h
      | float h => simp [Value.isTruthy, h]
    rw [hget, Option.filter_some, if_pos htruthy]
    cases hv <;> exact ⟨_, rfl⟩

/-! ## Listed workspaces -/

/-- The projects that fields tell of are no list, but a number or true. -/
def Workspace.HasBadProjects (fields : Fields) : Prop :=
  ∃ v, fields.get? "projects" = some v ∧ v.Partless

theorem Workspace.ofFields_eq_error_iff {fields : Fields} :
    (∃ e, Workspace.ofFields fields = .error e) ↔ Workspace.HasBadProjects fields := by
  rw [Workspace.HasBadProjects, ← parts_eq_error_iff, Workspace.ofFields]
  cases fields.parts "projects" <;> simp [Except.map]

namespace Service

/-- The call ends with a result or with an error that is reported. -/
def Reported {α : Type} (r : Except ClientError α) : Prop :=
  (∃ a, r = .ok a) ∨ ∃ e, r = .error e ∧ e.isReported = true

section Reported

variable {α : Type} {e : ClientError}

theorem reported_ok (a : α) : Reported (.ok a : Except ClientError α) :=
  .inl ⟨a, rfl⟩

theorem reported_error_iff : Reported (.error e : Except ClientError α) ↔ e.isReported = true := by
  constructor
  · rintro (⟨a, ha⟩ | ⟨_, he, hreported⟩)
    · cases ha
    · cases he
      exact hreported
  · exact fun h => .inr ⟨e, rfl, h⟩

theorem reported_map_iff {β : Type} {r : Except ClientError α} {f : α → β} :
    Reported (r.map f) ↔ Reported r := by
  cases r with
  | ok a => exact iff_of_true (reported_ok (f a)) (reported_ok a)
  | error e => exact reported_error_iff.trans reported_error_iff.symm

end Reported

namespace Client

/-- The values are those that a reply lists: itself, or one of its fields. -/
inductive Lists : Value → List Value → Prop
  | itself (values : List Value) : Lists (.arr values) values
  | field {fields : Fields} {values : List Value} (h : fields.get? "workspaces" = some (.arr values)) :
    Lists (.obj fields) values

/-- The body of a reply to which listing fails with an error that is not reported. -/
inductive Unreported (room : Room) (body : Bytes) : Prop
  /-- The text nests more containers than there is room for. -/
  | nestedTooDeep {text : List Char} (htext : Utf8.encode text = body)
      (h : NestsBeyond room.levels text)
  /-- The projects of a listed object are a number or true. -/
  | badProjects {text : List Char} {v : Value} {values : List Value} {fields : Fields}
      (htext : Utf8.encode text = body) (hread : Json.read room text = .ok v)
      (hlists : Lists v values) (hmem : .obj fields ∈ values) (h : Workspace.HasBadProjects fields)

/-- The answer to a request upon which listing fails with an error that is not reported. -/
inductive UnreportedAnswer (room : Room) : Except TransportError Bytes → Prop
  | unsendable (reason : String) : UnreportedAnswer room (.error (.invalid reason))
  | body {body : Bytes} (h : Unreported room body) : UnreportedAnswer room (.ok body)

/-! ## Replies -/

variable {room : Room} {v : Value} {values : List Value} {body : Bytes}

/-- Reading the listed workspaces fails just where one of them has bad projects, and this is not
reported. -/
theorem reported_workspacesOf_iff (values : List Value) :
    Reported (workspacesOf values) ↔
      ¬ ∃ fields, .obj fields ∈ values ∧ Workspace.HasBadProjects fields := by
  -- as the values are read: none, a bad workspace, a workspace, a value that is no object
  fun_induction workspacesOf values with
  | case1 => simp [reported_ok]
  | case2 fields rest e he =>
    have hbad := Workspace.ofFields_eq_error_iff.mp ⟨e, he⟩
    simp only [reported_error_iff, ClientError.isReported, Bool.false_eq_true, false_iff, not_not]
    exact ⟨fields, List.mem_cons_self, hbad⟩
  | case3 fields rest w hw ih =>
    have hgood : ¬ Workspace.HasBadProjects fields := by
      rw [← Workspace.ofFields_eq_error_iff, hw]
      simp
    rw [reported_map_iff, ih]
    simp [or_and_right, exists_or, hgood]
  | case4 v rest hv ih =>
    rw [ih]
    have hne : ∀ fields, .obj fields ≠ v := fun fields h => hv fields h.symm
    simp [hne]

theorem isReported_of_listOf {e : ClientError} (h : listOf v = .error e) : e.isReported = true := by
  unfold listOf at h
  split at h
  · cases h
  · split at h <;> cases h
    rfl
  · cases h
    rfl

/-- The list in a reply, if there is anything in it, is what the reply lists. -/
theorem listOf_eq_ok_iff (hne : values ≠ []) : listOf v = .ok values ↔ Lists v values := by
  constructor
  · intro h
    unfold listOf at h
    split at h
    · cases h
      exact .itself values
    · split at h
      · cases h
        exact absurd rfl hne
      · rename_i hfield
        cases h
        exact .field (Option.filter_eq_some_iff.mp hfield).1
      · cases h
    · cases h
  · intro h
    cases h with
    | itself => rfl
    | field h =>
      have htruthy : (Value.arr values).isTruthy = true := by simpa [Value.isTruthy] using hne
      rw [listOf, Fields.truthy?, h, Option.filter_some, if_pos htruthy]

/-- What is read from a reply is listed, or it is refused and this is reported, unless it lists an object
with bad projects. -/
theorem reported_listOf_iff (v : Value) :
    Reported (listOf v >>= workspacesOf) ↔
      ¬ ∃ values fields, Lists v values ∧ .obj fields ∈ values ∧ Workspace.HasBadProjects fields := by
  cases hlist : listOf v with
  | error e =>
    refine iff_of_true (reported_error_iff.mpr (isReported_of_listOf hlist)) ?_
    rintro ⟨values, fields, hlists, hmem, -⟩
    have hok := (listOf_eq_ok_iff (List.ne_nil_of_mem hmem)).mpr hlists
    rw [hlist] at hok
    cases hok
  | ok values =>
    show Reported (workspacesOf values) ↔ _
    rw [reported_workspacesOf_iff, not_iff_not]
    constructor
    · rintro ⟨fields, hmem, hbad⟩
      exact ⟨values, fields, (listOf_eq_ok_iff (List.ne_nil_of_mem hmem)).mp hlist, hmem, hbad⟩
    · rintro ⟨others, fields, hlists, hmem, hbad⟩
      have hok := (listOf_eq_ok_iff (List.ne_nil_of_mem hmem)).mpr hlists
      obtain rfl : values = others := Except.ok.inj (hlist.symm.trans hok)
      exact ⟨fields, hmem, hbad⟩

/-- Whether a reply is one that is not reported is a matter of its text. -/
theorem unreported_iff {text : List Char} (hdecode : Utf8.decode body = .ok text) :
    Unreported room body ↔ NestsBeyond room.levels text ∨ ∃ v, Json.read room text = .ok v ∧
      ∃ values fields, Lists v values ∧ .obj fields ∈ values ∧ Workspace.HasBadProjects fields := by
  have hunique : ∀ other, Utf8.encode other = body → other = text := fun other hother =>
    Except.ok.inj ((Utf8.decode_eq_ok.mpr hother).symm.trans hdecode)
  have htext := Utf8.decode_eq_ok.mp hdecode
  constructor
  · intro h
    cases h with
    | nestedTooDeep hother h =>
      obtain rfl := hunique _ hother
      exact .inl h
    | badProjects hother hread hlists hmem h =>
      obtain rfl := hunique _ hother
      exact .inr ⟨_, hread, _, _, hlists, hmem, h⟩
  · rintro (h | ⟨v, hread, values, fields, hlists, hmem, h⟩)
    · exact .nestedTooDeep htext h
    · exact .badProjects htext hread hlists hmem h

/-- An empty text is refused, but not for its nesting. -/
theorem readWithin_nil (levels : Nat) :
    readWithin levels [] = .error ⟨.expectingValue, 1, 1, 0⟩ :=
  rfl

/-- There is room for an empty list. -/
theorem read_brackets (room : Room) : Json.read room ['[', ']'] = .ok (.arr []) := by
  obtain ⟨more, hmore⟩ := Nat.exists_eq_add_of_le' room.four_le
  rw [Json.read, hmore]
  rfl

/-- A reply lists workspaces, or it is refused and this is reported, unless it is one that is not
reported. -/
theorem reported_parseList_iff (body : Bytes) : Reported (parseList room body) ↔ ¬ Unreported room body := by
  unfold parseList
  cases hdecode : Utf8.decode body with
  | error f =>
    refine iff_of_true (reported_error_iff.mpr rfl) fun h => ?_
    cases h with
    | nestedTooDeep htext | badProjects htext =>
      rw [Utf8.decode_eq_ok.mpr htext] at hdecode
      cases hdecode
  | ok text =>
    dsimp only
    rw [unreported_iff hdecode, not_or]
    cases text with
    | nil =>
      -- an empty reply stands for an empty list
      rw [List.isEmpty_nil, if_pos rfl, read_brackets, nestsBeyond_iff, Json.read, readWithin_nil]
      simp [listOf, workspacesOf, reported_ok]
    | cons c rest =>
      rw [List.isEmpty_cons, if_neg Bool.false_ne_true, nestsBeyond_iff, ← Json.read]
      cases hread : Json.read room (c :: rest) with
      | ok v =>
        simp only [reduceCtorEq, false_and, exists_false, not_false_eq_true, true_and,
          Except.ok.injEq, exists_eq_left']
        rw [← reported_listOf_iff]
        cases listOf v <;> rfl
      | error e =>
        cases hproblem : e.problem <;>
          simp [reported_error_iff, faultOf, hproblem, ClientError.isReported]

/-! ## Calls -/

/-- A client of any address but the empty one lists workspaces or fails with an error that is reported,
unless the answer to its request is one upon which this is not so. -/
theorem list_reported_iff {url : String} (hurl : url ≠ "") (timeout : Value) (room : Room)
    (x : Exchange) :
    ∃ client, ofUrl url timeout = .ok client ∧
      (Reported (client.list room x).2 ↔
        ¬ UnreportedAnswer room (x.send (client.request "GET" listPath)).2) := by
  refine ⟨_, if_neg hurl, ?_⟩
  unfold list call
  dsimp only
  generalize request _ "GET" listPath = r
  obtain ⟨y, answer⟩ := x.send r
  cases answer with
  | ok body =>
    dsimp only
    rw [reported_parseList_iff, not_iff_not]
    exact ⟨.body, fun h => by cases h; assumption⟩
  | error e =>
    dsimp only
    rw [reported_error_iff]
    constructor
    · rintro hreported ⟨reason⟩
      cases hreported
    · intro h
      cases e with
      | invalid reason => exact absurd (.unsendable reason) h
      | status | unreachable | system => rfl

/-! ## Listed projects -/

theorem ne_empty_of_ofFields {fields : Fields} {w : Workspace} (h : Workspace.ofFields fields = .ok w) :
    ∀ project ∈ w.projects, project ≠ "" := by
  obtain ⟨parts, -, rfl⟩ := exists_of_map_eq_ok h
  intro project hproject
  obtain ⟨v, -, hv⟩ := List.mem_filterMap.mp hproject
  exact of_decide_eq_true (Option.filter_eq_some_iff.mp hv).2

theorem ne_empty_of_workspacesOf {workspaces : List Workspace}
    (h : workspacesOf values = .ok workspaces) :
    ∀ w ∈ workspaces, ∀ project ∈ w.projects, project ≠ "" := by
  fun_induction workspacesOf values generalizing workspaces with
  | case1 =>
    cases h
    simp
  | case2 => cases h
  | case3 fields rest w hw ih =>
    obtain ⟨others, hothers, rfl⟩ := exists_of_map_eq_ok h
    intro v hv
    rcases List.mem_cons.mp hv with rfl | hv
    · exact ne_empty_of_ofFields hw
    · exact ih hothers v hv
  | case4 v rest hv ih => exact ih h

/-- Every listed project has a name. -/
theorem ne_empty_of_list {client : Client} {x : Exchange} {workspaces : List Workspace}
    (h : (client.list room x).2 = .ok workspaces) :
    ∀ w ∈ workspaces, ∀ project ∈ w.projects, project ≠ "" := by
  unfold list at h
  split at h
  · cases h
  · unfold parseList at h
    split at h
    · cases h
    split at h
    · cases h
    split at h
    · cases h
    · exact ne_empty_of_workspacesOf h

/-- A line to a service that answers with a text. -/
def lineOf (text : String) : Exchange :=
  ⟨.direct, [.body (Utf8.encode text.toList)], []⟩

/-- What is listed is what the text says. -/
theorem list_lineOf (client : Client) (room : Room) (text : String) :
    (client.list room (lineOf text)).2 = parseList room (Utf8.encode text.toList) :=
  rfl

/-- An id of any kind is shown as a text, and the characters of a text are as good as a list of projects. -/
theorem list_reported_of_text_of_projects :
    let room : Room := ⟨990, by decide⟩
    let x := lineOf "[\x7b\"id\": [null], \"projects\": \"ab\"\x7d, 7]"
    "http://h" ≠ "" ∧ ∃ client, ofUrl "http://h" defaultTimeout = .ok client ∧
      (client.list room x).2 = .ok [⟨"[None]", "", ["a", "b"]⟩] ∧
      ¬ UnreportedAnswer room (x.send (client.request "GET" listPath)).2 := by
  intro room x
  have hurl : "http://h" ≠ "" := by decide
  obtain ⟨client, hclient, hiff⟩ := list_reported_iff hurl defaultTimeout room x
  have hlist : (client.list room x).2 = .ok [⟨"[None]", "", ["a", "b"]⟩] := by
    rw [list_lineOf]
    decide +kernel
  exact ⟨hurl, client, hclient, hlist, hiff.mp (.inl ⟨_, hlist⟩)⟩

/-- A number in the place of projects is refused with an error that is not reported. -/
theorem list_not_reported_of_number_of_projects :
    let room : Room := ⟨990, by decide⟩
    let x := lineOf "[\x7b\"projects\": 5\x7d]"
    ∃ client, ofUrl "http://h" defaultTimeout = .ok client ∧
      (client.list room x).2 = .error (.badWorkspace (.notIterable "int")) ∧
      ¬ Reported (client.list room x).2 := by
  intro room x
  have hlist : ∀ client : Client, (client.list room x).2 = .error (.badWorkspace (.notIterable "int")) := by
    intro client
    rw [list_lineOf]
    decide +kernel
  refine ⟨⟨"http://h", defaultTimeout⟩, rfl, hlist _, ?_⟩
  rw [hlist, reported_error_iff]
  exact Bool.false_ne_true

end Client

end Service

end WorkspaceDesk
