import Mathlib.Data.List.Basic
import Mathlib.Data.List.DropRight
import WorkspaceDesk.Proofs.Text.Percent
import WorkspaceDesk.Service.Client

/-!
# The request that deletes a workspace

Deleting a workspace sends one request. Its URL is the address of the service and a path in which the name of the
workspace is a segment of its own, so that it asks for the removal of this workspace and of no other one
(`remove_sends_removal`).
-/

namespace WorkspaceDesk.Service

open Text

/-- What is sent of a request is what the transport makes of it, if it can be sent at all. -/
theorem Exchange.sent_send (x : Exchange) (r : Request) :
    (x.send r).1.sent = x.sent ++ (x.transport.prepare r).toOption.toList := by
  unfold send
  cases x.transport.prepare r with
  | error e => exact (List.append_nil x.sent).symm
  | ok prepared => cases x.replies with
    | nil => rfl
    | cons reply rest => cases reply <;> rfl

/-- A text is what is left of it without slashes at its end, and slashes. -/
theorem exists_slashes (s : List Char) :
    ∃ slashes, s = trimSlashes s ++ slashes ∧ (∀ c ∈ slashes, c = '/') ∧
      (trimSlashes s).getLast? ≠ some '/' := by
  have htrim : trimSlashes s = s.rdropWhile (· = '/') := rfl
  refine ⟨s.rtakeWhile (· = '/'), ?_, ?_, ?_⟩
  · rw [htrim, List.rdropWhile_append_rtakeWhile]
  · intro c hc
    have hslash := List.mem_rtakeWhile_imp hc
    exact of_decide_eq_true hslash
  · rw [htrim]
    intro hlast
    have hne : s.rdropWhile (· = '/') ≠ [] := by
      intro hnil
      rw [hnil] at hlast
      cases hlast
    rw [List.getLast?_eq_some_getLast hne] at hlast
    exact List.rdropWhile_last_not _ _ hne (decide_eq_true (Option.some.inj hlast))

namespace Client

variable {name other : String} {force otherForce : Bool}

/-- The part of a URL that says whether a removal is forced. -/
def forceQuery (force : Bool) : String :=
  if force then "?force=true" else "?force=false"

theorem removalPath_eq (name : String) (force : Bool) :
    removalPath name force =
      "/workspace/" ++ String.ofList (Percent.encode name.toList) ++ forceQuery force := by
  cases force <;> simp [removalPath, listPath, forceQuery, String.append_assoc]

/-- In the path the name of the workspace ends at the question mark. -/
theorem toList_removalPath (name : String) (force : Bool) :
    (removalPath name force).toList =
      "/workspace/".toList ++ (Percent.encode name.toList ++ '?' :: (forceQuery force).toList.tail) := by
  have hquery : (forceQuery force).toList = '?' :: (forceQuery force).toList.tail := by
    cases force <;> rfl
  have hsegment : (String.ofList (Percent.encode name.toList)).toList = Percent.encode name.toList :=
    String.toList_ofList
  rw [removalPath_eq, String.toList_append, String.toList_append, hsegment, List.append_assoc, ← hquery]

/-- The path tells which workspace to remove, and whether by force. -/
theorem removalPath_inj :
    removalPath name force = removalPath other otherForce ↔ name = other ∧ force = otherForce := by
  constructor
  · intro h
    have hlist := congrArg String.toList h
    rw [toList_removalPath, toList_removalPath, List.append_cancel_left_eq] at hlist
    -- there is one question mark, that before the query
    have hsegment : '?' ∉ Percent.encode name.toList :=
      (Percent.isSegment_encode name.toList).not_mem (by decide) (by decide)
    have hquery : '?' ∉ (forceQuery force).toList.tail := by
      cases force <;> decide
    obtain ⟨hname, -, hforce⟩ := (List.append_cons_inj_of_notMem hsegment hquery).mp hlist
    refine ⟨String.toList_inj.mp (Percent.encode_inj.mp hname), ?_⟩
    revert hforce
    cases force <;> cases otherForce <;> decide
  · rintro ⟨rfl, rfl⟩
    rfl

/-! ## The request -/

/-- The request for the removal of a workspace. -/
def removal (c : Client) (name : String) (force : Bool) : Request :=
  c.request "DELETE" (removalPath name force)

/-- Removing a workspace sends this request, and does nothing else on the line. -/
theorem remove_fst (c : Client) (x : Exchange) (name : String) (force : Bool) :
    (c.remove x name force).1 = (x.send (c.removal name force)).1 := by
  unfold remove call removal
  dsimp only
  obtain ⟨y, answer⟩ := x.send (c.request "DELETE" (removalPath name force))
  cases answer <;> rfl

/-- A client of any address but the empty one removes a workspace by one request. Its URL is the address without
the slashes at its end, the path of workspaces, a segment for the name and the query; the segment has no characters
but unreserved ones and escapes, and stands for the name, so that requests with the same URL are for the same
removal. On a direct line the request is sent as it is, on any other what the transport makes of it. -/
theorem remove_sends_removal {url : String} (hurl : url ≠ "") (timeout : Json.Value) :
    ∃ client, ofUrl url timeout = .ok client ∧
      (∃ slashes, url.toList = client.base.toList ++ slashes ∧ (∀ c ∈ slashes, c = '/') ∧
        client.base.toList.getLast? ≠ some '/') ∧
      (∀ (x : Exchange) (name : String) (force : Bool),
        (x.transport = .direct →
          (client.remove x name force).1.sent = x.sent ++ [client.removal name force]) ∧
        (client.remove x name force).1.sent =
          x.sent ++ (x.transport.prepare (client.removal name force)).toOption.toList) ∧
      (∀ (name : String) (force : Bool), (client.removal name force).method = "DELETE" ∧
        ∃ segment : String, (client.removal name force).url =
            client.base ++ "/workspace/" ++ segment ++ (if force then "?force=true" else "?force=false") ∧
          Percent.IsSegment segment.toList ∧ (∀ c ∈ ['/', '?', '#', '&'], c ∉ segment.toList) ∧
          Percent.decode segment.toList = .ok name.toList) ∧
      ∀ name force other otherForce,
        (client.removal name force).url = (client.removal other otherForce).url →
          name = other ∧ force = otherForce := by
  refine ⟨_, if_neg hurl, ?_, fun x name force => ⟨fun hdirect => ?_, ?_⟩, fun name force => ⟨rfl, ?_⟩, ?_⟩
  · dsimp only
    rw [String.toList_ofList]
    exact exists_slashes url.toList
  · rw [remove_fst, Exchange.sent_send, hdirect]
    rfl
  · rw [remove_fst, Exchange.sent_send]
  · refine ⟨String.ofList (Percent.encode name.toList), ?_, ?_⟩
    · show _ ++ removalPath name force = _
      rw [removalPath_eq, forceQuery, String.append_assoc, String.append_assoc, String.append_assoc]
    · have hsegment := Percent.isSegment_encode name.toList
      rw [String.toList_ofList]
      refine ⟨hsegment, fun c hc => ?_, Percent.decode_encode name.toList⟩
      simp only [List.mem_cons, List.not_mem_nil, or_false] at hc
      rcases hc with rfl | rfl | rfl | rfl <;> exact hsegment.not_mem (by decide) (by decide)
  · intro name force other otherForce h
    exact removalPath_inj.mp ((String.append_right_inj _).mp h)

/-- The slashes at the end of the address are left out, and reserved characters, letters beyond ASCII and the percent
sign are escaped. The same name with an escape in it is another one, and its URL is another one too. -/
theorem remove_sends_removal_of_reserved_characters :
    let x : Exchange := ⟨.direct, [], []⟩
    "http://h//" ≠ "" ∧ ∃ client, ofUrl "http://h//" defaultTimeout = .ok client ∧
      (client.remove x "a/ü%" true).1.sent = [client.removal "a/ü%" true] ∧
      (client.removal "a/ü%" true).url = "http://h/workspace/a%2F%C3%BC%25?force=true" ∧
      (client.removal "a/ü%" true).url ≠ (client.removal "a%2Fü%" true).url := by
  intro x
  have hurl : "http://h//" ≠ "" := by decide
  obtain ⟨client, hclient, -, hsent, -, hinj⟩ := remove_sends_removal hurl defaultTimeout
  refine ⟨hurl, client, hclient, (hsent x "a/ü%" true).1 rfl, ?_, fun h => ?_⟩
  · cases hclient
    decide
  · have hname := (hinj _ _ _ _ h).1
    revert hname
    decide

end Client

end WorkspaceDesk.Service
