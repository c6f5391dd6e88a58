import WorkspaceDesk.Proofs.Profile.Rows
import WorkspaceDesk.Prompt.Choice

/-!
# Passwords stay secret

Whatever is typed at a table of profiles and however its window changes, nothing of a password comes out but
its length, and not even that where the password is hidden: tables of profiles that agree in all the rest run
alike (`tables_keep_passwords`).
-/

namespace WorkspaceDesk.Prompt

open Table Terminal

variable {profiles others : List Profile}

/-- The offer to create a profile is the same behind both lists. -/
theorem forall₂_choices (h : List.Forall₂ Profile.SameButSecret profiles others) (offerNew : Bool) :
    List.Forall₂ Profile.SameButSecret (choices profiles offerNew) (choices others offerNew) := by
  unfold choices
  split
  · exact List.rel_append h (.cons (.refl _) .nil)
  · exact h

/-- The table is all that a run gets to see of profiles, and it is the same. -/
theorem profileListing_eq (h : List.Forall₂ Profile.SameButSecret profiles others) (activeId : String)
    (selectable : Bool) :
    profileListing others activeId selectable = profileListing profiles activeId selectable := by
  rw [profileListing, Profile.rows_eq h, Profile.activeIndex_eq h, profileListing]

/-- Of profiles that agree in everything but their passwords, and in the lengths of those that are not hidden,
tables print the same text, erase the same lines and yield the same result, shown as they are or browsed in
any way. -/
theorem tables_keep_passwords (h : List.Forall₂ Profile.SameButSecret profiles others) (link : Link)
    (console : Console) (activeId : String) :
    showProfiles link console profiles activeId = showProfiles link console others activeId ∧
      ∀ (source : Source) (title : String) (offerNew : Bool),
        chooseProfile link console source profiles activeId title offerNew =
          chooseProfile link console source others activeId title offerNew := by
  constructor
  · rw [showProfiles, showProfiles, profileListing_eq h]
  · intro source title offerNew
    rw [chooseProfile, chooseProfile, profileListing_eq (forall₂_choices h offerNew)]

/-- A password of the built-in profile, one that a key hides, and another one of four letters are replaced. -/
theorem tables_keep_passwords_of_three :
    let secret (id password : String) (key : Option String) : Profile :=
      ⟨id, "n", "h", 22, ⟨"u", some password, key⟩, ""⟩
    let profiles := [Profile.builtIn, secret "k" "old" (some ""), secret "a" "left" none]
    let others := [Profile.builtIn.withPassword (some "x"), (secret "k" "" (some "")).withPassword none,
      secret "a" "late" none]
    profiles ≠ others ∧ List.Forall₂ Profile.SameButSecret profiles others ∧
      ∀ (link : Link) (source : Source),
        showProfiles link (.plain 80) profiles "a" = showProfiles link (.plain 80) others "a" ∧
          chooseProfile link (.plain 80) source profiles "a" "Choose" true =
            chooseProfile link (.plain 80) source others "a" "Choose" true := by
  intro secret profiles others
  have hsecrets : List.Forall₂ Profile.SameButSecret profiles others :=
    .cons ⟨some "x", rfl, .inl (.inr (.inl rfl))⟩ <| .cons ⟨none, rfl, .inl (.inl rfl)⟩ <|
      .cons ⟨some "late", rfl, .inr (by decide)⟩ .nil
  refine ⟨by decide, hsecrets, fun link source => ?_⟩
  obtain ⟨hshown, hchosen⟩ := tables_keep_passwords hsecrets link (.plain 80) "a"
  exact ⟨hshown, hchosen source "Choose" true⟩

end WorkspaceDesk.Prompt
