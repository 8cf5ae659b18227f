import QueryAudit.Proofs.Introspection.Trace
import QueryAudit.Proofs.LetterCase
import QueryAudit.Proofs.SettledCalls

/-!
# The names of the functions that the registry chooses

A call names its function, and a schema if it has a qualifier, by identifiers that are folded as the
database folds them: plain ones to lower case, quoted ones not at all. The registry compares schemas
as they are, but it looks the function up in lower case. So it may choose a function whose name
differs from that of the call in letter case, where the database finds none.
-/

namespace QueryAudit

open Query Registry Introspection

theorem lowered_lowered (name : String) : Text.lowered (Text.lowered name) = Text.lowered name := by
  rw [Text.lowered, Text.lowered, String.toList_ofList, Text.lower_lower]

/-- Whether an identifier has the letter case of a name: a plain one has lower case, and a quoted
one has the case in which it is written. -/
def Query.Identifier.InCaseOf (name : String) : Identifier → Prop
  | .plain _ _ _ _ => Text.lowered name = name
  | .quoted inside _ => String.ofList inside = name

/-- Of the names that are equal when letter case does not count, an identifier stands for the one
whose letter case it has. -/
theorem eq_folded_iff_inCaseOf {identifier : Identifier} {name : String}
    (h : Text.lowered name = Text.lowered identifier.folded) :
    name = identifier.folded ↔ identifier.InCaseOf name := by
  cases identifier with
  | quoted inside hne => exact eq_comm
  | plain first others hfirst hothers =>
    have hfolded : (Identifier.plain first others hfirst hothers).folded =
        Text.lowered (String.ofList (first :: others)) := by
      rw [Text.lowered, String.toList_ofList, Identifier.folded]
    rw [hfolded, lowered_lowered] at h
    rw [hfolded, Identifier.InCaseOf, h]
    exact eq_comm

/-- What the registry heeds of the names in a call. -/
structure HeedsNames (snapshot : Snapshot) (form : CallForm) (rewritten : Rewritten)
    (signature : Signature) (description : Description) : Prop where
  /-- The function is in the schema that the qualifier stands for. -/
  schema : ∀ qualifier, form.head.qualifier = some qualifier →
    signature.schemaName = qualifier.schema.folded
  /-- The function has the name of the call when letter case does not count. -/
  alike : FiledByName snapshot →
    Text.lowered signature.name = Text.lowered form.head.name.folded
  /-- It has that very name exactly when the call is written in the letter case of its own. -/
  exact : FiledByName snapshot →
    (signature.name = form.head.name.folded ↔ form.head.name.InCaseOf signature.name)
  /-- In other letter case the name of the call is as good. -/
  otherCase : ∀ name, Text.lowered name = Text.lowered form.head.name.folded →
    Registry.describe snapshot ⟨name, form.call.schemaName, form.call.arguments⟩ rewritten =
      .ok (some description)

/-- A snapshot that is taken from a database files functions under their names in lower case. -/
theorem filedByName_of_taken {catalog : Catalog} {dsn : String} {snapshot : Snapshot}
    (h : (takeSnapshot catalog dsn).1 = .ok (.ok snapshot)) : FiledByName snapshot := by
  obtain ⟨_, _, hbuilt⟩ := exists_built h
  exact hbuilt.filedByName

/-- The names that the registry heeds in a call that it describes by an overload. -/
theorem heedsNames_of_describe {snapshot : Snapshot} {form : CallForm} {rewritten : Rewritten}
    {signature : Signature} {description : Description}
    (hcandidates : candidates snapshot form.call = [signature])
    (h : Registry.describe snapshot form.call rewritten = .ok (some description)) :
    HeedsNames snapshot form rewritten signature description := by
  obtain ⟨before, after, hstored, hfits, _⟩ := candidates_eq_singleton_iff.mp hcandidates
  have halike (hfiled : FiledByName snapshot) :
      Text.lowered signature.name = Text.lowered form.head.name.folded :=
    (hfiled _ _ hstored signature (by simp)).symm
  refine ⟨fun qualifier hqualifier => hfits.2 _ ?_, halike,
    fun hfiled => eq_folded_iff_inCaseOf (halike hfiled), fun name hname => ?_⟩
  · rw [CallForm.call, CallHead.schemaName, hqualifier, Option.map_some]
  · rw [describe_of_lowered_eq hname]
    exact h

/-- **Names of the chosen functions.** A function that the registry chooses for a call is in the
schema that the call names, but it has the name that the call gives only up to letter case. -/
theorem describe_heeds_names {dsn : String} {server : Server} {snapshot : Snapshot}
    {query : String} {description : Description}
    (h : describe dsn server snapshot query = (.ok (.ok description), [])) :
    ∃ form rewritten signature, form.text = query.toList ∧
      rewrite query.toList = .ok rewritten ∧
      candidates snapshot form.call = [signature] ∧
      describeWith signature form.call rewritten = .ok (some description) ∧
      HeedsNames snapshot form rewritten signature description := by
  obtain ⟨form, rewritten, htext, hrewrite, hregistry⟩ := exists_form_of_describe h
  obtain ⟨signature, hcandidates, _, hdescribe⟩ := describe_eq_some hregistry
  exact ⟨form, rewritten, signature, htext, hrewrite, hcandidates, hdescribe,
    heedsNames_of_describe hcandidates hregistry⟩

/-! ## A quoted name in another letter case -/

theorem call_quoted_increment :
    call? "SELECT \"Increment\"(@a)".toList = some ⟨"Increment", none, ["@a"]⟩ := by
  decide +kernel

theorem lowered_increment : Text.lowered "Increment" = Text.lowered "increment" := by
  decide +kernel

theorem describe_quoted_increment :
    describe "" silentServer incrementSnapshot "SELECT \"Increment\"(@a)" =
      (.ok (.ok ⟨[⟨1, some "a", .unknown⟩], [⟨"increment", .unknown, true, false⟩]⟩), []) := by
  have hrewrite : rewrite "SELECT \"Increment\"(@a)".toList =
      .ok ⟨"SELECT \"Increment\"($1)".toList, [(1, "a")]⟩ := by decide +kernel
  exact describe_increment_of_call hrewrite call_quoted_increment lowered_increment

/-- The schema and the letter case of a call that is settled under a quoted name. -/
theorem quoted_increment_heeded :
    describe "" silentServer incrementSnapshot "SELECT \"Increment\"(@a)" =
        (.ok (.ok ⟨[⟨1, some "a", .unknown⟩], [⟨"increment", .unknown, true, false⟩]⟩), []) ∧
      ∃ form rewritten signature, form.text = "SELECT \"Increment\"(@a)".toList ∧
        rewrite "SELECT \"Increment\"(@a)".toList = .ok rewritten ∧
        candidates incrementSnapshot form.call = [signature] ∧
        describeWith signature form.call rewritten =
          .ok (some ⟨[⟨1, some "a", .unknown⟩], [⟨"increment", .unknown, true, false⟩]⟩) ∧
        HeedsNames incrementSnapshot form rewritten signature
          ⟨[⟨1, some "a", .unknown⟩], [⟨"increment", .unknown, true, false⟩]⟩ :=
  ⟨describe_quoted_increment, describe_heeds_names describe_quoted_increment⟩

theorem filedByName_increment : FiledByName incrementSnapshot := by
  intro key stored hstored signature hsignature
  obtain ⟨entry, hentry, hkey, rfl⟩ := Entries.exists_of_get? hstored
  obtain rfl := List.mem_singleton.mp hentry
  obtain rfl := List.mem_singleton.mp hsignature
  obtain rfl := eq_of_beq hkey
  decide +kernel

/-- The quoted name is no function, and the call is described as one of another function. -/
theorem quoted_name_settled_otherwise :
    FiledByName incrementSnapshot ∧
      describe "" silentServer incrementSnapshot "SELECT \"Increment\"(@a)" =
        (.ok (.ok ⟨[⟨1, some "a", .unknown⟩], [⟨"increment", .unknown, true, false⟩]⟩), []) ∧
      ∃ form : CallForm, form.text = "SELECT \"Increment\"(@a)".toList ∧
        form.head.name.folded = "Increment" ∧
        candidates incrementSnapshot form.call = [increment] ∧
        increment.name ≠ form.head.name.folded := by
  obtain ⟨form, htext, hcall⟩ := call?_eq_some_iff_form.mp call_quoted_increment
  have hname : form.head.name.folded = "Increment" := congrArg Call.name hcall
  refine ⟨filedByName_increment, describe_quoted_increment, form, htext, hname, ?_, ?_⟩
  · rw [hcall, candidates_of_lowered_eq lowered_increment, candidates, overloads_increment]
    rfl
  · rw [hname]
    decide

end QueryAudit
