import QueryAudit.Proofs.Describe
import QueryAudit.Proofs.Query.BareArguments
import QueryAudit.Proofs.Utf8

/-!
# What is said to the server

A query is refused because of a numeral, or the registry settles it, or it is left to the server.
Only in the last case anything is sent, and how far the conversation goes depends on the answers
alone. The prepared statement is given back whenever there is one. A result always comes back, except
for two queries: one with a numeral that is too long, and one that is rejected with a code that is not
UTF-8.
-/

namespace QueryAudit

open Query

variable {dsn : String} {server : Server} {snapshot : Snapshot} {query : String}
  {rewritten : Rewritten} {description : Description}

/-- The registry settles the query. -/
def SettledAs (snapshot : Snapshot) (query : String) (description : Description) : Prop :=
  ∃ rewritten, rewrite query.toList = .ok rewritten ∧
    Describe.byRegistry snapshot query.toList rewritten = .ok (some description)

/-- The registry leaves the query to the server, with the text that the server gets. -/
def LeftToServer (snapshot : Snapshot) (query : String) (rewritten : Rewritten) : Prop :=
  rewrite query.toList = .ok rewritten ∧
    Describe.byRegistry snapshot query.toList rewritten = .ok none

/-! ## Refused, settled, or left to the server -/

/-- The registry has nothing to refuse in a query that has been rewritten. -/
theorem exists_byRegistry (h : rewrite query.toList = .ok rewritten) :
    ∃ found, Describe.byRegistry snapshot query.toList rewritten = .ok found := by
  obtain ⟨hshort, _⟩ := rewrite_eq_ok_iff.mp h
  cases hcall : call? query.toList with
  | none => exact ⟨none, by rw [Describe.byRegistry, hcall]⟩
  | some call =>
    rw [Describe.byRegistry, hcall]
    refine Registry.exists_describe fun argument hargument => Registry.exists_inspect ?_
    intro error herror
    obtain ⟨digits, htrim, hne, hdigits, hlong⟩ := Registry.barePlaceholder?_eq_error herror
    exact hshort (Or.inl ⟨digits, mem_positionals_of_argument hcall hargument htrim hdigits hne,
      hlong⟩)

/-- A query is refused, or the registry settles it, or it is left to the server. -/
theorem describe_cases (dsn : String) (server : Server) (snapshot : Snapshot) (query : String) :
    (Overlong query.toList ∧
        ∃ error, describe dsn server snapshot query = (.error (.numeral error), [])) ∨
      (∃ description, SettledAs snapshot query description ∧
        describe dsn server snapshot query = (.ok (.ok description), [])) ∨
      ∃ rewritten, LeftToServer snapshot query rewritten ∧
        describe dsn server snapshot query =
          Describe.overServer dsn server snapshot rewritten := by
  by_cases hlong : Overlong query.toList
  · obtain ⟨error, hrewrite⟩ := rewrite_of_overlong hlong
    refine Or.inl ⟨hlong, error, ?_⟩
    simp only [describe, hrewrite]
  · obtain ⟨rewritten, hrewrite⟩ : ∃ rewritten, rewrite query.toList = .ok rewritten :=
      ⟨_, rewrite_of_not_overlong hlong⟩
    obtain ⟨found, hregistry⟩ := @exists_byRegistry snapshot query rewritten hrewrite
    cases found with
    | some description =>
      refine Or.inr (Or.inl ⟨description, ⟨rewritten, hrewrite, hregistry⟩, ?_⟩)
      simp only [describe, hrewrite, hregistry]
    | none =>
      refine Or.inr (Or.inr ⟨rewritten, ⟨hrewrite, hregistry⟩, ?_⟩)
      simp only [describe, hrewrite, hregistry]

theorem LeftToServer.not_overlong (h : LeftToServer snapshot query rewritten) :
    ¬ Overlong query.toList :=
  (rewrite_eq_ok_iff.mp h.1).1

/-- The server gets one text. -/
theorem LeftToServer.unique {other : Rewritten} (h : LeftToServer snapshot query rewritten)
    (hother : LeftToServer snapshot query other) : other = rewritten :=
  Except.ok.inj (hother.1.symm.trans h.1)

theorem SettledAs.not_overlong (h : SettledAs snapshot query description) :
    ¬ Overlong query.toList := by
  obtain ⟨rewritten, hrewrite, _⟩ := h
  exact (rewrite_eq_ok_iff.mp hrewrite).1

/-- The registry settles a query in one way. -/
theorem SettledAs.unique {other : Description} (h : SettledAs snapshot query description)
    (hother : SettledAs snapshot query other) : other = description := by
  obtain ⟨rewritten, hrewrite, hregistry⟩ := h
  obtain ⟨rewritten', hrewrite', hregistry'⟩ := hother
  obtain rfl := Except.ok.inj (hrewrite'.symm.trans hrewrite)
  exact Option.some.inj (Except.ok.inj (hregistry'.symm.trans hregistry))

/-- What the registry settles is not left to the server. -/
theorem LeftToServer.not_settledAs (h : LeftToServer snapshot query rewritten) :
    ¬ SettledAs snapshot query description := by
  rintro ⟨other, hrewrite, hregistry⟩
  obtain rfl := Except.ok.inj (hrewrite.symm.trans h.1)
  rw [h.2] at hregistry
  cases hregistry

/-- What holds of some text that is left to the server holds of the one that is. -/
theorem LeftToServer.exists_iff {P : Rewritten → Prop} (h : LeftToServer snapshot query rewritten) :
    (∃ other, LeftToServer snapshot query other ∧ P other) ↔ P rewritten := by
  constructor
  · rintro ⟨other, hother, hP⟩
    rwa [h.unique hother] at hP
  · exact fun hP => ⟨rewritten, h, hP⟩

/-! ## Up to the statement -/

namespace Server

/-- The server refuses the connection, or the encoding of the connection cannot write the text. -/
def Fails (server : Server) (text : List Char) : Prop :=
  server.refusal ≠ none ∨ ∃ reason, server.encoding.encode text = .error reason

/-- The server accepts the connection, and the text has these octets. -/
def Takes (server : Server) (text : List Char) (octets : Text.Octets) : Prop :=
  server.refusal = none ∧ server.encoding.encode text = .ok octets

variable {text : List Char} {octets : Text.Octets}

theorem Takes.not_fails (h : server.Takes text octets) : ¬ server.Fails text := by
  rintro (hrefusal | ⟨reason, hencode⟩)
  · exact hrefusal h.1
  · rw [h.2] at hencode
    cases hencode

/-- A text has one encoding. -/
theorem Takes.takes_iff {octets' : Text.Octets} (h : server.Takes text octets) :
    server.Takes text octets' ↔ octets' = octets := by
  constructor
  · intro h'
    exact Except.ok.inj (h'.2.symm.trans h.2)
  · rintro rfl
    exact h

/-- The server takes a text, or it fails before. -/
theorem fails_or_takes (server : Server) (text : List Char) :
    server.Fails text ∨ ∃ octets, server.Takes text octets := by
  cases hrefusal : server.refusal with
  | some message => exact Or.inl (Or.inl (by simp [hrefusal]))
  | none =>
    cases hencode : server.encoding.encode text with
    | error reason => exact Or.inl (Or.inr ⟨reason, hencode⟩)
    | ok octets => exact Or.inr ⟨octets, hrefusal, hencode⟩

end Server

/-- A failure before the statement is a rejection, and only the connection has been asked for. -/
theorem overServer_of_fails (h : server.Fails rewritten.text) :
    ∃ rejection, Describe.overServer dsn server snapshot rewritten =
      (.ok (.error rejection), [.connect dsn]) := by
  unfold Describe.overServer
  split
  · exact ⟨_, rfl⟩
  · rename_i hrefusal
    rcases h with hsome | ⟨reason, hencode⟩
    · exact absurd hrefusal hsome
    · simp only [hencode]
      exact ⟨_, rfl⟩

/-- A text that is taken is prepared, and described and given back when it was accepted. -/
theorem overServer_of_takes {octets : Text.Octets} (h : server.Takes rewritten.text octets) :
    Describe.overServer dsn server snapshot rewritten =
      (Describe.afterAnswer rewritten.text (server.prepare rewritten.text) fun _ =>
          Describe.afterAnswer rewritten.text (server.describe rewritten.text) fun report =>
            .ok (.ok (Describe.description snapshot server.encoding rewritten report)),
        [.connect dsn, .prepare octets] ++
          if (server.prepare rewritten.text).isAccepted then [.describe, .deallocate] else []) := by
  obtain ⟨hrefusal, hencode⟩ := h
  simp only [Describe.overServer, hrefusal, hencode]

/-- What has been sent when the query was left to the server. -/
theorem sent_overServer_cases (dsn : String) (server : Server) (snapshot : Snapshot)
    (rewritten : Rewritten) :
    (server.Fails rewritten.text ∧
        (Describe.overServer dsn server snapshot rewritten).2 = [.connect dsn]) ∨
      ∃ octets, server.Takes rewritten.text octets ∧
        ((server.prepare rewritten.text).isAccepted = false ∧
            (Describe.overServer dsn server snapshot rewritten).2 =
              [.connect dsn, .prepare octets] ∨
          (server.prepare rewritten.text).isAccepted = true ∧
            (Describe.overServer dsn server snapshot rewritten).2 =
              [.connect dsn, .prepare octets, .describe, .deallocate]) := by
  rcases server.fails_or_takes rewritten.text with hfails | ⟨octets, htakes⟩
  · obtain ⟨rejection, hover⟩ := @overServer_of_fails dsn server snapshot rewritten hfails
    exact Or.inl ⟨hfails, by rw [hover]⟩
  · refine Or.inr ⟨octets, htakes, ?_⟩
    rw [overServer_of_takes htakes]
    cases (server.prepare rewritten.text).isAccepted
    · exact Or.inl ⟨rfl, rfl⟩
    · exact Or.inr ⟨rfl, rfl⟩

theorem sent_overServer_eq_connect_iff :
    (Describe.overServer dsn server snapshot rewritten).2 = [.connect dsn] ↔
      server.Fails rewritten.text := by
  rcases sent_overServer_cases dsn server snapshot rewritten with ⟨hfails, hsent⟩ |
    ⟨octets, htakes, ⟨_, hsent⟩ | ⟨_, hsent⟩⟩
  · simp [hsent, hfails]
  · simp [hsent, htakes.not_fails]
  · simp [hsent, htakes.not_fails]

theorem sent_overServer_eq_prepare_iff {octets : Text.Octets} :
    (Describe.overServer dsn server snapshot rewritten).2 = [.connect dsn, .prepare octets] ↔
      server.Takes rewritten.text octets ∧
        (server.prepare rewritten.text).isAccepted = false := by
  rcases sent_overServer_cases dsn server snapshot rewritten with ⟨hfails, hsent⟩ |
    ⟨octets', htakes, ⟨haccepted, hsent⟩ | ⟨haccepted, hsent⟩⟩
  · have hnot : ¬ server.Takes rewritten.text octets := fun htakes => htakes.not_fails hfails
    simp [hsent, hnot]
  · simp [hsent, haccepted, htakes.takes_iff, eq_comm]
  · simp [hsent, haccepted]

theorem sent_overServer_eq_describe_iff {octets : Text.Octets} :
    (Describe.overServer dsn server snapshot rewritten).2 =
        [.connect dsn, .prepare octets, .describe, .deallocate] ↔
      server.Takes rewritten.text octets ∧ (server.prepare rewritten.text).isAccepted = true := by
  rcases sent_overServer_cases dsn server snapshot rewritten with ⟨hfails, hsent⟩ |
    ⟨octets', htakes, ⟨haccepted, hsent⟩ | ⟨haccepted, hsent⟩⟩
  · have hnot : ¬ server.Takes rewritten.text octets := fun htakes => htakes.not_fails hfails
    simp [hsent, hnot]
  · simp [hsent, haccepted]
  · simp [hsent, haccepted, htakes.takes_iff, eq_comm]

/-! ## The answers -/

theorem Answer.isAccepted_iff {answer : Answer} :
    answer.isAccepted = true ↔ ∃ report, answer = .reports report ∧ report.accepted = true := by
  cases answer <;> simp [isAccepted]

namespace Describe

variable {text : List Char} {answer : Answer} {next : Report → Except Fault Described}

/-- A description comes from a step that was accepted. -/
theorem afterAnswer_eq_description_iff :
    afterAnswer text answer next = .ok (.ok description) ↔
      ∃ report, answer = .reports report ∧ report.accepted = true ∧
        next report = .ok (.ok description) := by
  constructor
  · intro h
    cases answer with
    | breaks message => cases h
    | reports report =>
      rw [afterAnswer] at h
      split at h
      · rename_i haccepted
        exact ⟨report, rfl, haccepted, h⟩
      · cases hrejection : rejection text report with
        | error fault =>
          rw [hrejection] at h
          cases h
        | ok rejection =>
          rw [hrejection] at h
          cases h
  · rintro ⟨report, rfl, haccepted, h⟩
    rw [afterAnswer, if_pos haccepted, h]

end Describe

/-- When the server gives a description, it has accepted both steps. -/
theorem accepted_of_overServer
    (h : (Describe.overServer dsn server snapshot rewritten).1 = .ok (.ok description)) :
    (server.prepare rewritten.text).isAccepted = true ∧
      ∃ report, server.describe rewritten.text = .reports report ∧ report.accepted = true ∧
        description = Describe.description snapshot server.encoding rewritten report := by
  rcases server.fails_or_takes rewritten.text with hfails | ⟨octets, htakes⟩
  · obtain ⟨rejection, hover⟩ := @overServer_of_fails dsn server snapshot rewritten hfails
    rw [hover] at h
    cases h
  · rw [overServer_of_takes htakes] at h
    obtain ⟨prepared, hprepare, haccepted, h⟩ := Describe.afterAnswer_eq_description_iff.mp h
    obtain ⟨report, hdescribe, hdescribed, h⟩ := Describe.afterAnswer_eq_description_iff.mp h
    refine ⟨Answer.isAccepted_iff.mpr ⟨prepared, hprepare, haccepted⟩, report, hdescribe,
      hdescribed, ?_⟩
    exact (Except.ok.inj (Except.ok.inj h)).symm

/-! ## The conversation -/

/-- How a description and what is sent for it depend on the registry and on the server. -/
structure Converses (dsn : String) (server : Server) (snapshot : Snapshot) (query : String)
    (result : Except Fault Described) (sent : List Sent) : Prop where
  /-- The conversation ends in one of four places. -/
  ends : sent = [] ∨ sent = [.connect dsn] ∨
    (∃ octets, sent = [.connect dsn, .prepare octets]) ∨
    ∃ octets, sent = [.connect dsn, .prepare octets, .describe, .deallocate]
  /-- What the registry settles is described by it. -/
  settled : ∀ description, SettledAs snapshot query description → result = .ok (.ok description)
  /-- A numeral that is too long is refused. -/
  refused : Overlong query.toList → ∃ error, result = .error (.numeral error)
  /-- Nothing is sent in these two cases only. -/
  silent : sent = [] ↔
    (∃ description, SettledAs snapshot query description) ∨ Overlong query.toList
  /-- No statement is prepared when connecting fails or the text cannot be encoded. -/
  connects : sent = [.connect dsn] ↔
    ∃ rewritten, LeftToServer snapshot query rewritten ∧
      (server.refusal ≠ none ∨ ∃ reason, server.encoding.encode rewritten.text = .error reason)
  /-- A statement that is not accepted is the end. -/
  prepares : ∀ octets, sent = [.connect dsn, .prepare octets] ↔
    ∃ rewritten, LeftToServer snapshot query rewritten ∧ server.refusal = none ∧
      server.encoding.encode rewritten.text = .ok octets ∧
      (server.prepare rewritten.text).isAccepted = false
  /-- A statement that is accepted is described and given back, whatever the description is. -/
  describes : ∀ octets, sent = [.connect dsn, .prepare octets, .describe, .deallocate] ↔
    ∃ rewritten, LeftToServer snapshot query rewritten ∧ server.refusal = none ∧
      server.encoding.encode rewritten.text = .ok octets ∧
      (server.prepare rewritten.text).isAccepted = true
  /-- A statement is given back if and only if it was prepared and accepted. -/
  givenBack : .deallocate ∈ sent ↔ ∃ rewritten octets, LeftToServer snapshot query rewritten ∧
    .prepare octets ∈ sent ∧ (server.prepare rewritten.text).isAccepted = true
  /-- It is given back once. -/
  once : sent.count .deallocate ≤ 1
  /-- A description comes from the server only when both steps were accepted. -/
  accepted : ∀ description, sent ≠ [] → result = .ok (.ok description) →
    ∃ rewritten report, LeftToServer snapshot query rewritten ∧
      (server.prepare rewritten.text).isAccepted = true ∧
      server.describe rewritten.text = .reports report ∧ report.accepted = true ∧
      description = Describe.description snapshot server.encoding rewritten report

/-- Nothing is said about a query that is not left to the server. -/
theorem converses_of_not_left {result : Except Fault Described}
    (hleft : ∀ rewritten, ¬ LeftToServer snapshot query rewritten)
    (hsettled : ∀ description, SettledAs snapshot query description →
      result = .ok (.ok description))
    (hrefused : Overlong query.toList → ∃ error, result = .error (.numeral error))
    (heither : (∃ description, SettledAs snapshot query description) ∨ Overlong query.toList) :
    Converses dsn server snapshot query result [] where
  ends := Or.inl rfl
  settled := hsettled
  refused := hrefused
  silent := by simp [heither]
  connects := by simp [hleft]
  prepares := by simp [hleft]
  describes := by simp [hleft]
  givenBack := by simp
  once := by simp
  accepted := fun _ h => absurd rfl h

/-- A query that is left to the server is asked for until an answer ends it. -/
theorem LeftToServer.converses (h : LeftToServer snapshot query rewritten) :
    Converses dsn server snapshot query (Describe.overServer dsn server snapshot rewritten).1
      (Describe.overServer dsn server snapshot rewritten).2 where
  ends := by
    rcases sent_overServer_cases dsn server snapshot rewritten with ⟨_, hsent⟩ |
      ⟨octets, _, ⟨_, hsent⟩ | ⟨_, hsent⟩⟩
    · exact Or.inr (Or.inl hsent)
    · exact Or.inr (Or.inr (Or.inl ⟨octets, hsent⟩))
    · exact Or.inr (Or.inr (Or.inr ⟨octets, hsent⟩))
  settled := fun _ hsettled => absurd hsettled h.not_settledAs
  refused := fun hlong => absurd hlong h.not_overlong
  silent := by
    have hsettled : ¬ ∃ description, SettledAs snapshot query description :=
      fun ⟨_, hsettled⟩ => h.not_settledAs hsettled
    simp [sent_overServer_ne_nil, hsettled, h.not_overlong]
  connects := by
    rw [h.exists_iff]
    exact sent_overServer_eq_connect_iff
  prepares := by
    intro octets
    rw [h.exists_iff, ← and_assoc]
    exact sent_overServer_eq_prepare_iff
  describes := by
    intro octets
    rw [h.exists_iff, ← and_assoc]
    exact sent_overServer_eq_describe_iff
  givenBack := by
    rw [exists_comm]
    simp only [h.exists_iff]
    rcases sent_overServer_cases dsn server snapshot rewritten with ⟨_, hsent⟩ |
      ⟨octets, _, ⟨haccepted, hsent⟩ | ⟨haccepted, hsent⟩⟩
    · simp [hsent]
    · simp [hsent, haccepted]
    · simp [hsent, haccepted]
  once := by
    rcases sent_overServer_cases dsn server snapshot rewritten with ⟨_, hsent⟩ |
      ⟨octets, _, ⟨_, hsent⟩ | ⟨_, hsent⟩⟩
    · simp [hsent]
    · simp [hsent]
    · simp [hsent]
  accepted := by
    intro description _ hresult
    obtain ⟨hprepare, report, hdescribe, haccepted, hdescription⟩ := accepted_of_overServer hresult
    exact ⟨rewritten, report, h, hprepare, hdescribe, haccepted, hdescription⟩

/-- The conversation about a query ends in one of four places, and the registry and the answers say
in which. -/
theorem describe_converses (dsn : String) (server : Server) (snapshot : Snapshot)
    (query : String) :
    Converses dsn server snapshot query (describe dsn server snapshot query).1
      (describe dsn server snapshot query).2 := by
  rcases describe_cases dsn server snapshot query with ⟨hlong, error, hdescribe⟩ |
    ⟨description, hsettled, hdescribe⟩ | ⟨rewritten, hleft, hdescribe⟩
  · rw [hdescribe]
    exact converses_of_not_left (fun rewritten h => h.not_overlong hlong)
      (fun _ h => absurd hlong h.not_overlong) (fun _ => ⟨error, rfl⟩) (Or.inr hlong)
  · rw [hdescribe]
    refine converses_of_not_left (fun rewritten h => h.not_settledAs hsettled) ?_
      (fun hlong => absurd hlong hsettled.not_overlong) (Or.inl ⟨description, hsettled⟩)
    intro other hother
    rw [hsettled.unique hother]
  · rw [hdescribe]
    exact hleft.converses

/-! ## Results that come back -/

/-- The code in a report, if there is one, is the UTF-8 of some text. -/
def Report.Readable (report : Report) : Prop :=
  ∀ code, Describe.said? report.sqlState = some code → ∃ text, code = Text.utf8 text

/-- The report with which the server rejects a text, when it is prepared or when it is described. -/
def Server.RejectsWith (server : Server) (text : List Char) (report : Report) : Prop :=
  (∃ octets, server.Takes text octets) ∧ report.accepted = false ∧
    (server.prepare text = .reports report ∨
      (server.prepare text).isAccepted = true ∧ server.describe text = .reports report)

namespace Describe

variable {text : List Char} {answer : Answer} {report : Report}
  {next : Report → Except Fault Described}

/-- A rejection can be told when its code can be read. -/
theorem exists_rejection_iff :
    (∃ told, rejection text report = .ok told) ↔ report.Readable := by
  unfold rejection Report.Readable
  cases hsaid : said? report.sqlState with
  | none => simp
  | some code =>
    cases hcode : Text.utf8Strict code with
    | ok text =>
      have hutf8 := Text.utf8Strict_eq_ok_iff.mp hcode
      simp only [hcode, Except.ok.injEq, exists_eq', true_iff]
      rintro code ⟨⟩
      exact ⟨text, hutf8⟩
    | error error =>
      have hnot : ¬ ∃ text, code = Text.utf8 text := by
        rintro ⟨text, hutf8⟩
        rw [Text.utf8Strict_eq_ok_iff.mpr hutf8] at hcode
        cases hcode
      simp only [hcode, reduceCtorEq, exists_false, false_iff]
      exact fun hreadable => hnot (hreadable code rfl)

/-- A step has a result when its rejection can be told or what follows it has a result. -/
theorem exists_afterAnswer_iff :
    (∃ described, afterAnswer text answer next = .ok described) ↔
      ∀ report, answer = .reports report →
        (report.accepted = false → report.Readable) ∧
          (report.accepted = true → ∃ described, next report = .ok described) := by
  cases answer with
  | breaks message => simp [afterAnswer]
  | reports report =>
    simp only [Answer.reports.injEq, forall_eq', afterAnswer]
    cases haccepted : report.accepted with
    | true => simp
    | false =>
      rw [← @exists_rejection_iff text report]
      cases rejection text report <;> simp [Except.map]

end Describe

/-- The server path has a result unless a rejection cannot be told. -/
theorem exists_overServer_iff :
    (∃ described, (Describe.overServer dsn server snapshot rewritten).1 = .ok described) ↔
      ∀ report, server.RejectsWith rewritten.text report → report.Readable := by
  rcases server.fails_or_takes rewritten.text with hfails | ⟨octets, htakes⟩
  · obtain ⟨rejection, hover⟩ := @overServer_of_fails dsn server snapshot rewritten hfails
    rw [hover]
    constructor
    · rintro - report ⟨⟨octets, htakes⟩, -⟩
      exact absurd hfails htakes.not_fails
    · exact fun _ => ⟨_, rfl⟩
  · rw [overServer_of_takes htakes]
    simp only [Describe.exists_afterAnswer_iff]
    constructor
    · rintro h report ⟨_, hrejected, hprepare | ⟨haccepted, hdescribe⟩⟩
      · exact (h report hprepare).1 hrejected
      · obtain ⟨prepared, hprepare, hprepared⟩ := Answer.isAccepted_iff.mp haccepted
        exact ((h prepared hprepare).2 hprepared report hdescribe).1 hrejected
    · intro h prepared hprepare
      constructor
      · intro hrejected
        exact h prepared ⟨⟨octets, htakes⟩, hrejected, Or.inl hprepare⟩
      · intro hprepared report hdescribe
        refine ⟨fun hrejected => ?_, fun _ => ⟨_, rfl⟩⟩
        have haccepted := Answer.isAccepted_iff.mpr ⟨prepared, hprepare, hprepared⟩
        exact h report ⟨⟨octets, htakes⟩, hrejected, Or.inr ⟨haccepted, hdescribe⟩⟩

/-- Describing a query gives a result, except when a numeral of the query is too long or the server
rejects the query with a code that is not UTF-8. -/
theorem describe_returns_iff (dsn : String) (server : Server) (snapshot : Snapshot)
    (query : String) :
    (∃ described, (describe dsn server snapshot query).1 = .ok described) ↔
      ¬ Overlong query.toList ∧ ∀ rewritten report, LeftToServer snapshot query rewritten →
        server.RejectsWith rewritten.text report → report.Readable := by
  rcases describe_cases dsn server snapshot query with ⟨hlong, error, hdescribe⟩ |
    ⟨description, hsettled, hdescribe⟩ | ⟨rewritten, hleft, hdescribe⟩
  · rw [hdescribe]
    simp [hlong]
  · rw [hdescribe]
    have hleft : ∀ rewritten, ¬ LeftToServer snapshot query rewritten :=
      fun rewritten h => h.not_settledAs hsettled
    simp [hsettled.not_overlong, hleft]
  · rw [hdescribe, exists_overServer_iff]
    constructor
    · intro h
      refine ⟨hleft.not_overlong, fun other report hother hrejects => h report ?_⟩
      rwa [← hleft.unique hother]
    · intro h report hrejects
      exact h.2 rewritten report hleft hrejects

/-- A server that rejects every statement with a code that is not UTF-8. -/
def garblingServer : Server :=
  ⟨none, .utf8,
    fun _ => .reports ⟨false, some (Text.utf8 "boom".toList), some [0xFF], none, [], []⟩,
    fun _ => .breaks "closed"⟩

theorem not_exists_afterAnswer_garbled {text : List Char}
    {next : Report → Except Fault Described} :
    ¬ ∃ described, Describe.afterAnswer text (garblingServer.prepare text) next =
      .ok described := by
  intro hreturned
  have hreadable := (Describe.exists_afterAnswer_iff.mp hreturned _ rfl).1 rfl
  obtain ⟨text, hutf8⟩ := hreadable [0xFF] rfl
  have hstrict := Text.utf8Strict_eq_ok_iff.mpr hutf8
  have hfault : Text.utf8Strict [0xFF] = .error ⟨0, [0xFF], .badStart⟩ := by decide
  rw [hfault] at hstrict
  cases hstrict

/-- Its rejection does not come back. -/
theorem garbled_rejection_not_returned : ¬ ∃ described,
    (describe "" garblingServer ⟨[], [], [], []⟩ "SELECT 1").1 = .ok described := by
  have hrewrite : rewrite "SELECT 1".toList = .ok ⟨"SELECT 1".toList, []⟩ := by decide +kernel
  have hcall : call? "SELECT 1".toList = none := by decide +kernel
  have hencode : Encoding.utf8.encode "SELECT 1".toList = .ok (Text.utf8 "SELECT 1".toList) := by
    decide +kernel
  unfold describe
  -- Nothing else about the text counts, and it is not to be computed.
  generalize "SELECT 1".toList = text at hrewrite hcall hencode ⊢
  have htakes : garblingServer.Takes text (Text.utf8 text) := ⟨rfl, hencode⟩
  have hover := @overServer_of_takes "" garblingServer ⟨[], [], [], []⟩ ⟨text, []⟩ _ htakes
  simp only [hrewrite, Describe.byRegistry, hcall, hover]
  exact not_exists_afterAnswer_garbled

end QueryAudit
